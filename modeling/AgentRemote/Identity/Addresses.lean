import AgentRemote.Identity.Finality

/-!
# When WireGuard addresses are unique

The address of a new peer is that of the number of peers counted before it, modulo 200. Two
peers that were made for counts of the same remainder have the same address, and no others.
-/

namespace AgentRemote.Identity
open Library PortForwards

/-- The count and the identifier of the peer that an operation makes. -/
def IdentityTx.makes (settings : IdentitySettings) (seen : ℕ → IdentityDb) (db : IdentityDb) :
    IdentityTx → Option (ℕ × Uuid)
  | .registerDevice r =>
    if (seen 0).getRegistration r.userId r.requestId = none then
      (Identity.registerDevice settings seen db r).toOption.bind fun result =>
        if knownPeer seen result.2.device = none ∧ r.wireguardKey.isSome then
          some ((seen 4).wireguardPeers.length, db.nextId + 2)
        else none
    else none
  | .enrollWireguardPeer r =>
    (Identity.enrollWireguardPeer settings seen db r).toOption.bind fun result =>
      if result.2.id = db.nextId then some ((seen 2).wireguardPeers.length, db.nextId) else none
  | _ => none

/-- The peer whose key a registration writes over, and the key that it writes. -/
def IdentityTx.rewrites (settings : IdentitySettings) (seen : ℕ → IdentityDb) (db : IdentityDb) :
    IdentityTx → Option (Uuid × Text)
  | .registerDevice r =>
    if (seen 0).getRegistration r.userId r.requestId = none then
      (Identity.registerDevice settings seen db r).toOption.bind fun result =>
        r.wireguardKey.bind fun publicKey =>
          ((knownPeer seen result.2.device).filter (·.publicKey ≠ publicKey)).map fun peer =>
            (peer.id, publicKey)
    else none
  | _ => none

/-- The addresses of the active peers. -/
def IdentityDb.activeAddresses (db : IdentityDb) : List WireGuardAddress :=
  (db.wireguardPeers.filter fun p => p.status = .active).map WireGuardPeer.ipAddress

/-- Active peers have addresses of their own, and registrations do not fail for the number of
peers, which is what their fourth statement counts. -/
structure AddressesUnique (settings : IdentitySettings)
    (S : Transactions IdentityDb IdentityTx IdentityAnswer)
    (schedule : List (Scheduled IdentityTx)) : Prop where
  unique : ∀ c ∈ S.commits schedule, (S.after c).activeAddresses.Nodup
  unfailing : ∀ c ∈ S.commits schedule, ∀ r, c.tx = .registerDevice r →
    (c.seen 0).getRegistration r.userId r.requestId = none →
    ∀ counted, (registerDevice settings (Function.update c.seen 4 counted) c.before r).isOk =
      (registerDevice settings c.seen c.before r).isOk

/-- A peer is made for a count of another remainder than those of the peers still active. -/
def CountsApart (settings : IdentitySettings)
    (S : Transactions IdentityDb IdentityTx IdentityAnswer)
    (schedule : List (Scheduled IdentityTx)) : Prop :=
  (S.commits schedule).Pairwise fun later earlier => ∀ n n' id id',
    earlier.tx.makes settings earlier.seen earlier.before = some (n, id) →
    later.tx.makes settings later.seen later.before = some (n', id') →
    (∃ p ∈ later.before.wireguardPeers, p.id = id ∧ p.status = .active) → n % 200 ≠ n' % 200

/-- What an operation does to the peers. -/
inductive PeersChange (made : Option (ℕ × Uuid)) (written : Option (Uuid × Text))
    (db db' : IdentityDb) : Prop
  | same : made = none → written = none → db'.wireguardPeers = db.wireguardPeers →
    PeersChange made written db db'
  | added (n : ℕ) (p : WireGuardPeer) : made = some (n, p.id) → written = none →
    db'.wireguardPeers = db.wireguardPeers ++ [p] → p.ipAddress = nextWireguardIp n →
    p.status = .active → db.nextId ≤ p.id → p.id < db'.nextId → PeersChange made written db db'
  | rewritten (id : Uuid) (publicKey : Text) : made = none → written = some (id, publicKey) →
    db'.wireguardPeers = (db.wireguardPeers.map fun p =>
      if p.id = id then { p with publicKey := publicKey } else p) → PeersChange made written db db'
  | rotated (old : WireGuardPeer) (publicKey : Text) : made = none → written = none →
    old ∈ db.wireguardPeers → old.status = .active →
    db'.wireguardPeers = replace WireGuardPeer.id db.wireguardPeers (old.rotate publicKey) →
    PeersChange made written db db'
  | revoked (ids : List Uuid) : made = none → written = none →
    db'.wireguardPeers = (db.wireguardPeers.map fun p =>
      if p.id ∈ ids then { p with status := .revoked } else p) → PeersChange made written db db'
  | removed (keep : WireGuardPeer → Bool) : made = none → written = none →
    db'.wireguardPeers = db.wireguardPeers.filter keep → PeersChange made written db db'

/-- What an operation keeps of a peer. -/
structure WireGuardPeer.Keeps (p p' : WireGuardPeer) : Prop where
  id : p'.id = p.id
  ipAddress : p'.ipAddress = p.ipAddress
  active : p'.status = .active → p.status = .active

/-- What an operation makes of the peers. -/
inductive PeersMove (made : Option (ℕ × Uuid)) (db db' : IdentityDb) : Prop
  | kept (g : WireGuardPeer → Option WireGuardPeer) : made = none →
    db'.wireguardPeers = db.wireguardPeers.filterMap g →
    (∀ p ∈ db.wireguardPeers, ∀ p' ∈ g p, p.Keeps p') → PeersMove made db db'
  | made (n : ℕ) (p : WireGuardPeer) : made = some (n, p.id) →
    db'.wireguardPeers = db.wireguardPeers ++ [p] → p.ipAddress = nextWireguardIp n →
    p.status = .active → db.nextId ≤ p.id → p.id < db'.nextId → PeersMove made db db'

section

variable {settings : IdentitySettings} {forwardSettings : PortForwardSettings}
  {seen : ℕ → IdentityDb} {db db' : IdentityDb} {t : IdentityTx} {made : Option (ℕ × Uuid)}
  {p p' : WireGuardPeer}

lemma WireGuardPeer.Keeps.refl (p : WireGuardPeer) : p.Keeps p := ⟨rfl, rfl, fun h => h⟩

lemma peersMove_same (hmade : made = none) (h : db'.wireguardPeers = db.wireguardPeers) :
    PeersMove made db db' :=
  .kept some hmade (by rw [h, List.filterMap_some]) fun p _ p' hp' =>
    Option.some.inj hp' ▸ .refl p

lemma peersMove_map {f : WireGuardPeer → WireGuardPeer} (hmade : made = none)
    (h : db'.wireguardPeers = db.wireguardPeers.map f)
    (hf : ∀ p ∈ db.wireguardPeers, p.Keeps (f p)) : PeersMove made db db' := by
  refine .kept (some ∘ f) hmade ?_ ?_
  · rw [h, List.filterMap_eq_map]
  · intro p hp p' hp'
    exact Option.some.inj hp' ▸ hf p hp

lemma peersMove_filter {keep : WireGuardPeer → Bool} (hmade : made = none)
    (h : db'.wireguardPeers = db.wireguardPeers.filter keep) : PeersMove made db db' := by
  refine .kept (Option.guard keep) hmade ?_ fun p _ p' hp' => ?_
  · rw [h, ← List.filterMap_eq_filter]
  · obtain ⟨rfl, -⟩ := Option.guard_eq_some_iff.mp hp'
    exact .refl _

lemma withPeer_congr {r : RegisterDevice} {device : PortForwards.UserDevice} {new : Uuid}
    (h : db'.wireguardPeers = db.wireguardPeers) :
    (withPeer seen r device new db').wireguardPeers =
      (withPeer seen r device new db).wireguardPeers := by
  unfold withPeer
  split
  · exact h
  · split
    · split_ifs
      · exact h
      · rw [h]
    · rw [h]

variable (settings seen db) in
lemma registered_peers (r : RegisterDevice) (device : PortForwards.UserDevice) :
    (registered settings seen db r device).wireguardPeers =
      (withPeer seen r device (db.nextId + 2) db).wireguardPeers := by
  have hpeers : (withPeer seen r device (db.nextId + 2)
      (withSshKey seen r device (db.nextId + 1) (withDevice db r device))).wireguardPeers =
        (withPeer seen r device (db.nextId + 2) db).wireguardPeers := by
    apply withPeer_congr
    unfold withSshKey withDevice
    split <;> split_ifs <;> rfl
  exact hpeers

/-- The identifiers of the peers were drawn, each once. -/
structure IdentityDb.PeersDrawn (db : IdentityDb) : Prop where
  nodup : (db.wireguardPeers.map WireGuardPeer.id).Nodup
  ids : ∀ p ∈ db.wireguardPeers, p.id < db.nextId

lemma peersChange_registerDevice {r : RegisterDevice} :
    PeersChange ((IdentityTx.registerDevice r).makes settings seen db)
      ((IdentityTx.registerDevice r).rewrites settings seen db) db
      ((IdentityTx.registerDevice r).commit settings forwardSettings seen db).1 := by
  simp only [IdentityTx.commit, IdentityTx.makes, IdentityTx.rewrites]
  cases hop : registerDevice settings seen db r with
  | error e => exact .same (by simp [Except.toOption]) (by simp [Except.toOption]) rfl
  | ok x =>
    rcases registerDevice_eq_ok hop with ⟨hsome, hdb'⟩ | ⟨hnone, -, hdb'⟩
    · have hnew : (seen 0).getRegistration r.userId r.requestId ≠ none := fun h => by
        simp [h] at hsome
      rw [IdentityDb.settle, hdb', if_neg hnew, if_neg hnew]
      exact .same rfl rfl rfl
    · have hpeers := registered_peers settings seen db r x.2.device
      rw [IdentityDb.settle, hdb', if_pos hnone, if_pos hnone]
      unfold withPeer at hpeers
      cases hkey : r.wireguardKey with
      | none =>
        rw [hkey] at hpeers
        exact .same (by simp [Except.toOption]) (by simp [Except.toOption]) hpeers
      | some publicKey =>
        rw [hkey] at hpeers
        cases hknown : knownPeer seen x.2.device with
        | none =>
          rw [hknown] at hpeers
          refine .added _ _ ?_ (by simp [Except.toOption, hknown]) hpeers rfl rfl
            (Nat.le_add_right _ 2) ?_
          · simp [Except.toOption, hknown, newPeer]
          · rw [(registered_forwarding settings seen db r x.2.device).2.2]
            exact Nat.add_lt_add_left (by decide) _
        | some peer =>
          simp only [hknown] at hpeers
          by_cases hsame : peer.publicKey = publicKey
          · rw [if_pos hsame] at hpeers
            exact .same (by simp [Except.toOption, hknown])
              (by simp [Except.toOption, hknown, hsame]) hpeers
          · rw [if_neg hsame] at hpeers
            exact .rewritten peer.id publicKey (by simp [Except.toOption, hknown])
              (by simp [Except.toOption, hknown, hsame]) hpeers

lemma peersChange_enrollWireguardPeer (hdb : db.PeersDrawn) {r : EnrollPeer} :
    PeersChange ((IdentityTx.enrollWireguardPeer r).makes settings seen db) none db
      ((IdentityTx.enrollWireguardPeer r).commit settings forwardSettings seen db).1 := by
  simp only [IdentityTx.commit, IdentityTx.makes]
  cases hop : enrollWireguardPeer settings seen db r with
  | error e => exact .same rfl rfl rfl
  | ok x =>
    rcases enrollWireguardPeer_eq_ok hop with ⟨-, ⟨publicKey, hpeer⟩, hdb'⟩ |
      ⟨old, hold, hactive, -, hpeer, hdb'⟩
    · have hid : x.2.id = db.nextId := by
        rw [hpeer]
        rfl
      rw [IdentityDb.settle, hdb']
      refine .added (seen 2).wireguardPeers.length x.2 ?_ rfl rfl ?_ ?_ hid.ge ?_
      · simp [Except.toOption, hid]
      · rw [hpeer]
        rfl
      · rw [hpeer]
        rfl
      · rw [hid]
        exact Nat.lt_succ_self _
    · have hid : x.2.id = old.id := by
        rw [hpeer]
        rfl
      have hmade : x.2.id ≠ db.nextId := hid ▸ (hdb.ids old hold).ne
      rw [IdentityDb.settle, hdb']
      refine .rotated old r.publicKey (by simp [Except.toOption, hmade]) rfl hold hactive ?_
      rw [← hpeer]

/-- What a transaction does to the peers. -/
lemma peersChange_of_commit (hdb : db.PeersDrawn) :
    PeersChange (t.makes settings seen db) (t.rewrites settings seen db) db
      (t.commit settings forwardSettings seen db).1 := by
  cases t with
  | registerDevice r => exact peersChange_registerDevice
  | enrollWireguardPeer r => exact peersChange_enrollWireguardPeer hdb
  | rotateDeviceToken actor deviceId =>
    simp only [IdentityTx.commit]
    cases hop : rotateDeviceToken settings seen db actor deviceId with
    | error e => exact .same rfl rfl rfl
    | ok x =>
      obtain ⟨tokens, userId, now, -, hdb'⟩ := rotateDeviceToken_eq_ok hop
      rw [IdentityDb.settle, hdb']
      exact .same rfl rfl rfl
  | refreshToken tokenId =>
    simp only [IdentityTx.commit]
    cases hop : refreshToken settings seen db tokenId with
    | error e => exact .same rfl rfl rfl
    | ok x =>
      obtain ⟨old, -, -, -, -, hdb'⟩ := refreshToken_eq_ok hop
      rw [IdentityDb.settle, hdb']
      exact .same rfl rfl rfl
  | revokeDevice actor deviceId =>
    simp only [IdentityTx.commit]
    cases hop : revokeDevice seen db actor deviceId with
    | error e => exact .same rfl rfl rfl
    | ok x =>
      rw [IdentityDb.settle, revokeDevice_eq_ok hop]
      exact .revoked _ rfl rfl rfl
  | deleteDevice actor deviceId hasWorkspaces hasHistory =>
    simp only [IdentityTx.commit]
    cases hop : deleteDevice seen db actor deviceId hasWorkspaces hasHistory with
    | error e => exact .same rfl rfl rfl
    | ok x =>
      rw [IdentityDb.settle, deleteDevice_eq_ok hop]
      exact .removed _ rfl rfl rfl
  | admitAttachment r =>
    simp only [IdentityTx.commit]
    cases hop : admitAttachment seen db r with
    | error e => exact .same rfl rfl rfl
    | ok x =>
      obtain ⟨-, -, -, sessionId, hdb'⟩ := admitAttachment_eq_ok hop
      rw [IdentityDb.settle, hdb']
      exact .same rfl rfl rfl
  | forward t => exact .same rfl rfl rfl

lemma peersMove_of_change {written : Option (Uuid × Text)} (hdb : db.PeersDrawn)
    (h : PeersChange made written db db') : PeersMove made db db' := by
  cases h with
  | same hmade _ hpeers => exact peersMove_same hmade hpeers
  | added n p hmade _ hpeers haddress hactive hle hlt =>
    exact .made n p hmade hpeers haddress hactive hle hlt
  | rewritten id publicKey hmade _ hpeers =>
    refine peersMove_map hmade hpeers fun p _ => ?_
    split_ifs <;> exact ⟨rfl, rfl, fun h => h⟩
  | rotated old publicKey hmade _ hold hactive hpeers =>
    refine peersMove_map hmade hpeers fun p hp => ?_
    split_ifs with h
    · obtain rfl := eq_of_key_eq hdb.nodup hp hold h
      exact ⟨rfl, rfl, fun _ => hactive⟩
    · exact .refl p
  | revoked ids hmade _ hpeers =>
    refine peersMove_map hmade hpeers fun p _ => ?_
    split_ifs
    · exact ⟨rfl, rfl, nofun⟩
    · exact .refl p
  | removed keep hmade _ hpeers => exact peersMove_filter hmade hpeers

lemma peersMove_of_commit (hdb : db.PeersDrawn) :
    PeersMove (t.makes settings seen db) db (t.commit settings forwardSettings seen db).1 :=
  peersMove_of_change hdb (peersChange_of_commit hdb)

/-! ### Rows after an operation -/

lemma filterMap_addresses {rows : List WireGuardPeer} {g : WireGuardPeer → Option WireGuardPeer}
    (h : ∀ p ∈ rows, ∀ p' ∈ g p, p.Keeps p') :
    ((rows.filterMap g).map WireGuardPeer.id).Sublist (rows.map WireGuardPeer.id) ∧
    (((rows.filterMap g).filter fun p => p.status = .active).map WireGuardPeer.ipAddress).Sublist
      ((rows.filter fun p => p.status = .active).map WireGuardPeer.ipAddress) := by
  induction rows with
  | nil => exact ⟨.slnil, .slnil⟩
  | cons p rows ih =>
    obtain ⟨hids, haddresses⟩ := ih fun p hp => h p (List.mem_cons_of_mem _ hp)
    have hrest : ((rows.filterMap g).filter fun p => p.status = .active).map
        WireGuardPeer.ipAddress |>.Sublist
          (((p :: rows).filter fun p => p.status = .active).map WireGuardPeer.ipAddress) :=
      haddresses.trans (((List.sublist_cons_self p rows).filter _).map _)
    cases hg : g p with
    | none =>
      rw [List.filterMap_cons_none hg]
      exact ⟨hids.cons _, hrest⟩
    | some p' =>
      have hkeeps := h p List.mem_cons_self p' hg
      rw [List.filterMap_cons_some hg]
      refine ⟨?_, ?_⟩
      · rw [List.map_cons, List.map_cons, hkeeps.id]
        exact hids.cons_cons _
      · by_cases hactive : p'.status = .active
        · rw [List.filter_cons_of_pos (by simpa using hactive),
            List.filter_cons_of_pos (by simpa using hkeeps.active hactive), List.map_cons,
            List.map_cons, hkeeps.ipAddress]
          exact haddresses.cons_cons _
        · rw [List.filter_cons_of_neg (by simpa using hactive)]
          exact hrest

lemma PeersMove.drawn (h : PeersMove made db db') (hdb : db.PeersDrawn)
    (hn : db.nextId ≤ db'.nextId) : db'.PeersDrawn := by
  cases h with
  | kept g _ hpeers hg =>
    have hids := (filterMap_addresses hg).1
    refine ⟨?_, fun p' hp' => ?_⟩
    · rw [hpeers]
      exact hdb.nodup.sublist hids
    · rw [hpeers] at hp'
      obtain ⟨p, hp, heq⟩ := List.mem_filterMap.mp hp'
      rw [(hg p hp p' heq).id]
      exact (hdb.ids p hp).trans_le hn
  | made n p _ hpeers _ _ hle hlt =>
    refine ⟨?_, fun p' hp' => ?_⟩
    · rw [hpeers, List.map_append, List.nodup_append]
      refine ⟨hdb.nodup, List.nodup_singleton _, fun a ha b hb => ?_⟩
      obtain ⟨q, hq, rfl⟩ := List.mem_map.mp ha
      rw [List.mem_singleton.mp hb]
      exact ((hdb.ids q hq).trans_le hle).ne
    · rw [hpeers, List.mem_append, List.mem_singleton] at hp'
      rcases hp' with hp' | rfl
      · exact (hdb.ids p' hp').trans_le hn
      · exact hlt

/-- Addresses stay unique unless a new peer gets that of an active one. -/
lemma PeersMove.unique_iff (h : PeersMove made db db') (hdb : db.activeAddresses.Nodup) :
    db'.activeAddresses.Nodup ↔ ∀ n id, made = some (n, id) →
      ∀ p ∈ db.wireguardPeers, p.status = .active → p.ipAddress ≠ nextWireguardIp n := by
  cases h with
  | kept g hmade hpeers hg =>
    refine iff_of_true ?_ fun n id h => ?_
    · rw [IdentityDb.activeAddresses, hpeers]
      exact hdb.sublist (filterMap_addresses hg).2
    · rw [hmade] at h
      cases h
  | made n new hmade hpeers haddress hactive _ _ =>
    have hafter : db'.activeAddresses = db.activeAddresses ++ [nextWireguardIp n] := by
      rw [IdentityDb.activeAddresses, hpeers, List.filter_append,
        List.filter_cons_of_pos (by simpa using hactive), List.filter_nil, List.map_append,
        List.map_singleton, haddress]
      rfl
    have hmem : nextWireguardIp n ∈ db.activeAddresses ↔ ∃ p ∈ db.wireguardPeers,
        p.status = .active ∧ p.ipAddress = nextWireguardIp n := by
      simp [IdentityDb.activeAddresses, and_assoc]
    rw [hafter, ← List.concat_eq_append, List.nodup_concat, hmem]
    constructor
    · rintro ⟨hfree, -⟩ m id heq p hp hstatus hsame
      obtain ⟨rfl, -⟩ := Prod.mk.inj (Option.some.inj (hmade.symm.trans heq))
      exact hfree ⟨p, hp, hstatus, hsame⟩
    · intro hfree
      refine ⟨?_, hdb⟩
      rintro ⟨p, hp, hstatus, hsame⟩
      exact hfree n new.id hmade p hp hstatus hsame

end

/-! ### Runs -/

section

variable {settings : IdentitySettings} {forwardSettings : PortForwardSettings}
  {world : ForwardWorld} {clock : Instant} {schedule : List (Scheduled IdentityTx)}

lemma nextId_of_commit {t : IdentityTx} {seen : ℕ → IdentityDb} {db : IdentityDb}
    (hdb : db.Sound) : db.nextId ≤ (t.commit settings forwardSettings seen db).1.nextId :=
  (forwarding_of_commit hdb.forwarding).2

lemma nextWireguardIp_inj {n n' : ℕ} :
    nextWireguardIp n = nextWireguardIp n' ↔ n % 200 = n' % 200 := by
  simp [nextWireguardIp]

/-- The peers of a run were made by its operations. -/
structure PeersMade (settings : IdentitySettings)
    (S : Transactions IdentityDb IdentityTx IdentityAnswer)
    (schedule : List (Scheduled IdentityTx)) : Prop where
  drawn : (S.state schedule).PeersDrawn
  ids : ∀ c ∈ S.commits schedule, ∀ n id, c.tx.makes settings c.seen c.before = some (n, id) →
    id < (S.state schedule).nextId
  made : ∀ p ∈ (S.state schedule).wireguardPeers, ∃ c ∈ S.commits schedule, ∃ n,
    c.tx.makes settings c.seen c.before = some (n, p.id)
  address : ∀ p ∈ (S.state schedule).wireguardPeers, ∀ c ∈ S.commits schedule, ∀ n,
    c.tx.makes settings c.seen c.before = some (n, p.id) → p.ipAddress = nextWireguardIp n

lemma peersMove_next (s : Scheduled IdentityTx)
    (h : ((identity settings forwardSettings world clock).state schedule).PeersDrawn) :
    PeersMove (((identity settings forwardSettings world clock).next schedule s).tx.makes settings
        ((identity settings forwardSettings world clock).next schedule s).seen
        ((identity settings forwardSettings world clock).next schedule s).before)
      ((identity settings forwardSettings world clock).state schedule)
      ((identity settings forwardSettings world clock).state (s :: schedule)) := by
  rw [Transactions.state_cons]
  exact peersMove_of_commit h

variable (settings forwardSettings world clock schedule) in
theorem peersMade :
    PeersMade settings (identity settings forwardSettings world clock) schedule := by
  induction schedule with
  | nil =>
    exact ⟨⟨List.nodup_nil, fun p hp => absurd hp List.not_mem_nil⟩,
      fun c hc => absurd hc List.not_mem_nil, fun p hp => absurd hp List.not_mem_nil,
      fun p hp => absurd hp List.not_mem_nil⟩
  | cons s earlier ih =>
    have hmove := peersMove_next s ih.drawn
    have hnext : ((identity settings forwardSettings world clock).state earlier).nextId ≤
        ((identity settings forwardSettings world clock).state (s :: earlier)).nextId := by
      rw [Transactions.state_cons]
      exact nextId_of_commit (identity_ran.sound 0)
    have hdrawn := hmove.drawn ih.drawn hnext
    generalize hstate : (identity settings forwardSettings world clock).state (s :: earlier) = db'
      at hmove hnext hdrawn
    refine ⟨hstate ▸ hdrawn, ?_, ?_, ?_⟩
    · intro c hc n id hmakes
      rw [hstate]
      rw [Transactions.commits_cons, List.mem_cons] at hc
      rcases hc with rfl | hc
      · cases hmove with
        | kept g hnone => exact absurd (hmakes.symm.trans hnone) nofun
        | made m p hsome _ _ _ _ hlt =>
          obtain ⟨-, rfl⟩ := Prod.mk.inj (Option.some.inj (hmakes.symm.trans hsome))
          exact hlt
      · exact (ih.ids c hc n id hmakes).trans_le hnext
    · intro p' hp'
      rw [hstate] at hp'
      rw [Transactions.commits_cons]
      have hold : ∀ p ∈ ((identity settings forwardSettings world clock).state
          earlier).wireguardPeers, ∃ c ∈ (identity settings forwardSettings world clock).next
            earlier s :: (identity settings forwardSettings world clock).commits earlier, ∃ n,
          c.tx.makes settings c.seen c.before = some (n, p.id) := fun p hp => by
        obtain ⟨c, hc, n, hmakes⟩ := ih.made p hp
        exact ⟨c, List.mem_cons_of_mem _ hc, n, hmakes⟩
      cases hmove with
      | kept g _ hpeers hg =>
        rw [hpeers] at hp'
        obtain ⟨p, hp, heq⟩ := List.mem_filterMap.mp hp'
        rw [(hg p hp p' heq).id]
        exact hold p hp
      | made n p hsome hpeers =>
        rw [hpeers, List.mem_append, List.mem_singleton] at hp'
        rcases hp' with hp' | rfl
        · exact hold p' hp'
        · exact ⟨_, List.mem_cons_self, n, hsome⟩
    · intro p' hp' c hc n hmakes
      rw [hstate] at hp'
      rw [Transactions.commits_cons, List.mem_cons] at hc
      cases hmove with
      | kept g hnone hpeers hg =>
        rw [hpeers] at hp'
        obtain ⟨p, hp, heq⟩ := List.mem_filterMap.mp hp'
        have hkeeps := hg p hp p' heq
        rw [hkeeps.ipAddress]
        rcases hc with rfl | hc
        · exact absurd (hmakes.symm.trans hnone) nofun
        · exact ih.address p hp c hc n (hkeeps.id ▸ hmakes)
      | made m new hsome hpeers haddress _ hle _ =>
        rw [hpeers, List.mem_append, List.mem_singleton] at hp'
        rcases hc with rfl | hc
        · obtain ⟨rfl, hid⟩ := Prod.mk.inj (Option.some.inj (hmakes.symm.trans hsome))
          rcases hp' with hp' | rfl
          · exact absurd (ih.drawn.ids p' hp') (not_lt.mpr (hid ▸ hle))
          · exact haddress
        · rcases hp' with hp' | rfl
          · exact ih.address p' hp' c hc n hmakes
          · exact absurd (ih.ids c hc n _ hmakes) (not_lt.mpr hle)

/-- The number of peers decides no failure. -/
lemma registerDevice_isOk {seen : ℕ → IdentityDb} {db : IdentityDb} {r : RegisterDevice}
    (h : (seen 0).getRegistration r.userId r.requestId = none) (counted : IdentityDb) :
    (registerDevice settings (Function.update seen 4 counted) db r).isOk =
      (registerDevice settings seen db r).isOk := by
  have hdevice : registeredDevice (Function.update seen 4 counted) db r =
      registeredDevice seen db r := rfl
  have hpeer : knownPeer (Function.update seen 4 counted) = knownPeer seen := rfl
  have htokens : replacedTokens (Function.update seen 4 counted) r = replacedTokens seen r := rfl
  have hseen : (Function.update seen 4 counted 0).getRegistration r.userId r.requestId = none := h
  unfold registerDevice
  rw [h, hseen]
  dsimp only
  rw [hdevice, hpeer, htokens]
  cases registeredDevice seen db r with
  | error e => rfl
  | ok device =>
    simp only [ok_bind]
    by_cases hfinds : ¬db.Finds r.intent.existingDeviceId.toList []
        ((knownPeer seen device).toList.map WireGuardPeer.id) (replacedTokens seen r device)
    · rw [reject_of hfinds]
      rfl
    · rw [reject_of_not hfinds]
      by_cases huser : db.getUser r.userId = none
      · rw [reject_of huser]
        rfl
      · rw [reject_of_not huser]
        by_cases hprevious : (db.getRegistration r.userId r.requestId).isSome = true
        · rw [reject_of hprevious]
          rfl
        · rw [reject_of_not hprevious]
          rfl

lemma unique_cons (s : Scheduled IdentityTx) :
    (∀ c ∈ (identity settings forwardSettings world clock).commits (s :: schedule),
      ((identity settings forwardSettings world clock).after c).activeAddresses.Nodup) ↔
    ((identity settings forwardSettings world clock).state (s :: schedule)).activeAddresses.Nodup ∧
      ∀ c ∈ (identity settings forwardSettings world clock).commits schedule,
        ((identity settings forwardSettings world clock).after c).activeAddresses.Nodup := by
  rw [Transactions.state_cons, Transactions.commits_cons, List.forall_mem_cons]

lemma unique_state (h : ∀ c ∈ (identity settings forwardSettings world clock).commits schedule,
      ((identity settings forwardSettings world clock).after c).activeAddresses.Nodup) :
    ((identity settings forwardSettings world clock).state schedule).activeAddresses.Nodup := by
  cases schedule with
  | nil => exact List.nodup_nil
  | cons s earlier => exact (unique_cons s).mp h |>.1

/-- One more operation keeps addresses unique when its count is apart from the earlier ones. -/
lemma unique_next (s : Scheduled IdentityTx)
    (h : ((identity settings forwardSettings world clock).state schedule).activeAddresses.Nodup) :
    ((identity settings forwardSettings world clock).state (s :: schedule)).activeAddresses.Nodup ↔
      ∀ c ∈ (identity settings forwardSettings world clock).commits schedule, ∀ n n' id id',
        c.tx.makes settings c.seen c.before = some (n, id) →
        s.tx.makes settings
          ((identity settings forwardSettings world clock).next schedule s).seen
          ((identity settings forwardSettings world clock).state schedule) = some (n', id') →
        (∃ p ∈ ((identity settings forwardSettings world clock).state schedule).wireguardPeers,
          p.id = id ∧ p.status = .active) → n % 200 ≠ n' % 200 := by
  have hmade := peersMade settings forwardSettings world clock schedule
  rw [(peersMove_next s hmade.drawn).unique_iff h]
  constructor
  · rintro hfree c hc n n' id id' hmakes hmakes' ⟨p, hp, rfl, hactive⟩ hsame
    refine hfree n' id' hmakes' p hp hactive ?_
    rw [hmade.address p hp c hc n hmakes, nextWireguardIp_inj]
    exact hsame
  · intro hapart n' id' hmakes' p hp hactive hsame
    obtain ⟨c, hc, n, hmakes⟩ := hmade.made p hp
    refine hapart c hc n n' p.id id' hmakes hmakes' ⟨p, hp, rfl, hactive⟩ ?_
    rw [← nextWireguardIp_inj, ← hmade.address p hp c hc n hmakes]
    exact hsame

/-- Addresses are unique in exactly the runs whose peers were made for counts of different
remainders, as long as the earlier one is active. -/
theorem addressesUnique_iff (settings : IdentitySettings) (forwardSettings : PortForwardSettings)
    (world : ForwardWorld) (clock : Instant) (schedule : List (Scheduled IdentityTx)) :
    AddressesUnique settings (identity settings forwardSettings world clock) schedule ↔
      CountsApart settings (identity settings forwardSettings world clock) schedule := by
  have hunique : (∀ c ∈ (identity settings forwardSettings world clock).commits schedule,
      ((identity settings forwardSettings world clock).after c).activeAddresses.Nodup) ↔
        CountsApart settings (identity settings forwardSettings world clock) schedule := by
    induction schedule with
    | nil => exact iff_of_true (fun c hc => absurd hc List.not_mem_nil) .nil
    | cons s earlier ih =>
      rw [unique_cons, CountsApart, Transactions.commits_cons, List.pairwise_cons, ih]
      refine and_congr_left fun hearlier => ?_
      exact unique_next s (unique_state (ih.mpr hearlier))
  rw [← hunique]
  exact ⟨fun h => h.unique, fun h => ⟨h, fun c _ r _ hnew => registerDevice_isOk hnew⟩⟩

end

/-! ### An address that is used again after a deletion -/

def samplePeerRegistration (name : String) : RegisterDevice where
  userId := 2
  intent := ⟨name.toList, "linux".toList, none, "ssh-ed25519 key".toList, some "key".toList, none⟩
  requestId := none

/-- The first of two devices is deleted before a third one is registered. -/
def sampleDeletion : List (Scheduled IdentityTx) :=
  [.fresh (.registerDevice (samplePeerRegistration "third")),
    .fresh (.deleteDevice sampleForwardUser 1 false false),
    .fresh (.revokeDevice sampleForwardUser 1),
    .fresh (.registerDevice (samplePeerRegistration "second")),
    .fresh (.registerDevice (samplePeerRegistration "first"))]

theorem deletion_repeats_address :
    ¬AddressesUnique sampleIdentitySettings
      (identity sampleIdentitySettings sampleForwardSettings sampleForwardWorld 0)
      sampleDeletion := by
  intro h
  have hrepeated : ∃ c ∈ (identity sampleIdentitySettings sampleForwardSettings
      sampleForwardWorld 0).commits sampleDeletion,
      ¬((identity sampleIdentitySettings sampleForwardSettings sampleForwardWorld 0).after
        c).activeAddresses.Nodup := by
    decide +kernel
  obtain ⟨c, hc, hnot⟩ := hrepeated
  exact hnot (h.unique c hc)

end AgentRemote.Identity
