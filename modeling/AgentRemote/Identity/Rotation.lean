import AgentRemote.Identity.Addresses

/-!
# When the key of a peer is compared and swapped

An enrolment presents a peer as it was read and rotates its key if the peer is still the same,
which its version is to tell. A rotation raises the version. A registration that uses a device
again writes the key of the peer it has read and leaves the version alone.
-/

namespace AgentRemote.Identity
open Library PortForwards

/-- A conditional enrolment that succeeds for the peer it presents. -/
structure Enrols (S : Transactions IdentityDb IdentityTx IdentityAnswer)
    (c : Commit IdentityDb IdentityTx) (r : EnrollPeer) (peer : WireGuardPeer) : Prop where
  request : c.tx = .enrollWireguardPeer r
  presents : r.Presents peer
  enrolled : ∃ new, S.answer c = .enrolled new

/-- The version tells: it rises whenever the key of an active peer changes, so the key was
never another one between a read and an enrolment that presents what was read, and of two
enrolments that present the same and bring a new key at most one succeeds. -/
structure RotationSafe (S : Transactions IdentityDb IdentityTx IdentityAnswer)
    (schedule : List (Scheduled IdentityTx)) : Prop where
  versioned : ∀ c ∈ S.commits schedule, ∀ p ∈ c.before.wireguardPeers, p.status = .active →
    ∀ p' ∈ (S.after c).wireguardPeers, p'.id = p.id → p'.publicKey ≠ p.publicKey →
      p.version < p'.version
  unchanged : ∀ read past earlier s, read <:+ past → past <:+ earlier → s :: earlier <:+ schedule →
    ∀ r, ∀ peer ∈ (S.state read).wireguardPeers, Enrols S (S.next earlier s) r peer →
      ∀ p ∈ (S.state past).wireguardPeers, p.id = peer.id → p.publicKey = peer.publicKey
  single : (S.commits schedule).Pairwise fun later earlier => ∀ r r' peer,
    Enrols S earlier r peer → r.publicKey ≠ peer.publicKey → ¬Enrols S later r' peer

/-- A key that is written is there before, or its peer is no longer active. -/
def KeepsKey (written : Option (Uuid × Text)) (db : IdentityDb) : Prop :=
  ∀ id publicKey, written = some (id, publicKey) →
    ∀ p ∈ db.wireguardPeers, p.id = id → p.status = .active → p.publicKey = publicKey

/-- No registration writes over a different key of an active peer. -/
def KeysKept (settings : IdentitySettings)
    (S : Transactions IdentityDb IdentityTx IdentityAnswer)
    (schedule : List (Scheduled IdentityTx)) : Prop :=
  ∀ c ∈ S.commits schedule, KeepsKey (c.tx.rewrites settings c.seen c.before) c.before

/-! ### Peers as they age -/

/-- What no operation takes back. -/
structure WireGuardPeer.Ages (p p' : WireGuardPeer) : Prop where
  version : p.version ≤ p'.version
  active : p'.status = .active → p.status = .active

/-- The peer ages, and its version tells whether its key changed while it was active. -/
structure WireGuardPeer.Tells (p p' : WireGuardPeer) : Prop extends p.Ages p' where
  key : p'.status = .active → p'.publicKey ≠ p.publicKey → p.version < p'.version

/-- The peers that both states have are related. -/
structure PeersFollow (rel : WireGuardPeer → WireGuardPeer → Prop) (db db' : IdentityDb) :
    Prop where
  nextId : db.nextId ≤ db'.nextId
  peers : ∀ p' ∈ db'.wireguardPeers, p'.id < db.nextId →
    ∃ p ∈ db.wireguardPeers, p.id = p'.id ∧ rel p p'

section

variable {rel : WireGuardPeer → WireGuardPeer → Prop} {a b c db db' : IdentityDb}
  {p p' p'' : WireGuardPeer}

lemma WireGuardPeer.Ages.refl (p : WireGuardPeer) : p.Ages p := ⟨le_rfl, fun h => h⟩

lemma WireGuardPeer.Ages.trans (h : p.Ages p') (h' : p'.Ages p'') : p.Ages p'' :=
  ⟨h.version.trans h'.version, h.active ∘ h'.active⟩

lemma WireGuardPeer.Tells.refl (p : WireGuardPeer) : p.Tells p :=
  ⟨.refl p, fun _ h => absurd rfl h⟩

lemma WireGuardPeer.Tells.trans (h : p.Tells p') (h' : p'.Tells p'') : p.Tells p'' := by
  refine ⟨h.toAges.trans h'.toAges, ?_⟩
  intro hactive hkey
  by_cases hsame : p''.publicKey = p'.publicKey
  · exact (h.key (h'.active hactive) (hsame ▸ hkey)).trans_le h'.version
  · exact h.version.trans_lt (h'.key hactive hsame)

lemma PeersFollow.refl (hrefl : ∀ p, rel p p) (db : IdentityDb) : PeersFollow rel db db :=
  ⟨le_rfl, fun p hp _ => ⟨p, hp, rfl, hrefl p⟩⟩

lemma PeersFollow.trans (htrans : ∀ {p p' p''}, rel p p' → rel p' p'' → rel p p'')
    (h : PeersFollow rel a b) (h' : PeersFollow rel b c) : PeersFollow rel a c := by
  refine ⟨h.nextId.trans h'.nextId, ?_⟩
  intro p'' hp'' hid
  obtain ⟨p', hp', hid', hrel'⟩ := h'.peers p'' hp'' (hid.trans_le h.nextId)
  obtain ⟨p, hp, hid, hrel⟩ := h.peers p' hp' (hid' ▸ hid)
  exact ⟨p, hp, hid.trans hid', htrans hrel hrel'⟩

/-- The earlier row of a peer that both states have. -/
lemma PeersFollow.of_mem (h : PeersFollow rel db db') (hdb : db.PeersDrawn)
    (hp : p ∈ db.wireguardPeers) (hp' : p' ∈ db'.wireguardPeers) (hid : p'.id = p.id) :
    rel p p' := by
  obtain ⟨q, hq, hqid, hrel⟩ := h.peers p' hp' (hid ▸ hdb.ids p hp)
  obtain rfl := eq_of_key_eq hdb.nodup hq hp (hqid.trans hid)
  exact hrel

variable {made : Option (ℕ × Uuid)} {written : Option (Uuid × Text)}

/-- What the row of a peer was before an operation. -/
lemma PeersChange.ages (h : PeersChange made written db db')
    (hp' : p' ∈ db'.wireguardPeers) (hid : p'.id < db.nextId) :
    ∃ p ∈ db.wireguardPeers, p.id = p'.id ∧ p.Ages p' ∧ (KeepsKey written db →
      p.status = .active → p'.publicKey ≠ p.publicKey → p.version < p'.version) := by
  have hsame : ∀ q ∈ db.wireguardPeers, q = p' → ∃ p ∈ db.wireguardPeers, p.id = p'.id ∧
      p.Ages p' ∧ (KeepsKey written db → p.status = .active → p'.publicKey ≠ p.publicKey →
        p.version < p'.version) := by
    rintro q hq rfl
    exact ⟨q, hq, rfl, .refl q, fun _ _ hkey => absurd rfl hkey⟩
  cases h with
  | same _ _ hpeers => exact hsame p' (hpeers ▸ hp') rfl
  | added n new _ _ hpeers _ _ hle _ =>
    rw [hpeers, List.mem_append, List.mem_singleton] at hp'
    rcases hp' with hp' | rfl
    · exact hsame p' hp' rfl
    · exact absurd hid (not_lt.mpr hle)
  | rewritten id publicKey _ hwritten hpeers =>
    rw [hpeers] at hp'
    obtain ⟨p, hp, rfl⟩ := List.mem_map.mp hp'
    by_cases hpid : p.id = id
    · rw [if_pos hpid]
      refine ⟨p, hp, rfl, ⟨le_rfl, fun h => h⟩, ?_⟩
      intro hkept hactive hkey
      exact absurd (hkept id publicKey hwritten p hp hpid hactive).symm hkey
    · rw [if_neg hpid] at hsame ⊢
      exact hsame p hp rfl
  | rotated old publicKey _ _ hold hactive hpeers =>
    rw [hpeers, mem_replace] at hp'
    rcases hp' with ⟨hp', -⟩ | ⟨rfl, -⟩
    · exact hsame p' hp' rfl
    · refine ⟨old, hold, rfl, ⟨?_, fun _ => hactive⟩, ?_⟩
      · unfold WireGuardPeer.rotate
        split_ifs <;> simp
      · intro _ _ hkey
        have hne : old.publicKey ≠ publicKey := fun h => hkey h.symm
        simp [WireGuardPeer.rotate, hne]
  | revoked ids _ _ hpeers =>
    rw [hpeers] at hp'
    obtain ⟨p, hp, rfl⟩ := List.mem_map.mp hp'
    by_cases hpid : p.id ∈ ids
    · rw [if_pos hpid]
      exact ⟨p, hp, rfl, ⟨le_rfl, nofun⟩, fun _ _ hkey => absurd rfl hkey⟩
    · rw [if_neg hpid] at hsame ⊢
      exact hsame p hp rfl
  | removed keep _ _ hpeers =>
    rw [hpeers] at hp'
    exact hsame p' (List.mem_filter.mp hp').1 rfl

/-- A key that is written over another one shows in no version. -/
lemma PeersChange.keepsKey (h : PeersChange made written db db')
    (htold : ∀ p ∈ db.wireguardPeers, p.status = .active → ∀ p' ∈ db'.wireguardPeers,
      p'.id = p.id → p'.publicKey ≠ p.publicKey → p.version < p'.version) :
    KeepsKey written db := by
  intro id publicKey hwritten p hp hid hactive
  cases h with
  | rewritten id' publicKey' _ hwritten' hpeers =>
    obtain ⟨rfl, rfl⟩ := Prod.mk.inj (Option.some.inj (hwritten.symm.trans hwritten'))
    by_contra hkey
    have hp' : { p with publicKey := publicKey } ∈ db'.wireguardPeers := by
      rw [hpeers, List.mem_map]
      exact ⟨p, hp, if_pos hid⟩
    have hlt := htold p hp hactive { p with publicKey := publicKey } hp' rfl fun h => hkey h.symm
    exact lt_irrefl _ hlt
  | same _ hnone => exact absurd (hwritten.symm.trans hnone) nofun
  | added _ _ _ hnone => exact absurd (hwritten.symm.trans hnone) nofun
  | rotated _ _ _ hnone => exact absurd (hwritten.symm.trans hnone) nofun
  | revoked _ _ hnone => exact absurd (hwritten.symm.trans hnone) nofun
  | removed _ _ hnone => exact absurd (hwritten.symm.trans hnone) nofun

end

/-! ### Runs -/

section

variable {settings : IdentitySettings} {forwardSettings : PortForwardSettings}
  {world : ForwardWorld} {clock : Instant} {schedule : List (Scheduled IdentityTx)}

/-- A commit relates the rows of a peer before and after it. -/
lemma peersFollow_of_commit {rel : WireGuardPeer → WireGuardPeer → Prop}
    {c : Commit IdentityDb IdentityTx} (hsound : c.before.Sound) (hdb : c.before.PeersDrawn)
    (hrel : ∀ p p', p.Ages p' → (KeepsKey (c.tx.rewrites settings c.seen c.before) c.before →
      p.status = .active → p'.publicKey ≠ p.publicKey → p.version < p'.version) → rel p p') :
    PeersFollow rel c.before
      ((identity settings forwardSettings world clock).after c) := by
  refine ⟨nextId_of_commit hsound, ?_⟩
  intro p' hp' hid
  obtain ⟨p, hp, hpid, hages, hkey⟩ := (peersChange_of_commit hdb).ages hp' hid
  exact ⟨p, hp, hpid, hrel p p' hages hkey⟩

lemma drawn_of_commit {c : Commit IdentityDb IdentityTx} (hsound : c.before.Sound)
    (hdb : c.before.PeersDrawn) :
    ((identity settings forwardSettings world clock).after c).PeersDrawn :=
  (peersMove_of_commit hdb).drawn hdb (nextId_of_commit hsound)

lemma emptyIdentityDb_drawn : (emptyIdentityDb world clock).PeersDrawn :=
  ⟨List.nodup_nil, nofun⟩

/-- Peers age in every run. -/
lemma ages_ran : (identity settings forwardSettings world clock).Ran
    (fun db => db.Sound ∧ db.PeersDrawn) (PeersFollow WireGuardPeer.Ages) schedule := by
  refine Transactions.ran_of_step (PeersFollow.refl .refl) (PeersFollow.trans .trans)
    ⟨emptyIdentityDb_sound, emptyIdentityDb_drawn⟩ (fun c hsees _ => ?_) fun _ _ => trivial
  obtain ⟨hsound, hdb⟩ := hsees.before
  exact ⟨⟨sound_of_commit hsound, drawn_of_commit hsound hdb⟩,
    peersFollow_of_commit hsound hdb fun _ _ hages _ => hages⟩

/-- Versions tell in a run in which no registration writes over a key. -/
lemma tells_ran (h : KeysKept settings (identity settings forwardSettings world clock) schedule) :
    (identity settings forwardSettings world clock).Ran
      (fun db => db.Sound ∧ db.PeersDrawn) (PeersFollow WireGuardPeer.Tells) schedule := by
  apply Transactions.ran_of_step (PeersFollow.refl .refl) (PeersFollow.trans .trans)
    ⟨emptyIdentityDb_sound, emptyIdentityDb_drawn⟩ _ h
  intro c hsees hkept
  obtain ⟨hsound, hdb⟩ := hsees.before
  refine ⟨⟨sound_of_commit hsound, drawn_of_commit hsound hdb⟩,
    peersFollow_of_commit hsound hdb ?_⟩
  intro p p' hages hkey
  exact ⟨hages, fun hactive hne => hkey hkept (hages.active hactive) hne⟩

/-- An enrolment that succeeds finds the peer as it was presented, and rotates it. -/
lemma Enrols.found {c : Commit IdentityDb IdentityTx} {r : EnrollPeer} {peer : WireGuardPeer}
    (h : Enrols (identity settings forwardSettings world clock) c r peer) :
    ∃ old ∈ c.before.wireguardPeers, old.status = .active ∧ old.id = peer.id ∧
      old.publicKey = peer.publicKey ∧ old.version = peer.version ∧
      old.rotate r.publicKey ∈
        ((identity settings forwardSettings world clock).after c).wireguardPeers := by
  obtain ⟨new, hnew⟩ := h.enrolled
  have hanswer : ((IdentityTx.enrollWireguardPeer r).commit settings forwardSettings c.seen
      c.before).2 = .enrolled new := h.request ▸ hnew
  have hafter : (identity settings forwardSettings world clock).after c =
      ((IdentityTx.enrollWireguardPeer r).commit settings forwardSettings c.seen c.before).1 :=
    h.request ▸ rfl
  rw [hafter]
  simp only [IdentityTx.commit] at hanswer ⊢
  cases hop : enrollWireguardPeer settings c.seen c.before r with
  | error e =>
    rw [hop] at hanswer
    cases hanswer
  | ok x =>
    rcases enrollWireguardPeer_eq_ok hop with ⟨hnone, -, -⟩ |
      ⟨old, hold, hactive, hold', hpeer, hdb'⟩
    · rw [h.presents.id] at hnone
      cases hnone
    · refine ⟨old, hold, hactive, ?_, ?_, ?_, ?_⟩
      · exact Option.some.inj (hold'.id.symm.trans h.presents.id)
      · exact Option.some.inj (hold'.publicKey.symm.trans h.presents.publicKey)
      · exact Option.some.inj (hold'.version.symm.trans h.presents.version)
      · rw [IdentityDb.settle, hdb', mem_replace]
        exact .inr ⟨hpeer.symm, old, hold, by rw [hpeer]; rfl⟩

/-- Between a read and an enrolment that presents what was read, the key stays. -/
lemma unchanged_of_tells {read past earlier : List (Scheduled IdentityTx)}
    {s : Scheduled IdentityTx} (hreadPast : read <:+ past) (hpastEarlier : past <:+ earlier)
    (hran : (identity settings forwardSettings world clock).Ran
      (fun db => db.Sound ∧ db.PeersDrawn) (PeersFollow WireGuardPeer.Tells) earlier)
    {r : EnrollPeer} {peer p : WireGuardPeer}
    (hpeer : peer ∈ ((identity settings forwardSettings world clock).state read).wireguardPeers)
    (henrols : Enrols (identity settings forwardSettings world clock)
      ((identity settings forwardSettings world clock).next earlier s) r peer)
    (hp : p ∈ ((identity settings forwardSettings world clock).state past).wireguardPeers)
    (hid : p.id = peer.id) : p.publicKey = peer.publicKey := by
  obtain ⟨old, hold, hactive, hoid, -, hversion, -⟩ := henrols.found
  have hpast := hran.suffix hpastEarlier
  have hread := hpast.suffix hreadPast
  have hfirst : peer.Tells p :=
    (hpast.moved_of_suffix hreadPast).of_mem (hread.sound 0).2 hpeer hp hid
  have hlast : p.Tells old :=
    (hran.moved_of_suffix hpastEarlier).of_mem (hpast.sound 0).2 hp hold (hoid.trans hid.symm)
  by_contra hkey
  have hlt := hfirst.key (hlast.active hactive) hkey
  have hle := hlast.version
  omega

/-- An enrolment that brings a new key is the last that succeeds for what it presented. -/
lemma single_of_ages :
    ((identity settings forwardSettings world clock).commits schedule).Pairwise
      fun later earlier => ∀ r r' peer,
        Enrols (identity settings forwardSettings world clock) earlier r peer →
          r.publicKey ≠ peer.publicKey →
            ¬Enrols (identity settings forwardSettings world clock) later r' peer := by
  have hran : (identity settings forwardSettings world clock).Ran
      (fun db => db.Sound ∧ db.PeersDrawn) (PeersFollow WireGuardPeer.Ages) schedule := ages_ran
  refine hran.pairwise.imp ?_
  rintro later earlier ⟨⟨-, hdrawn⟩, hfollow⟩ r r' peer hfirst hkey hsecond
  obtain ⟨old, -, -, hid, hold, hversion, hmem⟩ := hfirst.found
  obtain ⟨old', hmem', -, hid', -, hversion', -⟩ := hsecond.found
  have hages : (old.rotate r.publicKey).Ages old' :=
    hfollow.of_mem hdrawn hmem hmem' (hid'.trans hid.symm)
  have hne : old.publicKey ≠ r.publicKey := fun h => hkey (h.symm.trans hold)
  have hrotated : (old.rotate r.publicKey).version = old.version + 1 := if_neg hne
  have hle := hages.version
  omega

/-- Keys are compared and swapped safely in exactly the runs in which no registration writes
over the key of an active peer. -/
theorem rotationSafe_iff (settings : IdentitySettings) (forwardSettings : PortForwardSettings)
    (world : ForwardWorld) (clock : Instant) (schedule : List (Scheduled IdentityTx)) :
    RotationSafe (identity settings forwardSettings world clock) schedule ↔
      KeysKept settings (identity settings forwardSettings world clock) schedule := by
  constructor
  · intro h c hc
    have hdb := (ages_ran.sees_of_mem hc).before.2
    exact (peersChange_of_commit hdb).keepsKey (h.versioned c hc)
  · intro h
    have hran := tells_ran h
    constructor
    · intro c hc p hp hactive p' hp' hid hkey
      have hdb := (hran.sees_of_mem hc).before.2
      obtain ⟨q, hq, hqid, -, htells⟩ :=
        (peersChange_of_commit hdb).ages hp' (hid ▸ hdb.ids p hp)
      obtain rfl := eq_of_key_eq hdb.nodup hq hp (hqid.trans hid)
      exact htells (h c hc) hactive hkey
    · intro read past earlier s hreadPast hpastEarlier hsuffix r peer hpeer henrols p hp hid
      have hearlier := hran.suffix ((List.suffix_cons s earlier).trans hsuffix)
      exact unchanged_of_tells hreadPast hpastEarlier hearlier hpeer henrols hp hid
    · exact single_of_ages

end

/-! ### A key that comes back -/

def sampleRekey (key : String) (existing : Option Uuid) : RegisterDevice where
  userId := 2
  intent := ⟨"laptop".toList, "linux".toList, none, "ssh-ed25519 key".toList, some key.toList,
    existing⟩
  requestId := none

/-- Settings that take every text for a WireGuard key. -/
def sampleKeySettings : IdentitySettings := { sampleIdentitySettings with
  validWireguardKey := fun _ => true }

/-- The device is registered with the key `a`. -/
def sampleFirstKey : List (Scheduled IdentityTx) :=
  [.fresh (.registerDevice (sampleRekey "a" none))]

/-- It is registered again with `b`. -/
def sampleSecondKey : List (Scheduled IdentityTx) :=
  .fresh (.registerDevice (sampleRekey "b" (some 1))) :: sampleFirstKey

/-- It is registered again with `a`. -/
def sampleThirdKey : List (Scheduled IdentityTx) :=
  .fresh (.registerDevice (sampleRekey "a" (some 1))) :: sampleSecondKey

/-- Presents what the first registration left. -/
def sampleEnrolment : EnrollPeer :=
  ⟨2, some 1, "c".toList, some 3, some "a".toList, some 1⟩

/-- An enrolment that presents the first key succeeds, although the second was there since. -/
theorem rekey_returns :
    ¬RotationSafe (identity sampleKeySettings sampleForwardSettings sampleForwardWorld 0)
      (.fresh (.enrollWireguardPeer sampleEnrolment) :: sampleThirdKey) := by
  intro h
  have hread : newPeer 3 1 "a".toList 0 ∈ ((identity sampleKeySettings sampleForwardSettings
      sampleForwardWorld 0).state sampleFirstKey).wireguardPeers := by
    decide +kernel
  have hpast : newPeer 3 1 "b".toList 0 ∈ ((identity sampleKeySettings sampleForwardSettings
      sampleForwardWorld 0).state sampleSecondKey).wireguardPeers := by
    decide +kernel
  have henrols : Enrols (identity sampleKeySettings sampleForwardSettings sampleForwardWorld 0)
      ((identity sampleKeySettings sampleForwardSettings sampleForwardWorld 0).next sampleThirdKey
        (.fresh (.enrollWireguardPeer sampleEnrolment))) sampleEnrolment
      (newPeer 3 1 "a".toList 0) :=
    ⟨rfl, ⟨rfl, rfl, rfl⟩, { newPeer 3 1 "c".toList 0 with version := 2 }, by rfl⟩
  have hsame := h.unchanged sampleFirstKey sampleSecondKey sampleThirdKey _
    (List.suffix_cons _ _) (List.suffix_cons _ _) (List.suffix_refl _) _ _ hread henrols _ hpast rfl
  exact absurd hsame (by decide)

end AgentRemote.Identity
