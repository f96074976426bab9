import AgentRemote.Identity.System
import AgentRemote.PortForwards.Settlement

/-!
# When the revocation of a device is final

A device is used through its tokens, SSH keys, WireGuard peers, attachment leases and port
forwards. No operation makes a revoked device active again, but one that has read the device
before its revocation may equip it later, and a revocation misses what it has not read.
-/

namespace AgentRemote.Identity
open Library PortForwards

/-- What a device is used through. -/
inductive DeviceUse where
  | token (id : Uuid)
  | sshKey (id : Uuid)
  | peer (id : Uuid)
  | lease (id : Uuid)
  | forward (id : Uuid)

/-- The device has an active credential, a live lease or an open forward. -/
def IdentityDb.Allows (db : IdentityDb) (deviceId : Uuid) : DeviceUse → Prop
  | .token id => ∃ t ∈ db.tokens, t.id = id ∧ t.userDeviceId = some deviceId ∧ t.status = .active
  | .sshKey id => ∃ k ∈ db.sshKeys, k.id = id ∧ k.userDeviceId = deviceId ∧ k.status = .active
  | .peer id =>
    ∃ p ∈ db.wireguardPeers, p.id = id ∧ p.userDeviceId = deviceId ∧ p.status = .active
  | .lease id => ∃ l ∈ db.leases, l.id = id ∧ l.deviceId = deviceId ∧ l.status.live = true
  | .forward id => ∃ f ∈ db.forwarding.forwards, f.id = id ∧ f.deviceId = deviceId ∧
      f.status.terminal = false

/-- Among the rows that a revocation of the device ends. -/
def Reads (seen : ℕ → IdentityDb) (deviceId : Uuid) : DeviceUse → Prop
  | .token id => id ∈ readTokens seen deviceId
  | .sshKey id => id ∈ readSshKeys seen deviceId
  | .peer id => id ∈ readPeers seen deviceId
  | .lease id => id ∈ lockedLeases seen deviceId
  | .forward id => id ∈ lockedForwards seen deviceId

/-- Revocations are final: a revoked device stays revoked, and nothing uses it. -/
structure RevocationFinal (S : Transactions IdentityDb IdentityTx IdentityAnswer)
    (schedule : List (Scheduled IdentityTx)) : Prop where
  absorbing : ∀ c ∈ S.commits schedule, ∀ d ∈ c.before.devices, ∀ d' ∈ (S.after c).devices,
    d'.id = d.id → d.status = .revoked → d'.status = .revoked
  unused : ∀ c ∈ S.commits schedule, ∀ d ∈ (S.after c).devices, d.status = .revoked →
    ∀ use, ¬(S.after c).Allows d.id use

/-- The device that an operation gives credentials, a lease or a forward. -/
def IdentityTx.equips (settings : IdentitySettings) (forwardSettings : PortForwardSettings)
    (seen : ℕ → IdentityDb) (db : IdentityDb) : IdentityTx → Option Uuid
  | .registerDevice r =>
    if (seen 0).getRegistration r.userId r.requestId = none then
      (Identity.registerDevice settings seen db r).toOption.map fun result => result.2.device.id
    else none
  | .rotateDeviceToken actor id =>
    (Identity.rotateDeviceToken settings seen db actor id).toOption.map fun _ => id
  | .enrollWireguardPeer r =>
    (Identity.enrollWireguardPeer settings seen db r).toOption.map fun result =>
      result.2.userDeviceId
  | .admitAttachment r => (Identity.admitAttachment seen db r).toOption.map fun _ => r.deviceId
  | .forward (.create r) =>
    if db.forwarding.getByCaller r = none then
      (PortForwards.create forwardSettings (fun i => (seen i).forwarding)
        db.forwarding r).2.toOption.map fun created => created.portForward.deviceId
    else none
  | _ => none

/-- The operation equips no device that is revoked where it commits, and a revocation has read
all that the device is used through there. -/
structure IdentityTx.Current (settings : IdentitySettings)
    (forwardSettings : PortForwardSettings) (seen : ℕ → IdentityDb) (db : IdentityDb)
    (t : IdentityTx) : Prop where
  equips : ∀ id ∈ t.equips settings forwardSettings seen db, ∀ d ∈ db.devices, d.id = id →
    d.status = .active
  reads : ∀ actor id, t = .revokeDevice actor id →
    (Identity.revokeDevice seen db actor id).isOk = true →
    ∀ d ∈ db.devices, d.id = id → ∀ use, db.Allows id use → Reads seen id use

/-! ### What an operation allows -/

section

variable {α : Type} {rows : List α} {key : α → Uuid} {p : α → Prop} {f : α → α}
  {ids : List Uuid} {id : Uuid}

/-- The rows that qualify after those under some keys were ended. -/
lemma exists_mem_map_iff (hkey : ∀ a, key (f a) = key a) (hended : ∀ a, key a ∈ ids → ¬p (f a))
    (hother : ∀ a, key a ∉ ids → f a = a) :
    (∃ a ∈ rows.map f, key a = id ∧ p a) ↔ (∃ a ∈ rows, key a = id ∧ p a) ∧ id ∉ ids := by
  constructor
  · rintro ⟨_, ha, rfl, hp⟩
    obtain ⟨a, hmem, rfl⟩ := List.mem_map.mp ha
    have hid : key a ∉ ids := fun hid => hended a hid hp
    rw [hkey]
    rw [hother a hid] at hp
    exact ⟨⟨a, hmem, rfl, hp⟩, hid⟩
  · rintro ⟨⟨a, ha, rfl, hp⟩, hid⟩
    refine ⟨f a, List.mem_map_of_mem ha, hkey a, ?_⟩
    rw [hother a hid]
    exact hp

end

section

variable {settings : IdentitySettings} {forwardSettings : PortForwardSettings}
  {seen : ℕ → IdentityDb} {db db' : IdentityDb} {t : IdentityTx} {id deviceId : Uuid}
  {use : DeviceUse} {ids : List Uuid}

/-- A revocation leaves what it has not read. -/
lemma allows_deviceRevoked :
    (deviceRevoked seen db deviceId).Allows id use ↔
      db.Allows id use ∧ ¬Reads seen deviceId use := by
  cases use with
  | token i =>
    refine exists_mem_map_iff (fun t => ?_) (fun t ht => ?_) fun t ht => if_neg ht
    · split_ifs <;> rfl
    · simp [if_pos ht]
  | sshKey i =>
    refine exists_mem_map_iff (fun k => ?_) (fun k hk => ?_) fun k hk => if_neg hk
    · split_ifs <;> rfl
    · simp [if_pos hk]
  | peer i =>
    refine exists_mem_map_iff (fun p => ?_) (fun p hp => ?_) fun p hp => if_neg hp
    · split_ifs <;> rfl
    · simp [if_pos hp]
  | lease i =>
    refine exists_mem_map_iff (fun l => ?_) (fun l hl => ?_) fun l hl => if_neg fun h => hl h.1
    · split_ifs <;> rfl
    · by_cases hlive : l.status.live = true
      · rw [if_pos ⟨hl, hlive⟩]
        exact fun h => nomatch h.2
      · rw [if_neg fun h => hlive h.2]
        exact fun h => hlive h.2
  | forward i =>
    refine exists_mem_map_iff (fun f => ?_) (fun f hf => ?_) fun f hf => if_neg fun h => hf h.1
    · split_ifs <;> rfl
    · by_cases hopen : f.status.terminal = false
      · rw [if_pos ⟨hf, hopen⟩]
        exact fun h => nomatch h.2
      · rw [if_neg fun h => hopen h.2]
        exact fun h => hopen h.2

lemma allows_of_revokeTokens (h : (db.revokeTokens ids).Allows id use) : db.Allows id use := by
  cases use with
  | token i =>
    refine ((exists_mem_map_iff (fun t => ?_) (fun t ht => ?_) fun t ht => if_neg ht).mp h).1
    · split_ifs <;> rfl
    · simp [if_pos ht]
  | _ => exact h

/-- A new token allows its device more. -/
lemma allows_of_token {token : AuthToken} {base : IdentityDb} {n : ℕ}
    {registrations : List DeviceRegistrationRequest}
    (h : IdentityDb.Allows { base.draw n with
      tokens := base.tokens ++ [token], registrations := registrations } id use) :
    base.Allows id use ∨ token.userDeviceId = some id := by
  cases use with
  | token i =>
    obtain ⟨t, ht, hid⟩ := h
    rcases List.mem_append.mp ht with ht | ht
    · exact .inl ⟨t, ht, hid⟩
    · obtain rfl := List.mem_singleton.mp ht
      exact .inr hid.2.1
  | _ => exact .inl h

lemma allows_of_withDevice {r : RegisterDevice} {device : PortForwards.UserDevice}
    (h : (withDevice db r device).Allows id use) : db.Allows id use := by
  unfold withDevice at h
  split_ifs at h
  · exact h
  · cases use <;> exact h

lemma allows_of_withSshKey {r : RegisterDevice} {device : PortForwards.UserDevice} {new : Uuid}
    (h : (withSshKey seen r device new db).Allows id use) :
    db.Allows id use ∨ id = device.id := by
  unfold withSshKey at h
  split at h
  · exact .inl h
  · cases use with
    | sshKey i =>
      obtain ⟨k, hk, hid⟩ := h
      rcases List.mem_append.mp hk with hk | hk
      · exact .inl ⟨k, hk, hid⟩
      · obtain rfl := List.mem_singleton.mp hk
        exact .inr hid.2.1.symm
    | _ => exact .inl h

/-- A new peer allows its device more. -/
lemma allows_of_peer {peer : WireGuardPeer} {n : ℕ}
    (h : IdentityDb.Allows { db.draw n with wireguardPeers := db.wireguardPeers ++ [peer] }
      id use) : db.Allows id use ∨ id = peer.userDeviceId := by
  cases use with
  | peer i =>
    obtain ⟨p, hp, hid⟩ := h
    rcases List.mem_append.mp hp with hp | hp
    · exact .inl ⟨p, hp, hid⟩
    · obtain rfl := List.mem_singleton.mp hp
      exact .inr hid.2.1.symm
  | _ => exact .inl h

lemma allows_of_withPeer {r : RegisterDevice} {device : PortForwards.UserDevice} {new : Uuid}
    (h : (withPeer seen r device new db).Allows id use) :
    db.Allows id use ∨ id = device.id := by
  unfold withPeer at h
  split at h
  · exact .inl h
  · split at h
    · cases use with
      | peer i =>
        split_ifs at h
        · exact .inl h
        · obtain ⟨p', hp', hid, hdevice, hactive⟩ := h
          obtain ⟨p, hp, rfl⟩ := List.mem_map.mp hp'
          refine .inl ⟨p, hp, ?_⟩
          split_ifs at hid hdevice hactive <;> exact ⟨hid, hdevice, hactive⟩
      | _ => split_ifs at h <;> exact .inl h
    · exact allows_of_peer (n := 0) h

/-- A registration equips its device. -/
lemma allows_of_registered {r : RegisterDevice} {device : PortForwards.UserDevice}
    (h : (registered settings seen db r device).Allows id use) :
    db.Allows id use ∨ id = device.id := by
  unfold registered at h
  rcases allows_of_token h with h | h
  · rcases allows_of_withPeer (allows_of_revokeTokens h) with h | h
    · exact (allows_of_withSshKey h).imp_left allows_of_withDevice
    · exact .inr h
  · exact .inr (Option.some.inj h).symm

lemma allows_of_deleted (h : (deviceDeleted db deviceId).Allows id use) : db.Allows id use := by
  cases use with
  | lease i => exact h
  | _ =>
    obtain ⟨row, hrow, hid⟩ := h
    exact ⟨row, (List.mem_filter.mp hrow).1, hid⟩

/-- The forwards after a transaction on them: they were open before, or one was created. -/
lemma forwards_of_commit {t : ForwardTx} (hdb : db.forwarding.Sound) {f' : PortForward}
    (hf' : f' ∈ (((db.foreign t).commit forwardSettings (fun i => (seen i).forwarding)
      db.forwarding).1).forwards) :
    (∃ f ∈ db.forwarding.forwards, f.Keeps f') ∨
      f'.deviceId ∈ (IdentityTx.forward t).equips settings forwardSettings seen db := by
  rcases commit_cases forwardSettings (fun i => (seen i).forwarding) db.forwarding
    (db.foreign t) with ⟨r, created, ht, hnew, hanswer, hcreates⟩ | ⟨hsettle, -⟩ | hmoves
  · rw [hcreates.forwards, List.mem_append, List.mem_singleton] at hf'
    rcases hf' with hf' | rfl
    · exact .inl ⟨f', hf', .refl f'⟩
    · right
      obtain rfl : t = .create r := by
        cases t <;> simp_all [IdentityDb.foreign]
      have hok : (PortForwards.create forwardSettings (fun i => (seen i).forwarding)
          db.forwarding r).2 = .ok created :=
        (answered_eq (fun _ _ => ForwardAnswer.created.inj) (fun _ _ => nofun)).mp hanswer
      simp [IdentityTx.equips, hnew, hok, Except.toOption]
  · rw [hsettle] at hf'
    obtain ⟨g, hrows, hg⟩ := settle_rows endings_ends
    rw [hrows] at hf'
    obtain ⟨f, hf, heq⟩ := List.mem_filterMap.mp hf'
    exact .inl ⟨f, hf, hg f hf f' heq⟩
  · obtain ⟨g, hrows, hg⟩ := hmoves.forwards.rows hdb
    rw [hrows] at hf'
    obtain ⟨f, hf, heq⟩ := List.mem_filterMap.mp hf'
    exact .inl ⟨f, hf, hg f hf f' heq⟩

lemma foreign_world (t : ForwardTx) :
    (((db.foreign t).commit forwardSettings (fun i => (seen i).forwarding)
      db.forwarding).1).world.devices = db.devices ∧
    (((db.foreign t).commit forwardSettings (fun i => (seen i).forwarding)
      db.forwarding).1).world.sshKeys = db.sshKeys := by
  cases t with
  | world rows => exact ⟨rfl, rfl⟩
  | _ => constructor <;> exact congrArg _ (commit_world nofun)

/-- What an operation allows a device was allowed before, unless it equips the device. -/
lemma allows_of_commit (hdb : db.forwarding.Sound)
    (h : (t.commit settings forwardSettings seen db).1.Allows id use) :
    (∃ use, db.Allows id use) ∨ id ∈ t.equips settings forwardSettings seen db := by
  cases t with
  | registerDevice r =>
    simp only [IdentityTx.commit] at h
    cases hop : registerDevice settings seen db r with
    | error e => exact .inl ⟨use, by rwa [hop] at h⟩
    | ok x =>
      rw [hop] at h
      rcases registerDevice_eq_ok hop with ⟨-, hdb'⟩ | ⟨hnone, -, hdb'⟩
      · exact .inl ⟨use, hdb' ▸ h⟩
      · refine (allows_of_registered (hdb' ▸ h)).imp (fun h => ⟨use, h⟩) fun hid => ?_
        simp [IdentityTx.equips, hnone, hop, hid, Except.toOption]
  | rotateDeviceToken actor deviceId =>
    simp only [IdentityTx.commit] at h
    cases hop : rotateDeviceToken settings seen db actor deviceId with
    | error e => exact .inl ⟨use, by rwa [hop] at h⟩
    | ok x =>
      rw [hop] at h
      obtain ⟨tokens, userId, now, htoken, hdb'⟩ := rotateDeviceToken_eq_ok hop
      rcases allows_of_token (hdb' ▸ h) with h | hid
      · exact .inl ⟨use, allows_of_revokeTokens h⟩
      · rw [htoken] at hid
        obtain rfl : deviceId = id := Option.some.inj hid
        simp [IdentityTx.equips, hop, Except.toOption]
  | refreshToken tokenId =>
    simp only [IdentityTx.commit] at h
    cases hop : refreshToken settings seen db tokenId with
    | error e => exact .inl ⟨use, by rwa [hop] at h⟩
    | ok x =>
      rw [hop] at h
      obtain ⟨old, hold, hactive, hdevice, -, hdb'⟩ := refreshToken_eq_ok hop
      rcases allows_of_token (hdb' ▸ h) with h | hid
      · exact .inl ⟨use, allows_of_revokeTokens h⟩
      · exact .inl ⟨.token old.id, old, hold, rfl, hdevice id hid, hactive⟩
  | enrollWireguardPeer r =>
    simp only [IdentityTx.commit] at h
    cases hop : enrollWireguardPeer settings seen db r with
    | error e => exact .inl ⟨use, by rwa [hop] at h⟩
    | ok x =>
      rw [hop] at h
      rcases enrollWireguardPeer_eq_ok hop with ⟨-, -, hdb'⟩ |
        ⟨old, hold, hactive, -, hpeer, hdb'⟩
      · refine (allows_of_peer (hdb' ▸ h)).imp (fun h => ⟨use, h⟩) fun hid => ?_
        simp [IdentityTx.equips, hop, hid, Except.toOption]
      · left
        rw [IdentityDb.settle, hdb'] at h
        cases use with
        | peer i =>
          obtain ⟨p', hp', -, hdevice, hstatus⟩ := h
          rcases (mem_replace ..).mp hp' with ⟨hp, -⟩ | ⟨rfl, -⟩
          · exact ⟨.peer p'.id, p', hp, rfl, hdevice, hstatus⟩
          · rw [hpeer] at hdevice
            exact ⟨.peer old.id, old, hold, rfl, hdevice, hactive⟩
        | token i => exact ⟨.token i, h⟩
        | sshKey i => exact ⟨.sshKey i, h⟩
        | lease i => exact ⟨.lease i, h⟩
        | forward i => exact ⟨.forward i, h⟩
  | revokeDevice actor deviceId =>
    simp only [IdentityTx.commit] at h
    cases hop : revokeDevice seen db actor deviceId with
    | error e => exact .inl ⟨use, by rwa [hop] at h⟩
    | ok x =>
      rw [hop, IdentityDb.settle, revokeDevice_eq_ok hop] at h
      exact .inl ⟨use, (allows_deviceRevoked.mp h).1⟩
  | deleteDevice actor deviceId hasWorkspaces hasHistory =>
    simp only [IdentityTx.commit] at h
    cases hop : deleteDevice seen db actor deviceId hasWorkspaces hasHistory with
    | error e => exact .inl ⟨use, by rwa [hop] at h⟩
    | ok x =>
      rw [hop, IdentityDb.settle, deleteDevice_eq_ok hop] at h
      exact .inl ⟨use, allows_of_deleted h⟩
  | admitAttachment r =>
    simp only [IdentityTx.commit] at h
    cases hop : admitAttachment seen db r with
    | error e => exact .inl ⟨use, by rwa [hop] at h⟩
    | ok x =>
      rw [hop] at h
      obtain ⟨hdevice, -, -, sessionId, hdb'⟩ := admitAttachment_eq_ok hop
      rw [IdentityDb.settle, hdb'] at h
      cases use with
      | lease i =>
        obtain ⟨l', hl', -, hid, hlive⟩ := h
        rcases List.mem_append.mp hl' with hl' | hl'
        · obtain ⟨l, hl, rfl⟩ := List.mem_map.mp hl'
          left
          split_ifs at hid hlive with hended
          · cases hlive
          · exact ⟨.lease l.id, l, hl, rfl, hid, hlive⟩
        · obtain rfl := List.mem_singleton.mp hl'
          right
          rw [← hid, hdevice]
          simp [IdentityTx.equips, hop, Except.toOption]
      | token i => exact .inl ⟨.token i, h⟩
      | sshKey i => exact .inl ⟨.sshKey i, h⟩
      | peer i => exact .inl ⟨.peer i, h⟩
      | forward i => exact .inl ⟨.forward i, h⟩
  | forward t =>
    cases use with
    | forward i =>
      obtain ⟨f', hf', -, hid, hopen⟩ := h
      rcases forwards_of_commit hdb hf' with ⟨f, hf, hkeeps⟩ | hequips
      · exact .inl ⟨.forward f.id, f, hf, rfl, hkeeps.deviceId ▸ hid, hkeeps.open_ hopen⟩
      · exact .inr (hid ▸ hequips)
    | sshKey i =>
      obtain ⟨k, hk, hactive⟩ := h
      exact .inl ⟨.sshKey i, k, (foreign_world t).2 ▸ hk, hactive⟩
    | token i => exact .inl ⟨.token i, h⟩
    | peer i => exact .inl ⟨.peer i, h⟩
    | lease i => exact .inl ⟨.lease i, h⟩

/-- An operation that equips a device allows it something. -/
lemma allows_of_equips (h : id ∈ t.equips settings forwardSettings seen db) :
    ∃ use, (t.commit settings forwardSettings seen db).1.Allows id use := by
  cases t with
  | registerDevice r =>
    simp only [IdentityTx.equips] at h
    split_ifs at h with hnone
    · obtain ⟨x, hop, rfl⟩ := Option.map_eq_some_iff.mp h
      rw [toOption_eq_some] at hop
      rcases registerDevice_eq_ok hop with ⟨hsome, -⟩ | ⟨-, -, hdb'⟩
      · rw [hnone] at hsome
        cases hsome
      · simp only [IdentityTx.commit, hop, IdentityDb.settle, hdb']
        exact ⟨.token (db.nextId + 3), _, List.mem_append_right _ List.mem_cons_self, rfl, rfl, rfl⟩
    · cases h
  | rotateDeviceToken actor deviceId =>
    obtain ⟨x, hop, rfl⟩ := Option.map_eq_some_iff.mp h
    rw [toOption_eq_some] at hop
    obtain ⟨tokens, userId, now, htoken, hdb'⟩ := rotateDeviceToken_eq_ok hop
    simp only [IdentityTx.commit, hop, IdentityDb.settle, hdb', htoken]
    exact ⟨.token db.nextId, _, List.mem_append_right _ List.mem_cons_self, rfl, rfl, rfl⟩
  | enrollWireguardPeer r =>
    obtain ⟨x, hop, rfl⟩ := Option.map_eq_some_iff.mp h
    rw [toOption_eq_some] at hop
    simp only [IdentityTx.commit, hop, IdentityDb.settle]
    rcases enrollWireguardPeer_eq_ok hop with ⟨-, ⟨publicKey, hpeer⟩, hdb'⟩ |
      ⟨old, hold, hactive, -, hpeer, hdb'⟩
    · refine ⟨.peer x.2.id, x.2, ?_, rfl, rfl, by rw [hpeer]; rfl⟩
      rw [hdb']
      exact List.mem_append_right _ List.mem_cons_self
    · refine ⟨.peer x.2.id, x.2, ?_, rfl, rfl, by rw [hpeer]; exact hactive⟩
      rw [hdb']
      exact (mem_replace ..).mpr (.inr ⟨rfl, old, hold, by rw [hpeer]; rfl⟩)
  | admitAttachment r =>
    obtain ⟨x, hop, rfl⟩ := Option.map_eq_some_iff.mp h
    rw [toOption_eq_some] at hop
    obtain ⟨hdevice, -, hstatus, sessionId, hdb'⟩ := admitAttachment_eq_ok hop
    simp only [IdentityTx.commit, hop, IdentityDb.settle, hdb']
    refine ⟨.lease x.2.id, x.2, List.mem_append_right _ List.mem_cons_self, rfl, hdevice, ?_⟩
    rw [hstatus]
    rfl
  | forward t =>
    cases t with
    | create r =>
      simp only [IdentityTx.equips] at h
      split_ifs at h with hnone
      · obtain ⟨created, hop, rfl⟩ := Option.map_eq_some_iff.mp h
        rw [toOption_eq_some] at hop
        rcases create_cases forwardSettings (fun i => (seen i).forwarding) db.forwarding r with
          ⟨created', -, hok, hcreates⟩ | ⟨-, hfailed⟩
        · obtain rfl := Except.ok.inj (hop.symm.trans hok)
          refine ⟨.forward created.portForward.id, created.portForward, ?_, rfl, rfl, ?_⟩
          · simp only [IdentityTx.commit, IdentityDb.foreign, ForwardTx.commit, answered,
              hcreates.forwards]
            exact List.mem_append_right _ List.mem_cons_self
          · rw [hcreates.status]
            rfl
        · exact absurd hop (hfailed hnone created)
      · cases h
    | _ => cases h
  | _ => cases h

/-! ### Devices -/

structure IdentityDb.Sound (db : IdentityDb) : Prop where
  forwarding : db.forwarding.Sound
  devices : (db.devices.map PortForwards.UserDevice.id).Nodup
  ids : ∀ d ∈ db.devices, d.id < db.nextId

/-- What an operation makes of the devices. -/
inductive DevicesMove (t : IdentityTx) (seen : ℕ → IdentityDb) (db db' : IdentityDb) : Prop
  | same : db'.devices = db.devices → DevicesMove t seen db db'
  | added (userId : Uuid) : db'.devices = db.devices ++ [⟨db.nextId, userId, .active⟩] →
    db.nextId < db'.nextId → DevicesMove t seen db db'
  | revoked (actor : PortForwards.User) (id : Uuid) : t = .revokeDevice actor id →
    (revokeDevice seen db actor id).isOk = true →
    (db'.devices = db.devices.map fun d => if d.id = id then { d with status := .revoked } else d) →
    DevicesMove t seen db db'
  | removed (p : PortForwards.UserDevice → Bool) (actor : PortForwards.User) (id : Uuid)
    (hasWorkspaces hasHistory : Bool) :
    t = .deleteDevice actor id hasWorkspaces hasHistory → db'.devices = db.devices.filter p →
    DevicesMove t seen db db'

/-- Of the tables, only the peers take a registration's WireGuard key. -/
lemma withPeer_eq (r : RegisterDevice) (device : PortForwards.UserDevice) (new : Uuid) :
    withPeer seen r device new db =
      { db with wireguardPeers := (withPeer seen r device new db).wireguardPeers } := by
  unfold withPeer
  split
  · rfl
  · split
    · split_ifs <;> rfl
    · rfl

variable (settings seen db) in
lemma registered_devices (r : RegisterDevice) (device : PortForwards.UserDevice) :
    (registered settings seen db r device).devices = (withDevice db r device).devices := by
  rw [registered, withPeer_eq]
  simp only [withSshKey]
  split <;> rfl

variable (settings seen db) in
lemma registered_forwarding (r : RegisterDevice) (device : PortForwards.UserDevice) :
    (registered settings seen db r device).forwarding.forwards = db.forwarding.forwards ∧
    (registered settings seen db r device).forwarding.connectionTokens =
      db.forwarding.connectionTokens ∧
    (registered settings seen db r device).nextId = db.nextId + 4 := by
  rw [registered, withPeer_eq]
  simp only [withSshKey, withDevice]
  split <;> split_ifs <;> exact ⟨rfl, rfl, rfl⟩

variable (settings forwardSettings seen db t) in
lemma devicesMove_of_commit :
    DevicesMove t seen db (t.commit settings forwardSettings seen db).1 := by
  cases t with
  | registerDevice r =>
    simp only [IdentityTx.commit]
    cases hop : registerDevice settings seen db r with
    | error e => exact .same rfl
    | ok x =>
      rcases registerDevice_eq_ok hop with ⟨-, hdb'⟩ | ⟨-, hdevice, hdb'⟩
      · rw [IdentityDb.settle, hdb']
        exact .same rfl
      · have hdevices := registered_devices settings seen db r x.2.device
        rw [IdentityDb.settle, hdb']
        unfold withDevice at hdevices
        rcases registeredDevice_eq_ok hdevice with ⟨hnone, heq⟩ | hsome
        · rw [hnone, if_neg (by simp)] at hdevices
          refine .added r.userId (hdevices.trans (by rw [heq]; rfl)) ?_
          rw [(registered_forwarding settings seen db r x.2.device).2.2]
          exact Nat.lt_add_of_pos_right (by decide)
        · rw [hsome, if_pos (by simp)] at hdevices
          exact .same hdevices
  | rotateDeviceToken actor deviceId =>
    simp only [IdentityTx.commit]
    cases hop : rotateDeviceToken settings seen db actor deviceId with
    | error e => exact .same rfl
    | ok x =>
      obtain ⟨tokens, userId, now, -, hdb'⟩ := rotateDeviceToken_eq_ok hop
      rw [IdentityDb.settle, hdb']
      exact .same rfl
  | refreshToken tokenId =>
    simp only [IdentityTx.commit]
    cases hop : refreshToken settings seen db tokenId with
    | error e => exact .same rfl
    | ok x =>
      obtain ⟨old, -, -, -, -, hdb'⟩ := refreshToken_eq_ok hop
      rw [IdentityDb.settle, hdb']
      exact .same rfl
  | enrollWireguardPeer r =>
    simp only [IdentityTx.commit]
    cases hop : enrollWireguardPeer settings seen db r with
    | error e => exact .same rfl
    | ok x =>
      rcases enrollWireguardPeer_eq_ok hop with ⟨-, -, hdb'⟩ | ⟨_, -, -, -, -, hdb'⟩
      · rw [IdentityDb.settle, hdb']
        exact .same rfl
      · rw [IdentityDb.settle, hdb']
        exact .same rfl
  | revokeDevice actor deviceId =>
    simp only [IdentityTx.commit]
    cases hop : revokeDevice seen db actor deviceId with
    | error e => exact .same rfl
    | ok x =>
      rw [IdentityDb.settle, revokeDevice_eq_ok hop]
      exact .revoked actor deviceId rfl (by rw [hop]; rfl) rfl
  | deleteDevice actor deviceId hasWorkspaces hasHistory =>
    simp only [IdentityTx.commit]
    cases hop : deleteDevice seen db actor deviceId hasWorkspaces hasHistory with
    | error e => exact .same rfl
    | ok x =>
      rw [IdentityDb.settle, deleteDevice_eq_ok hop]
      exact .removed _ actor deviceId hasWorkspaces hasHistory rfl rfl
  | admitAttachment r =>
    simp only [IdentityTx.commit]
    cases hop : admitAttachment seen db r with
    | error e => exact .same rfl
    | ok x =>
      obtain ⟨-, -, -, sessionId, hdb'⟩ := admitAttachment_eq_ok hop
      rw [IdentityDb.settle, hdb']
      exact .same rfl
  | forward t => exact .same (foreign_world t).1

/-- Forwards stay sound when some are dropped or rewritten under their identifiers. -/
lemma sound_of_sublist {forwards forwards' : ForwardDb} (h : forwards.Sound)
    (hn : forwards.nextId ≤ forwards'.nextId)
    (hids : (forwards'.forwards.map PortForward.id).Sublist (forwards.forwards.map PortForward.id))
    (htokens : forwards'.connectionTokens = forwards.connectionTokens) : forwards'.Sound where
  nodup := h.nodup.sublist hids
  ids f' hf' := by
    obtain ⟨f, hf, hid⟩ := List.mem_map.mp (hids.subset (List.mem_map_of_mem hf'))
    rw [← hid]
    exact (h.ids f hf).trans_le hn
  tokens token htoken := (h.tokens token (htokens ▸ htoken)).trans_le hn

lemma forwarding_of_commit (hdb : db.forwarding.Sound) :
    (t.commit settings forwardSettings seen db).1.forwarding.Sound ∧
      db.nextId ≤ (t.commit settings forwardSettings seen db).1.nextId := by
  have hself : db.forwarding.Sound ∧ db.nextId ≤ db.nextId := ⟨hdb, le_rfl⟩
  have hdraw : ∀ n, (db.draw n).forwarding.Sound ∧ db.nextId ≤ (db.draw n).nextId := fun n =>
    ⟨sound_of_sublist hdb (Nat.le_add_right _ n) (List.Sublist.refl _) rfl, Nat.le_add_right _ n⟩
  cases t with
  | registerDevice r =>
    simp only [IdentityTx.commit]
    cases hop : registerDevice settings seen db r with
    | error e => exact hself
    | ok x =>
      rcases registerDevice_eq_ok hop with ⟨-, hdb'⟩ | ⟨-, -, hdb'⟩
      · rw [IdentityDb.settle, hdb']
        exact hself
      · rw [IdentityDb.settle, hdb']
        obtain ⟨hforwards, htokens, hnext⟩ :=
          registered_forwarding settings seen db r x.2.device
        have hle : db.nextId ≤ (registered settings seen db r x.2.device).nextId := by
          rw [hnext]
          exact Nat.le_add_right _ 4
        exact ⟨sound_of_sublist hdb hle (by rw [hforwards]) htokens, hle⟩
  | rotateDeviceToken actor deviceId =>
    simp only [IdentityTx.commit]
    cases hop : rotateDeviceToken settings seen db actor deviceId with
    | error e => exact hself
    | ok x =>
      obtain ⟨tokens, userId, now, -, hdb'⟩ := rotateDeviceToken_eq_ok hop
      rw [IdentityDb.settle, hdb']
      exact hdraw 1
  | refreshToken tokenId =>
    simp only [IdentityTx.commit]
    cases hop : refreshToken settings seen db tokenId with
    | error e => exact hself
    | ok x =>
      obtain ⟨old, -, -, -, -, hdb'⟩ := refreshToken_eq_ok hop
      rw [IdentityDb.settle, hdb']
      exact hdraw 1
  | enrollWireguardPeer r =>
    simp only [IdentityTx.commit]
    cases hop : enrollWireguardPeer settings seen db r with
    | error e => exact hself
    | ok x =>
      rcases enrollWireguardPeer_eq_ok hop with ⟨-, -, hdb'⟩ | ⟨_, -, -, -, -, hdb'⟩
      · rw [IdentityDb.settle, hdb']
        exact hdraw 1
      · rw [IdentityDb.settle, hdb']
        exact hself
  | revokeDevice actor deviceId =>
    simp only [IdentityTx.commit]
    cases hop : revokeDevice seen db actor deviceId with
    | error e => exact hself
    | ok x =>
      rw [IdentityDb.settle, revokeDevice_eq_ok hop]
      have hids : (deviceRevoked seen db deviceId).forwarding.forwards.map PortForward.id =
          db.forwarding.forwards.map PortForward.id := by
        simp only [deviceRevoked, IdentityDb.setDevices, revokeForwardsOfDevice,
          IdentityDb.setForwards, List.map_map]
        refine List.map_congr_left fun f _ => ?_
        simp only [Function.comp]
        split_ifs <;> rfl
      exact ⟨sound_of_sublist hdb le_rfl (by rw [hids]) rfl, le_rfl⟩
  | deleteDevice actor deviceId hasWorkspaces hasHistory =>
    simp only [IdentityTx.commit]
    cases hop : deleteDevice seen db actor deviceId hasWorkspaces hasHistory with
    | error e => exact hself
    | ok x =>
      rw [IdentityDb.settle, deleteDevice_eq_ok hop]
      exact ⟨sound_of_sublist hdb le_rfl (List.filter_sublist.map _) rfl, le_rfl⟩
  | admitAttachment r =>
    simp only [IdentityTx.commit]
    cases hop : admitAttachment seen db r with
    | error e => exact hself
    | ok x =>
      obtain ⟨-, -, -, sessionId, hdb'⟩ := admitAttachment_eq_ok hop
      rw [IdentityDb.settle, hdb']
      exact hself
  | forward t =>
    have hfollows : ((db.foreign t).commit forwardSettings (fun i => (seen i).forwarding)
        db.forwarding).1.Sound ∧ _ := commit_follows hdb
    exact ⟨hfollows.1, hfollows.2.nextId⟩

lemma sound_of_commit (hdb : db.Sound) :
    (t.commit settings forwardSettings seen db).1.Sound := by
  have hforwards : (t.commit settings forwardSettings seen db).1.forwarding.Sound ∧
      db.nextId ≤ (t.commit settings forwardSettings seen db).1.nextId :=
    forwarding_of_commit hdb.forwarding
  obtain ⟨hforwarding, hnext⟩ := hforwards
  generalize hdb' : (t.commit settings forwardSettings seen db).1 = db' at hforwarding hnext
  have hmove := devicesMove_of_commit settings forwardSettings seen db t
  rw [hdb'] at hmove
  have hold : ∀ d ∈ db.devices, d.id < db'.nextId := fun d hd => (hdb.ids d hd).trans_le hnext
  cases hmove with
  | same h => exact ⟨hforwarding, h ▸ hdb.devices, h ▸ hold⟩
  | added userId h hlt =>
    refine ⟨hforwarding, ?_, fun d hd => ?_⟩
    · rw [h, List.map_append, List.nodup_append]
      refine ⟨hdb.devices, List.nodup_singleton _, fun a ha b hb => ?_⟩
      obtain ⟨d, hd, rfl⟩ := List.mem_map.mp ha
      rw [List.mem_singleton.mp hb]
      exact (hdb.ids d hd).ne
    · rw [h, List.mem_append, List.mem_singleton] at hd
      rcases hd with hd | rfl
      · exact hold d hd
      · exact hlt
  | revoked actor id _ _ h =>
    have hid : ∀ d : PortForwards.UserDevice,
        (if d.id = id then { d with status := .revoked } else d).id = d.id := fun d => by
      split_ifs <;> rfl
    refine ⟨hforwarding, ?_, fun d hd => ?_⟩
    · rw [h]
      exact nodup_map_key hid hdb.devices
    · rw [h] at hd
      obtain ⟨d, hmem, rfl⟩ := List.mem_map.mp hd
      rw [hid]
      exact hold d hmem
  | removed p _ _ _ _ _ h =>
    refine ⟨hforwarding, ?_, fun d hd => ?_⟩
    · rw [h]
      exact hdb.devices.sublist (List.filter_sublist.map _)
    · rw [h] at hd
      exact hold d (List.mem_filter.mp hd).1

/-- No operation makes a revoked device active. -/
lemma revoked_of_commit (hdb : db.Sound) {d d' : PortForwards.UserDevice} (hd : d ∈ db.devices)
    (hd' : d' ∈ (t.commit settings forwardSettings seen db).1.devices) (hid : d'.id = d.id)
    (hrevoked : d.status = .revoked) : d'.status = .revoked := by
  have hold : ∀ d₀ ∈ db.devices, d₀.id = d.id → d₀.status = .revoked := fun d₀ hd₀ heq =>
    (eq_of_key_eq hdb.devices hd₀ hd heq).symm ▸ hrevoked
  cases devicesMove_of_commit settings forwardSettings seen db t with
  | same h => exact hold d' (h ▸ hd') hid
  | added userId h _ =>
    rw [h, List.mem_append, List.mem_singleton] at hd'
    rcases hd' with hd' | rfl
    · exact hold d' hd' hid
    · exact absurd hid (hdb.ids d hd).ne'
  | revoked actor id _ _ h =>
    rw [h] at hd'
    obtain ⟨d₀, hd₀, rfl⟩ := List.mem_map.mp hd'
    split_ifs at hid ⊢
    · rfl
    · exact hold d₀ hd₀ hid
  | removed p _ _ _ _ _ h =>
    rw [h] at hd'
    exact hold d' (List.mem_filter.mp hd').1 hid

/-- Nothing uses a revoked device. -/
def IdentityDb.Clean (db : IdentityDb) : Prop :=
  ∀ d ∈ db.devices, d.status = .revoked → ∀ use, ¬db.Allows d.id use

lemma clean_of_current (hdb : db.Sound) (hclean : db.Clean)
    (h : t.Current settings forwardSettings seen db) :
    (t.commit settings forwardSettings seen db).1.Clean := by
  intro d' hd' hrevoked use hallows
  have hold : d' ∉ db.devices := by
    intro hd'
    rcases allows_of_commit hdb.forwarding hallows with ⟨use, hallows⟩ | hequips
    · exact hclean d' hd' hrevoked use hallows
    · rw [h.equips d'.id hequips d' hd' rfl] at hrevoked
      cases hrevoked
  cases devicesMove_of_commit settings forwardSettings seen db t with
  | same hdevices => exact hold (hdevices ▸ hd')
  | added userId hdevices _ =>
    rw [hdevices, List.mem_append, List.mem_singleton] at hd'
    rcases hd' with hd' | rfl
    · exact hold hd'
    · cases hrevoked
  | revoked actor id ht hok hdevices =>
    rw [hdevices] at hd'
    obtain ⟨d, hd, rfl⟩ := List.mem_map.mp hd'
    by_cases hid : d.id = id
    · rw [if_pos hid] at hallows
      subst ht
      obtain ⟨x, hop⟩ : ∃ x, revokeDevice seen db actor id = .ok x := by
        cases hop : revokeDevice seen db actor id with
        | error e =>
          rw [hop] at hok
          cases hok
        | ok x => exact ⟨x, rfl⟩
      simp only [IdentityTx.commit, hop, IdentityDb.settle, revokeDevice_eq_ok hop] at hallows
      obtain ⟨hbefore, hunread⟩ := allows_deviceRevoked.mp hallows
      refine hunread (h.reads actor id rfl hok d hd hid use ?_)
      rw [← hid]
      exact hbefore
    · rw [if_neg hid] at hold
      exact hold hd
  | removed p _ _ _ _ _ hdevices =>
    rw [hdevices] at hd'
    exact hold (List.mem_filter.mp hd').1

lemma current_of_clean (h : (t.commit settings forwardSettings seen db).1.Clean) :
    t.Current settings forwardSettings seen db := by
  constructor
  · intro id hequips d hd hid
    by_contra hactive
    have hrevoked : d.status = .revoked := by
      cases hstatus : d.status with
      | active => exact absurd hstatus hactive
      | revoked => rfl
    obtain ⟨use, hallows⟩ := allows_of_equips hequips
    refine h d ?_ hrevoked use (hid ▸ hallows)
    cases devicesMove_of_commit settings forwardSettings seen db t with
    | same hdevices => exact hdevices ▸ hd
    | added userId hdevices _ => exact hdevices ▸ List.mem_append_left _ hd
    | revoked actor id ht =>
      rw [ht] at hequips
      cases hequips
    | removed p actor id _ _ ht =>
      rw [ht] at hequips
      cases hequips
  · rintro actor id rfl hok d hd hid use hallows
    by_contra hunread
    cases hop : revokeDevice seen db actor id with
    | error e =>
      rw [hop] at hok
      cases hok
    | ok x =>
      simp only [IdentityTx.commit, hop, IdentityDb.settle, revokeDevice_eq_ok hop] at h
      refine h { d with status := .revoked } ?_ rfl use ?_
      · exact List.mem_map.mpr ⟨d, hd, if_pos hid⟩
      · exact allows_deviceRevoked.mpr ⟨hid ▸ hallows, hunread⟩

end

/-! ### Runs -/

section

variable {settings : IdentitySettings} {forwardSettings : PortForwardSettings}
  {world : ForwardWorld} {clock : Instant} {schedule : List (Scheduled IdentityTx)}

lemma emptyIdentityDb_sound : (emptyIdentityDb world clock).Sound := by
  refine ⟨?_, List.nodup_nil, nofun⟩
  constructor <;> simp [emptyIdentityDb]

lemma identity_ran :
    (identity settings forwardSettings world clock).Ran IdentityDb.Sound (fun _ _ => True)
      schedule :=
  Transactions.ran_of_step (fun _ => trivial) (fun _ _ => trivial) emptyIdentityDb_sound
    (fun _ hsees _ => ⟨sound_of_commit hsees.before, trivial⟩) fun _ _ => trivial

lemma clean_of_runs (h : ∀ c ∈ (identity settings forwardSettings world clock).commits schedule,
      c.tx.Current settings forwardSettings c.seen c.before)
    (c : Commit IdentityDb IdentityTx)
    (hc : c ∈ (identity settings forwardSettings world clock).commits schedule) :
    ((identity settings forwardSettings world clock).after c).Clean := by
  have hran : (identity settings forwardSettings world clock).Ran
      (fun db => db.Sound ∧ db.Clean) (fun _ _ => True) schedule :=
    Transactions.ran_of_step (fun _ => trivial) (fun _ _ => trivial)
      ⟨emptyIdentityDb_sound, nofun⟩ (fun c hsees hcurrent =>
        ⟨⟨sound_of_commit hsees.before.1,
          clean_of_current hsees.before.1 hsees.before.2 hcurrent⟩, trivial⟩) h
  exact (hran.after_of_mem hc).1.2

/-- Revocations are final in exactly the runs in which no operation equips a device that was
revoked since it was read, and every revocation has read all that its device is used through. -/
theorem revocationFinal_iff (settings : IdentitySettings) (forwardSettings : PortForwardSettings)
    (world : ForwardWorld) (clock : Instant) (schedule : List (Scheduled IdentityTx)) :
    RevocationFinal (identity settings forwardSettings world clock) schedule ↔
      ∀ c ∈ (identity settings forwardSettings world clock).commits schedule,
        c.tx.Current settings forwardSettings c.seen c.before := by
  constructor
  · intro h c hc
    exact current_of_clean (h.unused c hc)
  · intro h
    exact {
      absorbing := fun c hc d hd d' hd' =>
        revoked_of_commit (identity_ran.sees_of_mem hc).before hd hd'
      unused := fun c hc => clean_of_runs h c hc }

end

/-! ### A registration that outlives a revocation -/

def sampleIdentitySettings : IdentitySettings where
  deviceTokenTtlSeconds := 2592000
  accessTokenTtlSeconds := 3600
  validWireguardKey key := key.length = 44

def sampleRegistration (existing : Option Uuid) : RegisterDevice where
  userId := 2
  intent := ⟨"laptop".toList, "linux".toList, none, "ssh-ed25519 key".toList, none, existing⟩
  requestId := none

/-- A device is registered again by a request that has read it before its revocation. -/
def sampleRevocation : List (Scheduled IdentityTx) :=
  [.stale (.registerDevice (sampleRegistration (some 1))) 7 1,
    .fresh (.revokeDevice sampleForwardUser 1),
    .fresh (.registerDevice (sampleRegistration none))]

theorem registration_outlives_revocation :
    ¬RevocationFinal (identity sampleIdentitySettings sampleForwardSettings sampleForwardWorld 0)
      sampleRevocation := by
  intro h
  have hused : ∃ c ∈ (identity sampleIdentitySettings sampleForwardSettings sampleForwardWorld
      0).commits sampleRevocation,
      ∃ d ∈ ((identity sampleIdentitySettings sampleForwardSettings sampleForwardWorld 0).after
        c).devices, d.status = .revoked ∧
      ∃ t ∈ ((identity sampleIdentitySettings sampleForwardSettings sampleForwardWorld 0).after
        c).tokens, t.userDeviceId = some d.id ∧ t.status = .active := by
    decide +kernel
  obtain ⟨c, hc, d, hd, hrevoked, t, ht, hdevice, hactive⟩ := hused
  exact h.unused c hc d hd hrevoked (.token t.id) ⟨t, ht, rfl, hdevice, hactive⟩

end AgentRemote.Identity
