import AgentRemote.Identity.Devices

/-!
# The devices of a database

The operations on devices and credentials as transactions of one database, next to those on port
forwards and to the changes that other services make to users, sessions, accounts and nodes.
-/

namespace AgentRemote.Identity
open Library PortForwards

inductive IdentityTx where
  | registerDevice (request : RegisterDevice)
  | rotateDeviceToken (actor : PortForwards.User) (id : Uuid)
  | refreshToken (id : Uuid)
  | enrollWireguardPeer (request : EnrollPeer)
  | revokeDevice (actor : PortForwards.User) (id : Uuid)
  | deleteDevice (actor : PortForwards.User) (id : Uuid) (hasWorkspaces hasHistory : Bool)
  | admitAttachment (request : AdmitAttachment)
  | forward (t : ForwardTx)

inductive IdentityAnswer where
  | failed (failure : IdentityFailure)
  | registered (result : DeviceRegistrationResult)
  | issued (token : AuthToken)
  | enrolled (peer : WireGuardPeer)
  | revoked (device : PortForwards.UserDevice)
  | deleted
  | admitted (lease : SessionAttachmentLease)
  | forward (answer : ForwardAnswer)

/-- The state that an operation leaves, and its answer. -/
def IdentityDb.settle {α : Type} (db : IdentityDb) (f : α → IdentityAnswer) :
    Except IdentityFailure (IdentityDb × α) → IdentityDb × IdentityAnswer
  | .ok (after, a) => (after, f a)
  | .error e => (db, .failed e)

/-- A change of the rows of other services. Devices and their SSH keys are no such rows. -/
def IdentityDb.foreign (db : IdentityDb) : ForwardTx → ForwardTx
  | .world rows => .world { rows with devices := db.devices, sshKeys := db.sshKeys }
  | t => t

def IdentityTx.commit (settings : IdentitySettings) (forwardSettings : PortForwardSettings)
    (t : IdentityTx) (seen : ℕ → IdentityDb) (db : IdentityDb) : IdentityDb × IdentityAnswer :=
  match t with
  | .registerDevice r => db.settle .registered (Identity.registerDevice settings seen db r)
  | .rotateDeviceToken actor id =>
    db.settle .issued (Identity.rotateDeviceToken settings seen db actor id)
  | .refreshToken id => db.settle .issued (Identity.refreshToken settings seen db id)
  | .enrollWireguardPeer r =>
    db.settle .enrolled (Identity.enrollWireguardPeer settings seen db r)
  | .revokeDevice actor id => db.settle .revoked (Identity.revokeDevice seen db actor id)
  | .deleteDevice actor id hasWorkspaces hasHistory =>
    db.settle (fun _ => .deleted)
      (Identity.deleteDevice seen db actor id hasWorkspaces hasHistory)
  | .admitAttachment r => db.settle .admitted (Identity.admitAttachment seen db r)
  | .forward t =>
    let r := (db.foreign t).commit forwardSettings (fun i => (seen i).forwarding) db.forwarding
    ({ db with forwarding := r.1 }, .forward r.2)

/-- The database before the first device. -/
def emptyIdentityDb (world : ForwardWorld) (clock : Instant) : IdentityDb where
  forwarding := ⟨{ world with devices := [], sshKeys := [] }, [], [], clock, 1⟩
  wireguardPeers := []
  tokens := []
  leases := []
  registrations := []

/-- The transactions on the devices of a server. -/
def identity (settings : IdentitySettings) (forwardSettings : PortForwardSettings)
    (world : ForwardWorld) (clock : Instant) : Transactions IdentityDb IdentityTx IdentityAnswer :=
  ⟨emptyIdentityDb world clock, IdentityTx.commit settings forwardSettings⟩

/-! ### What an operation leaves -/

section

variable {settings : IdentitySettings} {seen : ℕ → IdentityDb} {db db' : IdentityDb}

lemma requireVisibleDevice_eq_ok {at_ : IdentityDb} {actor : PortForwards.User} {id : Uuid}
    {device : PortForwards.UserDevice} (h : requireVisibleDevice at_ actor id = .ok device) :
    device.id = id := by
  unfold requireVisibleDevice at h
  split at h
  · cases h
  · rename_i found hfound
    rw [reject_bind_eq_ok] at h
    obtain rfl := Except.ok.inj h.2
    exact key_of_lookup hfound

lemma registerDevice_eq_ok {r : RegisterDevice} {result : DeviceRegistrationResult}
    (h : registerDevice settings seen db r = .ok (db', result)) :
    ((seen 0).getRegistration r.userId r.requestId).isSome ∧ db' = db ∨
      (seen 0).getRegistration r.userId r.requestId = none ∧
        registeredDevice seen db r = .ok result.device ∧
        db' = registered settings seen db r result.device := by
  unfold registerDevice at h
  split at h
  · rename_i previous hprevious
    rw [reject_bind_eq_ok] at h
    obtain ⟨_, -, h⟩ := bind_eq_ok.mp h.2
    obtain ⟨rfl, -⟩ := Prod.mk.inj (Except.ok.inj h)
    exact .inl ⟨by rw [hprevious]; rfl, rfl⟩
  · rename_i hprevious
    obtain ⟨device, hdevice, h⟩ := bind_eq_ok.mp h
    simp only [reject_bind_eq_ok] at h
    obtain ⟨rfl, rfl⟩ := Prod.mk.inj (Except.ok.inj h.2.2.2)
    exact .inr ⟨hprevious, hdevice, rfl⟩

lemma registeredDevice_eq_ok {r : RegisterDevice} {device : PortForwards.UserDevice}
    (h : registeredDevice seen db r = .ok device) :
    (r.intent.existingDeviceId = none ∧ device = ⟨db.nextId, r.userId, .active⟩) ∨
      r.intent.existingDeviceId = some device.id := by
  unfold registeredDevice at h
  split at h
  · rename_i hnone
    exact .inl ⟨hnone, (Except.ok.inj h).symm⟩
  · rename_i id hid
    split at h
    · cases h
    · rename_i found hfound
      simp only [reject_bind_eq_ok] at h
      obtain rfl := Except.ok.inj h.2.2
      rw [hid, key_of_lookup hfound]
      exact .inr rfl

lemma rotateDeviceToken_eq_ok {actor : PortForwards.User} {id : Uuid} {token : AuthToken}
    (h : rotateDeviceToken settings seen db actor id = .ok (db', token)) :
    ∃ tokens userId now, token = issuedToken settings db.nextId userId (some id) .device now ∧
      db' = { (db.revokeTokens tokens).draw 1 with
        tokens := (db.revokeTokens tokens).tokens ++ [token] } := by
  unfold rotateDeviceToken at h
  obtain ⟨device, hdevice, h⟩ := bind_eq_ok.mp h
  simp only [reject_bind_eq_ok] at h
  obtain ⟨rfl, rfl⟩ := Prod.mk.inj (Except.ok.inj h.2.2.2.2)
  obtain rfl := requireVisibleDevice_eq_ok hdevice
  exact ⟨_, _, _, rfl, rfl⟩

lemma refreshToken_eq_ok {id : Uuid} {token : AuthToken}
    (h : refreshToken settings seen db id = .ok (db', token)) :
    ∃ old ∈ db.tokens, old.status = .active ∧
      (∀ deviceId, token.userDeviceId = some deviceId → old.userDeviceId = some deviceId) ∧
      token.id = db.nextId ∧ db' = { (db.revokeTokens [old.id]).draw 1 with
        tokens := (db.revokeTokens [old.id]).tokens ++ [token] } := by
  unfold refreshToken at h
  split at h
  · cases h
  · rename_i old hold
    obtain ⟨hlookup, hactive⟩ := Option.filter_eq_some_iff.mp hold
    simp only [reject_bind_eq_ok] at h
    obtain ⟨rfl, rfl⟩ := Prod.mk.inj (Except.ok.inj h.2.2.2)
    refine ⟨old, mem_of_lookup hlookup, by simpa using hactive, fun deviceId hid => ?_, rfl, rfl⟩
    obtain ⟨device, hdevice, rfl⟩ := Option.map_eq_some_iff.mp hid
    obtain ⟨k, hk, hget⟩ := Option.bind_eq_some_iff.mp hdevice
    rw [hk, key_of_lookup hget]

lemma lockedPeer_eq_some {deviceId : Uuid} {peer : WireGuardPeer}
    (h : lockedPeer seen db deviceId = some peer) :
    peer ∈ db.wireguardPeers ∧ peer.status = .active := by
  obtain ⟨found, -, h⟩ := List.exists_of_findSome?_eq_some h
  split_ifs at h
  have hfound := List.find?_some h
  simp only [decide_eq_true_eq] at hfound
  exact ⟨List.mem_of_find?_eq_some h, hfound.2.2⟩

/-- The request presents the peer as it is. -/
structure EnrollPeer.Presents (r : EnrollPeer) (peer : WireGuardPeer) : Prop where
  id : r.expectedPeerId = some peer.id
  publicKey : r.expectedPublicKey = some peer.publicKey
  version : r.expectedPeerVersion = some peer.version

/-- The peer with the key of an enrolment. -/
def WireGuardPeer.rotate (peer : WireGuardPeer) (publicKey : Text) : WireGuardPeer :=
  { peer with
    version := if peer.publicKey = publicKey then peer.version else peer.version + 1
    publicKey := publicKey }

/-- An enrolment makes a peer or rotates one that is active. -/
lemma enrollWireguardPeer_eq_ok {r : EnrollPeer} {peer : WireGuardPeer}
    (h : enrollWireguardPeer settings seen db r = .ok (db', peer)) :
    (r.expectedPeerId = none ∧ (∃ publicKey, peer = newPeer db.nextId peer.userDeviceId publicKey
        (seen 2).wireguardPeers.length) ∧
      db' = { db.draw 1 with wireguardPeers := db.wireguardPeers ++ [peer] }) ∨
    ∃ old ∈ db.wireguardPeers, old.status = .active ∧ r.Presents old ∧
      peer = old.rotate r.publicKey ∧
      db' = { db with wireguardPeers := replace WireGuardPeer.id db.wireguardPeers peer } := by
  unfold enrollWireguardPeer at h
  rw [reject_bind_eq_ok] at h
  obtain ⟨-, h⟩ := h
  split at h
  · cases h
  · split at h
    · cases h
    · split at h
      · unfold enrollNew at h
        simp only [reject_bind_eq_ok, not_or, Option.not_isSome_iff_eq_none] at h
        obtain ⟨rfl, rfl⟩ := Prod.mk.inj (Except.ok.inj h.2.2)
        exact .inl ⟨h.1.1, ⟨_, rfl⟩, rfl⟩
      · rename_i old hold
        unfold enrollAgain at h
        simp only [reject_bind_eq_ok, not_or, not_not] at h
        obtain ⟨⟨hid, hkey, hversion⟩, h⟩ := h
        obtain ⟨rfl, rfl⟩ := Prod.mk.inj (Except.ok.inj h)
        obtain ⟨hmem, hactive⟩ := lockedPeer_eq_some hold
        exact .inr ⟨old, hmem, hactive, ⟨hid, hkey, hversion⟩, rfl, rfl⟩

lemma revokeDevice_eq_ok {actor : PortForwards.User} {id : Uuid} {device : PortForwards.UserDevice}
    (h : revokeDevice seen db actor id = .ok (db', device)) : db' = deviceRevoked seen db id := by
  unfold revokeDevice at h
  obtain ⟨_, -, h⟩ := bind_eq_ok.mp h
  dsimp only at h
  rw [reject_bind_eq_ok] at h
  exact (Prod.mk.inj (Except.ok.inj h.2)).1.symm

/-- The tables once the device and what belongs to it are deleted. -/
def deviceDeleted (db : IdentityDb) (id : Uuid) : IdentityDb :=
  let base := (db.setDevices (db.devices.filter (·.id ≠ id))).setSshKeys
    (db.sshKeys.filter (·.userDeviceId ≠ id))
  { base.setForwards (db.forwarding.forwards.filter (·.deviceId ≠ id)) with
    wireguardPeers := db.wireguardPeers.filter (·.userDeviceId ≠ id)
    tokens := db.tokens.filter (·.userDeviceId ≠ some id) }

lemma deleteDevice_eq_ok {actor : PortForwards.User} {id : Uuid}
    {hasWorkspaces hasHistory : Bool} {u : Unit}
    (h : deleteDevice seen db actor id hasWorkspaces hasHistory = .ok (db', u)) :
    db' = deviceDeleted db id := by
  unfold deleteDevice at h
  obtain ⟨_, -, h⟩ := bind_eq_ok.mp h
  simp only [reject_bind_eq_ok] at h
  exact (Prod.mk.inj (Except.ok.inj h.2.2.2.2)).1.symm

/-- An admission expires leases and adds one that is open. -/
lemma admitAttachment_eq_ok {r : AdmitAttachment} {lease : SessionAttachmentLease}
    (h : admitAttachment seen db r = .ok (db', lease)) :
    lease.deviceId = r.deviceId ∧ lease.id = r.leaseId ∧ lease.status = .issued ∧
      ∃ sessionId, db' = { db with leases := (db.leases.map fun l =>
        if l.sessionId = sessionId ∧ l.status.live = true then
          { l with status := .expired, invalidationReason := some "lease_expired".toList }
        else l) ++ [lease] } := by
  unfold admitAttachment at h
  simp only [reject_bind_eq_ok] at h
  obtain ⟨-, -, h⟩ := h
  split at h
  · cases h
  · simp only [reject_bind_eq_ok] at h
    obtain ⟨runtime, -, h⟩ := bind_eq_ok.mp h.2.2
    simp only [reject_bind_eq_ok] at h
    obtain ⟨rfl, rfl⟩ := Prod.mk.inj (Except.ok.inj h.2.2.2.2.2)
    exact ⟨rfl, rfl, rfl, runtime.id, rfl⟩

end

end AgentRemote.Identity
