import AgentRemote.Attachments.Service

/-!
# Exclusive and final leases

What must hold of every interleaving of admissions, cleanups, session stops and deletions and
device revocations, and when it does. Leases are exclusive and final in every run. A cleaned
lease was valid at its commit as long as its device and key were not revoked while the report was
under way, and a report can be repeated as long as it was not recorded as rejected.
-/

namespace AgentRemote.Attachments
open Library PortForwards Runtimes

/-- The lease still gives access. -/
def AttachmentLease.LiveAt (lease : AttachmentLease) (now : Instant) : Prop :=
  lease.status.live = true ∧ now < lease.expiresAt

/-- What a lease needs to be marked cleaned, which its record says happened at `now`. -/
structure AttachmentDb.Cleans (db : AttachmentDb) (lease cleaned : AttachmentLease)
    (now : Instant) : Prop where
  live : lease.status.live = true
  time : now ≤ db.clock
  recorded : cleaned.cleanedAt = some now
  unexpired : now < lease.expiresAt
  session : db.sessionValid lease = true
  device : db.deviceValid lease = true
  key : db.keyValid lease = true

/-- A receipt moves only once, from pending or unknown to cleaned or rejected. -/
def CleanupReceipt.Moves (receipt receipt' : CleanupReceipt) : Prop :=
  receipt'.status = receipt.status ∨
    receipt.status.unsettled = true ∧ receipt'.status.unsettled = false

section

variable (S : Transactions AttachmentDb AttachmentTx AttachmentAnswer)
  (schedule : List (Scheduled AttachmentTx)) (c : Commit AttachmentDb AttachmentTx)

/-- The commit accepts a cleanup report. -/
def Accepted (nodeId : Uuid) (r : CleanupReport) : Prop :=
  c.tx = .recordCleanup nodeId r ∧ ∃ data, S.answer c = .receipt data

/-- What must hold of a run. -/
structure AttachmentGuarantees : Prop where
  exclusive : ∀ l ∈ (S.state schedule).leases, ∀ l' ∈ (S.state schedule).leases,
    l.sessionId = l'.sessionId → l.LiveAt (S.state schedule).clock →
      l'.LiveAt (S.state schedule).clock → l = l'
  admittedOnce : (S.commits schedule).Pairwise fun later earlier =>
    ∀ l l', S.answer earlier = .admitted l → S.answer later = .admitted l' → l'.id ≠ l.id
  final : ∀ c ∈ S.commits schedule, ∀ l ∈ c.before.leases, ∀ l' ∈ (S.after c).leases,
    l'.id = l.id → l.status.live = false → l'.status.live = false
  oneReceipt : ∀ r ∈ (S.state schedule).receipts, ∀ r' ∈ (S.state schedule).receipts,
    r.leaseId = r'.leaseId → r = r'
  receiptMoves : ∀ c ∈ S.commits schedule, ∀ r ∈ c.before.receipts,
    ∃ r' ∈ (S.after c).receipts, r'.leaseId = r.leaseId ∧ r.Moves r'
  cleaned : ∀ c ∈ S.commits schedule, ∀ l' ∈ (S.after c).leases, l'.status = .cleaned →
    ∃ l ∈ c.before.leases, l.id = l'.id ∧
      (l.status = .cleaned ∨ ∃ now, c.before.Cleans l l' now)
  repeated : (S.commits schedule).Pairwise fun later earlier =>
    ∀ nodeId r, Accepted S earlier nodeId r → later.tx = .recordCleanup nodeId r →
      S.after later = later.before ∧ ∃ receipt ∈ later.before.receipts,
        receipt.leaseId = r.leaseId ∧ S.answer later = .receipt receipt.data

/-- Reports meet rows that allow what the source does with them. -/
structure Undisturbed : Prop where
  checks : ∀ c ∈ S.commits schedule, ∀ nodeId r, c.tx = .recordCleanup nodeId r →
    r.status = .cleaned → ∀ lease, c.before.getLease r.leaseId = some lease →
      (lockedRead c.seen c.before lease.id 1).activeDevice lease.userId lease.deviceId =
        c.before.activeDevice lease.userId lease.deviceId ∧
      (lockedRead c.seen c.before lease.id 2).activeSshKey lease.deviceId lease.sshKeyId =
        c.before.activeSshKey lease.deviceId lease.sshKeyId
  repeats : (S.commits schedule).Pairwise fun later earlier =>
    ∀ nodeId r, Accepted S earlier nodeId r → later.tx = .recordCleanup nodeId r →
      ∀ receipt, later.before.receiptFor r.leaseId = some receipt →
        receipt.status = .rejected → r.status = .rejected

end

/-! ### What every run keeps -/

structure AttachmentDb.Sound (db : AttachmentDb) : Prop where
  leases : (db.leases.map AttachmentLease.id).Nodup
  receipts : (db.receipts.map CleanupReceipt.leaseId).Nodup
  exclusive : ∀ l ∈ db.leases, ∀ l' ∈ db.leases, l.sessionId = l'.sessionId →
    l.status.live = true → l'.status.live = true → l.id = l'.id

/-- What every update of a lease keeps. -/
structure AttachmentLease.Keeps (l l' : AttachmentLease) : Prop where
  id : l'.id = l.id
  sessionId : l'.sessionId = l.sessionId
  userId : l'.userId = l.userId
  nodeId : l'.nodeId = l.nodeId
  deviceId : l'.deviceId = l.deviceId
  sshKeyId : l'.sshKeyId = l.sshKeyId
  runtimeBackend : l'.runtimeBackend = l.runtimeBackend
  expiresAt : l'.expiresAt = l.expiresAt
  live : l'.status.live = true → l.status.live = true

/-- A lease and what became of it. While it is live its session has stayed valid. -/
structure AttachmentDb.Carries (db db' : AttachmentDb) (l l' : AttachmentLease) : Prop where
  keeps : l.Keeps l'
  session : l'.status.live = true → db.sessionValid l = true → db'.sessionValid l = true

/-- How a state follows from an earlier one. -/
structure AttachmentDb.Follows (db db' : AttachmentDb) : Prop where
  leases : ∀ id l, db.getLease id = some l →
    ∃ l', db'.getLease id = some l' ∧ db.Carries db' l l'
  receipts : ∀ id r, db.receiptFor id = some r →
    ∃ r', db'.receiptFor id = some r' ∧ r'.receiptId = r.receiptId ∧ r.Moves r'
  clock : db.clock ≤ db'.clock

section

variable {db db' db'' : AttachmentDb} {l l' l'' : AttachmentLease} {r r' r'' : CleanupReceipt}

lemma AttachmentLease.Keeps.refl (l : AttachmentLease) : l.Keeps l :=
  ⟨rfl, rfl, rfl, rfl, rfl, rfl, rfl, rfl, fun h => h⟩

lemma AttachmentLease.Keeps.trans (h : l.Keeps l') (h' : l'.Keeps l'') : l.Keeps l'' where
  id := h'.id.trans h.id
  sessionId := h'.sessionId.trans h.sessionId
  userId := h'.userId.trans h.userId
  nodeId := h'.nodeId.trans h.nodeId
  deviceId := h'.deviceId.trans h.deviceId
  sshKeyId := h'.sshKeyId.trans h.sshKeyId
  runtimeBackend := h'.runtimeBackend.trans h.runtimeBackend
  expiresAt := h'.expiresAt.trans h.expiresAt
  live hlive := h.live (h'.live hlive)

lemma CleanupReceipt.Moves.refl (r : CleanupReceipt) : r.Moves r := .inl rfl

lemma CleanupReceipt.Moves.trans (h : r.Moves r') (h' : r'.Moves r'') : r.Moves r'' := by
  rcases h with heq | ⟨hopen, hclosed⟩
  · rcases h' with heq' | ⟨hopen', hclosed'⟩
    · exact .inl (heq'.trans heq)
    · exact .inr ⟨heq ▸ hopen', hclosed'⟩
  · rcases h' with heq' | ⟨hopen', -⟩
    · exact .inr ⟨hopen, heq' ▸ hclosed⟩
    · exact absurd (hopen'.symm.trans hclosed) (by decide)

/-- The validity of the session depends on what a lease keeps. -/
lemma AttachmentLease.Keeps.sessionValid (h : l.Keeps l') :
    db.sessionValid l' = db.sessionValid l := by
  unfold AttachmentDb.sessionValid
  rw [h.sessionId, h.userId, h.nodeId, h.runtimeBackend]

lemma AttachmentDb.Carries.trans (h : db.Carries db' l l') (h' : db'.Carries db'' l' l'') :
    db.Carries db'' l l'' where
  keeps := h.keeps.trans h'.keeps
  session hlive hvalid := by
    have hmiddle := h.session (h'.keeps.live hlive) hvalid
    rw [← h.keeps.sessionValid] at hmiddle ⊢
    exact h'.session hlive hmiddle

lemma AttachmentDb.Follows.refl (db : AttachmentDb) : db.Follows db :=
  ⟨fun _ l hl => ⟨l, hl, .refl l, fun _ h => h⟩, fun _ r hr => ⟨r, hr, rfl, .refl r⟩, le_rfl⟩

lemma AttachmentDb.Follows.trans (h : db.Follows db') (h' : db'.Follows db'') :
    db.Follows db'' where
  leases id l hl := by
    obtain ⟨l', hl', hcarries⟩ := h.leases id l hl
    obtain ⟨l'', hl'', hcarries'⟩ := h'.leases id l' hl'
    exact ⟨l'', hl'', hcarries.trans hcarries'⟩
  receipts id r hr := by
    obtain ⟨r', hr', hid, hmoves⟩ := h.receipts id r hr
    obtain ⟨r'', hr'', hid', hmoves'⟩ := h'.receipts id r' hr'
    exact ⟨r'', hr'', hid'.trans hid, hmoves.trans hmoves'⟩
  clock := h.clock.trans h'.clock

/-- Leases that are rewritten, with new ones after them. -/
lemma getLease_map {g : AttachmentLease → AttachmentLease} {news : List AttachmentLease}
    (hg : ∀ l ∈ db.leases, db.Carries db' l (g l))
    (h : db'.leases = db.leases.map g ++ news) {id : Uuid} (hl : db.getLease id = some l) :
    db'.getLease id = some (g l) := by
  have hmap : lookup AttachmentLease.id (db.leases.map g) id = some (g l) := by
    unfold AttachmentDb.getLease lookup at *
    rw [List.find?_map]
    have hcongr : db.leases.find? ((fun l => decide (l.id = id)) ∘ g) =
        db.leases.find? fun l => decide (l.id = id) := by
      refine List.find?_congr fun l hl => ?_
      rw [Function.comp_apply, (hg l hl).keeps.id]
    rw [hcongr, hl]
    rfl
  unfold AttachmentDb.getLease
  rw [h, lookup_append, hmap]
  rfl

lemma nodup_map_leases {g : AttachmentLease → AttachmentLease}
    (hg : ∀ l ∈ db.leases, l.Keeps (g l)) :
    (db.leases.map g).map AttachmentLease.id = db.leases.map AttachmentLease.id := by
  rw [List.map_map]
  exact List.map_congr_left fun l hl => (hg l hl).id

/-- Rewritten leases leave each session with one live lease at most. -/
lemma exclusive_map {g : AttachmentLease → AttachmentLease} (hdb : db.Sound)
    (hg : ∀ l ∈ db.leases, l.Keeps (g l)) :
    ∀ l ∈ db.leases.map g, ∀ l' ∈ db.leases.map g, l.sessionId = l'.sessionId →
      l.status.live = true → l'.status.live = true → l.id = l'.id := by
  intro _ hmem _ hmem' hsession hlive hlive'
  obtain ⟨l, hl, rfl⟩ := List.mem_map.mp hmem
  obtain ⟨l', hl', rfl⟩ := List.mem_map.mp hmem'
  have hk := hg l hl
  have hk' := hg l' hl'
  rw [hk.id, hk'.id]
  refine hdb.exclusive l hl l' hl' ?_ (hk.live hlive) (hk'.live hlive')
  rw [← hk.sessionId, ← hk'.sessionId, hsession]

/-- A commit that rewrites leases. -/
lemma follows_of_map {g : AttachmentLease → AttachmentLease} (hdb : db.Sound)
    (hg : ∀ l ∈ db.leases, db.Carries db' l (g l)) (h : db'.leases = db.leases.map g)
    (hnodup : (db'.receipts.map CleanupReceipt.leaseId).Nodup)
    (hreceipts : ∀ id r, db.receiptFor id = some r →
      ∃ r', db'.receiptFor id = some r' ∧ r'.receiptId = r.receiptId ∧ r.Moves r')
    (hclock : db.clock ≤ db'.clock) : db'.Sound ∧ db.Follows db' := by
  have hkeeps : ∀ l ∈ db.leases, l.Keeps (g l) := fun l hl => (hg l hl).keeps
  refine ⟨⟨?_, hnodup, ?_⟩, ⟨fun id l hl => ?_, hreceipts, hclock⟩⟩
  · rw [h, nodup_map_leases hkeeps]
    exact hdb.leases
  · rw [h]
    exact exclusive_map hdb hkeeps
  · exact ⟨g l, getLease_map hg (h.trans (List.append_nil _).symm) hl,
      hg l (mem_of_lookup hl)⟩

/-- A commit that leaves the receipts. -/
lemma receipts_of_eq (h : db'.receipts = db.receipts) (id : Uuid) (r : CleanupReceipt)
    (hr : db.receiptFor id = some r) :
    ∃ r', db'.receiptFor id = some r' ∧ r'.receiptId = r.receiptId ∧ r.Moves r' := by
  unfold AttachmentDb.receiptFor at *
  exact ⟨r, h ▸ hr, rfl, .refl r⟩

lemma follows_map {g : AttachmentLease → AttachmentLease} (hdb : db.Sound)
    (hg : ∀ l ∈ db.leases, db.Carries db' l (g l)) (h : db'.leases = db.leases.map g)
    (hreceipts : db'.receipts = db.receipts) (hclock : db.clock ≤ db'.clock) :
    db'.Sound ∧ db.Follows db' :=
  follows_of_map hdb hg h (hreceipts ▸ hdb.receipts) (receipts_of_eq hreceipts) hclock

end

/-! ### Sessions and devices -/

section

variable {seen : ℕ → AttachmentDb} {db db' : AttachmentDb} {l l' : AttachmentLease}
  {now : Instant} {reason : Text}

lemma lapsed_keeps (l : AttachmentLease) (now : Instant) : l.Keeps (l.lapsed now) :=
  ⟨rfl, rfl, rfl, rfl, rfl, rfl, rfl, rfl, nofun⟩

lemma revoked_keeps (l : AttachmentLease) (reason : Text) (now : Instant) :
    l.Keeps (l.revoked reason now) :=
  ⟨rfl, rfl, rfl, rfl, rfl, rfl, rfl, rfl, nofun⟩

/-- A lease whose session is as it was. -/
lemma carries_of_sessions (h : l.Keeps l')
    (hsession : db'.getSession l.sessionId = db.getSession l.sessionId) : db.Carries db' l l' where
  keeps := h
  session _ hvalid := by
    unfold AttachmentDb.sessionValid at *
    rwa [hsession]

/-- A lease that was revoked where the sessions may have changed. -/
lemma invalidate_carries {selected : AttachmentLease → Bool} (l : AttachmentLease)
    (h : selected l = false → db'.getSession l.sessionId = db.getSession l.sessionId) :
    db.Carries db' l
      (if selected l ∧ l.status.live then l.revoked reason now else l) := by
  split_ifs with hrevoked
  · exact ⟨revoked_keeps l reason now, nofun⟩
  · by_cases hselected : selected l = true
    · refine ⟨.refl l, fun hlive => ?_⟩
      exact absurd ⟨hselected, hlive⟩ hrevoked
    · exact carries_of_sessions (.refl l) (h (by simpa using hselected))

/-- A commit that revokes the leases of the sessions it changes. -/
lemma follows_invalidate {selected : AttachmentLease → Bool} (hdb : db.Sound)
    (h : ∀ l, selected l = false → db'.getSession l.sessionId = db.getSession l.sessionId)
    (hleases : db'.leases = invalidate db selected reason now)
    (hreceipts : db'.receipts = db.receipts) (hclock : db.clock ≤ db'.clock) :
    db'.Sound ∧ db.Follows db' :=
  follows_map hdb (fun l _ => invalidate_carries l (h l)) hleases hreceipts hclock

lemma stopSession_follows (hdb : db.Sound) (userId sessionId : Uuid) :
    (stopSession seen db userId sessionId).1.Sound ∧
      db.Follows (stopSession seen db userId sessionId).1 := by
  unfold stopSession
  split
  · exact ⟨hdb, .refl db⟩
  · rename_i runtime hruntime
    have hid : runtime.id = sessionId := key_of_lookup (Option.filter_eq_some_iff.mp hruntime).1
    refine follows_invalidate hdb (fun l hother => ?_) rfl rfl le_rfl
    have hne : l.sessionId ≠ sessionId := by simpa using hother
    unfold AttachmentDb.getSession
    dsimp only
    rw [lookup_replace, if_neg]
    split_ifs <;> exact fun h => hne (h.trans hid)

lemma deleteSessions_follows (hdb : db.Sound) (userId : Uuid) (ids : List Uuid) (settled : Bool) :
    (deleteSessions seen db userId ids settled).1.Sound ∧
      db.Follows (deleteSessions seen db userId ids settled).1 := by
  unfold deleteSessions
  split_ifs
  · exact ⟨hdb, .refl db⟩
  · exact ⟨hdb, .refl db⟩
  · refine follows_invalidate hdb (fun l hother => ?_) rfl rfl le_rfl
    have hkept : l.sessionId ∉ ids := by simpa using hother
    have hfilter : lookup Session.id
        (db.sessions.filter ((fun id => decide (id ∉ ids)) ∘ Session.id)) l.sessionId = _ :=
      lookup_filter fun id => decide (id ∉ ids)
    rw [if_pos (decide_eq_true hkept)] at hfilter
    exact hfilter
  · exact ⟨hdb, .refl db⟩

lemma revokeDevice_follows (hdb : db.Sound) (actorId : Uuid) (admin : Bool) (deviceId : Uuid) :
    (revokeDevice seen db actorId admin deviceId).1.Sound ∧
      db.Follows (revokeDevice seen db actorId admin deviceId).1 := by
  unfold revokeDevice
  split
  · exact ⟨hdb, .refl db⟩
  · exact follows_invalidate hdb (fun _ _ => rfl) rfl rfl le_rfl

/-- A session that runs is not changed by what a node reports of it. -/
lemma reportSession_valid (sessionId : Uuid) (status : ToolSessionStatus)
    (h : db.sessionValid l = true) : (reportSession db sessionId status).sessionValid l = true := by
  unfold AttachmentDb.sessionValid AttachmentDb.getSession at *
  unfold reportSession
  rw [lookup_map _ fun s => by split_ifs <;> rfl]
  obtain ⟨s, hs, hvalid⟩ := (Option.any_eq_true ..).mp h
  rw [hs]
  have hlive : s.status.live = true := (of_decide_eq_true hvalid).2.2.2.1
  rw [Option.map_some, if_neg]
  · exact hvalid
  · rintro ⟨-, ⟨heq, -⟩ | ⟨heq, -⟩⟩ <;> rw [heq] at hlive <;> cases hlive

lemma reportSession_follows (hdb : db.Sound) (sessionId : Uuid) (status : ToolSessionStatus) :
    (reportSession db sessionId status).Sound ∧ db.Follows (reportSession db sessionId status) := by
  refine follows_map (g := id) hdb (fun l _ => ?_) (List.map_id _).symm rfl le_rfl
  exact ⟨.refl l, fun _ hvalid => reportSession_valid sessionId status hvalid⟩

end

/-! ### Admissions -/

section

variable {seen : ℕ → AttachmentDb} {db db' : AttachmentDb} {node : Node} {r : AdmissionRequest}
  {runtime : Session} {lease : AttachmentLease}

lemma lapseLeases_carries {sessionId : Uuid} {now : Instant} (l : AttachmentLease)
    (h : db'.sessions = db.sessions) :
    db.Carries db' l (if l.sessionId = sessionId ∧ l.status.live then l.lapsed now else l) := by
  have hsession : db'.getSession l.sessionId = db.getSession l.sessionId := by
    unfold AttachmentDb.getSession
    rw [h]
  split_ifs
  · exact carries_of_sessions (lapsed_keeps l now) hsession
  · exact carries_of_sessions (.refl l) hsession

/-- No lease of the session is live once its live leases have lapsed. -/
lemma lapseLeases_live {sessionId : Uuid} {now : Instant} {l : AttachmentLease}
    (hl : l ∈ lapseLeases db sessionId now) (h : l.sessionId = sessionId) :
    l.status.live = false := by
  obtain ⟨old, -, rfl⟩ := List.mem_map.mp hl
  split_ifs at h ⊢ with hlive
  · rfl
  · simpa [h] using hlive

/-- What an admission commits. -/
structure AttachmentDb.Admits (db db' : AttachmentDb) (lease : AttachmentLease) (now : Instant) :
    Prop where
  new : db.getLease lease.id = none
  status : lease.status = .issued
  leases : db'.leases = lapseLeases db lease.sessionId now ++ [lease]
  receipts : db'.receipts = db.receipts
  sessions : db'.sessions = db.sessions
  clock : db'.clock = db.clock

lemma admit_cases {P : AttachmentDb × Except AttachmentFailure AttachmentLease → Prop}
    (failed : ∀ e, P (db, .error e))
    (admitted : ∀ db' lease, lease.id = r.leaseId →
      db.Admits db' lease (seen 4).clock → P (db', .ok lease)) :
    P (Attachments.admitAttachment seen db node r) := by
  unfold Attachments.admitAttachment
  split
  · exact failed _
  · dsimp only
    split_ifs with hnew
    · refine admitted _ _ rfl ⟨hnew, rfl, ?_, rfl, rfl, rfl⟩
      rfl
    · exact failed _

lemma AttachmentDb.Admits.follows {now : Instant} (h : db.Admits db' lease now) (hdb : db.Sound) :
    db'.Sound ∧ db.Follows db' := by
  have hcarries : ∀ l ∈ db.leases, db.Carries db' l
      (if l.sessionId = lease.sessionId ∧ l.status.live then l.lapsed now else l) :=
    fun l _ => lapseLeases_carries l h.sessions
  have hkeeps := fun l hl => (hcarries l hl).keeps
  refine ⟨⟨?_, h.receipts ▸ hdb.receipts, ?_⟩, ⟨fun id l hl => ?_, receipts_of_eq h.receipts, h.clock.ge⟩⟩
  · rw [h.leases, List.map_append, lapseLeases, nodup_map_leases hkeeps]
    refine List.nodup_append.mpr ⟨hdb.leases, List.nodup_singleton _, fun id hid id' hid' => ?_⟩
    obtain ⟨l, hl, rfl⟩ := List.mem_map.mp hid
    obtain rfl := List.mem_singleton.mp hid'
    exact lookup_eq_none_iff.mp h.new l hl
  · rw [h.leases]
    intro l hl l' hl' hsession hlive hlive'
    rcases List.mem_append.mp hl with hold | hnew
    · rcases List.mem_append.mp hl' with hold' | hnew'
      · exact exclusive_map hdb hkeeps l hold l' hold' hsession hlive hlive'
      · obtain rfl := List.mem_singleton.mp hnew'
        exact absurd (hlive.symm.trans (lapseLeases_live hold hsession)) (by decide)
    · obtain rfl := List.mem_singleton.mp hnew
      rcases List.mem_append.mp hl' with hold' | hnew'
      · exact absurd (hlive'.symm.trans (lapseLeases_live hold' hsession.symm)) (by decide)
      · obtain rfl := List.mem_singleton.mp hnew'
        rfl
  · exact ⟨_, getLease_map hcarries h.leases hl, hcarries l (mem_of_lookup hl)⟩

lemma admit_follows (hdb : db.Sound) :
    (Attachments.admitAttachment seen db node r).1.Sound ∧
      db.Follows (Attachments.admitAttachment seen db node r).1 := by
  refine admit_cases (P := fun x => x.1.Sound ∧ db.Follows x.1) ?_ ?_
  · exact fun _ => ⟨hdb, .refl db⟩
  · exact fun _ _ _ h => h.follows hdb

end

/-! ### Cleanups -/

section

variable {seen : ℕ → AttachmentDb} {db db' : AttachmentDb} {nodeId : Uuid} {r : CleanupReport}
  {lease : AttachmentLease} {receipt : CleanupReceipt} {status : ReceiptStatus} {now : Instant}

/-- The lease is the one that a report names. -/
structure AttachmentLease.Named (lease : AttachmentLease) (nodeId : Uuid) (r : CleanupReport) :
    Prop where
  node : lease.nodeId = nodeId
  session : lease.sessionId = r.sessionId
  device : lease.deviceId = r.deviceId
  key : lease.sshKeyId = r.sshKeyId

/-- The identifiers of a report name something. -/
def CleanupReport.WellFormed (r : CleanupReport) (nodeId : Uuid) : Prop :=
  r.nodeId ≠ 0 ∧ r.sessionId ≠ 0 ∧ r.deviceId ≠ 0 ∧ r.sshKeyId ≠ 0 ∧ r.leaseId ≠ 0 ∧
    r.receiptId ≠ 0 ∧ nodeId = r.nodeId

lemma checkCleanup_eq_ok : checkCleanup db nodeId r = .ok lease ↔
    r.WellFormed nodeId ∧ db.getLease r.leaseId = some lease ∧ lease.Named nodeId r := by
  unfold checkCleanup requireUuid CleanupReport.WellFormed
  simp only [reject_bind_eq_ok, ne_eq, not_not, and_assoc]
  refine and_congr_right fun _ => and_congr_right fun _ => and_congr_right fun _ =>
    and_congr_right fun _ => and_congr_right fun _ => and_congr_right fun _ =>
      and_congr_right fun _ => ?_
  cases db.getLease r.leaseId with
  | none => simp
  | some found =>
    simp only [reject_bind_eq_ok, not_or, not_not, Option.some.injEq, Except.ok.injEq]
    constructor
    · rintro ⟨⟨hnode, hsession, hdevice, hkey⟩, rfl⟩
      exact ⟨rfl, hnode, hsession, hdevice, hkey⟩
    · rintro ⟨rfl, hnamed⟩
      exact ⟨⟨hnamed.node, hnamed.session, hnamed.device, hnamed.key⟩, rfl⟩

/-- A report that neither fails nor repeats its receipt settles it. -/
lemma replays_eq_ok {repeated : Bool} (h : replays receipt r = .ok repeated) :
    receipt.receiptId = r.receiptId ∧
      (repeated = true ∧ (receipt.status = .cleaned ∨ receipt.status = r.status) ∨
        repeated = false ∧ receipt.status.unsettled = true ∧ r.status = .cleaned) := by
  unfold replays at h
  rw [reject_bind_eq_ok, not_not] at h
  obtain ⟨hid, h⟩ := h
  refine ⟨hid, ?_⟩
  split_ifs at h with hsame
  · exact .inl ⟨(Except.ok.inj h).symm, hsame⟩
  · rw [reject_bind_eq_ok] at h
    obtain ⟨hmoves, h⟩ := h
    simp only [not_or, Bool.not_eq_false, not_not] at hmoves
    exact .inr ⟨(Except.ok.inj h).symm, hmoves⟩

lemma replays_of_same (hid : receipt.receiptId = r.receiptId)
    (h : receipt.status = .cleaned ∨ receipt.status = r.status) :
    replays receipt r = .ok true := by
  unfold replays
  rw [reject_of_not (not_not.mpr hid), ok_bind, if_pos h]

lemma settled_keeps (h : status.leaseStatus.live = true → lease.status.live = true) :
    lease.Keeps (lease.settled status now) := by
  cases status <;> exact ⟨rfl, rfl, rfl, rfl, rfl, rfl, rfl, rfl, h⟩

lemma settled_status : (lease.settled status now).status = status.leaseStatus := by
  cases status <;> rfl

lemma recordedStatus_live (h : (recordedStatus seen db lease r).leaseStatus.live = true) :
    lease.status.live = true := by
  unfold recordedStatus at h
  split_ifs at h with hvalid
  · exact hvalid.1
  · cases h

lemma recordedStatus_cases :
    recordedStatus seen db lease r = r.status ∨ recordedStatus seen db lease r = .rejected := by
  unfold recordedStatus
  split_ifs
  · exact .inl rfl
  · exact .inr rfl

variable (seen db r lease) in
/-- The leases once a report is recorded. -/
def settledLeases : List AttachmentLease :=
  replace AttachmentLease.id db.leases
    (lease.settled (recordedStatus seen db lease r) (lockedRead seen db lease.id 3).clock)

/-- The ways `recordCleanup` succeeds. -/
lemma recordCleanup_cases {P : AttachmentDb × CleanupReceipt → Prop}
    (repeated : ∀ lease receipt, checkCleanup db nodeId r = .ok lease →
      db.receiptFor lease.id = some receipt → receipt.receiptId = r.receiptId →
        receipt.status = .cleaned ∨ receipt.status = r.status → P (db, receipt))
    (moved : ∀ lease receipt, checkCleanup db nodeId r = .ok lease →
      db.receiptFor lease.id = some receipt → receipt.receiptId = r.receiptId →
        receipt.status.unsettled = true → r.status = .cleaned →
          let new := receipt.reported r (recordedStatus seen db lease r)
            (lockedRead seen db lease.id 3).clock
          P ({ db with
               leases := settledLeases seen db r lease
               receipts := replace CleanupReceipt.leaseId db.receipts new }, new))
    (first : ∀ lease, checkCleanup db nodeId r = .ok lease → db.receiptFor lease.id = none →
      let new := newReceipt db lease r (recordedStatus seen db lease r)
        (lockedRead seen db lease.id 3).clock
      P ({ db with
           leases := settledLeases seen db r lease
           receipts := db.receipts ++ [new]
           nextId := db.nextId + 1 }, new))
    {x : AttachmentDb × CleanupReceipt} (h : Attachments.recordCleanup seen db nodeId r = .ok x) :
    P x := by
  unfold Attachments.recordCleanup at h
  obtain ⟨lease, hlease, h⟩ := bind_eq_ok.mp h
  split at h
  · rename_i hnone
    unfold storeReceipt at h
    dsimp only at h
    split_ifs at h
    obtain rfl := Except.ok.inj h
    exact first lease hlease hnone
  · rename_i receipt hreceipt
    obtain ⟨again, hreplays, h⟩ := bind_eq_ok.mp h
    obtain ⟨hid, ⟨rfl, hsame⟩ | ⟨rfl, hopen, hcleaned⟩⟩ := replays_eq_ok hreplays
    · obtain rfl := Except.ok.inj h
      exact repeated lease receipt hlease hreceipt hid hsame
    · obtain rfl := Except.ok.inj h
      exact moved lease receipt hlease hreceipt hid hopen hcleaned

/-- A report leaves every other lease as it was. -/
lemma settledLeases_carries (hdb : db.Sound) (hlease : db.getLease r.leaseId = some lease)
    (hsessions : db'.sessions = db.sessions) {now : Instant} :
    ∀ l ∈ db.leases, db.Carries db' l
      (if l.id = (lease.settled (recordedStatus seen db lease r) now).id then
        lease.settled (recordedStatus seen db lease r) now else l) := by
  intro l hl
  have hsession : db'.getSession l.sessionId = db.getSession l.sessionId := by
    unfold AttachmentDb.getSession
    rw [hsessions]
  have hkeeps : lease.Keeps (lease.settled (recordedStatus seen db lease r) now) :=
    settled_keeps recordedStatus_live
  split_ifs with hid
  · rw [hkeeps.id] at hid
    obtain rfl := eq_of_key_eq hdb.leases hl (mem_of_lookup hlease) hid
    exact carries_of_sessions hkeeps hsession
  · exact carries_of_sessions (.refl l) hsession

lemma recordedStatus_settles (h : r.status = .cleaned) :
    (recordedStatus seen db lease r).unsettled = false := by
  rcases recordedStatus_cases with heq | heq
  · rw [heq, h]
    rfl
  · rw [heq]
    rfl

lemma recordCleanup_follows (hdb : db.Sound) {x : AttachmentDb × CleanupReceipt}
    (h : Attachments.recordCleanup seen db nodeId r = .ok x) : x.1.Sound ∧ db.Follows x.1 := by
  refine recordCleanup_cases (P := fun x => x.1.Sound ∧ db.Follows x.1) ?_ ?_ ?_ h
  · exact fun _ _ _ _ _ _ => ⟨hdb, .refl db⟩
  · intro lease receipt hcheck hreceipt hid hopen hcleaned new
    have hlease := (checkCleanup_eq_ok.mp hcheck).2.1
    have hold : receipt.leaseId = lease.id := key_of_lookup hreceipt
    have hleaseId : new.leaseId = lease.id := hold
    refine follows_of_map hdb (settledLeases_carries hdb hlease (by rfl)) rfl ?_ ?_ le_rfl
    · rw [map_key_replace]
      exact hdb.receipts
    · intro id receipt' hreceipt'
      unfold AttachmentDb.receiptFor at hreceipt' ⊢
      dsimp only
      rw [lookup_replace, hreceipt']
      split_ifs with heq
      · rw [hleaseId] at heq
        subst heq
        obtain rfl := Option.some.inj (hreceipt.symm.trans hreceipt')
        exact ⟨new, rfl, rfl, .inr ⟨hopen, recordedStatus_settles hcleaned⟩⟩
      · exact ⟨receipt', rfl, rfl, .refl _⟩
  · intro lease hcheck hnone new
    have hlease := (checkCleanup_eq_ok.mp hcheck).2.1
    refine follows_of_map hdb (settledLeases_carries hdb hlease (by rfl)) rfl ?_ ?_ le_rfl
    · rw [List.map_append]
      refine List.nodup_append.mpr ⟨hdb.receipts, List.nodup_singleton _, fun id hid id' hid' => ?_⟩
      obtain ⟨receipt, hmem, rfl⟩ := List.mem_map.mp hid
      obtain rfl := List.mem_singleton.mp hid'
      exact lookup_eq_none_iff.mp hnone receipt hmem
    · intro id receipt hreceipt
      unfold AttachmentDb.receiptFor at hreceipt ⊢
      exact ⟨receipt, by rw [lookup_append, hreceipt]; rfl, rfl, .refl _⟩

end

/-! ### One commit -/

section

variable {seen : ℕ → AttachmentDb} {db : AttachmentDb} {t : AttachmentTx} {l' : AttachmentLease}

lemma commit_follows (hdb : db.Sound) :
    (t.commit seen db).1.Sound ∧ db.Follows (t.commit seen db).1 := by
  cases t with
  | admitAttachment node r => exact admit_follows hdb
  | recordCleanup nodeId r =>
    unfold AttachmentTx.commit
    dsimp only
    split
    · rename_i x after receipt hok
      exact recordCleanup_follows hdb hok
    · exact ⟨hdb, .refl db⟩
  | stopSession userId sessionId => exact stopSession_follows hdb userId sessionId
  | deleteSessions userId ids settled => exact deleteSessions_follows hdb userId ids settled
  | revokeDevice actorId admin deviceId => exact revokeDevice_follows hdb actorId admin deviceId
  | reportSession sessionId status => exact reportSession_follows hdb sessionId status
  | tick elapsed =>
    refine follows_map (g := id) hdb (fun l _ => carries_of_sessions (.refl l) rfl)
      (List.map_id _).symm rfl ?_
    exact Int.le_add_of_nonneg_right (Int.natCast_nonneg elapsed)

/-- The lease was cleaned before. -/
def AttachmentDb.Kept (db : AttachmentDb) (l' : AttachmentLease) : Prop :=
  ∃ l ∈ db.leases, l.id = l'.id ∧ l.status = .cleaned

lemma kept_invalidate {selected : AttachmentLease → Bool} {reason : Text} {now : Instant}
    (hl' : l' ∈ invalidate db selected reason now) (h : l'.status = .cleaned) : db.Kept l' := by
  obtain ⟨l, hl, rfl⟩ := List.mem_map.mp hl'
  split_ifs at h ⊢
  · cases h
  · exact ⟨l, hl, rfl, h⟩

lemma kept_of_mem {db' : AttachmentDb} (hleases : db'.leases = db.leases) (hl' : l' ∈ db'.leases)
    (h : l'.status = .cleaned) : db.Kept l' :=
  ⟨l', hleases ▸ hl', rfl, h⟩

lemma admit_kept {node : Node} {r : AdmissionRequest} :
    ∀ l' ∈ (Attachments.admitAttachment seen db node r).1.leases, l'.status = .cleaned → db.Kept l' := by
  refine admit_cases (P := fun x => ∀ l' ∈ x.1.leases, l'.status = .cleaned → db.Kept l') ?_ ?_
  · exact fun _ l' hl' h => kept_of_mem rfl hl' h
  · intro db' lease _ hadmits l' hl' h
    rw [hadmits.leases] at hl'
    rcases List.mem_append.mp hl' with hold | hnew
    · obtain ⟨l, hl, rfl⟩ := List.mem_map.mp hold
      split_ifs at h ⊢
      · cases h
      · exact ⟨l, hl, rfl, h⟩
    · obtain rfl := List.mem_singleton.mp hnew
      cases hadmits.status.symm.trans h

/-- Only a cleanup report marks a lease cleaned. -/
lemma commit_kept (h : ∀ nodeId r, t ≠ .recordCleanup nodeId r)
    (hl' : l' ∈ (t.commit seen db).1.leases) (hcleaned : l'.status = .cleaned) : db.Kept l' := by
  cases t with
  | admitAttachment node r => exact admit_kept l' hl' hcleaned
  | recordCleanup nodeId r => exact absurd rfl (h nodeId r)
  | stopSession userId sessionId =>
    simp only [AttachmentTx.commit, answered, Attachments.stopSession] at hl'
    split at hl'
    · exact kept_of_mem rfl hl' hcleaned
    · exact kept_invalidate hl' hcleaned
  | deleteSessions userId ids settled =>
    simp only [AttachmentTx.commit, answered, Attachments.deleteSessions] at hl'
    split_ifs at hl'
    · exact kept_of_mem rfl hl' hcleaned
    · exact kept_of_mem rfl hl' hcleaned
    · exact kept_invalidate hl' hcleaned
    · exact kept_of_mem rfl hl' hcleaned
  | revokeDevice actorId admin deviceId =>
    simp only [AttachmentTx.commit, answered, Attachments.revokeDevice] at hl'
    split at hl'
    · exact kept_of_mem rfl hl' hcleaned
    · exact kept_invalidate hl' hcleaned
  | reportSession sessionId status => exact kept_of_mem rfl hl' hcleaned
  | tick elapsed => exact kept_of_mem rfl hl' hcleaned

variable {nodeId : Uuid} {r : CleanupReport} {lease : AttachmentLease}

/-- A lock on the lease keeps its session from being stopped. -/
lemma lockedRead_session (hseen : ∀ i, (seen i).Follows db) {i : ℕ}
    (hlease : db.getLease lease.id = some lease) (hlive : lease.status.live = true)
    (h : (lockedRead seen db lease.id i).sessionValid lease = true) :
    db.sessionValid lease = true := by
  unfold lockedRead at h
  split_ifs at h with hsame
  · obtain ⟨l', hl', hcarries⟩ := (hseen i).leases _ _ (hsame.trans hlease)
    obtain rfl := Option.some.inj (hlease.symm.trans hl')
    exact hcarries.session hlive h
  · exact h

lemma lockedRead_clock (hseen : ∀ i, (seen i).Follows db) (id : Uuid) (i : ℕ) :
    (lockedRead seen db id i).clock ≤ db.clock := by
  unfold lockedRead
  split_ifs
  · exact (hseen i).clock
  · exact le_rfl

/-- What a report that marks its lease cleaned has checked. -/
lemma recordedStatus_cleaned (h : recordedStatus seen db lease r = .cleaned) :
    r.status = .cleaned ∧ lease.status.live = true ∧
      currentIdentityIsValid seen db lease = true ∧
        (lockedRead seen db lease.id 3).clock < lease.expiresAt := by
  unfold recordedStatus at h
  split_ifs at h with hvalid
  exact ⟨h, hvalid.1, hvalid.2.1, hvalid.2.2⟩

/-- A report that marks its lease cleaned, with rows that have not changed since it checked
them. -/
lemma settled_cleans (hseen : ∀ i, (seen i).Follows db)
    (hlease : db.getLease lease.id = some lease)
    (hchecks : r.status = .cleaned →
      (lockedRead seen db lease.id 1).activeDevice lease.userId lease.deviceId =
        db.activeDevice lease.userId lease.deviceId ∧
      (lockedRead seen db lease.id 2).activeSshKey lease.deviceId lease.sshKeyId =
        db.activeSshKey lease.deviceId lease.sshKeyId)
    (h : recordedStatus seen db lease r = .cleaned) {now : Instant}
    (hnow : now = (lockedRead seen db lease.id 3).clock) :
    db.Cleans lease (lease.settled (recordedStatus seen db lease r) now) now := by
  obtain ⟨hstatus, hlive, hidentity, hexpires⟩ := recordedStatus_cleaned h
  obtain ⟨hsession, hdevice, hkey⟩ := of_decide_eq_true hidentity
  obtain ⟨hsameDevice, hsameKey⟩ := hchecks hstatus
  refine ⟨hlive, hnow ▸ lockedRead_clock hseen _ 3, ?_, hnow ▸ hexpires,
    lockedRead_session hseen hlease hlive hsession, ?_, ?_⟩
  · rw [h]
    rfl
  · unfold AttachmentDb.deviceValid at hdevice ⊢
    rwa [← hsameDevice]
  · unfold AttachmentDb.keyValid at hkey ⊢
    rwa [← hsameKey]

lemma recordCleanup_cleans (hseen : ∀ i, (seen i).Follows db)
    (hchecks : r.status = .cleaned → ∀ lease, db.getLease r.leaseId = some lease →
      (lockedRead seen db lease.id 1).activeDevice lease.userId lease.deviceId =
        db.activeDevice lease.userId lease.deviceId ∧
      (lockedRead seen db lease.id 2).activeSshKey lease.deviceId lease.sshKeyId =
        db.activeSshKey lease.deviceId lease.sshKeyId)
    {x : AttachmentDb × CleanupReceipt} (h : Attachments.recordCleanup seen db nodeId r = .ok x) :
    ∀ l' ∈ x.1.leases, l'.status = .cleaned → ∃ l ∈ db.leases, l.id = l'.id ∧
      (l.status = .cleaned ∨ ∃ now, db.Cleans l l' now) := by
  have hsettled : ∀ lease, checkCleanup db nodeId r = .ok lease →
      ∀ l' ∈ settledLeases seen db r lease, l'.status = .cleaned →
        ∃ l ∈ db.leases, l.id = l'.id ∧ (l.status = .cleaned ∨ ∃ now, db.Cleans l l' now) := by
    intro lease hcheck l' hl' hcleaned
    have hlease := (checkCleanup_eq_ok.mp hcheck).2.1
    have hid : lease.id = r.leaseId := key_of_lookup hlease
    rcases mem_replace.mp hl' with ⟨hl', -⟩ | ⟨rfl, -⟩
    · exact ⟨l', hl', rfl, .inl hcleaned⟩
    · refine ⟨lease, mem_of_lookup hlease, (settled_keeps recordedStatus_live).id.symm,
        .inr ⟨_, settled_cleans hseen (hid ▸ hlease) (fun h => hchecks h lease hlease) ?_ rfl⟩⟩
      rw [settled_status] at hcleaned
      cases hstatus : recordedStatus seen db lease r with
      | cleaned => rfl
      | pending => rw [hstatus] at hcleaned; cases hcleaned
      | unknown => rw [hstatus] at hcleaned; cases hcleaned
      | rejected => rw [hstatus] at hcleaned; cases hcleaned
  refine recordCleanup_cases (P := fun x => ∀ l' ∈ x.1.leases, l'.status = .cleaned →
    ∃ l ∈ db.leases, l.id = l'.id ∧ (l.status = .cleaned ∨ ∃ now, db.Cleans l l' now)) ?_ ?_ ?_ h
  · exact fun _ _ _ _ _ _ l' hl' hcleaned => ⟨l', hl', rfl, .inl hcleaned⟩
  · exact fun lease _ hcheck _ _ _ _ l' hl' hcleaned => hsettled lease hcheck l' hl' hcleaned
  · exact fun lease hcheck _ l' hl' hcleaned => hsettled lease hcheck l' hl' hcleaned

/-- What an accepted report leaves. -/
structure AttachmentDb.Records (db : AttachmentDb) (nodeId : Uuid) (r : CleanupReport)
    (receipt : CleanupReceipt) : Prop where
  wellFormed : r.WellFormed nodeId
  lease : ∃ lease, db.getLease r.leaseId = some lease ∧ lease.Named nodeId r
  stored : db.receiptFor r.leaseId = some receipt
  receiptId : receipt.receiptId = r.receiptId
  status : receipt.status = .cleaned ∨ receipt.status = r.status ∨ receipt.status = .rejected

lemma recordCleanup_records (hdb : db.Sound) {x : AttachmentDb × CleanupReceipt}
    (h : Attachments.recordCleanup seen db nodeId r = .ok x) : x.1.Records nodeId r x.2 := by
  have hfollows := (recordCleanup_follows hdb h).2
  have hnamed : ∀ lease, checkCleanup db nodeId r = .ok lease →
      ∃ lease', x.1.getLease r.leaseId = some lease' ∧ lease'.Named nodeId r := by
    intro lease hcheck
    obtain ⟨-, hlease, hnamed⟩ := checkCleanup_eq_ok.mp hcheck
    obtain ⟨lease', hlease', hcarries⟩ := hfollows.leases _ _ hlease
    have hkeeps := hcarries.keeps
    exact ⟨lease', hlease', hkeeps.nodeId.trans hnamed.node,
      hkeeps.sessionId.trans hnamed.session, hkeeps.deviceId.trans hnamed.device,
      hkeeps.sshKeyId.trans hnamed.key⟩
  have hid : ∀ lease, checkCleanup db nodeId r = .ok lease → lease.id = r.leaseId :=
    fun lease hcheck => key_of_lookup (checkCleanup_eq_ok.mp hcheck).2.1
  have hrecorded : ∀ lease, recordedStatus seen db lease r = .cleaned ∨
      recordedStatus seen db lease r = r.status ∨ recordedStatus seen db lease r = .rejected :=
    fun _ => .inr recordedStatus_cases
  revert hnamed
  refine recordCleanup_cases (P := fun x => (∀ lease, checkCleanup db nodeId r = .ok lease →
    ∃ lease', x.1.getLease r.leaseId = some lease' ∧ lease'.Named nodeId r) →
      x.1.Records nodeId r x.2) ?_ ?_ ?_ h
  · intro lease receipt hcheck hreceipt hreceiptId hsame hnamed
    exact ⟨(checkCleanup_eq_ok.mp hcheck).1, hnamed lease hcheck, hid lease hcheck ▸ hreceipt,
      hreceiptId, hsame.imp_right .inl⟩
  · intro lease receipt hcheck hreceipt hreceiptId _ _ new hnamed
    refine ⟨(checkCleanup_eq_ok.mp hcheck).1, hnamed lease hcheck, ?_, hreceiptId,
      hrecorded lease⟩
    have hold : receipt.leaseId = lease.id := key_of_lookup hreceipt
    have hnew : r.leaseId = new.leaseId := (hid lease hcheck).symm.trans hold.symm
    unfold AttachmentDb.receiptFor at hreceipt ⊢
    dsimp only
    rw [lookup_replace, if_pos hnew, ← hid lease hcheck, hreceipt]
    rfl
  · intro lease hcheck hnone new hnamed
    refine ⟨(checkCleanup_eq_ok.mp hcheck).1, hnamed lease hcheck, ?_, rfl, hrecorded lease⟩
    have hnew : new.leaseId = lease.id := rfl
    unfold AttachmentDb.receiptFor at hnone ⊢
    dsimp only
    rw [lookup_append, ← hid lease hcheck, hnone, Option.none_or]
    simp [lookup, hnew]

/-- A report that finds itself recorded is answered with the receipt. -/
lemma recordCleanup_repeats {receipt : CleanupReceipt} (h : db.Records nodeId r receipt)
    (hstatus : receipt.status = .cleaned ∨ receipt.status = r.status) :
    Attachments.recordCleanup seen db nodeId r = .ok (db, receipt) := by
  obtain ⟨lease, hlease, hnamed⟩ := h.lease
  have hid : lease.id = r.leaseId := key_of_lookup hlease
  unfold Attachments.recordCleanup
  rw [checkCleanup_eq_ok.mpr ⟨h.wellFormed, hlease, hnamed⟩, ok_bind, hid, h.stored]
  dsimp only
  rw [replays_of_same h.receiptId hstatus, ok_bind, if_pos rfl]

end

/-! ### Runs -/

section

variable {world : AttachmentWorld} {schedule : List (Scheduled AttachmentTx)}
  {c : Commit AttachmentDb AttachmentTx} {nodeId : Uuid} {r : CleanupReport}

theorem attaching_ran (world : AttachmentWorld) (schedule : List (Scheduled AttachmentTx)) :
    (attaching world).Ran AttachmentDb.Sound AttachmentDb.Follows schedule := by
  refine Transactions.ran_of_step AttachmentDb.Follows.refl AttachmentDb.Follows.trans ?_
    (fun _ hsees _ => commit_follows hsees.before) fun _ _ => trivial
  constructor <;> simp [attaching, emptyAttachmentDb]

/-- The lease that a commit issues was not there before it and is there after it. -/
lemma admitted_lease {l : AttachmentLease} (h : (attaching world).answer c = .admitted l) :
    c.before.getLease l.id = none ∧ l ∈ ((attaching world).after c).leases := by
  unfold Transactions.answer Transactions.after at *
  generalize c.tx = t at h ⊢
  cases t with
  | admitAttachment node r =>
    revert h
    refine admit_cases (P := fun x => (answered .admitted x).2 = .admitted l →
      c.before.getLease l.id = none ∧ l ∈ x.1.leases) (fun _ => nofun) ?_
    intro db' lease _ hadmits h
    obtain rfl := AttachmentAnswer.admitted.inj h
    refine ⟨hadmits.new, ?_⟩
    rw [hadmits.leases]
    exact List.mem_append_right _ List.mem_cons_self
  | recordCleanup nodeId r =>
    simp only [attaching, AttachmentTx.commit] at h
    split at h <;> cases h
  | stopSession userId sessionId =>
    simp only [attaching, AttachmentTx.commit, answered] at h
    split at h <;> cases h
  | deleteSessions userId ids settled =>
    simp only [attaching, AttachmentTx.commit, answered] at h
    split at h <;> cases h
  | revokeDevice actorId admin deviceId =>
    simp only [attaching, AttachmentTx.commit, answered] at h
    split at h <;> cases h
  | reportSession sessionId status => cases h
  | tick elapsed => cases h

/-- An accepted report is on record after its commit. -/
lemma accepted_records (hdb : c.before.Sound) (h : Accepted (attaching world) c nodeId r) :
    ∃ receipt, ((attaching world).after c).Records nodeId r receipt := by
  obtain ⟨htx, data, hanswer⟩ := h
  unfold Transactions.answer Transactions.after at *
  rw [htx] at hanswer ⊢
  simp only [attaching, AttachmentTx.commit] at hanswer ⊢
  split at hanswer
  · rename_i after receipt hok
    exact ⟨receipt, recordCleanup_records hdb hok⟩
  · cases hanswer

/-- A report stays on record. -/
lemma AttachmentDb.Records.follows {db db' : AttachmentDb} {receipt : CleanupReceipt}
    (h : db.Records nodeId r receipt) (hfollows : db.Follows db') :
    ∃ receipt', db'.Records nodeId r receipt' := by
  obtain ⟨lease, hlease, hnamed⟩ := h.lease
  obtain ⟨lease', hlease', hcarries⟩ := hfollows.leases _ _ hlease
  obtain ⟨receipt', hreceipt', hid, hmoves⟩ := hfollows.receipts _ _ h.stored
  have hkeeps := hcarries.keeps
  refine ⟨receipt', h.wellFormed, ⟨lease', hlease', hkeeps.nodeId.trans hnamed.node,
    hkeeps.sessionId.trans hnamed.session, hkeeps.deviceId.trans hnamed.device,
    hkeeps.sshKeyId.trans hnamed.key⟩, hreceipt', hid.trans h.receiptId, ?_⟩
  rcases hmoves with heq | ⟨-, hsettled⟩
  · rw [heq]
    exact h.status
  · cases hstatus : receipt'.status with
    | cleaned => exact .inl rfl
    | pending => rw [hstatus] at hsettled; cases hsettled
    | unknown => rw [hstatus] at hsettled; cases hsettled
    | rejected => exact .inr (.inr rfl)

/-- In every undisturbed run leases are exclusive and final and reports can be repeated. -/
theorem attaching_guarantees (world : AttachmentWorld) (schedule : List (Scheduled AttachmentTx))
    (h : Undisturbed (attaching world) schedule) :
    AttachmentGuarantees (attaching world) schedule := by
  have hran := attaching_ran world schedule
  have hsound : ((attaching world).state schedule).Sound := hran.sound 0
  refine {
    exclusive := fun l hl l' hl' hsession hlive hlive' =>
      eq_of_key_eq hsound.leases hl hl' (hsound.exclusive l hl l' hl' hsession hlive.1 hlive'.1)
    admittedOnce := ?_
    final := ?_
    oneReceipt := fun r hr r' hr' heq => eq_of_key_eq hsound.receipts hr hr' heq
    receiptMoves := ?_
    cleaned := ?_
    repeated := ?_ }
  · refine hran.pairwise.imp fun hlater l l' hl hl' heq => ?_
    obtain ⟨hsoundAfter, hfollows⟩ := hlater
    have hmem := (admitted_lease hl).2
    obtain ⟨l'', hl'', -⟩ := hfollows.leases _ _ (lookup_of_mem hsoundAfter.leases hmem)
    have hnone := (admitted_lease hl').1
    rw [heq] at hnone
    cases hnone.symm.trans hl''
  · intro c hc l hl l' hl' hid hdead
    have hsees := hran.sees_of_mem hc
    have hstep : (c.tx.commit c.seen c.before).1.Sound ∧
      c.before.Follows (c.tx.commit c.seen c.before).1 := commit_follows hsees.before
    obtain ⟨hsoundAfter, hfollows⟩ := hstep
    obtain ⟨l'', hl'', hcarries⟩ :=
      hfollows.leases _ _ (lookup_of_mem hsees.before.leases hl)
    have hsame : l' = l'' :=
      eq_of_key_eq hsoundAfter.leases hl' (mem_of_lookup hl'') (hid.trans hcarries.keeps.id.symm)
    subst hsame
    by_contra hlive
    rw [hcarries.keeps.live (by simpa using hlive)] at hdead
    cases hdead
  · intro c hc r hr
    have hsees := hran.sees_of_mem hc
    have hstep : (c.tx.commit c.seen c.before).1.Sound ∧
      c.before.Follows (c.tx.commit c.seen c.before).1 := commit_follows hsees.before
    obtain ⟨-, hfollows⟩ := hstep
    obtain ⟨r', hr', -, hmoves⟩ :=
      hfollows.receipts _ _ (lookup_of_mem hsees.before.receipts hr)
    exact ⟨r', mem_of_lookup hr', key_of_lookup hr', hmoves⟩
  · intro c hc l' hl' hcleaned
    have hsees := hran.sees_of_mem hc
    by_cases hreport : ∃ nodeId r, c.tx = .recordCleanup nodeId r
    · obtain ⟨nodeId, r, htx⟩ := hreport
      have hchecks := h.checks c hc nodeId r htx
      have hafter : (attaching world).after c =
          ((AttachmentTx.recordCleanup nodeId r).commit c.seen c.before).1 := by
        unfold Transactions.after
        rw [htx]
        rfl
      rw [hafter, AttachmentTx.commit] at hl'
      split at hl'
      · rename_i after receipt hok
        exact recordCleanup_cleans hsees.current hchecks hok l' hl' hcleaned
      · exact ⟨l', hl', rfl, .inl hcleaned⟩
    · have hother : ∀ nodeId r, c.tx ≠ .recordCleanup nodeId r :=
        fun nodeId r htx => hreport ⟨nodeId, r, htx⟩
      obtain ⟨l, hl, hid, hstatus⟩ := commit_kept hother hl' hcleaned
      exact ⟨l, hl, hid, .inl hstatus⟩
  · refine ((hran.pairwise.and h.repeats).imp_of_mem ?_)
    rintro later earlier - hearlier ⟨⟨-, hfollows⟩, hrepeats⟩ nodeId r haccepted htx
    obtain ⟨receipt₀, hrecords₀⟩ :=
      accepted_records (hran.sees_of_mem hearlier).before haccepted
    obtain ⟨receipt, hrecords⟩ := hrecords₀.follows hfollows
    have hsame : receipt.status = .cleaned ∨ receipt.status = r.status := by
      rcases hrecords.status with hcleaned | hsame | hrejected
      · exact .inl hcleaned
      · exact .inr hsame
      · have hr := hrepeats nodeId r haccepted htx receipt hrecords.stored hrejected
        exact .inr (hrejected.trans hr.symm)
    have hok : Attachments.recordCleanup later.seen later.before nodeId r =
        .ok (later.before, receipt) := recordCleanup_repeats hrecords hsame
    have hcommit : (AttachmentTx.recordCleanup nodeId r).commit later.seen later.before =
        (later.before, .receipt receipt.data) := by
      rw [AttachmentTx.commit, hok]
    refine ⟨?_, receipt, mem_of_lookup hrecords.stored, key_of_lookup hrecords.stored, ?_⟩
    · unfold Transactions.after
      rw [htx]
      exact congrArg Prod.fst hcommit
    · unfold Transactions.answer
      rw [htx]
      exact congrArg Prod.snd hcommit

end

/-! ### Runs that go wrong -/

def sampleWorld : AttachmentWorld where
  sessions := [{
    id := 10
    userId := 2
    toolType := "claude".toList
    toolAccountId := 5
    workspaceId := 8
    nodeId := 3
    projectKey := "project".toList
    status := .running
    tmuxSessionName := some "main".toList
    containerId := none
    runtimeBackend := "native".toList
    runtimeResourceId := none
    replacesSessionId := none }]
  accounts := [⟨5, 2, "claude".toList, none, .active, some "native".toList⟩]
  devices := [⟨6, 2, .active⟩]
  sshKeys := [⟨7, 6, "key".toList, .active⟩]
  clock := 0

def sampleNode : Node where
  id := 3
  status := .healthy
  wireguardIp := none
  sshUser := none
  sshPort := none
  runtimeCapabilities := [("session_attachment_transfer".toList,
    .object [("supported".toList, .bool true), ("protocol_version".toList, .int 1)])]
  runtimePolicy := []

def sampleAdmission : AttachmentTx := .admitAttachment sampleNode ⟨3, 10, 6, 7, 20⟩

def sampleReport : CleanupReport := ⟨3, 10, 6, 7, 20, .cleaned, 1, 30⟩

def sampleCleanup : AttachmentTx := .recordCleanup 3 sampleReport

/-- The report is accepted after the lease has expired, and then sent again. -/
def sampleRepeat : List (Scheduled AttachmentTx) :=
  [.fresh sampleCleanup, .fresh sampleCleanup, .fresh (.tick 300000000), .fresh sampleAdmission]

/-- A report that was recorded as rejected cannot be repeated. -/
theorem attaching_repeat_refused :
    ¬∀ world schedule, AttachmentGuarantees (attaching world) schedule := by
  intro h
  have hrepeated := (h sampleWorld sampleRepeat).repeated
  have hcommits : (attaching sampleWorld).commits sampleRepeat =
      (attaching sampleWorld).next (sampleRepeat.drop 1) (.fresh sampleCleanup) ::
        (attaching sampleWorld).next (sampleRepeat.drop 2) (.fresh sampleCleanup) ::
          (attaching sampleWorld).commits (sampleRepeat.drop 2) := by
    rw [sampleRepeat, Transactions.commits_cons, Transactions.commits_cons]
    rfl
  rw [hcommits] at hrepeated
  have hfirst := (List.pairwise_cons.mp hrepeated).1 _ List.mem_cons_self
  have haccepted : Accepted (attaching sampleWorld)
      ((attaching sampleWorld).next (sampleRepeat.drop 2) (.fresh sampleCleanup)) 3
        sampleReport := ⟨rfl, { sampleReport with status := .rejected }, by rfl⟩
  obtain ⟨-, receipt, -, -, hanswer⟩ := hfirst 3 sampleReport haccepted rfl
  have hfailed : (attaching sampleWorld).answer
      ((attaching sampleWorld).next (sampleRepeat.drop 1) (.fresh sampleCleanup)) =
        .failed (attachmentError "ATTACHMENT_RECEIPT_CONFLICT" 409) := by rfl
  cases hfailed.symm.trans hanswer

/-- The device is revoked on leases read before the admission, while the report that has checked
it is under way. -/
def sampleRevocation : List (Scheduled AttachmentTx) :=
  [⟨sampleCleanup, fun i => if i = 1 ∨ i = 2 then 1 else 0⟩,
    ⟨.revokeDevice 2 false 6, fun i => if i = 1 then 1 else 0⟩, .fresh sampleAdmission]

/-- A lease of a revoked device can be marked cleaned. -/
theorem attaching_cleaned_revoked :
    ∃ l ∈ ((attaching sampleWorld).state sampleRevocation).leases, l.status = .cleaned ∧
      l.id = 20 ∧ ((attaching sampleWorld).state (sampleRevocation.drop 1)).deviceValid l = false := by
  decide +kernel

/-- One admission and its cleanup. -/
theorem attaching_guarantees_cleanup : AttachmentGuarantees (attaching sampleWorld)
    [.fresh sampleCleanup, .fresh sampleAdmission] := by
  refine attaching_guarantees _ _ ⟨?_, ?_⟩
  · intro c hc nodeId r _ _ lease _
    have hfresh : ∀ i, c.seen i = c.before := by
      rw [Transactions.commits_cons, Transactions.commits_cons] at hc
      rcases List.mem_cons.mp hc with rfl | hc
      · exact fun _ => rfl
      · obtain rfl := List.mem_singleton.mp hc
        exact fun _ => rfl
    unfold lockedRead
    simp only [hfresh, ite_self, and_self]
  · rw [Transactions.commits_cons, Transactions.commits_cons]
    refine .cons (fun c hc nodeId r haccepted => ?_) (.cons (fun c hc => nomatch hc) .nil)
    obtain rfl := List.mem_singleton.mp hc
    cases haccepted.1

end AgentRemote.Attachments
