import AgentRemote.PortForwards.Service

/-!
# What an operation does to the forwards

An operation leaves the forwards, adds one, changes one that it has locked or ends some that it
has read without a lock. No operation revives a forward.
-/

namespace AgentRemote.PortForwards
open Library

/-! ### Rows -/

/-- What every update keeps. -/
structure PortForward.Keeps (f f' : PortForward) : Prop where
  id : f'.id = f.id
  userId : f'.userId = f.userId
  deviceId : f'.deviceId = f.deviceId
  sessionId : f'.sessionId = f.sessionId
  nodeId : f'.nodeId = f.nodeId
  expiresAt : f'.expiresAt = f.expiresAt
  generation : f.connectionGeneration ≤ f'.connectionGeneration
  open_ : f'.status.terminal = false → f.status.terminal = false

/-- What a transaction makes of a forward it has locked. -/
structure PortForward.Change (f new : PortForward) : Prop where
  keeps : f.Keeps new
  columns : f.updated f new = new
  open_ : f.status.terminal = false
  lease : new.leaseExpiresAt = none ∨ new.status = .active

/-- The copy of a forward and the copy once it has ended. -/
structure PortForward.Ends (f new : PortForward) : Prop where
  open_ : f.status.terminal = false
  terminal : new.status.terminal = true
  ended : ∃ reason now, new = f.ended new.status reason now

section

variable {f f' f'' new copy row : PortForward} {status : ForwardStatus} {reason : String}
  {now : Instant}

lemma PortForward.Keeps.refl (f : PortForward) : f.Keeps f :=
  ⟨rfl, rfl, rfl, rfl, rfl, rfl, le_rfl, fun h => h⟩

lemma PortForward.Keeps.trans (h : f.Keeps f') (h' : f'.Keeps f'') : f.Keeps f'' where
  id := h'.id.trans h.id
  userId := h'.userId.trans h.userId
  deviceId := h'.deviceId.trans h.deviceId
  sessionId := h'.sessionId.trans h.sessionId
  nodeId := h'.nodeId.trans h.nodeId
  expiresAt := h'.expiresAt.trans h.expiresAt
  generation := h.generation.trans h'.generation
  open_ h'' := h.open_ (h'.open_ h'')

lemma PortForward.ends_ended (h : f.status.terminal = false) (hs : status.terminal = true) :
    f.Ends (f.ended status reason now) :=
  ⟨h, hs, reason, now, rfl⟩

@[simp] lemma column_self {α : Type} [DecidableEq α] (copy row : α) :
    column copy copy row = row := if_pos rfl

@[simp] lemma column_copy {α : Type} [DecidableEq α] (copy new : α) :
    column copy new copy = new := by
  unfold column
  split_ifs with h
  · exact h.symm
  · rfl

/-- The update of a row from a copy that has ended. -/
lemma updated_ended : row.updated copy (copy.ended status reason now) =
    { row with
      status := column copy.status status row.status
      leaseExpiresAt := column copy.leaseExpiresAt none row.leaseExpiresAt
      stoppedAt := column copy.stoppedAt (some now) row.stoppedAt
      stopReason := column copy.stopReason (some reason.toList) row.stopReason } := by
  simp [PortForward.updated, PortForward.ended]

lemma PortForward.Ends.status_updated (h : copy.Ends new) :
    (row.updated copy new).status = new.status := by
  have hne : new.status ≠ copy.status := by
    intro he
    have hopen := h.open_
    rw [← he, h.terminal] at hopen
    exact absurd hopen (by decide)
  exact if_neg hne

lemma PortForward.Ends.lease_new (h : copy.Ends new) : new.leaseExpiresAt = none := by
  obtain ⟨reason, now, he⟩ := h.ended
  rw [he]
  rfl

/-- The lease of a row that ends: an update leaves it when the copy has none. -/
lemma PortForward.Ends.lease_updated (h : copy.Ends new) :
    (row.updated copy new).leaseExpiresAt =
      if copy.leaseExpiresAt = none then row.leaseExpiresAt else none := by
  have hcolumn : (row.updated copy new).leaseExpiresAt =
      column copy.leaseExpiresAt new.leaseExpiresAt row.leaseExpiresAt := rfl
  rw [hcolumn, h.lease_new]
  simp only [column, eq_comm]

lemma PortForward.Ends.keeps (h : copy.Ends new) (row : PortForward) :
    row.Keeps (row.updated copy new) := by
  have hopen : (row.updated copy new).status.terminal = true := by
    rw [h.status_updated, h.terminal]
  obtain ⟨reason, now, he⟩ := h.ended
  have hgeneration : (row.updated copy new).connectionGeneration = row.connectionGeneration := by
    rw [he, updated_ended]
  exact ⟨rfl, rfl, rfl, rfl, rfl, rfl, hgeneration.ge, fun h => absurd (hopen.symm.trans h) (by decide)⟩

/-- A forward that ends while it is locked. -/
lemma PortForward.Ends.change (h : f.Ends new) : f.Change new := by
  obtain ⟨reason, now, he⟩ := h.ended
  have hcolumns : f.updated f new = new := by
    rw [he, updated_ended]
    simp [PortForward.ended]
  exact ⟨hcolumns ▸ h.keeps f, hcolumns, h.open_, .inl h.lease_new⟩

lemma connected_change {now leaseNow : Instant} {policy : PortForwardPolicy} {key : Option Uuid}
    (h : f.status.terminal = false) :
    f.Change (PortForward.connected { f with sshKeyId := key } now leaseNow policy) where
  keeps := ⟨rfl, rfl, rfl, rfl, rfl, rfl, Nat.le_succ _, fun _ => h⟩
  columns := by simp [PortForward.updated, PortForward.connected]
  open_ := h
  lease := .inr rfl

lemma renewed_change {r : ForwardReport} {lease : Instant} (h : f.status = .active) :
    f.Change { f.counted r with leaseExpiresAt := some lease } where
  keeps := ⟨rfl, rfl, rfl, rfl, rfl, rfl, le_rfl, fun _ => by rw [h]; rfl⟩
  columns := by simp [PortForward.updated, PortForward.counted]
  open_ := by rw [h]; rfl
  lease := .inr h

lemma released_change {r : ForwardReport} (h : f.status = .active) :
    f.Change { f.counted r with status := .disconnected, leaseExpiresAt := none } where
  keeps := ⟨rfl, rfl, rfl, rfl, rfl, rfl, le_rfl, fun _ => by rw [h]; rfl⟩
  columns := by simp [PortForward.updated, PortForward.counted]
  open_ := by rw [h]; rfl
  lease := .inl rfl

lemma disconnected_change (h : f.status = .active) :
    f.Change { f with status := .disconnected, leaseExpiresAt := none } where
  keeps := ⟨rfl, rfl, rfl, rfl, rfl, rfl, le_rfl, fun _ => by rw [h]; rfl⟩
  columns := by simp [PortForward.updated]
  open_ := by rw [h]; rfl
  lease := .inl rfl

/-- A forward that is given a key and then ends. -/
lemma keyed_change {key : Option Uuid} (h : PortForward.Ends { f with sshKeyId := key } new) :
    f.Change new := by
  obtain ⟨reason, now, he⟩ := h.ended
  have hcolumns : f.updated f new = new := by
    rw [he]
    simp [PortForward.updated, PortForward.ended]
  have hgeneration : f.connectionGeneration ≤ new.connectionGeneration := by
    rw [he]
    exact le_rfl
  have hfixed : ({ f with sshKeyId := key } : PortForward).Keeps new := by
    have hkeys := h.keeps { f with sshKeyId := key }
    rw [he, updated_ended] at hkeys
    rw [he]
    exact ⟨rfl, rfl, rfl, rfl, rfl, rfl, le_rfl, fun _ => h.open_⟩
  exact ⟨⟨hfixed.id, hfixed.userId, hfixed.deviceId, hfixed.sessionId, hfixed.nodeId,
    hfixed.expiresAt, hgeneration, fun _ => h.open_⟩, hcolumns, h.open_, .inl h.lease_new⟩

end

/-! ### Refusals -/

/-- The forward that a refusal commits has changed lawfully and holds no lease. -/
def Refusal.Settles (f : PortForward) (r : Refusal) : Prop :=
  ∀ new ∈ r.settled, f.Change new ∧ new.leaseExpiresAt = none

/-- The forward that a refusal commits has ended. -/
def Refusal.Ends (f : PortForward) (r : Refusal) : Prop := ∀ new ∈ r.settled, f.Ends new

section

variable {f : PortForward} {now : Instant} {e : ForwardFailure}
  {settings : PortForwardSettings} {seen : ℕ → ForwardDb} {db : ForwardDb}

lemma Refusal.Ends.settles {r : Refusal} (h : r.Ends f) : r.Settles f :=
  fun new hnew => ⟨(h new hnew).change, (h new hnew).lease_new⟩

@[simp] lemma ends_of : (Refusal.of e).Ends f := by simp [Refusal.Ends, Refusal.of]

@[simp] lemma settles_of : (Refusal.of e).Settles f := by simp [Refusal.Settles, Refusal.of]

lemma failsWith_mapError_of {α : Type} (x : Except ForwardFailure α) :
    FailsWith (Refusal.Ends f) (x.mapError .of) := by
  cases x with
  | error e => exact failsWith_error.mpr ends_of
  | ok a => exact failsWith_ok a

lemma ensureNonTerminal_eq_ok (h : ensureNonTerminal f now = .ok ()) :
    f.status.terminal = false := by
  unfold ensureNonTerminal at h
  split_ifs at h with _ hterminal
  simpa using hterminal

lemma overdue_open (h : f.overdue now = true) : f.status.terminal = false := by
  simp only [PortForward.overdue, decide_eq_true_eq] at h
  exact h.1

lemma expired_ends (h : f.overdue now = true) : f.Ends (f.expired now) :=
  f.ends_ended (overdue_open h) rfl

lemma ensureNonTerminal_ends : FailsWith (Refusal.Ends f) (ensureNonTerminal f now) := by
  unfold ensureNonTerminal
  split_ifs with hoverdue
  · rw [failsWith_error]
    intro new hnew
    obtain rfl := Option.some.inj hnew
    exact expired_ends hoverdue
  · exact failsWith_error.mpr ends_of
  · exact failsWith_ok ()

/-- A failed authorization ends the forward or leaves it. -/
lemma requireRuntimeAuthorization_ends {i : ℕ} :
    FailsWith (Refusal.Ends f) (requireRuntimeAuthorization settings seen i f) := by
  unfold requireRuntimeAuthorization
  refine ensureNonTerminal_ends.bind fun _ hopen => ?_
  have hends : ∀ failure reason now,
      Refusal.Ends f ⟨failure, some (f.ended .revoked reason now)⟩ := by
    intro failure reason now new hnew
    obtain rfl := Option.some.inj hnew
    exact f.ends_ended (ensureNonTerminal_eq_ok hopen) rfl
  dsimp only
  refine FailsWith.reject_bind (hends _ _ _) fun _ => ?_
  refine FailsWith.reject_bind (hends _ _ _) fun _ => ?_
  split
  · exact failsWith_error.mpr (hends _ _ _)
  · refine FailsWith.reject_bind (hends _ _ _) fun _ => ?_
    refine FailsWith.reject_bind (hends _ _ _) fun _ => ?_
    refine (failsWith_mapError_of _).bind fun _ _ => ?_
    refine (failsWith_mapError_of _).bind fun _ _ => ?_
    refine (failsWith_mapError_of _).bind fun _ _ => ?_
    exact failsWith_ok _

end

/-! ### Tables -/

/-- The forwards once the row of `f` has been updated. -/
def ForwardDb.setForward (db : ForwardDb) (copy new : PortForward) : ForwardDb :=
  { db with forwards := db.forwards.map fun row =>
      if row.id = copy.id then row.updated copy new else row }

section

variable {db db' : ForwardDb} {copy new row : PortForward}

lemma update_eq_ok (h : db.update copy new = .ok db') : db' = db.setForward copy new := by
  unfold ForwardDb.update at h
  split_ifs at h
  exact (Except.ok.inj h).symm

lemma update_of_mem (h : copy ∈ db.forwards) :
    db.update copy new = .ok (db.setForward copy new) := by
  unfold ForwardDb.update
  rw [if_pos (List.any_eq_true.mpr ⟨copy, h, by simp⟩)]
  rfl

/-- The updates of a list, one after the other. -/
def applied (ws : List (PortForward × PortForward)) (row : PortForward) : PortForward :=
  ws.foldl (fun row w => if row.id = w.1.id then row.updated w.1 w.2 else row) row

lemma setForward_forwards : (db.setForward copy new).forwards = db.forwards.map fun row =>
    if row.id = copy.id then row.updated copy new else row := rfl

/-- The rows of all the copies are there, so that their update succeeds. -/
def ForwardDb.Finds (db : ForwardDb) (ws : List (PortForward × PortForward)) : Prop :=
  ∀ w ∈ ws, ∃ row ∈ db.forwards, row.id = w.1.id

instance (ws : List (PortForward × PortForward)) : Decidable (db.Finds ws) :=
  inferInstanceAs (Decidable (∀ w ∈ ws, _))

lemma finds_cons {w : PortForward × PortForward} {ws : List (PortForward × PortForward)} :
    db.Finds (w :: ws) ↔ (∃ row ∈ db.forwards, row.id = w.1.id) ∧ db.Finds ws :=
  List.forall_mem_cons

lemma finds_setForward {ws : List (PortForward × PortForward)} :
    (db.setForward copy new).Finds ws ↔ db.Finds ws := by
  refine forall₂_congr fun w _ => ?_
  rw [setForward_forwards]
  simp only [List.mem_map, exists_exists_and_eq_and]
  refine exists_congr fun row => and_congr_right fun _ => ?_
  split_ifs <;> rfl

lemma applied_nil : db.forwards.map (applied []) = db.forwards :=
  (List.map_congr_left fun _ _ => rfl).trans (List.map_id _)

lemma applied_cons {w : PortForward × PortForward} {ws : List (PortForward × PortForward)} :
    db.forwards.map (applied (w :: ws)) = (db.setForward w.1 w.2).forwards.map (applied ws) := by
  rw [setForward_forwards, List.map_map]
  rfl

/-- Updates of several rows commit together or not at all. -/
lemma updateAll_eq {ws : List (PortForward × PortForward)} :
    db.updateAll ws = if db.Finds ws then
      .ok { db with forwards := db.forwards.map (applied ws) } else .error .staleDataError := by
  induction ws generalizing db with
  | nil =>
    have hfinds : db.Finds [] := fun _ h => absurd h List.not_mem_nil
    rw [if_pos hfinds, applied_nil]
    rfl
  | cons w ws ih =>
    have hcons : db.updateAll (w :: ws) = db.update w.1 w.2 >>= fun db => db.updateAll ws := rfl
    rw [hcons]
    by_cases hw : ∃ row ∈ db.forwards, row.id = w.1.id
    · have hok : db.update w.1 w.2 = .ok (db.setForward w.1 w.2) := by
        unfold ForwardDb.update
        rw [if_pos (by simpa using hw)]
        rfl
      rw [hok, ok_bind, ih, applied_cons]
      simp only [finds_setForward, finds_cons, hw, true_and]
      rfl
    · have herror : db.update w.1 w.2 = .error .staleDataError := by
        unfold ForwardDb.update
        rw [if_neg (by simpa using hw)]
      rw [herror, error_bind, if_neg fun h => hw (finds_cons.mp h).1]

lemma update_eq_updateAll (copy new : PortForward) :
    db.update copy new = db.updateAll [(copy, new)] := (bind_ok _).symm

end

end AgentRemote.PortForwards
