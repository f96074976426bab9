import AgentRemote.EgoBrowser.Requests
import AgentRemote.Library.Fencing

/-!
# What an operation can do

Every operation of the service is a sequence of moves: a row of a binding is created, changed
within its generation or takes the next one, and a ledger row is added or changes its status.
The invariants of the control plane follow from the moves alone.
-/

namespace AgentRemote
open Library EgoBrowserFailure

/-- The place of a frame: a request of one generation of one binding. -/
structure FrameKey where
  bindingId : Uuid
  generation : ℕ
  requestId : Text
  sequence : ℤ

def EgoBrowserRequestLedger.key (r : EgoBrowserRequestLedger) : FrameKey :=
  ⟨r.bindingId, r.generation, r.requestId, r.sequence⟩

/-- What the relay and the publisher see: an accepted execute request, a forwarded result, and
a publication that returned. -/
inductive EgoBrowserEvent where
  | accepted (frame : FrameKey)
  | answered (frame : FrameKey)
  | published (bindingId : Uuid) (generation : ℕ)

/-- A binding keeps its id, its device, its tool session and its absolute deadline. -/
structure SameBinding (old new : EgoBrowserBinding) : Prop where
  id : new.id = old.id
  ttl : new.absoluteTtlUntil = old.absoluteTtlUntil
  device : new.egoBrowserDeviceId = old.egoBrowserDeviceId
  session : new.toolSessionId = old.toolSessionId
  reference : new.toolSessionReferenceId = old.toolSessionReferenceId

/-- Two bindings compete for a device or for a tool session. -/
def Competes (b c : EgoBrowserBinding) : Prop :=
  b.egoBrowserDeviceId = c.egoBrowserDeviceId ∨
    b.toolSessionReferenceId = c.toolSessionReferenceId ∨
    b.toolSessionId ≠ none ∧ b.toolSessionId = c.toolSessionId

/-- The changes of a request's status. -/
inductive Settles : EgoBrowserRequestStatus → EgoBrowserRequestStatus → Prop
  | completed {s : EgoBrowserRequestStatus} : s ≠ .cancelled → Settles s .completed
  | cancelled {s : EgoBrowserRequestStatus} : s.unfinished = true → Settles s .cancelled

/-- What a write at `now` does to the lease of a binding. A report of a failed renewal needs
the leave of `mayMark`. -/
inductive LeaseWrite (service : EgoBrowserService) (now : Instant)
    (mayMark : EgoBrowserBinding → Prop) (old new : EgoBrowserBinding) : Prop
  | granted : new.leaseUntil = some (service.grantedLease old now) →
      new.leaseHealth = .healthy → LeaseWrite service now mayMark old new
  | cleared : new.leaseUntil = none → new.leaseHealth = .expired → new.status ≠ .active →
      LeaseWrite service now mayMark old new
  | graced {leaseUntil : Instant} : old.leaseHealth = .healthy →
      old.leaseUntil = some leaseUntil → new.leaseUntil = old.leaseUntil →
      new.status = old.status → new.leaseHealth = .renewalGrace →
      new.leaseGraceUntil = some (service.graceDeadline leaseUntil old.absoluteTtlUntil) →
      LeaseWrite service now mayMark old new
  | marked : mayMark old → old.leaseHealth ≠ .renewalGrace → old.status = .active →
      now < old.absoluteTtlUntil → new.leaseUntil = old.leaseUntil → new.status = old.status →
      new.leaseHealth = .renewalGrace →
      new.leaseGraceUntil = some (service.failureGrace old now) →
      LeaseWrite service now mayMark old new

section

variable (service : EgoBrowserService) (now : Instant) (mayMark : EgoBrowserBinding → Prop)

inductive Move (db : EgoBrowserTables) : Option EgoBrowserEvent → EgoBrowserTables → Prop
  /-- Devices, credentials and tasks change. -/
  | other {db' : EgoBrowserTables} : db'.bindings = db.bindings → db'.ledger = db.ledger →
      db'.outbox = db.outbox → Move db none db'
  | claim {b : EgoBrowserBinding} : (∀ c ∈ db.bindings, c.id ≠ b.id) → b.generation = 1 →
      b.status ≠ .active → b.leaseHealth = .healthy →
      b.leaseUntil = some (now + seconds service.settings.leaseSeconds) →
      b.absoluteTtlUntil = now + seconds service.settings.absoluteTtlSeconds →
      (∀ c ∈ db.bindings, c.status.live = true → ¬Competes c b) →
      Move db none { db with bindings := db.bindings ++ [b] }
  /-- A binding changes within its generation. -/
  | touch {old new : EgoBrowserBinding} : old ∈ db.bindings → SameBinding old new →
      new.generation = old.generation →
      new.status = old.status ∨ (old.status.awaitsBridge = true ∧ new.status = .active) →
      LeaseWrite service now mayMark old new → Move db none (db.setBinding new)
  /-- A binding leaves its generation. -/
  | leave {old new : EgoBrowserBinding} {reason : String} : old ∈ db.bindings →
      SameBinding old new → new.generation = old.generation + 1 → new.status ≠ .active →
      new.status.terminal = true ∨ old.status.live = true →
      LeaseWrite service now mayMark old new → Move db none (db.supersede old new reason)
  | accept {b : EgoBrowserBinding} {row : EgoBrowserRequestLedger} {db' : EgoBrowserTables} :
      b ∈ db.bindings → b.status = .active → row.bindingId = b.id →
      row.generation = b.generation → row.direction = .request →
      row.messageType = .execute → row.status = .accepted →
      (∀ s ∈ db.sequences b.id b.generation .request, s < row.sequence) →
      db.addLedger row = .ok db' → Move db (some (.accepted row.key)) db'
  | answer {row request : EgoBrowserRequestLedger} {db' : EgoBrowserTables} :
      request ∈ db.ledger → request.direction = .request → row.key = request.key →
      row.direction = .response → row.messageType = .executeResult → row.status = .completed →
      db.addLedger row = .ok db' → Move db (some (.answered row.key)) db'
  | settle {request : EgoBrowserRequestLedger} {status : EgoBrowserRequestStatus} :
      request ∈ db.ledger → request.direction = .request → Settles request.status status →
      Move db none (db.setLedger { request with status })
  /-- A user asks for the cancellation of an accepted request. -/
  | ask {b : EgoBrowserBinding} {request : EgoBrowserRequestLedger} : b ∈ db.bindings →
      b.status = .active → request ∈ db.ledger → request.direction = .request →
      request.bindingId = b.id → request.generation = b.generation →
      request.status = .accepted →
      Move db none (db.setLedger { request with status := .cancelRequested })
  | deliver {bindingId : Uuid} {generation : ℕ} :
      Move db (some (.published bindingId generation))
        (db.markDelivered bindingId generation now)

/-- A sequence of moves with the events it shows. -/
inductive Moves (db : EgoBrowserTables) : List EgoBrowserEvent → EgoBrowserTables → Prop
  | refl : Moves db [] db
  | tail {es : List EgoBrowserEvent} {e : Option EgoBrowserEvent} {db' db'' : EgoBrowserTables} :
      Moves db es db' → Move service now mayMark db' e db'' → Moves db (es ++ e.toList) db''

end

section

variable {service : EgoBrowserService} {now : Instant} {mayMark : EgoBrowserBinding → Prop}

namespace Moves

variable {db db' db'' : EgoBrowserTables} {es fs : List EgoBrowserEvent}

lemma single {e : Option EgoBrowserEvent} (h : Move service now mayMark db e db') : Moves service now mayMark db e.toList db' :=
  .tail .refl h

lemma trans (h : Moves service now mayMark db es db') (h' : Moves service now mayMark db' fs db'') : Moves service now mayMark db (es ++ fs) db'' := by
  induction h' with
  | refl => simpa using h
  | tail _ hm ih =>
    rw [← List.append_assoc]
    exact .tail ih hm

/-- A silent sequence goes on with a silent move. -/
lemma silent (h : Moves service now mayMark db [] db') (hm : Move service now mayMark db' none db'') : Moves service now mayMark db [] db'' := .tail h hm

lemma touch {old new : EgoBrowserBinding} (h : old ∈ db.bindings) (hsame : SameBinding old new)
    (hgen : new.generation = old.generation)
    (hstatus : new.status = old.status ∨
      (old.status.awaitsBridge = true ∧ new.status = .active))
    (hlease : LeaseWrite service now mayMark old new) :
    Moves service now mayMark db [] (db.setBinding new) :=
  single (.touch h hsame hgen hstatus hlease)

lemma leave {old new : EgoBrowserBinding} {reason : String} (h : old ∈ db.bindings)
    (hsame : SameBinding old new) (hgen : new.generation = old.generation + 1)
    (hactive : new.status ≠ .active)
    (hstatus : new.status.terminal = true ∨ old.status.live = true)
    (hlease : LeaseWrite service now mayMark old new) :
    Moves service now mayMark db [] (db.supersede old new reason) :=
  single (.leave h hsame hgen hactive hstatus hlease)

lemma other (hbindings : db'.bindings = db.bindings) (hledger : db'.ledger = db.ledger)
    (houtbox : db'.outbox = db.outbox) : Moves service now mayMark db [] db' :=
  single (.other hbindings hledger houtbox)

lemma setDevice (h : Moves service now mayMark db es db') (d : EgoBrowserDevice) : Moves service now mayMark db es (db'.setDevice d) := by
  have hm : Move service now mayMark db' none (db'.setDevice d) := .other rfl rfl rfl
  simpa using h.tail hm

end Moves

/-! ### The moves of the shared steps -/

namespace EgoBrowserTables

variable {db db' : EgoBrowserTables} {b : EgoBrowserBinding}

@[simp] lemma bindings_cancelGenerationRequests (id : Uuid) (n : ℕ) :
    (db.cancelGenerationRequests id n).bindings = db.bindings := rfl

@[simp] lemma outbox_cancelGenerationRequests (id : Uuid) (n : ℕ) :
    (db.cancelGenerationRequests id n).outbox = db.outbox := rfl

@[simp] lemma bindings_enqueueRevocation (id : Uuid) (n : ℕ) (reason : String) :
    (db.enqueueRevocation id n reason).bindings = db.bindings := by
  unfold enqueueRevocation addOutbox reject
  split_ifs <;> rfl

@[simp] lemma ledger_enqueueRevocation (id : Uuid) (n : ℕ) (reason : String) :
    (db.enqueueRevocation id n reason).ledger = db.ledger := by
  unfold enqueueRevocation addOutbox reject
  split_ifs <;> rfl

@[simp] lemma bindings_supersede (old new : EgoBrowserBinding) (reason : String) :
    (db.supersede old new reason).bindings = replace EgoBrowserBinding.id db.bindings new := by
  simp [supersede, setBinding]

lemma advanceGeneration_eq_ok {b b' : EgoBrowserBinding} (h : advanceGeneration b = .ok b') :
    b.generation < maxActiveEgoBrowserGeneration ∧ b' = { b with generation := b.generation + 1 } := by
  unfold advanceGeneration at h
  rw [reject_bind_eq_ok] at h
  exact ⟨not_le.mp h.1, (Except.ok.inj h.2).symm⟩

/-- Another binding is still there after one was rewritten. -/
lemma mem_replace_of_ne {c new : EgoBrowserBinding} (hc : c ∈ db.bindings) (h : c.id ≠ new.id) :
    c ∈ replace EgoBrowserBinding.id db.bindings new :=
  mem_replace.mpr (.inl ⟨hc, h⟩)

/-- What one binding's part of a sweep does: silent moves that keep the other bindings. -/
def Sweeps (service : EgoBrowserService) (now : Instant) (mayMark : EgoBrowserBinding → Prop)
    (db : EgoBrowserTables) (b : EgoBrowserBinding) (db' : EgoBrowserTables) : Prop :=
  Moves service now mayMark db [] db' ∧ ∀ c ∈ db.bindings, c.id ≠ b.id → c ∈ db'.bindings

lemma sweeps_leave {new : EgoBrowserBinding} {reason : String} (hb : b ∈ db.bindings)
    (hsame : SameBinding b new) (hgen : new.generation = b.generation + 1)
    (hactive : new.status ≠ .active)
    (hstatus : new.status.terminal = true ∨ b.status.live = true)
    (hlease : LeaseWrite service now mayMark b new) :
    Sweeps service now mayMark db b (db.supersede b new reason) := by
  refine ⟨Moves.leave hb hsame hgen hactive hstatus hlease, fun c hc hne => ?_⟩
  rw [bindings_supersede]
  exact mem_replace_of_ne hc (by rwa [hsame.id])

lemma sweeps_touch {new : EgoBrowserBinding} (hb : b ∈ db.bindings) (hsame : SameBinding b new)
    (hgen : new.generation = b.generation) (hstatus : new.status = b.status)
    (hlease : LeaseWrite service now mayMark b new) :
    Sweeps service now mayMark db b (db.setBinding new) := by
  refine ⟨Moves.touch hb hsame hgen (.inl hstatus) hlease, fun c hc hne => ?_⟩
  exact mem_replace_of_ne hc (by rwa [hsame.id])

lemma invalidateBinding_sweeps {status : EgoBrowserTerminalStatus} {reason : String}
    {left : List (Uuid × ℕ)} (hb : b ∈ db.bindings)
    (h : db.invalidateBinding b status reason now = .ok (db', left)) : Sweeps service now mayMark db b db' := by
  unfold invalidateBinding at h
  by_cases hdone : b.status.terminal ∧ (status ≠ .revoked ∨ b.status = .revoked)
  · rw [if_pos hdone] at h
    obtain ⟨rfl, -⟩ := Prod.mk.inj (Except.ok.inj h)
    exact ⟨.refl, fun c hc _ => hc⟩
  · rw [if_neg hdone, bind_eq_ok] at h
    obtain ⟨advanced, hadvanced, h⟩ := h
    obtain ⟨-, rfl⟩ := advanceGeneration_eq_ok hadvanced
    obtain ⟨rfl, -⟩ := Prod.mk.inj (Except.ok.inj h)
    have hterm := status.terminal_status
    have hactive : status.status ≠ .active := by
      intro hactive
      rw [hactive] at hterm
      cases hterm
    exact sweeps_leave hb ⟨rfl, rfl, rfl, rfl, rfl⟩ rfl hactive (.inl hterm) (.cleared rfl rfl hactive)

lemma pauseGeneration_sweeps {stopReason reason : String} {current : EgoBrowserBinding}
    (hb : b ∈ db.bindings) (hsame : SameBinding b current)
    (hgen : current.generation = b.generation) (hlive : b.status.live = true)
    (h : db.pauseGeneration current stopReason reason = .ok db') : Sweeps service now mayMark db b db' := by
  unfold pauseGeneration at h
  rw [bind_eq_ok] at h
  obtain ⟨advanced, hadvanced, h⟩ := h
  obtain ⟨-, rfl⟩ := advanceGeneration_eq_ok hadvanced
  obtain rfl := Except.ok.inj h
  -- the old row that the requests and the outbox are keyed by has the id and generation of `b`
  have hold : db.supersede current
      (pausedBinding { current with generation := current.generation + 1 } stopReason) reason =
      db.supersede b
        (pausedBinding { current with generation := current.generation + 1 } stopReason) reason := by
    unfold supersede
    rw [hsame.id, hgen]
  rw [hold]
  have hsame' : SameBinding b
      (pausedBinding { current with generation := current.generation + 1 } stopReason) :=
    ⟨hsame.id, hsame.ttl, hsame.device, hsame.session, hsame.reference⟩
  have hactive : EgoBrowserBindingStatus.paused ≠ .active := by decide
  exact sweeps_leave hb hsame' (congrArg (· + 1) hgen) hactive (.inr hlive)
    (.cleared rfl rfl hactive)

/-- A fold over distinct bindings of the table is silent when each of its steps is. -/
lemma foldlM_sweeps {f : EgoBrowserTables → EgoBrowserBinding →
      Except EgoBrowserFailure (EgoBrowserTables × List (Uuid × ℕ))}
    {bs : List EgoBrowserBinding}
    (hf : ∀ db b db' left, b ∈ bs → b ∈ db.bindings → f db b = .ok (db', left) → Sweeps service now mayMark db b db')
    (hn : (bs.map EgoBrowserBinding.id).Nodup) (hbs : ∀ b ∈ bs, b ∈ db.bindings)
    {acc left : List (Uuid × ℕ)}
    (h : bs.foldlM (fun (acc : EgoBrowserTables × List (Uuid × ℕ)) b => do
      let (db', left) ← f acc.1 b
      pure (db', acc.2 ++ left)) (db, acc) = .ok (db', left)) : Moves service now mayMark db [] db' := by
  induction bs generalizing db acc with
  | nil =>
    obtain ⟨rfl, -⟩ := Prod.mk.inj (Except.ok.inj h)
    exact .refl
  | cons b bs ih =>
    rw [List.foldlM_cons, bind_eq_ok] at h
    obtain ⟨⟨db₁, acc₁⟩, hstep, h⟩ := h
    rw [bind_eq_ok] at hstep
    obtain ⟨⟨db₂, left₂⟩, hstep, heq⟩ := hstep
    obtain ⟨rfl, -⟩ := Prod.mk.inj (Except.ok.inj heq)
    have hsweep := hf db b db₂ left₂ List.mem_cons_self (hbs b List.mem_cons_self) hstep
    rw [List.map_cons, List.nodup_cons] at hn
    have hrest : ∀ c ∈ bs, c ∈ db₂.bindings := by
      intro c hc
      apply hsweep.2 c (hbs c (List.mem_cons_of_mem _ hc))
      intro hid
      exact hn.1 (hid ▸ List.mem_map_of_mem hc)
    have htail := ih (fun db b db' left hb => hf db b db' left (List.mem_cons_of_mem _ hb))
      hn.2 hrest h
    exact hsweep.1.trans htail

lemma invalidateBindings_moves {bs : List EgoBrowserBinding} {status : EgoBrowserTerminalStatus}
    {reason : String} {left : List (Uuid × ℕ)}
    (hn : (bs.map EgoBrowserBinding.id).Nodup) (hbs : ∀ b ∈ bs, b ∈ db.bindings)
    (h : db.invalidateBindings bs status reason now = .ok (db', left)) : Moves service now mayMark db [] db' :=
  foldlM_sweeps (f := fun db b => db.invalidateBinding b status reason now)
    (fun _ _ _ _ _ hb h => invalidateBinding_sweeps hb h) hn hbs h

lemma pauseListed_moves {bs : List EgoBrowserBinding} {left : List (Uuid × ℕ)}
    (hn : (bs.map EgoBrowserBinding.id).Nodup) (hbs : ∀ b ∈ bs, b ∈ db.bindings)
    (hlive : ∀ b ∈ bs, b.status.live = true)
    (h : db.pauseListed bs = .ok (db', left)) : Moves service now mayMark db [] db' := by
  have hfold : bs.foldlM (fun (acc : EgoBrowserTables × List (Uuid × ℕ)) b => do
      let (db', left) ← (do
        let db' ← acc.1.pauseGeneration b "local_policy_changed" "local_policy_changed"
        pure (db', [(b.id, b.generation)]))
      pure (db', acc.2 ++ left)) (db, []) = .ok (db', left) := by
    simpa [pauseListed] using h
  refine foldlM_sweeps (f := fun db b => do
      let db' ← db.pauseGeneration b "local_policy_changed" "local_policy_changed"
      pure (db', [(b.id, b.generation)])) ?_ hn hbs hfold
  intro db b db' left hb hmem hstep
  rw [bind_eq_ok] at hstep
  obtain ⟨db₁, hpause, heq⟩ := hstep
  obtain ⟨rfl, -⟩ := Prod.mk.inj (Except.ok.inj heq)
  exact pauseGeneration_sweeps hmem ⟨rfl, rfl, rfl, rfl, rfl⟩ rfl (hlive b hb) hpause

lemma getBinding_of_ownedBindingDevice {user : EgoBrowserUser} {id : Uuid}
    {deviceId : Option Uuid} {allowAdmin : Bool} {device : EgoBrowserDevice}
    (h : db.ownedBindingDevice user id deviceId allowAdmin = .ok (b, device)) :
    db.getBinding id = some b := by
  unfold ownedBindingDevice at h
  cases hb : db.getBinding id with
  | none => simp [hb] at h
  | some c =>
    simp only [hb, reject_bind_eq_ok] at h
    obtain ⟨-, -, h⟩ := h
    cases hd : db.getDevice c.egoBrowserDeviceId with
    | none => simp [hd] at h
    | some d =>
      simp only [hd, reject_bind_eq_ok] at h
      obtain ⟨rfl, -⟩ := Prod.mk.inj (Except.ok.inj h.2)
      rfl

lemma mem_of_ownedBindingDevice {user : EgoBrowserUser} {id : Uuid} {deviceId : Option Uuid}
    {allowAdmin : Bool} {device : EgoBrowserDevice}
    (h : db.ownedBindingDevice user id deviceId allowAdmin = .ok (b, device)) :
    b ∈ db.bindings :=
  mem_of_lookup (getBinding_of_ownedBindingDevice h)

end EgoBrowserTables

end

end AgentRemote
