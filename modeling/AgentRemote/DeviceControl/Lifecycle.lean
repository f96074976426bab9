import AgentRemote.DeviceControl.Answers

/-!
# The lifecycle of a device session

What holds of the sessions in every state that calls of the service can reach, and what one
more call can do to them.
-/

namespace AgentRemote
open Library DeviceControlTables DeviceSessionService

namespace DeviceAnswer

variable {α : Type} {deletes exhausts repeats deletes' exhausts' repeats' : Prop}
  {db : DeviceControlTables} {r : DeviceSessionResponse α}

lemma mono (h : DeviceAnswer deletes exhausts repeats db r) (hd : deletes → deletes')
    (he : exhausts → exhausts') (hr : repeats ↔ repeats') :
    DeviceAnswer deletes' exhausts' repeats' db r := by
  rw [hr] at h
  cases h with
  | refused hplain hn => exact .refused hplain hn
  | exhausted hx hn => exact .exhausted (he hx) hn
  | repeated hrep => exact .repeated hrep
  | expired hs hlive hplain hn => exact .expired hs hlive hplain hn
  | accepted hm hn => exact .accepted hm hn
  | deleted hdel hp hn => exact .deleted (hd hdel) hp hn

lemma sound (h : DeviceAnswer deletes exhausts repeats db r) (hdb : DeviceControlSound db) :
    DeviceControlSound r.db := by
  cases h with
  | refused => exact hdb
  | exhausted => exact hdb
  | repeated => exact hdb
  | expired hs hlive => exact hdb.move (ending_move hdb hs hlive rfl)
  | accepted hm => exact hdb.moves hm
  | deleted => exact hdb.deleteSessions _

end DeviceAnswer

namespace DeviceCall

variable (c : DeviceCall) (db : DeviceControlTables)

/-- A new connection asked for in the last generation. -/
def Exhausted : Prop :=
  match c.action with
  | .reconnect token id generation | .abortAction token id generation =>
    DeviceSessionService.Exhausted db c.now token id generation
  | _ => False

/-- A renewal that offers a lease the node has been told of. -/
def RepeatsLease : Prop :=
  match c.action with
  | .renew token id generation => c.service.RepeatsLease db c.now token id generation
  | _ => False

variable {c db}

theorem answer (h : DeviceControlSound db) :
    DeviceAnswer (c.action.deletes = true) (c.Exhausted db) (c.RepeatsLease db) db
      (c.perform db) := by
  obtain ⟨service, world, now, action⟩ := c
  have lift : ∀ {α : Type} {r : DeviceSessionResponse α}, DeviceAnswer False False False db r →
      ∀ {deletes exhausts repeats : Prop}, ¬repeats →
        DeviceAnswer deletes exhausts repeats db r.void :=
    fun h _ _ _ hr => h.void.mono False.elim False.elim (iff_of_false not_false hr)
  cases action with
  | create => exact lift create_answer not_false
  | claim => exact lift (claim_answer h) not_false
  | deleteForUser => exact (deleteForUser_answer h).mono (fun _ => rfl) False.elim Iff.rfl
  | deleteTerminalSessions =>
    exact deleteTerminalSessions_answer.void.mono (fun _ => rfl) False.elim Iff.rfl
  | deleteTerminalBefore =>
    exact deleteTerminalBefore_answer.void.mono (fun _ => rfl) False.elim Iff.rfl
  | listForDevice => exact lift (listForDevice_answer h) not_false
  | listCandidates => exact lift (listCandidates_answer h) not_false
  | getForUser => exact lift (getForUser_answer h) not_false
  | markDeviceConnected => exact lift (markDeviceConnected_answer h) not_false
  | approve => exact lift (approve_answer h) not_false
  | acquireLock => exact lift (acquireLock_answer h) not_false
  | renew => exact (renew_answer h).void.mono False.elim False.elim Iff.rfl
  | reconnect => exact (reconnect_answer h).void.mono False.elim id Iff.rfl
  | abortAction => exact (abortAction_answer h).void.mono False.elim id Iff.rfl
  | stopByUser => exact lift (stopByUser_answer h) not_false
  | stopByDevice => exact lift (stopByDevice_answer h) not_false
  | stopByAdmin => exact lift (stopByAdmin_answer h) not_false
  | stopForToolSession => exact lift (stopListed_answer h (liveList_listLive h _)) not_false
  | stopForDevice => exact lift (stopListed_answer h (liveList_listLive h _)) not_false
  | expireDue => exact lift (expireDue_answer h) not_false

/-- The invariants hold after every run. -/
theorem run_sound (calls : List DeviceCall) : DeviceControlSound (run calls) := by
  suffices h : ∀ db, DeviceControlSound db →
      DeviceControlSound (calls.foldl (fun db c => (c.perform db).db) db) from h _ .empty
  induction calls with
  | nil => exact fun _ h => h
  | cons c calls ih => exact fun db h => ih _ ((answer h).sound h)

/-! ### One call -/

/-- What becomes of a session that a call does not delete. -/
lemma follows (h : DeviceControlSound db) {s s' : DeviceSession} (hs : s ∈ db.sessions)
    (hs' : s' ∈ (c.perform db).db.sessions) (hid : s'.id = s.id) : s.Follows s' := by
  have hsame : s' ∈ db.sessions → s.Follows s' := fun hmem => by
    rw [h.sessions.eq_of_id hmem hs hid]
    exact .refl s
  have hanswer := answer (c := c) h
  generalize c.perform db = r at hs' hanswer
  cases hanswer with
  | refused => exact hsame hs'
  | exhausted => exact hsame hs'
  | repeated => exact hsame hs'
  | expired ht hlive =>
    exact (Evolves.of_move h.tasks (ending_move h ht hlive rfl)).follows h hs hs' hid
  | accepted hm => exact (Evolves.of_moves h hm).follows h hs hs' hid
  | deleted => exact hsame (List.mem_of_mem_filter hs')

/-- Only ended sessions are deleted, and only by a deletion. -/
lemma exists_row (h : DeviceControlSound db) {s : DeviceSession} (hs : s ∈ db.sessions) :
    (∃ s' ∈ (c.perform db).db.sessions, s'.id = s.id) ∨
      s.status.terminal = true ∧ c.action.deletes = true := by
  have hanswer := answer (c := c) h
  generalize c.perform db = r at hanswer
  cases hanswer with
  | refused => exact .inl ⟨s, hs, rfl⟩
  | exhausted => exact .inl ⟨s, hs, rfl⟩
  | repeated => exact .inl ⟨s, hs, rfl⟩
  | expired ht hlive => exact .inl (exists_row_of_moves (.single (ending_move h ht hlive rfl)) hs)
  | accepted hm => exact .inl (exists_row_of_moves hm hs)
  | @deleted p _ _ hd hp =>
    by_cases hps : p s
    · exact .inr ⟨hp s hs hps, hd⟩
    · exact .inl ⟨s, List.mem_filter.mpr ⟨hs, by simpa using hps⟩, rfl⟩

/-- A call that fails leaves each session as it was, or expired. -/
lemma row_of_error (h : DeviceControlSound db) {e : DeviceControlFailure}
    (he : (c.perform db).result = .error e) {s : DeviceSession} (hs : s ∈ db.sessions) :
    s ∈ (c.perform db).db.sessions ∨ s.status.terminal = false ∧
      ∃ s' ∈ (c.perform db).db.sessions, s'.id = s.id ∧ s'.status = .expired := by
  have hanswer := answer (c := c) h
  generalize c.perform db = r at he hanswer
  cases hanswer with
  | refused => exact .inl hs
  | exhausted => exact .inl hs
  | repeated => exact .inl hs
  | @expired t reason now _ _ ht hlive =>
    by_cases hid : s.id = t.id
    · obtain rfl := h.sessions.eq_of_id hs ht hid
      exact .inr ⟨hlive, _, (mem_ending ht).mpr (.inr rfl), rfl, rfl⟩
    · exact .inl ((mem_ending ht).mpr (.inl ⟨hs, hid⟩))
  | accepted => cases he
  | deleted => cases he

lemma exhausted_of_error (h : DeviceControlSound db)
    (he : (c.perform db).result = .error .generationExhausted) : c.Exhausted db := by
  have hanswer := answer (c := c) h
  generalize c.perform db = r at he hanswer
  cases hanswer with
  | refused hplain =>
    obtain rfl := Except.error.inj he
    exact absurd hplain (by decide)
  | exhausted hx => exact hx
  | repeated => cases he
  | expired _ _ hplain =>
    obtain rfl := Except.error.inj he
    exact absurd hplain (by decide)
  | accepted => cases he
  | deleted => cases he

end DeviceCall

/-- What one more call may do to the sessions. -/
structure DeviceCallSound (c : DeviceCall) (db : DeviceControlTables) : Prop where
  /-- An ended session keeps its row until a deletion drops it. -/
  terminal : ∀ s ∈ db.sessions, s.status.terminal = true →
    s ∈ (c.perform db).db.sessions ∨
      c.action.deletes = true ∧ ∀ s' ∈ (c.perform db).db.sessions, s'.id ≠ s.id
  /-- A live session keeps a row. -/
  live : ∀ s ∈ db.sessions, s.status.terminal = false →
    ∃ s' ∈ (c.perform db).db.sessions, s'.id = s.id
  /-- The withdrawal of a lease takes a new generation. -/
  withdrawn : ∀ s ∈ db.sessions, ∀ s' ∈ (c.perform db).db.sessions, s'.id = s.id →
    s.leaseUntil ≠ none → s'.leaseUntil = none → s.generation < s'.generation
  /-- Only a new connection can find the generations used up. -/
  exhausted : (c.perform db).result = .error .generationExhausted → c.Exhausted db
  /-- An error leaves each session as it was, or expired. -/
  refused : ∀ code message statusCode,
    (c.perform db).result = .error (.apiError code message statusCode) → ∀ s ∈ db.sessions,
      s ∈ (c.perform db).db.sessions ∨ s.status.terminal = false ∧
        ∃ s' ∈ (c.perform db).db.sessions, s'.id = s.id ∧ s'.status = .expired

/-- The lifecycle of the device sessions, after every run and through every further call. -/
theorem deviceSessions_sound (calls : List DeviceCall) :
    DeviceSessionsSound (DeviceCall.run calls) ∧
      (∀ s ∈ (DeviceCall.run calls).sessions, ∀ t ∈ (DeviceCall.run calls).sessions,
        s.lockAcquiredAt ≠ none → t.lockAcquiredAt ≠ none → s.toolSessionId ≠ none →
        s.toolSessionId = t.toolSessionId → s = t) ∧
      ∀ c, DeviceCallSound c (DeviceCall.run calls) := by
  have h := DeviceCall.run_sound calls
  refine ⟨h.sessions, ?_, fun c => ⟨?_, ?_, ?_, ?_, ?_⟩⟩
  · intro s hs t ht hsl htl hsome hst
    have hlive : ∀ r ∈ (DeviceCall.run calls).sessions, r.lockAcquiredAt ≠ none →
        r.status.terminal = false := by
      intro r hr hl
      by_contra hterminal
      exact hl ((h.sessions.rows r hr).terminal (by simpa using hterminal)).2
    exact h.sessions.toolSession s hs t ht (hlive s hs hsl) (hlive t ht htl) hsome hst
  · intro s hs hterminal
    rcases DeviceCall.exists_row (c := c) h hs with ⟨s', hs', hid⟩ | ⟨-, hd⟩
    · exact .inl ((DeviceCall.follows h hs hs' hid).terminal hterminal ▸ hs')
    · by_cases hgone : ∃ s' ∈ (c.perform (DeviceCall.run calls)).db.sessions, s'.id = s.id
      · obtain ⟨s', hs', hid⟩ := hgone
        exact .inl ((DeviceCall.follows h hs hs' hid).terminal hterminal ▸ hs')
      · push Not at hgone
        exact .inr ⟨hd, hgone⟩
  · intro s hs hlive
    refine (DeviceCall.exists_row h hs).resolve_right fun ⟨hterminal, _⟩ => ?_
    exact absurd (hterminal.symm.trans hlive) (by decide)
  · exact fun s hs s' hs' hid => (DeviceCall.follows h hs hs' hid).lease
  · exact DeviceCall.exhausted_of_error h
  · exact fun _ _ _ he s hs => DeviceCall.row_of_error h he hs

end AgentRemote
