import AgentRemote.Library.Mailboxes
import AgentRemote.Relay.Distributed

/-!
# What the steps of a distributed relay do

Seen from the endpoints that serve and the frames in their channels, a poll that finds a peer
chooses a partner, and every other step only posts, reads and ends.
-/

namespace AgentRemote.Relay.Distributed
open Library Mailboxes

/-! ### Endpoints as parties -/

/-- The messages of the channel are still read, or will be. -/
def Endpoint.reads (endpoint : Endpoint) : Bool :=
  match endpoint.stage with
  | .subscribing | .registering | .waiting _ _ | .polling _ _ => true
  | .serving _ serve => serve.redisToWebsocket.isNone
  | _ => false

/-- A message as its reader takes it. -/
def Message.mail (maximumFrameBytes : ℕ) (message : Message) : Mail ℕ (List ℕ) :=
  match readPayload maximumFrameBytes message.payload with
  | .sends frame => .frame message.sender frame
  | .returns _ => .notice

def Endpoint.party (maximumFrameBytes : ℕ) (endpoint : Endpoint) : Party ℕ (List ℕ) where
  partner := endpoint.peer?
  inbox := if endpoint.reads then endpoint.messages.map (·.mail maximumFrameBytes) else []

def Written.writing (x : Written) : Writing ℕ (List ℕ) := ⟨x.endpointId, x.peer, x.sender, x.frame⟩

/-- The endpoints of a world as parties, under the limit of its hubs. -/
def World.room (settings : HubSettings) (w : World) : Room ℕ (List ℕ) where
  parties id := ((w.endpoints id).map (·.party settings.maximumFrameBytes)).getD ⟨none, []⟩
  log := w.written.map Written.writing

namespace World

variable {settings : HubSettings} {w w' : World} {id : ℕ} {endpoint : Endpoint}

lemma room_parties (h : w.endpoints id = some endpoint) :
    (w.room settings).parties id = endpoint.party settings.maximumFrameBytes := by
  simp only [room, h, Option.map_some, Option.getD_some]

lemma room_parties_none (h : w.endpoints id = none) : (w.room settings).parties id = ⟨none, []⟩ := by
  simp only [room, h, Option.map_none, Option.getD_none]

lemma room_put (i : ℕ) : ((w.put id endpoint).room settings).parties i =
    if i = id then endpoint.party settings.maximumFrameBytes else (w.room settings).parties i := by
  by_cases hi : i = id
  · subst hi
    simp [room, put]
  · simp [room, put, hi]

/-- The room is made of the endpoints and of what is written. -/
lemma room_congr (hendpoints : w'.endpoints = w.endpoints) (hwritten : w'.written = w.written) :
    w'.room settings = w.room settings := by
  simp only [room, hendpoints, hwritten]

/-! ### Steps of one endpoint -/

/-- An endpoint keeps its peer or none, and has nothing more to read than what its peers posted. -/
lemma put_proceeds
    (hpeer : endpoint.peer? = ((w.room settings).parties id).partner ∨ endpoint.peer? = none)
    (hdue : ∀ m ∈ due (endpoint.party settings.maximumFrameBytes).inbox,
      m ∈ due ((w.room settings).parties id).inbox ∨
        ((w.room settings).parties m.1).partner = some id) :
    (w.room settings).Proceeds ((w.put id endpoint).room settings) where
  partner i := by
    rw [room_put]
    by_cases hi : i = id
    · rw [if_pos hi, hi]
      exact hpeer
    · rw [if_neg hi]
      exact .inl rfl
  due i m hm := by
    rw [room_put] at hm
    by_cases hi : i = id
    · rw [if_pos hi] at hm
      rw [hi]
      exact hdue m hm
    · rw [if_neg hi] at hm
      exact .inl hm
  log _ hx := .inl hx

/-- The endpoint moves on to a stage in which it has no new peer and reads no more than before. -/
lemma stage_proceeds {endpoint' : Endpoint} (h : w.endpoints id = some endpoint)
    (hpeer : endpoint'.peer? = endpoint.peer? ∨ endpoint'.peer? = none)
    (hreads : endpoint'.reads = true → endpoint.reads = true ∧ endpoint'.messages = endpoint.messages) :
    (w.room settings).Proceeds ((w.put id endpoint').room settings) := by
  refine put_proceeds ?_ ?_
  · rw [room_parties h]
    exact hpeer
  · intro m hm
    left
    rw [room_parties h]
    by_cases hr : endpoint'.reads = true
    · obtain ⟨hold, hmessages⟩ := hreads hr
      simp only [Endpoint.party, hr, hold, hmessages] at hm ⊢
      exact hm
    · simp only [Endpoint.party, hr] at hm
      exact absurd hm List.not_mem_nil

/-- A task of an endpoint that serves goes on or returns, other than the one that reads. -/
lemma serve_proceeds {peer : ℕ} {serve serve' : Serve} (h : w.endpoints id = some endpoint)
    (hstage : endpoint.stage = .serving peer serve)
    (hsame : serve'.redisToWebsocket = serve.redisToWebsocket) :
    (w.room settings).Proceeds
      ((w.put id { endpoint with stage := .serving peer serve' }).room settings) := by
  have hpeer : endpoint.peer? = some peer := by simp only [Endpoint.peer?, hstage]
  refine stage_proceeds h (.inl hpeer.symm) fun hreads => ⟨?_, rfl⟩
  simp only [Endpoint.reads, hstage, hsame] at hreads ⊢
  exact hreads

/-- A message is posted by somebody whose peer owns the channel, or ends the reader. -/
lemma publish_proceeds (target sender : ℕ) (payload : List ℕ)
    (h : ((w.room settings).parties sender).partner = some target ∨
      ∃ code, readPayload settings.maximumFrameBytes payload = .returns code) :
    (w.room settings).Proceeds ((w.publish target sender payload).2.room settings) := by
  unfold publish
  split
  · rename_i endpoint hendpoint
    split_ifs
    · refine put_proceeds ?_ ?_
      · rw [room_parties hendpoint]
        exact .inl rfl
      · intro m hm
        rw [room_parties hendpoint]
        by_cases hr : endpoint.reads = true
        · have hreads : ({ endpoint with
              messages := endpoint.messages ++ [⟨sender, payload⟩] } : Endpoint).reads = true := hr
          simp only [Endpoint.party, hr, hreads, List.map_append, List.map_cons, List.map_nil,
            if_true] at hm ⊢
          cases hread : readPayload settings.maximumFrameBytes payload with
          | sends frame =>
            have hmail : (⟨sender, payload⟩ : Message).mail settings.maximumFrameBytes =
                .frame sender frame := by
              simp only [Message.mail, hread]
            rw [hmail] at hm
            rcases mem_due_append_frame hm with hold | rfl
            · exact .inl hold
            · right
              rcases h with hpartner | ⟨code, hcode⟩
              · exact hpartner
              · rw [hread] at hcode
                cases hcode
          | returns code =>
            have hmail : (⟨sender, payload⟩ : Message).mail settings.maximumFrameBytes =
                .notice := by
              simp only [Message.mail, hread]
            rw [hmail, due_append_notice] at hm
            exact .inl hm
        · have hreads : ({ endpoint with
              messages := endpoint.messages ++ [⟨sender, payload⟩] } : Endpoint).reads = false := by
            exact eq_false_of_ne_true hr
          simp only [Endpoint.party, hreads] at hm
          exact absurd hm List.not_mem_nil
    · exact .refl
  · exact .refl

/-! ### One step -/

lemma connect_proceeds {process : ℕ} {role : EgoBrowserRelayRole}
    (h : w.connect id process role = some w') :
    (w.room settings).Proceeds (w'.room settings) := by
  have hnew : ∀ (v : World) (stage : Stage), v.endpoints = w.endpoints → v.written = w.written →
      (⟨process, role, stage, false, [], false, 1008⟩ : Endpoint).peer? = none →
      (w.room settings).Proceeds
        ((v.put id ⟨process, role, stage, false, [], false, 1008⟩).room settings) := by
    intro v stage hendpoints hwritten hpeer
    rw [← room_congr hendpoints hwritten]
    refine put_proceeds (.inr hpeer) ?_
    intro m hm
    simp only [Endpoint.party, List.map_nil, ite_self] at hm
    exact absurd hm List.not_mem_nil
  simp only [connect] at h
  split_ifs at h
  · obtain rfl := Option.some.inj h
    exact hnew w _ rfl rfl rfl
  · obtain rfl := Option.some.inj h
    exact hnew (w.setHub _ _) _ rfl rfl rfl

lemma subscribe_proceeds (h : w.subscribe id = some w') :
    (w.room settings).Proceeds (w'.room settings) := by
  simp only [subscribe, Option.bind_eq_bind, Option.bind_eq_some_iff] at h
  obtain ⟨endpoint, hendpoint, h⟩ := h
  split at h
  · rename_i hstage
    obtain rfl := Option.some.inj h
    refine stage_proceeds hendpoint (.inr ?_) fun _ => ⟨?_, rfl⟩
    · split_ifs <;> rfl
    · simp only [Endpoint.reads, hstage]
  · cases h

lemma register_proceeds (h : w.register settings id = some w') :
    (w.room settings).Proceeds (w'.room settings) := by
  simp only [register, Option.bind_eq_bind, Option.bind_eq_some_iff] at h
  obtain ⟨endpoint, hendpoint, h⟩ := h
  split at h
  · rename_i hstage
    obtain rfl := Option.some.inj h
    refine stage_proceeds (w := { w with redis := _ }) hendpoint (.inr ?_) fun _ => ⟨?_, rfl⟩
    · split_ifs <;> rfl
    · simp only [Endpoint.reads, hstage]
  · cases h

lemma wait_proceeds (h : w.wait id = some w') :
    (w.room settings).Proceeds (w'.room settings) := by
  simp only [wait, Option.bind_eq_bind, Option.bind_eq_some_iff] at h
  obtain ⟨endpoint, hendpoint, h⟩ := h
  split at h
  · rename_i hstage
    have hreads : endpoint.reads = true := by simp only [Endpoint.reads, hstage]
    split at h
    · obtain rfl := Option.some.inj h
      exact stage_proceeds hendpoint (.inr rfl) fun _ => ⟨hreads, rfl⟩
    · split at h
      · obtain rfl := Option.some.inj h
        refine stage_proceeds (w := { w with redis := _ }) hendpoint (.inr ?_)
          fun _ => ⟨hreads, rfl⟩
        split_ifs <;> rfl
      · obtain rfl := Option.some.inj h
        exact stage_proceeds hendpoint (.inr rfl) fun _ => ⟨hreads, rfl⟩
  · cases h

lemma forward_proceeds {message : ClientMessage} {paced : Bool}
    (h : w.forward settings id message paced = some w') :
    (w.room settings).Proceeds (w'.room settings) := by
  simp only [forward, Option.bind_eq_bind, Option.bind_eq_some_iff] at h
  obtain ⟨endpoint, hendpoint, h⟩ := h
  split at h
  · rename_i peer serve hstage
    have hpeer : endpoint.peer? = some peer := by simp only [Endpoint.peer?, hstage]
    have hends (result : TaskResult) : (w.room settings).Proceeds ((w.put id { endpoint with
        stage := .serving peer { serve with websocketToRedis := some result } }).room settings) :=
      serve_proceeds hendpoint hstage rfl
    have hpublish (payload : List ℕ) :
        (w.room settings).Proceeds ((w.publish peer id payload).2.room settings) := by
      refine publish_proceeds peer id payload (.inl ?_)
      rw [room_parties hendpoint]
      exact hpeer
    split at h
    · cases h
    · split at h
      · obtain rfl := Option.some.inj h
        exact hends _
      · obtain rfl := Option.some.inj h
        split_ifs
        · exact hends _
        · exact hpublish _
  · cases h

lemma due_tail (mail : Mail ℕ (List ℕ)) (rest : List (Mail ℕ (List ℕ))) (m : ℕ × List ℕ)
    (hframe : mail ≠ .notice) (h : m ∈ due rest) : m ∈ due (mail :: rest) := by
  cases mail with
  | frame sender data => exact List.mem_cons_of_mem _ h
  | notice => exact absurd rfl hframe

lemma deliver_proceeds {socketOpen : Bool} (h : w.deliver settings id socketOpen = some w') :
    (w.room settings).Proceeds (w'.room settings) := by
  simp only [deliver, Option.bind_eq_bind, Option.bind_eq_some_iff] at h
  obtain ⟨endpoint, hendpoint, h⟩ := h
  split at h
  · rename_i peer serve message rest hstage hmessages
    have hpeer : endpoint.peer? = some peer := by simp only [Endpoint.peer?, hstage]
    split at h
    · cases h
    · rename_i hreading
      have hreads : endpoint.reads = true := by
        simpa [Endpoint.reads, hstage] using hreading
      have hinbox : ((w.room settings).parties id).inbox =
          message.mail settings.maximumFrameBytes ::
            rest.map (·.mail settings.maximumFrameBytes) := by
        rw [room_parties hendpoint]
        simp only [Endpoint.party, hreads, hmessages, List.map_cons, if_true]
      have hreturns (code : ℕ) : (w.room settings).Proceeds ((w.put id { endpoint with
          messages := rest
          stage := .serving peer
            { serve with redisToWebsocket := some (.returned code) } }).room settings) :=
        stage_proceeds hendpoint (.inl hpeer.symm) fun hreads => absurd hreads nofun
      split at h
      · obtain rfl := Option.some.inj h
        exact hreturns _
      · rename_i frame hread
        have hmail : message.mail settings.maximumFrameBytes = .frame message.sender frame := by
          simp only [Message.mail, hread]
        split at h
        · obtain rfl := Option.some.inj h
          have htaken : (w.room settings).Proceeds
              ((w.put id { endpoint with messages := rest }).room settings) := by
            refine put_proceeds ?_ fun m hm => .inl ?_
            · rw [room_parties hendpoint]
              exact .inl rfl
            · rw [hinbox]
              refine due_tail _ _ m (by rw [hmail]; exact nofun) ?_
              have hsame : ({ endpoint with messages := rest } : Endpoint).reads = true := hreads
              simp only [Endpoint.party, hsame, if_true] at hm
              exact hm
          refine ⟨htaken.partner, htaken.due, fun x hx => ?_⟩
          rcases List.mem_cons.mp hx with rfl | hold
          · right
            constructor
            · change ((w.room settings).parties id).partner = some peer
              rw [room_parties hendpoint]
              exact hpeer
            · change (message.sender, frame) ∈ due ((w.room settings).parties id).inbox
              rw [hinbox, hmail]
              exact List.mem_cons_self
          · exact .inl hold
        · obtain rfl := Option.some.inj h
          exact hreturns _
  · cases h

lemma keep_proceeds (h : w.keep id = some w') :
    (w.room settings).Proceeds (w'.room settings) := by
  simp only [keep, Option.bind_eq_bind, Option.bind_eq_some_iff] at h
  obtain ⟨endpoint, hendpoint, h⟩ := h
  split at h
  · rename_i peer serve hstage
    split_ifs at h
    · obtain rfl := Option.some.inj h
      exact serve_proceeds hendpoint hstage rfl
    · obtain rfl := Option.some.inj h
      exact serve_proceeds hendpoint hstage rfl
    · obtain rfl := Option.some.inj h
      exact serve_proceeds hendpoint hstage rfl
    · obtain rfl := Option.some.inj h
      exact serve_proceeds hendpoint hstage rfl
    · obtain rfl := Option.some.inj h
      exact .refl
  · cases h

lemma refresh_proceeds (h : w.refresh id = some w') :
    (w.room settings).Proceeds (w'.room settings) := by
  simp only [refresh, Option.bind_eq_bind, Option.bind_eq_some_iff] at h
  obtain ⟨endpoint, hendpoint, h⟩ := h
  split at h
  · rename_i peer serve hstage
    split at h
    · obtain rfl := Option.some.inj h
      exact serve_proceeds (w := { w with redis := _ }) hendpoint hstage rfl
    · cases h
  · cases h

lemma noticeShutdown_proceeds (h : w.noticeShutdown id = some w') :
    (w.room settings).Proceeds (w'.room settings) := by
  simp only [noticeShutdown, Option.bind_eq_bind, Option.bind_eq_some_iff] at h
  obtain ⟨endpoint, hendpoint, h⟩ := h
  split at h
  · rename_i peer serve hstage
    split_ifs at h
    obtain rfl := Option.some.inj h
    exact serve_proceeds hendpoint hstage rfl
  · cases h

lemma endServe_proceeds (h : w.endServe id = some w') :
    (w.room settings).Proceeds (w'.room settings) := by
  simp only [endServe, Option.bind_eq_bind, Option.bind_eq_some_iff] at h
  obtain ⟨endpoint, hendpoint, h⟩ := h
  split at h
  · split at h
    · split_ifs at h
      obtain rfl := Option.some.inj h
      exact stage_proceeds hendpoint (.inr rfl) fun hreads => absurd hreads nofun
    · obtain rfl := Option.some.inj h
      exact stage_proceeds hendpoint (.inr rfl) fun hreads => absurd hreads nofun
  · cases h

lemma publish_written (target sender : ℕ) (payload : List ℕ) :
    (w.publish target sender payload).2.written = w.written := by
  unfold publish
  split
  · split_ifs <;> rfl
  · rfl

lemma publishClose_proceeds (h : w.publishClose id = some w') :
    (w.room settings).Proceeds (w'.room settings) := by
  simp only [publishClose, Option.bind_eq_bind, Option.bind_eq_some_iff] at h
  obtain ⟨endpoint, hendpoint, h⟩ := h
  split at h
  · rename_i peer code hstage
    obtain rfl := Option.some.inj h
    have hparted : (w.room settings).Proceeds
        ((w.put id { endpoint with stage := .withdrawing code }).room settings) :=
      stage_proceeds hendpoint (.inr rfl) fun hreads => absurd hreads nofun
    refine hparted.andThen (publish_proceeds peer id (closePayload code) (.inr ⟨_, rfl⟩)) ?_
    simp only [room, publish_written]
  · cases h

lemma withdraw_proceeds (h : w.withdraw id = some w') :
    (w.room settings).Proceeds (w'.room settings) := by
  simp only [withdraw, Option.bind_eq_bind, Option.bind_eq_some_iff] at h
  obtain ⟨endpoint, hendpoint, h⟩ := h
  split at h
  · obtain rfl := Option.some.inj h
    exact stage_proceeds (w := { w with redis := _ }) hendpoint (.inr rfl)
      fun hreads => absurd hreads nofun
  · cases h

lemma unsubscribe_proceeds (h : w.unsubscribe id = some w') :
    (w.room settings).Proceeds (w'.room settings) := by
  simp only [unsubscribe, Option.bind_eq_bind, Option.bind_eq_some_iff] at h
  obtain ⟨endpoint, hendpoint, h⟩ := h
  split at h
  · obtain rfl := Option.some.inj h
    exact stage_proceeds hendpoint (.inr rfl) fun hreads => absurd hreads nofun
  · cases h

lemma remove_proceeds (h : w.remove id = some w') :
    (w.room settings).Proceeds (w'.room settings) := by
  simp only [remove, Option.bind_eq_bind, Option.bind_eq_some_iff] at h
  obtain ⟨endpoint, hendpoint, h⟩ := h
  split at h
  · rename_i code hstage
    obtain rfl := Option.some.inj h
    have hleft : (w.room settings).Proceeds
        ((w.put id { endpoint with stage := .closed code }).room settings) :=
      stage_proceeds hendpoint (.inr rfl) fun hreads => absurd hreads nofun
    split_ifs
    · exact hleft
    · exact hleft
  · cases h

lemma redisError_proceeds (h : w.redisError id = some w') :
    (w.room settings).Proceeds (w'.room settings) := by
  simp only [redisError, Option.bind_eq_bind, Option.bind_eq_some_iff] at h
  obtain ⟨endpoint, hendpoint, h⟩ := h
  have hends : ∃ stage : Stage, w' = w.put id { endpoint with stage := stage } ∧
      ({ endpoint with stage := stage } : Endpoint).peer? = none ∧
      ({ endpoint with stage := stage } : Endpoint).reads = false := by
    split at h
    all_goals first
      | exact ⟨_, (Option.some.inj h).symm, rfl, rfl⟩
      | cases h
  obtain ⟨stage, rfl, hpeer, hreads⟩ := hends
  exact stage_proceeds hendpoint (.inr hpeer) fun h => absurd (hreads.symm.trans h) nofun

lemma closeBinding_room (process code : ℕ) :
    (w.closeBinding process code).room settings = w.room settings := by
  have hparty (i : ℕ) : ((w.closeBinding process code).room settings).parties i =
      (w.room settings).parties i := by
    cases h : w.endpoints i with
    | none => simp only [room, closeBinding, h, Option.map_none]
    | some endpoint =>
      simp only [room, closeBinding, h, Option.map_some, Option.getD_some]
      split_ifs <;> rfl
  have hparties := funext hparty
  exact congrArg (fun parties => (⟨parties, (w.room settings).log⟩ : Room ℕ (List ℕ))) hparties

/-! ### Every step -/

lemma finds_eq_some {p : ℕ} (h : w.finds id = some p) :
    ∃ endpoint deadline nextRefresh, w.endpoints id = some endpoint ∧
      endpoint.stage = .polling deadline nextRefresh ∧ w.redis.revoked = false ∧
      w.redis.presence (peerRole endpoint.role) = some p := by
  simp only [finds, Option.bind_eq_bind, Option.bind_eq_some_iff] at h
  obtain ⟨endpoint, hendpoint, h⟩ := h
  split at h
  · rename_i deadline nextRefresh hstage
    by_cases hrevoked : w.redis.revoked = true
    · rw [if_pos hrevoked] at h
      cases h
    · rw [if_neg hrevoked] at h
      exact ⟨endpoint, deadline, nextRefresh, hendpoint, hstage, eq_false_of_ne_true hrevoked, h⟩
  · cases h

/-- A call that finds a peer serves it. -/
lemma poll_chooses {p : ℕ} (hfinds : w.finds id = some p) (h : w.poll settings id = some w') :
    ((w.room settings).parties id).partner = none ∧
      w'.room settings = (w.room settings).choose id p := by
  obtain ⟨endpoint, deadline, nextRefresh, hendpoint, hstage, hrevoked, hpresence⟩ :=
    finds_eq_some hfinds
  have hw' : w' = w.put id
      { endpoint with stage := .serving p (.start settings w.redis.now) } := by
    simp only [poll, hendpoint, hstage, Redis.distributedPeerState, hrevoked, hpresence,
      Option.bind_eq_bind, Option.bind_some] at h
    exact (Option.some.inj h).symm
  have hparty : (w.room settings).parties id =
      ⟨none, endpoint.messages.map (·.mail settings.maximumFrameBytes)⟩ := by
    rw [room_parties hendpoint]
    simp only [Endpoint.party, Endpoint.peer?, Endpoint.reads, hstage, if_true]
  have hparties : (w'.room settings).parties = ((w.room settings).choose id p).parties := by
    funext i
    rw [hw', room_put, Room.choose_parties, hparty]
    rfl
  refine ⟨by rw [hparty], ?_⟩
  rw [hw'] at hparties ⊢
  exact congrArg (fun parties => (⟨parties, (w.room settings).log⟩ : Room ℕ (List ℕ))) hparties

/-- A call that finds no peer goes back to wait, or ends. -/
lemma poll_proceeds (hfinds : w.finds id = none) (h : w.poll settings id = some w') :
    (w.room settings).Proceeds (w'.room settings) := by
  simp only [poll, Option.bind_eq_bind, Option.bind_eq_some_iff] at h
  obtain ⟨endpoint, hendpoint, h⟩ := h
  split at h
  · rename_i deadline nextRefresh hstage
    have hreads : endpoint.reads = true := by simp only [Endpoint.reads, hstage]
    simp only [finds, hendpoint, hstage, Option.bind_eq_bind, Option.bind_some] at hfinds
    split at h
    · obtain rfl := Option.some.inj h
      exact stage_proceeds hendpoint (.inr rfl) fun hr => absurd hr nofun
    · rename_i hrevoked
      have hlive : ¬w.redis.revoked = true := hrevoked
      rw [if_neg hlive] at hfinds
      have hpresence : (w.redis.distributedPeerState (peerRole endpoint.role)).2 = none := hfinds
      rw [hpresence] at h
      obtain rfl := Option.some.inj h
      exact stage_proceeds hendpoint (.inr rfl) fun _ => ⟨hreads, rfl⟩
  · cases h

/-- A step that finds no peer posts, reads and ends. -/
theorem step_proceeds {event : Event} (h : w.step settings event = some w')
    (hfinds : ∀ id, event = .poll id → w.finds id = none) :
    (w.room settings).Proceeds (w'.room settings) := by
  cases event with
  | elapse time =>
    simp only [step] at h
    split_ifs at h
    obtain rfl := Option.some.inj h
    exact .refl
  | connect id process role => exact connect_proceeds h
  | subscribe id => exact subscribe_proceeds h
  | register id => exact register_proceeds h
  | wait id => exact wait_proceeds h
  | poll id => exact poll_proceeds (hfinds id rfl) h
  | forward id message paced => exact forward_proceeds h
  | deliver id socketOpen => exact deliver_proceeds h
  | keep id => exact keep_proceeds h
  | refresh id => exact refresh_proceeds h
  | noticeShutdown id => exact noticeShutdown_proceeds h
  | endServe id => exact endServe_proceeds h
  | publishClose id => exact publishClose_proceeds h
  | withdraw id => exact withdraw_proceeds h
  | unsubscribe id => exact unsubscribe_proceeds h
  | remove id => exact remove_proceeds h
  | redisError id => exact redisError_proceeds h
  | setRevoked =>
    obtain rfl := Option.some.inj h
    exact .refl
  | closeBinding process code =>
    obtain rfl := Option.some.inj h
    rw [closeBinding_room]
    exact .refl
  | close process =>
    obtain rfl := Option.some.inj h
    exact .refl

end World

end AgentRemote.Relay.Distributed
