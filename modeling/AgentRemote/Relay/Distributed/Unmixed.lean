import AgentRemote.Relay.Distributed.Moves
import AgentRemote.Relay.Distributed.Presence
import AgentRemote.Relay.Format

/-!
# Pairings of a distributed relay

What must hold of the endpoints of a generation and of the frames they write, whatever order the
steps of all processes come in, and exactly when it does: as long as a poll never finds an endpoint
that is still taken, or taken by somebody who is not, or with somebody else's frames to read.
-/

namespace AgentRemote.Relay.Distributed
open Library Mailboxes

/-- What must hold of the endpoints at any time. -/
structure World.Unmixed (w : World) : Prop where
  ownFrames : ∀ x ∈ w.written, x.sender = x.peer
  isMutual : ∀ a b c d, w.endpoints a = some c → w.endpoints b = some d → c.peer? = some b →
    d.peer? ≠ none → d.peer? = some a

/-- The peer that a poll finds fits the endpoint that polls. -/
def PollFits (settings : HubSettings) (_ : List Event) (w : World) (event : Event) : Prop :=
  ∀ id p, event = .poll id → w.finds id = some p → (w.room settings).Fits id p

/-- The message that is read next is written. -/
def Event.delivers : Event → Bool
  | .deliver _ _ => true
  | _ => false

variable {settings : HubSettings} {w w' : World} {history past : List Event}

/-! ### Fitting polls -/

lemma World.Unmixed.room_mutual (h : w.Unmixed) : (w.room settings).Mutual := by
  intro a b hab hb
  cases ha : w.endpoints a with
  | none =>
    rw [World.room_parties_none ha] at hab
    cases hab
  | some c =>
    cases hd : w.endpoints b with
    | none =>
      rw [World.room_parties_none hd] at hb
      exact absurd rfl hb
    | some d =>
      rw [World.room_parties ha] at hab
      rw [World.room_parties hd] at hb ⊢
      exact h.isMutual a b c d ha hd hab hb

lemma unmixed_of_sound (h : (w.room settings).Sound) : w.Unmixed where
  ownFrames x hx := h.ownFrames x.writing (List.mem_map_of_mem hx)
  isMutual a b c d hc hd hab hb := by
    have hback := h.isMutual a b (by rw [World.room_parties hc]; exact hab)
      (by rw [World.room_parties hd]; exact hb)
    rw [World.room_parties hd] at hback
    exact hback

lemma sound_empty : (World.empty.room settings).Sound where
  isMutual _ _ hab _ := absurd hab nofun
  ownFrames _ hx := absurd hx List.not_mem_nil
  clean _ _ hp := absurd hp nofun

/-- A step of which every poll fits keeps the endpoints sound. -/
lemma step_sound {event : Event} (h : w.step settings event = some w')
    (hfits : PollFits settings past w event) (hw : (w.room settings).Sound) :
    (w'.room settings).Sound := by
  by_cases hchoice : ∃ id p, event = .poll id ∧ w.finds id = some p
  · obtain ⟨id, p, rfl, hfinds⟩ := hchoice
    obtain ⟨hnone, hroom⟩ := World.poll_chooses hfinds h
    rw [hroom]
    exact (Room.choose_sound_iff hw hnone).mpr (hfits id p rfl hfinds)
  · refine (World.step_proceeds h fun id hid => ?_).sound hw
    cases hfinds : w.finds id with
    | none => rfl
    | some p => exact absurd ⟨id, p, hid, hfinds⟩ hchoice

/-- A run of which every poll fits leads to sound endpoints. -/
lemma run_sound (hok : (relay settings).Permitted (PollFits settings) history)
    (h : (relay settings).run history = some w) : (w.room settings).Sound :=
  Machine.run_induction (P := fun _ w => (w.room settings).Sound) sound_empty
    (fun _ _ _ _ _ hw hfits hstep => step_sound hstep hfits hw) hok h

/-- Deliveries ask for nothing. -/
lemma permitted_deliveries (hok : (relay settings).Permitted (PollFits settings) history)
    (deliveries : List Event) (hd : ∀ event ∈ deliveries, event.delivers = true) :
    (relay settings).Permitted (PollFits settings) (deliveries ++ history) := by
  induction deliveries with
  | nil => exact hok
  | cons event rest ih =>
    refine ⟨ih fun e he => hd e (List.mem_cons_of_mem _ he), fun s _ id p hpoll _ => ?_⟩
    have hdelivers := hd event List.mem_cons_self
    rw [hpoll] at hdelivers
    cases hdelivers

/-! ### Frames that are due -/

/-- An endpoint that serves writes every frame that is due, if nothing else happens. -/
lemma delivers_due {id p : ℕ} {endpoint : Endpoint} {m : ℕ × List ℕ}
    (hrun : (relay settings).run history = some w) (h : w.endpoints id = some endpoint)
    (hpeer : endpoint.peer? = some p)
    (hm : m ∈ due (endpoint.party settings.maximumFrameBytes).inbox) :
    ∃ n w', (relay settings).run (List.replicate n (.deliver id true) ++ history) = some w' ∧
      ∃ x ∈ w'.written, x.sender = m.1 ∧ x.peer = p := by
  generalize hmessages : endpoint.messages = messages
  induction messages generalizing history w endpoint with
  | nil =>
    simp only [Endpoint.party, hmessages, List.map_nil, ite_self] at hm
    exact absurd hm List.not_mem_nil
  | cons message rest ih =>
    have hstage : ∃ serve, endpoint.stage = .serving p serve := by
      unfold Endpoint.peer? at hpeer
      split at hpeer
      · rename_i peer serve hstage
        obtain rfl := Option.some.inj hpeer
        exact ⟨serve, hstage⟩
      · cases hpeer
    obtain ⟨serve, hstage⟩ := hstage
    have hreads : endpoint.reads = true := by
      by_contra hreads
      simp only [Endpoint.party, hreads] at hm
      exact absurd hm List.not_mem_nil
    have hreader : serve.redisToWebsocket.isSome = false := by
      simpa [Endpoint.reads, hstage] using hreads
    simp only [Endpoint.party, hreads, hmessages, if_true, List.map_cons] at hm
    cases hread : readPayload settings.maximumFrameBytes message.payload with
    | returns code =>
      simp only [Message.mail, hread, due] at hm
      exact absurd hm List.not_mem_nil
    | sends frame =>
      have hstep : w.step settings (.deliver id true) =
          some { w.put id { endpoint with messages := rest } with
            written := ⟨id, p, message.sender, frame⟩ :: w.written } := by
        simp only [World.step, World.deliver, h, hstage, hmessages, hreader, hread,
          Option.bind_eq_bind, Option.bind_some, Bool.false_eq_true, if_false, if_true]
      have hrun' : (relay settings).run (.deliver id true :: history) = some _ :=
        Machine.run_cons.mpr ⟨w, hrun, hstep⟩
      have hput : (w.put id { endpoint with messages := rest }).endpoints id =
          some { endpoint with messages := rest } := Function.update_self ..
      simp only [Message.mail, hread, due, List.mem_cons] at hm
      rcases hm with rfl | hm
      · exact ⟨1, _, hrun', _, List.mem_cons_self, rfl, rfl⟩
      · have hsame : ({ endpoint with messages := rest } : Endpoint).reads = true := hreads
        obtain ⟨n, w', hw', hwritten⟩ := ih hrun' hput hpeer
          (by simp only [Endpoint.party, hsame, if_true]; exact hm) rfl
        refine ⟨n + 1, w', ?_, hwritten⟩
        rw [List.replicate_succ', List.append_assoc]
        exact hw'

/-- A poll after which nothing is ever mixed, whatever is delivered, was one that fits. -/
lemma poll_fits {id p : ℕ} (hw : (w.room settings).Sound) (hfinds : w.finds id = some p)
    (hrun : (relay settings).run history = some w)
    (hstep : w.step settings (.poll id) = some w')
    (hunmixed : ∀ n w'', (relay settings).run
      (List.replicate n (.deliver id true) ++ .poll id :: history) = some w'' → w''.Unmixed) :
    (w.room settings).Fits id p := by
  have hrun' : (relay settings).run (.poll id :: history) = some w' :=
    Machine.run_cons.mpr ⟨w, hrun, hstep⟩
  obtain ⟨hnone, hroom⟩ := World.poll_chooses hfinds hstep
  have hmutual : ((w.room settings).choose id p).Mutual := by
    rw [← hroom]
    exact (hunmixed 0 w' hrun').room_mutual
  obtain ⟨hfree, halone⟩ := (Room.choose_mutual_iff hw.isMutual hnone).mp hmutual
  refine ⟨hfree, halone, fun m hm => ?_⟩
  -- what is due is written, as a frame of the peer
  cases h : w'.endpoints id with
  | none =>
    have hparty : (w'.room settings).parties id = _ := World.room_parties_none h
    rw [hroom, Room.choose_parties, if_pos rfl] at hparty
    exact absurd (congrArg Party.partner hparty) nofun
  | some endpoint =>
    have hparty : (w'.room settings).parties id = _ := World.room_parties h
    rw [hroom, Room.choose_parties, if_pos rfl] at hparty
    have hpeer : endpoint.peer? = some p := (congrArg Party.partner hparty).symm
    have hinbox : (endpoint.party settings.maximumFrameBytes).inbox =
        ((w.room settings).parties id).inbox := (congrArg Party.inbox hparty).symm
    obtain ⟨n, w'', hw'', x, hx, hsender, hxpeer⟩ :=
      delivers_due hrun' h hpeer (hinbox ▸ hm)
    rw [← hsender, ← hxpeer]
    exact (hunmixed n w'' hw'').ownFrames x hx

/-! ### Every run -/

/-- In a run the endpoints never mix, whatever is delivered of what is in their channels, exactly
if every poll finds a peer that fits. No presence is registered while the marker exists. -/
theorem unmixed_iff_fits (settings : HubSettings) (history : List Event) (w : World)
    (h : (relay settings).run history = some w) :
    ((relay settings).Permitted (PollFits settings) history ↔
      ∀ past deliveries w', past <:+ history → (∀ e ∈ deliveries, Event.delivers e = true) →
        (relay settings).run (deliveries ++ past) = some w' → w'.Unmixed) ∧
    ∀ event w', w.step settings event = some w' → w.redis.revoked = true →
      w.redis.RegistersNone w'.redis := by
  refine ⟨⟨?_, ?_⟩, fun event w' hstep hrevoked => step_registersNone hstep hrevoked⟩
  · intro hok past deliveries w' hpast hdeliveries hrun
    exact unmixed_of_sound
      (run_sound (permitted_deliveries (hok.suffix hpast) deliveries hdeliveries) hrun)
  · intro hunmixed
    induction history generalizing w with
    | nil => trivial
    | cons event earlier ih =>
      obtain ⟨s, hearlier, hstep⟩ := Machine.run_cons.mp h
      have hok := ih s hearlier fun past deliveries w' hpast =>
        hunmixed past deliveries w' (hpast.trans (List.suffix_cons event earlier))
      refine ⟨hok, fun s' hs' id p hpoll hfinds => ?_⟩
      obtain rfl := Option.some.inj (hearlier.symm.trans hs')
      rw [hpoll] at hstep
      refine poll_fits (run_sound hok hearlier) hfinds hearlier hstep fun n w' hw' => ?_
      refine hunmixed (event :: earlier) (List.replicate n (.deliver id true)) w'
        List.suffix_rfl (fun e he => ?_) (hpoll ▸ hw')
      rw [List.eq_of_mem_replicate he]
      rfl

/-! ### Runs of two bridges and a wrapper -/

def sampleSettings : HubSettings where
  maximumFrameBytes := 1048576
  pairTimeout := 30
  maximumConnection := 600
  depth := 900
  validator _ _ := true

def arrive (id process : ℕ) (role : EgoBrowserRelayRole) : List Event :=
  [.register id, .subscribe id, .connect id process role]

def look (id : ℕ) : List Event := [.poll id, .wait id]

/-- A frame that every hub accepts. -/
def sampleData : List ℕ := Envelope.sampleFrame "\"cancel\""

/-- The client of an endpoint that serves goes. -/
def depart (id : ℕ) : List Event :=
  [.remove id, .unsubscribe id, .withdraw id, .publishClose id, .endServe id,
    .forward id .disconnect true]

/-- A bridge and a wrapper at two processes that serve each other, of which one sends a frame. -/
def pairedRun : List Event :=
  [.deliver 2 true, .forward 1 (.bytes sampleData) true] ++
    look 2 ++ look 1 ++ arrive 2 1 .wrapper ++ arrive 1 0 .bridge

/-- The bridge has found the wrapper and goes before the wrapper looks. A second bridge comes. -/
def staleFrameRun : List Event :=
  .deliver 2 true :: look 2 ++ arrive 3 1 .bridge ++ depart 1 ++
    [.forward 1 (.bytes sampleData) true] ++ look 1 ++ arrive 2 1 .wrapper ++ arrive 1 0 .bridge

/-- The bridge goes, and a second bridge finds the wrapper before the wrapper has noticed. -/
def stalePeerRun : List Event :=
  look 3 ++ arrive 3 1 .bridge ++ depart 1 ++ look 2 ++ look 1 ++ arrive 2 1 .wrapper ++
    arrive 1 0 .bridge

/-- What the wrapper writes in the runs in which it gets a frame. -/
lemma written_runs :
    ((relay sampleSettings).run pairedRun).map World.written = some [⟨2, 1, 1, sampleData⟩] ∧
      ((relay sampleSettings).run staleFrameRun).map World.written =
        some [⟨2, 3, 1, sampleData⟩] := by
  decide +kernel

theorem pairedRun_unmixed_iff : ∃ w, (relay sampleSettings).run pairedRun = some w ∧
    w.written = [⟨2, 1, 1, sampleData⟩] ∧
    ((relay sampleSettings).Permitted (PollFits sampleSettings) pairedRun ↔
      ∀ past deliveries w', past <:+ pairedRun → (∀ e ∈ deliveries, Event.delivers e = true) →
        (relay sampleSettings).run (deliveries ++ past) = some w' → w'.Unmixed) ∧
    ∀ event w', w.step sampleSettings event = some w' → w.redis.revoked = true →
      w.redis.RegistersNone w'.redis := by
  obtain ⟨w, hw, hwritten⟩ := Option.map_eq_some_iff.mp written_runs.1
  exact ⟨w, hw, hwritten, unmixed_iff_fits sampleSettings pairedRun w hw⟩

/-- A bridge that connects again mixes pairs: the wrapper may write frames of the first bridge as
those of the second, and the second may serve a wrapper that still serves the first. -/
theorem reconnected_bridge_mixes :
    (¬∀ history w, (relay sampleSettings).run history = some w →
      ∀ x ∈ w.written, x.sender = x.peer) ∧
    ¬∀ history w, (relay sampleSettings).run history = some w →
      ∀ a b c d, w.endpoints a = some c → w.endpoints b = some d → c.peer? = some b →
        d.peer? ≠ none → d.peer? = some a := by
  constructor
  · intro hclaim
    obtain ⟨w, hw, hwritten⟩ := Option.map_eq_some_iff.mp written_runs.2
    have hown := hclaim staleFrameRun w hw ⟨2, 3, 1, sampleData⟩
      (by rw [hwritten]; exact List.mem_cons_self)
    exact absurd hown (by decide : ¬(1 : ℕ) = 3)
  · intro hclaim
    have hpeers : ((relay sampleSettings).run stalePeerRun).map (fun w =>
        ((w.endpoints 3).map Endpoint.peer?, (w.endpoints 2).map Endpoint.peer?)) =
          some (some (some 2), some (some 1)) := by decide +kernel
    obtain ⟨w, hw, hpeers⟩ := Option.map_eq_some_iff.mp hpeers
    obtain ⟨c, hc, hcpeer⟩ := Option.map_eq_some_iff.mp (congrArg Prod.fst hpeers)
    obtain ⟨d, hd, hdpeer⟩ := Option.map_eq_some_iff.mp (congrArg Prod.snd hpeers)
    have hmutual := hclaim stalePeerRun w hw 3 2 c d hc hd hcpeer (by rw [hdpeer]; exact nofun)
    rw [hdpeer] at hmutual
    exact absurd hmutual (by decide)

end AgentRemote.Relay.Distributed
