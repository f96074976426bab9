import Mathlib.Tactic

/-!
# Runs of a machine

A machine takes steps that are possible in some states only. A run lists its events, latest
first.
-/

namespace AgentRemote.Library

structure Machine (State Event : Type*) where
  init : State
  step : State → Event → Option State

namespace Machine

variable {State Event : Type*} (M : Machine State Event)

/-- The state that a list of events leads to, if each was possible. -/
def run : List Event → Option State
  | [] => some M.init
  | e :: earlier => (run earlier).bind fun s => M.step s e

/-- Each event meets a state and a past in which it is permitted. -/
def Permitted (Ok : List Event → State → Event → Prop) : List Event → Prop
  | [] => True
  | e :: earlier => Permitted Ok earlier ∧ ∀ s, M.run earlier = some s → Ok earlier s e

variable {M} {Ok : List Event → State → Event → Prop} {events earlier : List Event} {s s' : State}
  {e : Event}

@[simp] lemma run_nil : M.run [] = some M.init := rfl

lemma run_cons : M.run (e :: earlier) = some s' ↔
    ∃ s, M.run earlier = some s ∧ M.step s e = some s' := by
  rw [run]
  exact Option.bind_eq_some_iff

lemma Permitted.suffix (h : M.Permitted Ok events) (hsuffix : earlier <:+ events) :
    M.Permitted Ok earlier := by
  induction events with
  | nil =>
    rw [List.suffix_nil.mp hsuffix]
    trivial
  | cons e rest ih =>
    rcases List.suffix_cons_iff.mp hsuffix with rfl | hsuffix
    · exact h
    · exact ih h.1 hsuffix

/-- What the start satisfies and every permitted event keeps holds after every run. -/
theorem run_induction {P : List Event → State → Prop} (hinit : P [] M.init)
    (hstep : ∀ earlier s e s', M.run earlier = some s → P earlier s → Ok earlier s e →
      M.step s e = some s' → P (e :: earlier) s')
    (hok : M.Permitted Ok events) (hrun : M.run events = some s) : P events s := by
  induction events generalizing s with
  | nil =>
    obtain rfl := Option.some.inj hrun
    exact hinit
  | cons e earlier ih =>
    obtain ⟨s₀, hearlier, hs⟩ := run_cons.mp hrun
    exact hstep earlier s₀ e s hearlier (ih hok.1 hearlier) (hok.2 s₀ hearlier) hs

end Machine

end AgentRemote.Library
