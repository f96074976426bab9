import Mathlib.Tactic

/-!
# Where what is handed in comes from

Events hand something in, hand something out, or both. When nothing is handed in that was not
handed out before, every event that hands something in ends a chain of earlier ones, each of
which hands in what the one before it handed out, back to one that hands in nothing.
-/

namespace AgentRemote.Library

section

variable {E T : Type*} (takes gives : E → Option T)

/-- Whatever an event of the history hands in, an earlier one handed out. Latest first. -/
def Provenanced (history : List E) : Prop :=
  ∀ later e earlier t, history = later ++ e :: earlier → takes e = some t →
    ∃ e' ∈ earlier, gives e' = some t

/-- Each event hands in what the next of the list, which came before it, handed out. -/
inductive Chain : List E → Prop
  | first {e : E} (h : takes e = none) : Chain [e]
  | next {e e' : E} {rest : List E} {t : T} (htakes : takes e = some t) (hgives : gives e' = some t)
      (hrest : Chain (e' :: rest)) : Chain (e :: e' :: rest)

variable {takes gives} {history later earlier : List E} {e : E}

lemma provenanced_nil : Provenanced takes gives [] := by
  intro later e earlier t hsplit
  cases later <;> cases hsplit

/-- An event that hands in what came before it, or nothing, prolongs such a history. -/
lemma Provenanced.cons (h : Provenanced takes gives history)
    (he : ∀ t, takes e = some t → ∃ e' ∈ history, gives e' = some t) :
    Provenanced takes gives (e :: history) := by
  intro later e' earlier t hsplit htakes
  cases later with
  | nil =>
    obtain ⟨rfl, rfl⟩ := List.cons.inj hsplit
    exact he t htakes
  | cons e'' later => exact h later e' earlier t (List.cons.inj hsplit).2 htakes

/-- Every event of the history ends a chain of events before it. -/
theorem exists_chain (h : Provenanced takes gives history)
    (hsplit : history = later ++ e :: earlier) :
    ∃ rest, Chain takes gives (e :: rest) ∧ rest.Sublist earlier := by
  induction hn : earlier.length using Nat.strong_induction_on generalizing later e earlier with
  | _ n ih =>
    cases htakes : takes e with
    | none => exact ⟨[], .first htakes, List.nil_sublist _⟩
    | some t =>
      obtain ⟨e', he', hgives⟩ := h later e earlier t hsplit htakes
      obtain ⟨between, before, hbefore⟩ := List.append_of_mem he'
      have hlater : history = (later ++ e :: between) ++ e' :: before := by
        rw [hsplit, hbefore]
        simp
      have hshorter : before.length < n := by
        rw [← hn, hbefore, List.length_append, List.length_cons]
        omega
      obtain ⟨rest, hchain, hrest⟩ := ih before.length hshorter hlater rfl
      refine ⟨e' :: rest, .next htakes hgives hchain, ?_⟩
      rw [hbefore]
      exact (hrest.cons_cons e').trans (List.sublist_append_right between _)

end

end AgentRemote.Library
