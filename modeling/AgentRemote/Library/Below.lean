import Mathlib.Data.List.DropRight
import Mathlib.Data.List.Infix
import Mathlib.Tactic

/-!
# Paths below a root

A path is a list in which a separator ends each step. One path lies below another when it goes
on from it with a separator, not when it merely begins like it.
-/

namespace AgentRemote.Library

variable {α : Type*} {sep : α} {p q r s t : List α} {f : α → Bool}

variable (sep) in
/-- The path goes on from the root. -/
def Below (p root : List α) : Prop := root ++ [sep] <+: p

variable (sep) in
/-- The path is the root or lies below it. -/
def AtOrBelow (p root : List α) : Prop := root ++ [sep] <+: p ++ [sep]

instance [DecidableEq α] : Decidable (Below sep p r) := inferInstanceAs (Decidable (_ <+: _))

instance [DecidableEq α] : Decidable (AtOrBelow sep p r) := inferInstanceAs (Decidable (_ <+: _))

lemma atOrBelow_iff : AtOrBelow sep p r ↔ p = r ∨ Below sep p r := by
  constructor
  · intro h
    rcases List.prefix_concat_iff.mp h with heq | hbelow
    · exact .inl (List.append_cancel_right heq).symm
    · exact .inr hbelow
  · rintro (rfl | h)
    · exact List.prefix_rfl
    · exact h.trans (List.prefix_append _ _)

lemma AtOrBelow.refl (p : List α) : AtOrBelow sep p p := List.prefix_rfl

lemma AtOrBelow.trans (h : AtOrBelow sep p q) (h' : AtOrBelow sep q r) : AtOrBelow sep p r :=
  List.IsPrefix.trans h' h

lemma Below.atOrBelow (h : Below sep p r) : AtOrBelow sep p r := atOrBelow_iff.mpr (.inr h)

lemma Below.isPrefix (h : Below sep p r) : r <+: p := (List.prefix_append _ _).trans h

lemma AtOrBelow.isPrefix (h : AtOrBelow sep p r) : r <+: p := by
  rcases atOrBelow_iff.mp h with rfl | h
  · exact List.prefix_rfl
  · exact h.isPrefix

lemma AtOrBelow.trans_below (h : AtOrBelow sep p q) (h' : Below sep q r) : Below sep p r :=
  List.IsPrefix.trans h' h.isPrefix

/-- Of two roots of one path, one lies at or below the other. -/
lemma AtOrBelow.comparable (h : AtOrBelow sep p q) (h' : AtOrBelow sep p r) :
    AtOrBelow sep q r ∨ Below sep r q := by
  rcases List.prefix_or_prefix_of_prefix h h' with hqr | hrq
  · rcases atOrBelow_iff.mp hqr with rfl | hbelow
    · exact .inl (.refl _)
    · exact .inr hbelow
  · exact .inl hrq

/-! ### Trailing characters -/

/-- What is cut off the end of a list that does not end in it. -/
lemma isPrefix_rdropWhile (h : r <+: s) (hne : r ≠ []) (hlast : f (r.getLast hne) = false) :
    r <+: s.rdropWhile f := by
  obtain ⟨t, rfl⟩ := h
  induction t using List.reverseRecOn with
  | nil =>
    rw [List.append_nil, List.rdropWhile_eq_self_iff.mpr fun _ => by simp [hlast]]
  | append_singleton t c ih =>
    rw [← List.append_assoc, List.rdropWhile_concat]
    split_ifs with hc
    · exact ih
    · rw [List.append_assoc]
      exact List.prefix_append _ _

/-- Cutting off the end of a path leaves it under a root that does not end so. -/
lemma AtOrBelow.rdropWhile (h : AtOrBelow sep s r) (hne : r ≠ [])
    (hlast : f (r.getLast hne) = false) : AtOrBelow sep (s.rdropWhile f) r := by
  have hroot := isPrefix_rdropWhile (f := f) h.isPrefix hne hlast
  rcases atOrBelow_iff.mp h with rfl | hbelow
  · have heq : s.rdropWhile f = s :=
      (List.rdropWhile_prefix f s).eq_of_length_le hroot.length_le
    rw [heq]
    exact .refl _
  · refine atOrBelow_iff.mpr ?_
    rcases List.prefix_or_prefix_of_prefix (List.rdropWhile_prefix f s) hbelow with hle | hge
    · rcases List.prefix_concat_iff.mp hle with heq | hle
      · exact .inr (heq ▸ List.prefix_rfl)
      · exact .inl (hle.eq_of_length_le hroot.length_le)
    · exact .inr hge

/-- A path lies at or below what remains of it without its trailing separators. -/
lemma atOrBelow_rdropWhile (h : ∀ c, f c = true → c = sep) : AtOrBelow sep s (s.rdropWhile f) := by
  rw [atOrBelow_iff]
  cases htail : s.rtakeWhile f with
  | nil =>
    have heq := List.rdropWhile_append_rtakeWhile (p := f) (l := s)
    rw [htail, List.append_nil] at heq
    exact .inl heq.symm
  | cons c t =>
    have heq := List.rdropWhile_append_rtakeWhile (p := f) (l := s)
    have hc : c = sep := h c (List.mem_rtakeWhile_imp (htail ▸ List.mem_cons_self))
    refine .inr ⟨t, ?_⟩
    rw [htail, hc] at heq
    rw [List.append_assoc]
    exact heq

end AgentRemote.Library
