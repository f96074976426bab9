import Mathlib.Tactic

/-!
# Texts that can be taken apart again

A record is often written as its fields in a row. The row says which fields it has when
every field ends with a separator that no field holds, and it says which records it has
when all records have the same number of fields.
-/

namespace AgentRemote.Library

variable {α β : Type*}

/-- Fields in a row, each ended by the separator. -/
def terminated (sep : β) (fields : List (List β)) : List β :=
  fields.flatMap fun field => field ++ [sep]

section

variable {sep : β}

@[simp] lemma terminated_nil : terminated sep [] = [] := rfl

@[simp] lemma terminated_cons (field : List β) (fields : List (List β)) :
    terminated sep (field :: fields) = field ++ sep :: terminated sep fields := by
  simp [terminated]

lemma terminated_append (xs ys : List (List β)) :
    terminated sep (xs ++ ys) = terminated sep xs ++ terminated sep ys := by
  simp [terminated]

lemma terminated_flatMap (records : List α) (fields : α → List (List β)) :
    terminated sep (records.flatMap fields) =
      records.flatMap fun record => terminated sep (fields record) := by
  induction records with
  | nil => rfl
  | cons record records ih =>
    rw [List.flatMap_cons, terminated_append, ih, List.flatMap_cons]

/-- What stands before the first separator is read off the row. -/
lemma append_sep_inj {x y s t : List β} (hx : sep ∉ x) (hy : sep ∉ y)
    (h : x ++ sep :: s = y ++ sep :: t) : x = y ∧ s = t := by
  induction x generalizing y with
  | nil =>
    cases y with
    | nil => simpa using h
    | cons b y =>
      have hb : sep = b := (List.cons.inj h).1
      exact absurd (hb ▸ List.mem_cons_self) hy
  | cons a x ih =>
    cases y with
    | nil =>
      have ha : a = sep := (List.cons.inj h).1
      exact absurd (ha ▸ List.mem_cons_self) hx
    | cons b y =>
      have hcons := List.cons.inj h
      have hrest := ih (fun hm => hx (List.mem_cons_of_mem _ hm))
        (fun hm => hy (List.mem_cons_of_mem _ hm)) hcons.2
      rw [hcons.1, hrest.1]
      exact ⟨rfl, hrest.2⟩

/-- Fields without the separator are read off their row. -/
theorem terminated_inj {xs ys : List (List β)} (hx : ∀ field ∈ xs, sep ∉ field)
    (hy : ∀ field ∈ ys, sep ∉ field) (h : terminated sep xs = terminated sep ys) : xs = ys := by
  induction xs generalizing ys with
  | nil =>
    cases ys with
    | nil => rfl
    | cons field ys => simp at h
  | cons field xs ih =>
    cases ys with
    | nil => simp at h
    | cons other ys =>
      rw [terminated_cons, terminated_cons] at h
      have hsep := append_sep_inj (hx field List.mem_cons_self) (hy other List.mem_cons_self) h
      have hrest : xs = ys := by
        apply ih
        · exact fun field hf => hx field (List.mem_cons_of_mem _ hf)
        · exact fun field hf => hy field (List.mem_cons_of_mem _ hf)
        · exact hsep.2
      rw [hsep.1, hrest]

end

/-- Records of one length, none of it zero, are read off their row. -/
theorem flatMap_inj_of_length {fields : α → List β} {n : ℕ} (hn : 0 < n)
    (hlength : ∀ record, (fields record).length = n) {xs ys : List α}
    (hinj : ∀ a ∈ xs, ∀ b ∈ ys, fields a = fields b → a = b)
    (h : xs.flatMap fields = ys.flatMap fields) : xs = ys := by
  have hne : ∀ record, fields record ≠ [] := by
    intro record he
    have := hlength record
    rw [he, List.length_nil] at this
    omega
  induction xs generalizing ys with
  | nil =>
    cases ys with
    | nil => rfl
    | cons b ys => simp [hne] at h
  | cons a xs ih =>
    cases ys with
    | nil => simp [hne] at h
    | cons b ys =>
      rw [List.flatMap_cons, List.flatMap_cons] at h
      have hsplit := List.append_inj h (by rw [hlength, hlength])
      have hhead : a = b := hinj a List.mem_cons_self b List.mem_cons_self hsplit.1
      have htail : xs = ys := by
        apply ih
        · exact fun a ha b hb => hinj a (List.mem_cons_of_mem _ ha) b (List.mem_cons_of_mem _ hb)
        · exact hsplit.2
      rw [hhead, htail]

end AgentRemote.Library
