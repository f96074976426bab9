import AgentRemote.Library.Keyed

/-!
# Tallies of keyed rows

The weight of a list of rows, and how it changes when one row is replaced or when the rows
of a set of keys stop counting.
-/

namespace AgentRemote.Library

variable {β κ : Type*}

/-- The total weight of the rows. -/
def tally (weight : β → ℕ) (rows : List β) : ℕ := (rows.map weight).sum

variable {weight weight' : β → ℕ} {rows : List β}

@[simp] lemma tally_nil : tally weight [] = 0 := rfl

@[simp] lemma tally_cons (r : β) : tally weight (r :: rows) = weight r + tally weight rows := by
  simp [tally]

@[simp] lemma tally_append (rows' : List β) :
    tally weight (rows ++ rows') = tally weight rows + tally weight rows' := by
  simp [tally]

lemma tally_congr (h : ∀ r ∈ rows, weight r = weight' r) : tally weight rows = tally weight' rows :=
  congrArg List.sum (List.map_congr_left h)

lemma tally_add : tally (fun r => weight r + weight' r) rows =
    tally weight rows + tally weight' rows := by
  simp [tally]

lemma tally_filterMap {γ : Type*} (f : γ → Option β) (sources : List γ) :
    tally weight (sources.filterMap f) = tally (fun s => (f s).elim 0 weight) sources := by
  induction sources with
  | nil => rfl
  | cons s sources ih =>
    cases hs : f s with
    | none => simp [hs, ih]
    | some r => simp [hs, ih]

lemma tally_filter (p : β → Bool) :
    tally weight (rows.filter p) = tally (fun r => if p r then weight r else 0) rows := by
  induction rows with
  | nil => rfl
  | cons r rows ih => cases hp : p r <;> simp [hp, ih]

lemma tally_filter_le {p q : β → Bool} (h : ∀ r ∈ rows, p r → q r) :
    tally weight (rows.filter p) ≤ tally weight (rows.filter q) := by
  induction rows with
  | nil => exact le_rfl
  | cons r rows ih =>
    have ih := ih fun r' hr' => h r' (List.mem_cons_of_mem _ hr')
    have hr := h r List.mem_cons_self
    rw [List.filter_cons, List.filter_cons]
    split_ifs with hp hq hq
    · simpa using ih
    · exact absurd (hr hp) hq
    · rw [tally_cons]
      omega
    · exact ih

lemma tally_eq_zero (h : ∀ r ∈ rows, weight r = 0) : tally weight rows = 0 := by
  simpa [tally, List.sum_eq_zero_iff] using h

variable [DecidableEq κ] {key : β → κ}

/-- Only one row answers to a key. -/
lemma tally_single (hn : (rows.map key).Nodup) {r : β} (hr : r ∈ rows) :
    tally (fun r' => if key r' = key r then weight r' else 0) rows = weight r := by
  induction rows with
  | nil => simp at hr
  | cons a rows ih =>
    rw [List.map_cons, List.nodup_cons] at hn
    rw [tally_cons]
    rcases List.mem_cons.mp hr with rfl | hr
    · have hrest : tally (fun r' => if key r' = key r then weight r' else 0) rows = 0 := by
        apply tally_eq_zero
        intro r' hr'
        rw [if_neg]
        intro he
        exact hn.1 (he ▸ List.mem_map_of_mem hr')
      simp [hrest]
    · have hne : key a ≠ key r := by
        intro he
        exact hn.1 (he ▸ List.mem_map_of_mem hr)
      rw [if_neg hne, ih hn.2 hr, zero_add]

/-- Replacing the row of a key exchanges its weight. -/
lemma tally_replace (hn : (rows.map key).Nodup) {old new : β} (hold : old ∈ rows)
    (hkey : key new = key old) :
    tally weight (rows.map fun r => if key r = key new then new else r) + weight old =
      tally weight rows + weight new := by
  induction rows with
  | nil => simp at hold
  | cons a rows ih =>
    rw [List.map_cons, List.nodup_cons] at hn
    rw [List.map_cons, tally_cons, tally_cons]
    rcases List.mem_cons.mp hold with rfl | hold
    · have hrest : rows.map (fun r => if key r = key new then new else r) = rows := by
        nth_rewrite 2 [← List.map_id rows]
        apply List.map_congr_left
        intro r hr
        rw [if_neg, id]
        intro he
        exact hn.1 (hkey ▸ he ▸ List.mem_map_of_mem hr)
      rw [if_pos hkey.symm, hrest]
      omega
    · have hne : key a ≠ key new := by
        intro he
        exact hn.1 (he.trans hkey ▸ List.mem_map_of_mem hold)
      rw [if_neg hne]
      have := ih hn.2 hold
      omega

/-- The rows that a list of distinct keys picks weigh what the list says they do. -/
lemma tally_picked {γ : Type*} (hn : (rows.map key).Nodup) {keyOf : γ → κ} {value : γ → ℕ}
    {picked : List γ} (hp : (picked.map keyOf).Nodup)
    (h : ∀ p ∈ picked, ∃ r ∈ rows, key r = keyOf p ∧ weight r = value p) :
    tally (fun r => if key r ∈ picked.map keyOf then weight r else 0) rows =
      tally value picked := by
  induction picked with
  | nil => exact tally_eq_zero fun r _ => by simp
  | cons p picked ih =>
    rw [List.map_cons, List.nodup_cons] at hp
    obtain ⟨r, hr, hkey, hweight⟩ := h p (List.mem_cons_self ..)
    have hrest := ih hp.2 fun q hq => h q (List.mem_cons_of_mem _ hq)
    have hsplit : ∀ r' ∈ rows,
        (if key r' ∈ (p :: picked).map keyOf then weight r' else 0) =
          (if key r' = key r then weight r' else 0) +
            if key r' ∈ picked.map keyOf then weight r' else 0 := by
      intro r' _
      by_cases he : key r' = key r
      · have hnot : key r' ∉ picked.map keyOf := by rw [he, hkey]; exact hp.1
        have hin : key r' ∈ (p :: picked).map keyOf := by simp [he, hkey]
        rw [if_pos hin, if_pos he, if_neg hnot, add_zero]
      · have hiff : key r' ∈ (p :: picked).map keyOf ↔ key r' ∈ picked.map keyOf := by
          rw [List.map_cons, List.mem_cons, ← hkey]
          simp [he]
        simp only [hiff, if_neg he, zero_add]
    rw [tally_congr hsplit, tally_add, tally_single hn hr, hrest, tally_cons, hweight]

end AgentRemote.Library
