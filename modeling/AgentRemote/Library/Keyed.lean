import Mathlib.Data.List.Nodup
import Mathlib.Data.List.Sort
import Mathlib.Tactic

/-!
# Rows found by a key

A finite map kept as the list of its rows, each of which knows its key. `lookup` finds a
row, `put` replaces or appends one, and when no key repeats a list is determined up to
order by its lookups.
-/

namespace AgentRemote.Library

variable {β κ : Type*} [DecidableEq κ]

section

variable (key : β → κ)

def lookup (rows : List β) (k : κ) : Option β := rows.find? (key · = k)

/-- Replaces the row with the key of `row`, or appends `row`. -/
def put (rows : List β) (row : β) : List β :=
  if rows.any (key · = key row) then rows.map fun r => if key r = key row then row else r
  else rows ++ [row]

/-- Appends `row` unless its key is taken. -/
def putNew (rows : List β) (row : β) : List β :=
  if rows.any (key · = key row) then rows else rows ++ [row]

/-- Rewrites the row that has the key of `row`. -/
def replace (rows : List β) (row : β) : List β :=
  rows.map fun r => if key r = key row then row else r

end

variable {key : β → κ} {rows : List β} {k : κ} {r : β}

lemma mem_of_lookup (h : lookup key rows k = some r) : r ∈ rows :=
  List.mem_of_find?_eq_some h

lemma key_of_lookup (h : lookup key rows k = some r) : key r = k := by
  simpa using List.find?_some h

lemma lookup_eq_none_iff : lookup key rows k = none ↔ ∀ r ∈ rows, key r ≠ k := by
  simp [lookup]

@[simp] lemma lookup_nil : lookup key [] k = none := rfl

lemma lookup_append (rows' : List β) :
    lookup key (rows ++ rows') k = (lookup key rows k).or (lookup key rows' k) := by
  simp [lookup]

lemma lookup_isSome_iff : (lookup key rows k).isSome ↔ ∃ r ∈ rows, key r = k := by
  simp [lookup]

omit [DecidableEq κ] in
/-- Two rows of a list without repeated keys that share their key are one row. -/
lemma eq_of_key_eq (hn : (rows.map key).Nodup) {r r' : β} (hr : r ∈ rows) (hr' : r' ∈ rows)
    (h : key r = key r') : r = r' :=
  List.inj_on_of_nodup_map hn hr hr' h

lemma lookup_eq_some_iff (hn : (rows.map key).Nodup) :
    lookup key rows k = some r ↔ r ∈ rows ∧ key r = k := by
  constructor
  · intro h
    exact ⟨mem_of_lookup h, key_of_lookup h⟩
  · rintro ⟨hr, rfl⟩
    have hsome : (lookup key rows (key r)).isSome := lookup_isSome_iff.mpr ⟨r, hr, rfl⟩
    obtain ⟨r', h'⟩ := Option.isSome_iff_exists.mp hsome
    rw [h', eq_of_key_eq hn (mem_of_lookup h') hr (key_of_lookup h')]

lemma lookup_of_mem (hn : (rows.map key).Nodup) (hr : r ∈ rows) :
    lookup key rows (key r) = some r :=
  (lookup_eq_some_iff hn).mpr ⟨hr, rfl⟩

/-- Lookups do not depend on the order of the rows. -/
lemma lookup_perm (hn : (rows.map key).Nodup) {rows' : List β} (h : rows'.Perm rows) (k : κ) :
    lookup key rows' k = lookup key rows k := by
  have hn' : (rows'.map key).Nodup := (h.map key).nodup_iff.mpr hn
  ext r
  rw [lookup_eq_some_iff hn', lookup_eq_some_iff hn, h.mem_iff]

lemma lookup_filter (p : κ → Bool) :
    lookup key (rows.filter (p ∘ key)) k = if p k then lookup key rows k else none := by
  induction rows with
  | nil => simp
  | cons r rows ih =>
    unfold lookup at ih ⊢
    by_cases hp : p (key r)
    · by_cases hk : key r = k
      · subst hk
        simp [hp]
      · simpa [hp, hk] using ih
    · by_cases hk : key r = k
      · subst hk
        simpa [hp] using ih
      · simpa [hp, hk] using ih

lemma lookup_map (f : β → β) (hf : ∀ r, key (f r) = key r) :
    lookup key (rows.map f) k = (lookup key rows k).map f := by
  simp only [lookup, List.find?_map, Function.comp_def, hf]

omit [DecidableEq κ] in
/-- Rewriting rows under their keys keeps the keys distinct. -/
lemma nodup_map_key {f : β → β} (hf : ∀ r, key (f r) = key r) (hn : (rows.map key).Nodup) :
    ((rows.map f).map key).Nodup := by
  have hkeys : (rows.map f).map key = rows.map key := by
    rw [List.map_map]
    exact List.map_congr_left fun r _ => hf r
  rwa [hkeys]

omit [DecidableEq κ] in
/-- Rows that are dropped or rewritten under their keys keep the order of their keys. -/
lemma map_key_filterMap {g : β → Option β} (hg : ∀ r ∈ rows, ∀ r' ∈ g r, key r' = key r) :
    ((rows.filterMap g).map key).Sublist (rows.map key) := by
  induction rows with
  | nil => exact .slnil
  | cons r rows ih =>
    have hrows := ih fun r' hr' => hg r' (List.mem_cons_of_mem _ hr')
    cases hr : g r with
    | none =>
      rw [List.filterMap_cons_none hr]
      exact hrows.cons _
    | some r' =>
      rw [List.filterMap_cons_some hr, List.map_cons, List.map_cons,
        hg r List.mem_cons_self r' hr]
      exact hrows.cons_cons _

lemma map_key_replace (rows : List β) (row : β) :
    (replace key rows row).map key = rows.map key := by
  unfold replace
  rw [List.map_map]
  apply List.map_congr_left
  intro r _
  by_cases h : key r = key row
  · simp [h]
  · simp [h]

lemma mem_replace {row : β} :
    r ∈ replace key rows row ↔
      (r ∈ rows ∧ key r ≠ key row) ∨ r = row ∧ ∃ q ∈ rows, key q = key row := by
  unfold replace
  rw [List.mem_map]
  constructor
  · rintro ⟨q, hq, rfl⟩
    by_cases h : key q = key row
    · rw [if_pos h]
      exact .inr ⟨rfl, q, hq, h⟩
    · rw [if_neg h]
      exact .inl ⟨hq, h⟩
  · rintro (⟨hr, h⟩ | ⟨rfl, q, hq, h⟩)
    · exact ⟨r, hr, if_neg h⟩
    · exact ⟨q, hq, if_pos h⟩

/-- Replacing a row keeps the values under another key distinct, if no other row has the new
one. -/
lemma nodup_map_replace {μ : Type*} {other : β → μ} {row : β}
    (hn : (rows.map key).Nodup) (ho : (rows.map other).Nodup)
    (hnew : ∀ r ∈ rows, key r ≠ key row → other r ≠ other row) :
    ((replace key rows row).map other).Nodup := by
  induction rows with
  | nil => exact List.nodup_nil
  | cons r rows ih =>
    rw [List.map_cons, List.nodup_cons] at hn ho
    have htail := ih hn.2 ho.2 fun q hq => hnew q (List.mem_cons_of_mem _ hq)
    refine List.nodup_cons.mpr ⟨fun hmem => ?_, htail⟩
    obtain ⟨q, hq, heq⟩ := List.mem_map.mp hmem
    beta_reduce at heq
    rcases (mem_replace ..).mp hq with ⟨hq, hne⟩ | ⟨rfl, p, hp, hkey⟩
    · split_ifs at heq with hr
      · exact hnew q (List.mem_cons_of_mem _ hq) hne heq
      · exact ho.1 (heq ▸ List.mem_map_of_mem hq)
    · split_ifs at heq with hr
      · exact hn.1 (hr.trans hkey.symm ▸ List.mem_map_of_mem hp)
      · exact hnew r List.mem_cons_self hr heq.symm

lemma lookup_replace (row : β) :
    lookup key (replace key rows row) k =
      if k = key row then (lookup key rows k).map fun _ => row else lookup key rows k := by
  induction rows with
  | nil => simp [replace]
  | cons q rows ih =>
    simp only [replace, lookup, List.map_cons, List.find?_cons] at ih ⊢
    by_cases hq : key q = key row
    · by_cases hk : k = key row
      · simp [hq, hk]
      · have hne : ¬key row = k := fun h => hk h.symm
        simpa [hq, hk, hne] using ih
    · by_cases hk : key q = k
      · subst hk
        simp [hq]
      · simpa [hq, hk] using ih

lemma put_map (f : β → β) (hf : ∀ r, key (f r) = key r) (row : β) :
    put key (rows.map f) (f row) = (put key rows row).map f := by
  have hany : (rows.map f).any (key · = key (f row)) = rows.any (key · = key row) := by
    simp [List.any_map, Function.comp_def, hf]
  unfold put
  rw [hany]
  split_ifs
  · rw [List.map_map, List.map_map]
    apply List.map_congr_left
    intro r _
    simp only [Function.comp_apply, hf]
    split_ifs <;> rfl
  · rw [List.map_append, List.map_singleton]

/-- A list built from its keys holds at each key what was built for it. -/
lemma lookup_filterMap {build : κ → Option β} (hb : ∀ k r, build k = some r → key r = k)
    (keys : List κ) (k : κ) :
    lookup key (keys.filterMap build) k = if k ∈ keys then build k else none := by
  induction keys with
  | nil => simp
  | cons a keys ih =>
    cases ha : build a with
    | none =>
      rw [List.filterMap_cons_none ha, ih]
      by_cases hk : k = a
      · subst hk
        simp [ha]
      · simp [hk]
    | some r =>
      rw [List.filterMap_cons_some ha]
      have hkey := hb a r ha
      by_cases hk : k = a
      · subst hk
        simp [lookup, hkey, ha]
      · have hne : key r ≠ k := fun h => hk (h.symm.trans hkey)
        unfold lookup at ih ⊢
        simpa [hk, hne] using ih

lemma map_key_put (row : β) : (put key rows row).map key =
    if key row ∈ rows.map key then rows.map key else rows.map key ++ [key row] := by
  have hany : rows.any (key · = key row) = decide (key row ∈ rows.map key) := by
    rw [Bool.eq_iff_iff]
    simp
  unfold put
  rw [hany]
  by_cases h : key row ∈ rows.map key
  · simp only [h, decide_true, if_true, List.map_map]
    apply List.map_congr_left
    intro r _
    simp only [Function.comp_apply]
    split_ifs with hr
    · exact hr.symm
    · rfl
  · simp [h]

lemma nodup_put (hn : (rows.map key).Nodup) (row : β) : ((put key rows row).map key).Nodup := by
  rw [map_key_put]
  split_ifs with h
  · exact hn
  · simpa [List.nodup_append, hn] using h

lemma lookup_put (row : β) :
    lookup key (put key rows row) k = if k = key row then some row else lookup key rows k := by
  unfold put
  split_ifs with hany hk hk
  · subst hk
    have hsome : (lookup key rows (key row)).isSome := by
      simpa [lookup_isSome_iff] using hany
    rw [lookup_map]
    · obtain ⟨r, hr⟩ := Option.isSome_iff_exists.mp hsome
      rw [hr, Option.map_some, if_pos (key_of_lookup hr)]
    · intro r
      split_ifs with h
      · exact h.symm
      · rfl
  · rw [lookup_map]
    · cases h : lookup key rows k with
      | none => rfl
      | some r =>
        have hne : key r ≠ key row := fun he => hk (by rw [← key_of_lookup h, he])
        rw [Option.map_some, if_neg hne]
    · intro r
      split_ifs with h
      · exact h.symm
      · rfl
  · subst hk
    have hnone : lookup key rows (key row) = none := by
      simpa [lookup_eq_none_iff] using hany
    rw [lookup_append, hnone]
    simp [lookup]
  · have hne : key row ≠ k := fun he => hk he.symm
    simp [lookup, hne]

lemma nodup_putNew (hn : (rows.map key).Nodup) (row : β) :
    ((putNew key rows row).map key).Nodup := by
  unfold putNew
  split_ifs with h
  · exact hn
  · simpa [List.nodup_append, hn] using h

lemma lookup_putNew (row : β) : lookup key (putNew key rows row) k =
    (lookup key rows k).or (if k = key row then some row else none) := by
  unfold putNew
  split_ifs with hany hk hk
  · subst hk
    have hsome : (lookup key rows (key row)).isSome := by
      simpa [lookup_isSome_iff] using hany
    obtain ⟨r, hr⟩ := Option.isSome_iff_exists.mp hsome
    simp [hr]
  · simp
  · subst hk
    simp [lookup]
  · have hne : key row ≠ k := fun he => hk he.symm
    simp [lookup, hne]

/-- Putting rows one by one: the last row of a key wins. -/
lemma lookup_foldl_put (news : List β) (hn : (news.map key).Nodup) :
    lookup key (news.foldl (put key) rows) k = (lookup key news k).or (lookup key rows k) := by
  induction news generalizing rows with
  | nil => simp
  | cons r news ih =>
    rw [List.map_cons, List.nodup_cons] at hn
    rw [List.foldl_cons, ih hn.2, lookup_put]
    by_cases hk : k = key r
    · subst hk
      have hnone : lookup key news (key r) = none :=
        lookup_eq_none_iff.mpr fun r' hr' he => hn.1 (he ▸ List.mem_map_of_mem hr')
      rw [hnone]
      simp [lookup]
    · have hne : key r ≠ k := fun he => hk he.symm
      simp [lookup, hne, hk]

/-- Offering rows one by one: the row that was there, or else the first of the new ones. -/
lemma lookup_foldl_putNew (news : List β) :
    lookup key (news.foldl (putNew key) rows) k = (lookup key rows k).or (lookup key news k) := by
  induction news generalizing rows with
  | nil => simp
  | cons r news ih =>
    rw [List.foldl_cons, ih, lookup_putNew, Option.or_assoc]
    congr 1
    by_cases hk : k = key r
    · subst hk
      simp [lookup]
    · have hne : key r ≠ k := fun he => hk he.symm
      simp [lookup, hne, hk]

/-- Rows sorted strictly by an injective measure of their key are determined by lookups. -/
lemma eq_of_lookup_eq {γ : Type*} [LinearOrder γ] {measure : κ → γ} {rows' : List β}
    (hs : rows.Pairwise fun a b => measure (key a) < measure (key b))
    (hs' : rows'.Pairwise fun a b => measure (key a) < measure (key b))
    (h : ∀ k, lookup key rows k = lookup key rows' k) : rows = rows' := by
  have hnd : ∀ {l : List β}, (l.Pairwise fun a b => measure (key a) < measure (key b)) →
      (l.map key).Nodup := by
    intro l hl
    rw [List.Nodup, List.pairwise_map]
    exact hl.imp fun hlt heq => (heq ▸ hlt).false
  have hmem : ∀ r, r ∈ rows ↔ r ∈ rows' := by
    intro r
    constructor
    · intro hr
      exact mem_of_lookup ((h (key r)).symm.trans (lookup_of_mem (hnd hs) hr))
    · intro hr
      exact mem_of_lookup ((h (key r)).trans (lookup_of_mem (hnd hs') hr))
  have hperm : rows.Perm rows' :=
    (List.perm_ext_iff_of_nodup (hnd hs).of_map (hnd hs').of_map).mpr hmem
  refine hperm.eq_of_pairwise ?_ hs hs'
  intro a b _ _ hab hba
  exact absurd (hab.trans hba) (lt_irrefl _)

end AgentRemote.Library
