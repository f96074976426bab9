import AgentRemote.Library.Loads

/-!
# What the scanner of `json.loads` reads

A scanner consumes what it reads, so the bounds on the items of a container are never met. A hook
that refuses some objects restricts the scanner to the documents without them.
-/

namespace AgentRemote.Library.Loads
open Codecs

/-! ### A scanner consumes what it reads -/

section

variable {s value rest : PyStr} {v : PyJson}

/-- The scanner leaves less than it got, and finds no value at the end of a text. -/
structure Consumes (scan : Scanner) : Prop where
  shorter : ∀ s v rest, scan s = .ok (v, rest) → rest.length < s.length
  nil : scan [] = .error (valueError "Expecting value")

lemma length_skipSpace (s : PyStr) : (skipSpace s).length ≤ s.length :=
  (List.dropWhile_suffix _).length_le

lemma emit_eq_ok {points : PyStr} {read : Except PyError (PyStr × PyStr)} :
    emit points read = .ok (value, rest) ↔
      ∃ tail, read = .ok (tail, rest) ∧ value = points ++ tail := by
  unfold emit
  cases read with
  | error e => simp
  | ok r =>
    obtain ⟨tail, rest'⟩ := r
    constructor
    · intro h
      cases h
      exact ⟨tail, rfl, rfl⟩
    · rintro ⟨tail', h, rfl⟩
      cases h
      rfl

lemma scanString_shorter {state : StringState} (h : scanString state s = .ok (value, rest)) :
    rest.length < s.length := by
  induction s generalizing state value with
  | nil =>
    cases state <;> cases h
  | cons c s ih =>
    have hrec : ∀ {state value}, scanString state s = .ok (value, rest) →
        rest.length < (c :: s).length := fun h => Nat.lt_succ_of_lt (ih h)
    have hemit : ∀ {state value points}, emit points (scanString state s) = .ok (value, rest) →
        rest.length < (c :: s).length := by
      intro state value points h
      obtain ⟨tail, h, -⟩ := emit_eq_ok.mp h
      exact hrec h
    cases state with
    | text high =>
      unfold scanString at h
      split_ifs at h
      · cases h
        exact Nat.lt_succ_self _
      · exact hrec h
      · exact hemit h
    | backslash high =>
      unfold scanString at h
      split_ifs at h
      · exact hrec h
      · split at h
        · cases h
        · exact hemit h
    | hex high left value =>
      unfold scanString at h
      split at h
      · cases h
      · split_ifs at h
        · exact hrec h
        · exact hemit h

lemma length_digits (s : PyStr) : (digits s).2.length ≤ s.length :=
  (List.dropWhile_suffix _).length_le

lemma length_fraction (s : PyStr) : (fraction s).2.length ≤ s.length := by
  unfold fraction
  split
  · rename_i d rest
    have hdigits := length_digits rest
    split_ifs
    · simp only [List.length_cons]
      omega
    · exact le_refl _
  · exact le_refl _

lemma length_exponent (s : PyStr) : (exponent s).2.length ≤ s.length := by
  unfold exponent
  split
  · rename_i e rest
    split_ifs
    · split
      rename_i sign rest' hsign
      have hrest : rest'.length ≤ rest.length := by
        split at hsign
        · split_ifs at hsign
          · cases hsign
            exact Nat.le_succ _
          · cases hsign
            exact le_refl _
        · cases hsign
          exact le_refl _
      have hdigits := length_digits rest'
      split_ifs
      · exact le_refl _
      · simp only [List.length_cons]
        omega
    · exact le_refl _
  · exact le_refl _

lemma length_whole (h : (whole s).1 ≠ []) : (whole s).2.length < s.length := by
  unfold whole at h ⊢
  split
  · rename_i c rest
    split_ifs with hzero hdigit
    · exact Nat.lt_succ_self _
    · have hdrop : (digits (c :: rest)).2 = (digits rest).2 := by
        simp only [digits, List.dropWhile_cons_of_pos hdigit]
      rw [hdrop]
      exact Nat.lt_succ_of_le (length_digits rest)
    · simp [hzero, hdigit] at h
  · simp at h

lemma scanUnsigned_shorter {negative : Bool} (h : scanUnsigned negative s = .ok (v, rest)) :
    rest.length < s.length := by
  have hpart := length_fraction (whole s).2
  have hpower := length_exponent (fraction (whole s).2).2
  unfold scanUnsigned at h
  simp only at h
  by_cases hempty : (whole s).1 = []
  · rw [if_pos hempty] at h
    cases h
  have hwhole := length_whole hempty
  rw [if_neg hempty] at h
  split_ifs at h
  all_goals
    cases h
    omega

lemma word?_shorter {w : String} (hw : w.length ≠ 0) (h : word? w s = some rest) :
    rest.length < s.length := by
  unfold word? at h
  split_ifs at h with htake
  cases h
  have hlength := congrArg List.length htake
  simp only [List.length_take, str, List.length_map, String.length_toList] at hlength
  rw [List.length_drop]
  omega

lemma constant?_shorter (h : constant? s = some (v, rest)) : rest.length < s.length := by
  obtain ⟨⟨w, v'⟩, hmem, hword⟩ := List.exists_of_findSome?_eq_some h
  obtain ⟨rest', hrest, heq⟩ := Option.map_eq_some_iff.mp hword
  cases heq
  have hnames : ∀ named ∈ constants, named.1.length ≠ 0 := by
    intro named hnamed
    simp only [constants, List.mem_cons, List.not_mem_nil, or_false] at hnamed
    obtain rfl | rfl | rfl | rfl | rfl | rfl := hnamed <;> decide
  exact word?_shorter (hnames _ hmem) hrest

lemma scanAtom_shorter (h : scanAtom s = .ok (v, rest)) : rest.length < s.length := by
  unfold scanAtom at h
  split at h
  · rename_i found hfound
    cases h
    exact constant?_shorter hfound
  · exact Nat.lt_succ_of_lt (scanUnsigned_shorter h)
  · exact scanUnsigned_shorter h

lemma behind?_shorter {mark : ℕ} (h : behind? mark s = some rest) : rest.length < s.length := by
  have hspace := length_skipSpace s
  unfold behind? at h
  split at h
  · rename_i c tail htail
    split_ifs at h
    cases h
    have hlength := congrArg List.length htail
    rw [List.length_cons] at hlength
    omega
  · cases h

lemma scanKey_shorter {key : PyStr} (h : scanKey s = .ok (key, rest)) :
    rest.length < s.length := by
  unfold scanKey at h
  split at h
  · rename_i tail
    obtain ⟨⟨key', rest'⟩, hkey, h⟩ := bind_eq_ok.mp h
    have hstring := scanString_shorter hkey
    simp only at h
    split at h
    · rename_i colon hcolon
      have hmark := behind?_shorter hcolon
      have hspace := length_skipSpace colon
      cases h
      rw [List.length_cons]
      omega
    · cases h
  · cases h

/-! ### The bound on the items of a container -/

lemma arrayItems_eq_ok {scan : Scanner} {fuel : ℕ} {items : List PyJson} :
    arrayItems scan (fuel + 1) s = .ok (items, rest) ↔
      ∃ item after, scan s = .ok (item, after) ∧
        ((behind? 93 after = some rest ∧ items = [item]) ∨
          (behind? 93 after = none ∧ ∃ next tail, behind? 44 after = some next ∧
            arrayItems scan fuel (skipSpace next) = .ok (tail, rest) ∧ items = item :: tail)) := by
  rw [arrayItems]
  simp only [bind_eq_ok, Prod.exists]
  apply exists_congr
  intro item
  apply exists_congr
  intro after
  apply and_congr_right
  intro _
  cases behind? 93 after with
  | some close => simp [eq_comm, and_comm]
  | none =>
    cases behind? 44 after with
    | none => simp
    | some next =>
      constructor
      · intro h
        obtain ⟨⟨tail, rest'⟩, htail, h⟩ := bind_eq_ok.mp h
        cases h
        exact Or.inr ⟨rfl, next, tail, rfl, htail, rfl⟩
      · rintro (⟨h, -⟩ | ⟨-, next', tail, hnext, htail, rfl⟩)
        · cases h
        · cases hnext
          exact bind_eq_ok.mpr ⟨_, htail, rfl⟩

lemma arrayItems_shorter {scan : Scanner} (hscan : Consumes scan) {fuel : ℕ} {items : List PyJson}
    (h : arrayItems scan fuel s = .ok (items, rest)) : rest.length < s.length := by
  induction fuel generalizing s items rest with
  | zero => cases h
  | succ fuel ih =>
    obtain ⟨item, after, hitem, h⟩ := arrayItems_eq_ok.mp h
    have hshort := hscan.shorter _ _ _ hitem
    rcases h with ⟨hclose, -⟩ | ⟨-, next, tail, hcomma, htail, -⟩
    · have hmark := behind?_shorter hclose
      omega
    · have hmark := behind?_shorter hcomma
      have hspace := length_skipSpace next
      have hrest := ih htail
      omega

/-- A text has no more items than characters. -/
lemma arrayItems_succ {scan : Scanner} (hscan : Consumes scan) {fuel : ℕ}
    (h : s.length ≤ fuel) : arrayItems scan (fuel + 1) s = arrayItems scan fuel s := by
  induction fuel generalizing s with
  | zero =>
    rw [List.length_eq_zero_iff.mp (Nat.le_zero.mp h)]
    unfold arrayItems
    rw [hscan.nil]
    rfl
  | succ fuel ih =>
    conv_lhs => unfold arrayItems
    conv_rhs => unfold arrayItems
    cases hitem : scan s with
    | error e => rfl
    | ok r =>
      obtain ⟨item, rest⟩ := r
      have hshort := hscan.shorter _ _ _ hitem
      simp only [ok_bind]
      split
      · rfl
      · rename_i comma _ hcomma
        have hmark := behind?_shorter hcomma
        have hspace := length_skipSpace comma
        rw [ih (by omega)]
      · rfl

lemma objectPairs_eq_ok {scan : Scanner} {fuel : ℕ} {pairs : List (PyStr × PyJson)} :
    objectPairs scan (fuel + 1) s = .ok (pairs, rest) ↔
      ∃ key place, scanKey s = .ok (key, place) ∧ ∃ value after, scan place = .ok (value, after) ∧
        ((behind? 125 after = some rest ∧ pairs = [(key, value)]) ∨
          (behind? 125 after = none ∧ ∃ next tail, behind? 44 after = some next ∧
            objectPairs scan fuel (skipSpace next) = .ok (tail, rest) ∧
            pairs = (key, value) :: tail)) := by
  rw [objectPairs]
  simp only [bind_eq_ok, Prod.exists]
  apply exists_congr
  intro key
  apply exists_congr
  intro place
  apply and_congr_right
  intro _
  apply exists_congr
  intro value
  apply exists_congr
  intro after
  apply and_congr_right
  intro _
  cases behind? 125 after with
  | some close => simp [eq_comm, and_comm]
  | none =>
    cases behind? 44 after with
    | none => simp
    | some next =>
      constructor
      · intro h
        obtain ⟨⟨tail, rest'⟩, htail, h⟩ := bind_eq_ok.mp h
        cases h
        exact Or.inr ⟨rfl, next, tail, rfl, htail, rfl⟩
      · rintro (⟨h, -⟩ | ⟨-, next', tail, hnext, htail, rfl⟩)
        · cases h
        · cases hnext
          exact bind_eq_ok.mpr ⟨_, htail, rfl⟩

lemma objectPairs_shorter {scan : Scanner} (hscan : Consumes scan) {fuel : ℕ}
    {pairs : List (PyStr × PyJson)} (h : objectPairs scan fuel s = .ok (pairs, rest)) :
    rest.length < s.length := by
  induction fuel generalizing s pairs rest with
  | zero => cases h
  | succ fuel ih =>
    obtain ⟨key, place, hkey, value, after, hvalue, h⟩ := objectPairs_eq_ok.mp h
    have hplace := scanKey_shorter hkey
    have hshort := hscan.shorter _ _ _ hvalue
    rcases h with ⟨hclose, -⟩ | ⟨-, next, tail, hcomma, htail, -⟩
    · have hmark := behind?_shorter hclose
      omega
    · have hmark := behind?_shorter hcomma
      have hspace := length_skipSpace next
      have hrest := ih htail
      omega

/-- A text has no more pairs than characters. -/
lemma objectPairs_succ {scan : Scanner} (hscan : Consumes scan) {fuel : ℕ}
    (h : s.length ≤ fuel) : objectPairs scan (fuel + 1) s = objectPairs scan fuel s := by
  induction fuel generalizing s with
  | zero =>
    rw [List.length_eq_zero_iff.mp (Nat.le_zero.mp h)]
    rfl
  | succ fuel ih =>
    conv_lhs => unfold objectPairs
    conv_rhs => unfold objectPairs
    cases hkey : scanKey s with
    | error e => rfl
    | ok r =>
      obtain ⟨key, place⟩ := r
      have hplace := scanKey_shorter hkey
      simp only [ok_bind]
      cases hvalue : scan place with
      | error e => rfl
      | ok r =>
        obtain ⟨value, rest⟩ := r
        have hshort := hscan.shorter _ _ _ hvalue
        simp only [ok_bind]
        split
        · rfl
        · rename_i comma _ hcomma
          have hmark := behind?_shorter hcomma
          have hspace := length_skipSpace comma
          rw [ih (by omega)]
        · rfl

lemma scanArray_shorter {scan : Scanner} (hscan : Consumes scan)
    (h : scanArray scan s = .ok (v, rest)) : rest.length < s.length := by
  have hspace := length_skipSpace s
  unfold scanArray at h
  split at h
  · rename_i close hclose
    cases h
    exact behind?_shorter hclose
  · obtain ⟨⟨items, rest'⟩, hitems, h⟩ := bind_eq_ok.mp h
    have hshort := arrayItems_shorter hscan hitems
    cases h
    omega

lemma scanObject_shorter {hook : PairsHook} {scan : Scanner} (hscan : Consumes scan)
    (h : scanObject hook scan s = .ok (v, rest)) : rest.length < s.length := by
  have hspace := length_skipSpace s
  unfold scanObject at h
  split at h
  · rename_i close hclose
    obtain ⟨value, -, h⟩ := bind_eq_ok.mp h
    cases h
    exact behind?_shorter hclose
  · obtain ⟨⟨pairs, rest'⟩, hpairs, h⟩ := bind_eq_ok.mp h
    obtain ⟨value, -, h⟩ := bind_eq_ok.mp h
    have hshort := objectPairs_shorter hscan hpairs
    cases h
    omega

lemma scanWith_consumes {hook : PairsHook} {inner : Option Scanner}
    (hinner : ∀ scan ∈ inner, Consumes scan) : Consumes (scanWith hook inner) := by
  refine ⟨fun s v rest h => ?_, rfl⟩
  unfold scanWith at h
  split at h
  · cases h
  · obtain ⟨⟨value, rest'⟩, hstring, h⟩ := bind_eq_ok.mp h
    have hshort := scanString_shorter hstring
    cases h
    exact Nat.lt_succ_of_lt hshort
  · split at h
    · exact Nat.lt_succ_of_lt (scanArray_shorter (hinner _ rfl) h)
    · cases h
  · split at h
    · exact Nat.lt_succ_of_lt (scanObject_shorter (hinner _ rfl) h)
    · cases h
  · exact scanAtom_shorter h

/-- The scanner consumes what it reads at every depth, so the bound on items is never met. -/
theorem scanOnce_consumes (hook : PairsHook) (depth : ℕ) : Consumes (scanOnce hook depth) := by
  induction depth with
  | zero => exact scanWith_consumes (by simp)
  | succ depth ih =>
    apply scanWith_consumes
    intro scan hscan
    cases hscan
    exact ih

section

variable {s : PyStr} {fuel : ℕ}

/-- No bound beyond the length of a text changes the items that are read. -/
theorem arrayItems_bound (hook : PairsHook) (depth : ℕ) (h : s.length ≤ fuel) :
    arrayItems (scanOnce hook depth) fuel s = arrayItems (scanOnce hook depth) s.length s := by
  induction fuel, h using Nat.le_induction with
  | base => rfl
  | succ fuel h ih => rw [arrayItems_succ (scanOnce_consumes hook depth) h, ih]

/-- No bound beyond the length of a text changes the pairs that are read. -/
theorem objectPairs_bound (hook : PairsHook) (depth : ℕ) (h : s.length ≤ fuel) :
    objectPairs (scanOnce hook depth) fuel s = objectPairs (scanOnce hook depth) s.length s := by
  induction fuel, h using Nat.le_induction with
  | base => rfl
  | succ fuel h ih => rw [objectPairs_succ (scanOnce_consumes hook depth) h, ih]

end

/-! ### What the hook decides -/

/-- Every object of the document satisfies the predicate. -/
inductive PyJson.All (p : List (PyStr × PyJson) → Prop) : PyJson → Prop
  | null : All p .null
  | bool (b : Bool) : All p (.bool b)
  | int (n : ℤ) : All p (.int n)
  | float (text : PyStr) : All p (.float text)
  | string (s : PyStr) : All p (.string s)
  | array {items : List PyJson} (h : ∀ item ∈ items, All p item) : All p (.array items)
  | object {pairs : List (PyStr × PyJson)} (hp : p pairs) (h : ∀ pair ∈ pairs, All p pair.2) :
    All p (.object pairs)

/-- The hook that keeps the pairs. -/
def keepPairs : PairsHook := fun pairs => .ok (.object pairs)

/-- Two scanners read the same, one of them only what satisfies the predicate. -/
def Restricts (p : List (PyStr × PyJson) → Prop) (scan free : Scanner) : Prop :=
  ∀ s v rest, scan s = .ok (v, rest) ↔ free s = .ok (v, rest) ∧ v.All p

section

variable {p : List (PyStr × PyJson) → Prop} {scan free : Scanner} {hook : PairsHook}

lemma arrayItems_restricts (hscan : Restricts p scan free) (fuel : ℕ) {items : List PyJson} :
    arrayItems scan fuel s = .ok (items, rest) ↔
      arrayItems free fuel s = .ok (items, rest) ∧ ∀ item ∈ items, item.All p := by
  induction fuel generalizing s items rest with
  | zero => simp [arrayItems]
  | succ fuel ih =>
    constructor
    · intro h
      obtain ⟨item, after, hitem, h⟩ := arrayItems_eq_ok.mp h
      obtain ⟨hfree, hall⟩ := (hscan _ _ _).mp hitem
      rw [arrayItems_eq_ok]
      rcases h with ⟨hclose, rfl⟩ | ⟨hopen, next, tail, hcomma, htail, rfl⟩
      · exact ⟨⟨item, after, hfree, Or.inl ⟨hclose, rfl⟩⟩, by simpa using hall⟩
      · obtain ⟨htail, hrest⟩ := ih.mp htail
        exact ⟨⟨item, after, hfree, Or.inr ⟨hopen, next, tail, hcomma, htail, rfl⟩⟩,
          List.forall_mem_cons.mpr ⟨hall, hrest⟩⟩
    · rintro ⟨h, hall⟩
      obtain ⟨item, after, hfree, h⟩ := arrayItems_eq_ok.mp h
      rw [arrayItems_eq_ok]
      rcases h with ⟨hclose, rfl⟩ | ⟨hopen, next, tail, hcomma, htail, rfl⟩
      · have hitem := hall item (List.mem_singleton_self item)
        exact ⟨item, after, (hscan _ _ _).mpr ⟨hfree, hitem⟩, Or.inl ⟨hclose, rfl⟩⟩
      · obtain ⟨hitem, hrest⟩ := List.forall_mem_cons.mp hall
        exact ⟨item, after, (hscan _ _ _).mpr ⟨hfree, hitem⟩,
          Or.inr ⟨hopen, next, tail, hcomma, ih.mpr ⟨htail, hrest⟩, rfl⟩⟩

lemma objectPairs_restricts (hscan : Restricts p scan free) (fuel : ℕ)
    {pairs : List (PyStr × PyJson)} :
    objectPairs scan fuel s = .ok (pairs, rest) ↔
      objectPairs free fuel s = .ok (pairs, rest) ∧ ∀ pair ∈ pairs, pair.2.All p := by
  induction fuel generalizing s pairs rest with
  | zero => simp [objectPairs]
  | succ fuel ih =>
    constructor
    · intro h
      obtain ⟨key, place, hkey, value, after, hvalue, h⟩ := objectPairs_eq_ok.mp h
      obtain ⟨hfree, hall⟩ := (hscan _ _ _).mp hvalue
      rw [objectPairs_eq_ok]
      rcases h with ⟨hclose, rfl⟩ | ⟨hopen, next, tail, hcomma, htail, rfl⟩
      · exact ⟨⟨key, place, hkey, value, after, hfree, Or.inl ⟨hclose, rfl⟩⟩, by simpa using hall⟩
      · obtain ⟨htail, hrest⟩ := ih.mp htail
        exact ⟨⟨key, place, hkey, value, after, hfree,
          Or.inr ⟨hopen, next, tail, hcomma, htail, rfl⟩⟩, List.forall_mem_cons.mpr ⟨hall, hrest⟩⟩
    · rintro ⟨h, hall⟩
      obtain ⟨key, place, hkey, value, after, hfree, h⟩ := objectPairs_eq_ok.mp h
      rw [objectPairs_eq_ok]
      rcases h with ⟨hclose, rfl⟩ | ⟨hopen, next, tail, hcomma, htail, rfl⟩
      · have hvalue := hall (key, value) (List.mem_singleton_self _)
        exact ⟨key, place, hkey, value, after, (hscan _ _ _).mpr ⟨hfree, hvalue⟩,
          Or.inl ⟨hclose, rfl⟩⟩
      · obtain ⟨hvalue, hrest⟩ := List.forall_mem_cons.mp hall
        exact ⟨key, place, hkey, value, after, (hscan _ _ _).mpr ⟨hfree, hvalue⟩,
          Or.inr ⟨hopen, next, tail, hcomma, ih.mpr ⟨htail, hrest⟩, rfl⟩⟩

lemma scanArray_restricts (hscan : Restricts p scan free) :
    Restricts p (scanArray scan) (scanArray free) := by
  intro s v rest
  unfold scanArray
  split
  · simp only [pure_eq_ok, Except.ok.injEq, Prod.mk.injEq]
    constructor
    · rintro ⟨rfl, rfl⟩
      exact ⟨⟨rfl, rfl⟩, .array (by simp)⟩
    · exact And.left
  · simp only [bind_eq_ok, Prod.exists, pure_eq_ok, Except.ok.injEq, Prod.mk.injEq]
    constructor
    · rintro ⟨items, rest', hitems, rfl, rfl⟩
      obtain ⟨hfree, hall⟩ := (arrayItems_restricts hscan _).mp hitems
      exact ⟨⟨items, rest', hfree, rfl, rfl⟩, .array hall⟩
    · rintro ⟨⟨items, rest', hfree, rfl, rfl⟩, hall⟩
      cases hall with
      | array hall =>
        exact ⟨items, rest', (arrayItems_restricts hscan _).mpr ⟨hfree, hall⟩, rfl, rfl⟩

lemma scanObject_restricts (hhook : ∀ pairs v, hook pairs = .ok v ↔ p pairs ∧ v = .object pairs)
    (hscan : Restricts p scan free) :
    Restricts p (scanObject hook scan) (scanObject keepPairs free) := by
  intro s v rest
  unfold scanObject
  split
  · simp only [bind_eq_ok, hhook, keepPairs, pure_eq_ok, Except.ok.injEq, Prod.mk.injEq]
    constructor
    · rintro ⟨_, ⟨hp, rfl⟩, rfl, rfl⟩
      exact ⟨⟨_, rfl, rfl, rfl⟩, .object hp (by simp)⟩
    · rintro ⟨⟨_, rfl, rfl, rfl⟩, hall⟩
      cases hall with
      | object hp _ => exact ⟨_, ⟨hp, rfl⟩, rfl, rfl⟩
  · simp only [bind_eq_ok, hhook, keepPairs, Prod.exists, pure_eq_ok, Except.ok.injEq,
      Prod.mk.injEq]
    constructor
    · rintro ⟨pairs, rest', hpairs, _, ⟨hp, rfl⟩, rfl, rfl⟩
      obtain ⟨hfree, hall⟩ := (objectPairs_restricts hscan _).mp hpairs
      exact ⟨⟨pairs, rest', hfree, _, rfl, rfl, rfl⟩, .object hp hall⟩
    · rintro ⟨⟨pairs, rest', hfree, _, rfl, rfl, rfl⟩, hall⟩
      cases hall with
      | object hp hall =>
        exact ⟨pairs, rest', (objectPairs_restricts hscan _).mpr ⟨hfree, hall⟩, _, ⟨hp, rfl⟩, rfl,
          rfl⟩

lemma scanUnsigned_all {negative : Bool} (h : scanUnsigned negative s = .ok (v, rest)) :
    v.All p := by
  unfold scanUnsigned at h
  simp only at h
  split_ifs at h
  all_goals
    cases h
    constructor

lemma scanAtom_all (h : scanAtom s = .ok (v, rest)) : v.All p := by
  unfold scanAtom at h
  split at h
  · rename_i found hfound
    cases h
    obtain ⟨⟨w, v'⟩, hmem, hword⟩ := List.exists_of_findSome?_eq_some hfound
    obtain ⟨rest', -, heq⟩ := Option.map_eq_some_iff.mp hword
    cases heq
    simp only [constants, List.mem_cons, List.not_mem_nil, or_false, Prod.mk.injEq] at hmem
    obtain ⟨-, rfl⟩ | ⟨-, rfl⟩ | ⟨-, rfl⟩ | ⟨-, rfl⟩ | ⟨-, rfl⟩ | ⟨-, rfl⟩ := hmem
    all_goals constructor
  · exact scanUnsigned_all h
  · exact scanUnsigned_all h

/-- A hook that keeps the pairs with a property and refuses all others restricts the scanner to
the documents all of whose objects have it. -/
theorem scanOnce_restricts (hhook : ∀ pairs v, hook pairs = .ok v ↔ p pairs ∧ v = .object pairs)
    (depth : ℕ) : Restricts p (scanOnce hook depth) (scanOnce keepPairs depth) := by
  have hatom : ∀ {x : Except PyError (PyJson × PyStr)} {v rest}, (∀ v rest, x = .ok (v, rest) →
      v.All p) → (x = .ok (v, rest) ↔ x = .ok (v, rest) ∧ v.All p) := by
    intro x v rest hall
    exact ⟨fun h => ⟨h, hall v rest h⟩, And.left⟩
  have hwith : ∀ inner inner', (inner = none ↔ inner' = none) →
      (∀ scan ∈ inner, ∀ free ∈ inner', Restricts p scan free) →
      Restricts p (scanWith hook inner) (scanWith keepPairs inner') := by
    intro inner inner' hnone hinner s v rest
    unfold scanWith
    split
    · simp
    · apply hatom
      intro v rest h
      obtain ⟨⟨value, rest'⟩, -, h⟩ := bind_eq_ok.mp h
      cases h
      constructor
    · cases inner with
      | none => simp [hnone.mp rfl]
      | some scan =>
        cases inner' with
        | none => exact absurd (hnone.mpr rfl) (by simp)
        | some free => exact scanArray_restricts (hinner scan rfl free rfl) _ _ _
    · cases inner with
      | none => simp [hnone.mp rfl]
      | some scan =>
        cases inner' with
        | none => exact absurd (hnone.mpr rfl) (by simp)
        | some free => exact scanObject_restricts hhook (hinner scan rfl free rfl) _ _ _
    · exact hatom fun v rest h => scanAtom_all h
  induction depth with
  | zero => exact hwith none none Iff.rfl (by simp)
  | succ depth ih =>
    apply hwith _ _ (by simp)
    intro scan hscan free hfree
    cases hscan
    cases hfree
    exact ih

/-- `json.loads` with the hook reads what it reads without one, where all objects pass it. -/
theorem loads_restricts (hhook : ∀ pairs v, hook pairs = .ok v ↔ p pairs ∧ v = .object pairs)
    {depth : ℕ} {raw : List ℕ} :
    loads hook depth raw = .ok v ↔ loads keepPairs depth raw = .ok v ∧ v.All p := by
  unfold loads
  split
  · simp
  · rename_i text _
    simp only [bind_eq_ok, Prod.exists, reject_eq_ok, exists_const, pure_eq_ok, Except.ok.injEq]
    constructor
    · rintro ⟨value, rest, hscan, hend, rfl⟩
      obtain ⟨hfree, hall⟩ := (scanOnce_restricts hhook depth _ _ _).mp hscan
      exact ⟨⟨value, rest, hfree, hend, rfl⟩, hall⟩
    · rintro ⟨⟨value, rest, hfree, hend, rfl⟩, hall⟩
      exact ⟨value, rest, (scanOnce_restricts hhook depth _ _ _).mpr ⟨hfree, hall⟩, hend, rfl⟩

end

/-! ### The errors of a reader -/

/-- The reader fails with a value error, or for want of stack. -/
def Fails (e : PyError) : Prop := e.isValueError = true ∨ e = .recursionError

lemma fails_valueError {reason : PyStr} : Fails (.valueError reason) := Or.inl rfl

lemma fails_emit {points : PyStr} {read : Except PyError (PyStr × PyStr)}
    (h : FailsWith Fails read) : FailsWith Fails (emit points read) :=
  h.bind fun _ _ => failsWith_ok _

lemma fails_scanString (state : StringState) (s : PyStr) :
    FailsWith Fails (scanString state s) := by
  induction s generalizing state with
  | nil =>
    cases state <;> exact failsWith_error.mpr fails_valueError
  | cons c s ih =>
    cases state with
    | text high =>
      unfold scanString
      split_ifs
      · exact failsWith_ok _
      · exact ih _
      · exact failsWith_error.mpr fails_valueError
      · exact fails_emit (ih _)
    | backslash high =>
      unfold scanString
      split_ifs
      · exact ih _
      · split
        · exact failsWith_error.mpr fails_valueError
        · exact fails_emit (ih _)
    | hex high left value =>
      unfold scanString
      split
      · exact failsWith_error.mpr fails_valueError
      · split_ifs
        · exact ih _
        · exact fails_emit (ih _)

lemma fails_scanUnsigned (negative : Bool) (s : PyStr) :
    FailsWith Fails (scanUnsigned negative s) := by
  unfold scanUnsigned
  simp only
  split_ifs
  all_goals first
    | exact failsWith_ok _
    | exact failsWith_error.mpr fails_valueError

lemma fails_scanAtom (s : PyStr) : FailsWith Fails (scanAtom s) := by
  unfold scanAtom
  split
  · exact failsWith_ok _
  · exact fails_scanUnsigned _ _
  · exact fails_scanUnsigned _ _

lemma fails_scanKey (s : PyStr) : FailsWith Fails (scanKey s) := by
  unfold scanKey
  split
  · refine (fails_scanString _ _).bind fun ⟨_, _⟩ _ => ?_
    simp only
    split
    · exact failsWith_ok _
    · exact failsWith_error.mpr fails_valueError
  · exact failsWith_error.mpr fails_valueError

variable {scan : Scanner} {hook : PairsHook}

lemma fails_arrayItems (hscan : ∀ s, FailsWith Fails (scan s)) (fuel : ℕ) (s : PyStr) :
    FailsWith Fails (arrayItems scan fuel s) := by
  induction fuel generalizing s with
  | zero => exact failsWith_error.mpr fails_valueError
  | succ fuel ih =>
    rw [arrayItems]
    refine (hscan s).bind fun ⟨_, _⟩ _ => ?_
    simp only
    split
    · exact failsWith_ok _
    · exact (ih _).bind fun _ _ => failsWith_ok _
    · exact failsWith_error.mpr fails_valueError

lemma fails_objectPairs (hscan : ∀ s, FailsWith Fails (scan s)) (fuel : ℕ) (s : PyStr) :
    FailsWith Fails (objectPairs scan fuel s) := by
  induction fuel generalizing s with
  | zero => exact failsWith_error.mpr fails_valueError
  | succ fuel ih =>
    rw [objectPairs]
    refine (fails_scanKey s).bind fun ⟨_, _⟩ _ => (hscan _).bind fun ⟨_, _⟩ _ => ?_
    simp only
    split
    · exact failsWith_ok _
    · exact (ih _).bind fun _ _ => failsWith_ok _
    · exact failsWith_error.mpr fails_valueError

lemma fails_scanWith (hhook : ∀ pairs, FailsWith Fails (hook pairs)) {inner : Option Scanner}
    (hinner : ∀ scan ∈ inner, ∀ s, FailsWith Fails (scan s)) (s : PyStr) :
    FailsWith Fails (scanWith hook inner s) := by
  unfold scanWith
  split
  · exact failsWith_error.mpr fails_valueError
  · exact (fails_scanString _ _).bind fun _ _ => failsWith_ok _
  · split
    · unfold scanArray
      split
      · exact failsWith_ok _
      · exact (fails_arrayItems (hinner _ rfl) _ _).bind fun _ _ => failsWith_ok _
    · exact failsWith_error.mpr (Or.inr rfl)
  · split
    · unfold scanObject
      split
      · exact (hhook _).bind fun _ _ => failsWith_ok _
      · exact (fails_objectPairs (hinner _ rfl) _ _).bind fun _ _ =>
          (hhook _).bind fun _ _ => failsWith_ok _
    · exact failsWith_error.mpr (Or.inr rfl)
  · exact fails_scanAtom _

lemma fails_scanOnce (hhook : ∀ pairs, FailsWith Fails (hook pairs)) (depth : ℕ) (s : PyStr) :
    FailsWith Fails (scanOnce hook depth s) := by
  induction depth generalizing s with
  | zero => exact fails_scanWith hhook (by simp) s
  | succ depth ih =>
    apply fails_scanWith hhook
    intro scan hscan
    cases hscan
    exact ih

/-- `json.loads` of bytes fails with a value error, or for want of stack. -/
theorem fails_loads (hhook : ∀ pairs, FailsWith Fails (hook pairs)) (depth : ℕ) (raw : List ℕ) :
    FailsWith Fails (loads hook depth raw) := by
  unfold loads
  split
  · exact failsWith_error.mpr fails_valueError
  · refine (fails_scanOnce hhook depth _).bind fun _ _ => ?_
    exact FailsWith.reject_bind fails_valueError fun _ => failsWith_ok _

end

end AgentRemote.Library.Loads
