import Mathlib.Tactic

/-!
# Counting in fixed windows

A counter counts the hits of a window that starts with the first hit behind the last window.
A hit is admitted while the count is within the limit. At most two windows meet an interval
as long as one, so it holds at most twice the limit of admitted hits, and a hit is refused
only when the limit was reached within one width before it.
-/

namespace AgentRemote.Library.FixedWindow

/-- The hits of the current window, and its end. -/
structure Counter where
  count : ℕ
  expiresAt : ℤ

/-- Counts a hit, in a new window when the last one is over. -/
def hit (width now : ℤ) : Option Counter → Counter
  | some c => if c.expiresAt ≤ now then ⟨1, now + width⟩ else { c with count := c.count + 1 }
  | none => ⟨1, now + width⟩

/-- The counter after the hits, which are listed latest first. -/
def counter (width : ℤ) : List ℤ → Option Counter
  | [] => none
  | now :: past => some (hit width now (counter width past))

/-- The hits that were admitted. -/
def admitted (limit : ℕ) (width : ℤ) : List ℤ → List ℤ
  | [] => []
  | now :: past =>
    if (hit width now (counter width past)).count ≤ limit then now :: admitted limit width past
    else admitted limit width past

/-- How many times lie between two others. -/
def between (times : List ℤ) (a b : ℤ) : ℕ := times.countP fun t => a ≤ t ∧ t < b

section

variable {times : List ℤ} {a a' b b' c t : ℤ}

@[simp] lemma between_nil : between [] a b = 0 := rfl

lemma between_cons :
    between (t :: times) a b = between times a b + if a ≤ t ∧ t < b then 1 else 0 := by
  simp [between, List.countP_cons]

lemma between_mono (times : List ℤ) (ha : a' ≤ a) (hb : b ≤ b') : between times a b ≤ between times a' b' := by
  apply List.countP_mono_left
  intro t _ ht
  simp only [decide_eq_true_eq] at ht ⊢
  omega

lemma between_split (times : List ℤ) (hab : a ≤ b) (hbc : b ≤ c) :
    between times a c = between times a b + between times b c := by
  induction times with
  | nil => rfl
  | cons t times ih =>
    simp only [between_cons, ih]
    split_ifs <;> omega

lemma between_eq_zero (h : ∀ t ∈ times, t < a) : between times a b = 0 := by
  apply List.countP_eq_zero.mpr
  intro t ht
  have := h t ht
  simp only [decide_eq_true_eq]
  omega

end

/-! ### One hit after another -/

/-- What the hits up to now say about the counter of the current window. -/
structure Counted (limit : ℕ) (width : ℤ) (times : List ℤ) (c : Counter) : Prop where
  before_end : ∀ t ∈ times, t < c.expiresAt
  from_start : ∀ t ∈ times.head?, c.expiresAt - width ≤ t
  count_le : ∀ b, between times (c.expiresAt - width) b ≤ c.count
  count_eq : ∃ b, c.count ≤ between times (c.expiresAt - width) b
  current : ∀ b, between (admitted limit width times) (c.expiresAt - width) b ≤ min c.count limit
  previous : ∀ s, c.expiresAt - 2 * width < s →
    between (admitted limit width times) s (c.expiresAt - width) ≤ limit

section

variable {limit : ℕ} {width now : ℤ} {times : List ℤ}

lemma counter_eq_none : counter width times = none ↔ times = [] := by
  cases times <;> simp [counter]

lemma admitted_sublist : (admitted limit width times).Sublist times := by
  induction times with
  | nil => exact .slnil
  | cons now past ih =>
    rw [admitted]
    split_ifs
    · exact ih.cons_cons now
    · exact ih.cons now

lemma Counted.start_le {c : Counter} (h : Counted limit width times c)
    (hc : counter width times = some c) (hle : ∀ t ∈ times, t ≤ now) :
    c.expiresAt - width ≤ now := by
  cases times with
  | nil => cases hc
  | cons t times => exact (h.from_start t rfl).trans (hle t List.mem_cons_self)

/-- A hit behind the last window opens the next. -/
lemma Counted.opened (hwidth : 0 < width) (hit_eq : hit width now (counter width times) =
      ⟨1, now + width⟩) (hbefore : ∀ t ∈ times, t < now)
    (hprevious : ∀ s, now - width < s → between (admitted limit width times) s now ≤ limit) :
    Counted limit width (now :: times) ⟨1, now + width⟩ := by
  have hstart : now + width - width = now := by omega
  have hnone : ∀ b, between times now b = 0 := fun b => between_eq_zero hbefore
  have hadmitted : ∀ b, between (admitted limit width times) now b = 0 := fun b =>
    between_eq_zero fun t ht => hbefore t (admitted_sublist.subset ht)
  constructor
  · intro t ht
    rcases List.mem_cons.mp ht with rfl | ht
    · simp only
      omega
    · have := hbefore t ht
      simp only
      omega
  · intro t ht
    obtain rfl : now = t := by simpa using ht
    simp only [hstart, le_refl]
  · intro b
    simp only [hstart, between_cons, hnone]
    split_ifs <;> omega
  · refine ⟨now + 1, ?_⟩
    simp only [hstart, between_cons]
    rw [if_pos ⟨le_refl _, by omega⟩]
    omega
  · intro b
    simp only [hstart, admitted, hit_eq]
    split_ifs with hlimit
    · rw [between_cons, hadmitted]
      split_ifs <;> omega
    · rw [hadmitted]
      omega
  · intro s hs
    simp only [hstart, admitted, hit_eq]
    simp only at hs
    have hkept := hprevious s (by omega)
    split_ifs with hlimit
    · rw [between_cons, if_neg (by omega)]
      exact hkept
    · exact hkept

/-- A hit inside the window adds to its count. -/
lemma Counted.counted {c : Counter} (h : Counted limit width times c)
    (hc : counter width times = some c) (hstart : c.expiresAt - width ≤ now)
    (hnow : now < c.expiresAt) :
    Counted limit width (now :: times) { c with count := c.count + 1 } := by
  have hit_eq : hit width now (counter width times) = { c with count := c.count + 1 } := by
    rw [hc, hit, if_neg (by omega)]
  constructor
  · intro t ht
    rcases List.mem_cons.mp ht with rfl | ht
    · exact hnow
    · exact h.before_end t ht
  · intro t ht
    obtain rfl : now = t := by simpa using ht
    exact hstart
  · intro b
    have hcount := h.count_le b
    simp only [between_cons]
    split_ifs <;> omega
  · obtain ⟨b, hb⟩ := h.count_eq
    refine ⟨max b (now + 1), ?_⟩
    have hmono := between_mono times (le_refl (c.expiresAt - width))
      (le_max_left b (now + 1))
    simp only [between_cons]
    rw [if_pos ⟨hstart, by omega⟩]
    omega
  · intro b
    have hcurrent := h.current b
    simp only [admitted, hit_eq]
    split_ifs with hlimit
    · rw [between_cons]
      split_ifs <;> omega
    · omega
  · intro s hs
    have hprevious := h.previous s hs
    simp only [admitted, hit_eq]
    split_ifs with hlimit
    · rw [between_cons, if_neg (by omega)]
      exact hprevious
    · exact hprevious

/-- The counter counts the hits of its window, however many there were before. -/
theorem counted_of_sorted (limit : ℕ) (hwidth : 0 < width)
    (hsorted : times.Pairwise fun later earlier => earlier ≤ later) {c : Counter}
    (hc : counter width times = some c) : Counted limit width times c := by
  induction times generalizing c with
  | nil => cases hc
  | cons now past ih =>
    obtain rfl := Option.some.inj hc
    obtain ⟨hle, hpast⟩ := List.pairwise_cons.mp hsorted
    cases hcounter : counter width past with
    | none =>
      obtain rfl := counter_eq_none.mp hcounter
      exact Counted.opened hwidth rfl (by simp) (by simp [admitted])
    | some old =>
      have hold := ih hpast hcounter
      have hstart := hold.start_le hcounter hle
      by_cases hover : old.expiresAt ≤ now
      · have hit_eq : hit width now (counter width past) = ⟨1, now + width⟩ := by
          rw [hcounter, hit, if_pos hover]
        rw [← hcounter, hit_eq]
        apply Counted.opened hwidth hit_eq
        · exact fun t ht => (hold.before_end t ht).trans_le hover
        · intro s hs
          have hcurrent := hold.current now
          have hmono := between_mono (admitted limit width past)
            (show old.expiresAt - width ≤ s by omega) (le_refl now)
          omega
      · have hit_eq : hit width now (some old) = { old with count := old.count + 1 } := by
          rw [hit, if_neg hover]
        rw [hit_eq]
        exact hold.counted hcounter hstart (not_le.mp hover)

/-- An interval of one width holds at most twice the limit of admitted hits. -/
theorem admitted_between_le (hwidth : 0 < width)
    (hsorted : times.Pairwise fun later earlier => earlier ≤ later) (t : ℤ) :
    between (admitted limit width times) t (t + width) ≤ 2 * limit := by
  induction times with
  | nil => simp [admitted]
  | cons now past ih =>
    obtain ⟨hle, hpast⟩ := List.pairwise_cons.mp hsorted
    have hearlier := ih hpast
    rw [admitted]
    split_ifs with hlimit
    swap
    · exact hearlier
    rw [between_cons]
    split_ifs with hin
    swap
    · exact hearlier
    cases hcounter : counter width past with
    | none =>
      obtain rfl := counter_eq_none.mp hcounter
      simp only [hcounter, hit] at hlimit
      simp only [admitted, between_nil]
      omega
    | some old =>
      have hold := counted_of_sorted limit hwidth hpast hcounter
      have hstart := hold.start_le hcounter hle
      have hcurrent := hold.current (t + width)
      rw [hcounter, hit] at hlimit
      by_cases hover : old.expiresAt ≤ now
      · -- the interval starts behind the start of the last window
        rw [if_pos hover] at hlimit
        have hmono := between_mono (admitted limit width past)
          (show old.expiresAt - width ≤ t by omega) (le_refl (t + width))
        simp only at hlimit
        omega
      · rw [if_neg hover] at hlimit
        simp only at hlimit
        by_cases hlate : old.expiresAt - width ≤ t
        · have hmono := between_mono (admitted limit width past) hlate
            (le_refl (t + width))
          omega
        · have hsplit := between_split (admitted limit width past)
            (show t ≤ old.expiresAt - width by omega)
            (show old.expiresAt - width ≤ t + width by omega)
          have hprevious := hold.previous t (by omega)
          omega

/-- A hit is refused only when as many as the limit came within one width before it. -/
theorem limit_le_of_refused (hwidth : 0 < width)
    (hsorted : (now :: times).Pairwise fun later earlier => earlier ≤ later)
    (h : limit < (hit width now (counter width times)).count) :
    limit ≤ times.countP fun t => now - width < t ∧ t ≤ now := by
  obtain ⟨hle, hpast⟩ := List.pairwise_cons.mp hsorted
  cases hcounter : counter width times with
  | none =>
    simp only [hcounter, hit] at h
    omega
  | some old =>
    have hold := counted_of_sorted limit hwidth hpast hcounter
    rw [hcounter, hit] at h
    by_cases hover : old.expiresAt ≤ now
    · rw [if_pos hover] at h
      simp only at h
      omega
    · rw [if_neg hover] at h
      obtain ⟨b, hb⟩ := hold.count_eq
      have hwithin : between times (old.expiresAt - width) b ≤
          times.countP fun t => now - width < t ∧ t ≤ now := by
        apply List.countP_mono_left
        intro t ht hin
        have := hle t ht
        simp only [decide_eq_true_eq] at hin ⊢
        omega
      simp only at h
      omega

end

end AgentRemote.Library.FixedWindow
