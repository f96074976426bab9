import AgentRemote.Library.Codes
import AgentRemote.Library.Outcome
import AgentRemote.Library.Utf8
import AgentRemote.Text

/-!
# Points in time and identifiers as text

The text of a point in time in UTC and of a UUID. Both write their numbers in a fixed
number of digits, so the text determines the value, as the decimal digits do a number.
-/

namespace AgentRemote.Rendering
open Library

/-! ### Digits -/

def digitChar (d : ℕ) : Char :=
  if d < 10 then Char.ofNat ('0'.toNat + d) else Char.ofNat ('a'.toNat + (d - 10))

lemma digitChar_inj {a b : ℕ} (ha : a < 16) (hb : b < 16) (h : digitChar a = digitChar b) :
    a = b := by
  have hall : ∀ a < 16, ∀ b < 16, digitChar a = digitChar b → a = b := by decide +kernel
  exact hall a ha b hb h

/-- `f"{n:0{width}d}"` and `f"{n:0{width}x}"` for a number that fits. -/
def padded (base width n : ℕ) : Text := (bigEndian base width n).map digitChar

@[simp] lemma length_padded (base width n : ℕ) : (padded base width n).length = width := by
  simp [padded]

lemma padded_inj {base width m n : ℕ} (h0 : 0 < base) (hbase : base ≤ 16) (hm : m < base ^ width)
    (hn : n < base ^ width) (h : padded base width m = padded base width n) : m = n := by
  apply bigEndian_inj hm hn
  apply map_inj_of_mem _ h
  intro a ha b hb hab
  exact digitChar_inj ((lt_of_mem_bigEndian h0 ha).trans_le hbase)
    ((lt_of_mem_bigEndian h0 hb).trans_le hbase) hab

/-- The decimal digits determine the number. -/
lemma repr_injective : Function.Injective fun n : ℕ => (Nat.repr n).toList := by
  intro m n h
  simp only [Nat.toList_repr] at h
  have hvalue := congrArg (fun digits => Nat.ofDigitChars 10 digits 0) h
  simpa using hvalue

lemma not_mem_repr {c : Char} {n : ℕ} (h : c.isDigit = false) : c ∉ (Nat.repr n).toList := by
  intro hc
  rw [Nat.toList_repr] at hc
  have hdigit := Nat.isDigit_of_mem_toDigits (by omega) (by omega) hc
  rw [h] at hdigit
  cases hdigit

/-- A byte below 128 stands for its own character. -/
lemma mem_of_mem_encode {s : Text} {c : Char} (hc : c.toNat < 0x80) (h : c.toNat ∈ s.encode) :
    c ∈ s := by
  obtain ⟨d, hd, hb⟩ := List.mem_flatMap.mp h
  change c.toNat ∈ Utf8.encodeChar d at hb
  rcases Nat.lt_or_ge d.toNat 0x80 with h1 | h1
  · rw [Utf8.encodeChar_one h1, List.mem_singleton] at hb
    rwa [Char.toNat_inj.mp hb]
  rcases Nat.lt_or_ge d.toNat 0x800 with h2 | h2
  · rw [Utf8.encodeChar_two h1 h2] at hb
    simp only [List.mem_cons, List.not_mem_nil, or_false] at hb
    omega
  rcases Nat.lt_or_ge d.toNat 0x10000 with h3 | h3
  · rw [Utf8.encodeChar_three h2 h3] at hb
    simp only [List.mem_cons, List.not_mem_nil, or_false] at hb
    omega
  · rw [Utf8.encodeChar_four h3] at hb
    simp only [List.mem_cons, List.not_mem_nil, or_false] at hb
    omega

/-! ### Integers -/

/-- The digits of the longest integer that the interpreter turns into text. -/
def maxIntDigits : ℕ := 4300

/-- `str(n)` for an integer. -/
def intText : ℤ → Except String Text
  | .ofNat n => do
    reject (maxIntDigits < (Nat.repr n).length) "Exceeds the limit for integer string conversion"
    return (Nat.repr n).toList
  | .negSucc n => do
    reject (maxIntDigits < (Nat.repr (n + 1)).length)
      "Exceeds the limit for integer string conversion"
    return '-' :: (Nat.repr (n + 1)).toList

lemma intText_eq_ok {n : ℤ} {text : Text} (h : intText n = .ok text) :
    (∃ m : ℕ, n = m ∧ text = (Nat.repr m).toList) ∨
      ∃ m : ℕ, n = -(m + 1) ∧ text = '-' :: (Nat.repr (m + 1)).toList := by
  cases n with
  | ofNat m =>
    left
    simp only [intText, reject_bind_eq_ok, pure_eq_ok, Except.ok.injEq] at h
    exact ⟨m, rfl, h.2.symm⟩
  | negSucc m =>
    right
    simp only [intText, reject_bind_eq_ok, pure_eq_ok, Except.ok.injEq] at h
    exact ⟨m, by omega, h.2.symm⟩

/-- The text of an integer determines it. -/
lemma intText_inj {m n : ℤ} {text : Text} (hm : intText m = .ok text) (hn : intText n = .ok text) :
    m = n := by
  have hsign : ∀ k l : ℕ, (Nat.repr k).toList ≠ '-' :: (Nat.repr l).toList := by
    intro k l h
    exact not_mem_repr (n := k) (c := '-') (by decide) (h ▸ List.mem_cons_self)
  rcases intText_eq_ok hm with ⟨k, rfl, hk⟩ | ⟨k, rfl, hk⟩ <;>
    rcases intText_eq_ok hn with ⟨l, rfl, hl⟩ | ⟨l, rfl, hl⟩
  · have := repr_injective (hk.symm.trans hl)
    rw [this]
  · exact absurd (hk.symm.trans hl) (hsign k (l + 1))
  · exact absurd (hl.symm.trans hk) (hsign l (k + 1))
  · have := repr_injective (List.cons.inj (hk.symm.trans hl)).2
    omega

/-! ### Dates -/

/-- The block that holds a place, counted from zero, and the place inside the block. -/
def locate : List ℕ → ℕ → ℕ × ℕ
  | [], n => (0, n)
  | length :: rest, n =>
    if n < length then (0, n) else ((locate rest (n - length)).1 + 1, (locate rest (n - length)).2)

lemma locate_inj {blocks : List ℕ} {m n : ℕ} (h : locate blocks m = locate blocks n) : m = n := by
  induction blocks generalizing m n with
  | nil => exact (Prod.mk.inj h).2
  | cons length rest ih =>
    unfold locate at h
    split_ifs at h with hm hn hn
    · exact (Prod.mk.inj h).2
    · exact absurd (Prod.mk.inj h).1 (by omega)
    · exact absurd (Prod.mk.inj h).1 (by omega)
    · have hmk := Prod.mk.inj h
      have := ih (Prod.ext (by omega) hmk.2)
      omega

lemma locate_lt {blocks : List ℕ} {n : ℕ} (h : n < blocks.sum) :
    ∃ length, blocks[(locate blocks n).1]? = some length ∧ (locate blocks n).2 < length := by
  induction blocks generalizing n with
  | nil => simp at h
  | cons length rest ih =>
    unfold locate
    by_cases hn : n < length
    · rw [if_pos hn]
      exact ⟨length, rfl, hn⟩
    · rw [if_neg hn]
      rw [List.sum_cons] at h
      have hrest := ih (by omega : n - length < rest.sum)
      simpa using hrest

def isLeap (year : ℕ) : Bool := year % 4 = 0 ∧ (year % 100 ≠ 0 ∨ year % 400 = 0)

def monthLengths (year : ℕ) : List ℕ :=
  [31, if isLeap year then 29 else 28, 31, 30, 31, 30, 31, 31, 30, 31, 30, 31]

/-- `MAXYEAR`. -/
def maxYear : ℕ := 9999

def yearLengths : List ℕ := (List.range maxYear).map fun i => (monthLengths (i + 1)).sum

/-- Year, month and day of a day that is counted from the first of January of year one. -/
def date (day : ℕ) : ℕ × ℕ × ℕ :=
  let year := locate yearLengths day
  let month := locate (monthLengths (year.1 + 1)) year.2
  (year.1 + 1, month.1 + 1, month.2 + 1)

/-! ### Points in time -/

def dayMicroseconds : ℕ := 24 * 60 * 60 * 1000000

/-- The microseconds from the start of year one to the end of the last year. -/
def maxClock : ℕ := 3652059 * dayMicroseconds

/-- `datetime`: the time of a wall clock, counted from the start of year one, with the
clock's offset from UTC when it has a zone. -/
structure Datetime where
  clock : ℕ
  offset : Option ℤ
  deriving DecidableEq

/-- The clock in UTC, as far as it goes. A clock without a zone counts as one in UTC. -/
def Datetime.instant (value : Datetime) : ℤ := value.clock - value.offset.getD 0

/-- `value.astimezone(UTC)`: no time before the first or after the last year. -/
def Datetime.utc (value : Datetime) : Except String ℕ :=
  if 0 ≤ value.instant ∧ value.instant < maxClock then .ok value.instant.toNat
  else .error "date value out of range"

/-- `isoformat(timespec="microseconds")` in UTC. -/
def isoformat (clock : ℕ) : Text :=
  let (year, month, day) := date (clock / dayMicroseconds)
  let micros := clock % dayMicroseconds
  let seconds := micros / 1000000
  padded 10 4 year ++ '-' :: padded 10 2 month ++ '-' :: padded 10 2 day ++ 'T' ::
    padded 10 2 (seconds / 3600) ++ ':' :: padded 10 2 (seconds / 60 % 60) ++ ':' ::
    padded 10 2 (seconds % 60) ++ '.' :: padded 10 6 (micros % 1000000) ++ "+00:00".toList

lemma sum_monthLengths (year : ℕ) :
    (monthLengths year).sum = if isLeap year then 366 else 365 := by
  unfold monthLengths
  cases isLeap year <;> rfl

/-- Every fourth year is a leap year, but only one century in four. -/
lemma leap_count (year : ℕ) : ((if isLeap year then 1 else 0) + if 100 ∣ year then 1 else 0) =
    (if 4 ∣ year then 1 else 0) + if 400 ∣ year then 1 else 0 := by
  have h4 : 100 ∣ year → 4 ∣ year := Nat.dvd_trans (by decide)
  have h100 : 400 ∣ year → 100 ∣ year := Nat.dvd_trans (by decide)
  unfold isLeap
  simp only [ne_eq, ← Nat.dvd_iff_mod_eq_zero, decide_eq_true_eq]
  by_cases hcentury : 100 ∣ year
  · simp only [hcentury, h4 hcentury, not_true_eq_false, false_or, true_and, if_true]
    omega
  · simp only [hcentury, mt h100 hcentury, not_false_eq_true, true_or, and_true, if_false]

/-- The days of the first `n` years. -/
lemma sum_years (n : ℕ) :
    ((List.range n).map fun i => (monthLengths (i + 1)).sum).sum + n / 100 =
      365 * n + n / 4 + n / 400 := by
  induction n with
  | zero => rfl
  | succ n ih =>
    have hleap := leap_count (n + 1)
    have hyear : (if isLeap (n + 1) then 366 else 365) = 365 + if isLeap (n + 1) then 1 else 0 := by
      split_ifs <;> rfl
    rw [List.range_succ, List.map_append, List.sum_append, List.map_singleton,
      List.sum_singleton, sum_monthLengths, Nat.succ_div, Nat.succ_div, Nat.succ_div]
    omega

-- the days are a variable, or the kernel would add up all the years
lemma eq_of_maxYear {days : ℕ}
    (h : days + maxYear / 100 = 365 * maxYear + maxYear / 4 + maxYear / 400) : days = 3652059 := by
  unfold maxYear at h
  omega

lemma sum_yearLengths : yearLengths.sum = 3652059 := by
  unfold yearLengths
  exact eq_of_maxYear (sum_years maxYear)

lemma monthLengths_le (year : ℕ) : ∀ b ∈ monthLengths year, b ≤ 31 := by
  unfold monthLengths
  cases isLeap year <;> decide

lemma yearLengths_getElem? {i : ℕ} (h : i < maxYear) :
    yearLengths[i]? = some (monthLengths (i + 1)).sum := by
  rw [yearLengths, List.getElem?_map, List.getElem?_range h]
  rfl

/-- A date has four digits of a year and two of a month and a day. -/
lemma date_lt {day : ℕ} (h : day < 3652059) :
    (date day).1 < 10 ^ 4 ∧ (date day).2.1 < 10 ^ 2 ∧ (date day).2.2 < 10 ^ 2 := by
  rw [← sum_yearLengths] at h
  obtain ⟨days, hyear, hdays⟩ := locate_lt h
  have hlast : (locate yearLengths day).1 < maxYear := by
    have := (List.getElem?_eq_some_iff.mp hyear).1
    simpa [yearLengths] using this
  have hsum : days = (monthLengths ((locate yearLengths day).1 + 1)).sum := by
    rw [yearLengths_getElem? hlast] at hyear
    exact (Option.some.inj hyear).symm
  obtain ⟨length, hmonth, hlength⟩ := locate_lt (hsum ▸ hdays)
  have htwelve := (List.getElem?_eq_some_iff.mp hmonth).1
  have hmax := monthLengths_le _ length (List.mem_of_getElem? hmonth)
  have hcount : (monthLengths ((locate yearLengths day).1 + 1)).length = 12 := rfl
  unfold date
  unfold maxYear at hlast
  dsimp only
  omega

lemma date_inj {m n : ℕ} (h : date m = date n) : m = n := by
  simp only [date, Prod.mk.injEq, Nat.add_right_cancel_iff] at h
  obtain ⟨hyear, hmonth, hday⟩ := h
  rw [hyear] at hmonth hday
  have hrest : (locate yearLengths m).2 = (locate yearLengths n).2 :=
    locate_inj (Prod.ext hmonth hday)
  exact locate_inj (Prod.ext hyear hrest)

/-- A padded number is read off the front of a text. -/
lemma padded_append_inj {base width m n : ℕ} {s t : Text} (h0 : 0 < base) (hbase : base ≤ 16)
    (hm : m < base ^ width) (hn : n < base ^ width)
    (h : padded base width m ++ s = padded base width n ++ t) : m = n ∧ s = t := by
  have hsplit := List.append_inj h (by simp)
  exact ⟨padded_inj h0 hbase hm hn hsplit.1, hsplit.2⟩

/-- Hours, minutes and seconds determine the time of a day. -/
lemma seconds_inj {s t : ℕ} (hhour : s / 3600 = t / 3600)
    (hminute : s / 60 % 60 = t / 60 % 60) (hsecond : s % 60 = t % 60) : s = t := by
  omega

lemma micros_inj {a b : ℕ} (hseconds : a / 1000000 = b / 1000000)
    (hmicro : a % 1000000 = b % 1000000) : a = b := by
  omega

lemma isoformat_inj {m n : ℕ} (hm : m < maxClock) (hn : n < maxClock)
    (h : isoformat m = isoformat n) : m = n := by
  have hdm : m / dayMicroseconds < 3652059 := Nat.div_lt_of_lt_mul (by rwa [mul_comm])
  have hdn : n / dayMicroseconds < 3652059 := Nat.div_lt_of_lt_mul (by rwa [mul_comm])
  have hm' := date_lt hdm
  have hn' := date_lt hdn
  have htime : ∀ c : ℕ, c % dayMicroseconds / 1000000 / 3600 < 10 ^ 2 ∧
      c % dayMicroseconds / 1000000 / 60 % 60 < 10 ^ 2 ∧
      c % dayMicroseconds / 1000000 % 60 < 10 ^ 2 ∧
      c % dayMicroseconds % 1000000 < 10 ^ 6 := by
    intro c
    have hc : c % dayMicroseconds < 86400000000 := Nat.mod_lt _ (by decide)
    omega
  obtain ⟨htm1, htm2, htm3, htm4⟩ := htime m
  obtain ⟨htn1, htn2, htn3, htn4⟩ := htime n
  simp only [isoformat, List.append_assoc, List.cons_append] at h
  obtain ⟨hyear, h⟩ := padded_append_inj (by decide) (by decide) hm'.1 hn'.1 h
  obtain ⟨hmonth, h⟩ :=
    padded_append_inj (by decide) (by decide) hm'.2.1 hn'.2.1 (List.cons.inj h).2
  obtain ⟨hday, h⟩ := padded_append_inj (by decide) (by decide) hm'.2.2 hn'.2.2 (List.cons.inj h).2
  obtain ⟨hhour, h⟩ := padded_append_inj (by decide) (by decide) htm1 htn1 (List.cons.inj h).2
  obtain ⟨hminute, h⟩ := padded_append_inj (by decide) (by decide) htm2 htn2 (List.cons.inj h).2
  obtain ⟨hsecond, h⟩ := padded_append_inj (by decide) (by decide) htm3 htn3 (List.cons.inj h).2
  obtain ⟨hmicro, -⟩ := padded_append_inj (by decide) (by decide) htm4 htn4 (List.cons.inj h).2
  have hdate : m / dayMicroseconds = n / dayMicroseconds :=
    date_inj (Prod.ext hyear (Prod.ext hmonth hday))
  have hclock : m % dayMicroseconds = n % dayMicroseconds :=
    micros_inj (seconds_inj hhour hminute hsecond) hmicro
  rw [← Nat.div_add_mod m dayMicroseconds, ← Nat.div_add_mod n dayMicroseconds, hdate, hclock]

/-! ### UUIDs -/

/-- `str(uuid)`: 32 hexadecimal digits in five groups. -/
def uuidText (uuid : Fin (2 ^ 128)) : Text :=
  let hex := padded 16 32 uuid
  hex.take 8 ++ '-' :: (hex.drop 8).take 4 ++ '-' :: (hex.drop 12).take 4 ++ '-' ::
    (hex.drop 16).take 4 ++ '-' :: hex.drop 20

lemma uuidText_injective : Function.Injective uuidText := by
  intro u v h
  have hcut : ∀ hex : Text, hex = hex.take 8 ++ ((hex.drop 8).take 4 ++ ((hex.drop 12).take 4 ++
      ((hex.drop 16).take 4 ++ hex.drop 20))) := by
    intro hex
    have h16 : (hex.drop 16).take 4 ++ hex.drop 20 = hex.drop 16 := by
      rw [← List.drop_drop (i := 4) (j := 16), List.take_append_drop]
    have h12 : (hex.drop 12).take 4 ++ hex.drop 16 = hex.drop 12 := by
      rw [← List.drop_drop (i := 4) (j := 12), List.take_append_drop]
    have h8 : (hex.drop 8).take 4 ++ hex.drop 12 = hex.drop 8 := by
      rw [← List.drop_drop (i := 4) (j := 8), List.take_append_drop]
    rw [h16, h12, h8, List.take_append_drop]
  simp only [uuidText, List.append_assoc, List.cons_append] at h
  obtain ⟨h1, h⟩ := List.append_inj h (by simp)
  obtain ⟨h2, h⟩ := List.append_inj (List.cons.inj h).2 (by simp)
  obtain ⟨h3, h⟩ := List.append_inj (List.cons.inj h).2 (by simp)
  obtain ⟨h4, h⟩ := List.append_inj (List.cons.inj h).2 (by simp)
  have h5 := (List.cons.inj h).2
  have hhex : padded 16 32 u = padded 16 32 v := by
    rw [hcut (padded 16 32 u), hcut (padded 16 32 v), h1, h2, h3, h4, h5]
  apply Fin.ext
  exact padded_inj (by decide) (by decide) (by have := u.isLt; omega) (by have := v.isLt; omega) hhex

end AgentRemote.Rendering
