import Mathlib.Tactic

/-!
# Identifiers and times

What the records of the services share. Times are microseconds since the epoch.
-/

namespace AgentRemote

/-- A UUID as a number. `uuid4` draws one that no row has had. -/
abbrev Uuid := ℕ

/-- A point in time, in microseconds since the epoch. -/
abbrev Instant := ℤ

/-- `timedelta(seconds=n)`. -/
def seconds (n : ℕ) : ℤ := 1000000 * n

lemma seconds_nonneg (n : ℕ) : 0 ≤ seconds n := by
  unfold seconds
  omega

lemma seconds_le {m n : ℕ} : seconds m ≤ seconds n ↔ m ≤ n := by
  unfold seconds
  omega

/-- The largest value of a `BIGINT` column. -/
def maxBigint : ℤ := 9223372036854775807

end AgentRemote
