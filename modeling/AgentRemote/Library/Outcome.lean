import Mathlib.Tactic

/-!
# Checks of a fallible computation

A check that fails with an error when its condition holds, and how checks, results and
errors pass through a bind.
-/

namespace AgentRemote.Library

variable {ε : Type*} {α β : Type}

/-- Fails with `error` when the condition holds. -/
def reject (p : Prop) [Decidable p] (error : ε) : Except ε Unit :=
  if p then .error error else .ok ()

section

variable {p : Prop} [Decidable p] {error e : ε} {f : Unit → Except ε β} {b : β}

@[simp] lemma reject_eq_ok {u : Unit} : reject p error = .ok u ↔ ¬p := by
  simp [reject]

@[simp] lemma reject_eq_error : reject p error = .error e ↔ p ∧ error = e := by
  unfold reject
  split_ifs with h <;> simp [h]

lemma reject_of_not (h : ¬p) : reject p error = .ok () := reject_eq_ok.mpr h

lemma reject_of (h : p) : reject p error = .error error := reject_eq_error.mpr ⟨h, rfl⟩

@[simp] lemma reject_bind_eq_ok : (reject p error >>= f) = .ok b ↔ ¬p ∧ f () = .ok b := by
  by_cases h : p <;> simp [reject, h, bind, Except.bind]

@[simp] lemma reject_bind_eq_error :
    (reject p error >>= f) = .error e ↔ p ∧ error = e ∨ ¬p ∧ f () = .error e := by
  by_cases h : p <;> simp [reject, h, bind, Except.bind]

end

@[simp] lemma ok_bind (a : α) (f : α → Except ε β) : (Except.ok a >>= f) = f a := rfl

@[simp] lemma error_bind (e : ε) (f : α → Except ε β) : (Except.error e >>= f) = .error e := rfl

@[simp] lemma pure_eq_ok (a : α) : (pure a : Except ε α) = .ok a := rfl

@[simp] lemma throw_eq_error (e : ε) : (throw e : Except ε α) = .error e := rfl

@[simp] lemma bind_ok (x : Except ε α) : (x >>= Except.ok) = x := by
  cases x <;> rfl

lemma bind_eq_ok {x : Except ε α} {f : α → Except ε β} {b : β} :
    (x >>= f) = .ok b ↔ ∃ a, x = .ok a ∧ f a = .ok b := by
  cases x <;> simp

lemma bind_eq_error {x : Except ε α} {f : α → Except ε β} {e : ε} :
    (x >>= f) = .error e ↔ x = .error e ∨ ∃ a, x = .ok a ∧ f a = .error e := by
  cases x <;> simp

lemma toOption_eq_some {x : Except ε α} {a : α} : x.toOption = some a ↔ x = .ok a := by
  cases x <;> simp [Except.toOption]

/-- The value of a computation that was seen to succeed. -/
lemma eq_ok_getD {x : Except ε α} (h : x.toOption.isSome) (d : α) : x = .ok (x.toOption.getD d) := by
  cases x with
  | error e => exact absurd h (by simp [Except.toOption])
  | ok a => rfl

lemma mapError_eq_ok {ε' : Type*} {x : Except ε α} {f : ε → ε'} {a : α} :
    x.mapError f = .ok a ↔ x = .ok a := by
  cases x <;> simp [Except.mapError]

/-- Every error of the computation has the property. -/
def FailsWith (P : ε → Prop) (x : Except ε α) : Prop := ∀ e, x = .error e → P e

section

variable {P : ε → Prop} {p : Prop} [Decidable p] {e : ε} {x : Except ε α} {f : α → Except ε β}

@[simp] lemma failsWith_ok (a : α) : FailsWith P (.ok a) := nofun

@[simp] lemma failsWith_error : FailsWith P (.error e : Except ε α) ↔ P e := by
  simp [FailsWith]

@[simp] lemma failsWith_reject : FailsWith P (reject p e) ↔ (p → P e) := by
  simp [FailsWith]

lemma FailsWith.bind (hx : FailsWith P x) (hf : ∀ a, x = .ok a → FailsWith P (f a)) :
    FailsWith P (x >>= f) := by
  intro e he
  rcases bind_eq_error.mp he with he | ⟨a, ha, he⟩
  · exact hx e he
  · exact hf a ha e he

lemma FailsWith.reject_bind {f : Unit → Except ε β} (he : P e) (hf : ¬p → FailsWith P (f ())) :
    FailsWith P (reject p e >>= f) :=
  FailsWith.bind (failsWith_reject.mpr fun _ => he) fun _ h => hf (reject_eq_ok.mp h)

end

/-- Checks of a list pass together when each passes. -/
lemma forM_eq_ok {xs : List α} {f : α → Except ε Unit} :
    xs.forM f = .ok () ↔ ∀ x ∈ xs, f x = .ok () := by
  induction xs with
  | nil => exact ⟨by simp, fun _ => rfl⟩
  | cons x xs ih =>
    have hcons : (x :: xs).forM f = f x >>= fun _ => xs.forM f := rfl
    rw [hcons, bind_eq_ok, List.forall_mem_cons, ← ih]
    exact ⟨fun ⟨_, h⟩ => h, fun h => ⟨(), h⟩⟩

lemma mapM_ok_of_forall {f : α → Except ε β} {g : α → β} {xs : List α}
    (h : ∀ x ∈ xs, f x = .ok (g x)) : xs.mapM f = .ok (xs.map g) := by
  induction xs with
  | nil => rfl
  | cons x xs ih =>
    rw [List.mapM_cons, h x List.mem_cons_self, ok_bind,
      ih fun y hy => h y (List.mem_cons_of_mem _ hy)]
    rfl

/-- A computation mapped over a list succeeds at each of its elements. -/
lemma mapM_eq_ok {f : α → Except ε β} {xs : List α} {ys : List β} (h : xs.mapM f = .ok ys) :
    List.Forall₂ (fun x y => f x = .ok y) xs ys := by
  induction xs generalizing ys with
  | nil =>
    rw [List.mapM_nil] at h
    obtain rfl := Except.ok.inj h
    exact .nil
  | cons x xs ih =>
    rw [List.mapM_cons, bind_eq_ok] at h
    obtain ⟨y, hy, h⟩ := h
    rw [bind_eq_ok] at h
    obtain ⟨ys', hys, h⟩ := h
    obtain rfl := Except.ok.inj h
    exact .cons hy (ih hys)

lemma exists_eq_map_ok {xs : List (Except ε α)} (h : ∀ x ∈ xs, ∃ a, x = .ok a) :
    ∃ as : List α, xs = as.map .ok := by
  induction xs with
  | nil => exact ⟨[], rfl⟩
  | cons x xs ih =>
    obtain ⟨a, rfl⟩ := h x List.mem_cons_self
    obtain ⟨as, rfl⟩ := ih fun y hy => h y (List.mem_cons_of_mem _ hy)
    exact ⟨a :: as, rfl⟩

/-- A property that every step of a fold keeps holds of its result. -/
lemma foldlM_ok_induction {σ : Type} {step : σ → α → Except ε σ} (P : σ → Prop) {xs : List α}
    (hstep : ∀ s a s', a ∈ xs → P s → step s a = .ok s' → P s') {s s' : σ}
    (hs : P s) (h : xs.foldlM step s = .ok s') : P s' := by
  induction xs generalizing s with
  | nil =>
    simp only [List.foldlM_nil, pure_eq_ok, Except.ok.injEq] at h
    exact h ▸ hs
  | cons a xs ih =>
    rw [List.foldlM_cons, bind_eq_ok] at h
    obtain ⟨t, ht, h⟩ := h
    refine ih (fun s a s' ha => hstep s a s' (List.mem_cons_of_mem _ ha)) ?_ h
    exact hstep s a t List.mem_cons_self hs ht

end AgentRemote.Library
