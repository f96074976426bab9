import Mathlib.Tactic

/-!
# A one-time exchange of pins

Two roles register a pin each, and each is told the other's pin once, together with a secret that
both get. When the secret is chosen is left open. Events are listed latest first.
-/

namespace AgentRemote.Library.Exchange

variable {Role Pin Secret : Type}

/-- The answer to a call. -/
inductive Reply (Pin Secret : Type) where
  | changed
  | waiting
  | alreadyIssued
  | ready (pin : Pin) (secret : Secret)

/-- A call of a role and its answer. -/
structure Event (Role Pin Secret : Type) where
  role : Role
  pin : Pin
  reply : Reply Pin Secret

/-- The registered pins, the roles that were told, and the secret once it is chosen. -/
@[ext] structure Entry (Role Pin Secret : Type) where
  pins : Role → Option Pin
  issued : Role → Bool
  secret : Option Secret

/-- Nothing is registered. -/
def Entry.empty : Entry Role Pin Secret where
  pins _ := none
  issued _ := false
  secret := none

namespace Reply

/-- What is left of an answer without the secret. -/
def open? : Reply Pin Secret → Reply Pin Unit
  | changed => changed
  | waiting => waiting
  | alreadyIssued => alreadyIssued
  | ready pin _ => ready pin ()

def isReady : Reply Pin Secret → Bool
  | ready _ _ => true
  | _ => false

end Reply

variable [DecidableEq Role]

/-- The call registers its pin, or repeats it. A secret that was chosen stays. -/
structure Registers (s s' : Entry Role Pin Secret) (role : Role) (pin : Pin) : Prop where
  same : ∀ p, s.pins role = some p → p = pin
  pins : s'.pins = Function.update s.pins role (some pin)
  secret : ∀ x, s.secret = some x → s'.secret = some x

/-- What one call does. -/
inductive Answers (peer : Role → Role) :
    Entry Role Pin Secret → Event Role Pin Secret → Entry Role Pin Secret → Prop
  | changed {s : Entry Role Pin Secret} {role : Role} {pin p : Pin} (hp : s.pins role = some p)
      (hne : p ≠ pin) : Answers peer s ⟨role, pin, .changed⟩ s
  | waiting {s s' : Entry Role Pin Secret} {role : Role} {pin : Pin}
      (h : Registers s s' role pin) (hpeer : s'.pins (peer role) = none)
      (hissued : s'.issued = s.issued) : Answers peer s ⟨role, pin, .waiting⟩ s'
  | alreadyIssued {s s' : Entry Role Pin Secret} {role : Role} {pin p : Pin}
      (h : Registers s s' role pin) (hpeer : s'.pins (peer role) = some p)
      (hbefore : s.issued role = true) (hissued : s'.issued = s.issued) :
      Answers peer s ⟨role, pin, .alreadyIssued⟩ s'
  | ready {s s' : Entry Role Pin Secret} {role : Role} {pin p : Pin} {x : Secret}
      (h : Registers s s' role pin) (hpeer : s'.pins (peer role) = some p)
      (hbefore : s.issued role = false) (hissued : s'.issued = Function.update s.issued role true)
      (hsecret : s'.secret = some x) : Answers peer s ⟨role, pin, .ready p x⟩ s'

/-- A run from the empty entry. -/
inductive Runs (peer : Role → Role) :
    List (Event Role Pin Secret) → Entry Role Pin Secret → Prop
  | nil : Runs peer [] .empty
  | cons {past : List (Event Role Pin Secret)} {s s' : Entry Role Pin Secret}
      {e : Event Role Pin Secret} (hpast : Runs peer past s) (he : Answers peer s e s') :
      Runs peer (e :: past) s'

/-- The pin that a role registered first. -/
def firstPin : List (Event Role Pin Secret) → Role → Option Pin
  | [], _ => none
  | e :: past, role =>
    (firstPin past role).orElse fun _ => if e.role = role then some e.pin else none

/-- How often a role was told. -/
def told (events : List (Event Role Pin Secret)) (role : Role) : ℕ :=
  events.countP fun e => e.role = role ∧ e.reply.isReady = true

/-- Each role is told at most once, after both have registered, and the pin that the other
registered first. Both get one secret. A call fails exactly when it changes the role's pin. -/
structure Agreed (peer : Role → Role) (events : List (Event Role Pin Secret)) : Prop where
  once : ∀ role, told events role ≤ 1
  pin : ∀ e past, e :: past <:+ events → ∀ p x, e.reply = .ready p x →
    firstPin past (peer e.role) = some p
  secret : ∀ e ∈ events, ∀ e' ∈ events, ∀ p x p' x', e.reply = .ready p x →
    e'.reply = .ready p' x' → x = x'
  changed : ∀ e past, e :: past <:+ events →
    (e.reply = .changed ↔ ∃ p, firstPin past e.role = some p ∧ p ≠ e.pin)

/-- What the entry knows of the events. -/
structure Knows (events : List (Event Role Pin Secret)) (s : Entry Role Pin Secret) : Prop where
  pins : ∀ role, s.pins role = firstPin events role
  issued : ∀ role, told events role = if s.issued role = true then 1 else 0
  secret : ∀ e ∈ events, ∀ p x, e.reply = .ready p x → s.secret = some x

section

variable {peer : Role → Role} {s s' : Entry Role Pin Secret} {e : Event Role Pin Secret}
  {events past : List (Event Role Pin Secret)}

lemma firstPin_cons_registers {role : Role} {pin : Pin} {reply : Reply Pin Secret}
    (h : Registers s s' role pin) (hpast : ∀ role, s.pins role = firstPin past role) (other : Role) :
    s'.pins other = firstPin (⟨role, pin, reply⟩ :: past) other := by
  rw [h.pins, firstPin, ← hpast other]
  by_cases hrole : other = role
  · subst hrole
    rw [Function.update_self, if_pos rfl]
    cases hp : s.pins other with
    | none => rfl
    | some p => rw [h.same p hp]; rfl
  · rw [Function.update_of_ne hrole, if_neg (Ne.symm hrole)]
    cases s.pins other <;> rfl

lemma told_cons (role : Role) :
    told (e :: past) role =
      told past role + if e.role = role ∧ e.reply.isReady = true then 1 else 0 := by
  unfold told
  rw [List.countP_cons]
  simp

/-- One call keeps what the entry knows. -/
lemma Knows.step (h : Knows past s) (he : Answers peer s e s') : Knows (e :: past) s' := by
  cases he with
  | @changed role pin p hp hne =>
    constructor
    · intro other
      rw [firstPin, ← h.pins other]
      by_cases hrole : role = other
      · subst hrole
        rw [hp]
        rfl
      · rw [if_neg hrole]
        cases s.pins other <;> rfl
    · intro other
      rw [told_cons, if_neg (by simp [Reply.isReady]), Nat.add_zero, h.issued]
    · intro e he p' x hready
      rcases List.mem_cons.mp he with rfl | he
      · cases hready
      · exact h.secret e he p' x hready
  | @waiting _ role pin hreg hpeer hissued =>
    constructor
    · exact firstPin_cons_registers hreg h.pins
    · intro other
      rw [told_cons, if_neg (by simp [Reply.isReady]), Nat.add_zero, h.issued, hissued]
    · intro e he p x hready
      rcases List.mem_cons.mp he with rfl | he
      · cases hready
      · exact hreg.secret x (h.secret e he p x hready)
  | @alreadyIssued _ role pin p hreg hpeer hbefore hissued =>
    constructor
    · exact firstPin_cons_registers hreg h.pins
    · intro other
      rw [told_cons, if_neg (by simp [Reply.isReady]), Nat.add_zero, h.issued, hissued]
    · intro e he p x hready
      rcases List.mem_cons.mp he with rfl | he
      · cases hready
      · exact hreg.secret x (h.secret e he p x hready)
  | @ready _ role pin p x hreg hpeer hbefore hissued hsecret =>
    constructor
    · exact firstPin_cons_registers hreg h.pins
    · intro other
      rw [told_cons, h.issued, hissued]
      by_cases hrole : role = other
      · subst hrole
        rw [Function.update_self, hbefore]
        simp [Reply.isReady]
      · rw [Function.update_of_ne (Ne.symm hrole)]
        simp [hrole]
    · intro e he p' x' hready
      rcases List.mem_cons.mp he with rfl | he
      · cases hready
        exact hsecret
      · exact hreg.secret x' (h.secret e he p' x' hready)

/-- The entry of a run knows its events. -/
theorem Runs.knows (h : Runs peer events s) : Knows events s := by
  induction h with
  | nil => exact ⟨fun _ => rfl, fun _ => rfl, by simp⟩
  | cons _ he ih => exact ih.step he

/-- Every earlier part of a run is one. -/
lemma Runs.suffix (h : Runs peer events s) (hsuffix : past <:+ events) : ∃ s', Runs peer past s' := by
  induction h with
  | nil =>
    rw [List.suffix_nil.mp hsuffix]
    exact ⟨_, .nil⟩
  | cons hpast he ih =>
    rcases List.suffix_cons_iff.mp hsuffix with rfl | hsuffix
    · exact ⟨_, .cons hpast he⟩
    · exact ih hsuffix

/-- A run of the exchange agrees. -/
theorem Runs.agreed (h : Runs peer events s) (hpeer : ∀ role, peer role ≠ role) :
    Agreed peer events := by
  have hknows := h.knows
  constructor
  · intro role
    rw [hknows.issued role]
    split_ifs <;> omega
  · intro e past hsuffix p x hready
    obtain ⟨_, hrun⟩ := h.suffix hsuffix
    cases hrun with
    | cons hpast he =>
      rw [← hpast.knows.pins]
      cases he with
      | ready hreg hp _ _ _ =>
        cases hready
        rw [hreg.pins, Function.update_of_ne (hpeer _)] at hp
        exact hp
      | _ => cases hready
  · intro e he e' he' p x p' x' hready hready'
    have hsecret := hknows.secret e he p x hready
    rw [hknows.secret e' he' p' x' hready'] at hsecret
    exact (Option.some.inj hsecret).symm
  · intro e past hsuffix
    obtain ⟨_, hrun⟩ := h.suffix hsuffix
    cases hrun with
    | cons hpast he =>
      rw [← hpast.knows.pins]
      have hsame : ∀ {s' : Entry Role Pin Secret} {role : Role} {pin : Pin} {s},
          Registers s s' role pin → ¬∃ p, s.pins role = some p ∧ p ≠ pin := by
        rintro s' role pin s hreg ⟨p, hp, hne⟩
        exact hne (hreg.same p hp)
      cases he with
      | changed hp hne => exact iff_of_true rfl ⟨_, hp, hne⟩
      | waiting hreg _ _ => exact iff_of_false nofun (hsame hreg)
      | alreadyIssued hreg _ _ _ => exact iff_of_false nofun (hsame hreg)
      | ready hreg _ _ _ _ => exact iff_of_false nofun (hsame hreg)

end

/-! ### Two runs with the same calls -/

section

variable {Secret' : Type} [DecidableEq Pin] {peer : Role → Role}

/-- The pins and the roles told after a call, and its answer without the secret. -/
def outcome (peer : Role → Role) (pins : Role → Option Pin) (issued : Role → Bool) (role : Role)
    (pin : Pin) : Reply Pin Unit × (Role → Option Pin) × (Role → Bool) :=
  let registered := Function.update pins role (some pin)
  if (∃ p ∈ pins role, p ≠ pin) then (.changed, pins, issued)
  else match registered (peer role) with
  | none => (.waiting, registered, issued)
  | some p =>
    if issued role = true then (.alreadyIssued, registered, issued)
    else (.ready p (), registered, Function.update issued role true)

/-- All but the secret is determined by the pins and the roles told before. -/
lemma Answers.outcome {s t : Entry Role Pin Secret} {e : Event Role Pin Secret}
    (h : Answers peer s e t) :
    (e.reply.open?, t.pins, t.issued) = outcome peer s.pins s.issued e.role e.pin := by
  have hsame : ∀ {t : Entry Role Pin Secret} {role : Role} {pin : Pin},
      Registers s t role pin → ¬∃ p ∈ s.pins role, p ≠ pin := by
    rintro t role pin hreg ⟨p, hp, hne⟩
    exact hne (hreg.same p hp)
  unfold Exchange.outcome
  cases h with
  | changed hp hne => rw [if_pos ⟨_, hp, hne⟩]; rfl
  | waiting hreg hpeer hissued =>
    rw [hreg.pins] at hpeer
    rw [if_neg (hsame hreg), hpeer, hreg.pins, hissued]
    rfl
  | alreadyIssued hreg hpeer hbefore hissued =>
    rw [hreg.pins] at hpeer
    rw [if_neg (hsame hreg), hpeer, hreg.pins, hissued]
    simp only [hbefore]
    rfl
  | ready hreg hpeer hbefore hissued hsecret =>
    rw [hreg.pins] at hpeer
    rw [if_neg (hsame hreg), hpeer, hreg.pins, hissued]
    simp only [hbefore]
    rfl

/-- Runs with the same calls have the same answers but for the secret. -/
theorem Runs.same {events : List (Event Role Pin Secret)} {events' : List (Event Role Pin Secret')}
    {s : Entry Role Pin Secret} {s' : Entry Role Pin Secret'} (h : Runs peer events s)
    (h' : Runs peer events' s') (hcalls : events.map (fun e => (e.role, e.pin)) =
      events'.map fun e => (e.role, e.pin)) :
    events.map (fun e => e.reply.open?) = events'.map (fun e => e.reply.open?) ∧
      s.pins = s'.pins ∧ s.issued = s'.issued := by
  induction h generalizing events' s' with
  | nil =>
    cases events' with
    | nil =>
      cases h'
      exact ⟨rfl, rfl, rfl⟩
    | cons e' past' => simp at hcalls
  | @cons past s t e hpast he ih =>
    cases h' with
    | nil => simp at hcalls
    | @cons past' s₁ _ e' hpast' he' =>
      simp only [List.map_cons, List.cons.injEq, Prod.mk.injEq] at hcalls
      obtain ⟨⟨hrole, hpin⟩, hcalls⟩ := hcalls
      obtain ⟨hreplies, hpins, hissued⟩ := ih hpast' hcalls
      have hleft := he.outcome
      have hright := he'.outcome
      rw [hpins, hissued, hrole, hpin, ← hright] at hleft
      simp only [Prod.mk.injEq] at hleft
      refine ⟨?_, hleft.2⟩
      rw [List.map_cons, List.map_cons, hleft.1, hreplies]

end

end AgentRemote.Library.Exchange
