import Mathlib.Tactic

/-!
# Mailboxes

Parties choose a partner, each on its own. A party posts frames to the mailbox of its partner and
writes down the frames that it takes from its own mailbox, whoever posted them, up to a notice.
-/

namespace AgentRemote.Library.Mailboxes

inductive Mail (ι α : Type) where
  | frame (sender : ι) (data : α)
  | notice

/-- The partner a party serves, if it serves any, and what it has not read. -/
structure Party (ι α : Type) where
  partner : Option ι
  inbox : List (Mail ι α)

/-- A frame was written while its writer served a partner. -/
structure Writing (ι α : Type) where
  writer : ι
  partner : ι
  sender : ι
  data : α

structure Room (ι α : Type) where
  parties : ι → Party ι α
  log : List (Writing ι α)

variable {ι α : Type}

/-- The frames that the owner of a mailbox has still to read. -/
def due : List (Mail ι α) → List (ι × α)
  | [] => []
  | .frame sender data :: rest => (sender, data) :: due rest
  | .notice :: _ => []

lemma due_append_notice (inbox : List (Mail ι α)) : due (inbox ++ [.notice]) = due inbox := by
  induction inbox with
  | nil => rfl
  | cons mail rest ih =>
    cases mail with
    | frame sender data => simp only [List.cons_append, due, ih]
    | notice => rfl

lemma mem_due_append_frame {inbox : List (Mail ι α)} {sender : ι} {data : α} {m : ι × α}
    (h : m ∈ due (inbox ++ [.frame sender data])) : m ∈ due inbox ∨ m = (sender, data) := by
  induction inbox with
  | nil =>
    right
    simpa [due] using h
  | cons mail rest ih =>
    cases mail with
    | frame s d =>
      simp only [List.cons_append, due, List.mem_cons] at h ⊢
      rcases h with hfirst | hrest
      · exact .inl (.inl hfirst)
      · rcases ih hrest with hold | hnew
        · exact .inl (.inr hold)
        · exact .inr hnew
    | notice =>
      simp only [List.cons_append, due] at h
      exact absurd h List.not_mem_nil

namespace Room

variable (r : Room ι α)

/-- Of two parties that serve, one serves the other if the other serves it. -/
def Mutual : Prop :=
  ∀ a b, (r.parties a).partner = some b → (r.parties b).partner ≠ none →
    (r.parties b).partner = some a

/-- What is written was posted by the partner of the writer. -/
def OwnFrames : Prop := ∀ x ∈ r.log, x.sender = x.partner

/-- What a party that serves has still to read was posted by its partner. -/
def Clean : Prop :=
  ∀ a p, (r.parties a).partner = some p → ∀ m ∈ due (r.parties a).inbox, m.1 = p

structure Sound : Prop where
  isMutual : r.Mutual
  ownFrames : r.OwnFrames
  clean : r.Clean

/-- A party can serve another without mixing: the other serves nobody else, nobody else serves it,
and it has no frame of anybody else to read. -/
structure Fits (e p : ι) : Prop where
  free : ∀ x, (r.parties p).partner = some x → x = e
  alone : ∀ q, (r.parties q).partner = some e → q = p
  clean : ∀ m ∈ due (r.parties e).inbox, m.1 = p

/-- Nobody chooses a partner; frames are posted to partners, and frames that were due are
written. -/
structure Proceeds (r' : Room ι α) : Prop where
  partner : ∀ a, (r'.parties a).partner = (r.parties a).partner ∨ (r'.parties a).partner = none
  due : ∀ a, ∀ m ∈ due (r'.parties a).inbox,
    m ∈ due (r.parties a).inbox ∨ (r.parties m.1).partner = some a
  log : ∀ x ∈ r'.log, x ∈ r.log ∨ (r.parties x.writer).partner = some x.partner ∧
    (x.sender, x.data) ∈ Mailboxes.due (r.parties x.writer).inbox

variable {r} {r' : Room ι α}

lemma Proceeds.refl : r.Proceeds r where
  partner _ := .inl rfl
  due _ _ hm := .inl hm
  log _ hx := .inl hx

lemma Proceeds.kept (h : r.Proceeds r') {a p : ι} (hp : (r'.parties a).partner = some p) :
    (r.parties a).partner = some p := by
  rcases h.partner a with hsame | hnone
  · exact hsame.symm.trans hp
  · rw [hnone] at hp
    cases hp

/-- Two steps of which the second writes nothing. -/
lemma Proceeds.andThen {r'' : Room ι α} (h : r.Proceeds r') (h' : r'.Proceeds r'')
    (hlog : r''.log = r'.log) : r.Proceeds r'' where
  partner a := by
    rcases h'.partner a with hsame | hnone
    · rw [hsame]
      exact h.partner a
    · exact .inr hnone
  due a m hm := by
    rcases h'.due a m hm with hold | hposted
    · exact h.due a m hold
    · exact .inr (h.kept hposted)
  log x hx := h.log x (hlog ▸ hx)

/-- A room that is sound stays so while nobody chooses a partner. -/
theorem Proceeds.sound (h : r.Proceeds r') (hr : r.Sound) : r'.Sound where
  isMutual a b hab hb := by
    obtain ⟨x, hx⟩ := Option.ne_none_iff_exists'.mp hb
    have hba := hr.isMutual a b (h.kept hab) (by rw [h.kept hx]; exact nofun)
    rw [h.kept hx] at hba
    rw [hx, hba]
  ownFrames x hx := by
    rcases h.log x hx with hold | ⟨hpartner, hdue⟩
    · exact hr.ownFrames x hold
    · exact hr.clean _ _ hpartner _ hdue
  clean a p hp m hm := by
    have hpartner := h.kept hp
    rcases h.due a m hm with hold | hposted
    · exact hr.clean a p hpartner m hold
    · -- the sender serves the reader, so the reader serves the sender
      have hback := hr.isMutual m.1 a hposted (by rw [hpartner]; exact nofun)
      rw [hpartner] at hback
      exact (Option.some.inj hback).symm

variable [DecidableEq ι]

variable (r) in
/-- A party begins to serve another. -/
def choose (e p : ι) : Room ι α :=
  { r with parties := Function.update r.parties e { r.parties e with partner := some p } }

lemma choose_parties (e p a : ι) : (r.choose e p).parties a =
    if a = e then { r.parties e with partner := some p } else r.parties a :=
  Function.update_apply ..

lemma choose_partner (e p a : ι) :
    ((r.choose e p).parties a).partner = if a = e then some p else (r.parties a).partner := by
  rw [choose_parties]
  split_ifs <;> rfl

lemma choose_inbox (e p a : ι) : ((r.choose e p).parties a).inbox = (r.parties a).inbox := by
  rw [choose_parties]
  split_ifs with ha
  · rw [ha]
  · rfl

/-- After a choice the pairs are mutual exactly if it fits them. -/
lemma choose_mutual_iff (hr : r.Mutual) {e p : ι} (he : (r.parties e).partner = none) :
    (r.choose e p).Mutual ↔ (∀ x, (r.parties p).partner = some x → x = e) ∧
      ∀ q, (r.parties q).partner = some e → q = p := by
  constructor
  · intro h
    constructor
    · intro x hx
      have hpe : p ≠ e := by
        rintro rfl
        rw [he] at hx
        cases hx
      have hback := h e p (by rw [choose_partner, if_pos rfl])
        (by rw [choose_partner, if_neg hpe, hx]; exact nofun)
      rw [choose_partner, if_neg hpe, hx] at hback
      exact Option.some.inj hback
    · intro q hq
      have hqe : q ≠ e := by
        rintro rfl
        rw [he] at hq
        cases hq
      have hback := h q e (by rw [choose_partner, if_neg hqe, hq])
        (by rw [choose_partner, if_pos rfl]; exact nofun)
      rw [choose_partner, if_pos rfl] at hback
      exact (Option.some.inj hback).symm
  · rintro ⟨hfree, halone⟩ a b hab hb
    rw [choose_partner] at hab hb ⊢
    by_cases ha : a = e
    · rw [if_pos ha] at hab
      obtain rfl := Option.some.inj hab
      by_cases hpe : p = e
      · rw [if_pos hpe, hpe, ha]
      · rw [if_neg hpe] at hb ⊢
        obtain ⟨x, hx⟩ := Option.ne_none_iff_exists'.mp hb
        rw [hx, hfree x hx, ha]
    · rw [if_neg ha] at hab
      by_cases hbe : b = e
      · rw [if_pos hbe]
        rw [hbe] at hab
        rw [halone a hab]
      · rw [if_neg hbe] at hb ⊢
        exact hr a b hab hb

/-- A choice keeps a room sound exactly if it fits. -/
theorem choose_sound_iff (hr : r.Sound) {e p : ι} (he : (r.parties e).partner = none) :
    (r.choose e p).Sound ↔ r.Fits e p := by
  constructor
  · intro h
    obtain ⟨hfree, halone⟩ := (choose_mutual_iff hr.isMutual he).mp h.isMutual
    refine ⟨hfree, halone, fun m hm => ?_⟩
    refine h.clean e p ?_ m ?_
    · rw [choose_partner, if_pos rfl]
    · rw [choose_inbox]
      exact hm
  · intro h
    refine ⟨(choose_mutual_iff hr.isMutual he).mpr ⟨h.free, h.alone⟩, hr.ownFrames, ?_⟩
    intro a x hx m hm
    rw [choose_partner] at hx
    rw [choose_inbox] at hm
    by_cases ha : a = e
    · rw [if_pos ha] at hx
      rw [← Option.some.inj hx]
      exact h.clean m (ha ▸ hm)
    · rw [if_neg ha] at hx
      exact hr.clean a x hx m hm

end Room

end AgentRemote.Library.Mailboxes
