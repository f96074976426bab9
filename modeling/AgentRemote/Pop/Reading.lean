import AgentRemote.Library.Codes
import AgentRemote.Pop.Payload

/-!
# Canonical JSON is read off the front

In front of a text that does not go on with a digit, the canonical JSON of a value ends where
it can only end. So payloads with one canonical text have the same submitted fields.
-/

namespace AgentRemote.Pop
open Library Rendering

/-! ### Strings -/

section

variable {c d l : Char} {s t x y : Text}

/-- The character that a letter behind a backslash stands for. -/
def unescapeLetter (l : Char) : Char :=
  if l = 'n' then '\n'
  else if l = 'r' then '\r'
  else if l = 't' then '\t'
  else if l = 'f' then '\x0c'
  else if l = 'b' then '\x08'
  else l

lemma unescape_escapeLetter (h : escapeLetter c = some l) : unescapeLetter l = c ∧ l ≠ 'u' := by
  unfold escapeLetter at h
  split_ifs at h with h1 h2 h3 h4 h5 h6 h7 <;> cases h <;> subst_vars <;> decide

lemma ne_of_escapeLetter (h : escapeLetter c = none) : c ≠ '"' ∧ c ≠ '\\' := by
  constructor <;> rintro rfl <;> cases h

/-- The escape of a character is read off the front of a text. -/
lemma escape_append_inj (h : escape c ++ s = escape d ++ t) : c = d ∧ s = t := by
  unfold escape at h
  cases hc : escapeLetter c with
  | some l =>
    have hcl := unescape_escapeLetter hc
    cases hd : escapeLetter d with
    | some m =>
      have hdm := unescape_escapeLetter hd
      simp only [hc, hd, List.cons_append, List.nil_append, List.cons.injEq, true_and] at h
      rw [← hcl.1, ← hdm.1, h.1]
      exact ⟨rfl, h.2⟩
    | none =>
      have hdn := ne_of_escapeLetter hd
      simp only [hc, hd] at h
      split_ifs at h with hctrl
      · exact absurd (List.cons.inj (List.cons.inj h).2).1 hcl.2
      · exact absurd (List.cons.inj h).1.symm hdn.2
  | none =>
    have hcn := ne_of_escapeLetter hc
    cases hd : escapeLetter d with
    | some m =>
      have hdm := unescape_escapeLetter hd
      simp only [hc, hd] at h
      split_ifs at h with hctrl
      · exact absurd (List.cons.inj (List.cons.inj h).2).1.symm hdm.2
      · exact absurd (List.cons.inj h).1 hcn.2
    | none =>
      have hdn := ne_of_escapeLetter hd
      simp only [hc, hd] at h
      split_ifs at h with hctrl hctrl' hctrl'
      · have hdigits := padded_append_inj (by decide) (by decide) (by omega) (by omega)
          (List.cons.inj (List.cons.inj h).2).2
        exact ⟨Char.toNat_inj.mp hdigits.1, hdigits.2⟩
      · exact absurd (List.cons.inj h).1.symm hdn.2
      · exact absurd (List.cons.inj h).1 hcn.2
      · exact List.cons.inj h

lemma escape_ne_quote (c : Char) (s : Text) : ∀ t, escape c ++ s ≠ '"' :: t := by
  intro t h
  unfold escape at h
  cases hc : escapeLetter c with
  | some l =>
    simp only [hc] at h
    exact absurd (List.cons.inj h).1 (by decide)
  | none =>
    simp only [hc] at h
    split_ifs at h
    · exact absurd (List.cons.inj h).1 (by decide)
    · exact (ne_of_escapeLetter hc).1 (List.cons.inj h).1

/-- A string is read off the front of a text. -/
lemma quoted_append_inj (h : quoted s ++ x = quoted t ++ y) : s = t ∧ x = y := by
  simp only [quoted, List.cons_append, List.append_assoc, List.nil_append, List.cons.injEq,
    true_and] at h
  induction s generalizing t with
  | nil =>
    cases t with
    | nil => exact ⟨rfl, (List.cons.inj h).2⟩
    | cons d t =>
      rw [List.flatMap_cons, List.append_assoc] at h
      exact absurd h.symm (escape_ne_quote d _ _)
  | cons c s ih =>
    cases t with
    | nil =>
      rw [List.flatMap_cons, List.append_assoc] at h
      exact absurd h (escape_ne_quote c _ _)
    | cons d t =>
      rw [List.flatMap_cons, List.flatMap_cons, List.append_assoc, List.append_assoc] at h
      have hhead := escape_append_inj h
      have hrest := ih hhead.2
      rw [hhead.1, hrest.1]
      exact ⟨rfl, hrest.2⟩

end

/-! ### Numbers -/

/-- A text that does not go on with a digit. -/
def Stops (s : Text) : Prop := ∀ c ∈ s.head?, ¬c.isDigit = true

lemma isDigit_of_mem_repr {c : Char} {n : ℕ} (h : c ∈ (Nat.repr n).toList) : c.isDigit = true := by
  rw [Nat.toList_repr] at h
  exact Nat.isDigit_of_mem_toDigits (by omega) (by omega) h

lemma repr_append_inj {m n : ℕ} {s t : Text} (hs : Stops s) (ht : Stops t)
    (h : (Nat.repr m).toList ++ s = (Nat.repr n).toList ++ t) : m = n ∧ s = t := by
  have hdigits : ∀ k : ℕ, ∀ c ∈ (Nat.repr k).toList, c.isDigit = true :=
    fun _ _ => isDigit_of_mem_repr
  have hsplit := append_inj_of_all (hdigits m) (hdigits n) hs ht h
  exact ⟨repr_injective hsplit.1, hsplit.2⟩

lemma exists_repr (n : ℕ) : ∃ c r, (Nat.repr n).toList = c :: r ∧ c.isDigit = true := by
  cases h : (Nat.repr n).toList with
  | nil =>
    rw [Nat.toList_repr] at h
    exact absurd h Nat.toDigits_ne_nil
  | cons c r => exact ⟨c, r, rfl, isDigit_of_mem_repr (h ▸ List.mem_cons_self)⟩

/-- An integer is read off the front of a text that does not go on with a digit. -/
lemma intText_append_inj {m n : ℤ} {x y s t : Text} (hm : intText m = .ok x) (hn : intText n = .ok y)
    (hs : Stops s) (ht : Stops t) (h : x ++ s = y ++ t) : x = y ∧ m = n := by
  have hsign : ∀ (k l : ℕ) (s t : Text),
      (Nat.repr k).toList ++ s ≠ '-' :: (Nat.repr l).toList ++ t := by
    intro k l s t h
    obtain ⟨c, r, hc, hdigit⟩ := exists_repr k
    rw [hc] at h
    rw [(List.cons.inj h).1] at hdigit
    cases hdigit
  rcases intText_eq_ok hm with ⟨k, rfl, rfl⟩ | ⟨k, rfl, rfl⟩ <;>
    rcases intText_eq_ok hn with ⟨l, rfl, rfl⟩ | ⟨l, rfl, rfl⟩
  · have hkl := (repr_append_inj hs ht h).1
    rw [hkl]
    exact ⟨rfl, rfl⟩
  · exact absurd h (hsign k (l + 1) s t)
  · exact absurd h.symm (hsign l (k + 1) t s)
  · have hkl := (repr_append_inj hs ht (List.cons.inj h).2).1
    have hk : k = l := by omega
    rw [hk]
    exact ⟨rfl, rfl⟩

/-! ### Every value is read off the front -/

/-- The first character of a value's text. -/
def PopValue.Starts : PopValue → Char → Prop
  | .null, c => c = 'n'
  | .bool true, c => c = 't'
  | .bool false, c => c = 'f'
  | .int _, c => c.isDigit = true ∨ c = '-'
  | .string _, c => c = '"'
  | .list _, c => c = '['
  | .model _, c => c = '{'

lemma exists_start {value : PopValue} {text : Text} (h : value.text = .ok text) :
    ∃ c r, text = c :: r ∧ value.Starts c := by
  cases value with
  | null => exact ⟨_, _, (Except.ok.inj h).symm, rfl⟩
  | bool b => cases b <;> exact ⟨_, _, (Except.ok.inj h).symm, rfl⟩
  | int n =>
    rcases intText_eq_ok h with ⟨k, -, rfl⟩ | ⟨k, -, rfl⟩
    · obtain ⟨c, r, hc, hdigit⟩ := exists_repr k
      exact ⟨c, r, hc, Or.inl hdigit⟩
    · exact ⟨_, _, rfl, Or.inr rfl⟩
  | string s => exact ⟨_, _, (Except.ok.inj h).symm, rfl⟩
  | list items =>
    simp only [PopValue.text, bind_eq_ok, pure_eq_ok, Except.ok.injEq] at h
    obtain ⟨_, -, rfl⟩ := h
    exact ⟨_, _, rfl, rfl⟩
  | model fields =>
    simp only [PopValue.text, bind_eq_ok, pure_eq_ok, Except.ok.injEq] at h
    obtain ⟨_, -, rfl⟩ := h
    exact ⟨_, _, rfl, rfl⟩

lemma exists_common_start {v w : PopValue} {x y s t : Text} (hv : v.text = .ok x)
    (hw : w.text = .ok y) (h : x ++ s = y ++ t) : ∃ c, v.Starts c ∧ w.Starts c := by
  obtain ⟨c, r, rfl, hc⟩ := exists_start hv
  obtain ⟨d, r', rfl, hd⟩ := exists_start hw
  exact ⟨c, hc, (List.cons.inj h).1 ▸ hd⟩

/-- The text of the value is read off the front, where no digit follows. -/
def ReadsOff (v : PopValue) : Prop :=
  ∀ w x y s t, v.text = .ok x → w.text = .ok y → Stops s → Stops t → x ++ s = y ++ t →
    x = y ∧ v.Same w

lemma readsOff_null : ReadsOff .null := by
  intro w x y s t hv hw hs ht h
  obtain ⟨c, rfl, hc⟩ := exists_common_start hv hw h
  cases w with
  | null => exact ⟨Except.ok.inj (hv.symm.trans hw), PopValue.Same.null⟩
  | bool b => cases b <;> simp [PopValue.Starts] at hc
  | _ => simp [PopValue.Starts] at hc

lemma readsOff_bool (b : Bool) : ReadsOff (.bool b) := by
  intro w x y s t hv hw hs ht h
  obtain ⟨c, hb, hc⟩ := exists_common_start hv hw h
  cases w with
  | bool b' =>
    have hbb : b = b' := by
      cases b <;> cases b' <;> simp_all [PopValue.Starts]
    subst hbb
    exact ⟨Except.ok.inj (hv.symm.trans hw), PopValue.Same.bool b⟩
  | _ => cases b <;> simp_all [PopValue.Starts]

lemma readsOff_int (n : ℤ) : ReadsOff (.int n) := by
  intro w x y s t hv hw hs ht h
  obtain ⟨c, hn, hc⟩ := exists_common_start hv hw h
  have hn : c.isDigit = true ∨ c = '-' := hn
  cases w with
  | int m =>
    have hread := intText_append_inj hv hw hs ht h
    rw [hread.2]
    exact ⟨hread.1, PopValue.Same.int m⟩
  | bool b => cases b <;> cases hc <;> exact absurd hn (by decide)
  | _ =>
    cases hc
    exact absurd hn (by decide)

lemma readsOff_string (a : Text) : ReadsOff (.string a) := by
  intro w x y s t hv hw hs ht h
  obtain ⟨c, rfl, hc⟩ := exists_common_start hv hw h
  cases w with
  | string b =>
    cases hv
    cases hw
    rw [(quoted_append_inj h).1]
    exact ⟨rfl, PopValue.Same.string b⟩
  | bool b => cases b <;> simp [PopValue.Starts] at hc
  | _ => simp [PopValue.Starts] at hc

/-! ### Lists and models -/

lemma itemTexts_eq_ok {items : List PopValue} {parts : List Text} :
    itemTexts items = .ok parts ↔
      List.Forall₂ (fun item part => item.text = .ok part) items parts := by
  induction items generalizing parts with
  | nil =>
    simp [itemTexts, eq_comm]
  | cons item items ih =>
    simp only [itemTexts, bind_eq_ok, pure_eq_ok, Except.ok.injEq, List.forall₂_cons_left_iff]
    constructor
    · rintro ⟨part, hpart, parts', hparts, rfl⟩
      exact ⟨part, parts', hpart, ih.mp hparts, rfl⟩
    · rintro ⟨part, parts', hpart, hparts, rfl⟩
      exact ⟨part, hpart, parts', ih.mpr hparts, rfl⟩

/-- A member of an object is the text of a submitted field. -/
def MemberOf (field : Text × PopValue) (member : Text × Text) : Prop :=
  member.1 = field.1 ∧ field.2.text = .ok member.2

lemma fieldTexts_eq_ok {fields : List (Text × Bool × PopValue)} {members : List (Text × Text)}
    (h : fieldTexts fields = .ok members) : List.Forall₂ MemberOf (submitted fields) members := by
  induction fields generalizing members with
  | nil =>
    cases h
    exact List.Forall₂.nil
  | cons field fields ih =>
    obtain ⟨name, set, value⟩ := field
    cases set with
    | false => exact ih h
    | true =>
      simp only [fieldTexts, if_true, bind_eq_ok, pure_eq_ok, Except.ok.injEq] at h
      obtain ⟨text, htext, rest, hrest, rfl⟩ := h
      exact List.Forall₂.cons ⟨rfl, htext⟩ (ih hrest)

lemma not_stops_digit {c : Char} (h : c.isDigit = false) (s : Text) : Stops (c :: s) := by
  intro d hd
  rw [List.head?_cons, Option.mem_some_iff] at hd
  rw [← hd, h]
  exact Bool.false_ne_true

lemma readsOff_list (items : List PopValue) (ih : ∀ v ∈ items, ReadsOff v) :
    ReadsOff (.list items) := by
  intro w x y s t hv hw hs ht h
  obtain ⟨c, rfl, hc⟩ := exists_common_start hv hw h
  cases w with
  | list others =>
    simp only [PopValue.text, bind_eq_ok, pure_eq_ok, Except.ok.injEq, itemTexts_eq_ok] at hv hw
    obtain ⟨px, hx, rfl⟩ := hv
    obtain ⟨py, hy, rfl⟩ := hw
    simp only [bracketed, List.cons_append, List.append_assoc, List.nil_append, List.cons.injEq,
      true_and] at h
    have hhead : ∀ {vs : List PopValue} {ps : List Text},
        List.Forall₂ (fun item part => item.text = .ok part) vs ps →
        ∀ p ∈ ps, ∃ b r, p = b :: r ∧ b ≠ ']' := by
      intro vs ps hvs p hp
      obtain ⟨v, -, hvp⟩ := exists_of_mem_right hvs hp
      obtain ⟨b, r, hb, hstart⟩ := exists_start hvp
      refine ⟨b, r, hb, ?_⟩
      rintro rfl
      cases v with
      | bool b => cases b <;> simp [PopValue.Starts] at hstart
      | _ => simp [PopValue.Starts] at hstart
    have hparts := intercalate_append_inj (not_stops_digit (by decide))
      (not_stops_digit (by decide)) (by decide) (hhead hx) (hhead hy) (by
        intro p hp q hq s t hs ht hpq
        obtain ⟨v, hv, hvp⟩ := exists_of_mem_right hx hp
        obtain ⟨w, -, hwq⟩ := exists_of_mem_right hy hq
        exact (ih v hv w p q s t hvp hwq hs ht hpq).1) h
    obtain ⟨rfl, -⟩ := hparts
    refine ⟨rfl, PopValue.Same.list ?_⟩
    apply forall₂_of_common _ hx hy
    intro v hv w _ p hvp hwp
    exact (ih v hv w p p [] [] hvp hwp nofun nofun rfl).2
  | bool b => cases b <;> simp [PopValue.Starts] at hc
  | _ => simp [PopValue.Starts] at hc

lemma memberText_injective : Function.Injective memberText := by
  intro m n h
  have hsplit := quoted_append_inj h
  exact Prod.ext hsplit.1 (List.cons.inj hsplit.2).2

section

variable {fs gs : List (Text × Bool × PopValue)} {mf mg : List (Text × Text)} {s t : Text}

/-- Objects of one text have the same submitted fields. -/
lemma objectText_append_inj (ih : ∀ f ∈ fs, ReadsOff f.2.2) (hf : fieldTexts fs = .ok mf)
    (hg : fieldTexts gs = .ok mg) (h : objectText mf ++ s = objectText mg ++ t) :
    objectText mf = objectText mg ∧ (PopValue.model fs).Same (.model gs) := by
  have hread : ∀ f ∈ submitted fs, ReadsOff f.2 := by
    intro f hfm
    obtain ⟨field, hfield, hsome⟩ := List.mem_filterMap.mp hfm
    split_ifs at hsome
    rw [← Option.some.inj hsome]
    exact ih field hfield
  have hf := fieldTexts_eq_ok hf
  have hg := fieldTexts_eq_ok hg
  have hpf := List.perm_insertionSort (fun a b : Text × Text => a.1 ≤ b.1) mf
  have hpg := List.perm_insertionSort (fun a b : Text × Text => a.1 ≤ b.1) mg
  have hhead : ∀ ms : List (Text × Text), ∀ p ∈ ms.map memberText,
      ∃ b r, p = b :: r ∧ b ≠ '}' := by
    intro ms p hp
    obtain ⟨m, -, rfl⟩ := List.mem_map.mp hp
    exact ⟨'"', _, rfl, by decide⟩
  unfold objectText at h ⊢
  have hbody := h
  simp only [bracketed, List.cons_append, List.append_assoc, List.nil_append, List.cons.injEq,
    true_and] at hbody
  have hparts := intercalate_append_inj (not_stops_digit (by decide))
    (not_stops_digit (by decide)) (by decide) (hhead _) (hhead _) (by
      intro p hp q hq s t hs ht hpq
      obtain ⟨m, hm, rfl⟩ := List.mem_map.mp hp
      obtain ⟨n, hn, rfl⟩ := List.mem_map.mp hq
      obtain ⟨f, hfm, hfm'⟩ := exists_of_mem_right hf (hpf.mem_iff.mp hm)
      obtain ⟨g, -, hgn⟩ := exists_of_mem_right hg (hpg.mem_iff.mp hn)
      unfold memberText at hpq ⊢
      rw [List.append_assoc, List.append_assoc] at hpq
      have hname := quoted_append_inj hpq
      have hvalue := hread f hfm g.2 _ _ s t hfm'.2 hgn.2 hs ht (List.cons.inj hname.2).2
      rw [hname.1, hvalue.1]) hbody
  have hsorted := memberText_injective.list_map hparts.1
  have hperm : mf.Perm mg := by
    rw [hsorted] at hpf
    exact hpf.symm.trans hpg
  obtain ⟨ks, hks, hkm⟩ := exists_perm_left hg hperm
  have hsame : List.Forall₂ (fun f k => f.1 = k.1 ∧ f.2.Same k.2) (submitted fs) ks := by
    apply forall₂_of_common _ hf hkm
    intro f hfm k _ m hfm' hkm'
    exact ⟨hfm'.1.symm.trans hkm'.1,
      (hread f hfm k.2 m.2 m.2 [] [] hfm'.2 hkm'.2 nofun nofun rfl).2⟩
  refine ⟨by rw [hsorted], PopValue.Same.model ?_ ?_ hks⟩
  · rw [← List.forall₂_eq_eq_eq, List.forall₂_map_left_iff, List.forall₂_map_right_iff]
    exact hsame.imp fun _ _ hfk => hfk.1
  · rw [List.forall₂_map_left_iff, List.forall₂_map_right_iff]
    exact hsame.imp fun _ _ hfk => hfk.2

end

lemma readsOff_model (fields : List (Text × Bool × PopValue)) (ih : ∀ f ∈ fields, ReadsOff f.2.2) :
    ReadsOff (.model fields) := by
  intro w x y s t hv hw hs ht h
  obtain ⟨c, rfl, hc⟩ := exists_common_start hv hw h
  cases w with
  | model others =>
    simp only [PopValue.text, bind_eq_ok, pure_eq_ok, Except.ok.injEq] at hv hw
    obtain ⟨mf, hf, rfl⟩ := hv
    obtain ⟨mg, hg, rfl⟩ := hw
    exact objectText_append_inj ih hf hg h
  | bool b => cases b <;> simp [PopValue.Starts] at hc
  | _ => simp [PopValue.Starts] at hc

/-- The canonical text of every value is read off the front, where no digit follows. -/
theorem readsOff (value : PopValue) : ReadsOff value :=
  @PopValue.rec ReadsOff (fun vs => ∀ v ∈ vs, ReadsOff v) (fun fs => ∀ f ∈ fs, ReadsOff f.2.2)
    (fun f => ReadsOff f.2.2) (fun f => ReadsOff f.2)
    readsOff_null readsOff_bool readsOff_int readsOff_string readsOff_list readsOff_model
    (fun _ h => by simp at h) (fun _ _ hv hvs => List.forall_mem_cons.mpr ⟨hv, hvs⟩)
    (fun _ h => by simp at h) (fun _ _ hf hfs => List.forall_mem_cons.mpr ⟨hf, hfs⟩)
    (fun _ _ hf => hf) (fun _ _ hv => hv) value

/-- Payloads of one canonical text have the same submitted fields. -/
theorem samePayload_of_canonical_eq {payload other : List (Text × Bool × PopValue)} {code : List ℕ}
    (h : canonicalPopPayload payload = .ok code) (h' : canonicalPopPayload other = .ok code) :
    SamePayload payload other := by
  simp only [canonicalPopPayload, bind_eq_ok, pure_eq_ok, Except.ok.injEq] at h h'
  obtain ⟨mf, hf, hcode⟩ := h
  obtain ⟨mg, hg, hcode'⟩ := h'
  have htext := Text.encode_injective (hcode.trans hcode'.symm)
  exact (objectText_append_inj (s := []) (t := []) (fun f _ => readsOff f.2.2) hf hg
    (by rw [htext])).2

end AgentRemote.Pop
