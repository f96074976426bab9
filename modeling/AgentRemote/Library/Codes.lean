import AgentRemote.Library.Delimited

/-!
# Words that begin one text

A reader that gets a text from its front needs to know where the first word ends. It does
when words are written in a fixed number of digits, behind their own length, or in letters
that cannot follow them, and a row of such words is read one by one.
-/

namespace AgentRemote.Library

variable {α β : Type*}

/-- A map that tells the members apart determines the list. -/
lemma map_inj_of_mem {f : α → β} {xs ys : List α} (hf : ∀ a ∈ xs, ∀ b ∈ ys, f a = f b → a = b)
    (h : xs.map f = ys.map f) : xs = ys := by
  rw [List.map_eq_flatMap, List.map_eq_flatMap] at h
  apply flatMap_inj_of_length one_pos _ _ h
  · exact fun _ => rfl
  · intro a ha b hb hab
    exact hf a ha b hb (List.singleton_inj.mp hab)

/-! ### Rows related item by item -/

section

variable {γ δ : Type*}

lemma exists_of_mem_right {R : α → γ → Prop} {xs : List α} {cs : List γ} {c : γ}
    (h : List.Forall₂ R xs cs) (hc : c ∈ cs) : ∃ x ∈ xs, R x c := by
  induction h with
  | nil => simp at hc
  | cons hxc _ ih =>
    rcases List.mem_cons.mp hc with rfl | hc
    · exact ⟨_, List.mem_cons_self, hxc⟩
    · obtain ⟨x, hx, hxc⟩ := ih hc
      exact ⟨x, List.mem_cons_of_mem _ hx, hxc⟩

lemma forall₂_and {R S : α → γ → Prop} {xs : List α} {cs : List γ} (hr : List.Forall₂ R xs cs)
    (hs : List.Forall₂ S xs cs) : List.Forall₂ (fun x c => R x c ∧ S x c) xs cs := by
  induction hr with
  | nil => exact List.Forall₂.nil
  | cons hxc _ ih =>
    cases hs with
    | cons hxc' hrest => exact List.Forall₂.cons ⟨hxc, hxc'⟩ (ih hrest)

/-- A rearrangement on the right is followed on the left. -/
lemma exists_perm_left {R : α → γ → Prop} {xs : List α} {cs ds : List γ}
    (h : List.Forall₂ R xs cs) (hperm : ds.Perm cs) :
    ∃ zs : List α, zs.Perm xs ∧ List.Forall₂ R zs ds := by
  obtain ⟨zs, hzs, hp⟩ := List.perm_comp_forall₂ hperm (List.Forall₂.flip (R := flip R) h)
  exact ⟨zs, hp, hzs.flip⟩

/-- Two rows with a common third are related where the relations to a common item say so. -/
lemma forall₂_of_common {R : α → γ → Prop} {S : β → γ → Prop} {T : α → β → Prop}
    {xs : List α} {ys : List β} {cs : List γ}
    (h : ∀ x ∈ xs, ∀ y ∈ ys, ∀ c, R x c → S y c → T x y)
    (hx : List.Forall₂ R xs cs) (hy : List.Forall₂ S ys cs) : List.Forall₂ T xs ys := by
  induction hx generalizing ys with
  | nil =>
    cases hy
    exact List.Forall₂.nil
  | cons hxc _ ih =>
    cases hy with
    | cons hyc hrest =>
      apply List.Forall₂.cons
      · exact h _ List.mem_cons_self _ List.mem_cons_self _ hxc hyc
      · exact ih (fun x hx y hy => h x (List.mem_cons_of_mem _ hx) y (List.mem_cons_of_mem _ hy)) hrest

/-- Related rows have related images where related items do. -/
lemma forall₂_image {R : α → γ → Prop} {S : β → δ → Prop} {T : α → β → Prop} {U : γ → δ → Prop}
    {xs : List α} {ys : List β} {cs : List γ} {ds : List δ}
    (h : ∀ x ∈ xs, ∀ y ∈ ys, ∀ c d, T x y → R x c → S y d → U c d)
    (hxy : List.Forall₂ T xs ys) (hx : List.Forall₂ R xs cs) (hy : List.Forall₂ S ys ds) :
    List.Forall₂ U cs ds := by
  induction hxy generalizing cs ds with
  | nil =>
    cases hx
    cases hy
    exact List.Forall₂.nil
  | cons hab _ ih =>
    cases hx with
    | cons hac hxs =>
      cases hy with
      | cons hbd hys =>
        apply List.Forall₂.cons
        · exact h _ List.mem_cons_self _ List.mem_cons_self _ _ hab hac hbd
        · exact ih (fun x hx y hy => h x (List.mem_cons_of_mem _ hx) y (List.mem_cons_of_mem _ hy))
            hxs hys

end

/-! ### Digits -/

/-- The last digits of a number in a base, the highest first. -/
def bigEndian (base : ℕ) : ℕ → ℕ → List ℕ
  | 0, _ => []
  | width + 1, n => bigEndian base width (n / base) ++ [n % base]

@[simp] lemma length_bigEndian (base width n : ℕ) : (bigEndian base width n).length = width := by
  induction width generalizing n with
  | zero => rfl
  | succ width ih => simp [bigEndian, ih]

lemma lt_of_mem_bigEndian {base width n d : ℕ} (hbase : 0 < base)
    (hd : d ∈ bigEndian base width n) : d < base := by
  induction width generalizing n with
  | zero => simp [bigEndian] at hd
  | succ width ih =>
    rcases List.mem_append.mp hd with hd | hd
    · exact ih hd
    · rw [List.mem_singleton.mp hd]
      exact Nat.mod_lt _ hbase

/-- The digits determine every number that they can hold. -/
theorem bigEndian_inj {base width m n : ℕ} (hm : m < base ^ width) (hn : n < base ^ width)
    (h : bigEndian base width m = bigEndian base width n) : m = n := by
  induction width generalizing m n with
  | zero =>
    rw [pow_zero] at hm hn
    omega
  | succ width ih =>
    have hsplit := List.append_inj h (by simp)
    have hlow : m % base = n % base := by simpa using hsplit.2
    have hhigh : m / base = n / base := by
      apply ih _ _ hsplit.1
      · exact Nat.div_lt_of_lt_mul (by rwa [mul_comm, ← pow_succ])
      · exact Nat.div_lt_of_lt_mul (by rwa [mul_comm, ← pow_succ])
    rw [← Nat.div_add_mod m base, ← Nat.div_add_mod n base, hlow, hhigh]

/-! ### The end of a word -/

/-- A word of letters that cannot follow it is read off the front. -/
lemma append_inj_of_all {p : β → Prop} {x y s t : List β} (hx : ∀ b ∈ x, p b) (hy : ∀ b ∈ y, p b)
    (hs : ∀ b ∈ s.head?, ¬p b) (ht : ∀ b ∈ t.head?, ¬p b) (h : x ++ s = y ++ t) :
    x = y ∧ s = t := by
  induction x generalizing y with
  | nil =>
    cases y with
    | nil => exact ⟨rfl, h⟩
    | cons b y =>
      rw [List.nil_append] at h
      exact absurd (hy b List.mem_cons_self) (hs b (by simp [h]))
  | cons a x ih =>
    cases y with
    | nil =>
      rw [List.nil_append] at h
      exact absurd (hx a List.mem_cons_self) (ht a (by simp [← h]))
    | cons b y =>
      have hcons := List.cons.inj h
      have hrest := ih (fun b hb => hx b (List.mem_cons_of_mem _ hb))
        (fun b hb => hy b (List.mem_cons_of_mem _ hb)) hcons.2
      rw [hcons.1, hrest.1]
      exact ⟨rfl, hrest.2⟩

/-- A word behind its length, whose digits a separator ends. -/
def lengthPrefixed (digits : ℕ → List β) (sep : β) (word : List β) : List β :=
  digits word.length ++ sep :: word

lemma lengthPrefixed_append_inj {digits : ℕ → List β} {sep : β} {x y s t : List β}
    (hsep : ∀ n, sep ∉ digits n) (hinj : Function.Injective digits)
    (h : lengthPrefixed digits sep x ++ s = lengthPrefixed digits sep y ++ t) :
    x = y ∧ s = t := by
  unfold lengthPrefixed at h
  rw [List.append_assoc, List.append_assoc, List.cons_append, List.cons_append] at h
  have hhead := append_sep_inj (hsep _) (hsep _) h
  exact List.append_inj hhead.2 (hinj hhead.1)

/-- Two rows of as many words agree when the words of the first are read off any front. -/
theorem flatten_append_inj {xs ys : List (List β)} {s t : List β} (hlength : xs.length = ys.length)
    (hword : ∀ x ∈ xs, ∀ y ∈ ys, ∀ s t, x ++ s = y ++ t → x = y)
    (h : xs.flatten ++ s = ys.flatten ++ t) : xs = ys ∧ s = t := by
  induction xs generalizing ys with
  | nil =>
    have hys : ys = [] := List.eq_nil_of_length_eq_zero hlength.symm
    subst hys
    exact ⟨rfl, h⟩
  | cons x xs ih =>
    cases ys with
    | nil => simp at hlength
    | cons y ys =>
      rw [List.flatten_cons, List.flatten_cons, List.append_assoc, List.append_assoc] at h
      have hhead : x = y := hword x List.mem_cons_self y List.mem_cons_self _ _ h
      subst hhead
      have hrest := ih (by simpa using hlength)
        (fun x hx y hy => hword x (List.mem_cons_of_mem _ hx) y (List.mem_cons_of_mem _ hy))
        (List.append_cancel_left h)
      rw [hrest.1]
      exact ⟨rfl, hrest.2⟩

section

variable {sep close : β} {stops : List β → Prop} {s t : List β}

private lemma stops_separated (hsep : ∀ s, stops (sep :: s)) (hclose : ∀ s, stops (close :: s))
    (words : List (List β)) (s : List β) : stops (words.flatMap (sep :: ·) ++ close :: s) := by
  cases words with
  | nil => exact hclose s
  | cons w ws => exact hsep _

/-- The words after the first of a row, each behind a separator. -/
private lemma separated_append_inj (hsep : ∀ s, stops (sep :: s)) (hclose : ∀ s, stops (close :: s))
    (hne : sep ≠ close) {xs ys : List (List β)}
    (hword : ∀ x ∈ xs, ∀ y ∈ ys, ∀ s t, stops s → stops t → x ++ s = y ++ t → x = y)
    (h : xs.flatMap (sep :: ·) ++ close :: s = ys.flatMap (sep :: ·) ++ close :: t) :
    xs = ys ∧ s = t := by
  induction xs generalizing ys with
  | nil =>
    cases ys with
    | nil => exact ⟨rfl, (List.cons.inj h).2⟩
    | cons y ys => exact absurd (List.cons.inj h).1.symm hne
  | cons x xs ih =>
    cases ys with
    | nil => exact absurd (List.cons.inj h).1 hne
    | cons y ys =>
      simp only [List.flatMap_cons, List.cons_append, List.append_assoc, List.cons.injEq,
        true_and] at h
      have hhead : x = y := hword x List.mem_cons_self y List.mem_cons_self _ _
        (stops_separated hsep hclose xs s) (stops_separated hsep hclose ys t) h
      subst hhead
      have hrest := ih (fun x hx y hy => hword x (List.mem_cons_of_mem _ hx) y
        (List.mem_cons_of_mem _ hy)) (List.append_cancel_left h)
      rw [hrest.1]
      exact ⟨rfl, hrest.2⟩

/-- A row of separated words with a letter at its end is read off the front when its words
are, in front of a separator or an end. -/
theorem intercalate_append_inj (hsep : ∀ s, stops (sep :: s)) (hclose : ∀ s, stops (close :: s))
    (hne : sep ≠ close) {xs ys : List (List β)}
    (hx : ∀ x ∈ xs, ∃ b r, x = b :: r ∧ b ≠ close) (hy : ∀ y ∈ ys, ∃ b r, y = b :: r ∧ b ≠ close)
    (hword : ∀ x ∈ xs, ∀ y ∈ ys, ∀ s t, stops s → stops t → x ++ s = y ++ t → x = y)
    (h : [sep].intercalate xs ++ close :: s = [sep].intercalate ys ++ close :: t) :
    xs = ys ∧ s = t := by
  have hrow : ∀ (w : List β) (ws : List (List β)),
      [sep].intercalate (w :: ws) = w ++ ws.flatMap (sep :: ·) := by
    intro w ws
    induction ws generalizing w with
    | nil => simp [List.intercalate]
    | cons v ws ih =>
      have := ih v
      simp only [List.intercalate, List.intersperse, List.flatten_cons, List.flatMap_cons] at this ⊢
      rw [this]
      simp
  cases xs with
  | nil =>
    cases ys with
    | nil => exact ⟨rfl, by simpa [List.intercalate] using h⟩
    | cons y ys =>
      obtain ⟨b, r, rfl, hb⟩ := hy y List.mem_cons_self
      rw [hrow] at h
      exact absurd (List.cons.inj h).1.symm hb
  | cons x xs =>
    cases ys with
    | nil =>
      obtain ⟨b, r, rfl, hb⟩ := hx x List.mem_cons_self
      rw [hrow] at h
      exact absurd (List.cons.inj h).1 hb
    | cons y ys =>
      rw [hrow, hrow, List.append_assoc, List.append_assoc] at h
      have hhead : x = y := hword x List.mem_cons_self y List.mem_cons_self _ _
        (stops_separated hsep hclose xs s) (stops_separated hsep hclose ys t) h
      subst hhead
      have hrest := separated_append_inj hsep hclose hne (fun x hx y hy => hword x
        (List.mem_cons_of_mem _ hx) y (List.mem_cons_of_mem _ hy)) (List.append_cancel_left h)
      rw [hrest.1]
      exact ⟨rfl, hrest.2⟩

end

end AgentRemote.Library
