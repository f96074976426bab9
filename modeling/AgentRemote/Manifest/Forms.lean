import AgentRemote.Manifest.Tree

/-!
# Paths cut and joined at a slash

The first component of an accepted path is a member name, and a member name before an
accepted path makes a path again if the bytes allow it. Both rest on what the normal form
is documented to do at a cut.
-/

namespace AgentRemote
open Library

/-- Form C is closed under substrings, and a slash neither composes with the characters
around it nor lets them change places. -/
structure LawfulForms [UnicodeForms] : Prop where
  substring : ∀ a b c : Text, UnicodeForms.normalizeNFC (a ++ b ++ c) = a ++ b ++ c →
    UnicodeForms.normalizeNFC b = b
  slash : ∀ a b : Text, UnicodeForms.normalizeNFC a = a → UnicodeForms.normalizeNFC b = b →
    UnicodeForms.normalizeNFC (a ++ '/' :: b) = a ++ '/' :: b

/-- ASCII text is its own normal form. -/
lemma lawfulForms_ascii : @LawfulForms asciiForms :=
  @LawfulForms.mk asciiForms (fun _ _ _ _ => rfl) fun _ _ _ _ => rfl

namespace Text

/-- A path is its first component, or goes on after a slash. -/
lemma eq_top_or (s : Text) : s = top s ∨ ∃ rest, s = top s ++ '/' :: rest := by
  have happ : s.takeWhile (· ≠ '/') ++ s.dropWhile (· ≠ '/') = s := List.takeWhile_append_dropWhile
  cases hdrop : s.dropWhile (· ≠ '/') with
  | nil =>
    rw [hdrop, List.append_nil] at happ
    exact .inl happ.symm
  | cons c rest =>
    have hc : c = '/' := by
      have hne : s.dropWhile (· ≠ '/') ≠ [] := hdrop ▸ List.cons_ne_nil c rest
      have hhead := List.head_dropWhile_not (fun c : Char => decide (c ≠ '/')) hne
      simp only [hdrop, List.head_cons, decide_eq_false_iff_not, not_not] at hhead
      exact hhead
    rw [hdrop, hc] at happ
    exact .inr ⟨rest, happ.symm⟩

lemma length_encode_append_slash (s t : Text) :
    (s ++ '/' :: t).encode.length = s.encode.length + 1 + t.encode.length := by
  have hslash : encode ('/' :: t) = 47 :: encode t := rfl
  rw [encode_append, hslash, List.length_append, List.length_cons]
  omega

end Text

section

variable [UnicodeForms] {value name path : Text}

/-- The path rule, condition by condition. -/
lemma validateRelativePath_eq_ok : validateRelativePath value = .ok () ↔
    (value ≠ [] ∧ value.head? ≠ some '/' ∧ '\\' ∉ value) ∧
      UnicodeForms.normalizeNFC value = value ∧ value.any Text.isControl = false ∧
        value.encode.length ≤ 4096 ∧
          ∀ c ∈ value.split, c ≠ [] ∧ c ≠ ['.'] ∧ c ≠ ['.', '.'] ∧ c.encode.length ≤ 255 := by
  simp only [validateRelativePath, reject_bind_eq_ok, reject_eq_ok, not_or, ne_eq, not_not,
    Bool.not_eq_true, not_lt, not_exists, not_and]

/-- What stands before a slash of a path is a path. -/
lemma validateRelativePath_left (hforms : LawfulForms) {rest : Text}
    (h : validateRelativePath (path ++ '/' :: rest) = .ok ()) :
    validateRelativePath path = .ok () := by
  rw [validateRelativePath_eq_ok] at h ⊢
  obtain ⟨⟨-, hhead, hback⟩, hnfc, hcontrol, hlength, hsplit⟩ := h
  rw [Text.split_append_slash] at hsplit
  have hleft : ∀ c ∈ path.split, c ≠ [] ∧ c ≠ ['.'] ∧ c ≠ ['.', '.'] ∧ c.encode.length ≤ 255 :=
    fun c hc => hsplit c (List.mem_append_left _ hc)
  have hne : path ≠ [] := by
    rintro rfl
    exact (hleft [] (by simp [Text.split])).1 rfl
  refine ⟨⟨hne, ?_, fun hmem => hback (List.mem_append_left _ hmem)⟩, ?_, ?_, ?_, hleft⟩
  · rwa [List.head?_append_of_ne_nil _ hne] at hhead
  · exact hforms.substring [] path ('/' :: rest) hnfc
  · rw [List.any_append, Bool.or_eq_false_iff] at hcontrol
    exact hcontrol.1
  · rw [Text.encode_append, List.length_append] at hlength
    omega

/-- The first component of a path is a member name. -/
lemma memberName_top (hforms : LawfulForms) (h : validateRelativePath path = .ok ()) :
    MemberName path.top := by
  refine ⟨?_, Text.not_mem_top path⟩
  rcases Text.eq_top_or path with htop | ⟨rest, htop⟩
  · rwa [← htop]
  · rw [htop] at h
    exact validateRelativePath_left hforms h

/-- A path below a member name is a path as long as its bytes fit. -/
lemma validateRelativePath_append_iff (hforms : LawfulForms) (hname : MemberName name)
    (h : validateRelativePath path = .ok ()) :
    validateRelativePath (name ++ '/' :: path) = .ok () ↔
      (name ++ '/' :: path).encode.length ≤ 4096 := by
  have hn := hname.path
  rw [validateRelativePath_eq_ok] at h hn ⊢
  obtain ⟨⟨-, -, hback⟩, hnfc, hcontrol, -, hsplit⟩ := h
  obtain ⟨⟨hne, hhead, hnback⟩, hnnfc, hncontrol, -, hnsplit⟩ := hn
  refine ⟨fun hjoin => hjoin.2.2.2.1, fun hlength => ⟨⟨?_, ?_, ?_⟩, ?_, ?_, hlength, ?_⟩⟩
  · simp
  · rwa [List.head?_append_of_ne_nil _ hne]
  · simp [hback, hnback]
  · exact hforms.slash name path hnnfc hnfc
  · rw [List.any_append, hncontrol, List.any_cons, hcontrol]
    decide
  · rw [Text.split_append_slash]
    intro c hc
    rcases List.mem_append.mp hc with hc | hc
    · exact hnsplit c hc
    · exact hsplit c hc

end

end AgentRemote
