import AgentRemote.Manifest.Entry

/-!
# Resolution of a link inside its tree

`resolveManifestLink` follows a link component by component and never reads a file
system. It returns the final path and every path it looked up on the way, and only these
lookups decide the result.
-/

namespace AgentRemote
open Library

/-- The path walked so far and the paths looked up, in order and without repetition. -/
@[ext] structure LinkWalk where
  resolved : List Text
  dependencies : List Text

namespace LinkWalk

def depend (s : LinkWalk) (path : Text) : LinkWalk :=
  if path ∈ s.dependencies then s else { s with dependencies := s.dependencies ++ [path] }

def descend (s : LinkWalk) (component : Text) : LinkWalk :=
  { s with resolved := s.resolved ++ [component] }

def ascend (s : LinkWalk) : LinkWalk := { s with resolved := s.resolved.dropLast }

@[simp] lemma descend_dependencies (s : LinkWalk) (c : Text) :
    (s.descend c).dependencies = s.dependencies := rfl

@[simp] lemma ascend_dependencies (s : LinkWalk) : s.ascend.dependencies = s.dependencies := rfl

@[simp] lemma mem_depend_dependencies {s : LinkWalk} {path p : Text} :
    p ∈ (s.depend path).dependencies ↔ p ∈ s.dependencies ∨ p = path := by
  unfold depend
  split_ifs with h
  · grind
  · simp

end LinkWalk

/-- Walks up to the next link on the way. A link yields the components still to walk,
those of its own target first. -/
def walk (entries : List SkillTreeEntry) :
    List Text → LinkWalk → Except String (LinkWalk × Option (List Text))
  | [], s => .ok (s, none)
  | component :: pending, s =>
    if component = [] ∨ component = ['.'] then walk entries pending s
    else if component = ['.', '.'] then
      if s.resolved = [] then .error "link escapes manifest root"
      else walk entries pending s.ascend
    else
      match entryAt entries (Text.join (s.resolved ++ [component])) with
      | none => .error "link target is missing from manifest"
      | some target =>
        if target.kind = .symlink then
          .ok (s.depend target.path, some (target.target.split ++ pending))
        else if pending ≠ [] ∧ target.kind ≠ .directory then
          .error "link traverses a non-directory entry"
        else walk entries pending ((s.depend target.path).descend component)

/-- `walk` from link to link, with `hops` of them left. -/
def resolveHops (entries : List SkillTreeEntry) : ℕ → List Text → LinkWalk → Except String LinkWalk
  | hops, pending, s =>
    match walk entries pending s with
    | .error e => .error e
    | .ok (s, none) => .ok s
    | .ok (s, some pending) =>
      match hops with
      | 0 => .error "link resolution exceeds the cycle limit"
      | hops + 1 => resolveHops entries hops pending s

def maxLinkHops : ℕ := 40

def resolveManifestLink (entry : SkillTreeEntry) (entries : List SkillTreeEntry) :
    Except String (Text × List Text) := do
  let s ← resolveHops entries maxLinkHops entry.target.split ⟨entry.path.split.dropLast, []⟩
  reject (s.resolved = []) "link to the manifest root creates a directory cycle"
  reject (Text.join s.resolved ++ ['/'] <+: entry.path)
    "link to an ancestor directory creates a cycle"
  return (Text.join s.resolved, s.dependencies)

section

variable {entries entries' : List SkillTreeEntry}

/-- What a successful walk looks up: old dependencies stay, new ones are entries, and
another tree with the same entries at the dependencies walks the same way. -/
lemma walk_spec {pending : List Text} {s s' : LinkWalk} {next : Option (List Text)}
    (h : walk entries pending s = .ok (s', next)) :
    s.dependencies ⊆ s'.dependencies ∧
      (∀ d ∈ s'.dependencies, d ∈ s.dependencies ∨ (entryAt entries d).isSome) ∧
        ((∀ d ∈ s'.dependencies, entryAt entries' d = entryAt entries d) →
          walk entries' pending s = .ok (s', next)) := by
  induction pending generalizing s with
  | nil =>
    simp only [walk, Except.ok.injEq, Prod.mk.injEq] at h
    obtain ⟨rfl, rfl⟩ := h
    exact ⟨fun _ hd => hd, fun _ hd => .inl hd, fun _ => rfl⟩
  | cons component pending ih =>
    simp only [walk] at h ⊢
    by_cases hskip : component = [] ∨ component = ['.']
    · rw [if_pos hskip] at h ⊢
      exact ih h
    rw [if_neg hskip] at h ⊢
    by_cases hup : component = ['.', '.']
    · rw [if_pos hup] at h ⊢
      by_cases hroot : s.resolved = []
      · simp [hroot] at h
      · rw [if_neg hroot] at h ⊢
        exact ih h
    rw [if_neg hup] at h ⊢
    cases hfind : entryAt entries (Text.join (s.resolved ++ [component])) with
    | none => simp [hfind] at h
    | some target =>
      have hpath : target.path = Text.join (s.resolved ++ [component]) := key_of_lookup hfind
      have hsome : (entryAt entries target.path).isSome := by rw [hpath, hfind]; rfl
      rw [hfind] at h
      dsimp only at h
      by_cases hlink : target.kind = .symlink
      · rw [if_pos hlink] at h
        simp only [Except.ok.injEq, Prod.mk.injEq] at h
        obtain ⟨rfl, rfl⟩ := h
        refine ⟨fun d hd => by simp [hd], fun d hd => ?_, fun heq => ?_⟩
        · rcases LinkWalk.mem_depend_dependencies.mp hd with hd | rfl
          · exact .inl hd
          · exact .inr hsome
        · have := heq target.path (by simp)
          rw [hpath, hfind] at this
          rw [this]
          simp only [hlink, if_true]
      · rw [if_neg hlink] at h
        by_cases hfile : pending ≠ [] ∧ target.kind ≠ .directory
        · simp [hfile] at h
        · rw [if_neg hfile] at h
          obtain ⟨hsub, hnew, hcongr⟩ := ih h
          have hmem : target.path ∈ s'.dependencies := hsub (by simp)
          refine ⟨fun d hd => hsub (by simp [hd]), fun d hd => ?_, fun heq => ?_⟩
          · rcases hnew d hd with hd | hd
            · simp only [LinkWalk.descend_dependencies, LinkWalk.mem_depend_dependencies] at hd
              rcases hd with hd | rfl
              · exact .inl hd
              · exact .inr hsome
            · exact .inr hd
          · have := heq target.path hmem
            rw [hpath, hfind] at this
            rw [this]
            dsimp only
            rw [if_neg hlink, if_neg hfile]
            exact hcongr heq

lemma resolveHops_spec {hops : ℕ} {pending : List Text} {s s' : LinkWalk}
    (h : resolveHops entries hops pending s = .ok s') :
    s.dependencies ⊆ s'.dependencies ∧
      (∀ d ∈ s'.dependencies, d ∈ s.dependencies ∨ (entryAt entries d).isSome) ∧
        ((∀ d ∈ s'.dependencies, entryAt entries' d = entryAt entries d) →
          resolveHops entries' hops pending s = .ok s') := by
  induction hops generalizing pending s with
  | zero =>
    unfold resolveHops at h ⊢
    cases hwalk : walk entries pending s with
    | error e => simp [hwalk] at h
    | ok result =>
      obtain ⟨t, _ | next⟩ := result
      · simp only [hwalk, Except.ok.injEq] at h
        subst h
        obtain ⟨hsub, hnew, hcongr⟩ := walk_spec hwalk
        exact ⟨hsub, hnew, fun heq => by rw [hcongr heq]⟩
      · simp [hwalk] at h
  | succ hops ih =>
    unfold resolveHops at h ⊢
    cases hwalk : walk entries pending s with
    | error e => simp [hwalk] at h
    | ok result =>
      obtain ⟨t, _ | next⟩ := result
      · simp only [hwalk, Except.ok.injEq] at h
        subst h
        obtain ⟨hsub, hnew, hcongr⟩ := walk_spec hwalk
        exact ⟨hsub, hnew, fun heq => by rw [hcongr heq]⟩
      · simp only [hwalk] at h
        obtain ⟨hsub, hnew, hcongr⟩ := walk_spec hwalk
        obtain ⟨hsub', hnew', hcongr'⟩ := ih h
        refine ⟨fun d hd => hsub' (hsub hd), fun d hd => ?_, fun heq => ?_⟩
        · rcases hnew' d hd with hd | hd
          · exact hnew d hd
          · exact .inr hd
        · rw [hcongr fun d hd => heq d (hsub' hd)]
          exact hcongr' heq

variable {entry : SkillTreeEntry} {result : Text × List Text}

lemma resolveManifestLink_eq_ok :
    resolveManifestLink entry entries = .ok result ↔
      ∃ s, resolveHops entries maxLinkHops entry.target.split ⟨entry.path.split.dropLast, []⟩ =
        .ok s ∧ s.resolved ≠ [] ∧ ¬(Text.join s.resolved ++ ['/'] <+: entry.path) ∧
          (Text.join s.resolved, s.dependencies) = result := by
  simp [resolveManifestLink, bind_eq_ok]

/-- Every dependency of a link is an entry of its tree. -/
theorem isSome_of_mem_dependencies (h : resolveManifestLink entry entries = .ok result) :
    ∀ d ∈ result.2, (entryAt entries d).isSome := by
  obtain ⟨s, hs, -, -, rfl⟩ := resolveManifestLink_eq_ok.mp h
  intro d hd
  rcases (@resolveHops_spec entries entries _ _ _ _ hs).2.1 d hd with hd | hd
  · simp at hd
  · exact hd

/-- The dependencies alone decide how a link resolves. -/
theorem resolveManifestLink_congr (h : resolveManifestLink entry entries = .ok result)
    (heq : ∀ d ∈ result.2, entryAt entries' d = entryAt entries d) :
    resolveManifestLink entry entries' = .ok result := by
  obtain ⟨s, hs, hroot, hinside, rfl⟩ := resolveManifestLink_eq_ok.mp h
  have hs' := (@resolveHops_spec entries entries' _ _ _ _ hs).2.2 heq
  exact resolveManifestLink_eq_ok.mpr ⟨s, hs', hroot, hinside, rfl⟩

end

end AgentRemote
