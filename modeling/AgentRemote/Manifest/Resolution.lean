import AgentRemote.Library.Loops
import AgentRemote.Manifest.Tree

/-!
# The loop of a link resolution

`resolve_manifest_link` as the source has it: a loop over a queue of components, to which each
link on the way adds those of its target. It ends over any dictionary. Over a complete tree it
finds an entry that is no link and depends on what it returns alone.
-/

namespace AgentRemote
open Library

/-- `dict[str, SkillTreeEntry].get`. An entry need not stand under its own path. -/
abbrev EntryDict := Text → Option SkillTreeEntry

/-- The loop variables, with the paths that were looked up, which the source does not keep. -/
@[ext] structure LinkLoop extends LinkWalk where
  pending : List Text
  hops : ℕ
  lookups : List Text

namespace LinkLoop

/-- Before the first round. -/
def start (entry : SkillTreeEntry) : LinkLoop :=
  ⟨⟨entry.path.split.dropLast, []⟩, entry.target.split, 0, []⟩

def going (s : LinkLoop) : Bool := s.pending ≠ []

/-- What a round does with the target that it looked up, under the last component it took. -/
def follow (s : LinkLoop) (component : Text) (target : SkillTreeEntry) : Except String LinkLoop :=
  if target.kind = .symlink then
    if maxLinkHops < s.hops + 1 then .error "link resolution exceeds the cycle limit"
    else
      .ok { s with
        toLinkWalk := s.depend target.path
        hops := s.hops + 1
        pending := target.target.split ++ s.pending }
  else if s.pending ≠ [] ∧ target.kind ≠ .directory then
    .error "link traverses a non-directory entry"
  else .ok { s with toLinkWalk := (s.depend target.path).descend component }

/-- One round, which takes the first component. -/
def round (entries : EntryDict) (s : LinkLoop) : Except String LinkLoop :=
  match s.pending with
  | [] => .ok s
  | component :: pending =>
    if component = [] ∨ component = ['.'] then .ok { s with pending := pending }
    else if component = ['.', '.'] then
      if s.resolved = [] then .error "link escapes manifest root"
      else .ok { s with toLinkWalk := s.ascend, pending := pending }
    else
      let path := Text.join (s.resolved ++ [component])
      match entries path with
      | none => .error "link target is missing from manifest"
      | some target =>
        { s with pending := pending, lookups := s.lookups ++ [path] }.follow component target

end LinkLoop

/-- The loop, with fuel for as many rounds. -/
def linkLoop (entries : EntryDict) (entry : SkillTreeEntry) (fuel : ℕ) :
    Option (Except String LinkLoop) :=
  Loops.run LinkLoop.going (LinkLoop.round entries) fuel (.start entry)

/-- What follows the loop. -/
def linkResult (entry : SkillTreeEntry) (s : LinkWalk) : Except String (Text × List Text) := do
  reject (s.resolved = []) "link to the manifest root creates a directory cycle"
  reject (Text.join s.resolved ++ ['/'] <+: entry.path)
    "link to an ancestor directory creates a cycle"
  return (Text.join s.resolved, s.dependencies)

/-- `resolve_manifest_link`, with fuel for its loop. -/
def resolveLink (entries : EntryDict) (entry : SkillTreeEntry) (fuel : ℕ) :
    Option (Except String (Text × List Text)) :=
  (linkLoop entries entry fuel).map fun s => s.bind fun s => linkResult entry s.toLinkWalk

namespace LinkLoop

variable {entries entries' : EntryDict} {s s' : LinkLoop} {component : Text}
  {target : SkillTreeEntry}

/-! ### Rounds -/

/-- A target that is followed is a link within the limit, or something to stand on. -/
lemma follow_cases (h : s.follow component target = .ok s') :
    target.kind = .symlink ∧ s.hops < maxLinkHops ∧
        s' = { s with
          toLinkWalk := s.depend target.path
          hops := s.hops + 1
          pending := target.target.split ++ s.pending } ∨
      target.kind ≠ .symlink ∧ (s.pending = [] ∨ target.kind = .directory) ∧
        s' = { s with toLinkWalk := (s.depend target.path).descend component } := by
  unfold follow at h
  by_cases hlink : target.kind = .symlink
  · rw [if_pos hlink] at h
    split_ifs at h with hhops
    refine .inl ⟨hlink, ?_, (Except.ok.inj h).symm⟩
    omega
  · rw [if_neg hlink] at h
    split_ifs at h with hfile
    refine .inr ⟨hlink, ?_, (Except.ok.inj h).symm⟩
    by_contra hneither
    push Not at hneither
    exact hfile hneither

/-- A round skips a component, goes up, or follows what it looks up. -/
lemma round_cases (hgoing : s.going = true) (h : s.round entries = .ok s') :
    ∃ component pending, s.pending = component :: pending ∧
      (s' = { s with pending := pending } ∨
        s.resolved ≠ [] ∧ s' = { s with toLinkWalk := s.ascend, pending := pending } ∨
        ∃ target, entries (Text.join (s.resolved ++ [component])) = some target ∧
          component ≠ [] ∧
          { s with
            pending := pending
            lookups := s.lookups ++ [Text.join (s.resolved ++ [component])] }.follow
              component target = .ok s') := by
  unfold round at h
  cases hpending : s.pending with
  | nil =>
    simp only [going, hpending, ne_eq, not_true_eq_false, decide_false] at hgoing
    cases hgoing
  | cons component pending =>
    refine ⟨component, pending, rfl, ?_⟩
    rw [hpending] at h
    dsimp only at h
    by_cases hskip : component = [] ∨ component = ['.']
    · rw [if_pos hskip] at h
      exact .inl (Except.ok.inj h).symm
    rw [if_neg hskip] at h
    by_cases hup : component = ['.', '.']
    · rw [if_pos hup] at h
      split_ifs at h with hroot
      exact .inr (.inl ⟨hroot, (Except.ok.inj h).symm⟩)
    rw [if_neg hup] at h
    cases hfind : entries (Text.join (s.resolved ++ [component])) with
    | none =>
      rw [hfind] at h
      cases h
    | some target =>
      rw [hfind] at h
      exact .inr (.inr ⟨target, rfl, fun hnil => hskip (.inl hnil), h⟩)

/-! ### Termination -/

/-- Fewer links are left, or as many with fewer components. -/
def Smaller (s' s : LinkLoop) : Prop :=
  Prod.Lex (· < ·) (· < ·) (maxLinkHops - s'.hops, s'.pending.length)
    (maxLinkHops - s.hops, s.pending.length)

lemma wellFounded_smaller : WellFounded Smaller :=
  InvImage.wf (fun s : LinkLoop => (maxLinkHops - s.hops, s.pending.length))
    (WellFounded.prod_lex Nat.lt_wfRel.wf Nat.lt_wfRel.wf)

/-- Every round makes the loop smaller. -/
lemma round_smaller (hgoing : s.going = true) (h : s.round entries = .ok s') : Smaller s' s := by
  obtain ⟨component, pending, hpending, hcases⟩ := round_cases hgoing h
  have hlength : pending.length < s.pending.length := by
    rw [hpending, List.length_cons]
    omega
  rcases hcases with rfl | ⟨-, rfl⟩ | ⟨target, -, -, hfollow⟩
  · exact .right _ hlength
  · exact .right _ hlength
  · rcases follow_cases hfollow with ⟨-, hhops, rfl⟩ | ⟨-, -, rfl⟩
    · apply Prod.Lex.left
      change s.hops < maxLinkHops at hhops
      change maxLinkHops - (s.hops + 1) < maxLinkHops - s.hops
      omega
    · exact .right _ hlength

end LinkLoop

/-- The loop ends over any dictionary. -/
lemma exists_linkLoop (entries : EntryDict) (entry : SkillTreeEntry) :
    ∃ fuel result, linkLoop entries entry fuel = some result :=
  Loops.exists_run LinkLoop.wellFounded_smaller (fun _ _ => LinkLoop.round_smaller) _

lemma resolveLink_mono {entries : EntryDict} {entry : SkillTreeEntry} {fuel fuel' : ℕ}
    {outcome : Except String (Text × List Text)} (hle : fuel ≤ fuel')
    (h : resolveLink entries entry fuel = some outcome) :
    resolveLink entries entry fuel' = some outcome := by
  obtain ⟨result, hresult, houtcome⟩ := Option.map_eq_some_iff.mp h
  rw [resolveLink, linkLoop, Loops.run_mono hle hresult, Option.map_some, houtcome]

lemma linkResult_eq_ok {entry : SkillTreeEntry} {s : LinkWalk} {result : Text × List Text} :
    linkResult entry s = .ok result ↔ s.resolved ≠ [] ∧
      ¬(Text.join s.resolved ++ ['/'] <+: entry.path) ∧
        (Text.join s.resolved, s.dependencies) = result := by
  simp only [linkResult, reject_bind_eq_ok, pure_eq_ok, ne_eq, Except.ok.injEq]

lemma resolveLink_eq_ok {entries : EntryDict} {entry : SkillTreeEntry} {fuel : ℕ}
    {result : Text × List Text} : resolveLink entries entry fuel = some (.ok result) ↔
      ∃ s, linkLoop entries entry fuel = some (.ok s) ∧
        linkResult entry s.toLinkWalk = .ok result := by
  rw [resolveLink, Option.map_eq_some_iff]
  constructor
  · rintro ⟨r, hr, hbind⟩
    cases r with
    | error e => cases hbind
    | ok s => exact ⟨s, hr, hbind⟩
  · rintro ⟨s, hs, hresult⟩
    exact ⟨.ok s, hs, hresult⟩

/-! ### Over a complete tree -/

/-- The parent of a component path is one of its ancestors, or the root. -/
lemma join_dropLast_mem_ancestors {parts : List Text} (hslash : ∀ part ∈ parts, '/' ∉ part)
    (h : parts.dropLast ≠ []) : Text.join parts.dropLast ∈ ancestors (Text.join parts) := by
  have hparts : parts ≠ [] := by
    rintro rfl
    exact h rfl
  have hlength : 0 < parts.dropLast.length := List.length_pos_of_ne_nil h
  rw [List.length_dropLast] at hlength
  refine mem_ancestors.mpr ⟨parts.length - 1, hlength, ?_, ?_⟩
  · rw [Text.split_join hslash hparts]
    omega
  · rw [Text.split_join hslash hparts, List.dropLast_eq_take]

namespace LinkLoop

/-- The loop stands at the root or on an entry that is no link, which is a directory as long as
components are left. What it looked up it returns. -/
structure Standing (manifest : SkillTreeManifest) (s : LinkLoop) : Prop where
  resolved : ∀ part ∈ s.resolved, '/' ∉ part
  pending : ∀ part ∈ s.pending, '/' ∉ part
  place : s.resolved ≠ [] → ∃ entry, manifest.get (Text.join s.resolved) = some entry ∧
    entry.kind ≠ .symlink ∧ (s.pending ≠ [] → entry.kind = .directory)
  lookups : ∀ path ∈ s.lookups, path ∈ s.dependencies

variable {manifest : SkillTreeManifest} {s s' : LinkLoop} {entry : SkillTreeEntry}

lemma place_of_directory {path : Text} (h : DirectoryAt manifest.entries path) (P : Prop) :
    ∃ entry, manifest.get path = some entry ∧ entry.kind ≠ .symlink ∧
      (P → entry.kind = .directory) := by
  obtain ⟨entry, hentry, hkind⟩ := h
  exact ⟨entry, hentry, by rw [hkind]; exact nofun, fun _ => hkind⟩

/-- The loop starts in the directory of its link. -/
lemma standing_start (hentry : entry ∈ manifest.entries) : Standing manifest (start entry) where
  resolved part hpart := Text.not_mem_of_mem_split (List.dropLast_subset _ hpart)
  pending part hpart := Text.not_mem_of_mem_split hpart
  place hresolved := by
    have hslash : ∀ part ∈ entry.path.split, '/' ∉ part := fun _ => Text.not_mem_of_mem_split
    have hparent := join_dropLast_mem_ancestors hslash hresolved
    rw [Text.join_split] at hparent
    exact place_of_directory (manifest.rules.parents entry hentry _ hparent) _
  lookups _ h := absurd h List.not_mem_nil

/-- A round leads from one place to another. -/
lemma Standing.round (hs : Standing manifest s) (hgoing : s.going = true)
    (h : s.round manifest.get = .ok s') : Standing manifest s' := by
  obtain ⟨component, pending, hpending, hcases⟩ := round_cases hgoing h
  have hrest : ∀ part ∈ pending, '/' ∉ part := fun part hpart =>
    hs.pending part (hpending ▸ List.mem_cons_of_mem _ hpart)
  have hleft : s.pending ≠ [] := by
    rw [hpending]
    exact List.cons_ne_nil _ _
  rcases hcases with rfl | ⟨hroot, rfl⟩ | ⟨target, hfind, -, hfollow⟩
  · refine ⟨hs.resolved, hrest, fun hresolved => ?_, hs.lookups⟩
    obtain ⟨e, he, hkind, hdirectory⟩ := hs.place hresolved
    exact ⟨e, he, hkind, fun _ => hdirectory hleft⟩
  · refine ⟨fun part hpart => hs.resolved part (List.dropLast_subset _ hpart), hrest, ?_,
      hs.lookups⟩
    intro hresolved
    obtain ⟨e, he, -, -⟩ := hs.place hroot
    obtain ⟨hmem, hpath⟩ := SkillTreeManifest.get_eq_some_iff.mp he
    have hparent := join_dropLast_mem_ancestors hs.resolved hresolved
    rw [← hpath] at hparent
    exact place_of_directory (manifest.rules.parents e hmem _ hparent) _
  · have hpath := (SkillTreeManifest.get_eq_some_iff.mp hfind).2
    have hcomponent : '/' ∉ component :=
      hs.pending component (hpending ▸ List.mem_cons_self)
    have hlookups : ∀ path ∈ s.lookups ++ [Text.join (s.resolved ++ [component])],
        path ∈ (s.depend target.path).dependencies := by
      intro path hmem
      rw [LinkWalk.mem_depend_dependencies, hpath]
      rcases List.mem_append.mp hmem with hold | hnew
      · exact .inl (hs.lookups path hold)
      · exact .inr (List.mem_singleton.mp hnew)
    have hresolved : (s.depend target.path).resolved = s.resolved := by
      unfold LinkWalk.depend
      split_ifs <;> rfl
    rcases follow_cases hfollow with ⟨-, -, rfl⟩ | ⟨hkind, hdirectory, rfl⟩
    · refine ⟨fun part hpart => hs.resolved part (hresolved ▸ hpart), fun part hpart => ?_, ?_,
        hlookups⟩
      · rcases List.mem_append.mp hpart with hown | hpart
        · exact Text.not_mem_of_mem_split hown
        · exact hrest part hpart
      · intro hne
        change (s.depend target.path).resolved ≠ [] at hne
        change ∃ entry, manifest.get (Text.join (s.depend target.path).resolved) = some entry ∧ _
        rw [hresolved] at hne ⊢
        obtain ⟨e, he, hekind, hedirectory⟩ := hs.place hne
        exact ⟨e, he, hekind, fun _ => hedirectory hleft⟩
    · have hdescend : ((s.depend target.path).descend component).resolved =
          s.resolved ++ [component] := by rw [LinkWalk.descend, hresolved]
      refine ⟨fun part hpart => ?_, hrest, fun _ => ⟨target, ?_, hkind, fun hne => ?_⟩, hlookups⟩
      · rcases List.mem_append.mp (hdescend ▸ hpart) with hold | hnew
        · exact hs.resolved part hold
        · rw [List.mem_singleton.mp hnew]
          exact hcomponent
      · rw [← hfind, ← hdescend]
      · rcases hdirectory with hnil | hdirectory
        · exact absurd hnil hne
        · exact hdirectory

/-- What is followed is returned as looked up. -/
lemma follow_dependencies {component : Text} {target : SkillTreeEntry}
    (h : s.follow component target = .ok s') :
    ∀ d, d ∈ s'.dependencies ↔ d ∈ s.dependencies ∨ d = target.path := by
  intro d
  rcases follow_cases h with ⟨-, -, rfl⟩ | ⟨-, -, rfl⟩
  · exact LinkWalk.mem_depend_dependencies
  · exact LinkWalk.mem_depend_dependencies

/-- A round is the same in a dictionary that agrees on what is returned as looked up. -/
lemma round_agrees {entries' : EntryDict} {dependencies : List Text}
    (hagrees : ∀ d ∈ dependencies, entries' d = manifest.get d)
    (h : s.round manifest.get = .ok s') (hs' : ∀ d ∈ s'.dependencies, d ∈ dependencies) :
    (∀ d ∈ s.dependencies, d ∈ dependencies) ∧ s.round entries' = .ok s' := by
  unfold round at h ⊢
  cases hpending : s.pending with
  | nil =>
    rw [hpending] at h
    obtain rfl := Except.ok.inj h
    exact ⟨hs', rfl⟩
  | cons component pending =>
    rw [hpending] at h
    dsimp only at h ⊢
    by_cases hskip : component = [] ∨ component = ['.']
    · rw [if_pos hskip] at h ⊢
      obtain rfl := Except.ok.inj h
      exact ⟨hs', rfl⟩
    rw [if_neg hskip] at h ⊢
    by_cases hup : component = ['.', '.']
    · rw [if_pos hup] at h ⊢
      split_ifs at h ⊢ with hroot
      obtain rfl := Except.ok.inj h
      exact ⟨hs', rfl⟩
    rw [if_neg hup] at h ⊢
    cases hfind : manifest.get (Text.join (s.resolved ++ [component])) with
    | none =>
      rw [hfind] at h
      cases h
    | some target =>
      rw [hfind] at h
      have hdependencies := follow_dependencies h
      have hpath := (SkillTreeManifest.get_eq_some_iff.mp hfind).2
      have hmem : target.path ∈ dependencies :=
        hs' _ ((hdependencies target.path).mpr (.inr rfl))
      have hfind' := hagrees _ hmem
      rw [hpath, hfind] at hfind'
      rw [hfind']
      exact ⟨fun d hd => hs' d ((hdependencies d).mpr (.inl hd)), h⟩

end LinkLoop

section

variable {manifest : SkillTreeManifest} {entry : SkillTreeEntry} {fuel : ℕ}

/-- Where the loop of a link in a complete tree ends. -/
lemma linkLoop_standing {s : LinkLoop} (hentry : entry ∈ manifest.entries)
    (h : linkLoop manifest.get entry fuel = some (.ok s)) : s.Standing manifest :=
  (Loops.run_invariant (fun _ _ hs => hs.round) (LinkLoop.standing_start hentry) h).1

/-- The loop runs alike in a dictionary that agrees on what is returned as looked up. -/
lemma linkLoop_agrees {s : LinkLoop} {entries' : EntryDict}
    (h : linkLoop manifest.get entry fuel = some (.ok s))
    (hagrees : ∀ d ∈ s.dependencies, entries' d = manifest.get d) :
    linkLoop entries' entry fuel = some (.ok s) :=
  (Loops.run_backwards (P := fun t => ∀ d ∈ t.dependencies, d ∈ s.dependencies)
    (fun _ _ _ hround ht => LinkLoop.round_agrees hagrees hround ht) (fun _ hd => hd) h).2

/-- The resolution of a link ends over every dictionary. In a complete tree it finds an entry that
is no link, neither the root nor an ancestor of its own, it returns every path it looked up, and
it is the same in every dictionary that agrees there. -/
theorem resolveLink_ends_and_depends (entry : SkillTreeEntry) :
    (∀ entries : EntryDict, ∃ fuel outcome, ∀ fuel', fuel ≤ fuel' →
      resolveLink entries entry fuel' = some outcome) ∧
    ∀ (manifest : SkillTreeManifest) (fuel : ℕ) (result : Text × List Text),
      entry ∈ manifest.entries → resolveLink manifest.get entry fuel = some (.ok result) →
        (∃ target, manifest.get result.1 = some target ∧ target.kind ≠ .symlink) ∧
        result.1 ≠ [] ∧ result.1 ∉ ancestors entry.path ∧
        (∀ s, linkLoop manifest.get entry fuel = some (.ok s) →
          ∀ path ∈ s.lookups, path ∈ result.2) ∧
        ∀ entries' : EntryDict, (∀ d ∈ result.2, entries' d = manifest.get d) →
          resolveLink entries' entry fuel = some (.ok result) := by
  constructor
  · intro entries
    obtain ⟨fuel, result, h⟩ := exists_linkLoop entries entry
    refine ⟨fuel, result.bind fun s => linkResult entry s.toLinkWalk,
      fun fuel' hle => resolveLink_mono hle ?_⟩
    rw [resolveLink, h, Option.map_some]
  · intro manifest fuel result hentry h
    obtain ⟨s, hs, hresult⟩ := resolveLink_eq_ok.mp h
    obtain ⟨hroot, hinside, rfl⟩ := linkResult_eq_ok.mp hresult
    have hstanding := linkLoop_standing hentry hs
    obtain ⟨target, htarget, hkind, -⟩ := hstanding.place hroot
    refine ⟨⟨target, htarget, hkind⟩, ?_, ?_, ?_, ?_⟩
    · obtain ⟨hmem, hpath⟩ := SkillTreeManifest.get_eq_some_iff.mp htarget
      change Text.join s.resolved ≠ []
      rw [← hpath]
      exact manifest.rules.ne_nil target hmem
    · intro hancestor
      obtain ⟨rest, hrest⟩ := exists_append_of_mem_ancestors hancestor
      refine hinside ⟨rest, ?_⟩
      rw [hrest, List.append_assoc]
      rfl
    · intro t ht path hpath
      obtain rfl := Except.ok.inj (Option.some.inj (hs.symm.trans ht))
      exact hstanding.lookups path hpath
    · intro entries' hagrees
      exact resolveLink_eq_ok.mpr ⟨s, linkLoop_agrees hs hagrees, hresult⟩

end

/-- A link to a link. -/
def chainedEntries : List SkillTreeEntry :=
  [.directory "a".toList, .textFile "a/f".toList 1 (List.replicate 64 '0'),
    { path := "a/k".toList, kind := .symlink, mode := 0o777, target := "f".toList },
    { path := "l".toList, kind := .symlink, mode := 0o777, target := "./a/../a/k".toList }]

theorem resolveLink_chained :
    ∃ (manifest : SkillTreeManifest) (entry target : SkillTreeEntry) (fuel : ℕ),
      resolveLink manifest.get entry fuel =
        some (.ok ("a/f".toList, ["a".toList, "a/k".toList, "a/f".toList])) ∧
      manifest.get "a/f".toList = some target ∧ target.kind ≠ .symlink ∧
      ∀ entries' : EntryDict, (∀ d ∈ ["a".toList, "a/k".toList, "a/f".toList],
        entries' d = manifest.get d) →
          resolveLink entries' entry fuel = resolveLink manifest.get entry fuel := by
  let manifest : SkillTreeManifest := ⟨chainedEntries, by decide⟩
  let entry : SkillTreeEntry :=
    { path := "l".toList, kind := .symlink, mode := 0o777, target := "./a/../a/k".toList }
  have hresult : resolveLink manifest.get entry 10 =
      some (.ok ("a/f".toList, ["a".toList, "a/k".toList, "a/f".toList])) := by decide
  obtain ⟨⟨target, htarget, hkind⟩, -, -, -, hagrees⟩ :=
    (resolveLink_ends_and_depends entry).2 manifest 10 _ (by decide) hresult
  refine ⟨manifest, entry, target, 10, hresult, htarget, hkind, fun entries' h => ?_⟩
  rw [hresult]
  exact hagrees entries' h

/-- A link to itself uses up its hops. -/
example :
    let entry : SkillTreeEntry :=
      { path := "l".toList, kind := .symlink, mode := 0o777, target := "l".toList }
    resolveLink (entryAt [entry]) entry 41 =
      some (.error "link resolution exceeds the cycle limit") := by
  decide

/-! ### The structural resolution -/

namespace LinkLoop

/-- The loop ends so from a state. -/
def EndsIn (entries : List SkillTreeEntry) (s : LinkLoop) (result : Except String LinkWalk) : Prop :=
  ∃ fuel t, Loops.run going (round (entryAt entries)) fuel s = some t ∧
    t.map (·.toLinkWalk) = result

variable {entries : List SkillTreeEntry} {s s' : LinkLoop} {result : Except String LinkWalk}

lemma going_of_ne (h : s.pending ≠ []) : s.going = true := decide_eq_true h

lemma endsIn_done (h : s.pending = []) : EndsIn entries s (.ok s.toLinkWalk) := by
  refine ⟨0, .ok s, Loops.run_done ?_ 0, rfl⟩
  simp only [going, h, ne_eq, not_true_eq_false, decide_false]

lemma endsIn_error {e : String} (hpending : s.pending ≠ [])
    (h : s.round (entryAt entries) = .error e) : EndsIn entries s (.error e) :=
  ⟨1, .error e, Loops.run_error (going_of_ne hpending) h 0, rfl⟩

lemma endsIn_next (hpending : s.pending ≠ []) (h : s.round (entryAt entries) = .ok s')
    (hresult : EndsIn entries s' result) : EndsIn entries s result := by
  obtain ⟨fuel, t, hrun, ht⟩ := hresult
  exact ⟨fuel + 1, t, (Loops.run_next (going_of_ne hpending) h fuel).trans hrun, ht⟩

/-- The loop goes on like a walk, up to the end or the next link. -/
lemma walk_endsIn {pending : List Text} (hpending : s.pending = pending)
    (h : match walk entries pending s.toLinkWalk with
      | .error e => result = .error e
      | .ok (w, none) => result = .ok w
      | .ok (w, some next) =>
        if s.hops < maxLinkHops then
          ∀ lookups, EndsIn entries ⟨w, next, s.hops + 1, lookups⟩ result
        else result = .error "link resolution exceeds the cycle limit") :
    EndsIn entries s result := by
  induction pending generalizing s with
  | nil =>
    rw [walk] at h
    rw [h]
    exact endsIn_done hpending
  | cons component pending ih =>
    have hne : s.pending ≠ [] := by
      rw [hpending]
      exact List.cons_ne_nil _ _
    rw [walk] at h
    by_cases hskip : component = [] ∨ component = ['.']
    · rw [if_pos hskip] at h
      have hround : s.round (entryAt entries) = .ok { s with pending := pending } := by
        simp only [round, hpending, if_pos hskip]
      exact endsIn_next hne hround (ih rfl h)
    rw [if_neg hskip] at h
    by_cases hup : component = ['.', '.']
    · rw [if_pos hup] at h
      by_cases hroot : s.resolved = []
      · rw [if_pos hroot] at h
        rw [h]
        apply endsIn_error hne
        simp only [round, hpending, if_neg hskip, if_pos hup, if_pos hroot]
      · rw [if_neg hroot] at h
        have hround : s.round (entryAt entries) =
            .ok { s with toLinkWalk := s.ascend, pending := pending } := by
          simp only [round, hpending, if_neg hskip, if_pos hup, if_neg hroot]
        exact endsIn_next hne hround (ih rfl h)
    rw [if_neg hup] at h
    cases hfind : entryAt entries (Text.join (s.resolved ++ [component])) with
    | none =>
      rw [hfind] at h
      rw [h]
      apply endsIn_error hne
      simp only [round, hpending, if_neg hskip, if_neg hup, hfind]
    | some target =>
      rw [hfind] at h
      dsimp only at h
      have hround : s.round (entryAt entries) =
          { s with
            pending := pending
            lookups := s.lookups ++ [Text.join (s.resolved ++ [component])] }.follow
              component target := by
        simp only [round, hpending, if_neg hskip, if_neg hup, hfind]
      by_cases hlink : target.kind = .symlink
      · rw [if_pos hlink] at h
        dsimp only at h
        by_cases hhops : s.hops < maxLinkHops
        · rw [if_pos hhops] at h
          refine endsIn_next hne (hround.trans ?_)
            (h (s.lookups ++ [Text.join (s.resolved ++ [component])]))
          rw [follow, if_pos hlink, if_neg (by change ¬maxLinkHops < s.hops + 1; omega)]
        · rw [if_neg hhops] at h
          rw [h]
          refine endsIn_error hne (hround.trans ?_)
          rw [follow, if_pos hlink, if_pos (by change maxLinkHops < s.hops + 1; omega)]
      · rw [if_neg hlink] at h
        by_cases hfile : pending ≠ [] ∧ target.kind ≠ .directory
        · rw [if_pos hfile] at h
          rw [h]
          refine endsIn_error hne (hround.trans ?_)
          rw [follow, if_neg hlink, if_pos hfile]
        · rw [if_neg hfile] at h
          have hrest := ih (s := ⟨(s.depend target.path).descend component, pending, s.hops,
            s.lookups ++ [Text.join (s.resolved ++ [component])]⟩) rfl h
          refine endsIn_next hne (hround.trans ?_) hrest
          rw [follow, if_neg hlink, if_neg hfile]

/-- The loop ends as the structural resolution does. -/
lemma resolveHops_endsIn {hops : ℕ} (hhops : s.hops + hops = maxLinkHops) :
    EndsIn entries s (resolveHops entries hops s.pending s.toLinkWalk) := by
  induction hops generalizing s with
  | zero =>
    apply walk_endsIn rfl
    unfold resolveHops
    cases hwalk : walk entries s.pending s.toLinkWalk with
    | error e => rfl
    | ok r =>
      obtain ⟨w, _ | next⟩ := r
      · rfl
      · dsimp only
        rw [if_neg (by omega)]
  | succ hops ih =>
    apply walk_endsIn rfl
    unfold resolveHops
    cases hwalk : walk entries s.pending s.toLinkWalk with
    | error e => rfl
    | ok r =>
      obtain ⟨w, _ | next⟩ := r
      · rfl
      · dsimp only
        rw [if_pos (by omega)]
        intro lookups
        exact ih (s := ⟨w, next, s.hops + 1, lookups⟩) (by change s.hops + 1 + hops = _; omega)

end LinkLoop

/-- Over a dictionary of entries under their paths the loop ends as `resolveManifestLink` does. -/
theorem exists_resolveLink (entry : SkillTreeEntry) (entries : List SkillTreeEntry) :
    ∃ fuel, resolveLink (entryAt entries) entry fuel =
      some (resolveManifestLink entry entries) := by
  obtain ⟨fuel, t, hrun, ht⟩ :=
    @LinkLoop.resolveHops_endsIn entries (.start entry) maxLinkHops (Nat.zero_add _)
  refine ⟨fuel, ?_⟩
  have hresolve : resolveManifestLink entry entries =
      (t.map (·.toLinkWalk)).bind (linkResult entry) := by
    rw [ht]
    rfl
  rw [resolveLink, linkLoop, hrun, hresolve, Option.map_some]
  cases t <;> rfl

end AgentRemote
