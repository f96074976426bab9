import AgentRemote.ConfigImports.Plan

/-!
# What a configuration import ships

A file that the server hands to a node lies under a path it accepted, and outside the histories
and the managed skills. It lies outside the denied and the excluded paths as long as no selected
path leads into them: both are compared with whole selected paths only.
-/

namespace AgentRemote.ConfigImports
open Library Runtimes

/-- The path is the root or lies below it. Trailing slashes of the root do not count. -/
def Within (path root : Text) : Prop := AtOrBelow '/' path (normalizeConfigPath root)

/-- What must hold of a file that an import ships. -/
structure Shippable (mode : DirectoryMode) (request : ConfigImportRequest) (accepted : List Text)
    (path : Text) : Prop where
  included : ∃ root ∈ accepted, Within path root
  notDenied : ∀ root ∈ deniedConfigImportPaths, ¬Within path root
  notExcluded : ∀ root ∈ request.exclude, ¬Within path root
  notHistory : request.includeResumeHistory = false → ∀ root ∈ resumeHistoryPaths,
    ¬Within path root
  notManaged : mode ≠ .legacy → ¬Within path skillsDirectory
  components : ∀ part ∈ Text.split path, part ≠ [] ∧ part ≠ ['.'] ∧ part ≠ ['.', '.']

/-- No selected path that has files leads into a denied or an excluded path. -/
structure ConfigImportRequest.Heeded (request : ConfigImportRequest) : Prop where
  denied : ∀ root ∈ request.paths, ∀ file ∈ request.files,
    Within (normalizeConfigPath file.path) root →
      ∀ d ∈ deniedConfigImportPaths, ¬Below '/' (normalizeConfigPath root) d
  outside : ∀ root ∈ request.paths, ∀ file ∈ request.files,
    Within (normalizeConfigPath file.path) root →
      ∀ e ∈ request.exclude, ¬Within (normalizeConfigPath root) e
  inside : ∀ root ∈ request.paths, ∀ file ∈ request.files,
    Within (normalizeConfigPath file.path) root →
      ∀ e ∈ request.exclude, Below '/' (normalizeConfigPath e) (normalizeConfigPath root) →
        ¬Within (normalizeConfigPath file.path) e

/-! ### Paths -/

section

variable {path root : Text} {exclude : List Text} {history : Bool}

lemma withinRoot_iff : withinRoot path root = true ↔ AtOrBelow '/' path root := by
  rw [atOrBelow_iff]
  simp [withinRoot, Below]

/-- A path lies at or below itself without its trailing slashes. -/
lemma atOrBelow_normalize (path : Text) : AtOrBelow '/' path (normalizeConfigPath path) :=
  atOrBelow_rdropWhile fun c hc => by simpa using hc

lemma within_of_atOrBelow (h : AtOrBelow '/' path root) : Within path root :=
  h.trans (atOrBelow_normalize root)

lemma within_iff (h : normalizeConfigPath root = root) : Within path root ↔ AtOrBelow '/' path root := by
  unfold Within
  rw [h]

/-- The listed paths do not end in a slash. A denied path lies below no path that is accepted,
starts like none that needs a review, and has one component more than the configuration. -/
lemma listed_paths :
    (∀ d ∈ deniedConfigImportPaths, normalizeConfigPath d = d ∧
      (∀ r ∈ defaultConfigImportPaths ++ resumeHistoryPaths, ¬Below '/' d r) ∧
      (∀ start ∈ askConfigImportPrefixes, ¬start <+: d) ∧ '/' ∉ d.drop configRoot.length) ∧
    (∀ d ∈ resumeHistoryPaths, normalizeConfigPath d = d) ∧
    normalizeConfigPath skillsDirectory = skillsDirectory := by
  unfold deniedConfigImportPaths defaultConfigImportPaths resumeHistoryPaths
    askConfigImportPrefixes configRoot skillsDirectory
  -- the kernel reads a literal as the list of its characters, but is slow to decode its bytes
  repeat rw [String.toList_ofList]
  decide +kernel

lemma normalize_denied {d : Text} (hd : d ∈ deniedConfigImportPaths) : normalizeConfigPath d = d :=
  (listed_paths.1 d hd).1

lemma skillsDirectory_ne_nil : skillsDirectory ≠ [] := by decide +kernel

/-- A path that is accepted is none of the denied ones. -/
lemma accepted_notDenied (h : (classifyPath exclude history path).1 = true) :
    normalizeConfigPath path ∉ deniedConfigImportPaths := by
  unfold classifyPath at h
  dsimp only at h
  split_ifs at h with _ hdenied
  all_goals exact hdenied

/-- A path that is accepted has no denied path below it. -/
lemma accepted_above (h : (classifyPath exclude history path).1 = true) {d : Text}
    (hd : d ∈ deniedConfigImportPaths) : ¬Below '/' d (normalizeConfigPath path) := by
  intro hbelow
  obtain ⟨-, hlists, hprefixes, hcomponent⟩ := listed_paths.1 d hd
  unfold classifyPath at h
  dsimp only at h
  split_ifs at h with _ _ _ hlisted hask hmarkdown
  · exact hlists _ (List.mem_append.mpr hlisted) hbelow
  · obtain ⟨start, hstart, hle⟩ := List.any_eq_true.mp hask
    exact hprefixes start hstart ((of_decide_eq_true hle).trans hbelow.isPrefix)
  · -- a custom file has one component more than the denied paths
    obtain ⟨x, hx⟩ := hmarkdown.2
    obtain ⟨u, hu⟩ := hbelow
    refine hcomponent ?_
    rw [← hu, ← hx, List.append_assoc, List.append_assoc, List.drop_left]
    simp

/-! ### The managed directory -/

lemma replaceHome_cons {c : Char} (h : c ≠ '$') (s : Text) :
    replaceHome (c :: s) = c :: replaceHome s := by
  rw [replaceHome]
  intro rest heq _
  exact absurd heq h

lemma replaceHome_append {s : Text} (h : '$' ∉ root) :
    replaceHome (root ++ s) = root ++ replaceHome s := by
  induction root with
  | nil => rfl
  | cons c root ih =>
    simp only [List.mem_cons, not_or] at h
    rw [List.cons_append, replaceHome_cons (Ne.symm h.1), ih h.2, List.cons_append]

/-- The alias of the home directory does not lead out of a directory. -/
lemma atOrBelow_replaceHome (hroot : '$' ∉ root) (h : AtOrBelow '/' path root) :
    AtOrBelow '/' (replaceHome path) root := by
  rw [atOrBelow_iff] at h ⊢
  rcases h with rfl | ⟨t, rfl⟩
  · left
    simpa [replaceHome] using replaceHome_append (s := []) hroot
  · right
    have hslash : '$' ∉ root ++ ['/'] := by simp [hroot]
    rw [replaceHome_append hslash]
    exact List.prefix_append _ _

lemma strip_of_isPrefix {c : Char} (hc : isSpace c = false) (h : [c] <+: path) :
    path.dropWhile isSpace = path := by
  obtain ⟨t, rfl⟩ := h
  simp [hc]

lemma checkPaths_eq_ok {mode : DirectoryMode} {paths : List Text}
    (h : checkPaths mode paths = .ok ()) (hmode : mode ≠ .legacy) (hpath : path ∈ paths) :
    ¬AtOrBelow '/' (normalizeConfigPath path) skillsDirectory := by
  intro hwithin
  unfold checkPaths at h
  rw [reject_eq_ok] at h
  refine h ⟨hmode, List.any_eq_true.mpr ⟨path, hpath, ?_⟩⟩
  have hroot : '$' ∉ skillsDirectory := by decide +kernel
  have hfirst : ['~'] <+: skillsDirectory := by decide +kernel
  have hraw : AtOrBelow '/' path skillsDirectory := (atOrBelow_normalize path).trans hwithin
  have hstrip : AtOrBelow '/' (strip path) skillsDirectory := by
    unfold strip
    rw [strip_of_isPrefix (by decide +kernel) (hfirst.trans hraw.isPrefix)]
    exact hraw.rdropWhile skillsDirectory_ne_nil (by decide +kernel)
  have hreplaced := atOrBelow_replaceHome hroot hstrip
  exact withinRoot_iff.mpr (hreplaced.rdropWhile skillsDirectory_ne_nil (by decide +kernel))

end

/-! ### Files -/

/-- What the checks of a file establish. -/
structure FileChecked (acceptedRoots : List Text) (history : Bool) (path : Text) : Prop where
  included : ∃ root ∈ acceptedRoots, AtOrBelow '/' path root
  components : ∀ part ∈ Text.split path, part ≠ [] ∧ part ≠ ['.'] ∧ part ≠ ['.', '.']
  notHistory : history = false → ∀ root ∈ resumeHistoryPaths, ¬AtOrBelow '/' path root

section

variable {path : Text} {roots : List Text} {history : Bool} {file accepted : ConfigImportFile}
  {files rows : List ConfigImportFile} {total total' : ℕ}

/-- A path below the configuration has no component that a file system would skip. -/
lemma isSafeConfigFilePath_components (h : isSafeConfigFilePath path = true) :
    ∀ part ∈ Text.split path, part ≠ [] ∧ part ≠ ['.'] ∧ part ≠ ['.', '.'] := by
  unfold isSafeConfigFilePath at h
  obtain ⟨⟨rest, hrest⟩, -, -, hparts⟩ := of_decide_eq_true h
  have hroot : configRoot = ['~'] ++ '/' :: (".claude".toList ++ ['/']) := by decide +kernel
  have hpath : configRoot ++ rest = ['~'] ++ '/' :: (".claude".toList ++ '/' :: rest) := by
    rw [hroot]
    simp
  have hsplit : Text.split path = Text.split ['~'] ++ (Text.split ".claude".toList ++
      Text.split rest) := by
    rw [← hrest, hpath, Text.split_append_slash, Text.split_append_slash]
  rw [← hrest, List.drop_left] at hparts
  rw [hsplit]
  have hhome : ∀ part ∈ Text.split ['~'] ++ Text.split ".claude".toList,
      part ≠ [] ∧ part ≠ ['.'] ∧ part ≠ ['.', '.'] := by decide +kernel
  intro part hpart
  rw [← List.append_assoc] at hpart
  rcases List.mem_append.mp hpart with hpart | hpart
  · exact hhome part hpart
  · exact hparts part hpart

lemma validateConfigImportFile_eq_ok
    (h : validateConfigImportFile roots history total file = .ok (accepted, total')) :
    accepted.path = normalizeConfigPath file.path ∧ FileChecked roots history accepted.path := by
  unfold validateConfigImportFile at h
  dsimp only at h
  simp only [reject_bind_eq_ok] at h
  obtain ⟨hallowed, hhistory, h⟩ := h
  obtain ⟨content, -, h⟩ := bind_eq_ok.mp h
  simp only [reject_bind_eq_ok] at h
  obtain ⟨rfl, -⟩ := Prod.mk.inj (Except.ok.inj h.2.2)
  rw [Bool.not_eq_false] at hallowed
  obtain ⟨hsafe, -, hroots⟩ := of_decide_eq_true hallowed
  obtain ⟨root, hroot, hwithin⟩ := List.any_eq_true.mp hroots
  refine ⟨rfl, ⟨root, hroot, withinRoot_iff.mp hwithin⟩, isSafeConfigFilePath_components hsafe, ?_⟩
  intro hfalse root hroot hwithin
  exact hhistory ⟨hfalse, List.any_eq_true.mpr ⟨root, hroot, withinRoot_iff.mpr hwithin⟩⟩

/-- The files that pass are those of the request, each checked. -/
lemma validateEachFile_eq_ok (h : validateEachFile roots history total files = .ok rows) :
    List.Forall₂ (fun file row => row.path = normalizeConfigPath file.path ∧
      FileChecked roots history row.path) files rows := by
  induction files generalizing total rows with
  | nil =>
    obtain rfl := Except.ok.inj h
    exact .nil
  | cons file files ih =>
    obtain ⟨⟨row, total'⟩, hrow, h⟩ := bind_eq_ok.mp h
    obtain ⟨rest, hrest, h⟩ := bind_eq_ok.mp h
    obtain rfl := Except.ok.inj h
    exact .cons (validateConfigImportFile_eq_ok hrow) (ih hrest)

/-- The files that passed are those that were to be checked. -/
lemma paths_of_checked (h : List.Forall₂ (fun file row : ConfigImportFile =>
    row.path = normalizeConfigPath file.path ∧ FileChecked roots history row.path) files rows) :
    rows.map ConfigImportFile.path = files.map fun file => normalizeConfigPath file.path := by
  induction h with
  | nil => rfl
  | cons hrow _ ih => rw [List.map_cons, List.map_cons, hrow.1, ih]

lemma checked_of_mem (h : List.Forall₂ (fun file row : ConfigImportFile =>
    row.path = normalizeConfigPath file.path ∧ FileChecked roots history row.path) files rows)
    (hfile : file ∈ files) : FileChecked roots history (normalizeConfigPath file.path) := by
  induction h with
  | nil => cases hfile
  | cons hrow _ ih =>
    rcases List.mem_cons.mp hfile with rfl | hfile
    · exact hrow.1 ▸ hrow.2
    · exact ih hfile

lemma validateConfigImportFiles_eq_ok (h : validateConfigImportFiles files roots history = .ok rows) :
    List.Forall₂ (fun file row => row.path = normalizeConfigPath file.path ∧
      FileChecked roots history row.path) files rows := by
  unfold validateConfigImportFiles at h
  obtain ⟨checked, hchecked, h⟩ := bind_eq_ok.mp h
  rw [reject_bind_eq_ok] at h
  obtain rfl := Except.ok.inj h.2
  exact validateEachFile_eq_ok hchecked

end

/-! ### Plans -/

section

variable {uuid : UuidText} {ctx : ImportContext} {request : ConfigImportRequest}
  {plan : ConfigImportPlan} {task : ConfigImportTask} {path root : Text}

lemma startConfigImport_files {accepted : List Text}
    (h : startConfigImport uuid ctx request accepted = .ok task) :
    validateConfigImportFiles request.files accepted request.includeResumeHistory =
      .ok task.files := by
  unfold startConfigImport at h
  rw [reject_bind_eq_ok] at h
  obtain ⟨-, h⟩ := h
  split at h
  · cases h
  · obtain ⟨files, hfiles, h⟩ := bind_eq_ok.mp h
    obtain rfl := Except.ok.inj h
    exact hfiles

/-- What a plan with a task establishes. -/
structure Planned (ctx : ImportContext) (request : ConfigImportRequest) (plan : ConfigImportPlan)
    (task : ConfigImportTask) : Prop where
  paths : plan.paths =
    classifyConfigImportPaths request.paths request.exclude request.includeResumeHistory
  directory : ctx.mode ≠ .legacy → ∀ file ∈ request.files,
    ¬AtOrBelow '/' (normalizeConfigPath file.path) skillsDirectory
  files : List.Forall₂ (fun file row => row.path = normalizeConfigPath file.path ∧
    FileChecked plan.paths.accepted request.includeResumeHistory row.path)
      request.files task.files

lemma planConfigImport_eq_ok (h : planConfigImport uuid ctx request = .ok plan)
    (htask : plan.task = some task) : Planned ctx request plan task := by
  unfold planConfigImport at h
  simp only [reject_bind_eq_ok] at h
  obtain ⟨-, -, h⟩ := h
  obtain ⟨_, hcheck, h⟩ := bind_eq_ok.mp h
  split_ifs at h
  · obtain rfl := Except.ok.inj h
    cases htask
  · obtain ⟨started, hstart, h⟩ := bind_eq_ok.mp h
    obtain rfl := Except.ok.inj h
    obtain rfl := Option.some.inj htask
    refine ⟨rfl, fun hmode file hfile => ?_,
      validateConfigImportFiles_eq_ok (startConfigImport_files hstart)⟩
    exact checkPaths_eq_ok hcheck hmode
      (List.mem_append_right _ (List.mem_map_of_mem hfile))

/-- The shipped files are those of the request. -/
lemma Planned.shipped (h : Planned ctx request plan task) {P : Text → Prop} :
    (∀ row ∈ task.files, P row.path) ↔
      ∀ file ∈ request.files, P (normalizeConfigPath file.path) := by
  have hpaths := paths_of_checked h.files
  rw [← List.forall_mem_map (f := ConfigImportFile.path), hpaths, List.forall_mem_map]

lemma Planned.checked (h : Planned ctx request plan task) {file : ConfigImportFile}
    (hfile : file ∈ request.files) :
    FileChecked plan.paths.accepted request.includeResumeHistory
      (normalizeConfigPath file.path) := checked_of_mem h.files hfile

/-- The accepted paths are selected ones. -/
lemma Planned.accepted (h : Planned ctx request plan task) (hroot : root ∈ plan.paths.accepted) :
    root ∈ request.paths ∧
      (classifyPath request.exclude request.includeResumeHistory root).1 = true := by
  rw [h.paths] at hroot
  exact List.mem_filter.mp hroot

/-- A file lies under a denied path only when its selected path leads there. -/
lemma Planned.notDenied (h : Planned ctx request plan task) (hheeded : request.Heeded)
    {file : ConfigImportFile} (hfile : file ∈ request.files) {d : Text}
    (hd : d ∈ deniedConfigImportPaths) : ¬Within (normalizeConfigPath file.path) d := by
  intro hwithin
  rw [within_iff (normalize_denied hd)] at hwithin
  obtain ⟨root, hroot, hincluded⟩ := (h.checked hfile).included
  have hin := within_of_atOrBelow hincluded
  obtain ⟨hpath, haccepted⟩ := h.accepted hroot
  rcases hin.comparable hwithin with hle | hbelow
  · rcases atOrBelow_iff.mp hle with heq | hbelow
    · exact accepted_notDenied haccepted (heq ▸ hd)
    · exact hheeded.denied root hpath file hfile hin d hd hbelow
  · exact accepted_above haccepted hd hbelow

/-- So does a file under an excluded path, unless that lies within the selected one. -/
lemma Planned.notExcluded (h : Planned ctx request plan task) (hheeded : request.Heeded)
    {file : ConfigImportFile} (hfile : file ∈ request.files) {e : Text}
    (he : e ∈ request.exclude) : ¬Within (normalizeConfigPath file.path) e := by
  intro hwithin
  obtain ⟨root, hroot, hincluded⟩ := (h.checked hfile).included
  have hin := within_of_atOrBelow hincluded
  have hpath := (h.accepted hroot).1
  rcases hin.comparable hwithin with hle | hbelow
  · exact hheeded.outside root hpath file hfile hin e he hle
  · exact hheeded.inside root hpath file hfile hin e he hbelow hwithin

/-- Every shipped file may be shipped exactly when no selected path leads into a denied or an
excluded one. -/
theorem planConfigImport_ships (h : planConfigImport uuid ctx request = .ok plan)
    (htask : plan.task = some task) :
    (∀ row ∈ task.files, Shippable ctx.mode request plan.paths.accepted row.path) ↔
      request.Heeded := by
  have hplan := planConfigImport_eq_ok h htask
  rw [hplan.shipped (P := Shippable ctx.mode request plan.paths.accepted)]
  constructor
  · intro hships
    refine ⟨fun root _ file hfile hin d hd hbelow => ?_, fun root _ file hfile hin e he hle => ?_,
      fun root _ file hfile _ e he _ hwithin => (hships file hfile).notExcluded e he hwithin⟩
    · refine (hships file hfile).notDenied d hd ?_
      rw [within_iff (normalize_denied hd)]
      exact (hin.trans_below hbelow).atOrBelow
    · exact (hships file hfile).notExcluded e he (hin.trans hle)
  · intro hheeded file hfile
    have hchecked := hplan.checked hfile
    obtain ⟨root, hroot, hincluded⟩ := hchecked.included
    exact {
      included := ⟨root, hroot, within_of_atOrBelow hincluded⟩
      notDenied := fun d hd => hplan.notDenied hheeded hfile hd
      notExcluded := fun e he => hplan.notExcluded hheeded hfile he
      notHistory := fun hfalse r hr => by
        rw [within_iff (listed_paths.2.1 r hr)]
        exact hchecked.notHistory hfalse r hr
      notManaged := fun hmode => by
        rw [within_iff listed_paths.2.2]
        exact hplan.directory hmode file hfile
      components := hchecked.components }

end

/-! ### Plans that go wrong -/

def sampleUuid : UuidText := ⟨fun id => List.replicate id '0', fun s => some s.length, UuidText.unary⟩

def sampleContext : ImportContext where
  account := ⟨1, 2, "claude".toList, none, .active, none⟩
  migrationSettled := true
  directory := none
  profileRemotePath := some "/srv/account".toList
  node := some ⟨3, "docker_sandbox".toList⟩
  taskKey := 4

/-- One file below one selected path. -/
def sampleImport (root path : Text) : ConfigImportRequest where
  toolType := "claude".toList
  paths := [root]
  exclude := []
  files := [⟨path, "YQ==".toList, 384⟩]
  includeResumeHistory := false
  dryRun := false

def sampleTask (path : Text) : ConfigImportTask where
  nodeId := 3
  taskId := "import_tool_account_config:0:0000".toList
  toolAccountId := 1
  toolType := "claude".toList
  userId := 2
  accountRemotePath := "/srv/account".toList
  runtimeBackend := "docker_sandbox".toList
  includeResumeHistory := false
  files := [⟨path, "YQ==".toList, 384⟩]

/-- The plans for a file in a denied directory and for one in an accepted directory. -/
lemma sample_plans :
    planConfigImport sampleUuid sampleContext
        (sampleImport "~/.claude/cache/notes.md".toList "~/.claude/cache/notes.md".toList) =
          .ok ⟨⟨["~/.claude/cache/notes.md".toList], [],
            [("~/.claude/cache/notes.md is a custom Markdown file and requires " ++
              "user review.").toList]⟩,
            some (sampleTask "~/.claude/cache/notes.md".toList), false⟩ ∧
      planConfigImport sampleUuid sampleContext
        (sampleImport "~/.claude/agents".toList "~/.claude/agents/review.md".toList) =
          .ok ⟨⟨["~/.claude/agents".toList], [], []⟩,
            some (sampleTask "~/.claude/agents/review.md".toList), false⟩ := by
  simp only [← toOption_eq_some]
  unfold planConfigImport checkPaths classifyConfigImportPaths classifyPath startConfigImport
    validateConfigImportFiles sampleImport sampleTask sampleContext
  simp only [validateEachFile]
  unfold validateConfigImportFile configFileAllowed isSafeConfigFilePath encodeFiles
    deniedConfigImportPaths defaultConfigImportPaths resumeHistoryPaths askConfigImportPrefixes
    configRoot skillsDirectory
  repeat rw [String.toList_ofList]
  decide +kernel

/-- A Markdown file in a denied directory is shipped once it is selected itself. -/
theorem planConfigImport_ships_denied : ¬∀ uuid ctx request plan task,
    planConfigImport uuid ctx request = .ok plan → plan.task = some task →
      ∀ row ∈ task.files, Shippable ctx.mode request plan.paths.accepted row.path := by
  intro hships
  have hrow := hships _ _ _ _ _ sample_plans.1 rfl _ List.mem_cons_self
  refine hrow.notDenied "~/.claude/cache".toList (by decide +kernel) ?_
  unfold Within
  decide +kernel

/-- A file below a selected directory. -/
theorem planConfigImport_ships_agents :
    (∀ row ∈ (sampleTask "~/.claude/agents/review.md".toList).files,
      Shippable .legacy (sampleImport "~/.claude/agents".toList "~/.claude/agents/review.md".toList)
        ["~/.claude/agents".toList] row.path) ↔
      (sampleImport "~/.claude/agents".toList "~/.claude/agents/review.md".toList).Heeded := by
  exact planConfigImport_ships sample_plans.2 rfl

end AgentRemote.ConfigImports
