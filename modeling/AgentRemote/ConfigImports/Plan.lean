import AgentRemote.Library.Below
import AgentRemote.Library.Outcome
import AgentRemote.Runtimes.Guards
import Mathlib.Data.List.DropRight

/-!
# The plan of a configuration import

A user selects paths of their configuration and sends the files below them. The server decides
which selected paths it accepts, checks each file against these and hands the files to a node
as one task. The account, its directory and the node that was chosen are inputs here.
-/

namespace AgentRemote.ConfigImports
open Library Runtimes

/-! ### Paths -/

def defaultConfigImportPaths : List Text :=
  ["~/.claude/settings.json".toList, "~/.claude/CLAUDE.md".toList, "~/.claude/agents".toList,
    "~/.claude/skills".toList]

def askConfigImportPrefixes : List Text :=
  ["~/.claude/plugins".toList, "~/.claude/hooks".toList, "~/.claude/rules".toList]

def resumeHistoryPaths : List Text :=
  ["~/.claude/projects".toList, "~/.claude/sessions".toList, "~/.claude/history.jsonl".toList,
    "~/.claude/file-history".toList, "~/.claude/plans".toList, "~/.claude/tasks".toList,
    "~/.claude/session-env".toList]

def deniedConfigImportPaths : List Text :=
  ["~/.claude.json".toList, "~/.claude/cache".toList, "~/.claude/logs".toList,
    "~/.claude/transcripts".toList, "~/.claude/paste-cache".toList,
    "~/.claude/stats-cache.json".toList, "~/.claude/mcp-needs-auth-cache.json".toList]

def configImportMaxFileBytes : ℕ := 1024 * 1024

def configImportMaxTotalBytes : ℕ := 8 * 1024 * 1024

def configImportMaxEncodedBytes : ℕ := 12 * 1024 * 1024

/-- The directory of the tool under which all configuration lies. -/
def configRoot : Text := "~/.claude/".toList

/-- The directory that skill management owns. -/
def skillsDirectory : Text := "~/.claude/skills".toList

/-- `_normalize_config_path`. -/
def normalizeConfigPath (path : Text) : Text := path.rdropWhile (· = '/')

/-- `str.isspace` of one character. -/
def isSpace (c : Char) : Bool :=
  (9 ≤ c.toNat ∧ c.toNat ≤ 13) ∨ (28 ≤ c.toNat ∧ c.toNat ≤ 32) ∨ c.toNat = 0x85 ∨
    c.toNat = 0xA0 ∨ c.toNat = 0x1680 ∨ (0x2000 ≤ c.toNat ∧ c.toNat ≤ 0x200A) ∨
    c.toNat = 0x2028 ∨ c.toNat = 0x2029 ∨ c.toNat = 0x202F ∨ c.toNat = 0x205F ∨ c.toNat = 0x3000

/-- `str.strip`. -/
def strip (s : Text) : Text := (s.dropWhile isSpace).rdropWhile isSpace

/-- `path.replace("$HOME/", "~/")`. -/
def replaceHome : Text → Text
  | '$' :: 'H' :: 'O' :: 'M' :: 'E' :: '/' :: rest => '~' :: '/' :: replaceHome rest
  | c :: rest => c :: replaceHome rest
  | [] => []

/-- `path == root or path.startswith(f"{root}/")`. -/
def withinRoot (path root : Text) : Bool := path = root ∨ root ++ ['/'] <+: path

/-! ### Failures -/

inductive ConfigImportFailure where
  | apiError (code message : Text) (statusCode : ℕ)
  | valueError

def validationError (message : String) : ConfigImportFailure :=
  .apiError "COMMON_VALIDATION_ERROR".toList message.toList 422

/-- A validation error that names a file. -/
def fileError (message : String) (path : Text) : ConfigImportFailure :=
  .apiError "COMMON_VALIDATION_ERROR".toList (message.toList ++ path) 422

/-! ### The skill directory -/

inductive DirectoryMode where
  | legacy
  | migrating
  | managedV1
  deriving DecidableEq

/-- `_check_paths`. -/
def checkPaths (mode : DirectoryMode) (paths : List Text) : Except ConfigImportFailure Unit :=
  reject (mode ≠ .legacy ∧ paths.any fun path =>
      withinRoot ((replaceHome (strip path)).rdropWhile (· = '/')) skillsDirectory) <|
    .apiError "SKILL_MANAGER_OWNS_PATH".toList
      ("Skill management owns this path; " ++
        "use account import-config --exclude-skills.").toList 409

/-! ### Selected paths -/

/-- Whether `_classify_config_import_paths` accepts a path, and its warning. -/
def classifyPath (exclude : List Text) (includeResumeHistory : Bool) (path : Text) :
    Bool × Option Text :=
  let normalized := normalizeConfigPath path
  if normalized ∈ exclude then (false, none)
  else if normalized ∈ deniedConfigImportPaths then (false, none)
  else if normalized ∈ resumeHistoryPaths ∧ includeResumeHistory = false then
    (false, some "Resume history requires explicit include_resume_history=true.".toList)
  else if normalized ∈ defaultConfigImportPaths ∨ normalized ∈ resumeHistoryPaths then
    (true, none)
  else if askConfigImportPrefixes.any fun start => start <+: normalized then
    (true, some (path ++ " may contain executable code and requires user review.".toList))
  else if ".md".toList <:+ normalized ∧ configRoot <+: normalized then
    (true, some (path ++ " is a custom Markdown file and requires user review.".toList))
  else (false, none)

/-- What became of the selected paths. -/
structure ClassifiedPaths where
  accepted : List Text
  rejected : List Text
  warnings : List Text
  deriving DecidableEq

/-- `_classify_config_import_paths`. -/
def classifyConfigImportPaths (paths exclude : List Text) (includeResumeHistory : Bool) :
    ClassifiedPaths where
  accepted := paths.filter fun path => (classifyPath exclude includeResumeHistory path).1
  rejected := paths.filter fun path => (classifyPath exclude includeResumeHistory path).1 = false
  warnings := paths.filterMap fun path => (classifyPath exclude includeResumeHistory path).2

/-! ### Files -/

structure ConfigImportFile where
  path : Text
  contentBase64 : Text
  mode : ℤ
  deriving DecidableEq

/-- The value of a character in Base64. -/
def sextet (c : Char) : Option ℕ :=
  if 'A' ≤ c ∧ c ≤ 'Z' then some (c.toNat - 65)
  else if 'a' ≤ c ∧ c ≤ 'z' then some (c.toNat - 71)
  else if '0' ≤ c ∧ c ≤ '9' then some (c.toNat + 4)
  else if c = '+' then some 62
  else if c = '/' then some 63
  else none

/-- The bytes of strict Base64, or nothing for a `binascii.Error`. -/
def decodeBase64 : Text → Option (List ℕ)
  | [] => some []
  | a :: b :: c :: d :: rest => do
    let x ← sextet a
    let y ← sextet b
    if c = '=' ∧ d = '=' ∧ rest = [] then some [4 * x + y / 16]
    else
      let z ← sextet c
      if d = '=' ∧ rest = [] then some [4 * x + y / 16, y % 16 * 16 + z / 4]
      else
        let w ← sextet d
        let bytes ← decodeBase64 rest
        some ([4 * x + y / 16, y % 16 * 16 + z / 4, z % 4 * 64 + w] ++ bytes)
  | _ => none

/-- `base64.b64decode(content, validate=True)` of the content of a file. -/
def decodeContent (file : ConfigImportFile) : Except ConfigImportFailure (List ℕ) := do
  reject (file.contentBase64.any fun c => 127 < c.toNat) .valueError
  match decodeBase64 file.contentBase64 with
  | some content => .ok content
  | none => .error (fileError "Config file content is not valid base64: " file.path)

/-- `_is_safe_config_file_path`. -/
def isSafeConfigFilePath (path : Text) : Bool :=
  configRoot <+: path ∧ '\\' ∉ path ∧ '\x00' ∉ path ∧
    ∀ part ∈ Text.split (path.drop configRoot.length),
      part ≠ [] ∧ part ≠ ['.'] ∧ part ≠ ['.', '.']

/-- `_config_file_allowed`. -/
def configFileAllowed (path : Text) (acceptedRoots : List Text) : Bool :=
  isSafeConfigFilePath path ∧ path ∉ deniedConfigImportPaths ∧
    acceptedRoots.any fun root => withinRoot path root

/-- One round of the loop in `_validate_config_import_files`, with the size of the files so
far. -/
def validateConfigImportFile (acceptedRoots : List Text) (includeResumeHistory : Bool)
    (totalSize : ℕ) (file : ConfigImportFile) :
    Except ConfigImportFailure (ConfigImportFile × ℕ) := do
  let path := normalizeConfigPath file.path
  reject (configFileAllowed path acceptedRoots = false) <|
    fileError "Config file path is not allowed: " file.path
  reject (includeResumeHistory = false ∧ resumeHistoryPaths.any fun root => withinRoot path root) <|
    validationError "Resume history requires explicit include_resume_history=true."
  let content ← decodeContent file
  reject (configImportMaxFileBytes < content.length) <|
    fileError "Config file is too large: " file.path
  reject (configImportMaxTotalBytes < totalSize + content.length) <|
    validationError "Config import payload is too large."
  .ok ({ file with path := path }, totalSize + content.length)

/-- The loop in `_validate_config_import_files`. -/
def validateEachFile (acceptedRoots : List Text) (includeResumeHistory : Bool) :
    ℕ → List ConfigImportFile → Except ConfigImportFailure (List ConfigImportFile)
  | _, [] => .ok []
  | totalSize, file :: files => do
    let (accepted, totalSize) ←
      validateConfigImportFile acceptedRoots includeResumeHistory totalSize file
    let rest ← validateEachFile acceptedRoots includeResumeHistory totalSize files
    .ok (accepted :: rest)

/-- A character of the list of files as it is sent. -/
def escapeMarkup (c : Char) : Text :=
  if c = '<' ∨ c = '>' ∨ c = '&' then '\\' :: 'u' :: hex4 c.toNat else [c]

/-- The list of files as it is sent. -/
def encodeFiles (files : List ConfigImportFile) : Text :=
  let encode (file : ConfigImportFile) : Text :=
    "\x7b\"path\":".toList ++ dumpsText file.path ++ ",\"content_base64\":".toList ++
      dumpsText file.contentBase64 ++ ",\"mode\":".toList ++ (toString file.mode).toList ++
      ['\x7d']
  ('[' :: List.intercalate [','] (files.map encode) ++ [']']).flatMap escapeMarkup

/-- `_validate_config_import_files`. -/
def validateConfigImportFiles (files : List ConfigImportFile) (acceptedRoots : List Text)
    (includeResumeHistory : Bool) : Except ConfigImportFailure (List ConfigImportFile) := do
  let acceptedFiles ← validateEachFile acceptedRoots includeResumeHistory 0 files
  reject (configImportMaxEncodedBytes < (encodeFiles acceptedFiles).length) <|
    .apiError "CONFIG_IMPORT_TOO_LARGE".toList
      "Config import file list exceeds the encoded transport limit.".toList 413
  .ok acceptedFiles

/-! ### The plan -/

/-- The request of a user. -/
structure ConfigImportRequest where
  toolType : Text
  paths : List Text
  exclude : List Text
  files : List ConfigImportFile
  includeResumeHistory : Bool
  dryRun : Bool

/-- The node that may carry out the import. -/
structure BindingNode where
  id : Uuid
  defaultRuntimeBackend : Text

/-- What the plan reads beside the request. `node` is nothing when no node can host the account,
and `directory` when it has no directory state. -/
structure ImportContext where
  account : Runtimes.ToolAccount
  migrationSettled : Bool
  directory : Option DirectoryMode
  profileRemotePath : Option Text
  node : Option BindingNode
  taskKey : Uuid

/-- The mode of the account's directory. -/
def ImportContext.mode (ctx : ImportContext) : DirectoryMode := ctx.directory.getD .legacy

/-- The task of an import, with the members of its payload. -/
structure ConfigImportTask where
  nodeId : Uuid
  taskId : Text
  toolAccountId : Uuid
  toolType : Text
  userId : Uuid
  accountRemotePath : Text
  runtimeBackend : Text
  includeResumeHistory : Bool
  files : List ConfigImportFile
  deriving DecidableEq

/-- `ToolAccountConfigImportData`, with the task that was queued. -/
structure ConfigImportPlan where
  paths : ClassifiedPaths
  task : Option ConfigImportTask
  dryRun : Bool
  deriving DecidableEq

section

variable (uuid : UuidText) (ctx : ImportContext) (request : ConfigImportRequest)

/-- `_account_remote_path`. -/
def accountRemotePath (account : Runtimes.ToolAccount) : Text :=
  "/var/lib/agent-remote/users/".toList ++ uuid.str account.userId ++ "/tool-accounts/".toList ++
    account.toolType ++ '/' :: uuid.str account.id

/-- The part of `plan_config_import` that queues the task. -/
def startConfigImport (accepted : List Text) : Except ConfigImportFailure ConfigImportTask := do
  reject (request.files = []) <|
    validationError "Config import files are required when dry_run=false."
  match ctx.node with
  | none => .error (.apiError "NODE_UNAVAILABLE".toList
      "No available node can host this tool account.".toList 409)
  | some node => do
    let files ← validateConfigImportFiles request.files accepted request.includeResumeHistory
    .ok {
      nodeId := node.id
      taskId := "import_tool_account_config:".toList ++ uuid.str ctx.account.id ++
        ':' :: uuid.str ctx.taskKey
      toolAccountId := ctx.account.id
      toolType := ctx.account.toolType
      userId := ctx.account.userId
      accountRemotePath :=
        (ctx.profileRemotePath.filter (· ≠ [])).getD (accountRemotePath uuid ctx.account)
      runtimeBackend := ctx.account.runtimeBackend.getD node.defaultRuntimeBackend
      includeResumeHistory := request.includeResumeHistory
      files := files }

/-- `plan_config_import`. -/
def planConfigImport : Except ConfigImportFailure ConfigImportPlan := do
  reject (ctx.account.toolType ≠ request.toolType) <|
    validationError "Tool type does not match tool account."
  reject (ctx.migrationSettled = false) <| .apiError "RUNTIME_MIGRATION_PENDING".toList
    "Retained backend migration requires recovery before new account writes.".toList 409
  checkPaths ctx.mode (request.paths ++ request.files.map ConfigImportFile.path)
  let paths :=
    classifyConfigImportPaths request.paths request.exclude request.includeResumeHistory
  if request.dryRun then .ok ⟨paths, none, true⟩
  else do
    let task ← startConfigImport uuid ctx request paths.accepted
    .ok ⟨paths, some task, false⟩

end

end AgentRemote.ConfigImports
