import AgentRemote.Library.Provenance
import AgentRemote.NodeExport.Service
import AgentRemote.Prune.Commands

/-!
# Services under one secret

Prune commands and node exports sign under one secret, each in its own domain. A run answers
requests of both in any order, from any caller. What the run rests on is that nobody else can
sign: a fitting signature was made by an earlier request.
-/

namespace AgentRemote.Signed
open Library

/-- Identities have 128 bits. -/
instance uuidRange : NeZero (2 ^ 128) :=
  ⟨by norm_num⟩

/-- What both services are deployed with. -/
structure SecretSettings where
  prune : Prune.PruneSettings
  nodeExport : NodeExport.ExportSettings

/-- A request to one of the services. -/
inductive SecretCall where
  | preview (userId : Text) (world : Prune.PruneSurroundings) (request : Prune.PrunePreviewRequest)
  | execute (userId : Text) (world : Prune.PruneSurroundings) (command : Prune.PruneCommand)
  | authorize (userId tokenId snapshotId : Text) (world : NodeExport.ExportSurroundings)
    (request : NodeExport.NodeExportRequest)
  | verify (nodeId snapshotId : Text) (world : NodeExport.ExportSurroundings)
    (request : NodeExport.NodeExportVerification)
  | renew (nodeId snapshotId : Text) (world : NodeExport.ExportSurroundings)
    (request : NodeExport.NodeExportVerification)

/-- What was answered. A grant stands beside the answer that carries it. -/
inductive SecretAnswer where
  | page (page : Prune.PrunePreviewPage)
  | receipt (receipt : Prune.PruneReceipt)
  | authorization (grant : NodeExport.NodeExportGrant)
    (authorization : NodeExport.NodeExportAuthorization)
  | permission (permission : NodeExport.NodeExportPermission)
  | renewal (grant : NodeExport.NodeExportGrant) (renewal : NodeExport.NodeExportRenewal)
  | failed

/-- A request that was answered. -/
structure ServedCall where
  call : SecretCall
  answer : SecretAnswer

section

variable [Sha256] [HmacSha256] (settings : SecretSettings)

/-- Answers a request. Only a prune that is carried out changes the operations. -/
def serve (operations : List Prune.SkillPruneOperation) :
    SecretCall → List Prune.SkillPruneOperation × SecretAnswer
  | .preview userId world request =>
    match Prune.previewPage settings.prune world userId request with
    | .ok page => (operations, .page page)
    | .error _ => (operations, .failed)
  | .execute userId world command =>
    match Prune.execute settings.prune world userId operations command with
    | .ok (operations, receipt) => (operations, .receipt receipt)
    | .error _ => (operations, .failed)
  | .authorize userId tokenId snapshotId world request =>
    match NodeExport.authorize settings.nodeExport world userId tokenId snapshotId request with
    | .ok (grant, authorization) => (operations, .authorization grant authorization)
    | .error _ => (operations, .failed)
  | .verify nodeId snapshotId world request =>
    match NodeExport.verify settings.nodeExport world nodeId snapshotId request with
    | .ok permission => (operations, .permission permission)
    | .error _ => (operations, .failed)
  | .renew nodeId snapshotId world request =>
    match NodeExport.renew settings.nodeExport world nodeId snapshotId request with
    | .ok (grant, renewal) => (operations, .renewal grant renewal)
    | .error _ => (operations, .failed)

/-- The operations after the requests, and the requests with their answers. Latest first. -/
def secretRun : List SecretCall → List Prune.SkillPruneOperation × List ServedCall
  | [] => ([], [])
  | call :: past =>
    let (operations, served) := secretRun past
    let (operations, answer) := serve settings operations call
    (operations, ⟨call, answer⟩ :: served)

/-- The message whose fitting signature a request shows. -/
def shown (served : ServedCall) : Option (List ℕ) :=
  match served.call with
  | .preview _ _ request =>
    request.cursor.bind (settings.prune.tokens.presented settings.prune.secret)
  | .execute _ _ command =>
    settings.prune.tokens.presented settings.prune.secret command.confirmation
  | .authorize .. => none
  | .verify _ _ _ request | .renew _ _ _ request =>
    settings.nodeExport.tokens.presented settings.nodeExport.secret request.grant

/-- The credential of a page. -/
def credential (page : Prune.PrunePreviewPage) : Option Text :=
  page.nextCursor <|> page.confirmation

/-- The message that an answer signs. -/
def signed (served : ServedCall) : Option (List ℕ) :=
  match served.answer with
  | .page page =>
    (credential page).bind (settings.prune.tokens.presented settings.prune.secret)
  | .authorization _ authorization =>
    settings.nodeExport.tokens.presented settings.nodeExport.secret authorization.grant
  | .renewal _ renewal =>
    settings.nodeExport.tokens.presented settings.nodeExport.secret renewal.grant
  | .receipt _ | .permission _ | .failed => none

/-- Nobody but the server signs: a fitting signature that a request shows was made in answer to
an earlier request. -/
abbrev Unforged (history : List ServedCall) : Prop :=
  Provenanced (shown settings) (signed settings) history

end

/-! ### Answers of a run -/

section

variable [Sha256] [HmacSha256] {settings : SecretSettings}

lemma secretRun_cons (call : SecretCall) (past : List SecretCall) :
    (secretRun settings (call :: past)).2 =
      ⟨call, (serve settings (secretRun settings past).1 call).2⟩ :: (secretRun settings past).2 :=
  rfl

/-- Every answer of a run is the answer to its request, in some state of the operations. -/
lemma secretRun_served {calls : List SecretCall} :
    ∀ e ∈ (secretRun settings calls).2, ∃ operations, (serve settings operations e.call).2 =
      e.answer := by
  induction calls with
  | nil => simp [secretRun]
  | cons call past ih =>
    intro e he
    rcases List.mem_cons.mp he with rfl | he
    · exact ⟨(secretRun settings past).1, rfl⟩
    · exact ih e he

section

variable {call : SecretCall} {operations : List Prune.SkillPruneOperation}

lemma serve_execute {userId : Text} {world : Prune.PruneSurroundings}
    {command : Prune.PruneCommand} {operations' : List Prune.SkillPruneOperation}
    {receipt : Prune.PruneReceipt}
    (h : Prune.execute settings.prune world userId operations command = .ok (operations', receipt)) :
    serve settings operations (.execute userId world command) = (operations', .receipt receipt) := by
  simp only [serve, h]

lemma serve_page {page : Prune.PrunePreviewPage} (h : (serve settings operations call).2 =
    .page page) : ∃ userId world request, call = .preview userId world request ∧
      Prune.previewPage settings.prune world userId request = .ok page := by
  cases call with
  | preview userId world request =>
    simp only [serve] at h
    cases hpage : Prune.previewPage settings.prune world userId request with
    | error e => simp [hpage] at h
    | ok answer =>
      simp only [hpage, SecretAnswer.page.injEq] at h
      exact ⟨userId, world, request, rfl, h ▸ hpage⟩
  | execute userId world command =>
    simp only [serve] at h
    split at h <;> cases h
  | authorize userId tokenId snapshotId world request =>
    simp only [serve] at h
    split at h <;> cases h
  | verify nodeId snapshotId world request =>
    simp only [serve] at h
    split at h <;> cases h
  | renew nodeId snapshotId world request =>
    simp only [serve] at h
    split at h <;> cases h

lemma serve_authorization {grant : NodeExport.NodeExportGrant}
    {authorization : NodeExport.NodeExportAuthorization}
    (h : (serve settings operations call).2 = .authorization grant authorization) :
    ∃ userId tokenId snapshotId world request,
      call = .authorize userId tokenId snapshotId world request ∧
        NodeExport.authorize settings.nodeExport world userId tokenId snapshotId request =
          .ok (grant, authorization) := by
  cases call with
  | authorize userId tokenId snapshotId world request =>
    simp only [serve] at h
    cases hanswer : NodeExport.authorize settings.nodeExport world userId tokenId snapshotId
        request with
    | error e => simp [hanswer] at h
    | ok answer =>
      simp only [hanswer, SecretAnswer.authorization.injEq] at h
      obtain ⟨rfl, rfl⟩ := h
      exact ⟨userId, tokenId, snapshotId, world, request, rfl, hanswer⟩
  | preview userId world request =>
    simp only [serve] at h
    split at h <;> cases h
  | execute userId world command =>
    simp only [serve] at h
    split at h <;> cases h
  | verify nodeId snapshotId world request =>
    simp only [serve] at h
    split at h <;> cases h
  | renew nodeId snapshotId world request =>
    simp only [serve] at h
    split at h <;> cases h

lemma serve_renewal {grant : NodeExport.NodeExportGrant} {renewal : NodeExport.NodeExportRenewal}
    (h : (serve settings operations call).2 = .renewal grant renewal) :
    ∃ nodeId snapshotId world request, call = .renew nodeId snapshotId world request ∧
      NodeExport.renew settings.nodeExport world nodeId snapshotId request =
        .ok (grant, renewal) := by
  cases call with
  | renew nodeId snapshotId world request =>
    simp only [serve] at h
    cases hanswer : NodeExport.renew settings.nodeExport world nodeId snapshotId request with
    | error e => simp [hanswer] at h
    | ok answer =>
      simp only [hanswer, SecretAnswer.renewal.injEq] at h
      obtain ⟨rfl, rfl⟩ := h
      exact ⟨nodeId, snapshotId, world, request, rfl, hanswer⟩
  | preview userId world request =>
    simp only [serve] at h
    split at h <;> cases h
  | execute userId world command =>
    simp only [serve] at h
    split at h <;> cases h
  | authorize userId tokenId snapshotId world request =>
    simp only [serve] at h
    split at h <;> cases h
  | verify nodeId snapshotId world request =>
    simp only [serve] at h
    split at h <;> cases h

end

end

/-! ### Two domains -/

section

variable [HmacSha256] {settings : SecretSettings} {token other : Text} {message : List ℕ}

/-- No message of one service is a message of the other. -/
lemma presented_apart
    (h : settings.prune.tokens.presented settings.prune.secret token = some message) :
    settings.nodeExport.tokens.presented settings.nodeExport.secret other ≠ some message := by
  have hdomains : ¬settings.prune.tokens.domain.toList <+:
        settings.nodeExport.tokens.domain.toList ∧
      ¬settings.nodeExport.tokens.domain.toList <+: settings.prune.tokens.domain.toList := by
    have hprune : settings.prune.tokens.domain = "agent-remote:prune-confirmation:v1\x00" := rfl
    have hexport : settings.nodeExport.tokens.domain =
        "agent-remote:frozen-node-export:v1\x00" := rfl
    rw [hprune, hexport]
    simp [List.cons_prefix_cons]
  intro h'
  obtain ⟨payload, -, rfl⟩ := Option.map_eq_some_iff.mp h
  obtain ⟨payload', -, he⟩ := Option.map_eq_some_iff.mp h'
  exact message_ne hdomains.1 hdomains.2 payload payload' he.symm

end

end AgentRemote.Signed
