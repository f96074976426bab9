import AgentRemote.Signed.System

/-!
# Who may read a frozen snapshot

Every permission to read goes back, through renewals that each replaced a grant while it was
good, to an authorization by the owner of the snapshot for the same token, device and key. At
every step the rows of the day still allowed it, and no grant outlives the user's token.
-/

namespace AgentRemote.NodeExport
open Library Rendering Signed

/-! ### What the checks say -/

section

variable {tables : ExportTables} {userId tokenId deviceId keyId snapshotId : Text} {now : ℤ}

lemma identity_eq_some {token : AuthToken}
    (h : identity tables userId tokenId deviceId keyId now = some token) :
    token.id = tokenId ∧ token.userId = userId ∧ now < token.expiresAt := by
  have hfound := List.find?_some h
  simp only [decide_eq_true_eq] at hfound
  exact ⟨hfound.2.1, hfound.2.2.1, hfound.2.2.2.2.2.2.1⟩

lemma exportBinding_eq_ok {binding : NodeExportBinding}
    (h : exportBinding (snapshotRows tables userId snapshotId) = .ok binding) :
    binding.userId = userId ∧ binding.snapshotId = snapshotId := by
  cases hfind : tables.snapshots.find? fun s => s.userId = userId ∧ s.id = snapshotId with
  | none =>
    simp only [snapshotRows, hfind, Option.bind_eq_bind, Option.bind_none, exportBinding] at h
    cases h
  | some snapshot =>
    have hfound := List.find?_some hfind
    simp only [decide_eq_true_eq] at hfound
    simp only [snapshotRows, hfind, Option.bind_eq_bind, Option.bind_some, Option.pure_def,
      exportBinding] at h
    split at h
    · split_ifs at h with hretired
      obtain rfl := Except.ok.inj h
      exact hfound
    · cases h

end

/-- The rows that let a grant be issued at the time of a request. -/
structure Issued (world : ExportSurroundings) (grant : NodeExportGrant) : Prop where
  issuedAt : grant.issuedAt = timestamp world.later
  short : grant.issuedAt < grant.expiresAt ∧ grant.expiresAt ≤ grant.issuedAt + grantSeconds
  token : ∃ token time, (time = world.now ∨ time = world.later) ∧
    identity world.tables grant.binding.userId grant.tokenId grant.deviceId grant.sshKeyId time =
      some token ∧ grant.expiresAt ≤ timestamp token.expiresAt
  snapshot : exportBinding (snapshotRows world.tables grant.binding.userId
    grant.binding.snapshotId) = .ok grant.binding

/-- The two grants let the same device read the same snapshot on behalf of the same token. -/
structure SameReader (grant other : NodeExportGrant) : Prop where
  grantId : grant.grantId = other.grantId
  tokenId : grant.tokenId = other.tokenId
  deviceId : grant.deviceId = other.deviceId
  sshKeyId : grant.sshKeyId = other.sshKeyId
  binding : grant.binding = other.binding

lemma SameReader.trans {a b c : NodeExportGrant} (h : SameReader a b) (h' : SameReader b c) :
    SameReader a c :=
  ⟨h.grantId.trans h'.grantId, h.tokenId.trans h'.tokenId, h.deviceId.trans h'.deviceId,
    h.sshKeyId.trans h'.sshKeyId, h.binding.trans h'.binding⟩

section

variable [HmacSha256] {settings : ExportSettings} {world : ExportSurroundings}
  {userId tokenId nodeId snapshotId : Text} {grant : NodeExportGrant}

lemma signGrant_eq_ok {token : Text} (h : signGrant settings grant = .ok token) :
    settings.tokens.sign settings.secret grant = some token := by
  unfold signGrant at h
  cases hsign : settings.tokens.sign settings.secret grant with
  | none => simp [hsign] at h
  | some signed =>
    simp only [hsign, Except.ok.injEq] at h
    rw [h]

lemma verifyGrant_eq_ok {value : Text} {now : ℤ} (h : verifyGrant settings value now = .ok grant) :
    settings.tokens.opened settings.secret value = some grant ∧ grant.issuedAt ≤ now ∧
      now < grant.expiresAt := by
  unfold verifyGrant at h
  cases hopened : settings.tokens.opened settings.secret value with
  | none => simp [hopened] at h
  | some found =>
    simp only [hopened] at h
    split_ifs at h with hlife
    obtain rfl := Except.ok.inj h
    exact ⟨rfl, hlife.1, hlife.2.1⟩

lemma authorize_eq_ok {request : NodeExportRequest} {authorization : NodeExportAuthorization}
    (h : authorize settings world userId tokenId snapshotId request = .ok (grant, authorization)) :
    grant.binding.userId = userId ∧ grant.tokenId = tokenId ∧
      grant.binding.snapshotId = snapshotId ∧ grant.deviceId = request.deviceId ∧
      grant.sshKeyId = request.sshKeyId ∧ Issued world grant ∧
      settings.tokens.sign settings.secret grant = some authorization.grant := by
  simp only [authorize, bind_eq_ok, reject_eq_ok] at h
  obtain ⟨-, -, -, -, -, -, h⟩ := h
  cases htoken : identity world.tables userId tokenId request.deviceId request.sshKeyId
      world.later with
  | none => simp [htoken] at h
  | some token =>
    simp only [htoken, bind_eq_ok, reject_eq_ok, pure_eq_ok, Except.ok.injEq,
      Prod.mk.injEq] at h
    obtain ⟨binding, hbinding, ⟨host, port, username⟩, -, task, -, -, hdeadline, signed, hsign, rfl, rfl⟩ := h
    obtain ⟨hid, -, hlive⟩ := identity_eq_some htoken
    obtain ⟨huser, hsnapshot⟩ := exportBinding_eq_ok hbinding
    refine ⟨huser, hid, hsnapshot, rfl, rfl, ⟨rfl, ⟨not_le.mp hdeadline, ?_⟩, ?_, ?_⟩,
      signGrant_eq_ok hsign⟩
    · exact min_le_left _ _
    · refine ⟨token, world.later, .inr rfl, ?_, min_le_right _ _⟩
      simp only [huser, hid]
      exact htoken
    · simp only [huser, hsnapshot]
      exact hbinding

/-- What `_verify` found out. -/
structure Checked (settings : ExportSettings) (world : ExportSurroundings)
    (nodeId snapshotId : Text) (request : NodeExportVerification) (grant : NodeExportGrant)
    (permission : NodeExportPermission) (expiry : ℤ) : Prop where
  opened : settings.tokens.opened settings.secret request.grant = some grant
  live : grant.issuedAt ≤ timestamp world.now ∧ timestamp world.now < grant.expiresAt
  node : grant.binding.nodeId = nodeId
  snapshotId : grant.binding.snapshotId = snapshotId
  device : grant.deviceId = request.deviceId
  sshKey : grant.sshKeyId = request.sshKeyId
  token : ∃ token, identity world.tables grant.binding.userId grant.tokenId grant.deviceId
    grant.sshKeyId world.now = some token ∧ expiry = token.expiresAt
  snapshot : exportBinding (snapshotRows world.tables grant.binding.userId
    grant.binding.snapshotId) = .ok grant.binding
  permits : permission.binding = grant.binding ∧ permission.deviceId = grant.deviceId ∧
    permission.sshKeyId = grant.sshKeyId ∧ permission.expiresAt = grant.expiresAt

lemma checkGrant_eq_ok {request : NodeExportVerification} {permission : NodeExportPermission}
    {expiry : ℤ} (h : checkGrant settings world nodeId snapshotId request =
      .ok (grant, permission, expiry)) :
    Checked settings world nodeId snapshotId request grant permission expiry := by
  simp only [checkGrant, bind_eq_ok, reject_eq_ok] at h
  obtain ⟨-, -, found, hverify, -, hsame, h⟩ := h
  cases htoken : identity world.tables found.binding.userId found.tokenId found.deviceId
      found.sshKeyId world.now with
  | none => simp [htoken] at h
  | some token =>
    simp only [htoken, bind_eq_ok, reject_eq_ok, pure_eq_ok, Except.ok.injEq,
      Prod.mk.injEq] at h
    obtain ⟨binding, hbinding, -, hunchanged, -, -, rfl, rfl, rfl⟩ := h
    push Not at hsame
    obtain rfl := not_not.mp hunchanged
    obtain ⟨hopened, hissued, hlive⟩ := verifyGrant_eq_ok hverify
    exact ⟨hopened, ⟨hissued, hlive⟩, hsame.1, hsame.2.1, hsame.2.2.1, hsame.2.2.2,
      ⟨token, htoken, rfl⟩, hsame.2.1 ▸ hbinding, rfl, rfl, rfl, rfl⟩

lemma verify_eq_ok {request : NodeExportVerification} {permission : NodeExportPermission}
    (h : verify settings world nodeId snapshotId request = .ok permission) :
    ∃ grant expiry, Checked settings world nodeId snapshotId request grant permission expiry := by
  simp only [verify, bind_eq_ok] at h
  obtain ⟨⟨grant, permission', expiry⟩, hcheck, h⟩ := h
  simp only [pure_eq_ok, Except.ok.injEq] at h
  subst h
  exact ⟨grant, expiry, checkGrant_eq_ok hcheck⟩

/-- A renewal replaces a grant that is still good. -/
lemma renew_eq_ok [Sha256] {request : NodeExportVerification} {renewal : NodeExportRenewal}
    (h : renew settings world nodeId snapshotId request = .ok (grant, renewal)) :
    ∃ old, settings.tokens.opened settings.secret request.grant = some old ∧
      SameReader grant old ∧ old.issuedAt ≤ grant.issuedAt ∧ grant.issuedAt < old.expiresAt ∧
      Issued world grant ∧ settings.tokens.sign settings.secret grant = some renewal.grant := by
  simp only [renew, bind_eq_ok] at h
  obtain ⟨⟨old, permission, expiry⟩, hcheck, h⟩ := h
  simp only [reject_eq_ok, pure_eq_ok, Except.ok.injEq, Prod.mk.injEq] at h
  obtain ⟨old', hagain, -, hdeadline, signed, hsign, rfl, rfl⟩ := h
  have hchecked := checkGrant_eq_ok hcheck
  obtain ⟨hopened, hissued, hlive⟩ := verifyGrant_eq_ok hagain
  rw [hchecked.opened] at hopened
  obtain rfl := Option.some.inj hopened
  obtain ⟨token, htoken, rfl⟩ := hchecked.token
  exact ⟨old, hchecked.opened, ⟨rfl, rfl, rfl, rfl, rfl⟩, hissued, hlive,
    ⟨rfl, ⟨not_le.mp hdeadline, min_le_left _ _⟩,
      ⟨token, world.now, .inl rfl, htoken, min_le_right _ _⟩, hchecked.snapshot⟩,
    signGrant_eq_ok hsign⟩

end

/-! ### Grants of a run -/

/-- The grant that an answer carries. -/
def grantOf (served : ServedCall) : Option NodeExportGrant :=
  match served.answer with
  | .authorization grant _ | .renewal grant _ => some grant
  | .page _ | .receipt _ | .permission _ | .failed => none

/-- The grants that were signed can be read back. -/
def GrantsRead [HmacSha256] (settings : SecretSettings) (history : List ServedCall) : Prop :=
  ∀ e ∈ history, ∀ grant, grantOf e = some grant → settings.nodeExport.tokens.ReadsBack grant

/-- Grants, latest first, from the authorization of a request over renewals in time. -/
inductive Renewed (userId tokenId snapshotId : Text) (request : NodeExportRequest) :
    List NodeExportGrant → Prop
  | authorized {world : ExportSurroundings} {grant : NodeExportGrant}
      (huser : grant.binding.userId = userId) (htoken : grant.tokenId = tokenId)
      (hsnapshot : grant.binding.snapshotId = snapshotId)
      (hdevice : grant.deviceId = request.deviceId) (hkey : grant.sshKeyId = request.sshKeyId)
      (hissued : Issued world grant) : Renewed userId tokenId snapshotId request [grant]
  | renewed {world : ExportSurroundings} {grant old : NodeExportGrant}
      {rest : List NodeExportGrant} (hsame : SameReader grant old)
      (hafter : old.issuedAt ≤ grant.issuedAt) (hlive : grant.issuedAt < old.expiresAt)
      (hissued : Issued world grant) (hold : Renewed userId tokenId snapshotId request (old :: rest)) :
      Renewed userId tokenId snapshotId request (grant :: old :: rest)

section

variable [Sha256] [HmacSha256] {settings : SecretSettings} {calls : List SecretCall}
  {token : Text} {grant : NodeExportGrant} {message : List ℕ}

/-- The grant of a token whose message the server signed is one that it issued. -/
lemma exists_grant (hread : GrantsRead settings (secretRun settings calls).2) {e : ServedCall}
    (he : e ∈ (secretRun settings calls).2)
    (hopened : settings.nodeExport.tokens.opened settings.nodeExport.secret token = some grant)
    (hpresented : settings.nodeExport.tokens.presented settings.nodeExport.secret token =
      some message)
    (hsigned : signed settings e = some message) : grantOf e = some grant := by
  have hgrant : ∀ signedGrant text, grantOf e = some signedGrant →
      settings.nodeExport.tokens.sign settings.nodeExport.secret signedGrant = some text →
      settings.nodeExport.tokens.presented settings.nodeExport.secret text = some message →
      grantOf e = some grant := by
    intro signedGrant text hfor hsign hmessage
    rw [TokenScheme.presented, TokenScheme.signedPayload_sign hsign, Option.map_some,
      Option.some_inj] at hmessage
    have hpresented' : settings.nodeExport.tokens.presented settings.nodeExport.secret token =
        some (settings.nodeExport.tokens.messageOf signedGrant) := by
      rw [hpresented, ← hmessage, TokenScheme.messageOf]
    rw [hfor, TokenScheme.opened_of_presented (hread e he signedGrant hfor) hpresented' hopened]
  obtain ⟨operations, hserve⟩ := secretRun_served e he
  obtain ⟨call, answer⟩ := e
  cases answer with
  | page page =>
    obtain ⟨cursor, -, hmessage⟩ := Option.bind_eq_some_iff.mp hsigned
    exact absurd hpresented (presented_apart hmessage)
  | authorization issued authorization =>
    obtain ⟨_, _, _, _, _, rfl, hanswer⟩ := serve_authorization hserve
    obtain ⟨-, -, -, -, -, -, hsign⟩ := authorize_eq_ok hanswer
    exact hgrant issued authorization.grant rfl hsign hsigned
  | renewal issued renewal =>
    obtain ⟨_, _, _, _, rfl, hanswer⟩ := serve_renewal hserve
    obtain ⟨_, -, -, -, -, -, hsign⟩ := renew_eq_ok hanswer
    exact hgrant issued renewal.grant rfl hsign hsigned
  | receipt receipt => cases hsigned
  | permission permission => cases hsigned
  | failed => cases hsigned

/-- The grants of a chain lead back to an authorization of the run. -/
lemma chain_renewed (hread : GrantsRead settings (secretRun settings calls).2)
    {e : ServedCall} {rest : List ServedCall}
    (hchain : Chain (shown settings) (signed settings) (e :: rest))
    (hmem : ∀ x ∈ e :: rest, x ∈ (secretRun settings calls).2) (hgrant : grantOf e = some grant) :
    ∃ userId tokenId snapshotId world request authorization first,
      (⟨.authorize userId tokenId snapshotId world request,
        .authorization first authorization⟩ : ServedCall) ∈ (secretRun settings calls).2 ∧
      Renewed userId tokenId snapshotId request ((e :: rest).filterMap grantOf) ∧
      ((e :: rest).filterMap grantOf).getLast? = some first := by
  induction rest generalizing e grant with
  | nil =>
    obtain ⟨operations, hserve⟩ := secretRun_served e (hmem e List.mem_cons_self)
    obtain ⟨call, answer⟩ := e
    cases answer with
    | authorization issued authorization =>
      obtain ⟨userId, tokenId, snapshotId, world, request, rfl, hanswer⟩ :=
        serve_authorization hserve
      obtain ⟨huser, htoken, hsnapshot, hdevice, hkey, hissued, -⟩ := authorize_eq_ok hanswer
      exact ⟨userId, tokenId, snapshotId, world, request, authorization, issued,
        hmem _ List.mem_cons_self, .authorized huser htoken hsnapshot hdevice hkey hissued, rfl⟩
    | renewal issued renewal =>
      obtain ⟨nodeId, snapshotId, world, request, rfl, hanswer⟩ := serve_renewal hserve
      obtain ⟨old, hopened, -⟩ := renew_eq_ok hanswer
      obtain ⟨payload, hpresented⟩ := TokenScheme.presented_of_opened hopened
      cases hchain with
      | first hnone =>
        have hsome := hnone.symm.trans hpresented
        cases hsome
    | page page => cases hgrant
    | receipt receipt => cases hgrant
    | permission permission => cases hgrant
    | failed => cases hgrant
  | cons e' rest ih =>
    obtain ⟨operations, hserve⟩ := secretRun_served e (hmem e List.mem_cons_self)
    cases hchain with
    | next htakes hgives hrest =>
      obtain ⟨call, answer⟩ := e
      cases answer with
      | authorization issued authorization =>
        obtain ⟨userId, tokenId, snapshotId, world, request, rfl, -⟩ := serve_authorization hserve
        cases htakes
      | renewal issued renewal =>
        obtain ⟨nodeId, snapshotId, world, request, rfl, hanswer⟩ := serve_renewal hserve
        obtain ⟨old, hopened, hsame, hafter, hlive, hissued, -⟩ := renew_eq_ok hanswer
        have he' := hmem e' (List.mem_cons_of_mem _ List.mem_cons_self)
        have hold := exists_grant hread he' hopened htakes hgives
        obtain ⟨userId, tokenId, snapshot, authorizer, asked, authorization, first, hfirst,
          hrenewed, hlast⟩ := ih hrest (fun x hx => hmem x (List.mem_cons_of_mem _ hx)) hold
        refine ⟨userId, tokenId, snapshot, authorizer, asked, authorization, first, hfirst, ?_, ?_⟩
        · change Renewed userId tokenId snapshot asked (issued :: (e' :: rest).filterMap grantOf)
          rw [List.filterMap_cons_some hold] at hrenewed ⊢
          exact .renewed hsame hafter hlive hissued hrenewed
        · change (issued :: (e' :: rest).filterMap grantOf).getLast? = some first
          rw [List.filterMap_cons_some hold] at hlast ⊢
          rw [List.getLast?_cons_cons, hlast]
      | page page => cases hgrant
      | receipt receipt => cases hgrant
      | permission permission => cases hgrant
      | failed => cases hgrant

end

/-! ### Permissions -/

section

variable {userId tokenId snapshotId : Text} {request : NodeExportRequest} {grant : NodeExportGrant}
  {rest : List NodeExportGrant}

/-- Every grant of the line is for the reader that was authorized, and no renewal prolongs it by
more than the life of one grant. -/
lemma Renewed.reader (h : Renewed userId tokenId snapshotId request (grant :: rest)) :
    (grant.binding.userId = userId ∧ grant.tokenId = tokenId ∧
      grant.binding.snapshotId = snapshotId ∧ grant.deviceId = request.deviceId ∧
      grant.sshKeyId = request.sshKeyId) ∧
    ∀ first ∈ (grant :: rest).getLast?, SameReader grant first ∧
      grant.expiresAt ≤ first.issuedAt + grantSeconds * (rest.length + 1) := by
  induction rest generalizing grant with
  | nil =>
    cases h with
    | authorized huser htoken hsnapshot hdevice hkey hissued =>
      refine ⟨⟨huser, htoken, hsnapshot, hdevice, hkey⟩, fun first hfirst => ?_⟩
      obtain rfl : grant = first := by simpa using hfirst
      have hshort := hissued.short.2
      exact ⟨⟨rfl, rfl, rfl, rfl, rfl⟩, by simpa using hshort⟩
  | cons old rest ih =>
    cases h with
    | renewed hsame hafter hlive hissued hold =>
      obtain ⟨⟨huser, htoken, hsnapshot, hdevice, hkey⟩, hfirst⟩ := ih hold
      refine ⟨⟨?_, hsame.tokenId.trans htoken, ?_, hsame.deviceId.trans hdevice,
        hsame.sshKeyId.trans hkey⟩, fun first hlast => ?_⟩
      · rw [hsame.binding, huser]
      · rw [hsame.binding, hsnapshot]
      · rw [List.getLast?_cons_cons] at hlast
        obtain ⟨hreader, hend⟩ := hfirst first hlast
        refine ⟨hsame.trans hreader, ?_⟩
        have hshort := hissued.short.2
        simp only [List.length_cons, grantSeconds] at hend hshort ⊢
        push_cast
        omega

end

/-- A permission to read a frozen snapshot goes back to the user of the snapshot. When a node is
told that a device may read, that user had authorized this device and key to read this snapshot,
the grant that is shown is the last of the renewals since then, each made while the grant before
it was good and for the life of one grant at most, and both the token and the snapshot still
stand. -/
theorem permission_rests_on_authorization [Sha256] [HmacSha256] (settings : SecretSettings)
    (calls : List SecretCall) (nodeId snapshotId : Text) (world : ExportSurroundings)
    (request : NodeExportVerification) (permission : NodeExportPermission)
    (hunforged : Unforged settings
      (secretRun settings (.verify nodeId snapshotId world request :: calls)).2)
    (hread : GrantsRead settings (secretRun settings calls).2)
    (h : verify settings.nodeExport world nodeId snapshotId request = .ok permission) :
    ∃ grant rest tokenId authorizer authorization first,
      (⟨.authorize permission.binding.userId tokenId snapshotId authorizer
          ⟨request.deviceId, request.sshKeyId⟩, .authorization first authorization⟩ :
          ServedCall) ∈ (secretRun settings calls).2 ∧
      (grant :: rest).Sublist ((secretRun settings calls).2.filterMap grantOf) ∧
      Renewed permission.binding.userId tokenId snapshotId ⟨request.deviceId, request.sshKeyId⟩
        (grant :: rest) ∧
      (grant :: rest).getLast? = some first ∧
      permission.expiresAt ≤ first.issuedAt + grantSeconds * (rest.length + 1) ∧
      permission.binding = grant.binding ∧ grant.binding.nodeId = nodeId ∧
      grant.issuedAt ≤ timestamp world.now ∧ timestamp world.now < permission.expiresAt ∧
      permission.expiresAt = grant.expiresAt ∧
      (∃ token, identity world.tables permission.binding.userId tokenId request.deviceId
        request.sshKeyId world.now = some token) ∧
      exportBinding (snapshotRows world.tables permission.binding.userId snapshotId) =
        .ok permission.binding := by
  obtain ⟨grant, expiry, hchecked⟩ := verify_eq_ok h
  obtain ⟨hbinding, -, -, hexpires⟩ := hchecked.permits
  obtain ⟨payload, hpresented⟩ := TokenScheme.presented_of_opened hchecked.opened
  have hshown : ∀ answer, shown settings ⟨.verify nodeId snapshotId world request, answer⟩ =
      some (settings.nodeExport.tokens.message payload) := fun _ => hpresented
  rw [Unforged, secretRun_cons] at hunforged
  obtain ⟨rest, hchain, hrest⟩ := exists_chain hunforged (List.nil_append _).symm
  cases hchain with
  | first hnone =>
    rw [hshown] at hnone
    cases hnone
  | @next _ e rest _ htakes hgives hrest' =>
    rw [hshown] at htakes
    obtain rfl := Option.some.inj htakes
    have hmem : ∀ x ∈ e :: rest, x ∈ (secretRun settings calls).2 := fun x hx => hrest.subset hx
    have hgrant := exists_grant hread (hmem e List.mem_cons_self) hchecked.opened hpresented hgives
    obtain ⟨userId, tokenId, snapshot, authorizer, asked, authorization, first, hfirst, hrenewed,
      hlast⟩ := chain_renewed hread hrest' hmem hgrant
    have hgrants := hrest.filterMap grantOf
    rw [List.filterMap_cons_some hgrant] at hrenewed hgrants hlast
    obtain ⟨⟨rfl, rfl, rfl, hdevice, hkey⟩, hend⟩ := hrenewed.reader
    obtain ⟨token, htoken, -⟩ := hchecked.token
    have hasked : asked = ⟨request.deviceId, request.sshKeyId⟩ := by
      obtain ⟨device, key⟩ := asked
      simp only at hdevice hkey
      rw [← hdevice, ← hkey, hchecked.device, hchecked.sshKey]
    subst hasked
    rw [hbinding, ← hchecked.snapshotId, ← hchecked.device, ← hchecked.sshKey, hexpires]
    rw [← hchecked.device, ← hchecked.sshKey] at hfirst hrenewed
    exact ⟨grant, _, _, authorizer, authorization, first, hfirst, hgrants, hrenewed, hlast,
      (hend first hlast).2, rfl, hchecked.node, hchecked.live.1, hchecked.live.2, rfl,
      ⟨token, htoken⟩, hchecked.snapshot⟩

/-! ### A run of one authorization -/

def sampleGrantId : Text := uuidText 1

def sampleTokenId : Text := uuidText 2

def sampleDevice : Text := uuidText 3

def sampleKey : Text := uuidText 4

def sampleSnapshot : Text := uuidText 5

def sampleSession : Text := uuidText 6

def sampleUser : Text := uuidText 7

def sampleAccount : Text := uuidText 8

def sampleNode : Text := uuidText 9

def sampleTask : Text := uuidText 10

def sampleBinding : NodeExportBinding where
  snapshotId := sampleSnapshot
  sessionId := sampleSession
  userId := sampleUser
  accountId := sampleAccount
  nodeId := sampleNode
  taskId := sampleTask
  libraryGeneration := 0
  directoryEpoch := 1
  initialTreeDigest := List.replicate 64 'd'

def sampleGrant : NodeExportGrant where
  grantId := sampleGrantId
  tokenId := sampleTokenId
  deviceId := sampleDevice
  sshKeyId := sampleKey
  binding := sampleBinding
  issuedAt := 1767225600
  expiresAt := 1767226500

/-- A user with one token, one device and one snapshot. -/
def sampleTables : ExportTables where
  activeUsers := [sampleUser]
  tokens := [⟨sampleTokenId, sampleUser, true, true, false, 1767312000000000⟩]
  devices := [⟨sampleDevice, sampleUser, true⟩]
  sshKeys := [⟨sampleKey, sampleDevice, true, false⟩]
  snapshots := [⟨sampleSnapshot, sampleSession, sampleUser, sampleAccount, sampleNode, true,
    some sampleTask, false, 0, 1, sampleBinding.initialTreeDigest⟩]
  terminations := []
  finalizations := []
  nodes := [⟨sampleNode, true, some "10.0.0.1".toList, none, none, none⟩]
  storageUsers := [sampleUser]

/-- The start of the year 2026. -/
def sampleWorld : ExportSurroundings where
  tables := sampleTables
  now := 1767225600000000
  later := 1767225600000000
  grantId := sampleGrantId
  synchronizeKey _ _ _ := .ok "task".toList

/-- The JSON of the grant. -/
def sampleJson : String :=
  "\x7b\"version\":1,\"grant_id\":\"00000000-0000-0000-0000-000000000001\",\"to" ++
  "ken_id\":\"00000000-0000-0000-0000-000000000002\",\"device_id\":\"000000" ++
  "00-0000-0000-0000-000000000003\",\"ssh_key_id\":\"00000000-0000-0000-0" ++
  "000-000000000004\",\"binding\":\x7b\"snapshot_id\":\"00000000-0000-0000-000" ++
  "0-000000000005\",\"session_id\":\"00000000-0000-0000-0000-000000000006" ++
  "\",\"user_id\":\"00000000-0000-0000-0000-000000000007\",\"account_id\":\"0" ++
  "0000000-0000-0000-0000-000000000008\",\"node_id\":\"00000000-0000-0000" ++
  "-0000-000000000009\",\"task_id\":\"00000000-0000-0000-0000-00000000000" ++
  "a\",\"library_generation\":0,\"directory_epoch\":1,\"initial_tree_digest" ++
  "\":\"ddddddddddddddddddddddddddddddddddddddddddddddddddddddddddddddd" ++
  "d\"\x7d,\"issued_at\":1767225600,\"expires_at\":1767226500\x7d"

def sampleRequest : NodeExportRequest := ⟨sampleDevice, sampleKey⟩

def sampleCall : SecretCall :=
  .authorize sampleUser sampleTokenId sampleSnapshot sampleWorld sampleRequest

lemma sample_identity : identity sampleTables sampleUser sampleTokenId sampleDevice sampleKey
    1767225600000000 = some ⟨sampleTokenId, sampleUser, true, true, false, 1767312000000000⟩ := by
  simp [identity, sampleTables]

lemma sample_snapshot :
    exportBinding (snapshotRows sampleTables sampleUser sampleSnapshot) = .ok sampleBinding := by
  simp [snapshotRows, sampleTables, exportBinding, sampleBinding]

lemma sample_connection : connection (sampleTables.nodes.find? (·.id = sampleNode)) =
    .ok ("10.0.0.1".toList, 22, "agent-remote".toList) := by
  have hfind : sampleTables.nodes.find? (·.id = sampleNode) =
      some ⟨sampleNode, true, some "10.0.0.1".toList, none, none, none⟩ := by
    simp [sampleTables]
  rw [hfind]
  rfl

lemma checkEnabled_of {settings : ExportSettings} (h : settings.enabled = true) :
    checkEnabled settings = .ok () :=
  reject_of_not (by simp [h])

section

variable [HmacSha256] (settings : SecretSettings) {token : Text}
  (henabled : settings.nodeExport.enabled = true)
  (hsign : settings.nodeExport.tokens.sign settings.nodeExport.secret sampleGrant = some token)
  (hread : settings.nodeExport.tokens.ReadsBack sampleGrant)

include henabled hsign

lemma sample_authorize : ∃ authorization, authorize settings.nodeExport sampleWorld sampleUser
    sampleTokenId sampleSnapshot sampleRequest = .ok (sampleGrant, authorization) ∧
      authorization.grant = token := by
  have hsigned : signGrant settings.nodeExport sampleGrant = .ok token := by
    rw [signGrant, hsign]
  have hidentity : ∀ time, time = (1767225600000000 : ℤ) →
      identity sampleWorld.tables sampleUser sampleTokenId sampleRequest.deviceId
        sampleRequest.sshKeyId time =
          some ⟨sampleTokenId, sampleUser, true, true, false, 1767312000000000⟩ := by
    rintro _ rfl
    exact sample_identity
  have hsnapshot : exportBinding (snapshotRows sampleWorld.tables sampleUser sampleSnapshot) =
      .ok sampleBinding := sample_snapshot
  have hconnection : connection (sampleWorld.tables.nodes.find? (·.id = sampleBinding.nodeId)) =
      .ok ("10.0.0.1".toList, 22, "agent-remote".toList) := sample_connection
  have hdeadline : deadlineAt sampleWorld.later 1767312000000000 = 1767226500 := by decide
  have hlater : timestamp sampleWorld.later = 1767225600 := by decide
  have hgrant : (⟨sampleWorld.grantId, sampleTokenId, sampleRequest.deviceId,
      sampleRequest.sshKeyId, sampleBinding, 1767225600, 1767226500⟩ : NodeExportGrant) =
        sampleGrant := rfl
  have htask : sampleWorld.synchronizeKey sampleBinding.nodeId sampleRequest.deviceId
      "agent-remote".toList = .ok "task".toList := rfl
  simp only [authorize, checkEnabled_of henabled, ok_bind, hidentity sampleWorld.now rfl,
    hidentity sampleWorld.later rfl, hsnapshot, hconnection, hdeadline, hlater]
  rw [reject_of_not (by simp), ok_bind, reject_of_not (by simp [sampleWorld, sampleTables]),
    ok_bind, htask, ok_bind, reject_of_not (by decide), ok_bind, hgrant, hsigned]
  exact ⟨_, rfl, rfl⟩

include hread

lemma sample_verify : ∃ permission, verify settings.nodeExport sampleWorld sampleNode
    sampleSnapshot ⟨sampleRequest, token⟩ = .ok permission := by
  have hverify : verifyGrant settings.nodeExport token (timestamp sampleWorld.now) =
      .ok sampleGrant := by
    have hlife : sampleGrant.issuedAt ≤ timestamp sampleWorld.now ∧
        timestamp sampleWorld.now < sampleGrant.expiresAt ∧
          sampleGrant.expiresAt ≤ sampleGrant.issuedAt + grantSeconds := by decide
    rw [verifyGrant, TokenScheme.opened_sign hread hsign]
    exact if_pos hlife
  have hidentity : identity sampleWorld.tables sampleGrant.binding.userId sampleGrant.tokenId
      sampleGrant.deviceId sampleGrant.sshKeyId sampleWorld.now =
        some ⟨sampleTokenId, sampleUser, true, true, false, 1767312000000000⟩ := sample_identity
  have hsnapshot : exportBinding (snapshotRows sampleWorld.tables sampleGrant.binding.userId
      sampleSnapshot) = .ok sampleBinding := sample_snapshot
  simp only [verify, checkGrant, checkEnabled_of henabled, ok_bind, hverify]
  rw [reject_of_not (by simp [sampleGrant, sampleBinding, sampleRequest]), ok_bind]
  simp only [hidentity, hsnapshot, ok_bind]
  rw [reject_of_not (by simp [sampleGrant]), ok_bind]
  rw [reject_of_not (by simp [snapshotRows, sampleWorld, sampleTables, sampleGrant,
    sampleBinding])]
  exact ⟨_, rfl⟩

/-- The authorization and the check after it, with what a run of the two rests on. -/
lemma sample_run [Sha256] : ∃ authorization,
    (secretRun settings [sampleCall]).2 =
      [⟨sampleCall, .authorization sampleGrant authorization⟩] ∧
    Unforged settings (secretRun settings
      [.verify sampleNode sampleSnapshot sampleWorld ⟨sampleRequest, token⟩, sampleCall]).2 ∧
    GrantsRead settings (secretRun settings [sampleCall]).2 := by
  obtain ⟨authorization, hauthorize, hgrant⟩ := sample_authorize settings henabled hsign
  have hpresented : settings.nodeExport.tokens.presented settings.nodeExport.secret token =
      some (settings.nodeExport.tokens.messageOf sampleGrant) := by
    rw [TokenScheme.presented, TokenScheme.signedPayload_sign hsign]
    rfl
  have hrun : (secretRun settings [sampleCall]).2 =
      [⟨sampleCall, .authorization sampleGrant authorization⟩] := by
    simp only [secretRun, sampleCall, serve, hauthorize]
  have hsigned : signed settings ⟨sampleCall, .authorization sampleGrant authorization⟩ =
      some (settings.nodeExport.tokens.messageOf sampleGrant) := by
    simp only [signed, hgrant, hpresented]
  refine ⟨authorization, hrun, ?_, ?_⟩
  · rw [Unforged, secretRun_cons, hrun]
    have hfirst : Provenanced (shown settings) (signed settings)
        [⟨sampleCall, .authorization sampleGrant authorization⟩] := by
      apply provenanced_nil.cons
      intro message hmessage
      cases hmessage
    apply hfirst.cons
    intro message hmessage
    have hshown := hpresented.symm.trans hmessage
    exact ⟨_, List.mem_singleton_self _, hsigned.trans hshown⟩
  · intro e he grant hfor
    rw [hrun] at he
    obtain rfl := List.mem_singleton.mp he
    obtain rfl := Option.some.inj hfor
    exact hread

end

def sampleSettings : ExportSettings where
  enabled := true
  dump _ := sampleJson.toList
  parse _ := some sampleGrant
  secret := "secret".toList

def sampleSecrets : SecretSettings := ⟨⟨fun _ => [], fun _ => none, [], fun _ => []⟩, sampleSettings⟩

/-- The signature of the encoded grant. -/
abbrev sampleHmac : HmacSha256 where
  hexdigest _ _ := "f2ef338faa7b6316cee2efbcf49e469a76a8c0f4e7555e078a7db52a17f52c8b".toList
  isHex := by
    intro _ _ c hc
    have hall : "f2ef338faa7b6316cee2efbcf49e469a76a8c0f4e7555e078a7db52a17f52c8b".toList.all
        fun c => c.isDigit || ('a' ≤ c && c ≤ 'f') := by decide +kernel
    simpa using List.all_eq_true.mp hall c hc

section

attribute [local instance] sampleHmac

lemma sample_length (key message : List ℕ) : (HmacSha256.hexdigest key message).length = 64 := rfl

lemma sample_sign : ∃ token,
    sampleSettings.tokens.sign sampleSettings.secret sampleGrant = some token := by
  have hjson : (Text.encode sampleJson.toList).length = 711 := by
    unfold sampleJson
    simp only [String.toList_append]
    repeat rw [String.toList_ofList]
    decide +kernel
  have hdump : sampleSettings.tokens.dump sampleGrant = sampleJson.toList := by
    simp only [ExportSettings.tokens, sampleSettings]
  have hsignature : (sampleSettings.tokens.signature sampleSettings.secret
    (sampleSettings.tokens.payloadOf sampleGrant)).length = 64 := sample_length _ _
  refine ⟨_, TokenScheme.sign_of_length ?_⟩
  rw [hdump, hjson, hsignature]
  decide

lemma sample_read : sampleSettings.tokens.ReadsBack sampleGrant := by
  rw [TokenScheme.ReadsBack]
  simp only [ExportSettings.tokens, sampleSettings]

/-- The node that asks with the grant is let read, and the user had authorized it. -/
theorem permission_rests_on_authorization_first :
    let _hash : Sha256 := ⟨fun _ => []⟩
    ∃ tokenId authorizer authorization first,
      (⟨.authorize sampleUser tokenId sampleSnapshot authorizer sampleRequest,
        .authorization first authorization⟩ : ServedCall) ∈
          (secretRun sampleSecrets [sampleCall]).2 := by
  intro _
  have henabled : sampleSecrets.nodeExport.enabled = true := rfl
  obtain ⟨token, hsign⟩ := sample_sign
  obtain ⟨permission, hverify⟩ := sample_verify sampleSecrets henabled hsign sample_read
  obtain ⟨authorization, hrun, hunforged, hread⟩ :=
    sample_run sampleSecrets henabled hsign sample_read
  obtain ⟨grant, rest, tokenId, authorizer, authorization', first, hmem, -⟩ :=
    permission_rests_on_authorization sampleSecrets [sampleCall] sampleNode sampleSnapshot
      sampleWorld ⟨sampleRequest, token⟩ permission hunforged hread hverify
  have huser : permission.binding.userId = sampleUser := by
    rw [hrun] at hmem
    have hcall := (ServedCall.mk.inj (List.mem_singleton.mp hmem)).1
    exact (SecretCall.authorize.inj hcall).1
  rw [huser] at hmem
  exact ⟨tokenId, authorizer, authorization', first, hmem⟩

end

end AgentRemote.NodeExport
