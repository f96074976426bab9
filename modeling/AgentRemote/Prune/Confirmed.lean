import AgentRemote.Library.Keyed
import AgentRemote.Signed.System

/-!
# A prune is carried out as it was shown

A confirmation is signed on the last page only, and each page continues the one whose cursor it
was asked with. So whoever has a prune carried out has been shown all of its rows, in order and
under the binding of the plan that is carried out.
-/

namespace AgentRemote.Prune
open Library Rendering Signed

/-! ### Bindings -/

section

variable {a b c : PruneBinding}

lemma PruneBinding.equals_iff : a.equals b = true ↔ a.selector = b.selector ∧
    (a.cutoff.offset.isSome = b.cutoff.offset.isSome ∧ a.cutoff.instant = b.cutoff.instant) ∧
      a.allUnreferenced = b.allUnreferenced ∧ a.planDigest = b.planDigest := by
  simp [equals, datetimeEquals]

lemma PruneBinding.equals_symm (h : a.equals b = true) : b.equals a = true := by
  obtain ⟨hselector, ⟨hzone, hinstant⟩, hall, hdigest⟩ := equals_iff.mp h
  exact equals_iff.mpr ⟨hselector.symm, ⟨hzone.symm, hinstant.symm⟩, hall.symm, hdigest.symm⟩

lemma PruneBinding.equals_trans (h : a.equals b = true) (h' : b.equals c = true) :
    a.equals c = true := by
  obtain ⟨hselector, ⟨hzone, hinstant⟩, hall, hdigest⟩ := equals_iff.mp h
  obtain ⟨hselector', ⟨hzone', hinstant'⟩, hall', hdigest'⟩ := equals_iff.mp h'
  exact equals_iff.mpr ⟨hselector.trans hselector', ⟨hzone.trans hzone', hinstant.trans hinstant'⟩,
    hall.trans hall', hdigest.trans hdigest'⟩

end

/-! ### Pages -/

/-- The envelope that the credential of a page carries. -/
def pageEnvelope (userId : Text) (page : PrunePreviewPage) : PruneEnvelope :=
  ⟨userId, page.summary.binding, page.offset + page.rows.length, page.total,
    if page.offset + page.rows.length < page.total then .page else .confirm⟩

section

variable [HmacSha256] {settings : PruneSettings} {world : PruneSurroundings}
  {userId token : Text} {stage : PruneStage} {envelope : PruneEnvelope}

lemma signEnvelope_eq_ok (h : signEnvelope settings envelope = .ok token) :
    settings.tokens.sign settings.secret envelope = some token := by
  simp only [signEnvelope, reject_bind_eq_ok] at h
  cases hsign : settings.tokens.sign settings.secret envelope with
  | none => simp [hsign] at h
  | some signed =>
    simp only [hsign, pure_eq_ok, Except.ok.injEq] at h
    rw [h.2]

lemma verify_eq_ok (h : verify settings token userId stage = .ok envelope) :
    settings.tokens.opened settings.secret token = some envelope ∧ envelope.Fits userId stage := by
  unfold verify at h
  cases hopened : settings.tokens.opened settings.secret token with
  | none => simp [hopened] at h
  | some found =>
    simp only [hopened] at h
    split_ifs at h with hfits
    obtain rfl := Except.ok.inj h
    exact ⟨rfl, hfits⟩

lemma cursorEnvelope_eq_ok {request : PrunePreviewRequest} {found : Option PruneEnvelope}
    (h : cursorEnvelope settings userId request = .ok found) :
    (request.cursor = none ∧ found = none) ∨ ∃ cursor envelope, request.cursor = some cursor ∧
      found = some envelope ∧ settings.tokens.opened settings.secret cursor = some envelope ∧
        envelope.Fits userId .page := by
  unfold cursorEnvelope at h
  cases hcursor : request.cursor with
  | none =>
    simp only [hcursor, Except.ok.injEq] at h
    exact .inl ⟨rfl, h.symm⟩
  | some cursor =>
    simp only [hcursor, bind_eq_ok, reject_eq_ok, pure_eq_ok, Except.ok.injEq] at h
    obtain ⟨envelope, hverify, -, -, rfl⟩ := h
    obtain ⟨hopened, hfits⟩ := verify_eq_ok hverify
    exact .inr ⟨cursor, envelope, rfl, rfl, hopened, hfits⟩

/-- What a page shows, and what its credential says. -/
lemma previewPage_eq_ok [Sha256] {request : PrunePreviewRequest} {page : PrunePreviewPage}
    (h : previewPage settings world userId request = .ok page) :
    ∃ plan found, cursorEnvelope settings userId request = .ok found ∧
      page.summary = summary settings.planDigest plan ∧
      page.total = (disclosures plan none).length ∧
      page.offset = (found.map (·.offset)).getD 0 ∧
      page.rows = ((disclosures plan none).drop page.offset).take request.limit ∧
      (∀ e ∈ found, e.binding.equals page.summary.binding = true ∧ e.total = page.total) ∧
      ∀ token, credential page = some token →
        settings.tokens.sign settings.secret (pageEnvelope userId page) = some token := by
  simp only [previewPage, bind_eq_ok, reject_eq_ok] at h
  obtain ⟨found, hfound, plan, -, -, hsame, h⟩ := h
  push Not at hsame
  refine ⟨plan, found, hfound, ?_⟩
  have hmatch : ∀ e ∈ found, e.binding.equals (summary settings.planDigest plan).binding = true ∧
      e.total = (disclosures plan none).length := fun e he =>
    ⟨by simpa using (hsame e he).1, (hsame e he).2⟩
  split at h
  · simp only [bind_eq_ok, pure_eq_ok, Except.ok.injEq] at h
    obtain ⟨found', hsign, rfl⟩ := h
    refine ⟨rfl, rfl, rfl, rfl, hmatch, fun signed hsigned => ?_⟩
    have hfound' : found' = some signed := by
      simp only [credential] at hsigned
      split_ifs at hsigned <;> simpa using hsigned
    subst hfound'
    rw [map_eq_pure_bind, bind_eq_ok] at hsign
    obtain ⟨signed', hsign, he⟩ := hsign
    obtain rfl : signed' = signed := Option.some.inj (Except.ok.inj he)
    exact signEnvelope_eq_ok hsign
  · simp only [pure_eq_ok, ok_bind, Except.ok.injEq] at h
    subst h
    refine ⟨rfl, rfl, rfl, rfl, hmatch, fun signed hsigned => ?_⟩
    simp [credential] at hsigned

end

/-! ### Chains of pages -/

/-- Pages, latest first, that show the rows up to `stop` without a gap. -/
def ShownUpTo : ℕ → List PrunePreviewPage → Prop
  | stop, [] => stop = 0
  | stop, page :: earlier => page.offset + page.rows.length = stop ∧ ShownUpTo page.offset earlier

/-- The page that a user was shown in answer to a request. -/
def pageFor (userId : Text) (served : ServedCall) : Option PrunePreviewPage :=
  match served.call, served.answer with
  | .preview user _ _, .page page => if user = userId then some page else none
  | _, _ => none

/-- The envelopes that were signed can be read back. -/
def EnvelopesRead (settings : SecretSettings) (history : List ServedCall) : Prop :=
  ∀ e ∈ history, ∀ userId page, pageFor userId e = some page → (credential page).isSome →
    settings.prune.tokens.ReadsBack (pageEnvelope userId page)

section

variable [Sha256] [HmacSha256] {settings : SecretSettings} {calls : List SecretCall}
  {userId token : Text} {envelope : PruneEnvelope} {message : List ℕ}

/-- A page of the history answers a preview. -/
lemma pageFor_run {page : PrunePreviewPage} {e : ServedCall}
    (he : e ∈ (secretRun settings calls).2) (h : pageFor userId e = some page) :
    ∃ world request, e = ⟨.preview userId world request, .page page⟩ ∧
      previewPage settings.prune world userId request = .ok page := by
  obtain ⟨operations, hserve⟩ := secretRun_served e he
  obtain ⟨call, answer⟩ := e
  simp only [pageFor] at h
  split at h
  · split_ifs at h with huser
    obtain rfl := Option.some.inj h
    obtain ⟨user, world, request, hcall, hpage⟩ := serve_page hserve
    obtain ⟨rfl, rfl, rfl⟩ := SecretCall.preview.inj hcall
    subst huser
    exact ⟨_, _, rfl, hpage⟩
  · cases h

/-- The envelope of a token whose message the server signed is that of a page. -/
lemma exists_page (hread : EnvelopesRead settings (secretRun settings calls).2) {e : ServedCall}
    (he : e ∈ (secretRun settings calls).2)
    (hopened : settings.prune.tokens.opened settings.prune.secret token = some envelope)
    (hpresented : settings.prune.tokens.presented settings.prune.secret token = some message)
    (hsigned : signed settings e = some message) :
    ∃ user page, pageFor user e = some page ∧ envelope = pageEnvelope user page := by
  obtain ⟨operations, hserve⟩ := secretRun_served e he
  obtain ⟨call, answer⟩ := e
  cases answer with
  | page page =>
    obtain ⟨user, world, request, rfl, hpage⟩ := serve_page hserve
    obtain ⟨cursor, hcursor, hmessage⟩ := Option.bind_eq_some_iff.mp hsigned
    obtain ⟨plan, found, -, -, -, -, -, -, hcredential⟩ := previewPage_eq_ok hpage
    have hfor : pageFor user ⟨.preview user world request, .page page⟩ = some page := by
      simp [pageFor]
    have hsign := TokenScheme.signedPayload_sign (hcredential cursor hcursor)
    have hback := hread _ he user page hfor (by rw [hcursor]; rfl)
    refine ⟨user, page, hfor, ?_⟩
    apply TokenScheme.opened_of_presented hback _ hopened
    rw [hpresented, ← hmessage, TokenScheme.presented, hsign]
    rfl
  | authorization grant authorization => exact absurd hsigned (presented_apart hpresented)
  | renewal grant renewal => exact absurd hsigned (presented_apart hpresented)
  | receipt receipt => cases hsigned
  | permission permission => cases hsigned
  | failed => cases hsigned

/-- The rows before the page that a chain ends with were shown without a gap, under its
binding. -/
lemma chain_shown (hread : EnvelopesRead settings (secretRun settings calls).2)
    {e : ServedCall} {rest : List ServedCall} {page : PrunePreviewPage}
    (hchain : Chain (shown settings) (signed settings) (e :: rest))
    (hmem : ∀ x ∈ e :: rest, x ∈ (secretRun settings calls).2)
    (hpage : pageFor userId e = some page) :
    ShownUpTo page.offset (rest.filterMap (pageFor userId)) ∧
      ∀ p ∈ rest.filterMap (pageFor userId),
        p.summary.binding.equals page.summary.binding = true ∧ p.total = page.total := by
  have hshown : ∀ {world request} {page : PrunePreviewPage},
      previewPage settings.prune world userId request = .ok page →
      (shown settings ⟨.preview userId world request, .page page⟩ = none ∧ page.offset = 0) ∨
      ∃ cursor envelope message, settings.prune.tokens.opened settings.prune.secret cursor =
          some envelope ∧
        settings.prune.tokens.presented settings.prune.secret cursor = some message ∧
        shown settings ⟨.preview userId world request, .page page⟩ = some message ∧
        envelope.userId = userId ∧ envelope.offset = page.offset ∧ envelope.total = page.total ∧
        envelope.binding.equals page.summary.binding = true := by
    intro world request page hpage
    obtain ⟨plan, found, hfound, -, -, hoffset, -, hsame, -⟩ := previewPage_eq_ok hpage
    rcases cursorEnvelope_eq_ok hfound with ⟨hcursor, rfl⟩ | ⟨cursor, envelope, hcursor, rfl, hopened, hfits⟩
    · exact .inl ⟨by simp [shown, hcursor], hoffset⟩
    · obtain ⟨payload, hpresented⟩ := TokenScheme.presented_of_opened hopened
      obtain ⟨hbinding, htotal⟩ := hsame envelope rfl
      refine .inr ⟨cursor, envelope, _, hopened, hpresented, ?_, hfits.1, hoffset.symm, htotal,
        hbinding⟩
      simp [shown, hcursor, hpresented]
  induction rest generalizing e page with
  | nil =>
    obtain ⟨world, request, rfl, hanswer⟩ := pageFor_run (hmem e List.mem_cons_self) hpage
    cases hchain with
    | first hnone =>
      rcases hshown hanswer with ⟨-, hoffset⟩ | ⟨_, _, _, -, -, hsome, -⟩
      · exact ⟨hoffset, by simp⟩
      · rw [hnone] at hsome
        cases hsome
  | cons e' rest ih =>
    obtain ⟨world, request, rfl, hanswer⟩ := pageFor_run (hmem e List.mem_cons_self) hpage
    cases hchain with
    | next htakes hgives hrest =>
      rcases hshown hanswer with ⟨hnone, -⟩ | ⟨cursor, envelope, message, hopened, hpresented, hsome, huser, hoffset, htotal, hbinding⟩
      · rw [hnone] at htakes
        cases htakes
      · rw [hsome] at htakes
        obtain rfl := Option.some.inj htakes
        have he' := hmem e' (List.mem_cons_of_mem _ List.mem_cons_self)
        obtain ⟨user, previous, hprevious, rfl⟩ := exists_page hread he' hopened hpresented hgives
        obtain rfl : user = userId := huser
        have hbefore := ih hrest (fun x hx => hmem x (List.mem_cons_of_mem _ hx)) hprevious
        rw [List.filterMap_cons_some hprevious]
        refine ⟨⟨hoffset, hbefore.1⟩, ?_⟩
        intro p hp
        rcases List.mem_cons.mp hp with rfl | hp
        · exact ⟨hbinding, htotal⟩
        · have hp' := hbefore.2 p hp
          exact ⟨PruneBinding.equals_trans hp'.1 hbinding, hp'.2.trans htotal⟩

/-- What a page shows of the plan that it was made for. -/
lemma pageFor_rows {page : PrunePreviewPage} {e : ServedCall}
    (he : e ∈ (secretRun settings calls).2) (h : pageFor userId e = some page) :
    ∃ plan limit, page.summary.binding.planDigest = settings.prune.planDigest plan ∧
      page.rows = ((disclosures plan none).drop page.offset).take limit := by
  obtain ⟨world, request, -, hanswer⟩ := pageFor_run he h
  obtain ⟨plan, -, -, hsummary, -, -, hrows, -⟩ := previewPage_eq_ok hanswer
  exact ⟨plan, request.limit, by rw [hsummary]; rfl, hrows⟩

end

/-- Slices of one list without a gap are a beginning of it. -/
lemma ShownUpTo.rows_eq {rows : List PruneDisclosure} {stop : ℕ} {pages : List PrunePreviewPage}
    (h : ShownUpTo stop pages)
    (hslice : ∀ page ∈ pages, ∃ limit, page.rows = (rows.drop page.offset).take limit) :
    pages.reverse.flatMap (·.rows) = rows.take stop := by
  induction pages generalizing stop with
  | nil =>
    obtain rfl : stop = 0 := h
    rfl
  | cons page earlier ih =>
    obtain ⟨rfl, hearlier⟩ := h
    obtain ⟨limit, hrows⟩ := hslice page List.mem_cons_self
    have hbefore := ih hearlier fun p hp => hslice p (List.mem_cons_of_mem _ hp)
    have htake : (rows.drop page.offset).take page.rows.length = page.rows := by
      rw [hrows, List.length_take, List.take_eq_take_iff]
      omega
    rw [List.reverse_cons, List.flatMap_append, hbefore, List.take_add, htake]
    simp

/-! ### Executions -/

section

variable [Sha256] [HmacSha256] {settings : PruneSettings} {world : PruneSurroundings}
  {userId : Text} {operations operations' : List SkillPruneOperation} {command : PruneCommand}
  {receipt : PruneReceipt}

lemma newOperation_eq_ok {operation : SkillPruneOperation}
    (h : newOperation settings world userId command = .ok operation) :
    ∃ envelope plan result,
      settings.tokens.opened settings.secret command.confirmation = some envelope ∧
      envelope.Fits userId .confirm ∧
      operation.response.summary = summary settings.planDigest plan ∧
      operation.response.summary.binding.equals envelope.binding = true ∧
      operation.response.disclosureRows = (disclosures plan none).length ∧
      operation.response.disclosureRows = envelope.total ∧
      operation.entries = disclosures plan (some result) ∧
      operation.id = operation.response.operationId ∧ operation.userId = userId ∧
      operation.idempotencyKey = command.idempotencyKey ∧
      operation.requestDigest = requestDigest command := by
  simp only [newOperation, bind_eq_ok, reject_eq_ok, pure_eq_ok, Except.ok.injEq] at h
  obtain ⟨envelope, hverify, plan, -, -, hsame, result, -, rfl⟩ := h
  push Not at hsame
  obtain ⟨hopened, hfits⟩ := verify_eq_ok hverify
  exact ⟨envelope, plan, result, hopened, hfits, rfl, by simpa using hsame.1, rfl, hsame.2, rfl,
    rfl, rfl, rfl, rfl⟩

/-- A command whose key is known is answered from the receipt, and another appends its
operation. -/
lemma execute_eq_ok (h : execute settings world userId operations command =
      .ok (operations', receipt)) :
    (∃ row, operationByKey userId operations command.idempotencyKey = some row ∧
      row.requestDigest = requestDigest command ∧ operations' = operations ∧
      receipt = row.response) ∨
    ∃ operation, operationByKey userId operations command.idempotencyKey = none ∧
      newOperation settings world userId command = .ok operation ∧
      (∀ row ∈ operations, row.id ≠ operation.id) ∧ operations' = operations ++ [operation] ∧
      receipt = operation.response := by
  unfold execute at h
  cases hknown : operationByKey userId operations command.idempotencyKey with
  | some row =>
    simp only [hknown, reject_bind_eq_ok, pure_eq_ok, Except.ok.injEq, Prod.mk.injEq] at h
    obtain ⟨hdigest, rfl, rfl⟩ := h
    exact .inl ⟨row, rfl, not_not.mp hdigest, rfl, rfl⟩
  | none =>
    simp only [hknown, bind_eq_ok, reject_eq_ok, pure_eq_ok, Except.ok.injEq, Prod.mk.injEq] at h
    obtain ⟨operation, hnew, -, hfresh, rfl, rfl⟩ := h
    push Not at hfresh
    exact .inr ⟨operation, rfl, hnew, hfresh, rfl, rfl⟩

end

/-- Whoever has a prune carried out has been shown it. Before a new command is accepted, its
user was shown pages that list, one after another and without a gap, as many rows as the receipt
counts, all under the binding of the plan that is carried out. As long as a digest stands for
one plan, they are the rows that the receipt keeps, but for the identities of the
replacements. -/
theorem execution_was_disclosed [Sha256] [HmacSha256] (settings : SecretSettings)
    (calls : List SecretCall) (userId : Text) (world : PruneSurroundings) (command : PruneCommand)
    (operations : List SkillPruneOperation) (receipt : PruneReceipt)
    (hunforged : Unforged settings (secretRun settings (.execute userId world command :: calls)).2)
    (hread : EnvelopesRead settings (secretRun settings calls).2)
    (hnew : operationByKey userId (secretRun settings calls).1 command.idempotencyKey = none)
    (h : execute settings.prune world userId (secretRun settings calls).1 command =
      .ok (operations, receipt)) :
    ∃ operation pages, operations = (secretRun settings calls).1 ++ [operation] ∧
      operation.response = receipt ∧ pages ≠ [] ∧
      pages.Sublist ((secretRun settings calls).2.filterMap (pageFor userId)) ∧
      ShownUpTo receipt.disclosureRows pages ∧
      (∀ page ∈ pages, page.summary.binding.equals receipt.summary.binding = true ∧
        page.total = receipt.disclosureRows) ∧
      ((∀ p q, settings.prune.planDigest p = settings.prune.planDigest q →
          disclosures p none = disclosures q none) →
        pages.reverse.flatMap (·.rows) = operation.entries.map PruneDisclosure.planned) := by
  rcases execute_eq_ok h with ⟨row, hknown, -⟩ | ⟨operation, -, hoperation, -, rfl, rfl⟩
  · rw [hnew] at hknown
    cases hknown
  obtain ⟨envelope, plan, result, hopened, ⟨huser, -, -, hcomplete⟩, hsummary, hbinding, hrows, htotal, hentries, -⟩ :=
    newOperation_eq_ok hoperation
  obtain ⟨payload, hpresented⟩ := TokenScheme.presented_of_opened hopened
  have hconfirms : ∀ answer, shown settings ⟨.execute userId world command, answer⟩ =
      some (settings.prune.tokens.message payload) := fun _ => hpresented
  -- the confirmation ends a chain of pages
  obtain ⟨rest, hchain, hrest⟩ := exists_chain hunforged (List.nil_append _).symm
  have hmem : ∀ x ∈ rest, x ∈ (secretRun settings calls).2 := fun x hx => hrest.subset hx
  cases hchain with
  | first hnone =>
    rw [hconfirms] at hnone
    cases hnone
  | @next _ e rest _ htakes hgives hrest' =>
    rw [hconfirms] at htakes
    obtain rfl := Option.some.inj htakes
    obtain ⟨user, page, hpage, rfl⟩ :=
      exists_page hread (hmem e List.mem_cons_self) hopened hpresented hgives
    obtain rfl : user = userId := huser
    obtain ⟨hbefore, hsame⟩ := chain_shown hread hrest' hmem hpage
    have hpages : (e :: rest).filterMap (pageFor user) = page :: rest.filterMap (pageFor user) :=
      List.filterMap_cons_some hpage
    have hshown : ShownUpTo operation.response.disclosureRows
        (page :: rest.filterMap (pageFor user)) := ⟨hcomplete.trans htotal.symm, hbefore⟩
    have hbindings : ∀ p ∈ page :: rest.filterMap (pageFor user),
        p.summary.binding.equals operation.response.summary.binding = true ∧
          p.total = operation.response.disclosureRows := by
      intro p hp
      have hlast := PruneBinding.equals_symm hbinding
      rcases List.mem_cons.mp hp with rfl | hp
      · exact ⟨hlast, htotal.symm⟩
      · exact ⟨PruneBinding.equals_trans (hsame p hp).1 hlast, (hsame p hp).2.trans htotal.symm⟩
    refine ⟨operation, _, rfl, rfl, List.cons_ne_nil _ _, ?_, hshown, hbindings, fun hdigest => ?_⟩
    · rw [← hpages]
      exact hrest.filterMap _
    · rw [hentries, disclosures_planned]
      have hslice : ∀ p ∈ page :: rest.filterMap (pageFor user),
          ∃ limit, p.rows = ((disclosures plan none).drop p.offset).take limit := by
        intro p hp
        rw [← hpages] at hp
        obtain ⟨e', he', hp'⟩ := List.mem_filterMap.mp hp
        obtain ⟨shownPlan, limit, hplan, hrows'⟩ := pageFor_rows (hmem e' he') hp'
        have hbinding' := (hbindings p (hpages ▸ hp)).1
        have hplans : settings.prune.planDigest shownPlan = settings.prune.planDigest plan := by
          rw [← hplan, (PruneBinding.equals_iff.mp hbinding').2.2.2, hsummary]
          rfl
        exact ⟨limit, by rw [hrows', hdigest _ _ hplans]⟩
      rw [hshown.rows_eq hslice, hrows, List.take_length]

/-! ### A run of one page -/

def sampleUser : Text := uuidText 1

def sampleAccount : Text := uuidText 2

def sampleKey : RetentionKey := ⟨.checkpoint, uuidText 3⟩

/-- The plan of a prune of one checkpoint that nothing holds. -/
def sampleAnalysis : PruneAnalysis where
  compaction := none
  candidates := some
    { userId := sampleUser
      accountId := sampleAccount
      requested := [sampleKey]
      allUnreferenced := true
      entries := [⟨sampleKey, true, [], none, []⟩]
      dependencies := []
      expiringBranches := [] }
  selection := ⟨[], [], [[sampleKey]]⟩
  content := ⟨[], [], 0, 0, 0⟩

/-- The directory of an account at the start of the year 2026. -/
def sampleSelector : SkillStateSelector :=
  ⟨sampleAccount, .accountDirectory, none⟩

def sampleWorld : PruneSurroundings where
  now := ⟨63902822400000000, some 0⟩
  sourceOf _ _ := .ok none
  buildPrune _ _ _ := .ok sampleAnalysis
  carryOut _ := .ok ⟨[], [], []⟩
  operationId := uuidText 4

def sampleDigest : Text := List.replicate 64 'd'

def sampleEnvelope : PruneEnvelope where
  userId := sampleUser
  binding := ⟨sampleSelector, ⟨63902822400000000, some 0⟩, true, sampleDigest⟩
  offset := 1
  total := 1
  stage := .confirm

/-- The JSON of the envelope. -/
def sampleJson : String :=
  "\x7b\"version\":1,\"user_id\":\"00000000-0000-0000-0000-000000000001\",\"bin" ++
  "ding\":\x7b\"selector\":\x7b\"account_id\":\"00000000-0000-0000-0000-000000000" ++
  "002\",\"scope\":\"account-directory\",\"skill\":null\x7d,\"cutoff\":\"2026-01-0" ++
  "1T00:00:00Z\",\"all_unreferenced\":true,\"plan_digest\":\"dddddddddddddd" ++
  "dddddddddddddddddddddddddddddddddddddddddddddddddd\"\x7d,\"offset\":1,\"t" ++
  "otal\":1,\"stage\":\"confirm\"\x7d"

/-- The first page of the prune, which is the last one, too. -/
def sampleCall : SecretCall :=
  .preview sampleUser sampleWorld ⟨sampleSelector, true, none, 100⟩

def samplePlan : PrunePlan :=
  { sampleAnalysis with
    scope := ⟨sampleUser, sampleAccount, none⟩, cutoff := sampleWorld.now, allUnreferenced := true }

lemma sample_plan (cutoff : Option Datetime) (h : cutoff.getD sampleWorld.now = sampleWorld.now) :
    planOf sampleWorld sampleUser sampleSelector true cutoff = .ok samplePlan := by
  have hreject : ¬∃ c ∈ cutoff, c.offset = none ∨ sampleWorld.now.instant < c.instant := by
    rintro ⟨c, hc, hbad⟩
    obtain rfl : cutoff = some c := hc
    obtain rfl : c = sampleWorld.now := h
    rcases hbad with hzone | hlate
    · cases hzone
    · exact lt_irrefl _ hlate
  simp only [planOf, reject_of_not hreject, ok_bind, h]
  rfl

lemma sample_apply : applyPlan sampleWorld sampleUser samplePlan = .ok ⟨[], [], []⟩ := by
  have hagain : planOf sampleWorld sampleUser samplePlan.scope.selector
      samplePlan.allUnreferenced (some samplePlan.cutoff) = .ok samplePlan :=
    sample_plan _ rfl
  rw [applyPlan, reject_of_not (by simp [samplePlan]), ok_bind, hagain, ok_bind,
    reject_of_not (by simp), ok_bind]
  rfl

section

lemma sample_rows [Sha256] : (disclosures samplePlan none).length = 1 := rfl

lemma sample_binding (settings : SecretSettings)
    (hdigest : ∀ plan, settings.prune.planDigest plan = sampleDigest) :
    (summary settings.prune.planDigest samplePlan).binding = sampleEnvelope.binding := by
  rw [summary, hdigest]
  rfl

variable [Sha256] [HmacSha256] (settings : SecretSettings) {token : Text}
  (hdigest : ∀ plan, settings.prune.planDigest plan = sampleDigest)
  (hsign : settings.prune.tokens.sign settings.prune.secret sampleEnvelope = some token)
  (hread : settings.prune.tokens.ReadsBack sampleEnvelope)

include hdigest hsign

lemma sample_preview : ∃ page, previewPage settings.prune sampleWorld sampleUser
    ⟨sampleSelector, true, none, 100⟩ = .ok page ∧
      credential page = some token ∧ pageEnvelope sampleUser page = sampleEnvelope := by
  have hsigned : signEnvelope settings.prune sampleEnvelope = .ok token := by
    rw [signEnvelope, reject_of_not (by decide), ok_bind, hsign]
    rfl
  have hrows : (disclosures samplePlan none).take 100 = disclosures samplePlan none := rfl
  simp only [previewPage, cursorEnvelope, ok_bind, Option.map_none, sample_plan none rfl]
  rw [reject_of_not (by rintro ⟨e, he, -⟩; cases he), ok_bind]
  simp only [Option.getD_none, List.drop_zero, hrows, sample_rows]
  have hready : (summary settings.prune.planDigest samplePlan).ready = true := rfl
  have henvelope : (⟨sampleUser, (summary settings.prune.planDigest samplePlan).binding, 0 + 1, 1,
      if 0 + 1 < 1 then .page else .confirm⟩ : PruneEnvelope) = sampleEnvelope := by
    rw [sample_binding settings hdigest]
    rfl
  rw [if_pos (Or.inr hready), henvelope, hsigned]
  refine ⟨_, rfl, rfl, ?_⟩
  rw [pageEnvelope, ← henvelope]
  rfl

include hread

lemma sample_execute : ∃ operations receipt, execute settings.prune sampleWorld sampleUser []
    ⟨"prune".toList, token⟩ = .ok (operations, receipt) ∧ receipt.disclosureRows = 1 := by
  have hnew : ∃ operation, newOperation settings.prune sampleWorld sampleUser
      ⟨"prune".toList, token⟩ = .ok operation ∧ operation.response.disclosureRows = 1 := by
    have hplan : planOf sampleWorld sampleUser sampleEnvelope.binding.selector
        sampleEnvelope.binding.allUnreferenced (some sampleEnvelope.binding.cutoff) =
          .ok samplePlan := sample_plan _ rfl
    have hverify : verify settings.prune token sampleUser .confirm = .ok sampleEnvelope := by
      have hfits : sampleEnvelope.Fits sampleUser .confirm := ⟨rfl, rfl, by decide, rfl⟩
      rw [verify, TokenScheme.opened_sign hread hsign]
      exact if_pos hfits
    simp only [newOperation, hverify, ok_bind, hplan]
    rw [reject_of_not, ok_bind, sample_apply, ok_bind]
    · exact ⟨_, rfl, rfl⟩
    · rw [sample_binding settings hdigest, PruneBinding.equals_iff.mpr ⟨rfl, ⟨rfl, rfl⟩, rfl, rfl⟩]
      simp [sample_rows, sampleEnvelope]
  obtain ⟨operation, hnew, hrows⟩ := hnew
  refine ⟨[operation], operation.response, ?_, hrows⟩
  simp only [execute, operationByKey, List.find?_nil, hnew, ok_bind]
  rw [reject_of_not (by simp)]
  rfl

/-- The page and the command after it, with what a run of the two rests on. -/
lemma sample_run :
    (secretRun settings [sampleCall]).1 = [] ∧
    Unforged settings (secretRun settings
      [.execute sampleUser sampleWorld ⟨"prune".toList, token⟩, sampleCall]).2 ∧
    EnvelopesRead settings (secretRun settings [sampleCall]).2 := by
  obtain ⟨page, hpage, hcredential, henvelope⟩ := sample_preview settings hdigest hsign
  have hpresented : settings.prune.tokens.presented settings.prune.secret token =
      some (settings.prune.tokens.messageOf sampleEnvelope) := by
    rw [TokenScheme.presented, TokenScheme.signedPayload_sign hsign]
    rfl
  have hrun : secretRun settings [sampleCall] = ([], [⟨sampleCall, .page page⟩]) := by
    simp only [secretRun, sampleCall, serve, hpage]
  have hsigned : signed settings ⟨sampleCall, .page page⟩ =
      some (settings.prune.tokens.messageOf sampleEnvelope) := by
    simp only [signed, hcredential, Option.bind_some, hpresented]
  refine ⟨by rw [hrun], ?_, ?_⟩
  · rw [Unforged, secretRun_cons, hrun]
    have hpage : Provenanced (shown settings) (signed settings) [⟨sampleCall, .page page⟩] := by
      apply provenanced_nil.cons
      intro message hmessage
      cases hmessage
    apply hpage.cons
    intro message hmessage
    have hshown := hpresented.symm.trans hmessage
    exact ⟨_, List.mem_singleton_self _, hsigned.trans hshown⟩
  · intro e he user shownPage hfor _
    rw [hrun] at he
    obtain rfl := List.mem_singleton.mp he
    simp only [pageFor, sampleCall] at hfor
    split_ifs at hfor with huser
    obtain rfl := Option.some.inj hfor
    rw [← huser, henvelope]
    exact hread

end

def sampleSettings : PruneSettings where
  dump _ := sampleJson.toList
  parse _ := some sampleEnvelope
  secret := "secret".toList
  planDigest _ := sampleDigest

def sampleSecrets : SecretSettings := ⟨sampleSettings, ⟨false, fun _ => [], fun _ => none, []⟩⟩

/-- The signature of the encoded envelope. -/
abbrev sampleHmac : HmacSha256 where
  hexdigest _ _ := "f52a5e92cc240d6117b1de949779d1a663fcd83899a27a5d574a30ce5765ca90".toList
  isHex := by
    intro _ _ c hc
    have hall : "f52a5e92cc240d6117b1de949779d1a663fcd83899a27a5d574a30ce5765ca90".toList.all
        fun c => c.isDigit || ('a' ≤ c && c ≤ 'f') := by decide +kernel
    simpa using List.all_eq_true.mp hall c hc

section

attribute [local instance] sampleHmac

lemma sample_length (key message : List ℕ) : (HmacSha256.hexdigest key message).length = 64 := rfl

lemma sample_sign : ∃ token,
    sampleSettings.tokens.sign sampleSettings.secret sampleEnvelope = some token := by
  have hjson : (Text.encode sampleJson.toList).length = 356 := by
    unfold sampleJson
    simp only [String.toList_append]
    repeat rw [String.toList_ofList]
    decide +kernel
  have hdump : sampleSettings.tokens.dump sampleEnvelope = sampleJson.toList := by
    simp only [PruneSettings.tokens, sampleSettings]
  have hsignature : (sampleSettings.tokens.signature sampleSettings.secret
    (sampleSettings.tokens.payloadOf sampleEnvelope)).length = 64 := sample_length _ _
  refine ⟨_, TokenScheme.sign_of_length ?_⟩
  rw [hdump, hjson, hsignature]
  decide

lemma sample_read : sampleSettings.tokens.ReadsBack sampleEnvelope := by
  rw [TokenScheme.ReadsBack]
  simp only [PruneSettings.tokens, sampleSettings]

/-- The page was shown before the prune was carried out. -/
theorem execution_was_disclosed_page :
    let _hash : Sha256 := ⟨fun _ => []⟩
    ∃ pages : List PrunePreviewPage, pages ≠ [] ∧ ShownUpTo 1 pages ∧
      pages.Sublist ((secretRun sampleSecrets [sampleCall]).2.filterMap (pageFor sampleUser)) := by
  intro _
  have hdigest : ∀ plan, sampleSecrets.prune.planDigest plan = sampleDigest := fun _ => rfl
  obtain ⟨token, hsign⟩ := sample_sign
  obtain ⟨hnone, hunforged, hread⟩ := sample_run sampleSecrets hdigest hsign sample_read
  obtain ⟨operations, receipt, hexecute, hrows⟩ :=
    sample_execute sampleSecrets hdigest hsign sample_read
  obtain ⟨operation, pages, -, -, hne, hsublist, hshown, -⟩ :=
    execution_was_disclosed sampleSecrets [sampleCall] sampleUser sampleWorld
      ⟨"prune".toList, token⟩ operations receipt hunforged hread (by rw [hnone]; rfl)
      (by rw [hnone]; exact hexecute)
  exact ⟨pages, hne, hrows ▸ hshown, hsublist⟩

end

/-! ### Receipts -/

/-- What a command is known by. -/
def commandKey (row : SkillPruneOperation) : Text × Text := (row.userId, row.idempotencyKey)

/-- The operations have keys and identities of their own, and as many entries as they say. -/
structure Recorded (operations : List SkillPruneOperation) : Prop where
  keys : (operations.map commandKey).Nodup
  ids : (operations.map SkillPruneOperation.id).Nodup
  entries : ∀ row ∈ operations, row.response.operationId = row.id ∧
    row.entries.length = row.response.disclosureRows

section

variable {operations : List SkillPruneOperation} {row : SkillPruneOperation} {userId key : Text}

lemma operationByKey_eq :
    operationByKey userId operations key = lookup commandKey operations (userId, key) := by
  simp [operationByKey, lookup, commandKey]

lemma Recorded.operationByKey (h : Recorded operations) (hrow : row ∈ operations) :
    operationByKey row.userId operations row.idempotencyKey = some row := by
  rw [operationByKey_eq]
  exact lookup_of_mem h.keys hrow

lemma Recorded.operationById (h : Recorded operations) (hrow : row ∈ operations) :
    operationById row.userId operations row.id = some row := by
  cases hfind : Prune.operationById row.userId operations row.id with
  | none =>
    have hnone := List.find?_eq_none.mp hfind row hrow
    simp at hnone
  | some found =>
    have hid : found.id = row.id := by
      have hfound := List.find?_some hfind
      simp only [decide_eq_true_eq] at hfound
      exact hfound.2
    rw [List.inj_on_of_nodup_map h.ids (List.mem_of_find?_eq_some hfind) hrow hid]

/-- A page of a receipt is a slice of its entries, and says where the next one starts. -/
lemma Recorded.receiptEntries (h : Recorded operations) (hrow : row ∈ operations)
    {offset limit : ℕ} (hoffset : offset ≤ row.response.disclosureRows) (hlimit : 1 ≤ limit)
    (hmax : limit ≤ 100) :
    ∃ page, receiptEntries row.userId operations row.id offset limit = .ok page ∧
      row.entries.drop offset = page.rows ++ (page.nextOffset.map (row.entries.drop ·)).getD [] ∧
      ∀ next ∈ page.nextOffset, offset < next ∧ next ≤ row.response.disclosureRows := by
  have hlength := (h.entries row hrow).2
  have hrows : ((row.entries.drop offset).take limit).length =
      min limit (row.response.disclosureRows - offset) := by
    rw [List.length_take, List.length_drop, hlength]
  unfold Prune.receiptEntries receiptById
  simp only [h.operationById hrow, ok_bind, Option.map_some, Option.getD_some, hrows, ne_eq,
    not_true_eq_false]
  rw [reject_of_not (by omega), reject_of_not (by simp)]
  refine ⟨_, rfl, ?_, ?_⟩
  · split_ifs with hmore
    · have hall : min limit (row.response.disclosureRows - offset) = limit := by omega
      simp only [hall, Option.map_some, Option.getD_some]
      rw [← List.drop_drop, List.take_append_drop]
    · simp only [Option.map_none, Option.getD_none, List.append_nil]
      rw [List.take_of_length_le]
      rw [List.length_drop, hlength]
      omega
  · intro next hnext
    split_ifs at hnext with hmore
    · obtain rfl := Option.some.inj hnext
      omega
    · cases hnext

end

section

variable [Sha256] [HmacSha256] (settings : SecretSettings)

/-- A request adds one operation at most, and then answers with its receipt. -/
lemma serve_operations (operations : List SkillPruneOperation) (call : SecretCall) :
    (serve settings operations call).1 = operations ∨
      ∃ userId world command operation, call = .execute userId world command ∧
        execute settings.prune world userId operations command =
          .ok (operations ++ [operation], operation.response) ∧
        operationByKey userId operations command.idempotencyKey = none ∧
        newOperation settings.prune world userId command = .ok operation ∧
        (∀ row ∈ operations, row.id ≠ operation.id) ∧
        (serve settings operations call).1 = operations ++ [operation] := by
  cases call with
  | execute userId world command =>
    cases hanswer : execute settings.prune world userId operations command with
    | error e => exact .inl (by simp [serve, hanswer])
    | ok answer =>
      obtain ⟨operations', receipt⟩ := answer
      rcases execute_eq_ok hanswer with ⟨row, -, -, rfl, -⟩ | ⟨operation, hnone, hnew, hfresh, rfl, rfl⟩
      · exact .inl (by simp [serve, hanswer])
      · exact .inr ⟨userId, world, command, operation, rfl, hanswer, hnone, hnew, hfresh,
          by simp [serve, hanswer]⟩
  | preview userId world request =>
    simp only [serve]
    split <;> exact .inl rfl
  | authorize userId tokenId snapshotId world request =>
    simp only [serve]
    split <;> exact .inl rfl
  | verify nodeId snapshotId world request =>
    simp only [serve]
    split <;> exact .inl rfl
  | renew nodeId snapshotId world request =>
    simp only [serve]
    split <;> exact .inl rfl

/-- Operations are never changed or removed. -/
lemma operations_kept (later calls : List SecretCall) :
    (secretRun settings calls).1 <+: (secretRun settings (later ++ calls)).1 := by
  induction later with
  | nil => exact List.prefix_rfl
  | cons call later ih =>
    rcases serve_operations settings (secretRun settings (later ++ calls)).1 call with
      hsame | ⟨_, _, _, operation, -, -, -, -, -, hadd⟩
    · exact ih.trans (by simp [secretRun, hsame])
    · exact ih.trans (by simp [secretRun, hadd])

lemma recorded_run (calls : List SecretCall) : Recorded (secretRun settings calls).1 := by
  induction calls with
  | nil => exact ⟨List.nodup_nil, List.nodup_nil, by simp [secretRun]⟩
  | cons call past ih =>
    rcases serve_operations settings (secretRun settings past).1 call with
      hsame | ⟨userId, world, command, operation, -, -, hnone, hnew, hfresh, hadd⟩
    · simpa [secretRun, hsame] using ih
    · obtain ⟨envelope, plan, result, -, -, -, -, hrows, -, hentries, hid, huser, hkey, -⟩ :=
        newOperation_eq_ok hnew
      have hrun : (secretRun settings (call :: past)).1 =
          (secretRun settings past).1 ++ [operation] := hadd
      rw [hrun]
      constructor
      · rw [List.map_append, List.map_singleton]
        apply ih.keys.append (List.nodup_singleton _)
        rw [List.disjoint_singleton]
        intro hmem
        obtain ⟨row, hrow, hsame⟩ := List.mem_map.mp hmem
        rw [operationByKey_eq] at hnone
        apply lookup_eq_none_iff.mp hnone row hrow
        rw [hsame, commandKey, huser, hkey]
      · rw [List.map_append, List.map_singleton]
        apply ih.ids.append (List.nodup_singleton _)
        rw [List.disjoint_singleton]
        intro hmem
        obtain ⟨row, hrow, hsame⟩ := List.mem_map.mp hmem
        exact hfresh row hrow hsame
      · intro row hrow
        rcases List.mem_append.mp hrow with hrow | hrow
        · exact ih.entries row hrow
        · obtain rfl := List.mem_singleton.mp hrow
          refine ⟨hid.symm, ?_⟩
          rw [hentries, hrows, ← disclosures_planned plan (some result), List.length_map]

/-- A receipt was given for an operation that is kept. -/
lemma exists_operation (calls : List SecretCall) {userId : Text} {world : PruneSurroundings}
    {command : PruneCommand} {receipt : PruneReceipt}
    (h : (⟨.execute userId world command, .receipt receipt⟩ : ServedCall) ∈
      (secretRun settings calls).2) :
    ∃ row ∈ (secretRun settings calls).1, row.userId = userId ∧
      row.idempotencyKey = command.idempotencyKey ∧ row.requestDigest = requestDigest command ∧
        row.response = receipt := by
  induction calls with
  | nil => simp [secretRun] at h
  | cons call past ih =>
    have hkept := (operations_kept settings [call] past).subset
    rcases List.mem_cons.mp h with he | h
    · obtain ⟨rfl, hanswer⟩ := ServedCall.mk.inj he
      cases hexecute : execute settings.prune world userId (secretRun settings past).1 command with
      | error e => simp [hexecute] at hanswer
      | ok answer =>
        obtain ⟨operations, given⟩ := answer
        have hrun : (secretRun settings (.execute userId world command :: past)).1 = operations := by
          simp [secretRun, serve, hexecute]
        simp only [hexecute, SecretAnswer.receipt.injEq] at hanswer
        subst hanswer
        rcases execute_eq_ok hexecute with ⟨row, hknown, hdigest, -, rfl⟩ | ⟨operation, -, hnew, -, rfl, rfl⟩
        · have hrow := List.find?_some hknown
          simp only [decide_eq_true_eq] at hrow
          exact ⟨row, hkept (List.mem_of_find?_eq_some hknown), hrow.1, hrow.2, hdigest, rfl⟩
        · obtain ⟨-, -, -, -, -, -, -, -, -, -, -, huser, hkey, hdigest⟩ := newOperation_eq_ok hnew
          refine ⟨operation, ?_, huser, hkey, hdigest, rfl⟩
          rw [hrun]
          simp
    · obtain ⟨row, hrow, hfound⟩ := ih h
      exact ⟨row, hkept hrow, hfound⟩

/-- A receipt is final. Whatever is asked later, by whomever, its key and its identity lead to
it, the same command is answered with it, no other command is accepted under its key, and its
entries can be read page by page to the end. -/
theorem receipt_final {calls : List SecretCall} {userId : Text} {world : PruneSurroundings}
    {command : PruneCommand} {receipt : PruneReceipt}
    (h : (⟨.execute userId world command, .receipt receipt⟩ : ServedCall) ∈
      (secretRun settings calls).2) :
    ∃ entries : List PruneDisclosure, entries.length = receipt.disclosureRows ∧
      ∀ later, let operations := (secretRun settings (later ++ calls)).1
        receiptByKey userId operations command.idempotencyKey = .ok receipt ∧
        receiptById userId operations receipt.operationId = .ok receipt ∧
        (∀ world again, again.idempotencyKey = command.idempotencyKey →
          execute settings.prune world userId operations again =
            if requestDigest again = requestDigest command then .ok (operations, receipt)
            else .error (.content "IDEMPOTENCY_CONFLICT" "key belongs to another prune request")) ∧
        ∀ offset limit, offset ≤ receipt.disclosureRows → 1 ≤ limit → limit ≤ 100 →
          ∃ page, receiptEntries userId operations receipt.operationId offset limit = .ok page ∧
            entries.drop offset = page.rows ++ (page.nextOffset.map (entries.drop ·)).getD [] ∧
            ∀ next ∈ page.nextOffset, offset < next ∧ next ≤ receipt.disclosureRows := by
  obtain ⟨row, hrow, rfl, hkey, hdigest, rfl⟩ := exists_operation settings calls h
  have hrecorded := recorded_run settings calls
  refine ⟨row.entries, (hrecorded.entries row hrow).2, fun later => ?_⟩
  have hafter := recorded_run settings (later ++ calls)
  have hrow' := (operations_kept settings later calls).subset hrow
  have hid := (hafter.entries row hrow').1
  have hbykey := hafter.operationByKey hrow'
  rw [← hkey, hid]
  refine ⟨?_, ?_, ?_, ?_⟩
  · rw [receiptByKey, hbykey]
  · rw [receiptById, hafter.operationById hrow']
  · intro world again hagain
    simp only [execute, hagain, hbykey, ← hdigest]
    by_cases hsame : requestDigest again = row.requestDigest
    · rw [if_pos hsame, reject_of_not (by simp [hsame]), ok_bind]
      rfl
    · rw [if_neg hsame, reject_of (by simpa using Ne.symm hsame)]
      rfl
  · intro offset limit hoffset hlimit hmax
    exact hafter.receiptEntries hrow' hoffset hlimit hmax

end

section

attribute [local instance] sampleHmac

/-- The receipt of the prune is found again whatever is asked later. -/
theorem receipt_final_page :
    let _hash : Sha256 := ⟨fun _ => []⟩
    ∃ token receipt, receipt.disclosureRows = 1 ∧ ∀ later : List SecretCall,
      receiptByKey sampleUser (secretRun sampleSecrets
        (later ++ [.execute sampleUser sampleWorld ⟨"prune".toList, token⟩])).1 "prune".toList =
          .ok receipt := by
  intro _
  have hdigest : ∀ plan, sampleSecrets.prune.planDigest plan = sampleDigest := fun _ => rfl
  obtain ⟨token, hsign⟩ := sample_sign
  obtain ⟨operations, receipt, hexecute, hrows⟩ :=
    sample_execute sampleSecrets hdigest hsign sample_read
  have hserved : (⟨.execute sampleUser sampleWorld ⟨"prune".toList, token⟩, .receipt receipt⟩ :
      ServedCall) ∈ (secretRun sampleSecrets
        [.execute sampleUser sampleWorld ⟨"prune".toList, token⟩]).2 := by
    have hempty : (secretRun sampleSecrets []).1 = [] := rfl
    rw [secretRun_cons, hempty, serve_execute hexecute]
    exact List.mem_singleton_self _
  obtain ⟨entries, -, hlater⟩ := receipt_final sampleSecrets hserved
  exact ⟨token, receipt, hrows, fun later => (hlater later).1⟩

end

end AgentRemote.Prune
