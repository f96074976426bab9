import AgentRemote.Retention.Retirement

/-!
# Row updates that leave the protection alone

Retiring and stamping rewrite rows one by one. Such an update is harmless when it moves
clocks, and clears content or expires branches only where nothing is protected. Every
builder then makes the calls it made, less edges of unprotected sources, so the closure
does not change.
-/

namespace AgentRemote
open Library

/-- New values for the rows that history services write. -/
structure RowUpdate where
  revision : SkillRevision → SkillRevision := id
  localRevision : AccountLocalSkillRevision → AccountLocalSkillRevision := id
  checkpoint : SkillCheckpoint → SkillCheckpoint := id
  snapshot : SessionSkillSnapshot → SessionSkillSnapshot := id
  finalization : SkillFinalization → SkillFinalization := id
  publication : SkillPublication → SkillPublication := id
  migration : SkillBranchPreparation → SkillBranchPreparation := id
  branch : AccountSkillState → AccountSkillState := id
  choice : ResolutionChoiceRecord → ResolutionChoiceRecord := id
  custom : MigrationResolutionContent → MigrationResolutionContent := id
  tree : StoredTreeRecord → StoredTreeRecord := id

namespace RowUpdate

def apply (u : RowUpdate) (t : RetentionTables) : RetentionTables :=
  { t with
    revisions := t.revisions.map u.revision
    localRevisions := t.localRevisions.map u.localRevision
    checkpoints := t.checkpoints.map u.checkpoint
    snapshots := t.snapshots.map u.snapshot
    finalizations := t.finalizations.map u.finalization
    publications := t.publications.map u.publication
    migrations := t.migrations.map u.migration
    branches := t.branches.map u.branch
    choices := t.choices.map u.choice
    migrationContent := t.migrationContent.map u.custom
    trees := t.trees.map u.tree }

/-- The update moves clocks, and what it clears is `lost` anyway. -/
structure Harmless (u : RowUpdate) (lost : RetentionKey → Prop) (t : RetentionTables) : Prop where
  revision : ∀ row, ∃ c, u.revision row = { row with retentionReleasedAt := c }
  localRevision : ∀ row, ∃ c, u.localRevision row = { row with retentionReleasedAt := c }
  checkpoint : ∀ row, ∃ c r d, u.checkpoint row =
      { row with retentionReleasedAt := c, retained := r, treeDigest := d } ∧
    (r = row.retained ∧ d = row.treeDigest ∨ lost ⟨.checkpoint, row.id⟩ ∧ r = false ∧ d = none)
  snapshot : ∀ row, ∃ c a, u.snapshot row =
      { row with retentionReleasedAt := c, contentRetiredAt := a } ∧
    (a = row.contentRetiredAt ∨ lost ⟨.snapshot, row.id⟩ ∧ a.isSome)
  finalization : ∀ row, ∃ c a, u.finalization row =
      { row with retentionReleasedAt := c, contentRetiredAt := a } ∧
    (a = row.contentRetiredAt ∨ lost ⟨.finalization, row.id⟩ ∧ a.isSome)
  publication : ∀ row, ∃ c a, u.publication row =
      { row with retentionReleasedAt := c, contentRetiredAt := a } ∧
    (a = row.contentRetiredAt ∨ lost ⟨.publication, row.id⟩ ∧ a.isSome)
  migration : ∀ row, ∃ c a, u.migration row =
      { row with retentionReleasedAt := c, contentRetiredAt := a } ∧
    (a = row.contentRetiredAt ∨ lost ⟨.migration, row.id⟩ ∧ a.isSome)
  branch : ∀ row, ∃ e, u.branch row = { row with expired := e }
  branch_lost : ∀ row ∈ t.branches,
    (u.branch row).expired = row.expired ∨ lost ⟨.branch, row.id⟩ ∧ (u.branch row).expired
  choice : ∀ row, ∃ a, u.choice row = { row with contentRetiredAt := a } ∧
    (a = row.contentRetiredAt ∨ lost ⟨.publication, row.publicationId⟩ ∧ a.isSome)
  custom : ∀ row, ∃ a, u.custom row = { row with contentRetiredAt := a } ∧
    (a = row.contentRetiredAt ∨ lost ⟨.migration, row.migrationId⟩ ∧ a.isSome)

namespace Harmless

variable {u : RowUpdate} {lost : RetentionKey → Prop} {t : RetentionTables}

/-! ### Lookups -/

lemma map_revision_id (h : u.Harmless lost t) :
    (t.revisions.map u.revision).map (·.id) = t.revisions.map (·.id) := by
  rw [List.map_map]
  apply List.map_congr_left
  intro row _
  obtain ⟨c, hc⟩ := h.revision row
  simp [hc]

lemma map_localRevision_id (h : u.Harmless lost t) :
    (t.localRevisions.map u.localRevision).map (·.id) = t.localRevisions.map (·.id) := by
  rw [List.map_map]
  apply List.map_congr_left
  intro row _
  obtain ⟨c, hc⟩ := h.localRevision row
  simp [hc]

lemma indexed_revisions (h : u.Harmless lost t) (k : Text) :
    indexed (·.id) (u.apply t).revisions k = (indexed (·.id) t.revisions k).map u.revision := by
  apply indexed_map
  intro row
  obtain ⟨c, hc⟩ := h.revision row
  rw [hc]

lemma indexed_localRevisions (h : u.Harmless lost t) (k : Text) :
    indexed (·.id) (u.apply t).localRevisions k =
      (indexed (·.id) t.localRevisions k).map u.localRevision := by
  apply indexed_map
  intro row
  obtain ⟨c, hc⟩ := h.localRevision row
  rw [hc]

lemma indexed_checkpoints (h : u.Harmless lost t) (k : Text) :
    indexed (·.id) (u.apply t).checkpoints k = (indexed (·.id) t.checkpoints k).map u.checkpoint := by
  apply indexed_map
  intro row
  obtain ⟨c, r, d, hc, -⟩ := h.checkpoint row
  rw [hc]

lemma indexed_branches (h : u.Harmless lost t) (k : Text) :
    indexed (·.id) (u.apply t).branches k = (indexed (·.id) t.branches k).map u.branch := by
  apply indexed_map
  intro row
  obtain ⟨e, he⟩ := h.branch row
  rw [he]

/-! ### Branches -/

lemma headEdge_detaches (h : u.Harmless lost t) {row : AccountSkillState} (hrow : row ∈ t.branches)
    (heads : List (Text × Text)) :
    Detaches lost (headEdge heads row) (headEdge heads (u.branch row)) := by
  obtain ⟨e, he⟩ := h.branch row
  have hlost := h.branch_lost row hrow
  rw [he] at hlost ⊢
  simp only at hlost
  rcases hlost with rfl | ⟨hl, rfl⟩
  · exact .refl _
  · apply Detaches.drop
    intro call hcall
    unfold headEdge at hcall
    split_ifs at hcall
    · simp at hcall
    · obtain rfl := Except.ok.inj (List.mem_singleton.mp hcall)
      exact ⟨_, _, _, _, rfl, hl⟩

lemma branches_detaches (h : u.Harmless lost t) (projection : Option RetentionProjection) :
    Detaches lost (branches t projection) (branches (u.apply t) projection) := by
  unfold branches
  refine Detaches.append (.refl _) (Detaches.flatMap fun row hrow => ?_)
  unfold branchActions
  refine Detaches.append (Detaches.append (Detaches.append (h.headEdge_detaches hrow _) ?_) ?_) ?_
  all_goals
    obtain ⟨e, he⟩ := h.branch row
    rw [he]
    exact .refl _

/-! ### Deployments read no column that changes -/

lemma checkDiscoveredSource_apply (h : u.Harmless lost t)
    (boundaries : List SkillDeploymentDiscovery) (source : SkillDeploymentDiscoveredSource) :
    checkDiscoveredSource (u.apply t) boundaries source =
      checkDiscoveredSource t boundaries source := by
  unfold checkDiscoveredSource
  rw [h.indexed_localRevisions]
  cases indexed (·.accountId) boundaries source.accountId with
  | none => rfl
  | some boundary =>
    cases indexed (·.id) t.localRevisions source.revisionId with
    | none => rfl
    | some revision =>
      obtain ⟨c, hc⟩ := h.localRevision revision
      rw [Option.map_some, hc]
      have hreceipts : (u.apply t).takeovers = t.takeovers := rfl
      have hlocals : (u.apply t).locals = t.locals := rfl
      rw [hreceipts, hlocals]
      dsimp only
      cases boundary.takeoverId.bind (indexed (·.id) t.takeovers) with
      | none => rfl
      | some receipt => cases indexed (·.id) t.locals source.sourceId <;> rfl

lemma discoveredPlans_apply (h : u.Harmless lost t) (readers : PlanReaders)
    (plans : List SkillDeploymentPlan) :
    discoveredPlans readers (u.apply t) plans = discoveredPlans readers t plans := by
  unfold discoveredPlans
  have hcheck : ∀ boundaries, checkDiscoveredSource (u.apply t) boundaries =
      checkDiscoveredSource t boundaries := by
    intro boundaries
    funext source
    exact h.checkDiscoveredSource_apply boundaries source
  simp only [hcheck]
  rfl

lemma reviewOperation_apply (h : u.Harmless lost t) (readers : PlanReaders)
    (operation : SkillOperation) :
    reviewOperation readers (u.apply t) operation = reviewOperation readers t operation := by
  have hplans : operationPlans readers (u.apply t) = operationPlans readers t := by
    funext operation
    unfold operationPlans
    simp only [h.discoveredPlans_apply]
    rfl
  unfold reviewOperation
  rw [hplans]
  rfl

lemma sourceAction_apply (h : u.Harmless lost t) (operation : SkillOperation)
    (plan : SkillDeploymentPlan) (source : DeploymentSource) :
    sourceAction (u.apply t) operation plan source = sourceAction t operation plan source := by
  have hpackage : ∀ row, packageAvailable source (u.revision row) = packageAvailable source row := by
    intro row
    obtain ⟨c, hc⟩ := h.revision row
    rw [hc]
    rfl
  have hlocal : ∀ row,
      localAvailable plan source (u.localRevision row) = localAvailable plan source row := by
    intro row
    obtain ⟨c, hc⟩ := h.localRevision row
    rw [hc]
    rfl
  unfold sourceAction
  rw [h.indexed_revisions, h.indexed_localRevisions]
  simp only [Option.any_map, hpackage, hlocal]

lemma libraryOperations_apply (h : u.Harmless lost t) (readers : PlanReaders) :
    libraryOperations readers (u.apply t) = libraryOperations readers t := by
  have hrevision : ∀ operation, revisionAction (u.apply t) operation = revisionAction t operation := by
    intro operation
    funext revision
    have h₁ : (u.apply t).revisions.map (·.id) = t.revisions.map (·.id) := h.map_revision_id
    have h₂ : (u.apply t).localRevisions.map (·.id) = t.localRevisions.map (·.id) :=
      h.map_localRevision_id
    unfold revisionAction
    rw [h₁, h₂]
  have hsource : ∀ operation plan, sourceAction (u.apply t) operation plan =
      sourceAction t operation plan := by
    intro operation plan
    funext source
    exact h.sourceAction_apply operation plan source
  have hactions : operationActions readers (u.apply t) = operationActions readers t := by
    funext operation
    unfold operationActions
    rw [h.reviewOperation_apply, hrevision]
    simp only [hsource]
  unfold libraryOperations
  rw [hactions]
  rfl

lemma bindingActions_apply (h : u.Harmless lost t)
    (current : Text → List (Text × SkillDeploymentAttempt)) (binding : SkillDeploymentTask) :
    bindingActions (u.apply t) current binding = bindingActions t current binding := by
  unfold bindingActions
  rw [h.indexed_checkpoints]
  cases indexed (·.id) t.checkpoints binding.checkpointId with
  | none => rfl
  | some checkpoint =>
    obtain ⟨c, r, d, hc, -⟩ := h.checkpoint checkpoint
    rw [Option.map_some, hc]
    have htasks : (u.apply t).deploymentNodeTasks = t.deploymentNodeTasks := rfl
    have htargets : (u.apply t).deploymentTargets = t.deploymentTargets := rfl
    have hattempts : (u.apply t).deploymentAttempts = t.deploymentAttempts := rfl
    rw [htasks, htargets, hattempts]
    cases indexed (·.id) t.deploymentNodeTasks binding.taskId with
    | none => rfl
    | some task =>
      cases indexed (fun row => (row.operationId, row.accountId)) t.deploymentTargets
        (binding.operationId, binding.accountId) with
      | none => rfl
      | some target => cases indexed (·.id) t.deploymentAttempts binding.attemptId <;> rfl

lemma deployments_apply (h : u.Harmless lost t) (readers : PlanReaders) :
    deployments readers (u.apply t) = deployments readers t := by
  have hbinding : ∀ current, bindingActions (u.apply t) current = bindingActions t current := by
    intro current
    funext binding
    exact h.bindingActions_apply current binding
  unfold deployments
  simp only [hbinding]
  rfl

/-! ### Stored content -/

lemma originEdges_apply (h : u.Harmless lost t) (checkpointId stateId : Text) :
    originEdges (u.apply t) checkpointId stateId = originEdges t checkpointId stateId := by
  unfold originEdges
  rw [h.indexed_branches]
  cases indexed (·.id) t.branches stateId with
  | none => rfl
  | some branch =>
    obtain ⟨e, he⟩ := h.branch branch
    rw [Option.map_some, he]

lemma checkpointActions_detaches (h : u.Harmless lost t) (row : SkillCheckpoint) :
    Detaches lost (checkpointActions t row) (checkpointActions (u.apply t) (u.checkpoint row)) := by
  have horigin : originEdges (u.apply t) row.id = originEdges t row.id := by
    funext stateId
    exact h.originEdges_apply row.id stateId
  obtain ⟨c, r, d, hc, hcase⟩ := h.checkpoint row
  rw [hc]
  unfold checkpointActions
  rw [horigin]
  rcases hcase with ⟨-, rfl⟩ | ⟨hl, -, rfl⟩
  · exact .refl _
  · exact (Detaches.cut hl).append (.refl _)

lemma contextActions_eq (h : u.Harmless lost t) (row : SkillCheckpoint) :
    contextActions (u.checkpoint row) = contextActions row := by
  obtain ⟨c, r, d, hc, -⟩ := h.checkpoint row
  rw [hc]
  rfl

lemma projectedActions_apply (h : u.Harmless lost t) (projection : RetentionProjection) :
    projectedActions (u.apply t) projection = projectedActions t projection := by
  unfold projectedActions
  simp only [h.originEdges_apply]

lemma content_detaches (h : u.Harmless lost t) (projection : Option RetentionProjection) (now : ℤ) :
    Detaches lost (content t projection now) (content (u.apply t) projection now) := by
  have hprojected : (projection.map (projectedActions (u.apply t))).getD [] =
      (projection.map (projectedActions t)).getD [] := by
    cases projection with
    | none => rfl
    | some projection => exact h.projectedActions_apply projection
  unfold content
  rw [hprojected]
  refine Detaches.append (Detaches.append (Detaches.append ?_ ?_) (.refl _)) (.refl _)
  · refine Detaches.append (Detaches.append (Detaches.append (Detaches.append (Detaches.append
      (Detaches.append ?_ ?_) ?_) (.refl _)) (.refl _)) (.refl _)) (.refl _)
    · apply Detaches.map
      intro row
      obtain ⟨c, hc⟩ := h.revision row
      rw [hc]
    · apply Detaches.map
      intro row
      obtain ⟨c, hc⟩ := h.localRevision row
      rw [hc]
    · exact Detaches.flatMap fun row _ => h.checkpointActions_detaches row
  · apply Detaches.flatMap
    intro row _
    rw [h.contextActions_eq]
    exact .refl _

/-! ### Unfinished operations -/

/-- A row that retires at an unprotected source keeps its roots and drops its edges. -/
lemma retired_detaches {kind : RetentionKind} {identity : Text} {r : List GraphAction}
    {e : List (RetentionKind × Option Text)} {a a' : Option ℤ}
    (hcase : a' = a ∨ lost ⟨kind, identity⟩ ∧ a'.isSome) :
    Detaches lost
      (r ++ if a.isSome then [] else e.map fun e => edge kind identity e.1 e.2)
      (r ++ if a'.isSome then [] else e.map fun e => edge kind identity e.1 e.2) := by
  refine Detaches.append (.refl _) ?_
  rcases hcase with rfl | ⟨hl, ha⟩
  · exact .refl _
  · rw [if_pos ha]
    apply Detaches.drop
    intro call hcall
    split_ifs at hcall
    · simp at hcall
    · obtain ⟨e, -, he⟩ := List.mem_map.mp hcall
      obtain rfl := Except.ok.inj he
      exact ⟨_, _, _, _, rfl, hl⟩

lemma operations_detaches (h : u.Harmless lost t) :
    Detaches lost (operations t) (operations (u.apply t)) := by
  unfold operations
  refine Detaches.append (Detaches.append (Detaches.append (Detaches.append (Detaches.append
    (Detaches.append ?_ (.refl _)) ?_) ?_) (.refl _)) ?_) (.refl _)
  · apply Detaches.flatMap
    intro row _
    obtain ⟨c, a, ha, hcase⟩ := h.snapshot row
    rw [ha]
    exact retired_detaches (e := [(.directoryContext, row.startingCheckpointId),
      (.stateTree, some row.treeDigest)]) hcase
  · apply Detaches.flatMap
    intro row _
    obtain ⟨c, a, ha, hcase⟩ := h.finalization row
    rw [ha]
    exact retired_detaches (e := [(.snapshot, some row.snapshotId),
      (.directoryContext, row.checkpointId), (.stateTree, row.treeDigest)]) hcase
  · apply Detaches.flatMap
    intro row _
    obtain ⟨c, a, ha, hcase⟩ := h.publication row
    rw [ha]
    exact retired_detaches (e := [(.finalization, some row.finalizationId),
      (.directoryContext, row.expectedDirectoryId), (.directoryContext, row.resultCheckpointId),
      (.stateTree, row.currentTreeDigest)]) hcase
  · apply Detaches.flatMap
    intro row _
    obtain ⟨a, ha, hcase⟩ := h.choice row
    rw [ha]
    exact retired_detaches (r := []) (e := [(.stateTree, row.treeDigest)]) hcase

/-! ### Migrations -/

lemma baselinePair_apply (h : u.Harmless lost t) (row : SkillBranchPreparation) :
    baselinePair (u.apply t) (u.migration row) = baselinePair t row := by
  obtain ⟨c, a, ha, -⟩ := h.migration row
  rw [ha]
  unfold baselinePair
  cases row.sourceStateId with
  | none => rfl
  | some sourceId =>
    dsimp only
    rw [h.indexed_branches, h.indexed_branches]
    have hdirs : (u.apply t).directories = t.directories := rfl
    rw [hdirs]
    congr 1
    cases indexed (·.id) t.branches sourceId with
    | none => rfl
    | some source =>
      cases indexed (·.id) t.branches row.targetStateId with
      | none => rfl
      | some target =>
        obtain ⟨e, he⟩ := h.branch source
        obtain ⟨e', he'⟩ := h.branch target
        rw [Option.map_some, Option.map_some, he, he']
        cases indexed (·.accountId) t.directories row.accountId <;> rfl

lemma migrationActions_detaches (h : u.Harmless lost t) (row : SkillBranchPreparation) :
    Detaches lost (migrationActions t row) (migrationActions (u.apply t) (u.migration row)) := by
  have hpair := h.baselinePair_apply row
  obtain ⟨c, a, ha, hcase⟩ := h.migration row
  unfold migrationActions
  rw [hpair, ha]
  refine Detaches.append ?_ (.refl _)
  exact retired_detaches (e := [(.branch, row.sourceStateId), (.branch, some row.targetStateId),
    (.checkpoint, row.baseCheckpointId), (.checkpoint, row.currentCheckpointId),
    (.checkpoint, row.sourceCheckpointId), (.checkpoint, some row.directoryCheckpointId),
    (.checkpoint, row.resultCheckpointId), (.checkpoint, row.resultDirectoryId),
    (.directoryContext, some row.directoryCheckpointId), (.directoryContext, row.resultDirectoryId),
    (.stateTree, some row.baseDigest), (.stateTree, some row.currentDigest),
    (.stateTree, some row.incomingDigest)]) hcase

lemma keepLatest_apply (h : u.Harmless lost t)
    (latest : List ((Text × Text) × SkillBranchPreparation)) (row : SkillBranchPreparation) :
    keepLatest (u.apply t) (latest.map (Prod.map id u.migration)) (u.migration row) =
      (keepLatest t latest row).map (Prod.map id u.migration) := by
  have hkey : ∀ e : (Text × Text) × SkillBranchPreparation,
      (Prod.map id u.migration e).1 = e.1 := fun e => rfl
  have hsequence : ∀ row, (u.migration row).migrationSequence = row.migrationSequence := by
    intro row
    obtain ⟨c, a, ha, -⟩ := h.migration row
    rw [ha]
  unfold keepLatest
  rw [h.baselinePair_apply]
  cases baselinePair t row with
  | error e => rfl
  | ok pair =>
    cases pair with
    | none => rfl
    | some pair =>
      dsimp only
      have hput := @put_map _ _ _ (·.1) latest (Prod.map id u.migration) hkey (pair, row)
      rw [Prod.map_apply, id] at hput
      rw [lookup_map _ hkey, hput]
      cases lookup (·.1) latest pair with
      | none => rfl
      | some old =>
        simp only [Option.map_some, Prod.map_snd, hsequence]
        split_ifs <;> rfl

lemma latest_apply (h : u.Harmless lost t) (rows : List SkillBranchPreparation)
    (latest : List ((Text × Text) × SkillBranchPreparation)) :
    (rows.map u.migration).foldl (keepLatest (u.apply t)) (latest.map (Prod.map id u.migration)) =
      (rows.foldl (keepLatest t) latest).map (Prod.map id u.migration) := by
  induction rows generalizing latest with
  | nil => rfl
  | cons row rows ih =>
    rw [List.map_cons, List.foldl_cons, List.foldl_cons, h.keepLatest_apply, ih]

lemma migrations_detaches (h : u.Harmless lost t) :
    Detaches lost (migrations t) (migrations (u.apply t)) := by
  have hlatest := h.latest_apply t.migrations []
  unfold migrations
  refine Detaches.append (Detaches.append ?_ ?_) ?_
  · exact Detaches.flatMap fun row _ => h.migrationActions_detaches row
  · rw [List.map_nil] at hlatest
    have htable : (u.apply t).migrations = t.migrations.map u.migration := rfl
    rw [htable, hlatest]
    apply Detaches.flatMap
    intro row _
    obtain ⟨c, a, ha, -⟩ := h.migration row.2
    rw [Prod.map_snd, ha]
    exact .refl _
  · apply Detaches.flatMap
    intro row _
    obtain ⟨a, ha, hcase⟩ := h.custom row
    rw [ha]
    exact retired_detaches (r := []) (e := [(.stateTree, some row.treeDigest)]) hcase

/-! ### The closure -/

theorem graphActions_detaches (h : u.Harmless lost t) (readers : PlanReaders) (now : ℤ)
    (projection : Option RetentionProjection) :
    Detaches lost (graphActions readers t now projection)
      (graphActions readers (u.apply t) now projection) := by
  unfold graphActions
  rw [h.libraryOperations_apply, h.deployments_apply]
  exact ((((h.branches_detaches projection).append (.refl _)).append (.refl _)).append
    (h.content_detaches projection now)).append h.operations_detaches |>.append
    h.migrations_detaches

/-- What the update retires was lost, or was retired already. -/
lemma retiredKeys_apply (h : u.Harmless lost t) {key : RetentionKey}
    (hkey : key ∈ retiredKeys (u.apply t)) : key ∈ retiredKeys t ∨ lost key := by
  simp only [retiredKeys, apply, List.mem_append, List.mem_map, List.mem_filter, or_assoc] at hkey ⊢
  rcases hkey with ⟨_, ⟨⟨row, hrow, rfl⟩, hr⟩, rfl⟩ | ⟨_, ⟨⟨row, hrow, rfl⟩, hr⟩, rfl⟩ |
    ⟨_, ⟨⟨row, hrow, rfl⟩, hr⟩, rfl⟩ | ⟨_, ⟨⟨row, hrow, rfl⟩, hr⟩, rfl⟩ |
    ⟨_, ⟨⟨row, hrow, rfl⟩, hr⟩, rfl⟩
  · obtain ⟨c, r, d, hc, hcase⟩ := h.checkpoint row
    rw [hc] at hr ⊢
    rcases hcase with ⟨rfl, -⟩ | ⟨hl, -⟩
    · exact .inl ⟨row, ⟨hrow, hr⟩, rfl⟩
    · simp [hl]
  · obtain ⟨c, a, ha, hcase⟩ := h.snapshot row
    rw [ha] at hr ⊢
    rcases hcase with rfl | ⟨hl, -⟩
    · exact .inr (.inl ⟨row, ⟨hrow, hr⟩, rfl⟩)
    · simp [hl]
  · obtain ⟨c, a, ha, hcase⟩ := h.finalization row
    rw [ha] at hr ⊢
    rcases hcase with rfl | ⟨hl, -⟩
    · exact .inr (.inr (.inl ⟨row, ⟨hrow, hr⟩, rfl⟩))
    · simp [hl]
  · obtain ⟨c, a, ha, hcase⟩ := h.publication row
    rw [ha] at hr ⊢
    rcases hcase with rfl | ⟨hl, -⟩
    · exact .inr (.inr (.inr (.inl ⟨row, ⟨hrow, hr⟩, rfl⟩)))
    · simp [hl]
  · obtain ⟨c, a, ha, hcase⟩ := h.migration row
    rw [ha] at hr ⊢
    rcases hcase with rfl | ⟨hl, -⟩
    · exact .inr (.inr (.inr (.inr (.inl ⟨row, ⟨hrow, hr⟩, rfl⟩))))
    · simp [hl]

end Harmless

/-- A harmless update of unprotected rows leaves the closure what it was. -/
theorem protection_apply {readers : PlanReaders} {t : RetentionTables} {u : RowUpdate} {now : ℤ}
    {projection : Option RetentionProjection} {p : RetentionProtection}
    (hp : protection readers t now projection = .ok p)
    (h : u.Harmless (fun key => p.reasons key = ∅) t) :
    protection readers (u.apply t) now projection = .ok p := by
  apply protection_of_detaches hp (h.graphActions_detaches readers now projection) rfl
  intro key hkey
  rcases h.retiredKeys_apply hkey with hkey | hkey
  · obtain ⟨-, -, -, hr⟩ := protection_eq_ok.mp hp
    exact hr key hkey
  · exact hkey

/-! ### Constraints -/

section

variable {readers : PlanReaders} {t : RetentionTables} {u : RowUpdate} {now : ℤ}
  {projection : Option RetentionProjection} {p : RetentionProtection}

lemma mem_graphActions_of_operations {a : GraphAction} (h : a ∈ operations t) :
    a ∈ graphActions readers t now projection := by
  simp [graphActions, h]

lemma mem_graphActions_of_migrations {a : GraphAction} (h : a ∈ migrations t) :
    a ∈ graphActions readers t now projection := by
  simp [graphActions, h]

/-- An unprotected object is no root. -/
lemma not_root (hp : protection readers t now projection = .ok p) {kind : RetentionKind}
    {identity : Text} {r : ProtectionReason} (hlost : p.reasons ⟨kind, identity⟩ = ∅) :
    root kind identity r ∉ graphActions readers t now projection := by
  intro h
  have := mem_reasons_of_root hp h
  rw [hlost] at this
  simp at this

lemma snapshot_finished (hp : protection readers t now projection = .ok p)
    {row : SessionSkillSnapshot} (hrow : row ∈ t.snapshots)
    (hlost : p.reasons ⟨.snapshot, row.id⟩ = ∅) :
    row.status = .retained ∨ row.status = .cancelled := by
  by_contra hstatus
  apply not_root hp hlost (r := .activeSnapshot)
  apply mem_graphActions_of_operations
  have hunfinished : row.status.unfinished = true := by
    cases h : row.status <;> simp_all [SnapshotStatus.unfinished]
  have hmem : root .snapshot row.id .activeSnapshot ∈ snapshotActions t row := by
    simp [snapshotActions, snapshotRoots, hunfinished]
  simp only [operations, List.mem_append, List.mem_flatMap]
  exact .inl (.inl (.inl (.inl (.inl (.inl ⟨row, hrow, hmem⟩)))))

lemma finalization_finished (hp : protection readers t now projection = .ok p)
    {row : SkillFinalization} (hrow : row ∈ t.finalizations)
    (hlost : p.reasons ⟨.finalization, row.id⟩ = ∅) :
    row.status = .published ∨ row.status = .conflicted ∨ row.status = .detached := by
  by_contra hstatus
  apply not_root hp hlost (r := .pendingFinalization)
  apply mem_graphActions_of_operations
  have hpending : row.status.pending = true := by
    cases h : row.status <;> simp_all [FinalizationStatus.pending]
  have hmem : root .finalization row.id .pendingFinalization ∈ finalizationActions row := by
    simp [finalizationActions, hpending]
  simp only [operations, List.mem_append, List.mem_flatMap]
  exact .inl (.inl (.inl (.inl (.inr ⟨row, hrow, hmem⟩))))

lemma publication_settled (hp : protection readers t now projection = .ok p)
    {row : SkillPublication} (hrow : row ∈ t.publications)
    (hlost : p.reasons ⟨.publication, row.id⟩ = ∅) : row.status ≠ .conflicted := by
  intro hstatus
  apply not_root hp hlost (r := .publicationConflict)
  apply mem_graphActions_of_operations
  have hmem : root .publication row.id .publicationConflict ∈ publicationActions row := by
    simp [publicationActions, hstatus]
  simp only [operations, List.mem_append, List.mem_flatMap]
  exact .inl (.inl (.inl (.inr ⟨row, hrow, hmem⟩)))

lemma migration_settled (hp : protection readers t now projection = .ok p)
    {row : SkillBranchPreparation} (hrow : row ∈ t.migrations)
    (hlost : p.reasons ⟨.migration, row.id⟩ = ∅) : row.status ≠ .conflicted := by
  intro hstatus
  apply not_root hp hlost (r := .migrationConflict)
  apply mem_graphActions_of_migrations
  have hmem : root .migration row.id .migrationConflict ∈ migrationActions t row := by
    simp [migrationActions, hstatus]
  simp only [migrations, List.mem_append, List.mem_flatMap]
  exact .inl (.inl ⟨row, hrow, hmem⟩)

/-- The database accepts what a harmless update writes. -/
theorem constraints_apply (hp : protection readers t now projection = .ok p)
    (h : u.Harmless (fun key => p.reasons key = ∅) t) (c : Constraints t) :
    Constraints (u.apply t) where
  revision_ids := by
    refine nodup_map_key (fun row => ?_) c.revision_ids
    obtain ⟨_, hu⟩ := h.revision row
    rw [hu]
  localRevision_ids := by
    refine nodup_map_key (fun row => ?_) c.localRevision_ids
    obtain ⟨_, hu⟩ := h.localRevision row
    rw [hu]
  checkpoint_ids := by
    refine nodup_map_key (fun row => ?_) c.checkpoint_ids
    obtain ⟨_, _, _, hu, -⟩ := h.checkpoint row
    rw [hu]
  snapshot_ids := by
    refine nodup_map_key (fun row => ?_) c.snapshot_ids
    obtain ⟨_, _, hu, -⟩ := h.snapshot row
    rw [hu]
  finalization_ids := by
    refine nodup_map_key (fun row => ?_) c.finalization_ids
    obtain ⟨_, _, hu, -⟩ := h.finalization row
    rw [hu]
  publication_ids := by
    refine nodup_map_key (fun row => ?_) c.publication_ids
    obtain ⟨_, _, hu, -⟩ := h.publication row
    rw [hu]
  migration_ids := by
    refine nodup_map_key (fun row => ?_) c.migration_ids
    obtain ⟨_, _, hu, -⟩ := h.migration row
    rw [hu]
  branch_ids := by
    refine nodup_map_key (fun row => ?_) c.branch_ids
    obtain ⟨_, hu⟩ := h.branch row
    rw [hu]
  checkpoint_retention := by
    intro row' hrow'
    obtain ⟨row, hrow, rfl⟩ := List.mem_map.mp hrow'
    obtain ⟨_, r, d, hu, ⟨rfl, rfl⟩ | ⟨-, rfl, rfl⟩⟩ := h.checkpoint row
    · rw [hu]
      exact c.checkpoint_retention row hrow
    · rw [hu]
      rfl
  checkpoint_view := by
    intro row' hrow'
    obtain ⟨row, hrow, rfl⟩ := List.mem_map.mp hrow'
    obtain ⟨_, _, _, hu, -⟩ := h.checkpoint row
    rw [hu]
    exact c.checkpoint_view row hrow
  snapshot_retired := by
    intro row' hrow'
    obtain ⟨row, hrow, rfl⟩ := List.mem_map.mp hrow'
    obtain ⟨_, a, hu, rfl | ⟨hl, -⟩⟩ := h.snapshot row
    · rw [hu]
      exact c.snapshot_retired row hrow
    · have hs := snapshot_finished hp hrow hl
      rw [hu]
      exact .inr hs
  finalization_retired := by
    intro row' hrow'
    obtain ⟨row, hrow, rfl⟩ := List.mem_map.mp hrow'
    obtain ⟨_, a, hu, rfl | ⟨hl, -⟩⟩ := h.finalization row
    · rw [hu]
      exact c.finalization_retired row hrow
    · have hs := finalization_finished hp hrow hl
      rw [hu]
      exact .inr hs
  publication_retired := by
    intro row' hrow'
    obtain ⟨row, hrow, rfl⟩ := List.mem_map.mp hrow'
    obtain ⟨_, a, hu, rfl | ⟨hl, -⟩⟩ := h.publication row
    · rw [hu]
      exact c.publication_retired row hrow
    · have hs := publication_settled hp hrow hl
      rw [hu]
      exact .inr hs
  migration_retired := by
    intro row' hrow'
    obtain ⟨row, hrow, rfl⟩ := List.mem_map.mp hrow'
    obtain ⟨_, a, hu, rfl | ⟨hl, -⟩⟩ := h.migration row
    · rw [hu]
      exact c.migration_retired row hrow
    · have hs := migration_settled hp hrow hl
      rw [hu]
      exact .inr hs

end

end RowUpdate

end AgentRemote
