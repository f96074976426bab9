import AgentRemote.PortForwards.System

/-!
# The life of a port forward

What must hold of every interleaving of the operations, and exactly when it does. Tokens,
generations and quotas are right in every run. Ended forwards stay as they ended, and leases
within their forwards, as long as no operation settles a forward on a copy that has become
wrong and no lease is granted past the end of its forward.
-/

namespace AgentRemote.PortForwards
open Library

/-- A forward holds a lease only while it is active, and not past its end. -/
def PortForward.Leased (f : PortForward) : Prop :=
  ∀ lease ∈ f.leaseExpiresAt, f.status = .active ∧ lease ≤ f.expiresAt

/-- Whose forwards a quota counts. -/
inductive ForwardScope where
  | user
  | device
  | session

def ForwardScope.key : ForwardScope → PortForward → Uuid
  | user => PortForward.userId
  | device => PortForward.deviceId
  | session => PortForward.sessionId

def ForwardScope.maximum : ForwardScope → PortForwardPolicy → ℤ
  | user => PortForwardPolicy.maxPerUser
  | device => PortForwardPolicy.maxPerDevice
  | session => PortForwardPolicy.maxPerSession

/-- The forwards of a key that have not ended. -/
def ForwardScope.count (scope : ForwardScope) (key : Uuid) (db : ForwardDb) : ℕ :=
  db.countActive fun f => scope.key f = key

section

variable (S : Transactions ForwardDb ForwardTx ForwardAnswer) (c : Commit ForwardDb ForwardTx)

/-- The commit makes a new forward. -/
def Created (created : CreatedPortForward) : Prop :=
  ∃ r, c.tx = .create r ∧ c.before.getByCaller r = none ∧ S.answer c = .created created

/-- The commit redeems a token for a generation of a forward. -/
def Redeemed (token forwardId : Uuid) (generation : ℕ) : Prop :=
  ∃ r redeemed, c.tx = .redeem r ∧ S.answer c = .redeemed redeemed ∧ r.connectToken = token ∧
    r.forwardId = forwardId ∧ redeemed.portForward.connectionGeneration = generation

/-- The commit renews or releases a generation of a forward. -/
def Reported (forwardId : Uuid) (generation : ℕ) : Prop :=
  ∃ r : ForwardReport, r.forwardId = forwardId ∧ r.generation = generation ∧
    ((c.tx = .renew r ∧ ∃ redeemed, S.answer c = .redeemed redeemed) ∨
      (c.tx = .release r ∧ ∃ f, S.answer c = .forward f))

end

/-- What must hold of a run of the service. -/
structure ForwardLifecycle (settings : PortForwardSettings)
    (S : Transactions ForwardDb ForwardTx ForwardAnswer)
    (schedule : List (Scheduled ForwardTx)) : Prop where
  absorbing : ∀ c ∈ S.commits schedule, ∀ f ∈ c.before.forwards, ∀ f' ∈ (S.after c).forwards,
    f'.id = f.id → f.status.terminal = true → f'.status = f.status
  leased : ∀ c ∈ S.commits schedule, ∀ f ∈ (S.after c).forwards, f.Leased
  redeemedOnce : (S.commits schedule).Pairwise fun later earlier =>
    ∀ token id id' n n', Redeemed S earlier token id n → ¬Redeemed S later token id' n'
  fresh : (S.commits schedule).Pairwise fun later earlier =>
    ∀ id token token' n n', Redeemed S earlier token id n → Redeemed S later token' id n' → n < n'
  current : ∀ c ∈ S.commits schedule, ∀ id n, Reported S c id n →
    ∃ f ∈ c.before.forwards, f.id = id ∧ f.connectionGeneration = n ∧ f.status = .active
  newest : (S.commits schedule).Pairwise fun later earlier =>
    ∀ id token n n', Redeemed S earlier token id n → Reported S later id n' → n ≤ n'
  quotas : ∀ later c earlier, S.commits schedule = later ++ c :: earlier →
    ∀ created, Created S c created → ∀ scope : ForwardScope,
      (∀ c' ∈ later, ∀ created', Created S c' created' →
        scope.key created'.portForward ≠ scope.key created.portForward) →
      scope.count (scope.key created.portForward) (S.state schedule) ≤
        scope.maximum (settings.policy created.node)
  unused : ∀ (scope : ForwardScope) key,
    (∀ c ∈ S.commits schedule, ∀ created, Created S c created →
      scope.key created.portForward ≠ key) → scope.count key (S.state schedule) = 0

/-- The row can be settled from the copy: it has not ended in another way, and it holds no lease
that the copy lacks. -/
def PortForward.Settles (row : PortForward) (w : PortForward × PortForward) : Prop :=
  (row.status.terminal = true → row.status = w.2.status) ∧
    (w.1.leaseExpiresAt = none → row.leaseExpiresAt = none)

/-- The transaction settles forwards on copies that still allow it, and grants no lease past the
end of the forward. -/
structure ForwardTx.Timely (settings : PortForwardSettings) (seen : ℕ → ForwardDb)
    (db : ForwardDb) (t : ForwardTx) : Prop where
  settles : db.Finds (t.endings settings seen db) → ∀ w ∈ t.endings settings seen db,
    ∀ row ∈ db.forwards, row.id = w.1.id → row.Settles w
  redeems : ∀ r redeemed, t = .redeem r →
    (PortForwards.redeem settings seen db r).2 = .ok redeemed →
    (seen 11).clock + timedelta redeemed.policy.leaseSeconds ≤ redeemed.portForward.expiresAt
  renews : ∀ r redeemed, t = .renew r →
    (PortForwards.renew settings seen db r).2 = .ok redeemed →
    (seen 7).clock + timedelta redeemed.policy.leaseSeconds ≤ redeemed.portForward.expiresAt

/-! ### What every run keeps -/

structure ForwardDb.Sound (db : ForwardDb) : Prop where
  nodup : (db.forwards.map PortForward.id).Nodup
  ids : ∀ f ∈ db.forwards, f.id < db.nextId
  tokens : ∀ t ∈ db.connectionTokens, t.token < db.nextId

/-- How a state follows from an earlier one: old forwards and tokens come from old ones. -/
structure ForwardDb.Follows (db db' : ForwardDb) : Prop where
  nextId : db.nextId ≤ db'.nextId
  forwards : ∀ f' ∈ db'.forwards, f'.id < db.nextId → ∃ f ∈ db.forwards, f.Keeps f'
  tokens : ∀ t' ∈ db'.connectionTokens, t'.token < db.nextId →
    ∃ t ∈ db.connectionTokens, t.token = t'.token

section

variable {db db' db'' : ForwardDb} {f f' row : PortForward}

lemma ForwardDb.Follows.refl (db : ForwardDb) : db.Follows db :=
  ⟨le_rfl, fun f hf _ => ⟨f, hf, .refl f⟩, fun t ht _ => ⟨t, ht, rfl⟩⟩

lemma ForwardDb.Follows.trans (h : db.Follows db') (h' : db'.Follows db'') : db.Follows db'' where
  nextId := h.nextId.trans h'.nextId
  forwards f'' hf'' hid := by
    obtain ⟨f', hf', hkeeps'⟩ := h'.forwards f'' hf'' (hid.trans_le h.nextId)
    obtain ⟨f, hf, hkeeps⟩ := h.forwards f' hf' (hkeeps'.id ▸ hid)
    exact ⟨f, hf, hkeeps.trans hkeeps'⟩
  tokens t'' ht'' hid := by
    obtain ⟨t', ht', heq'⟩ := h'.tokens t'' ht'' (hid.trans_le h.nextId)
    obtain ⟨t, ht, heq⟩ := h.tokens t' ht' (heq' ▸ hid)
    exact ⟨t, ht, heq.trans heq'⟩

lemma applied_keeps {ws : List (PortForward × PortForward)} (h : ∀ w ∈ ws, w.1.Ends w.2)
    (row : PortForward) : row.Keeps (applied ws row) := by
  induction ws generalizing row with
  | nil => exact .refl row
  | cons w ws ih =>
    have hws := ih fun w' hw' => h w' (List.mem_cons_of_mem _ hw')
    have hcons : applied (w :: ws) row =
        applied ws (if row.id = w.1.id then row.updated w.1 w.2 else row) := rfl
    rw [hcons]
    split_ifs with hid
    · exact ((h w List.mem_cons_self).keeps row).trans (hws _)
    · exact hws row

/-- The row of a locked forward is the forward. -/
lemma setForward_apply (hdb : db.Sound) (hf : f ∈ db.forwards) {new : PortForward}
    (h : f.Change new) (hrow : row ∈ db.forwards) :
    (if row.id = f.id then row.updated f new else row) = if row.id = f.id then new else row := by
  split_ifs with hid
  · rw [eq_of_key_eq hdb.nodup hrow hf hid, h.columns]
  · rfl

/-- A move rewrites each forward or drops it. -/
lemma ForwardsMove.rows {granted : PortForward → Prop} (hdb : db.Sound)
    {forwards : List PortForward} (h : ForwardsMove granted db forwards) :
    ∃ g : PortForward → Option PortForward, forwards = db.forwards.filterMap g ∧
      ∀ f ∈ db.forwards, ∀ f' ∈ g f, f.Keeps f' := by
  cases h with
  | same => exact ⟨some, by simp, fun f _ f' hf' => Option.some.inj hf' ▸ .refl f⟩
  | locked f new hf hchange _ =>
    refine ⟨fun row => some (if row.id = f.id then row.updated f new else row), ?_, ?_⟩
    · rw [setForward_forwards, ← List.filterMap_eq_map]
      rfl
    · intro row hrow row' hrow'
      obtain rfl := Option.some.inj hrow'
      rw [setForward_apply hdb hf hchange hrow]
      split_ifs with hid
      · exact eq_of_key_eq hdb.nodup hrow hf hid ▸ hchange.keeps
      · exact .refl row
  | ended g hg =>
    refine ⟨fun row => some (g row), (List.filterMap_eq_map ..).symm ▸ rfl, ?_⟩
    intro row _ row' hrow'
    obtain rfl := Option.some.inj hrow'
    rcases hg row with heq | hends
    · rw [heq]
      exact .refl row
    · exact hends.change.keeps
  | removed p =>
    refine ⟨Option.guard p, (congrFun List.filterMap_eq_filter _).symm, ?_⟩
    intro row _ row' hrow'
    obtain ⟨rfl, -⟩ := Option.guard_eq_some_iff.mp hrow'
    exact .refl _

lemma settle_rows {ws : List (PortForward × PortForward)} (h : ∀ w ∈ ws, w.1.Ends w.2) :
    ∃ g : PortForward → Option PortForward, db.settle ws = db.forwards.filterMap g ∧
      ∀ f ∈ db.forwards, ∀ f' ∈ g f, f.Keeps f' := by
  unfold ForwardDb.settle
  split_ifs
  · refine ⟨fun row => some (applied ws row), (List.filterMap_eq_map ..).symm ▸ rfl, ?_⟩
    intro row _ row' hrow'
    exact Option.some.inj hrow' ▸ applied_keeps h row
  · exact ⟨some, by simp, fun f _ f' hf' => Option.some.inj hf' ▸ .refl f⟩

lemma filterMap_ids_sublist {rows : List PortForward} {g : PortForward → Option PortForward}
    (h : ∀ f ∈ rows, ∀ f' ∈ g f, f.Keeps f') :
    ((rows.filterMap g).map PortForward.id).Sublist (rows.map PortForward.id) := by
  induction rows with
  | nil => exact .slnil
  | cons f rows ih =>
    have hrows := ih fun f hf => h f (List.mem_cons_of_mem _ hf)
    cases hg : g f with
    | none =>
      rw [List.filterMap_cons_none hg]
      exact hrows.cons _
    | some f' =>
      rw [List.filterMap_cons_some hg, List.map_cons, List.map_cons,
        (h f List.mem_cons_self f' hg).id]
      exact hrows.cons_cons _

lemma ForwardDb.Draws.tokens_lt (h : db.Draws db') (hdb : db.Sound) :
    ∀ t ∈ db'.connectionTokens, t.token < db'.nextId := by
  intro t ht
  rcases h.tokens t ht with ht | ht
  · exact (hdb.tokens t ht).trans_le h.nextId
  · exact ht.2

lemma ForwardDb.Draws.tokens_old (h : db.Draws db') :
    ∀ t' ∈ db'.connectionTokens, t'.token < db.nextId →
      ∃ t ∈ db.connectionTokens, t.token = t'.token := by
  intro t ht hlt
  rcases h.tokens t ht with ht | ht
  · exact ⟨t, ht, rfl⟩
  · exact absurd hlt (not_lt.mpr ht.1)

lemma follows_of_rows (hdb : db.Sound) (hdraws : db.Draws db')
    (h : ∃ g : PortForward → Option PortForward, db'.forwards = db.forwards.filterMap g ∧
      ∀ f ∈ db.forwards, ∀ f' ∈ g f, f.Keeps f') : db'.Sound ∧ db.Follows db' := by
  obtain ⟨g, hforwards, hg⟩ := h
  have hrow : ∀ f' ∈ db'.forwards, ∃ f ∈ db.forwards, f.Keeps f' := by
    intro f' hf'
    rw [hforwards] at hf'
    obtain ⟨f, hf, heq⟩ := List.mem_filterMap.mp hf'
    exact ⟨f, hf, hg f hf f' heq⟩
  refine ⟨⟨?_, fun f' hf' => ?_, hdraws.tokens_lt hdb⟩,
    hdraws.nextId, fun f' hf' _ => hrow f' hf', hdraws.tokens_old⟩
  · rw [hforwards]
    exact hdb.nodup.sublist (filterMap_ids_sublist hg)
  · obtain ⟨f, hf, hkeeps⟩ := hrow f' hf'
    rw [hkeeps.id]
    exact (hdb.ids f hf).trans_le hdraws.nextId

lemma ForwardDb.Creates.follows {settings : PortForwardSettings} {created : CreatedPortForward}
    (h : db.Creates settings db' created) (hdb : db.Sound) : db'.Sound ∧ db.Follows db' := by
  refine ⟨⟨?_, fun f hf => ?_, h.draws.tokens_lt hdb⟩, h.draws.nextId, fun f hf hlt => ?_,
    h.draws.tokens_old⟩
  · rw [h.forwards, List.map_append, List.map_singleton, h.id, List.nodup_append]
    refine ⟨hdb.nodup, List.nodup_singleton _, fun a ha b hb => ?_⟩
    obtain ⟨f, hf, rfl⟩ := List.mem_map.mp ha
    rw [List.mem_singleton.mp hb]
    exact (hdb.ids f hf).ne
  · rw [h.forwards, List.mem_append, List.mem_singleton] at hf
    rcases hf with hf | rfl
    · exact (hdb.ids f hf).trans_le h.draws.nextId
    · exact h.id ▸ h.new
  · rw [h.forwards, List.mem_append, List.mem_singleton] at hf
    rcases hf with hf | rfl
    · exact ⟨f, hf, .refl f⟩
    · rw [h.id] at hlt
      exact absurd hlt (lt_irrefl _)

end

section

variable {settings : PortForwardSettings} {world : ForwardWorld} {clock : Instant}
  {schedule : List (Scheduled ForwardTx)}

lemma commit_follows {t : ForwardTx} {seen : ℕ → ForwardDb} {db : ForwardDb} (hdb : db.Sound) :
    (t.commit settings seen db).1.Sound ∧ db.Follows (t.commit settings seen db).1 := by
  rcases commit_cases settings seen db t with
    ⟨r, created, -, -, -, hcreates⟩ | ⟨hsettle, hdraws⟩ | hmoves
  · exact hcreates.follows hdb
  · exact follows_of_rows hdb hdraws (hsettle ▸ settle_rows endings_ends)
  · exact follows_of_rows hdb hmoves.draws (hmoves.forwards.rows hdb)

lemma emptyForwardDb_sound : (emptyForwardDb world clock).Sound := by
  constructor <;> simp [emptyForwardDb]

/-- Every run keeps the tables sound. -/
theorem forwarding_ran :
    (forwarding settings world clock).Ran ForwardDb.Sound ForwardDb.Follows schedule :=
  Transactions.ran_of_step ForwardDb.Follows.refl ForwardDb.Follows.trans emptyForwardDb_sound
    (fun _ hsees _ => commit_follows hsees.before) fun _ _ => trivial

/-! ### Tokens and generations -/

lemma answered_eq {α : Type} {f : α → ForwardAnswer} (hf : Function.Injective f)
    (hfailed : ∀ a e, f a ≠ .failed e) {r : ForwardDb × Except ForwardFailure α} {a : α} :
    (answered f r).2 = f a ↔ r.2 = .ok a := by
  unfold answered
  cases r.2 with
  | error e => exact iff_of_false (fun h => hfailed a e h.symm) nofun
  | ok b => exact ⟨fun h => congrArg _ (hf h), fun h => congrArg f (Except.ok.inj h)⟩

section

variable {c : Commit ForwardDb ForwardTx} {token id : Uuid} {n : ℕ}

/-- What a redeemed token leaves. -/
structure Redemption (c : Commit ForwardDb ForwardTx) (after : ForwardDb) (token id : Uuid)
    (n : ℕ) : Prop where
  found : ∃ f ∈ c.before.forwards, f.id = id ∧ n = f.connectionGeneration + 1
  left : ∃ f ∈ after.forwards, f.id = id ∧ f.connectionGeneration = n
  stored : ∃ t ∈ c.before.connectionTokens, t.token = token
  spent : ∀ t ∈ after.connectionTokens, t.token ≠ token

lemma Redeemed.redemption
    (h : Redeemed (forwarding settings world clock) c token id n) :
    Redemption c ((forwarding settings world clock).after c) token id n := by
  obtain ⟨r, redeemed, htx, hanswer, rfl, rfl, rfl⟩ := h
  have hafter : (forwarding settings world clock).after c =
      (PortForwards.redeem settings c.seen c.before r).1 := by
    rw [Transactions.after, htx]
    rfl
  have hok : (PortForwards.redeem settings c.seen c.before r).2 = .ok redeemed := by
    rw [Transactions.answer, htx] at hanswer
    exact (answered_eq (fun _ _ => ForwardAnswer.redeemed.inj) (fun _ _ => nofun)).mp hanswer
  obtain ⟨⟨f, hf, hid, hchange, hgeneration, -, hdb⟩, hstored⟩ := redeem_eq_ok hok
  rw [hafter, hdb]
  refine ⟨⟨f, hf, hid, hgeneration⟩, ⟨redeemed.portForward, ?_, ?_, rfl⟩, hstored, ?_⟩
  · refine List.mem_map.mpr ⟨f, hf, ?_⟩
    rw [if_pos rfl, hchange.columns]
  · rw [hchange.keeps.id, hid]
  · intro t ht
    simpa using (List.mem_filter.mp ht).2

/-- The row of a forward in a later state. -/
lemma generation_le {after db : ForwardDb} (hafter : after.Sound) (h : after.Follows db)
    {f f' : PortForward} (hf : f ∈ after.forwards) (hf' : f' ∈ db.forwards)
    (hid : f'.id = f.id) : f.connectionGeneration ≤ f'.connectionGeneration := by
  obtain ⟨f₀, hf₀, hkeeps⟩ := h.forwards f' hf' (hid ▸ hafter.ids f hf)
  have heq : f₀ = f := eq_of_key_eq hafter.nodup hf₀ hf (hkeeps.id.symm.trans hid)
  exact heq ▸ hkeeps.generation

lemma redeemed_once : ((forwarding settings world clock).commits schedule).Pairwise
    fun later earlier => ∀ token id id' n n',
      Redeemed (forwarding settings world clock) earlier token id n →
        ¬Redeemed (forwarding settings world clock) later token id' n' := by
  refine (forwarding_ran.pairwise).imp_of_mem fun {later earlier} _ hearlier hfollows => ?_
  intro token id id' n n' hfirst hsecond
  obtain ⟨t, ht, htoken⟩ := hsecond.redemption.stored
  obtain ⟨t₀, ht₀, htoken₀⟩ := hfirst.redemption.stored
  have hsees := forwarding_ran.sees_of_mem hearlier
  have hlt : t.token < ((forwarding settings world clock).after earlier).nextId := by
    rw [htoken, ← htoken₀]
    exact (hsees.before.tokens t₀ ht₀).trans_le (commit_follows hsees.before).2.nextId
  obtain ⟨t', ht', htoken'⟩ := hfollows.2.tokens t ht hlt
  exact hfirst.redemption.spent t' ht' (htoken'.trans htoken)

lemma redeemed_fresh : ((forwarding settings world clock).commits schedule).Pairwise
    fun later earlier => ∀ id token token' n n',
      Redeemed (forwarding settings world clock) earlier token id n →
        Redeemed (forwarding settings world clock) later token' id n' → n < n' := by
  refine forwarding_ran.pairwise.imp fun {later earlier} hfollows => ?_
  intro id token token' n n' hfirst hsecond
  obtain ⟨f, hf, hid, hn⟩ := hfirst.redemption.left
  obtain ⟨f', hf', hid', hn'⟩ := hsecond.redemption.found
  have hle := generation_le hfollows.1 hfollows.2 hf hf' (hid'.trans hid.symm)
  omega

/-- A report that is accepted names the generation of an active forward. -/
lemma Reported.current (h : Reported (forwarding settings world clock) c id n) :
    ∃ f ∈ c.before.forwards, f.id = id ∧ f.connectionGeneration = n ∧ f.status = .active := by
  obtain ⟨r, rfl, rfl, ⟨htx, redeemed, hanswer⟩ | ⟨htx, f, hanswer⟩⟩ := h
  · rw [Transactions.answer, htx] at hanswer
    have hok := (answered_eq (fun _ _ => ForwardAnswer.redeemed.inj) (fun _ _ => nofun)).mp hanswer
    revert hok
    exact renew_cases (P := fun x => x.2 = .ok redeemed → _) (fun _ => nofun)
      (fun _ _ _ _ h => absurd h refuse_ne_ok)
      fun f hf hid hgeneration hactive _ _ _ => ⟨f, hf, hid, hgeneration, hactive⟩
  · rw [Transactions.answer, htx] at hanswer
    have hok := (answered_eq (fun _ _ => ForwardAnswer.forward.inj) (fun _ _ => nofun)).mp hanswer
    revert hok
    exact release_cases (P := fun x => x.2 = .ok f → _) (fun _ => nofun)
      fun f hf hid hgeneration hactive _ => ⟨f, hf, hid, hgeneration, hactive⟩

lemma reported_newest : ((forwarding settings world clock).commits schedule).Pairwise
    fun later earlier => ∀ id token n n',
      Redeemed (forwarding settings world clock) earlier token id n →
        Reported (forwarding settings world clock) later id n' → n ≤ n' := by
  refine forwarding_ran.pairwise.imp fun {later earlier} hfollows => ?_
  intro id token n n' hfirst hreport
  obtain ⟨f, hf, hid, hn⟩ := hfirst.redemption.left
  obtain ⟨f', hf', hid', hn', -⟩ := hreport.current
  have hle := generation_le hfollows.1 hfollows.2 hf hf' (hid'.trans hid.symm)
  omega

end

/-! ### Quotas -/

section

variable {db db' : ForwardDb} {scope : ForwardScope} {key : Uuid}

lemma PortForward.Keeps.key_eq {f f' : PortForward} (h : f.Keeps f') :
    scope.key f' = scope.key f := by
  cases scope with
  | user => exact h.userId
  | device => exact h.deviceId
  | session => exact h.sessionId

lemma count_filterMap_le {rows : List PortForward} {g : PortForward → Option PortForward}
    (h : ∀ f ∈ rows, ∀ f' ∈ g f, f.Keeps f') :
    ((rows.filterMap g).filter fun f => f.status.terminal = false ∧ scope.key f = key).length ≤
      (rows.filter fun f => f.status.terminal = false ∧ scope.key f = key).length := by
  induction rows with
  | nil => simp
  | cons f rows ih =>
    have hrows := ih fun f hf => h f (List.mem_cons_of_mem _ hf)
    cases hg : g f with
    | none =>
      rw [List.filterMap_cons_none hg, List.filter_cons]
      split_ifs
      · exact hrows.trans (Nat.le_succ _)
      · exact hrows
    | some f' =>
      have hkeeps := h f List.mem_cons_self f' hg
      rw [List.filterMap_cons_some hg, List.filter_cons, List.filter_cons]
      by_cases hcounts : f'.status.terminal = false ∧ scope.key f' = key
      · have hcounted : f.status.terminal = false ∧ scope.key f = key :=
          ⟨hkeeps.open_ hcounts.1, hkeeps.key_eq.symm.trans hcounts.2⟩
        simpa [hcounts, hcounted] using hrows
      · rw [if_neg (by simpa using hcounts)]
        split_ifs
        · exact hrows.trans (Nat.le_succ _)
        · exact hrows

lemma count_le_of_rows
    (h : ∃ g : PortForward → Option PortForward, db'.forwards = db.forwards.filterMap g ∧
      ∀ f ∈ db.forwards, ∀ f' ∈ g f, f.Keeps f') : scope.count key db' ≤ scope.count key db := by
  obtain ⟨g, hforwards, hg⟩ := h
  simp only [ForwardScope.count, ForwardDb.countActive, hforwards, decide_eq_true_eq]
  exact count_filterMap_le hg

lemma ForwardDb.Creates.count {settings : PortForwardSettings} {created : CreatedPortForward}
    (h : db.Creates settings db' created) (scope : ForwardScope) (key : Uuid) :
    scope.count key db' =
      scope.count key db + if scope.key created.portForward = key then 1 else 0 := by
  simp only [ForwardScope.count, ForwardDb.countActive, h.forwards, List.filter_append,
    List.length_append, List.filter_singleton, h.status]
  split_ifs <;> simp_all [ForwardStatus.terminal]

/-- A creation finds its quotas not yet reached. -/
lemma ForwardDb.Creates.lt_maximum {settings : PortForwardSettings} {created : CreatedPortForward}
    (h : db.Creates settings db' created) (scope : ForwardScope) :
    (scope.count (scope.key created.portForward) db : ℤ) <
      scope.maximum (settings.policy created.node) := by
  have hquotas := h.quotas
  unfold validateQuotas at hquotas
  dsimp only at hquotas
  simp only [reject_bind_eq_ok, reject_eq_ok, not_le] at hquotas
  cases scope with
  | user => exact hquotas.1
  | device => exact hquotas.2.1
  | session => exact hquotas.2.2

end

section

variable {c : Commit ForwardDb ForwardTx} {scope : ForwardScope} {key : Uuid}

lemma Created.creates {created : CreatedPortForward}
    (h : Created (forwarding settings world clock) c created) :
    c.before.Creates settings ((forwarding settings world clock).after c) created := by
  obtain ⟨r, htx, hnew, hanswer⟩ := h
  rw [Transactions.answer, htx] at hanswer
  have hok : (PortForwards.create settings c.seen c.before r).2 = .ok created :=
    (answered_eq (fun _ _ => ForwardAnswer.created.inj) (fun _ _ => nofun)).mp hanswer
  rw [Transactions.after, htx]
  rcases create_cases settings c.seen c.before r with ⟨created', -, hok', hcreates⟩ | ⟨-, hfails⟩
  · obtain rfl := Except.ok.inj (hok.symm.trans hok')
    exact hcreates
  · exact absurd hok (hfails hnew created)

/-- A commit that creates no forward of the key leaves no more of them. -/
lemma count_after_le (hsound : c.before.Sound)
    (h : ∀ created, Created (forwarding settings world clock) c created →
      scope.key created.portForward ≠ key) :
    scope.count key ((forwarding settings world clock).after c) ≤ scope.count key c.before := by
  rcases commit_cases settings c.seen c.before c.tx with
    ⟨r, created, htx, hnew, hanswer, hcreates⟩ | ⟨hsettle, -⟩ | hmoves
  · have hkey := h created ⟨r, htx, hnew, hanswer⟩
    have hcount := hcreates.count scope key
    rw [if_neg hkey] at hcount
    exact hcount.le
  · exact count_le_of_rows (hsettle ▸ settle_rows endings_ends)
  · exact count_le_of_rows (hmoves.forwards.rows hsound)

/-- The state before the last of some commits. -/
lemma before_of_commits {s : Scheduled ForwardTx} {earlier : List (Scheduled ForwardTx)}
    {rest : List (Commit ForwardDb ForwardTx)}
    (h : (forwarding settings world clock).commits (s :: earlier) = c :: rest) :
    c.before = (forwarding settings world clock).state earlier ∧
      (forwarding settings world clock).state (s :: earlier) =
        (forwarding settings world clock).after c ∧
      (forwarding settings world clock).commits earlier = rest := by
  rw [Transactions.commits_cons] at h
  obtain ⟨rfl, rfl⟩ := List.cons.inj h
  exact ⟨rfl, Transactions.state_cons _ _ _, rfl⟩

lemma quotas_kept {later earlier : List (Commit ForwardDb ForwardTx)}
    {created : CreatedPortForward}
    (hcommits : (forwarding settings world clock).commits schedule = later ++ c :: earlier)
    (hcreated : Created (forwarding settings world clock) c created)
    (hlater : ∀ c' ∈ later, ∀ created', Created (forwarding settings world clock) c' created' →
      scope.key created'.portForward ≠ scope.key created.portForward) :
    scope.count (scope.key created.portForward)
        ((forwarding settings world clock).state schedule) ≤
      scope.maximum (settings.policy created.node) := by
  induction later generalizing schedule with
  | nil =>
    cases schedule with
    | nil => cases hcommits
    | cons s rest =>
      obtain ⟨-, hstate, -⟩ := before_of_commits hcommits
      have hcount := hcreated.creates.count scope (scope.key created.portForward)
      rw [if_pos rfl] at hcount
      have hlt := hcreated.creates.lt_maximum scope
      rw [hstate, hcount]
      push_cast
      omega
  | cons c' later ih =>
    cases schedule with
    | nil => cases hcommits
    | cons s rest =>
      obtain ⟨hbefore, hstate, hrest⟩ := before_of_commits hcommits
      have hkept := ih hrest fun c'' hc'' => hlater c'' (List.mem_cons_of_mem _ hc'')
      have hsound : c'.before.Sound := hbefore ▸ forwarding_ran.sound 0
      have hle := count_after_le hsound (hlater c' List.mem_cons_self)
      rw [hbefore] at hle
      rw [hstate]
      exact (Int.ofNat_le.mpr hle).trans hkept

lemma count_eq_zero
    (h : ∀ c ∈ (forwarding settings world clock).commits schedule, ∀ created,
      Created (forwarding settings world clock) c created →
        scope.key created.portForward ≠ key) :
    scope.count key ((forwarding settings world clock).state schedule) = 0 := by
  induction schedule with
  | nil => rfl
  | cons s rest ih =>
    rw [Transactions.commits_cons] at h
    have hrest := ih fun c hc => h c (List.mem_cons_of_mem _ hc)
    have hsound : ((forwarding settings world clock).state rest).Sound := forwarding_ran.sound 0
    have hle := count_after_le hsound (h _ List.mem_cons_self)
    rw [Transactions.state_cons]
    exact Nat.le_zero.mp (hle.trans hrest.le)

end

end

end AgentRemote.PortForwards
