import AgentRemote.PortForwards.Lifecycle

/-!
# The traffic of a port forward

A node reports what its connection has carried so far, again and again, late or twice, and each
connection starts from zero. The totals of a forward are the sums over its generations of the
largest report accepted for each.
-/

namespace AgentRemote.PortForwards
open Library

/-- What is counted of a forward. -/
inductive TrafficCounter where
  | bytesUp
  | bytesDown
  | connections

namespace TrafficCounter

def total : TrafficCounter → PortForward → ℤ
  | bytesUp => PortForward.bytesUp
  | bytesDown => PortForward.bytesDown
  | connections => PortForward.connectionCount

/-- The largest value of the current generation. -/
def generation : TrafficCounter → PortForward → ℤ
  | bytesUp => PortForward.generationBytesUp
  | bytesDown => PortForward.generationBytesDown
  | connections => PortForward.generationConnectionCount

def reported : TrafficCounter → ForwardReport → ℤ
  | bytesUp => ForwardReport.bytesUpTotal
  | bytesDown => ForwardReport.bytesDownTotal
  | connections => ForwardReport.connectionCountTotal

/-- The largest value reported, nothing at all being zero. -/
def largest (k : TrafficCounter) (reports : List ForwardReport) : ℤ :=
  (reports.map k.reported).foldr max 0

end TrafficCounter

/-- The forward counts what it counted. -/
structure PortForward.SameTraffic (f f' : PortForward) : Prop where
  generation : f'.connectionGeneration = f.connectionGeneration
  totals : ∀ k : TrafficCounter, k.total f' = k.total f
  current : ∀ k : TrafficCounter, k.generation f' = k.generation f

/-- The traffic a node reports with a transaction. -/
def ForwardTx.report : ForwardTx → Option ForwardReport
  | .renew r | .release r => some r
  | _ => none

def ForwardAnswer.ok : ForwardAnswer → Bool
  | .failed _ => false
  | _ => true

/-- The report of a transaction, if its answer accepts it. -/
def ForwardTx.acceptedReport (t : ForwardTx) (answer : ForwardAnswer) : Option ForwardReport :=
  if answer.ok then t.report else none

/-- The reports for a generation of a forward. -/
def ofGeneration (id : Uuid) (generation : ℕ) (reports : List ForwardReport) :
    List ForwardReport :=
  reports.filter fun r => r.forwardId = id ∧ r.generation = generation

section

variable (S : Transactions ForwardDb ForwardTx ForwardAnswer)

def accepted (c : Commit ForwardDb ForwardTx) : Option ForwardReport :=
  c.tx.acceptedReport (S.answer c)

/-- The reports that a run accepts, the latest first. -/
def acceptedReports (schedule : List (Scheduled ForwardTx)) : List ForwardReport :=
  (S.commits schedule).filterMap (accepted S)

/-- What must hold of the traffic that a run counts. -/
structure TrafficAccounting (schedule : List (Scheduled ForwardTx)) : Prop where
  exact : ∀ f ∈ (S.state schedule).forwards, ∀ (k : TrafficCounter) (n : ℕ),
    f.connectionGeneration < n → k.total f = ∑ i ∈ Finset.range n,
      k.largest (ofGeneration f.id i (acceptedReports S schedule))
  increasing : ∀ c ∈ S.commits schedule, ∀ f ∈ c.before.forwards,
    ∀ f' ∈ (S.after c).forwards, f'.id = f.id → ∀ k : TrafficCounter, k.total f ≤ k.total f'
  repeated : (S.commits schedule).Pairwise fun later earlier =>
    ∀ r, accepted S earlier = some r → accepted S later = some r →
      ∀ f ∈ later.before.forwards, ∀ f' ∈ (S.after later).forwards, f'.id = f.id →
        f.SameTraffic f'
  commute : ∀ (s s' : Scheduled ForwardTx) (r r' : ForwardReport),
    accepted S (S.next schedule s) = some r →
    accepted S (S.next (s :: schedule) s') = some r' →
    accepted S (S.next schedule s') = some r' →
    accepted S (S.next (s' :: schedule) s) = some r →
    ∀ f ∈ (S.state (s' :: s :: schedule)).forwards,
      ∀ f' ∈ (S.state (s :: s' :: schedule)).forwards, f'.id = f.id → f.SameTraffic f'
  reordered : ∀ other, (acceptedReports S other).Perm (acceptedReports S schedule) →
    ∀ f ∈ (S.state schedule).forwards, ∀ f' ∈ (S.state other).forwards, f'.id = f.id →
      ∀ k : TrafficCounter, k.total f' = k.total f
  refused : ∀ c ∈ S.commits schedule, (S.answer c).ok = false →
    ∀ f ∈ c.before.forwards, ∀ f' ∈ (S.after c).forwards, f'.id = f.id → f.SameTraffic f'

end

/-! ### Rows -/

section

variable {f f' f'' new copy row : PortForward} {db db' : ForwardDb} {refusal : Refusal}
  {settings : PortForwardSettings} {seen : ℕ → ForwardDb} {ok : Bool}

lemma PortForward.SameTraffic.refl (f : PortForward) : f.SameTraffic f :=
  ⟨rfl, fun _ => rfl, fun _ => rfl⟩

lemma PortForward.SameTraffic.trans (h : f.SameTraffic f') (h' : f'.SameTraffic f'') :
    f.SameTraffic f'' where
  generation := h'.generation.trans h.generation
  totals k := (h'.totals k).trans (h.totals k)
  current k := (h'.current k).trans (h.current k)

lemma ended_traffic (f : PortForward) (status : ForwardStatus) (reason : String) (now : Instant) :
    f.SameTraffic (f.ended status reason now) where
  generation := rfl
  totals k := by cases k <;> rfl
  current k := by cases k <;> rfl

lemma PortForward.Ends.traffic (h : f.Ends new) : f.SameTraffic new := by
  obtain ⟨reason, now, he⟩ := h.ended
  rw [he]
  exact ended_traffic f _ reason now

/-- A forward that ends on an unlocked copy keeps what it has counted since. -/
lemma PortForward.Ends.traffic_updated (h : copy.Ends new) :
    row.SameTraffic (row.updated copy new) := by
  obtain ⟨reason, now, he⟩ := h.ended
  rw [he, updated_ended]
  exact {
    generation := rfl
    totals := fun k => by cases k <;> rfl
    current := fun k => by cases k <;> rfl }

lemma applied_traffic {ws : List (PortForward × PortForward)} (h : ∀ w ∈ ws, w.1.Ends w.2)
    (row : PortForward) : row.SameTraffic (applied ws row) := by
  induction ws generalizing row with
  | nil => exact .refl row
  | cons w ws ih =>
    have hws := ih fun w' hw' => h w' (List.mem_cons_of_mem _ hw')
    have hcons : applied (w :: ws) row =
        applied ws (if row.id = w.1.id then row.updated w.1 w.2 else row) := rfl
    rw [hcons]
    split_ifs with hid
    · exact (h w List.mem_cons_self).traffic_updated.trans (hws _)
    · exact hws row

/-- The next generation starts from zero. -/
structure PortForward.Reconnects (f f' : PortForward) : Prop where
  generation : f'.connectionGeneration = f.connectionGeneration + 1
  totals : ∀ k : TrafficCounter, k.total f' = k.total f
  current : ∀ k : TrafficCounter, k.generation f' = 0

lemma connected_reconnects {key : Option Uuid} {now leaseNow : Instant}
    {policy : PortForwardPolicy} :
    f.Reconnects (PortForward.connected { f with sshKeyId := key } now leaseNow policy) where
  generation := rfl
  totals k := by cases k <;> rfl
  current k := by cases k <;> rfl

/-- What a report adds to a forward of its generation. -/
structure PortForward.Counts (f : PortForward) (r : ForwardReport) (f' : PortForward) : Prop where
  generation : f'.connectionGeneration = f.connectionGeneration
  totals : ∀ k : TrafficCounter,
    k.total f' = k.total f + (max (k.generation f) (k.reported r) - k.generation f)
  current : ∀ k : TrafficCounter, k.generation f' = max (k.generation f) (k.reported r)

lemma counted_counts {r : ForwardReport} {status : ForwardStatus} {lease : Option Instant} :
    f.Counts r { f.counted r with status := status, leaseExpiresAt := lease } where
  generation := rfl
  totals k := by cases k <;> rfl
  current k := by cases k <;> rfl

/-- A forward after a commit, told from the forwards before it, the report that the commit
accepts and whether its answer is no failure. -/
inductive ForwardDb.Accounts (db : ForwardDb) (report : Option ForwardReport) (ok : Bool)
    (f' : PortForward) : Prop
  | kept (f : PortForward) : f ∈ db.forwards → f'.id = f.id → f.SameTraffic f' →
    (∀ r ∈ report, r.forwardId ≠ f.id) → db.Accounts report ok f'
  | created : f'.id = db.nextId → f'.connectionGeneration = 0 →
    (∀ k : TrafficCounter, k.total f' = 0 ∧ k.generation f' = 0) → report = none →
    db.Accounts report ok f'
  | connected (f : PortForward) : f ∈ db.forwards → f'.id = f.id → f.Reconnects f' →
    report = none → ok = true → db.Accounts report ok f'
  | counted (f : PortForward) (r : ForwardReport) : f ∈ db.forwards → f'.id = f.id →
    f.Counts r f' → report = some r → r.forwardId = f.id →
    r.generation = f.connectionGeneration → db.Accounts report ok f'

/-- A row that stays. -/
lemma accounts_self (hf : f ∈ db.forwards) : db.Accounts none ok f :=
  .kept f hf rfl (.refl f) fun _ h => nomatch h

/-! ### One commit -/

/-- The rows of a forward that was changed while it was locked. -/
lemma setForward_rows (hdb : db.Sound) (hf : f ∈ db.forwards) (h : f.Change new)
    (hf' : f' ∈ (db.setForward f new).forwards) :
    f' = new ∨ f' ∈ db.forwards ∧ f'.id ≠ f.id := by
  rw [setForward_forwards] at hf'
  obtain ⟨row, hrow, rfl⟩ := List.mem_map.mp hf'
  rw [setForward_apply hdb hf h hrow]
  split_ifs with hid
  · exact .inl rfl
  · exact .inr ⟨hrow, hid⟩

/-- A locked forward that keeps its traffic. -/
lemma setForward_kept (hdb : db.Sound) (hf : f ∈ db.forwards) (h : f.Change new)
    (htraffic : f.SameTraffic new) (hf' : f' ∈ (db.setForward f new).forwards) :
    db.Accounts none ok f' := by
  rcases setForward_rows hdb hf h hf' with rfl | ⟨hrow, -⟩
  · exact .kept f hf h.keeps.id htraffic fun _ h => nomatch h
  · exact accounts_self hrow

/-- A locked forward that counts a report. -/
lemma setForward_counted {r : ForwardReport} (hdb : db.Sound) (hf : f ∈ db.forwards)
    (h : f.Change new) (hcounts : f.Counts r new) (hid : f.id = r.forwardId)
    (hgeneration : f.connectionGeneration = r.generation)
    (hf' : f' ∈ (db.setForward f new).forwards) : db.Accounts (some r) ok f' := by
  rcases setForward_rows hdb hf h hf' with rfl | ⟨hrow, hne⟩
  · exact .counted f r hf h.keeps.id hcounts rfl hid.symm hgeneration.symm
  · refine .kept f' hrow rfl (.refl f') fun r' hr' heq => hne ?_
    obtain rfl := Option.some.inj hr'
    exact heq.symm.trans hid.symm

lemma settle_kept {ws : List (PortForward × PortForward)} (h : ∀ w ∈ ws, w.1.Ends w.2)
    (hf' : f' ∈ db.settle ws) : db.Accounts none ok f' := by
  unfold ForwardDb.settle at hf'
  split_ifs at hf'
  · obtain ⟨row, hrow, rfl⟩ := List.mem_map.mp hf'
    exact .kept row hrow (applied_keeps h row).id (applied_traffic h row) fun _ h => nomatch h
  · exact accounts_self hf'

/-- A refusal commits what its forward counted. -/
lemma refuse_kept {α : Type} (hdb : db.Sound) (hf : f ∈ db.forwards)
    (h : refusal.Settles f) (htraffic : ∀ new ∈ refusal.settled, f.SameTraffic new)
    (hf' : f' ∈ (db.refuse (α := α) f refusal).1.forwards) : db.Accounts none ok f' := by
  unfold ForwardDb.refuse at hf'
  split at hf'
  · exact accounts_self hf'
  · rename_i new hnew
    rw [update_of_mem hf] at hf'
    exact setForward_kept hdb hf (h new hnew).1 (htraffic new hnew) hf'

lemma refuse_ends_kept {α : Type} (hdb : db.Sound) (hf : f ∈ db.forwards) (h : refusal.Ends f)
    (hf' : f' ∈ (db.refuse (α := α) f refusal).1.forwards) : db.Accounts none ok f' :=
  refuse_kept hdb hf h.settles (fun new hnew => (h new hnew).traffic) hf'

/-- A repeated request draws a token and leaves the forwards. -/
lemma createAgain_forwards {r : CreateForward} {deviceId : Uuid} {created : CreatedPortForward}
    (h : createAgain settings seen db r deviceId f = .ok (db', created)) :
    db'.forwards = db.forwards := by
  unfold createAgain at h
  simp only [reject_bind_eq_ok] at h
  obtain ⟨-, -, h⟩ := bind_eq_ok.mp h.2.2.2
  obtain ⟨_, -, h⟩ := bind_eq_ok.mp h
  obtain ⟨_, -, h⟩ := bind_eq_ok.mp h
  obtain ⟨⟨after, connection⟩, hissue, h⟩ := bind_eq_ok.mp h
  obtain ⟨rfl, -⟩ := Prod.mk.inj (Except.ok.inj h)
  exact (issueConnection_eq_ok (mapError_eq_ok.mp hissue)).1

lemma createNew_accounts {r : CreateForward} {deviceId : Uuid} {created : CreatedPortForward}
    (h : createNew settings seen db r deviceId = .ok (db', created)) (hf' : f' ∈ db'.forwards) :
    db.Accounts none ok f' := by
  unfold createNew at h
  obtain ⟨⟨device, toolSession, node⟩, -, h⟩ := bind_eq_ok.mp h
  dsimp only at h
  rw [reject_bind_eq_ok] at h
  obtain ⟨-, h⟩ := h
  obtain ⟨⟨after, connection⟩, hissue, h⟩ := bind_eq_ok.mp h
  obtain ⟨rfl, -⟩ := Prod.mk.inj (Except.ok.inj h)
  rw [(issueConnection_eq_ok hissue).1] at hf'
  rcases List.mem_append.mp hf' with hold | hnew
  · exact accounts_self hold
  · obtain rfl := List.mem_singleton.mp hnew
    refine .created rfl rfl (fun k => ?_) rfl
    cases k <;> exact ⟨rfl, rfl⟩

lemma create_accounts (hdb : db.Sound) (r : CreateForward)
    (hf' : f' ∈ (create settings seen db r).1.forwards) : db.Accounts none ok f' := by
  unfold create at hf'
  split at hf'
  · exact accounts_self hf'
  · split at hf'
    · rename_i prior hprior
      split at hf'
      · rename_i refusal hrefusal
        exact refuse_ends_kept hdb (getByCaller_mem hprior) (createAgain_ends _ hrefusal) hf'
      · rename_i after created hafter
        rw [createAgain_forwards hafter] at hf'
        exact accounts_self hf'
    · split at hf'
      · exact accounts_self hf'
      · rename_i after created hafter
        exact createNew_accounts hafter hf'

/-- What `redeem` commits when it refuses the claims of the token it has consumed. -/
lemma redeemClaims_traffic {r : RedeemForward} {claims : Option ConnectionToken} :
    FailsWith (fun refusal => ∀ new ∈ refusal.settled, f.SameTraffic new)
      (redeemClaims settings seen r f claims) := by
  have hof : ∀ e : ForwardFailure, ∀ new ∈ (Refusal.of e).settled, f.SameTraffic new :=
    fun _ _ h => nomatch h
  unfold redeemClaims
  split
  · exact failsWith_error.mpr (hof _)
  · refine FailsWith.reject_bind (hof _) fun _ => ?_
    refine FailsWith.bind (fun refusal hrefusal new hnew => ?_) fun _ _ => failsWith_ok _
    have htraffic := (requireRuntimeAuthorization_ends _ hrefusal new hnew).traffic
    exact {
      generation := htraffic.generation
      totals := fun k => (htraffic.totals k).trans (by cases k <;> rfl)
      current := fun k => (htraffic.current k).trans (by cases k <;> rfl) }

lemma redeem_accounts (hdb : db.Sound) (r : RedeemForward) :
    ∀ f' ∈ (PortForwards.redeem settings seen db r).1.forwards,
      db.Accounts none (answered .redeemed (PortForwards.redeem settings seen db r)).2.ok f' := by
  refine redeem_cases (P := fun x => ∀ f' ∈ x.1.forwards,
    db.Accounts none (answered .redeemed x).2.ok f') ?_ ?_ ?_ ?_
  · exact fun f' hf' => accounts_self hf'
  · intro f hf refusal hrefusal f' hf'
    exact refuse_ends_kept hdb hf hrefusal hf'
  · intro f hf refusal hrefusal f' hf'
    have hconsumed : (db.consume r.connectToken).Sound :=
      ⟨hdb.nodup, hdb.ids, fun t ht => hdb.tokens t (List.mem_filter.mp ht).1⟩
    have haccounts (ok : Bool) : (db.consume r.connectToken).Accounts none ok f' :=
      refuse_kept hconsumed hf (redeemClaims_settles _ hrefusal)
        (redeemClaims_traffic _ hrefusal) hf'
    cases haccounts _ with
    | kept f hf hid htraffic hr => exact .kept f hf hid htraffic hr
    | created hid hgeneration hzero hr => exact .created hid hgeneration hzero hr
    | connected f hf hid hreconnects hr hok => exact .connected f hf hid hreconnects hr hok
    | counted f r hf hid hcounts hr => cases hr
  · intro f hf _ hopen a ha f' hf'
    obtain ⟨-, key, hnew⟩ := redeemClaims_eq_ok ha
    have hchange : f.Change a.portForward := hnew ▸ connected_change hopen
    have hf' : f' ∈ (db.setForward f a.portForward).forwards := hf'
    rcases setForward_rows hdb hf hchange hf' with rfl | ⟨hrow, -⟩
    · exact .connected f hf hchange.keeps.id (hnew ▸ connected_reconnects) rfl rfl
    · exact accounts_self hrow

/-- What `renew` leaves, with the report it accepts. -/
lemma renew_accounts (hdb : db.Sound) (r : ForwardReport) :
    ∀ f' ∈ (PortForwards.renew settings seen db r).1.forwards,
      db.Accounts (ForwardTx.acceptedReport (.renew r)
        (answered .redeemed (PortForwards.renew settings seen db r)).2) ok f' := by
  refine renew_cases (P := fun x => ∀ f' ∈ x.1.forwards,
    db.Accounts (ForwardTx.acceptedReport (.renew r) (answered .redeemed x).2) ok f') ?_ ?_ ?_
  · exact fun e f' hf' => accounts_self hf'
  · intro f hf refusal hrefusal f' hf'
    have hfailed : ForwardTx.acceptedReport (.renew r)
        (answered .redeemed (db.refuse f refusal)).2 = none := by
      unfold answered
      cases h : (db.refuse f refusal).2 with
      | error e => rfl
      | ok a => exact absurd h refuse_ne_ok
    rw [hfailed]
    exact refuse_ends_kept hdb hf hrefusal hf'
  · intro f hf hid hgeneration hactive toolSession policy new f' hf'
    exact setForward_counted hdb hf (renewed_change hactive) counted_counts hid hgeneration hf'

lemma release_accounts (hdb : db.Sound) (r : ForwardReport) :
    ∀ f' ∈ (PortForwards.release db r).1.forwards,
      db.Accounts (ForwardTx.acceptedReport (.release r)
        (answered .forward (PortForwards.release db r)).2) ok f' := by
  refine release_cases (P := fun x => ∀ f' ∈ x.1.forwards,
    db.Accounts (ForwardTx.acceptedReport (.release r) (answered .forward x).2) ok f') ?_ ?_
  · exact fun e f' hf' => accounts_self hf'
  · intro f hf hid hgeneration hactive new f' hf'
    exact setForward_counted hdb hf (released_change hactive) counted_counts hid hgeneration hf'

lemma cleanedUp_traffic {cleaned : PortForward × ℕ} (h : cleanedUp settings seen f = some cleaned) :
    f.SameTraffic cleaned.1 := by
  unfold cleanedUp at h
  by_cases hterminal : f.status.terminal = true
  · rw [if_pos hterminal] at h
    cases h
  rw [if_neg hterminal] at h
  split at h
  · rename_i refusal hrefusal
    obtain ⟨new, hnew, rfl⟩ := Option.map_eq_some_iff.mp h
    exact (ensureNonTerminal_ends _ hrefusal new hnew).traffic
  · split at h
    · rename_i refusal hrefusal
      split at h
      · rename_i new hnew
        obtain rfl := Option.some.inj h
        exact (requireRuntimeAuthorization_ends _ hrefusal new hnew).traffic
      · split_ifs at h
        obtain rfl := Option.some.inj h
        exact ended_traffic f _ _ _
    · split_ifs at h
      obtain rfl := Option.some.inj h
      exact ⟨rfl, fun k => by cases k <;> rfl, fun k => by cases k <;> rfl⟩

lemma cleanup_accounts (hdb : db.Sound) (id : Uuid)
    (hf' : f' ∈ (PortForwards.cleanup settings seen db id).1.forwards) :
    db.Accounts none ok f' := by
  unfold PortForwards.cleanup at hf'
  split at hf'
  · exact accounts_self hf'
  · rename_i f hlookup
    split at hf'
    · exact accounts_self hf'
    · rename_i new changed hcleaned
      have hf := mem_of_lookup hlookup
      rw [update_of_mem hf] at hf'
      exact setForward_kept hdb hf (cleanedUp_change hcleaned).1 (cleanedUp_traffic hcleaned) hf'

lemma revokePortForwards_accounts (owner : RevokedOwner) (reason : String)
    (hf' : f' ∈ (revokePortForwards seen db owner reason).1.forwards) : db.Accounts none ok f' := by
  obtain ⟨row, hrow, rfl⟩ := List.mem_map.mp hf'
  split_ifs
  · exact .kept row hrow rfl (ended_traffic row _ _ _) fun _ h => nomatch h
  · exact accounts_self hrow

lemma acceptedReport_none {t : ForwardTx} {answer : ForwardAnswer} (h : t.report = none) :
    t.acceptedReport answer = none := by
  unfold ForwardTx.acceptedReport
  rw [h, ite_self]

lemma unlocked_accounts {t : ForwardTx} (h : t.unlocked = true)
    (hf' : f' ∈ (t.commit settings seen db).1.forwards) :
    db.Accounts (t.acceptedReport (t.commit settings seen db).2)
      (t.commit settings seen db).2.ok f' := by
  have hreport : t.report = none := by
    cases t with
    | renew r => cases h
    | release r => cases h
    | _ => rfl
  rw [acceptedReport_none hreport]
  rw [commit_unlocked h] at hf'
  exact settle_kept endings_ends hf'

/-- Every commit accounts for the forwards it leaves. -/
lemma commit_accounts (hdb : db.Sound) (t : ForwardTx)
    (hf' : f' ∈ (t.commit settings seen db).1.forwards) :
    db.Accounts (t.acceptedReport (t.commit settings seen db).2)
      (t.commit settings seen db).2.ok f' := by
  cases t with
  | renew r => exact renew_accounts hdb r f' hf'
  | release r => exact release_accounts hdb r f' hf'
  | create r =>
    rw [acceptedReport_none rfl]
    exact create_accounts hdb r hf'
  | list user allUsers => exact unlocked_accounts rfl hf'
  | get user id => exact unlocked_accounts rfl hf'
  | issueConnection userId tokenDeviceId storeUp id => exact unlocked_accounts rfl hf'
  | stop user id => exact unlocked_accounts rfl hf'
  | redeem r =>
    rw [acceptedReport_none rfl]
    exact redeem_accounts hdb r f' hf'
  | cleanup id =>
    rw [acceptedReport_none rfl]
    exact cleanup_accounts hdb id hf'
  | revoke owner reason =>
    rw [acceptedReport_none rfl]
    exact revokePortForwards_accounts owner reason hf'
  | world rows =>
    rw [acceptedReport_none rfl]
    exact accounts_self (List.mem_filter.mp hf').1
  | tick elapsed =>
    rw [acceptedReport_none rfl]
    exact accounts_self hf'

/-- What a commit does to the traffic of a forward that was there before. -/
lemma commit_row (hdb : db.Sound) (t : ForwardTx) (hf : f ∈ db.forwards)
    (hf' : f' ∈ (t.commit settings seen db).1.forwards) (hid : f'.id = f.id)
    {P : Prop} (kept : f.SameTraffic f' →
      (∀ r ∈ t.acceptedReport (t.commit settings seen db).2, r.forwardId ≠ f.id) → P)
    (connected : f.Reconnects f' → t.acceptedReport (t.commit settings seen db).2 = none →
      (t.commit settings seen db).2.ok = true → P)
    (counted : ∀ r, t.acceptedReport (t.commit settings seen db).2 = some r → f.Counts r f' →
      r.forwardId = f.id → r.generation = f.connectionGeneration → P) : P := by
  have hsame : ∀ row ∈ db.forwards, f'.id = row.id → row = f := fun row hrow heq =>
    eq_of_key_eq hdb.nodup hrow hf (heq.symm.trans hid)
  cases commit_accounts hdb t hf' with
  | kept row hrow heq htraffic hr =>
    obtain rfl := hsame row hrow heq
    exact kept htraffic hr
  | created heq => exact absurd (hdb.ids f hf) (by rw [← hid, heq]; exact lt_irrefl _)
  | connected row hrow heq hreconnects hr hok =>
    obtain rfl := hsame row hrow heq
    exact connected hreconnects hr hok
  | counted row r hrow heq hcounts hr hforward hgeneration =>
    obtain rfl := hsame row hrow heq
    exact counted r hr hcounts hforward hgeneration

/-- An accepted report is for a forward that is there. -/
lemma acceptedReport_found {t : ForwardTx} {r : ForwardReport}
    (h : t.acceptedReport (t.commit settings seen db).2 = some r) :
    ∃ f ∈ db.forwards, f.id = r.forwardId := by
  cases t with
  | renew r' =>
    revert h
    refine renew_cases (P := fun x => ForwardTx.acceptedReport (.renew r')
      (answered .redeemed x).2 = some r → ∃ f ∈ db.forwards, f.id = r.forwardId) nofun ?_ ?_
    · intro f hf refusal _ h
      unfold answered at h
      cases hrefuse : (db.refuse f refusal).2 with
      | error e =>
        rw [hrefuse] at h
        cases h
      | ok a => exact absurd hrefuse refuse_ne_ok
    · intro f hf hid _ _ _ _ new h
      obtain rfl := Option.some.inj h
      exact ⟨f, hf, hid⟩
  | release r' =>
    revert h
    refine release_cases (P := fun x => ForwardTx.acceptedReport (.release r')
      (answered .forward x).2 = some r → ∃ f ∈ db.forwards, f.id = r.forwardId) nofun ?_
    intro f hf hid _ _ new h
    obtain rfl := Option.some.inj h
    exact ⟨f, hf, hid⟩
  | _ =>
    rw [acceptedReport_none rfl] at h
    cases h

end

/-! ### Reports -/

section

variable {reports reports' : List ForwardReport} {report : Option ForwardReport}
  {r : ForwardReport} {id : Uuid} {n : ℕ} {k : TrafficCounter}

@[simp] lemma largest_nil : k.largest [] = 0 := rfl

lemma largest_cons : k.largest (r :: reports) = max (k.reported r) (k.largest reports) := rfl

lemma reported_le_largest (h : r ∈ reports) : k.reported r ≤ k.largest reports := by
  induction reports with
  | nil => cases h
  | cons r' reports ih =>
    rw [largest_cons]
    rcases List.mem_cons.mp h with rfl | h
    · exact le_max_left _ _
    · exact (ih h).trans (le_max_right _ _)

lemma largest_perm (h : reports.Perm reports') : k.largest reports = k.largest reports' :=
  (h.map k.reported).foldr_eq 0

lemma mem_ofGeneration :
    r ∈ ofGeneration id n reports ↔ r ∈ reports ∧ r.forwardId = id ∧ r.generation = n := by
  simp [ofGeneration]

lemma ofGeneration_eq_nil (h : ∀ r ∈ reports, r.forwardId = id → r.generation ≠ n) :
    ofGeneration id n reports = [] := by
  rw [List.eq_nil_iff_forall_not_mem]
  intro r hr
  obtain ⟨hmem, hid, hn⟩ := mem_ofGeneration.mp hr
  exact h r hmem hid hn

/-- A report for another generation. -/
lemma ofGeneration_append_of_ne (h : ∀ r ∈ report, r.forwardId = id → r.generation ≠ n) :
    ofGeneration id n (report.toList ++ reports) = ofGeneration id n reports := by
  have hnil : ofGeneration id n report.toList = [] :=
    ofGeneration_eq_nil fun r hr => h r (Option.mem_toList.mp hr)
  unfold ofGeneration at *
  rw [List.filter_append, hnil, List.nil_append]

lemma ofGeneration_cons_self (hid : r.forwardId = id) (hn : r.generation = n) :
    ofGeneration id n (r :: reports) = r :: ofGeneration id n reports :=
  List.filter_cons_of_pos (by simp [hid, hn])

end

/-! ### Runs -/

/-- The forwards have counted the reports. -/
structure ForwardDb.Counted (db : ForwardDb) (reports : List ForwardReport) : Prop where
  totals : ∀ f ∈ db.forwards, ∀ k : TrafficCounter,
    k.total f = ∑ i ∈ Finset.range f.connectionGeneration,
      k.largest (ofGeneration f.id i reports) + k.generation f
  current : ∀ f ∈ db.forwards, ∀ k : TrafficCounter,
    k.generation f = k.largest (ofGeneration f.id f.connectionGeneration reports)
  ids : ∀ r ∈ reports, r.forwardId < db.nextId
  generations : ∀ r ∈ reports, ∀ f ∈ db.forwards, r.forwardId = f.id →
    r.generation ≤ f.connectionGeneration

section

variable {f f' : PortForward} {db : ForwardDb} {reports : List ForwardReport}
  {settings : PortForwardSettings} {seen : ℕ → ForwardDb}

/-- A forward has counted all generations there are. -/
lemma ForwardDb.Counted.exact (h : db.Counted reports) (hf : f ∈ db.forwards)
    (k : TrafficCounter) {n : ℕ} (hn : f.connectionGeneration < n) :
    k.total f = ∑ i ∈ Finset.range n, k.largest (ofGeneration f.id i reports) := by
  have hsub : Finset.range (f.connectionGeneration + 1) ⊆ Finset.range n := by
    intro i hi
    rw [Finset.mem_range] at *
    omega
  rw [h.totals f hf k, h.current f hf k, ← Finset.sum_range_succ]
  refine Finset.sum_subset hsub fun i _ hi => ?_
  have hnil : ofGeneration f.id i reports = [] := by
    refine ofGeneration_eq_nil fun r hr hid heq => hi ?_
    have hle := h.generations r hr f hf hid
    rw [Finset.mem_range]
    omega
  rw [hnil, largest_nil]

/-- A forward that counts its first reports. -/
lemma ForwardDb.Counted.created (h : db.Counted reports) (hid : f'.id = db.nextId) (i : ℕ) :
    ofGeneration f'.id i reports = [] := by
  refine ofGeneration_eq_nil fun r hr heq _ => ?_
  have hlt := h.ids r hr
  rw [heq, hid] at hlt
  exact lt_irrefl _ hlt

/-- What a commit makes of what was counted. -/
lemma commit_counted (hdb : db.Sound) (h : db.Counted reports) (t : ForwardTx) :
    (t.commit settings seen db).1.Counted
      ((t.acceptedReport (t.commit settings seen db).2).toList ++ reports) where
  totals f' hf' k := by
    cases commit_accounts hdb t hf' with
    | kept f hf hid htraffic hr =>
      have hkept : ∀ i, ofGeneration f.id i
          ((t.acceptedReport (t.commit settings seen db).2).toList ++ reports) =
            ofGeneration f.id i reports :=
        fun i => ofGeneration_append_of_ne fun r hmem heq => absurd heq (hr r hmem)
      rw [htraffic.totals k, htraffic.current k, htraffic.generation, hid, h.totals f hf k]
      simp only [hkept]
    | created hid hgeneration hzero hr =>
      rw [hgeneration, (hzero k).1, (hzero k).2]
      rfl
    | connected f hf hid hreconnects hr =>
      rw [hr, Option.toList_none, List.nil_append, hreconnects.totals k, hreconnects.current k,
        hreconnects.generation, hid, h.exact hf k (Nat.lt_succ_self _), add_zero]
    | counted f r hf hid hcounts hr hforward hgeneration =>
      have hsealed : ∀ i ∈ Finset.range f.connectionGeneration,
          k.largest (ofGeneration f.id i
            ((t.acceptedReport (t.commit settings seen db).2).toList ++ reports)) =
              k.largest (ofGeneration f.id i reports) := by
        intro i hi
        rw [ofGeneration_append_of_ne]
        intro r' hr' _
        obtain rfl := Option.some.inj (hr.symm.trans hr')
        have hlt := Finset.mem_range.mp hi
        omega
      rw [hcounts.totals k, hcounts.current k, hcounts.generation, hid, h.totals f hf k,
        Finset.sum_congr rfl hsealed]
      ring
  current f' hf' k := by
    cases commit_accounts hdb t hf' with
    | kept f hf hid htraffic hr =>
      rw [htraffic.current k, htraffic.generation, hid, h.current f hf k,
        ofGeneration_append_of_ne fun r hmem heq => absurd heq (hr r hmem)]
    | created hid hgeneration hzero hr =>
      rw [hr, Option.toList_none, List.nil_append, h.created hid, (hzero k).2, largest_nil]
    | connected f hf hid hreconnects hr =>
      have hnil : ofGeneration f.id (f.connectionGeneration + 1) reports = [] := by
        refine ofGeneration_eq_nil fun r hr hforward heq => ?_
        have hle := h.generations r hr f hf hforward
        omega
      rw [hr, Option.toList_none, List.nil_append, hreconnects.current k, hreconnects.generation,
        hid, hnil, largest_nil]
    | counted f r hf hid hcounts hr hforward hgeneration =>
      rw [hr, Option.toList_some, List.singleton_append, hcounts.current k, hcounts.generation,
        hid, ofGeneration_cons_self hforward hgeneration, largest_cons, h.current f hf k, max_comm]
  ids r hr := by
    have hnext : db.nextId ≤ (t.commit settings seen db).1.nextId := (commit_follows hdb).2.nextId
    rcases List.mem_append.mp hr with hr | hr
    · obtain ⟨f, hf, hid⟩ := acceptedReport_found (Option.mem_toList.mp hr)
      exact hid ▸ (hdb.ids f hf).trans_le hnext
    · exact (h.ids r hr).trans_le hnext
  generations r hr f' hf' heq := by
    cases commit_accounts hdb t hf' with
    | kept f hf hid htraffic hreport =>
      rcases List.mem_append.mp hr with hr | hr
      · exact absurd (heq.trans hid) (hreport r (Option.mem_toList.mp hr))
      · rw [htraffic.generation]
        exact h.generations r hr f hf (heq.trans hid)
    | created hid hgeneration hzero hreport =>
      rw [hreport] at hr
      have hlt := h.ids r hr
      rw [heq, hid] at hlt
      exact absurd hlt (lt_irrefl _)
    | connected f hf hid hreconnects hreport =>
      rw [hreport] at hr
      rw [hreconnects.generation]
      exact (h.generations r hr f hf (heq.trans hid)).trans (Nat.le_succ _)
    | counted f r' hf hid hcounts hreport hforward hgeneration =>
      rw [hcounts.generation]
      rcases List.mem_append.mp hr with hr | hr
      · obtain rfl := Option.some.inj (hreport.symm.trans (Option.mem_toList.mp hr))
        exact hgeneration.le
      · exact h.generations r hr f hf (heq.trans hid)

end

section

variable {settings : PortForwardSettings} {world : ForwardWorld} {clock : Instant}
  {schedule other : List (Scheduled ForwardTx)} {s : Scheduled ForwardTx} {r : ForwardReport}
  {f f' : PortForward}

lemma acceptedReports_cons (S : Transactions ForwardDb ForwardTx ForwardAnswer) :
    acceptedReports S (s :: schedule) =
      (accepted S (S.next schedule s)).toList ++ acceptedReports S schedule := by
  unfold acceptedReports
  rw [S.commits_cons, List.filterMap_cons]
  cases accepted S (S.next schedule s) <;> rfl

/-- Every run counts what it accepts. -/
theorem forwarding_counted (schedule : List (Scheduled ForwardTx)) :
    ((forwarding settings world clock).state schedule).Counted
      (acceptedReports (forwarding settings world clock) schedule) := by
  induction schedule with
  | nil => constructor <;> simp [forwarding, emptyForwardDb, acceptedReports]
  | cons s schedule ih =>
    rw [acceptedReports_cons, Transactions.state_cons]
    exact commit_counted (forwarding_ran.sound 0) ih s.tx

/-- Runs that accept the same reports for a forward count the same. -/
lemma totals_of_perm
    (h : (acceptedReports (forwarding settings world clock) other).Perm
      (acceptedReports (forwarding settings world clock) schedule))
    (hf : f ∈ ((forwarding settings world clock).state schedule).forwards)
    (hf' : f' ∈ ((forwarding settings world clock).state other).forwards) (hid : f'.id = f.id)
    (k : TrafficCounter) : k.total f' = k.total f := by
  have hlt : f.connectionGeneration < f.connectionGeneration + f'.connectionGeneration + 1 := by
    omega
  have hlt' : f'.connectionGeneration < f.connectionGeneration + f'.connectionGeneration + 1 := by
    omega
  rw [(forwarding_counted schedule).exact hf k hlt, (forwarding_counted other).exact hf' k hlt',
    hid]
  exact Finset.sum_congr rfl fun i _ => largest_perm (h.filter _)

/-- An accepted report leaves the forwards their generations. -/
lemma accepted_generation
    (h : accepted (forwarding settings world clock)
      ((forwarding settings world clock).next schedule s) = some r)
    (hf' : f' ∈ ((forwarding settings world clock).state (s :: schedule)).forwards) :
    ∃ f ∈ ((forwarding settings world clock).state schedule).forwards,
      f.id = f'.id ∧ f.connectionGeneration = f'.connectionGeneration := by
  rw [Transactions.state_cons] at hf'
  have hsound : ((forwarding settings world clock).state schedule).Sound := forwarding_ran.sound 0
  have hreport : s.tx.acceptedReport _ = some r := h
  cases commit_accounts hsound s.tx hf' with
  | kept f hf hid htraffic hr => exact ⟨f, hf, hid.symm, htraffic.generation.symm⟩
  | created hid hgeneration hzero hr => cases hr.symm.trans hreport
  | connected f hf hid hreconnects hr => cases hr.symm.trans hreport
  | counted f r hf hid hcounts hr => exact ⟨f, hf, hid.symm, hcounts.generation.symm⟩

/-- Traffic accounting is exact in every run. -/
theorem forwarding_traffic (settings : PortForwardSettings) (world : ForwardWorld)
    (clock : Instant) (schedule : List (Scheduled ForwardTx)) :
    TrafficAccounting (forwarding settings world clock) schedule where
  exact f hf k n hn := (forwarding_counted schedule).exact hf k hn
  increasing c hc f hf f' hf' hid k := by
    have hsound := (forwarding_ran.sees_of_mem hc).before
    refine commit_row hsound c.tx hf hf' hid (fun h _ => (h.totals k).ge)
      (fun h _ _ => (h.totals k).ge) fun r _ hcounts _ _ => ?_
    have hle := le_max_left (k.generation f) (k.reported r)
    rw [hcounts.totals k]
    omega
  repeated := by
    induction schedule with
    | nil => exact .nil
    | cons s schedule ih =>
      rw [Transactions.commits_cons]
      refine .cons (fun c hc r hr hr' f hf f' hf' hid => ?_) ih
      have hcounted : ((forwarding settings world clock).state schedule).Counted
          (acceptedReports (forwarding settings world clock) schedule) :=
        forwarding_counted schedule
      have hmem : r ∈ acceptedReports (forwarding settings world clock) schedule :=
        List.mem_filterMap.mpr ⟨c, hc, hr⟩
      refine commit_row (forwarding_ran.sound 0) s.tx hf hf' hid (fun h _ => h)
        (fun _ hnone _ => ?_) fun r' hr'' hcounts hforward hgeneration => ?_
      · cases hnone.symm.trans hr'
      · obtain rfl := Option.some.inj (hr''.symm.trans hr')
        have hmax : ∀ k : TrafficCounter,
            max (k.generation f) (k.reported r') = k.generation f := by
          intro k
          rw [max_eq_left_iff, hcounted.current f hf k]
          exact reported_le_largest (mem_ofGeneration.mpr ⟨hmem, hforward, hgeneration⟩)
        exact {
          generation := hcounts.generation
          totals := fun k => by rw [hcounts.totals k, hmax k, sub_self, add_zero]
          current := fun k => by rw [hcounts.current k, hmax k] }
  commute s s' r r' h₁ h₂ h₁' h₂' f hf f' hf' hid := by
    have hperm : (acceptedReports (forwarding settings world clock) (s :: s' :: schedule)).Perm
        (acceptedReports (forwarding settings world clock) (s' :: s :: schedule)) := by
      rw [acceptedReports_cons, acceptedReports_cons, acceptedReports_cons, acceptedReports_cons,
        h₁, h₂, h₁', h₂']
      exact .swap _ _ _
    obtain ⟨g, hg, hgid, hgen⟩ := accepted_generation h₂ hf
    obtain ⟨g₀, hg₀, hgid₀, hgen₀⟩ := accepted_generation h₁ hg
    obtain ⟨g', hg', hgid', hgen'⟩ := accepted_generation h₂' hf'
    obtain ⟨g₀', hg₀', hgid₀', hgen₀'⟩ := accepted_generation h₁' hg'
    have hsame : g₀ = g₀' := by
      refine eq_of_key_eq (forwarding_ran.sound 0).nodup hg₀ hg₀' ?_
      rw [hgid₀, hgid, hgid₀', hgid', hid]
    have hgeneration : f'.connectionGeneration = f.connectionGeneration := by
      rw [← hgen', ← hgen₀', ← hgen, ← hgen₀, hsame]
    refine ⟨hgeneration, totals_of_perm hperm hf hf' hid, fun k => ?_⟩
    rw [(forwarding_counted _).current f hf k, (forwarding_counted _).current f' hf' k, hid,
      hgeneration]
    exact largest_perm (hperm.filter _)
  reordered other h f hf f' hf' hid k := totals_of_perm h hf hf' hid k
  refused c hc hfailed f hf f' hf' hid := by
    have hsound := (forwarding_ran.sees_of_mem hc).before
    have hnone : accepted (forwarding settings world clock) c = none := by
      unfold accepted ForwardTx.acceptedReport
      rw [hfailed]
      rfl
    refine commit_row hsound c.tx hf hf' hid (fun h _ => h) (fun _ _ hok => ?_) fun r hr => ?_
    · cases hok.symm.trans hfailed
    · cases hr.symm.trans hnone

end

end AgentRemote.PortForwards
