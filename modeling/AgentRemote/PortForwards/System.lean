import AgentRemote.PortForwards.Moves

/-!
# The forwards of a database

The operations of the service as transactions of one database, with the changes that other
services make to the rows it reads. A forward goes with the user, device, session or node it
belongs to.
-/

namespace AgentRemote.PortForwards
open Library

inductive ForwardTx where
  | create (request : CreateForward)
  | list (user : User) (allUsers : Bool)
  | get (user : User) (id : Uuid)
  | issueConnection (userId : Uuid) (tokenDeviceId : Option Uuid) (storeUp : Bool) (id : Uuid)
  | stop (user : User) (id : Uuid)
  | redeem (request : RedeemForward)
  | renew (report : ForwardReport)
  | release (report : ForwardReport)
  | cleanup (id : Uuid)
  | revoke (owner : RevokedOwner) (reason : String)
  | world (rows : ForwardWorld)
  | tick (elapsed : ℕ)

inductive ForwardAnswer where
  | failed (failure : ForwardFailure)
  | created (created : CreatedPortForward)
  | forwards (values : List PortForward)
  | forward (value : PortForward)
  | connection (connection : IssuedConnection)
  | redeemed (redeemed : RedeemedPortForward)
  | changed (count : ℕ)
  | done

/-- The state that a transaction leaves, and its answer. -/
def answered {α : Type} (f : α → ForwardAnswer) (r : ForwardDb × Except ForwardFailure α) :
    ForwardDb × ForwardAnswer :=
  (r.1, match r.2 with
    | .ok a => f a
    | .error e => .failed e)

/-- The rows of other services change, and forwards go with the rows they belong to. -/
def ForwardDb.setWorld (db : ForwardDb) (world : ForwardWorld) : ForwardDb :=
  { db with world := world, forwards := db.forwards.filter fun f => world.Parents f }

def ForwardTx.commit (settings : PortForwardSettings) (t : ForwardTx) (seen : ℕ → ForwardDb)
    (db : ForwardDb) : ForwardDb × ForwardAnswer :=
  match t with
  | .create r => answered .created (PortForwards.create settings seen db r)
  | .list user allUsers => answered .forwards (listForwards seen db user allUsers)
  | .get user id => answered .forward (PortForwards.get seen db user id)
  | .issueConnection userId tokenDeviceId storeUp id =>
    answered .connection (issueConnectionFor settings seen db userId tokenDeviceId storeUp id)
  | .stop user id => answered .forward (PortForwards.stop seen db user id)
  | .redeem r => answered .redeemed (PortForwards.redeem settings seen db r)
  | .renew r => answered .redeemed (PortForwards.renew settings seen db r)
  | .release r => answered .forward (PortForwards.release db r)
  | .cleanup id => answered .changed (PortForwards.cleanup settings seen db id)
  | .revoke owner reason =>
    let r := revokePortForwards seen db owner reason
    (r.1, .changed r.2)
  | .world rows => (db.setWorld rows, .done)
  | .tick elapsed => ({ db with clock := db.clock + elapsed }, .done)

/-- The database before the first forward. -/
def emptyForwardDb (world : ForwardWorld) (clock : Instant) : ForwardDb :=
  ⟨world, [], [], clock, 0⟩

/-- The transactions on the forwards of a server. -/
def forwarding (settings : PortForwardSettings) (world : ForwardWorld) (clock : Instant) :
    Transactions ForwardDb ForwardTx ForwardAnswer :=
  ⟨emptyForwardDb world clock, ForwardTx.commit settings⟩

/-! ### Moves -/

/-- What a transaction on locked rows makes of the forwards when it creates none. A forward gets
a lease only as `granted`. -/
inductive ForwardsMove (granted : PortForward → Prop) (db : ForwardDb) : List PortForward → Prop
  | same : ForwardsMove granted db db.forwards
  | locked (f new : PortForward) : f ∈ db.forwards → f.Change new →
    new.leaseExpiresAt = none ∨ granted new →
    ForwardsMove granted db (db.setForward f new).forwards
  | ended (g : PortForward → PortForward) : (∀ f, g f = f ∨ f.Ends (g f)) →
    ForwardsMove granted db (db.forwards.map g)
  | removed (p : PortForward → Bool) : ForwardsMove granted db (db.forwards.filter p)

/-- The identifiers that a transaction draws are new. -/
structure ForwardDb.Draws (db db' : ForwardDb) : Prop where
  nextId : db.nextId ≤ db'.nextId
  tokens : ∀ t ∈ db'.connectionTokens,
    t ∈ db.connectionTokens ∨ db.nextId ≤ t.token ∧ t.token < db'.nextId

structure ForwardDb.Moves (granted : PortForward → Prop) (db db' : ForwardDb) : Prop where
  forwards : ForwardsMove granted db db'.forwards
  draws : db.Draws db'

/-- The commit of a new forward. -/
structure ForwardDb.Creates (settings : PortForwardSettings) (db db' : ForwardDb)
    (created : CreatedPortForward) : Prop where
  id : created.portForward.id = db.nextId
  status : created.portForward.status = .pending
  lease : created.portForward.leaseExpiresAt = none
  generation : created.portForward.connectionGeneration = 0
  forwards : db'.forwards = db.forwards ++ [created.portForward]
  draws : db.Draws db'
  new : db.nextId < db'.nextId
  quotas : validateQuotas db (settings.policy created.node) created.portForward.userId
    created.portForward.deviceId created.portForward.sessionId = .ok ()

section

variable {settings : PortForwardSettings} {seen : ℕ → ForwardDb} {db db' : ForwardDb}
  {f : PortForward} {refusal : Refusal} {α : Type} {granted : PortForward → Prop}

lemma draws_self : db.Draws db := ⟨le_rfl, fun _ ht => .inl ht⟩

lemma moves_self : db.Moves granted db := ⟨.same, draws_self⟩

lemma setForward_draws (copy new : PortForward) : db.Draws (db.setForward copy new) :=
  ⟨le_rfl, fun _ ht => .inl ht⟩

lemma refuse_locked (hf : f ∈ db.forwards) (h : refusal.Settles f) :
    db.Moves granted (db.refuse (α := α) f refusal).1 := by
  unfold ForwardDb.refuse
  split
  · exact moves_self
  · rename_i new hnew
    rw [update_of_mem hf]
    exact ⟨.locked f new hf (h new hnew).1 (.inl (h new hnew).2), setForward_draws f new⟩

lemma issueConnection_eq_ok {storeUp : Bool} {now : Instant} {connection : IssuedConnection}
    (h : issueConnection settings db storeUp now f = .ok (db', connection)) :
    db'.forwards = db.forwards ∧ db.Draws db' ∧ db'.nextId = db.nextId + 1 := by
  unfold issueConnection at h
  split_ifs at h
  obtain ⟨rfl, -⟩ := Prod.mk.inj (Except.ok.inj h)
  refine ⟨rfl, ⟨Nat.le_succ _, fun t ht => ?_⟩, rfl⟩
  rcases List.mem_cons.mp ht with rfl | ht
  · exact .inr ⟨le_rfl, Nat.lt_succ_self _⟩
  · exact .inl ht

lemma getByCaller_mem {r : CreateForward} (h : db.getByCaller r = some f) : f ∈ db.forwards := by
  obtain ⟨key, -, hkey⟩ := Option.bind_eq_some_iff.mp h
  exact List.mem_of_find?_eq_some hkey

lemma createAgain_ends {r : CreateForward} {deviceId : Uuid} :
    FailsWith (Refusal.Ends f) (createAgain settings seen db r deviceId f) := by
  unfold createAgain
  refine FailsWith.reject_bind ends_of fun _ => FailsWith.reject_bind ends_of fun _ =>
    FailsWith.reject_bind ends_of fun _ => ensureNonTerminal_ends.bind fun _ _ => ?_
  refine (failsWith_mapError_of _).bind fun _ _ => ?_
  refine requireRuntimeAuthorization_ends.bind fun _ _ => ?_
  exact (failsWith_mapError_of _).bind fun _ _ => failsWith_ok _

lemma createAgain_eq_ok {r : CreateForward} {deviceId : Uuid} {created : CreatedPortForward}
    (h : createAgain settings seen db r deviceId f = .ok (db', created)) : db.Moves granted db' := by
  unfold createAgain at h
  simp only [reject_bind_eq_ok] at h
  obtain ⟨-, -, -, h⟩ := h
  obtain ⟨-, -, h⟩ := bind_eq_ok.mp h
  obtain ⟨_, -, h⟩ := bind_eq_ok.mp h
  obtain ⟨_, -, h⟩ := bind_eq_ok.mp h
  obtain ⟨⟨after, connection⟩, hissue, h⟩ := bind_eq_ok.mp h
  obtain ⟨rfl, -⟩ := Prod.mk.inj (Except.ok.inj h)
  obtain ⟨hforwards, hdraws, -⟩ := issueConnection_eq_ok (mapError_eq_ok.mp hissue)
  exact ⟨hforwards ▸ .same, hdraws⟩

lemma checkCreate_quotas {r : CreateForward} {deviceId : Uuid}
    {found : UserDevice × ToolSession × Node}
    (h : checkCreate settings seen db r deviceId = .ok found) :
    validateQuotas db (settings.policy found.2.2) r.userId found.1.id found.2.1.id = .ok () := by
  unfold checkCreate at h
  obtain ⟨-, -, h⟩ := bind_eq_ok.mp h
  split at h
  · cases h
  rw [reject_bind_eq_ok] at h
  obtain ⟨-, h⟩ := h
  obtain ⟨toolSession, -, h⟩ := bind_eq_ok.mp h
  obtain ⟨node, -, h⟩ := bind_eq_ok.mp h
  obtain ⟨-, -, h⟩ := bind_eq_ok.mp h
  obtain ⟨-, -, h⟩ := bind_eq_ok.mp h
  obtain ⟨_, hquotas, h⟩ := bind_eq_ok.mp h
  rw [reject_bind_eq_ok] at h
  obtain rfl := Except.ok.inj h.2
  exact hquotas

/-- The identifiers drawn after one more was drawn. -/
lemma draws_of_succ {rows : List PortForward}
    (h : ForwardDb.Draws { db with forwards := rows, nextId := db.nextId + 1 } db') :
    db.Draws db' where
  nextId := (Nat.le_succ _).trans h.nextId
  tokens t ht := (h.tokens t ht).imp_right fun ht => ⟨(Nat.le_succ _).trans ht.1, ht.2⟩

lemma createNew_eq_ok {r : CreateForward} {deviceId : Uuid} {created : CreatedPortForward}
    (h : createNew settings seen db r deviceId = .ok (db', created)) :
    db.Creates settings db' created := by
  unfold createNew at h
  obtain ⟨⟨device, toolSession, node⟩, hcheck, h⟩ := bind_eq_ok.mp h
  dsimp only at h
  rw [reject_bind_eq_ok] at h
  obtain ⟨-, h⟩ := h
  obtain ⟨⟨after, connection⟩, hissue, h⟩ := bind_eq_ok.mp h
  obtain ⟨rfl, rfl⟩ := Prod.mk.inj (Except.ok.inj h)
  obtain ⟨hforwards, hdraws, hnext⟩ := issueConnection_eq_ok hissue
  have hquotas := checkCreate_quotas hcheck
  exact {
    id := rfl
    status := rfl
    lease := rfl
    generation := rfl
    forwards := hforwards
    draws := draws_of_succ hdraws
    new := hdraws.nextId
    quotas := hquotas }

variable (settings seen db) in
/-- A creation is a new forward or the answer to a repeated request. -/
lemma create_cases (r : CreateForward) :
    (∃ created, db.getByCaller r = none ∧
      (create settings seen db r).2 = .ok created ∧
        db.Creates settings (create settings seen db r).1 created) ∨
      (∀ granted, db.Moves granted (create settings seen db r).1) ∧
        (db.getByCaller r = none → ∀ created, (create settings seen db r).2 ≠ .ok created) := by
  unfold create
  split
  · exact .inr ⟨fun _ => moves_self, fun _ _ => nofun⟩
  · split
    · rename_i prior hprior
      refine .inr ⟨fun granted => ?_, fun hnone => absurd (hprior.symm.trans hnone) (by simp)⟩
      split
      · rename_i refusal hrefusal
        exact refuse_locked (getByCaller_mem hprior) (createAgain_ends _ hrefusal).settles
      · rename_i after created hafter
        exact createAgain_eq_ok hafter
    · rename_i hprior
      split
      · exact .inr ⟨fun _ => moves_self, fun _ _ => nofun⟩
      · rename_i after created hafter
        exact .inl ⟨created, hprior, rfl, createNew_eq_ok hafter⟩

/-! ### Operations on an unlocked copy -/

/-- The forwards that a transaction ends on an unlocked copy: the copy, and the copy ended. -/
def ForwardTx.endings (settings : PortForwardSettings) (seen : ℕ → ForwardDb) (db : ForwardDb) :
    ForwardTx → List (PortForward × PortForward)
  | .list user allUsers =>
    if allUsers ∧ user.role ≠ .admin then []
    else
      (((seen 0).forwards.filter fun f => allUsers ∨ f.userId = user.id).reverse.filter
        (·.overdue (seen 1).clock)).map fun f => (f, f.expired (seen 1).clock)
  | .get user id =>
    match requireVisible seen user id with
    | .error _ => []
    | .ok f => if f.overdue (seen 1).clock then [(f, f.expired (seen 1).clock)] else []
  | .stop user id =>
    match requireVisible seen user id with
    | .error _ => []
    | .ok f =>
      if f.status.terminal then []
      else [(f, f.ended .stopped (stopReason f user) (seen 1).clock)]
  | .issueConnection userId tokenDeviceId storeUp id =>
    match requireDeviceToken tokenDeviceId with
    | .error _ => []
    | .ok deviceId =>
      match (lookup PortForward.id (seen 0).forwards id).filter (·.userId = userId) with
      | none => []
      | some f =>
        match reconnect settings seen db deviceId storeUp f with
        | .error refusal => refusal.settled.toList.map fun new => (f, new)
        | .ok _ => []
  | _ => []

/-- The operations that decide on an unlocked copy. -/
def ForwardTx.unlocked : ForwardTx → Bool
  | .list .. | .get .. | .stop .. | .issueConnection .. => true
  | _ => false

lemma reconnect_ends {deviceId : Uuid} {storeUp : Bool} :
    FailsWith (Refusal.Ends f) (reconnect settings seen db deviceId storeUp f) := by
  unfold reconnect
  refine ensureNonTerminal_ends.bind fun _ _ => FailsWith.reject_bind ends_of fun _ => ?_
  refine requireRuntimeAuthorization_ends.bind fun _ _ => ?_
  exact (failsWith_mapError_of _).bind fun _ _ => failsWith_mapError_of _

lemma reconnect_eq_ok {deviceId : Uuid} {storeUp : Bool} {connection : IssuedConnection}
    (h : reconnect settings seen db deviceId storeUp f = .ok (db', connection)) :
    db'.forwards = db.forwards ∧ db.Draws db' := by
  unfold reconnect at h
  obtain ⟨-, -, h⟩ := bind_eq_ok.mp h
  rw [reject_bind_eq_ok] at h
  obtain ⟨_, -, h⟩ := bind_eq_ok.mp h.2
  obtain ⟨_, -, h⟩ := bind_eq_ok.mp h
  obtain ⟨hforwards, hdraws, -⟩ := issueConnection_eq_ok (mapError_eq_ok.mp h)
  exact ⟨hforwards, hdraws⟩

lemma endings_ends {t : ForwardTx} : ∀ w ∈ t.endings settings seen db, w.1.Ends w.2 := by
  intro w hw
  cases t with
  | list user allUsers =>
    simp only [ForwardTx.endings] at hw
    split_ifs at hw
    · simp at hw
    · obtain ⟨f, hf, rfl⟩ := List.mem_map.mp hw
      exact expired_ends (List.mem_filter.mp hf).2
  | get user id =>
    simp only [ForwardTx.endings] at hw
    split at hw
    · simp at hw
    · split_ifs at hw with hoverdue
      · obtain rfl := List.mem_singleton.mp hw
        exact expired_ends hoverdue
      · simp at hw
  | stop user id =>
    simp only [ForwardTx.endings] at hw
    split at hw
    · simp at hw
    · split_ifs at hw with hterminal
      · simp at hw
      · obtain rfl := List.mem_singleton.mp hw
        exact PortForward.ends_ended (by simpa using hterminal) rfl
  | issueConnection userId tokenDeviceId storeUp id =>
    simp only [ForwardTx.endings] at hw
    split at hw
    · simp at hw
    · split at hw
      · simp at hw
      · split at hw
        · rename_i refusal hrefusal
          obtain ⟨new, hnew, rfl⟩ := List.mem_map.mp hw
          exact reconnect_ends _ hrefusal new (Option.mem_toList.mp hnew)
        · simp at hw
  | _ => simp [ForwardTx.endings] at hw

/-- The forwards once the rows of the copies were updated, if all of them are there. -/
def ForwardDb.settle (db : ForwardDb) (ws : List (PortForward × PortForward)) :
    List PortForward :=
  if db.Finds ws then db.forwards.map (applied ws) else db.forwards

lemma settle_nil : db.settle [] = db.forwards := by
  unfold ForwardDb.settle
  rw [applied_nil, ite_self]

lemma answer_updateAll {ws : List (PortForward × PortForward)} {a : α} :
    (match db.updateAll ws with
      | .ok after => (after, (.ok a : Except ForwardFailure α))
      | .error e => (db, .error e)).1.forwards = db.settle ws := by
  rw [updateAll_eq]
  unfold ForwardDb.settle
  by_cases h : db.Finds ws
  · rw [if_pos h, if_pos h]
  · rw [if_neg h, if_neg h]

lemma refuse_forwards : (db.refuse (α := α) f refusal).1.forwards =
    db.settle (refusal.settled.toList.map fun new => (f, new)) := by
  unfold ForwardDb.refuse
  split
  · rename_i hnone
    rw [hnone]
    exact settle_nil.symm
  · rename_i new hnew
    have hone : ((some new).toList.map fun new => (f, new)) = [(f, new)] := rfl
    rw [hnew, hone, update_eq_updateAll, updateAll_eq]
    unfold ForwardDb.settle
    by_cases h : db.Finds [(f, new)]
    · rw [if_pos h, if_pos h]
    · rw [if_neg h, if_neg h]

/-- What an operation on an unlocked copy leaves of the forwards. -/
lemma commit_unlocked {t : ForwardTx} (h : t.unlocked = true) :
    (t.commit settings seen db).1.forwards = db.settle (t.endings settings seen db) := by
  cases t with
  | list user allUsers =>
    simp only [ForwardTx.commit, ForwardTx.endings, answered, listForwards]
    split_ifs
    · exact settle_nil.symm
    · exact answer_updateAll
  | get user id =>
    simp only [ForwardTx.commit, ForwardTx.endings, answered, PortForwards.get]
    cases requireVisible seen user id with
    | error e => exact settle_nil.symm
    | ok f =>
      dsimp only
      split_ifs
      · rw [update_eq_updateAll]
        exact answer_updateAll
      · exact settle_nil.symm
  | stop user id =>
    simp only [ForwardTx.commit, ForwardTx.endings, answered, PortForwards.stop]
    cases requireVisible seen user id with
    | error e => exact settle_nil.symm
    | ok f =>
      dsimp only
      split_ifs
      · exact settle_nil.symm
      · rw [update_eq_updateAll]
        exact answer_updateAll
  | issueConnection userId tokenDeviceId storeUp id =>
    simp only [ForwardTx.commit, ForwardTx.endings, answered, issueConnectionFor]
    cases requireDeviceToken tokenDeviceId with
    | error e => exact settle_nil.symm
    | ok deviceId =>
      dsimp only
      cases (lookup PortForward.id (seen 0).forwards id).filter (·.userId = userId) with
      | none => exact settle_nil.symm
      | some f =>
        dsimp only
        cases hreconnect : reconnect settings seen db deviceId storeUp f with
        | error refusal => exact refuse_forwards
        | ok after =>
          rw [settle_nil]
          exact (reconnect_eq_ok hreconnect).1
  | _ => cases h

lemma answer_updateAll_draws {ws : List (PortForward × PortForward)} {a : α} :
    db.Draws (match db.updateAll ws with
      | .ok after => (after, (.ok a : Except ForwardFailure α))
      | .error e => (db, .error e)).1 := by
  rw [updateAll_eq]
  by_cases h : db.Finds ws
  · rw [if_pos h]
    exact ⟨le_rfl, fun _ ht => .inl ht⟩
  · rw [if_neg h]
    exact draws_self

lemma refuse_draws : db.Draws (db.refuse (α := α) f refusal).1 := by
  unfold ForwardDb.refuse
  split
  · exact draws_self
  · rename_i new _
    split
    · rename_i after hafter
      obtain rfl := update_eq_ok hafter
      exact setForward_draws f new
    · exact draws_self

/-- An operation on an unlocked copy draws at most a connection token. -/
lemma commit_unlocked_draws {t : ForwardTx} (h : t.unlocked = true) :
    db.Draws (t.commit settings seen db).1 := by
  cases t with
  | list user allUsers =>
    simp only [ForwardTx.commit, answered, listForwards]
    split_ifs
    · exact draws_self
    · exact answer_updateAll_draws
  | get user id =>
    simp only [ForwardTx.commit, answered, PortForwards.get]
    cases requireVisible seen user id with
    | error e => exact draws_self
    | ok f =>
      dsimp only
      split_ifs
      · rw [update_eq_updateAll]
        exact answer_updateAll_draws
      · exact draws_self
  | stop user id =>
    simp only [ForwardTx.commit, answered, PortForwards.stop]
    cases requireVisible seen user id with
    | error e => exact draws_self
    | ok f =>
      dsimp only
      split_ifs
      · exact draws_self
      · rw [update_eq_updateAll]
        exact answer_updateAll_draws
  | issueConnection userId tokenDeviceId storeUp id =>
    simp only [ForwardTx.commit, answered, issueConnectionFor]
    cases requireDeviceToken tokenDeviceId with
    | error e => exact draws_self
    | ok deviceId =>
      dsimp only
      cases (lookup PortForward.id (seen 0).forwards id).filter (·.userId = userId) with
      | none => exact draws_self
      | some f =>
        dsimp only
        cases hreconnect : reconnect settings seen db deviceId storeUp f with
        | error refusal => exact refuse_draws
        | ok after => exact (reconnect_eq_ok hreconnect).2
  | _ => cases h

/-! ### Operations on a locked row -/

lemma forward_of_lookup {id nodeId : Uuid}
    (h : (lookup PortForward.id db.forwards id).filter (·.nodeId = nodeId) = some f) :
    f ∈ db.forwards ∧ f.id = id ∧ f.nodeId = nodeId := by
  obtain ⟨hlookup, hnode⟩ := Option.filter_eq_some_iff.mp h
  exact ⟨mem_of_lookup hlookup, key_of_lookup hlookup, by simpa using hnode⟩

lemma checkRedeem_ends {r : RedeemForward} : FailsWith (Refusal.Ends f) (checkRedeem seen r f) := by
  unfold checkRedeem
  refine ensureNonTerminal_ends.bind fun _ _ => FailsWith.reject_bind ends_of fun _ =>
    FailsWith.reject_bind ends_of fun _ => (failsWith_mapError_of _).bind fun _ _ => ?_
  exact failsWith_reject.mpr fun _ => ends_of

lemma checkRedeem_open {r : RedeemForward} (h : checkRedeem seen r f = .ok ()) :
    f.status.terminal = false := by
  unfold checkRedeem at h
  obtain ⟨_, hopen, -⟩ := bind_eq_ok.mp h
  exact ensureNonTerminal_eq_ok hopen

/-- What `redeem` may commit once the token is consumed. -/
lemma redeemClaims_settles {r : RedeemForward} {claims : Option ConnectionToken} :
    FailsWith (Refusal.Settles f) (redeemClaims settings seen r f claims) := by
  unfold redeemClaims
  split
  · exact failsWith_error.mpr settles_of
  · refine FailsWith.reject_bind settles_of fun _ => ?_
    refine FailsWith.bind (fun refusal hrefusal new hnew => ?_) fun _ _ => failsWith_ok _
    have hends := requireRuntimeAuthorization_ends _ hrefusal new hnew
    exact ⟨keyed_change hends, hends.lease_new⟩

/-- The connection that an accepted token makes. -/
lemma redeemClaims_eq_ok {r : RedeemForward} {claims : Option ConnectionToken}
    {redeemed : RedeemedPortForward}
    (h : redeemClaims settings seen r f claims = .ok redeemed) :
    claims.isSome = true ∧ ∃ key, redeemed.portForward =
      PortForward.connected { f with sshKeyId := key } (seen 10).clock (seen 11).clock
        redeemed.policy := by
  unfold redeemClaims at h
  split at h
  · cases h
  · rw [reject_bind_eq_ok] at h
    obtain ⟨⟨toolSession, policy⟩, -, hok⟩ := bind_eq_ok.mp h.2
    obtain rfl := Except.ok.inj hok
    exact ⟨rfl, _, rfl⟩

lemma consume_moves {token : Uuid} (h : (db.consume token).Moves granted db') : db.Moves granted db' where
  forwards := by
    generalize hforwards : db'.forwards = forwards
    have hmove := h.forwards
    rw [hforwards] at hmove
    cases hmove with
    | same => exact .same
    | locked f new hf hchange hlease => exact .locked f new hf hchange hlease
    | ended g hg => exact .ended g hg
    | removed p => exact .removed p
  draws := ⟨h.draws.nextId, fun t ht => (h.draws.tokens t ht).imp_left fun ht =>
    (List.mem_filter.mp ht).1⟩

/-- The ways `redeem` ends. -/
lemma redeem_cases {r : RedeemForward}
    {P : ForwardDb × Except ForwardFailure RedeemedPortForward → Prop}
    (missing : P (db, .error (notFound "Port forward")))
    (rejected : ∀ f ∈ db.forwards, ∀ refusal : Refusal, refusal.Ends f →
      P (db.refuse f refusal))
    (refused : ∀ f ∈ db.forwards, ∀ refusal,
      redeemClaims settings seen r f (db.claims r.connectToken (seen 2).clock) = .error refusal →
        P ((db.consume r.connectToken).refuse f refusal))
    (redeemed : ∀ f ∈ db.forwards, f.id = r.forwardId → f.status.terminal = false →
      ∀ a, redeemClaims settings seen r f (db.claims r.connectToken (seen 2).clock) = .ok a →
        P ((db.consume r.connectToken).setForward f a.portForward, .ok a)) :
    P (PortForwards.redeem settings seen db r) := by
  unfold PortForwards.redeem
  split
  · exact missing
  · rename_i f hlookup
    obtain ⟨hf, hid, -⟩ := forward_of_lookup hlookup
    split
    · rename_i refusal hrefusal
      exact rejected f hf refusal (checkRedeem_ends _ hrefusal)
    · rename_i hcheck
      dsimp only
      split
      · rename_i refusal hrefusal
        exact refused f hf refusal hrefusal
      · rename_i a ha
        have hmem : f ∈ (db.consume r.connectToken).forwards := hf
        rw [update_of_mem hmem]
        exact redeemed f hf hid (checkRedeem_open hcheck) a ha

lemma redeem_moves {r : RedeemForward}
    (h : ∀ a, (PortForwards.redeem settings seen db r).2 = .ok a → granted a.portForward) :
    db.Moves granted (PortForwards.redeem settings seen db r).1 := by
  revert h
  refine redeem_cases
    (P := fun x => (∀ a, x.2 = .ok a → granted a.portForward) → db.Moves granted x.1)
    (fun _ => moves_self) (fun f hf refusal h _ => refuse_locked hf h.settles)
    (fun f hf refusal h _ => consume_moves (refuse_locked hf (redeemClaims_settles _ h)))
    fun f hf hid hopen a ha hgranted => ?_
  obtain ⟨-, key, hnew⟩ := redeemClaims_eq_ok ha
  have hchange : f.Change a.portForward := hnew ▸ connected_change hopen
  exact consume_moves ⟨.locked f _ hf hchange (.inr (hgranted a rfl)), setForward_draws _ _⟩

lemma refuse_ne_ok {a : α} : (db.refuse f refusal).2 ≠ .ok a := by
  unfold ForwardDb.refuse
  split
  · exact nofun
  · split <;> exact nofun

/-- What a successful `redeem` does. -/
structure Redeems (seen : ℕ → ForwardDb) (db db' : ForwardDb) (r : RedeemForward)
    (redeemed : RedeemedPortForward) : Prop where
  found : ∃ f ∈ db.forwards, f.id = r.forwardId ∧ f.Change redeemed.portForward ∧
    redeemed.portForward.connectionGeneration = f.connectionGeneration + 1 ∧
    redeemed.portForward.leaseExpiresAt =
      some ((seen 11).clock + timedelta redeemed.policy.leaseSeconds) ∧
    db' = (db.consume r.connectToken).setForward f redeemed.portForward
  stored : ∃ t ∈ db.connectionTokens, t.token = r.connectToken

lemma redeem_eq_ok {r : RedeemForward} {redeemed : RedeemedPortForward}
    (h : (PortForwards.redeem settings seen db r).2 = .ok redeemed) :
    Redeems seen db (PortForwards.redeem settings seen db r).1 r redeemed := by
  revert h
  refine redeem_cases (P := fun x => x.2 = .ok redeemed → Redeems seen db x.1 r redeemed) nofun
    (fun _ _ _ _ h => absurd h refuse_ne_ok) (fun _ _ _ _ h => absurd h refuse_ne_ok) ?_
  intro f hf hid hopen a ha hok
  obtain rfl := Except.ok.inj hok
  obtain ⟨hclaims, key, heq⟩ := redeemClaims_eq_ok ha
  obtain ⟨t, ht⟩ := Option.isSome_iff_exists.mp hclaims
  have hlookup := (Option.filter_eq_some_iff.mp ht).1
  refine ⟨⟨f, hf, hid, ?_, ?_, ?_, rfl⟩, t, mem_of_lookup hlookup, key_of_lookup hlookup⟩
  · rw [heq]
    exact connected_change hopen
  · rw [heq]
    rfl
  · rw [heq]
    rfl

lemma requireNodeGeneration_eq_ok {r : ForwardReport}
    (h : requireNodeGeneration db r = .ok f) :
    f ∈ db.forwards ∧ f.id = r.forwardId ∧ f.connectionGeneration = r.generation ∧
      f.status = .active := by
  unfold requireNodeGeneration at h
  split at h
  · cases h
  · rename_i found hlookup
    rw [reject_bind_eq_ok] at h
    obtain ⟨hcurrent, hok⟩ := h
    obtain rfl := Except.ok.inj hok
    obtain ⟨hf, hid, -⟩ := forward_of_lookup hlookup
    push Not at hcurrent
    exact ⟨hf, hid, hcurrent⟩

/-- The ways `renew` ends. -/
lemma renew_cases {r : ForwardReport}
    {P : ForwardDb × Except ForwardFailure RedeemedPortForward → Prop}
    (failed : ∀ e, P (db, .error e))
    (refused : ∀ f ∈ db.forwards, ∀ refusal : Refusal, refusal.Ends f →
      P (db.refuse f refusal))
    (renewed : ∀ f ∈ db.forwards, f.id = r.forwardId → f.connectionGeneration = r.generation →
      f.status = .active → ∀ toolSession policy,
        let new := { f.counted r with
          leaseExpiresAt := some ((seen 7).clock + timedelta policy.leaseSeconds) }
        P (db.setForward f new, .ok ⟨new, toolSession, policy⟩)) :
    P (PortForwards.renew settings seen db r) := by
  unfold PortForwards.renew
  split
  · exact failed _
  · rename_i f hrequire
    obtain ⟨hf, hid, hgeneration, hactive⟩ := requireNodeGeneration_eq_ok hrequire
    split
    · rename_i refusal hrefusal
      exact refused f hf refusal (requireRuntimeAuthorization_ends _ hrefusal)
    · dsimp only
      rw [update_of_mem hf]
      exact renewed f hf hid hgeneration hactive _ _

lemma renew_moves {r : ForwardReport}
    (h : ∀ a, (PortForwards.renew settings seen db r).2 = .ok a → granted a.portForward) :
    db.Moves granted (PortForwards.renew settings seen db r).1 := by
  revert h
  refine renew_cases
    (P := fun x => (∀ a, x.2 = .ok a → granted a.portForward) → db.Moves granted x.1)
    (fun _ _ => moves_self) (fun _ hf _ h _ => refuse_locked hf h.settles) ?_
  intro f hf _ _ hactive _ _ new hgranted
  exact ⟨.locked f _ hf (renewed_change hactive) (.inr (hgranted _ rfl)), setForward_draws _ _⟩

/-- What a successful `renew` does. -/
lemma renew_eq_ok {r : ForwardReport} {renewed : RedeemedPortForward}
    (h : (PortForwards.renew settings seen db r).2 = .ok renewed) :
    ∃ f ∈ db.forwards, f.Change renewed.portForward ∧
      renewed.portForward.leaseExpiresAt =
        some ((seen 7).clock + timedelta renewed.policy.leaseSeconds) ∧
      (PortForwards.renew settings seen db r).1 = db.setForward f renewed.portForward := by
  revert h
  refine renew_cases (P := fun x => x.2 = .ok renewed → ∃ f ∈ db.forwards,
      f.Change renewed.portForward ∧ renewed.portForward.leaseExpiresAt =
        some ((seen 7).clock + timedelta renewed.policy.leaseSeconds) ∧
      x.1 = db.setForward f renewed.portForward) (fun _ => nofun)
    (fun _ _ _ _ h => absurd h refuse_ne_ok) ?_
  intro f hf _ _ hactive _ _ new hok
  obtain rfl := Except.ok.inj hok
  exact ⟨f, hf, renewed_change hactive, rfl, rfl⟩

/-- The ways `release` ends. -/
lemma release_cases {r : ForwardReport} {P : ForwardDb × Except ForwardFailure PortForward → Prop}
    (failed : ∀ e, P (db, .error e))
    (released : ∀ f ∈ db.forwards, f.id = r.forwardId → f.connectionGeneration = r.generation →
      f.status = .active →
        let new := { f.counted r with status := .disconnected, leaseExpiresAt := none }
        P (db.setForward f new, .ok new)) :
    P (PortForwards.release db r) := by
  unfold PortForwards.release
  split
  · exact failed _
  · rename_i f hrequire
    obtain ⟨hf, hid, hgeneration, hactive⟩ := requireNodeGeneration_eq_ok hrequire
    dsimp only
    rw [update_of_mem hf]
    exact released f hf hid hgeneration hactive

lemma release_moves (r : ForwardReport) : db.Moves granted (PortForwards.release db r).1 :=
  release_cases (P := fun x => db.Moves granted x.1) (fun _ => moves_self) fun f hf _ _ hactive =>
    ⟨.locked f _ hf (released_change hactive) (.inl rfl), setForward_draws _ _⟩

/-- What `cleanup` may make of a forward. -/
lemma cleanedUp_change {cleaned : PortForward × ℕ} (h : cleanedUp settings seen f = some cleaned) :
    f.Change cleaned.1 ∧ cleaned.1.leaseExpiresAt = none := by
  unfold cleanedUp at h
  by_cases hterminal : f.status.terminal = true
  · rw [if_pos hterminal] at h
    cases h
  rw [if_neg hterminal] at h
  have hopen : f.status.terminal = false := by simpa using hterminal
  split at h
  · rename_i refusal hrefusal
    obtain ⟨new, hnew, rfl⟩ := Option.map_eq_some_iff.mp h
    exact (ensureNonTerminal_ends _ hrefusal).settles new hnew
  · split at h
    · rename_i refusal hrefusal
      split at h
      · rename_i new hnew
        obtain rfl := Option.some.inj h
        exact (requireRuntimeAuthorization_ends _ hrefusal).settles new hnew
      · split_ifs at h
        obtain rfl := Option.some.inj h
        exact ⟨(PortForward.ends_ended hopen rfl).change, rfl⟩
    · split_ifs at h with hlapsed
      obtain rfl := Option.some.inj h
      exact ⟨disconnected_change hlapsed.1, rfl⟩

lemma cleanup_moves (id : Uuid) : db.Moves granted (PortForwards.cleanup settings seen db id).1 := by
  unfold PortForwards.cleanup
  split
  · exact moves_self
  · rename_i f hlookup
    split
    · exact moves_self
    · rename_i new changed hcleaned
      have hf := mem_of_lookup hlookup
      rw [update_of_mem hf]
      obtain ⟨hchange, hlease⟩ := cleanedUp_change hcleaned
      exact ⟨.locked f new hf hchange (.inl hlease), setForward_draws _ _⟩

lemma revokePortForwards_moves (owner : RevokedOwner) (reason : String) :
    db.Moves granted (revokePortForwards seen db owner reason).1 := by
  refine ⟨.ended _ fun f => ?_, ⟨le_rfl, fun _ ht => .inl ht⟩⟩
  by_cases h : owner.owns db.world f
  · rw [if_pos h]
    exact .inr (f.ends_ended h.1 rfl)
  · rw [if_neg h]
    exact .inl rfl

/-- The transaction leases the forward, which it answers. -/
def ForwardTx.Grants (settings : PortForwardSettings) (seen : ℕ → ForwardDb) (db : ForwardDb)
    (t : ForwardTx) (f : PortForward) : Prop :=
  (∃ r a, t = .redeem r ∧ (PortForwards.redeem settings seen db r).2 = .ok a ∧
    a.portForward = f) ∨
  ∃ r a, t = .renew r ∧ (PortForwards.renew settings seen db r).2 = .ok a ∧ a.portForward = f

variable (settings seen db) in
/-- Every transaction creates a forward, settles copies or moves locked forwards. -/
theorem commit_cases (t : ForwardTx) :
    (∃ r created, t = .create r ∧ db.getByCaller r = none ∧
      (t.commit settings seen db).2 = .created created ∧
        db.Creates settings (t.commit settings seen db).1 created) ∨
      ((t.commit settings seen db).1.forwards = db.settle (t.endings settings seen db) ∧
        db.Draws (t.commit settings seen db).1) ∨
      db.Moves (t.Grants settings seen db) (t.commit settings seen db).1 := by
  cases t with
  | create r =>
    rcases create_cases settings seen db r with
      ⟨created, hnew, hok, hcreates⟩ | ⟨hmoves, -⟩
    · refine .inl ⟨r, created, rfl, hnew, ?_, hcreates⟩
      simp only [ForwardTx.commit, answered, hok]
    · exact .inr (.inr (hmoves _))
  | list user allUsers => exact .inr (.inl ⟨commit_unlocked rfl, commit_unlocked_draws rfl⟩)
  | get user id => exact .inr (.inl ⟨commit_unlocked rfl, commit_unlocked_draws rfl⟩)
  | issueConnection userId tokenDeviceId storeUp id =>
    exact .inr (.inl ⟨commit_unlocked rfl, commit_unlocked_draws rfl⟩)
  | stop user id => exact .inr (.inl ⟨commit_unlocked rfl, commit_unlocked_draws rfl⟩)
  | redeem r => exact .inr (.inr (redeem_moves fun a ha => .inl ⟨r, a, rfl, ha, rfl⟩))
  | renew r => exact .inr (.inr (renew_moves fun a ha => .inr ⟨r, a, rfl, ha, rfl⟩))
  | release r => exact .inr (.inr (release_moves r))
  | cleanup id => exact .inr (.inr (cleanup_moves id))
  | revoke owner reason => exact .inr (.inr (revokePortForwards_moves owner reason))
  | world rows => exact .inr (.inr ⟨.removed _, ⟨le_rfl, fun _ ht => .inl ht⟩⟩)
  | tick elapsed => exact .inr (.inr ⟨.same, ⟨le_rfl, fun _ ht => .inl ht⟩⟩)

/-! ### Rows of other services -/

lemma update_world {copy new : PortForward} (h : db.update copy new = .ok db') :
    db'.world = db.world := by
  rw [update_eq_ok h]
  rfl

lemma answer_updateAll_world {ws : List (PortForward × PortForward)} {a : α} :
    (match db.updateAll ws with
      | .ok after => (after, (.ok a : Except ForwardFailure α))
      | .error e => (db, .error e)).1.world = db.world := by
  rw [updateAll_eq]
  by_cases h : db.Finds ws
  · rw [if_pos h]
  · rw [if_neg h]

lemma refuse_world : (db.refuse (α := α) f refusal).1.world = db.world := by
  unfold ForwardDb.refuse
  split
  · rfl
  · split
    · rename_i hafter
      exact update_world hafter
    · rfl

lemma issueConnection_world {storeUp : Bool} {now : Instant} {connection : IssuedConnection}
    (h : issueConnection settings db storeUp now f = .ok (db', connection)) :
    db'.world = db.world := by
  unfold issueConnection at h
  split_ifs at h
  obtain ⟨rfl, -⟩ := Prod.mk.inj (Except.ok.inj h)
  rfl

lemma createAgain_world {r : CreateForward} {deviceId : Uuid} {created : CreatedPortForward}
    (h : createAgain settings seen db r deviceId f = .ok (db', created)) :
    db'.world = db.world := by
  unfold createAgain at h
  simp only [reject_bind_eq_ok] at h
  obtain ⟨-, -, h⟩ := bind_eq_ok.mp h.2.2.2
  obtain ⟨_, -, h⟩ := bind_eq_ok.mp h
  obtain ⟨_, -, h⟩ := bind_eq_ok.mp h
  obtain ⟨⟨after, connection⟩, hissue, h⟩ := bind_eq_ok.mp h
  obtain ⟨rfl, -⟩ := Prod.mk.inj (Except.ok.inj h)
  exact issueConnection_world (mapError_eq_ok.mp hissue)

lemma createNew_world {r : CreateForward} {deviceId : Uuid} {created : CreatedPortForward}
    (h : createNew settings seen db r deviceId = .ok (db', created)) : db'.world = db.world := by
  unfold createNew at h
  obtain ⟨_, -, h⟩ := bind_eq_ok.mp h
  dsimp only at h
  rw [reject_bind_eq_ok] at h
  obtain ⟨⟨after, connection⟩, hissue, h⟩ := bind_eq_ok.mp h.2
  obtain ⟨rfl, -⟩ := Prod.mk.inj (Except.ok.inj h)
  have hworld := issueConnection_world hissue
  exact hworld

lemma create_world (r : CreateForward) :
    (create settings seen db r).1.world = db.world := by
  unfold create
  split
  · rfl
  · split
    · split
      · exact refuse_world
      · rename_i hafter
        exact createAgain_world hafter
    · split
      · rfl
      · rename_i hafter
        exact createNew_world hafter

lemma reconnect_world {deviceId : Uuid} {storeUp : Bool} {connection : IssuedConnection}
    (h : reconnect settings seen db deviceId storeUp f = .ok (db', connection)) :
    db'.world = db.world := by
  unfold reconnect at h
  obtain ⟨-, -, h⟩ := bind_eq_ok.mp h
  rw [reject_bind_eq_ok] at h
  obtain ⟨_, -, h⟩ := bind_eq_ok.mp h.2
  obtain ⟨_, -, h⟩ := bind_eq_ok.mp h
  exact issueConnection_world (mapError_eq_ok.mp h)

/-- Only a change of the rows themselves changes the rows of other services. -/
lemma commit_world {t : ForwardTx} (h : ∀ rows, t ≠ .world rows) :
    (t.commit settings seen db).1.world = db.world := by
  cases t with
  | create r => exact create_world r
  | list user allUsers =>
    simp only [ForwardTx.commit, answered, listForwards]
    split_ifs
    · rfl
    · exact answer_updateAll_world
  | get user id =>
    simp only [ForwardTx.commit, answered, PortForwards.get]
    cases requireVisible seen user id with
    | error e => rfl
    | ok f =>
      dsimp only
      split_ifs
      · rw [update_eq_updateAll]
        exact answer_updateAll_world
      · rfl
  | issueConnection userId tokenDeviceId storeUp id =>
    simp only [ForwardTx.commit, answered, issueConnectionFor]
    cases requireDeviceToken tokenDeviceId with
    | error e => rfl
    | ok deviceId =>
      dsimp only
      cases (lookup PortForward.id (seen 0).forwards id).filter (·.userId = userId) with
      | none => rfl
      | some f =>
        dsimp only
        cases hreconnect : reconnect settings seen db deviceId storeUp f with
        | error refusal => exact refuse_world
        | ok after => exact reconnect_world hreconnect
  | stop user id =>
    simp only [ForwardTx.commit, answered, PortForwards.stop]
    cases requireVisible seen user id with
    | error e => rfl
    | ok f =>
      dsimp only
      split_ifs
      · rfl
      · rw [update_eq_updateAll]
        exact answer_updateAll_world
  | redeem r =>
    exact redeem_cases (P := fun x => x.1.world = db.world) rfl (fun _ _ _ _ => refuse_world)
      (fun _ _ _ _ => refuse_world) fun _ _ _ _ _ _ => rfl
  | renew r =>
    exact renew_cases (P := fun x => x.1.world = db.world) (fun _ => rfl)
      (fun _ _ _ _ => refuse_world) fun _ _ _ _ _ _ _ => rfl
  | release r =>
    exact release_cases (P := fun x => x.1.world = db.world) (fun _ => rfl) fun _ _ _ _ _ => rfl
  | cleanup id =>
    simp only [ForwardTx.commit, answered, PortForwards.cleanup]
    split
    · rfl
    · split
      · rfl
      · split
        · rename_i hafter
          exact update_world hafter
        · rfl
  | revoke owner reason => rfl
  | world rows => exact absurd rfl (h rows)
  | tick elapsed => rfl

end

end AgentRemote.PortForwards
