import AgentRemote.KeySync.Invariant

/-!
# The moves of each operation

What every operation does, when it commits on a state in which its device and its task are still
as it read them.
-/

namespace AgentRemote.KeySync
open Library PortForwards Runtimes

variable {names : KeyNames} {seen : ℕ → KeyDb} {db db' : KeyDb}

/-- Tasks of one name carry keys together. -/
lemma Named.keys_iff {t t' : NodeTask} {n d n' d' : Uuid} {s s' : Text}
    (h : Named names t n d s) (h' : Named names t' n' d' s') (heq : t.taskId = t'.taskId) :
    n = n' ∧ d = d' ∧ (carriedKeys t = [] ↔ carriedKeys t' = []) := by
  have hname : syncTaskName names n d s = syncTaskName names n' d' s' :=
    h.taskId.symm.trans (heq.trans h'.taskId)
  obtain ⟨hnode, hdevice, hrevision⟩ := syncTaskName_inj hname
  refine ⟨hnode, hdevice, h.keys.trans (Iff.trans ?_ h'.keys.symm)⟩
  constructor
  · rintro rfl
    exact names.revision_nil _ hrevision.symm
  · rintro rfl
    exact names.revision_nil _ hrevision

lemma registerDevice_move {r : RegisterDevice} (h : registerDevice seen db r = .ok db') :
    KeyMove names id [] db db' := by
  unfold registerDevice at h
  obtain ⟨device, -, hrest⟩ := bind_eq_ok.mp h
  obtain rfl := Except.ok.inj hrest
  refine keyMove_same rfl (Nat.le_add_right _ _) (fun d hd => ?_) rfl
  dsimp only
  split_ifs
  · exact hd
  · exact List.mem_append_left _ hd

/-! ### Nodes -/

lemma leasedUntil_kept (t : NodeTask) (until_ : Instant) :
    TaskKept names t (t.leasedUntil until_) := ⟨rfl, rfl, rfl, rfl, rfl, Iff.rfl⟩

lemma pollTasks_move (hdb : db.Sound names) (leaseSeconds : ℕ) (nodeId : Uuid) (limit : ℕ)
    (held : List Uuid) :
    ∃ g, KeyMove names g [] db (pollTasks seen db leaseSeconds nodeId limit held).1 := by
  refine ⟨_, keyMove_rewrites rfl le_rfl rfl rfl (fun t _ => ?_) (fun t ht _ hterminal => ?_)
    fun t _ _ hdelivers => ?_⟩
  · split_ifs
    · exact leasedUntil_kept t _
    · exact .refl t
  · left
    split_ifs with hpolled
    · obtain ⟨t', ht', hid⟩ := List.mem_map.mp hpolled
      obtain ⟨hmem, hpollable⟩ := mem_listPollableTasks ht'
      have hsame : t' = t := eq_of_key_eq hdb.ids hmem ht hid
      rw [hsame] at hpollable
      rw [(pollable_open hpollable).2] at hterminal
      cases hterminal
    · exact hterminal
  · split_ifs
    · exact .inl rfl
    · exact hdelivers

lemma statusWritten_kept (copy : NodeTask) (status : TaskStatus) (t : NodeTask) :
    TaskKept names t (statusWritten copy status t) := by
  rcases statusWritten_cases copy status t with h | ⟨-, -, h⟩
  · rw [h]
    exact .refl t
  · rw [h]
    exact ⟨rfl, rfl, rfl, rfl, rfl, Iff.rfl⟩

/-- A task and the copy it was read as carry keys together. -/
lemma copy_keys (hdb : db.Sound names) {view : KeyDb} (hview : view.Sound names)
    {t copy : NodeTask} (ht : t ∈ db.tasks) (hcopy : copy ∈ view.tasks)
    (heq : t.taskId = copy.taskId) : carriedKeys t = [] ↔ carriedKeys copy = [] := by
  obtain ⟨n, -, d, s, hnamed⟩ := hdb.named t ht
  obtain ⟨n', -, d', s', hnamed'⟩ := hview.named copy hcopy
  exact (hnamed.keys_iff hnamed' heq).2.2

lemma startTask_move (hdb : db.Sound names) (hseen : ∀ i, (seen i).Sound names) {nodeId : Uuid}
    {taskId : Text} (h : startTask seen db nodeId taskId = .ok db')
    (hopen : ∀ copy, requireTask (seen 0).tasks nodeId taskId = .ok copy →
      copy.status.terminal = false → copy.status ≠ .running → carriedKeys copy ≠ [] →
        ∀ t ∈ db.tasks, t.taskId = taskId → t.status.terminal = false) :
    ∃ g, KeyMove names g [] db db' := by
  unfold startTask at h
  obtain ⟨copy, hfound, hrest⟩ := bind_eq_ok.mp h
  rw [reject_bind_eq_ok] at hrest
  obtain ⟨hstarted, hrest⟩ := hrest
  obtain rfl := Except.ok.inj hrest
  obtain ⟨hcopy, rfl, -⟩ := requireTask_eq_ok hfound
  refine ⟨_, keyMove_rewrites rfl le_rfl rfl rfl (fun t _ => statusWritten_kept copy _ t)
    (fun t ht hkeys hterminal => ?_) fun t _ _ hdelivers => ?_⟩
  · rcases statusWritten_cases copy .running t with hsame | ⟨hne, hid, -⟩
    · rw [hsame]
      exact .inl hterminal
    · have hcopyKeys := fun hnil => hkeys ((copy_keys hdb (hseen 0) ht hcopy hid).mpr hnil)
      rw [hopen copy hfound (Bool.eq_false_iff.mpr hstarted) hne hcopyKeys t ht hid] at hterminal
      cases hterminal
  · rcases statusWritten_cases copy .running t with hsame | ⟨-, -, hwritten⟩
    · rw [hsame]
      exact hdelivers
    · rw [hwritten]
      exact .inl rfl

lemma reportTask_move (hdb : db.Sound names) (hseen : ∀ i, (seen i).Sound names)
    {outcome : TaskOutcome} {nodeId : Uuid} {taskId : Text} {result error : Option JsonObject}
    (h : reportTask seen db outcome nodeId taskId result error = .ok db')
    (hkeyed : outcome = .failed → ∀ copy, requireTask (seen 0).tasks nodeId taskId = .ok copy →
      copy.status ≠ .failed → carriedKeys copy ≠ []) : ∃ g, KeyMove names g [] db db' := by
  unfold reportTask at h
  obtain ⟨copy, hfound, hrest⟩ := bind_eq_ok.mp h
  obtain rfl := Except.ok.inj hrest
  obtain ⟨hcopy, rfl, -⟩ := requireTask_eq_ok hfound
  refine ⟨_, keyMove_rewrites rfl le_rfl rfl rfl (fun t _ => statusWritten_kept copy _ t)
    (fun t ht _ hterminal => ?_) fun t ht hnil hdelivers => ?_⟩
  · rcases statusWritten_cases copy outcome.status t with hsame | ⟨-, -, hwritten⟩
    · rw [hsame]
      exact .inl hterminal
    · rw [hwritten]
      cases outcome with
      | succeeded => exact .inl rfl
      | failed => exact .inl rfl
  · rcases statusWritten_cases copy outcome.status t with hsame | ⟨hne, hid, hwritten⟩
    · rw [hsame]
      exact hdelivers
    · rw [hwritten]
      cases outcome with
      | succeeded => exact .inr rfl
      | failed =>
        exact absurd ((copy_keys hdb (hseen 0) ht hcopy hid).mp hnil) (hkeyed rfl copy hfound hne)

/-! ### Authorisations -/

/-- The task of a live device is added or queued again. -/
lemma ensureKeyTask_move (hdb : db.Sound names) {view : KeyDb} {reuse : Reuse}
    {node : Node} {deviceId : Uuid} {keys : List SshKey}
    (h : ensureKeyTask names db reuse view.tasks node deviceId keys = .ok db') (hkeys : keys ≠ [])
    (hnode : node.id ∈ db.nodes.map Node.id) (hlive : ¬db.Revoked deviceId) :
    ∃ g news, KeyMove names g news db db' := by
  have hsame : KeyMove names id [] db db := keyMove_same rfl le_rfl (fun _ hd => hd) rfl
  unfold ensureKeyTask at h
  dsimp only at h
  generalize htask : keyTask names db.nextId node deviceId keys = task at h
  have hnamed : Named names task node.id deviceId (keyRevision names keys) :=
    htask ▸ keyTask_named db.nextId node deviceId keys
  have hcarries : carriedKeys task ≠ [] := fun hnil =>
    hkeys (keyRevision_eq_nil.mp (hnamed.keys.mp hnil))
  split at h
  · rw [reject_bind_eq_ok] at h
    obtain ⟨habsent, hrest⟩ := h
    obtain rfl := Except.ok.inj hrest
    have hid : task.id = db.nextId := htask ▸ rfl
    refine ⟨id, [task], ⟨rfl, Nat.le_succ _, fun d hd => ⟨d, hd, rfl, fun h => h⟩, ?_,
      fun t _ => .refl t, fun _ _ _ h => .inl h, fun _ _ _ h => h, List.nodup_singleton _,
      List.nodup_singleton _, ?_, ?_⟩⟩
    · rw [List.map_id]
    · intro t ht
      rw [List.mem_singleton.mp ht]
      refine ⟨hid.ge, hid ▸ Nat.lt_succ_self _, fun t' ht' heq => ?_⟩
      exact lookup_eq_none_iff.mp (not_not.mp habsent) t' ht' heq
    · intro t ht
      rw [List.mem_singleton.mp ht]
      exact ⟨node.id, hnode, deviceId, _, hnamed, htask ▸ rfl, fun hnil => absurd hnil hcarries,
        fun _ => hlive⟩
  · next existing hfound =>
    have hexisting : existing.taskId = task.taskId := key_of_lookup hfound
    cases reuse with
    | requeue =>
      obtain rfl := Except.ok.inj h
      split_ifs
      · refine ⟨requeued existing task.payload, [], keyMove_rewrites rfl le_rfl rfl rfl ?_ ?_ ?_⟩
        · intro t ht
          rcases requeued_cases existing task.payload t with ⟨-, hkept⟩ | ⟨hid, lease, hqueued⟩
          · rw [hkept]
            exact .refl t
          · rw [hqueued]
            obtain ⟨n, -, d, s, hold⟩ := hdb.named t ht
            obtain ⟨-, hdevice, hboth⟩ := hold.keys_iff hnamed (hid.trans hexisting)
            refine ⟨rfl, rfl, rfl, rfl, ?_, hboth.symm⟩
            rw [hold.device, hdevice]
            exact hnamed.device
        · intro t ht _ hterminal
          rcases requeued_cases existing task.payload t with ⟨-, hkept⟩ | ⟨hid, -⟩
          · rw [hkept]
            exact .inl hterminal
          · obtain ⟨n, -, d, s, hold⟩ := hdb.named t ht
            obtain ⟨-, hdevice, -⟩ := hold.keys_iff hnamed (hid.trans hexisting)
            refine .inr fun d' hd' => ?_
            have heq : d' = deviceId :=
              (Option.some.inj (hold.device.symm.trans hd')).symm.trans hdevice
            exact heq ▸ hlive
        · intro t ht hnil hdelivers
          rcases requeued_cases existing task.payload t with ⟨-, hkept⟩ | ⟨hid, -⟩
          · rw [hkept]
            exact hdelivers
          · obtain ⟨n, -, d, s, hold⟩ := hdb.named t ht
            obtain ⟨-, -, hboth⟩ := hold.keys_iff hnamed (hid.trans hexisting)
            exact absurd (hboth.mp hnil) hcarries
      · exact ⟨_, _, hsame⟩
    | keep =>
      obtain rfl := Except.ok.inj h
      exact ⟨_, _, hsame⟩
    | match_ changed =>
      rw [reject_bind_eq_ok] at h
      obtain rfl := Except.ok.inj h.2
      exact ⟨_, _, hsame⟩

lemma attachContext_eq_ok {r : AttachRequest} {nodeCheck : Node → Except RuntimeFailure Unit}
    {deviceId : Uuid} {node : Node} {keys : List SshKey}
    (h : attachContext seen r nodeCheck = .ok (deviceId, node, keys)) :
    r.deviceId = some deviceId ∧ ((seen 0).activeDevice r.userId deviceId).isSome ∧
      node ∈ (seen 1).nodes ∧ keys ≠ [] := by
  unfold attachContext at h
  split at h
  · cases h
  · next id hid =>
    rw [reject_bind_eq_ok] at h
    obtain ⟨hactive, hrest⟩ := h
    obtain ⟨_, -, hrest⟩ := bind_eq_ok.mp hrest
    split at hrest
    · cases hrest
    · next node' hnode =>
      obtain ⟨_, -, hrest⟩ := bind_eq_ok.mp hrest
      rw [reject_bind_eq_ok] at hrest
      obtain ⟨hkeys, hrest⟩ := hrest
      obtain ⟨rfl, hpair⟩ := Prod.mk.inj (Except.ok.inj hrest)
      obtain ⟨rfl, rfl⟩ := Prod.mk.inj hpair
      exact ⟨hid, Option.isSome_iff_ne_none.mpr hactive, mem_of_lookup hnode, hkeys⟩

section

variable (hdb : db.Sound names) (hcurrent : ∀ i, (seen i).Follows names db) {r : AttachRequest}
  (hlive : ∀ d, r.deviceId = some d → ((seen 0).activeDevice r.userId d).isSome → ¬db.Revoked d)

include hdb hcurrent hlive

/-- A context whose device is live ends in a move. -/
lemma attach_move {reuse : Reuse} {nodeCheck : Node → Except RuntimeFailure Unit}
    {deviceId : Uuid} {node : Node} {keys : List SshKey}
    (hcontext : attachContext seen r nodeCheck = .ok (deviceId, node, keys))
    (h : ensureKeyTask names db reuse (seen 3).tasks node deviceId keys = .ok db') :
    ∃ g news, KeyMove names g news db db' := by
  obtain ⟨hdevice, hactive, hnode, hkeys⟩ := attachContext_eq_ok hcontext
  have hmem : node.id ∈ db.nodes.map Node.id := by
    rw [(hcurrent 1).nodes]
    exact List.mem_map_of_mem hnode
  exact ensureKeyTask_move hdb h hkeys hmem (hlive deviceId hdevice hactive)

lemma authorizeAttach_move (h : authorizeAttach names seen db r = .ok db') :
    ∃ g news, KeyMove names g news db db' := by
  unfold authorizeAttach at h
  obtain ⟨⟨deviceId, node, keys⟩, hcontext, hrest⟩ := bind_eq_ok.mp h
  dsimp only at hrest
  rw [reject_bind_eq_ok] at hrest
  exact attach_move hdb hcurrent hlive hcontext hrest.2

lemma exactAttach_move {capability : String} {unsupported changed : RuntimeFailure}
    (h : exactAttach names seen db capability unsupported changed r = .ok db') :
    ∃ g news, KeyMove names g news db db' := by
  unfold exactAttach at h
  obtain ⟨⟨deviceId, node, keys⟩, hcontext, hrest⟩ := bind_eq_ok.mp h
  exact attach_move hdb hcurrent hlive hcontext hrest

lemma startBinding_move (h : startBinding names seen db r = .ok db') :
    ∃ g news, KeyMove names g news db db' := by
  unfold startBinding at h
  obtain ⟨⟨deviceId, node, keys⟩, hcontext, hrest⟩ := bind_eq_ok.mp h
  exact attach_move hdb hcurrent hlive hcontext hrest

end

/-! ### Revocation -/

lemma mem_withdrawals {deviceId : Uuid} {t : NodeTask}
    (h : t ∈ withdrawals names seen db deviceId) : ∃ node i, (seen 2).nodes[i]? = some node ∧
      t = keyTask names (db.nextId + i) node deviceId [] := by
  unfold withdrawals at h
  obtain ⟨⟨node, i⟩, hmem, rfl⟩ := List.mem_map.mp h
  have hindex := List.mem_zipIdx_iff_getElem?.mp (List.mem_of_mem_filter hmem)
  exact ⟨node, i, hindex, rfl⟩

/-- A column of the new tasks that tells their nodes apart has no value twice. -/
lemma nodup_withdrawals {γ κ : Type} {f : NodeTask → γ} {key : Node × ℕ → κ} {F : κ → γ}
    {deviceId : Uuid} (hinj : Function.Injective F) (hkey : ((seen 2).nodes.zipIdx.map key).Nodup)
    (hf : ∀ p : Node × ℕ, f (keyTask names (db.nextId + p.2) p.1 deviceId []) = F (key p)) :
    ((withdrawals names seen db deviceId).map f).Nodup := by
  unfold withdrawals
  generalize hmissing : ((seen 2).nodes.zipIdx.filter _) = missing
  have hsub : missing.Sublist (seen 2).nodes.zipIdx := hmissing ▸ List.filter_sublist
  have hcolumn : (missing.map fun p => keyTask names (db.nextId + p.2) p.1 deviceId []).map f =
      (missing.map key).map F := by
    rw [List.map_map, List.map_map]
    exact List.map_congr_left fun p _ => hf p
  rw [hcolumn]
  exact (hkey.sublist (hsub.map key)).map hinj

lemma nodup_withdrawals_ids (deviceId : Uuid) :
    ((withdrawals names seen db deviceId).map NodeTask.id).Nodup := by
  have hindices : ((seen 2).nodes.zipIdx.map Prod.snd).Nodup := by
    rw [List.zipIdx_map_snd]
    exact List.nodup_range'
  exact nodup_withdrawals (add_right_injective db.nextId) hindices fun _ => rfl

lemma nodup_withdrawals_taskIds (hview : (seen 2).Sound names) (deviceId : Uuid) :
    ((withdrawals names seen db deviceId).map NodeTask.taskId).Nodup := by
  have hnodes : ((seen 2).nodes.zipIdx.map (Node.id ∘ Prod.fst)).Nodup := by
    rw [← List.map_map, List.zipIdx_map_fst]
    exact hview.nodeIds
  have hinj : Function.Injective fun n => sshKeySyncTaskId names n deviceId [] :=
    fun n n' h => (syncTaskName_inj h).1
  exact nodup_withdrawals hinj hnodes fun _ => rfl

lemma revokeDevice_move (hseen : ∀ i, (seen i).Sound names)
    (hcurrent : ∀ i, (seen i).Follows names db) {actorId deviceId : Uuid} {admin : Bool}
    (h : revokeDevice names seen db actorId admin deviceId = .ok db') :
    (∃ news, KeyMove names id news db db') ∧ db'.Withdrawn names deviceId := by
  unfold revokeDevice at h
  split at h
  · cases h
  · next device hfind =>
    dsimp only at h
    rw [reject_bind_eq_ok] at h
    obtain ⟨hfree, hrest⟩ := h
    obtain rfl := Except.ok.inj hrest
    obtain ⟨hdevice, -⟩ := Option.filter_eq_some_iff.mp hfind
    have hid : device.id = deviceId := key_of_lookup hdevice
    have hrevoked : KeyDb.Revoked { db with devices := db.devices.map fun d =>
        if d.id = device.id ∧ device.status ≠ .revoked then { d with status := .revoked } else d }
        deviceId := by
      obtain ⟨d, hd, hdid⟩ := (hcurrent 0).devices device (mem_of_lookup hdevice)
      by_cases hstatus : device.status = .revoked
      · obtain ⟨d', hd', hdid', hdstatus⟩ :=
          (hcurrent 0).revoked deviceId ⟨device, mem_of_lookup hdevice, hid, hstatus⟩
        refine ⟨d', List.mem_map.mpr ⟨d', hd', if_neg fun h => h.2 hstatus⟩, hdid', hdstatus⟩
      · refine ⟨_, List.mem_map_of_mem hd, ?_⟩
        rw [if_pos ⟨hdid, hstatus⟩]
        exact ⟨hdid.trans hid, rfl⟩
    have hnew : ∀ t ∈ withdrawals names seen db deviceId, ∀ t' ∈ db.tasks, t'.taskId ≠ t.taskId := by
      intro t ht t' ht' heq
      have hnone : ¬(taskByTaskId db.tasks t.taskId).isSome := fun hsome =>
        hfree (List.any_eq_true.mpr ⟨t, ht, hsome⟩)
      exact hnone (lookup_isSome_iff.mpr ⟨t', ht', heq⟩)
    refine ⟨⟨withdrawals names seen db deviceId, rfl, Nat.le_add_right _ _, fun d hd => ?_, ?_,
      fun t _ => .refl t, fun _ _ _ h => .inl h, fun _ _ _ h => h, nodup_withdrawals_ids deviceId,
      nodup_withdrawals_taskIds (hseen 2) deviceId, fun t ht => ?_, fun t ht => ?_⟩, ?_⟩
    · refine ⟨_, List.mem_map_of_mem hd, ?_⟩
      split_ifs
      · exact ⟨rfl, fun _ => rfl⟩
      · exact ⟨rfl, fun h => h⟩
    · rw [List.map_id]
    · obtain ⟨node, i, hindex, rfl⟩ := mem_withdrawals ht
      obtain ⟨hlt, -⟩ := List.getElem?_eq_some_iff.mp hindex
      exact ⟨Nat.le_add_right _ _, Nat.add_lt_add_left hlt _, hnew _ ht⟩
    · obtain ⟨node, i, hindex, rfl⟩ := mem_withdrawals ht
      have hmem : node.id ∈ db.nodes.map Node.id := by
        rw [(hcurrent 2).nodes]
        exact List.mem_map_of_mem (List.mem_of_getElem? hindex)
      have hnamed : Named names (keyTask names (db.nextId + i) node deviceId []) node.id deviceId
          (keyRevision names []) := keyTask_named _ _ _ _
      exact ⟨node.id, hmem, deviceId, _, hnamed, rfl, fun _ => hrevoked,
        fun hkeys => absurd (hnamed.keys.mpr rfl) hkeys⟩
    · intro nodeId hnode
      have hnode' : nodeId ∈ (seen 2).nodes.map Node.id := (hcurrent 2).nodes ▸ hnode
      obtain ⟨node, hmem, rfl⟩ := List.mem_map.mp hnode'
      obtain ⟨i, hindex⟩ := List.mem_iff_getElem?.mp hmem
      cases hread : taskByTaskId (seen (3 + i)).tasks (sshKeySyncTaskId names node.id deviceId [])
        with
      | none =>
        refine ⟨keyTask names (db.nextId + i) node deviceId [], List.mem_append_right _ ?_, rfl⟩
        exact List.mem_map.mpr ⟨(node, i), List.mem_filter.mpr
          ⟨List.mk_mem_zipIdx_iff_getElem?.mpr hindex, decide_eq_true hread⟩, rfl⟩
      | some t =>
        obtain ⟨t', ht', hsame⟩ := (hcurrent (3 + i)).tasks t (mem_of_lookup hread)
        exact ⟨t', List.mem_append_left _ ht', hsame.trans (key_of_lookup hread)⟩

end AgentRemote.KeySync
