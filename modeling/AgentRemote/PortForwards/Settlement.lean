import AgentRemote.PortForwards.Lifecycle

/-!
# When forwards stay settled

A forward that is settled on a copy that no longer allows it is overwritten or keeps its lease,
and a lease granted past the end of its forward outlives it. Nothing else goes wrong.
-/

namespace AgentRemote.PortForwards
open Library

section

variable {settings : PortForwardSettings} {seen : ℕ → ForwardDb} {db db' : ForwardDb}
  {t : ForwardTx} {row f f' : PortForward} {w : PortForward × PortForward}
  {ws : List (PortForward × PortForward)}

/-! ### Endings of distinct forwards -/

lemma applied_of_ne (h : ∀ w ∈ ws, row.id ≠ w.1.id) : applied ws row = row := by
  induction ws with
  | nil => rfl
  | cons w ws ih =>
    have hcons : applied (w :: ws) row =
        applied ws (if row.id = w.1.id then row.updated w.1 w.2 else row) := rfl
    rw [hcons, if_neg (h w List.mem_cons_self)]
    exact ih fun w' hw' => h w' (List.mem_cons_of_mem _ hw')

lemma applied_of_mem (hn : (ws.map (·.1.id)).Nodup) (hw : w ∈ ws) (hid : row.id = w.1.id) :
    applied ws row = row.updated w.1 w.2 := by
  induction ws with
  | nil => cases hw
  | cons w' ws ih =>
    rw [List.map_cons, List.nodup_cons] at hn
    have hcons : applied (w' :: ws) row =
        applied ws (if row.id = w'.1.id then row.updated w'.1 w'.2 else row) := rfl
    rw [hcons]
    rcases List.mem_cons.mp hw with rfl | hw
    · rw [if_pos hid]
      refine applied_of_ne fun w' hw' heq => hn.1 ?_
      exact List.mem_map.mpr ⟨w', hw', heq.symm.trans hid⟩
    · have hne : row.id ≠ w'.1.id := by
        intro heq
        exact hn.1 (List.mem_map.mpr ⟨w, hw, hid.symm.trans heq⟩)
      rw [if_neg hne]
      exact ih hn.2 hw

lemma nodup_of_length_le {α : Type} {l : List α} (h : l.length ≤ 1) : l.Nodup := by
  match l, h with
  | [], _ => exact List.nodup_nil
  | [a], _ => exact List.nodup_singleton a

/-- No forward is ended twice by one transaction. -/
lemma endings_nodup (h : (seen 0).Sound) :
    ((t.endings settings seen db).map (·.1.id)).Nodup := by
  cases t with
  | list user allUsers =>
    simp only [ForwardTx.endings]
    split_ifs
    · exact List.nodup_nil
    · rw [List.map_map]
      refine List.Nodup.sublist (List.filter_sublist.map _) ?_
      rw [List.map_reverse, List.nodup_reverse]
      exact h.nodup.sublist (List.filter_sublist.map _)
  | get user id =>
    refine nodup_of_length_le ?_
    simp only [ForwardTx.endings]
    split
    · simp
    · split_ifs <;> simp
  | stop user id =>
    refine nodup_of_length_le ?_
    simp only [ForwardTx.endings]
    split
    · simp
    · split_ifs <;> simp
  | issueConnection userId tokenDeviceId storeUp id =>
    refine nodup_of_length_le ?_
    simp only [ForwardTx.endings]
    split
    · simp
    · split
      · simp
      · split
        · rename_i refusal _
          cases refusal.settled <;> simp
        · simp
  | _ => exact List.nodup_nil

/-- The rows after an operation on unlocked copies: as they were, or updated from a copy. -/
lemma mem_settle (hn : (ws.map (·.1.id)).Nodup) (hf' : f' ∈ db.settle ws) :
    f' ∈ db.forwards ∨ db.Finds ws ∧ ∃ w ∈ ws, ∃ row ∈ db.forwards, row.id = w.1.id ∧
      f' = row.updated w.1 w.2 := by
  unfold ForwardDb.settle at hf'
  split_ifs at hf' with hfinds
  · obtain ⟨row, hrow, rfl⟩ := List.mem_map.mp hf'
    by_cases hw : ∃ w ∈ ws, row.id = w.1.id
    · obtain ⟨w, hw, hid⟩ := hw
      exact .inr ⟨hfinds, w, hw, row, hrow, hid, applied_of_mem hn hw hid⟩
    · push Not at hw
      rw [applied_of_ne hw]
      exact .inl hrow
  · exact .inl hf'

/-! ### One transaction -/

/-- What a transaction must keep of the forwards. -/
structure Settled (db db' : ForwardDb) : Prop where
  absorbing : ∀ f ∈ db.forwards, ∀ f' ∈ db'.forwards, f'.id = f.id →
    f.status.terminal = true → f'.status = f.status
  leased : ∀ f ∈ db'.forwards, f.Leased

lemma leased_of_none (h : f.leaseExpiresAt = none) : f.Leased := by
  intro lease hlease
  rw [h] at hlease
  cases hlease

/-- Rows that stay as they are stay settled. -/
lemma status_of_mem (hdb : db.Sound) (hf : f ∈ db.forwards) (hf' : f' ∈ db.forwards)
    (hid : f'.id = f.id) : f'.status = f.status := by
  rw [eq_of_key_eq hdb.nodup hf' hf hid]

lemma settled_of_settle (hdb : db.Sound) (hleased : ∀ f ∈ db.forwards, f.Leased)
    (hn : (ws.map (·.1.id)).Nodup) (hends : ∀ w ∈ ws, w.1.Ends w.2)
    (hsettles : db.Finds ws → ∀ w ∈ ws, ∀ row ∈ db.forwards, row.id = w.1.id → row.Settles w)
    (hdb' : db'.forwards = db.settle ws) : Settled db db' := by
  constructor
  · intro f hf f' hf' hid hterminal
    rw [hdb'] at hf'
    rcases mem_settle hn hf' with hf' | ⟨hfinds, w, hw, row, hrow, hrowid, rfl⟩
    · exact status_of_mem hdb hf hf' hid
    · obtain rfl : row = f := eq_of_key_eq hdb.nodup hrow hf hid
      rw [(hends w hw).status_updated]
      exact ((hsettles hfinds w hw row hrow hrowid).1 hterminal).symm
  · intro f' hf'
    rw [hdb'] at hf'
    rcases mem_settle hn hf' with hf' | ⟨hfinds, w, hw, row, hrow, hrowid, rfl⟩
    · exact hleased f' hf'
    · refine leased_of_none ?_
      rw [(hends w hw).lease_updated]
      split_ifs with hnone
      · exact (hsettles hfinds w hw row hrow hrowid).2 hnone
      · rfl

lemma settled_of_moves {granted : PortForward → Prop} (hdb : db.Sound)
    (hleased : ∀ f ∈ db.forwards, f.Leased) (h : db.Moves granted db')
    (hgranted : ∀ f, granted f → ∀ lease ∈ f.leaseExpiresAt, lease ≤ f.expiresAt) :
    Settled db db' := by
  have hmove := h.forwards
  generalize hforwards : db'.forwards = forwards at hmove
  constructor
  · intro f hf f' hf' hid hterminal
    rw [hforwards] at hf'
    cases hmove with
    | same => exact status_of_mem hdb hf hf' hid
    | locked f₀ new hf₀ hchange hlease =>
      obtain ⟨row, hrow, rfl⟩ := List.mem_map.mp hf'
      rw [setForward_apply hdb hf₀ hchange hrow] at hid ⊢
      split_ifs at hid ⊢ with hrowid
      · have heq : f = f₀ :=
          eq_of_key_eq hdb.nodup hf hf₀ (hid.symm.trans hchange.keeps.id)
        rw [heq, hchange.open_] at hterminal
        cases hterminal
      · exact status_of_mem hdb hf hrow hid
    | ended g hg =>
      obtain ⟨row, hrow, rfl⟩ := List.mem_map.mp hf'
      rcases hg row with heq | hends
      · rw [heq] at hid ⊢
        exact status_of_mem hdb hf hrow hid
      · have heq : f = row :=
          eq_of_key_eq hdb.nodup hf hrow (hid.symm.trans hends.change.keeps.id)
        rw [heq, hends.open_] at hterminal
        cases hterminal
    | removed p => exact status_of_mem hdb hf (List.mem_filter.mp hf').1 hid
  · intro f' hf'
    rw [hforwards] at hf'
    cases hmove with
    | same => exact hleased f' hf'
    | locked f₀ new hf₀ hchange hlease =>
      obtain ⟨row, hrow, rfl⟩ := List.mem_map.mp hf'
      rw [setForward_apply hdb hf₀ hchange hrow]
      split_ifs
      · intro lease hmem
        have hsome : new.leaseExpiresAt ≠ none := by
          intro hnone
          rw [hnone] at hmem
          cases hmem
        exact ⟨hchange.lease.resolve_left hsome,
          hgranted new (hlease.resolve_left hsome) lease hmem⟩
      · exact hleased row hrow
    | ended g hg =>
      obtain ⟨row, hrow, rfl⟩ := List.mem_map.mp hf'
      rcases hg row with heq | hends
      · rw [heq]
        exact hleased row hrow
      · exact leased_of_none hends.lease_new
    | removed p => exact hleased f' (List.mem_filter.mp hf').1

lemma settled_of_creates {created : CreatedPortForward} (hdb : db.Sound)
    (hleased : ∀ f ∈ db.forwards, f.Leased) (h : db.Creates settings db' created) :
    Settled db db' := by
  constructor
  · intro f hf f' hf' hid _
    rw [h.forwards, List.mem_append, List.mem_singleton] at hf'
    rcases hf' with hf' | rfl
    · exact status_of_mem hdb hf hf' hid
    · rw [h.id] at hid
      exact absurd hid (hdb.ids f hf).ne'
  · intro f' hf'
    rw [h.forwards, List.mem_append, List.mem_singleton] at hf'
    rcases hf' with hf' | rfl
    · exact hleased f' hf'
    · exact leased_of_none h.lease

/-- A granted lease ends with its forward when the transaction is timely. -/
lemma ForwardTx.Timely.granted (h : t.Timely settings seen db) :
    ∀ f, t.Grants settings seen db f → ∀ lease ∈ f.leaseExpiresAt, lease ≤ f.expiresAt := by
  rintro f (⟨r, a, rfl, hok, rfl⟩ | ⟨r, a, rfl, hok, rfl⟩) lease hlease
  · obtain ⟨⟨_, -, -, -, -, hnew, -⟩, -⟩ := redeem_eq_ok hok
    rw [hnew] at hlease
    obtain rfl := Option.some.inj hlease
    exact h.redeems r a rfl hok
  · obtain ⟨_, -, -, hnew, -⟩ := renew_eq_ok hok
    rw [hnew] at hlease
    obtain rfl := Option.some.inj hlease
    exact h.renews r a rfl hok

/-- A timely transaction keeps the forwards settled. -/
lemma commit_settled (hdb : db.Sound) (hseen : (seen 0).Sound)
    (hleased : ∀ f ∈ db.forwards, f.Leased) (h : t.Timely settings seen db) :
    Settled db (t.commit settings seen db).1 := by
  rcases commit_cases settings seen db t with
    ⟨r, created, -, -, -, hcreates⟩ | ⟨hsettle, -⟩ | hmoves
  · exact settled_of_creates hdb hleased hcreates
  · exact settled_of_settle hdb hleased (endings_nodup hseen) endings_ends h.settles hsettle
  · exact settled_of_moves hdb hleased hmoves h.granted

/-- Only a timely transaction keeps the forwards settled. -/
lemma timely_of_settled (hseen : (seen 0).Sound)
    (h : Settled db (t.commit settings seen db).1) : t.Timely settings seen db := by
  constructor
  · intro hfinds w hw row hrow hid
    have hends := endings_ends w hw
    have hunlocked : t.unlocked = true := by
      cases t <;> first | rfl | (simp [ForwardTx.endings] at hw)
    have hmem : row.updated w.1 w.2 ∈ (t.commit settings seen db).1.forwards := by
      rw [commit_unlocked hunlocked, ForwardDb.settle, if_pos hfinds]
      exact List.mem_map.mpr ⟨row, hrow, applied_of_mem (endings_nodup hseen) hw hid⟩
    constructor
    · intro hterminal
      rw [← hends.status_updated]
      exact (h.absorbing row hrow _ hmem rfl hterminal).symm
    · intro hnone
      by_contra hsome
      obtain ⟨lease, hlease⟩ := Option.ne_none_iff_exists'.mp hsome
      have hkept : lease ∈ (row.updated w.1 w.2).leaseExpiresAt := by
        rw [hends.lease_updated, if_pos hnone]
        exact hlease
      have hactive := (h.leased _ hmem lease hkept).1
      have hterminal := hends.terminal
      rw [← hends.status_updated, hactive] at hterminal
      cases hterminal
  · rintro r a rfl hok
    obtain ⟨⟨f, hf, -, hchange, -, hlease, hdb⟩, -⟩ := redeem_eq_ok hok
    have hafter : ((ForwardTx.redeem r).commit settings seen db).1 =
        (db.consume r.connectToken).setForward f a.portForward := hdb
    have hmem : a.portForward ∈ ((ForwardTx.redeem r).commit settings seen db).1.forwards := by
      rw [hafter]
      refine List.mem_map.mpr ⟨f, hf, ?_⟩
      rw [if_pos rfl, hchange.columns]
    exact (h.leased _ hmem _ hlease).2
  · rintro r a rfl hok
    obtain ⟨f, hf, hchange, hlease, hdb⟩ := renew_eq_ok hok
    have hafter : ((ForwardTx.renew r).commit settings seen db).1 =
        db.setForward f a.portForward := hdb
    have hmem : a.portForward ∈ ((ForwardTx.renew r).commit settings seen db).1.forwards := by
      rw [hafter]
      refine List.mem_map.mpr ⟨f, hf, ?_⟩
      rw [if_pos rfl, hchange.columns]
    exact (h.leased _ hmem _ hlease).2

end

/-! ### Runs -/

section

variable {settings : PortForwardSettings} {world : ForwardWorld} {clock : Instant}
  {schedule : List (Scheduled ForwardTx)}

/-- A run of timely transactions keeps its forwards settled. -/
lemma settled_of_timely
    (h : ∀ c ∈ (forwarding settings world clock).commits schedule,
      c.tx.Timely settings c.seen c.before)
    (c : Commit ForwardDb ForwardTx)
    (hc : c ∈ (forwarding settings world clock).commits schedule) :
    Settled c.before ((forwarding settings world clock).after c) := by
  have hran : (forwarding settings world clock).Ran
      (fun db => db.Sound ∧ ∀ f ∈ db.forwards, f.Leased) ForwardDb.Follows schedule := by
    refine Transactions.ran_of_step ForwardDb.Follows.refl ForwardDb.Follows.trans
      ⟨emptyForwardDb_sound, fun f hf => absurd hf List.not_mem_nil⟩ (fun c hsees htimely => ?_) h
    have hsettled := commit_settled hsees.before.1 (hsees.seen 0).1 hsees.before.2 htimely
    have hfollows : ((forwarding settings world clock).after c).Sound ∧
        c.before.Follows ((forwarding settings world clock).after c) :=
      commit_follows hsees.before.1
    exact ⟨⟨hfollows.1, hsettled.leased⟩, hfollows.2⟩
  have hsees := hran.sees_of_mem hc
  exact commit_settled hsees.before.1 (hsees.seen 0).1 hsees.before.2 (h c hc)

/-- The life of every forward is as it should be in exactly the runs of timely transactions. -/
theorem portForwards_iff (settings : PortForwardSettings) (world : ForwardWorld) (clock : Instant)
    (schedule : List (Scheduled ForwardTx)) :
    ForwardLifecycle settings (forwarding settings world clock) schedule ↔
      ∀ c ∈ (forwarding settings world clock).commits schedule,
        c.tx.Timely settings c.seen c.before := by
  constructor
  · intro h c hc
    refine timely_of_settled ((forwarding_ran.sees_of_mem hc).seen 0) ?_
    exact ⟨h.absorbing c hc, h.leased c hc⟩
  · intro h
    exact {
      absorbing := fun c hc => (settled_of_timely h c hc).absorbing
      leased := fun c hc => (settled_of_timely h c hc).leased
      redeemedOnce := redeemed_once
      fresh := redeemed_fresh
      current := fun c _ id n hreport => hreport.current
      newest := reported_newest
      quotas := fun later c earlier hcommits created hcreated scope hlater =>
        quotas_kept hcommits hcreated hlater
      unused := fun scope key hnone => count_eq_zero hnone }

end

/-! ### A stop that overwrites a revocation -/

def sampleForwardSettings : PortForwardSettings where
  portForwardingEnabled := true
  minPort := 1024
  maxPort := 65535
  maxPerUser := 10
  maxPerDevice := 10
  maxPerSession := 5
  maxStreams := 128
  defaultTtlSeconds := 28800
  maxTtlSeconds := 86400
  connectionTokenTtlSeconds := 60
  leaseSeconds := 60
  controlPlaneGraceSeconds := 300
  bytesPerSecond := 0

def sampleForwardNode : Node where
  id := 1
  status := .healthy
  wireguardIp := some "10.77.1.1".toList
  sshUser := none
  sshPort := none
  runtimeCapabilities := [("session_port_forwarding".toList,
    .object [("supported".toList, .bool true),
      ("backends".toList, .array [.string "native".toList]),
      ("protocol_versions".toList, .array [.int 1]), ("max_streams".toList, .int 16)])]
  runtimePolicy := []

def sampleForwardUser : User := ⟨2, .user, .active⟩

def sampleForwardWorld : ForwardWorld where
  users := [sampleForwardUser]
  devices := [⟨3, 2, .active⟩]
  sshKeys := [⟨4, 3, "key".toList, .active⟩]
  sessions := [⟨5, 2, 1, 6, "claude".toList, .running, some "main".toList, "native".toList,
    some "runtime".toList⟩]
  toolAccounts := [⟨6, 2, "claude".toList, true⟩]
  nodes := [sampleForwardNode]

/-- A user stops a forward on a copy that is older than the revocation of the device. -/
def sampleForwardSchedule : List (Scheduled ForwardTx) :=
  [.stale (.stop sampleForwardUser 0) 1 1,
    .fresh (.revoke ⟨none, some 3, none, none, none⟩ "device_revoked"),
    .fresh (.create ⟨2, some 3, ⟨5, 8080, 8080, "cli".toList, none⟩, none, some true, true⟩)]

theorem stale_stop_overwrites_revocation :
    ¬ForwardLifecycle sampleForwardSettings
      (forwarding sampleForwardSettings sampleForwardWorld 0) sampleForwardSchedule := by
  intro h
  have hover : ∃ c ∈ (forwarding sampleForwardSettings sampleForwardWorld 0).commits
      sampleForwardSchedule, ∃ f ∈ c.before.forwards,
      ∃ f' ∈ ((forwarding sampleForwardSettings sampleForwardWorld 0).after c).forwards,
        f'.id = f.id ∧ f.status.terminal = true ∧ f'.status ≠ f.status := by
    decide +kernel
  obtain ⟨c, hc, f, hf, f', hf', hid, hterminal, hne⟩ := hover
  exact hne (h.absorbing c hc f hf f' hf' hid hterminal)

end AgentRemote.PortForwards
