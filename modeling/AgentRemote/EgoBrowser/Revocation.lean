import AgentRemote.EgoBrowser.Operations

/-!
# Revocation of the generations left behind

Every generation a binding has left has exactly one row in the outbox, whatever the
operations, their failures and the retries of the publisher were. The tables are read as
fenced generations; each move is a step of the fences or leaves them alone.
-/

namespace AgentRemote
open Library EgoBrowserTables

variable {db db' : EgoBrowserTables} {events es : List EgoBrowserEvent} {b old new : EgoBrowserBinding}
  {reason : String} {service : EgoBrowserService} {now : Instant}
  {mayMark : EgoBrowserBinding → Prop}

/-- The bindings and the outbox as fenced generations. -/
def EgoBrowserTables.fences (db : EgoBrowserTables) : Fences Uuid where
  current id := (db.getBinding id).map (·.generation)
  retired id := ((db.outbox.filter fun e => e.bindingId = id).map (·.generation) : List ℕ)

/-- The invariant of bindings and outbox. -/
structure Fenced (db : EgoBrowserTables) (events : List EgoBrowserEvent) : Prop where
  ids : (db.bindings.map EgoBrowserBinding.id).Nodup
  complete : db.fences.Complete
  live : ∀ b ∈ db.bindings, ∀ c ∈ db.bindings, b.status.live = true → c.status.live = true →
    Competes b c → b = c
  delivered : ∀ e ∈ db.outbox, e.deliveredAt ≠ none →
    .published e.bindingId e.generation ∈ events

/-! ### Fences of the moves -/

lemma fences_congr (hbindings : db'.bindings = db.bindings) (houtbox : db'.outbox = db.outbox) :
    db'.fences = db.fences := by
  unfold fences getBinding
  rw [hbindings, houtbox]

lemma getBinding_of_mem (hn : (db.bindings.map EgoBrowserBinding.id).Nodup)
    (hb : b ∈ db.bindings) : db.getBinding b.id = some b :=
  lookup_of_mem hn hb

lemma fences_setBinding (hn : (db.bindings.map EgoBrowserBinding.id).Nodup)
    (hold : old ∈ db.bindings) (hid : new.id = old.id) (hgen : new.generation = old.generation) :
    (db.setBinding new).fences = db.fences := by
  have hcurrent : (db.setBinding new).fences.current = db.fences.current := by
    funext id
    simp only [fences, getBinding, setBinding, lookup_replace]
    by_cases h : id = old.id
    · have hlookup : lookup EgoBrowserBinding.id db.bindings old.id = some old :=
        lookup_of_mem hn hold
      simp [h, hid, hlookup, hgen]
    · simp [h, hid]
  exact congrArg (fun current => Fences.mk current db.fences.retired) hcurrent

lemma fences_addBinding (hnew : ∀ c ∈ db.bindings, c.id ≠ b.id) (hgen : b.generation = 1) :
    EgoBrowserTables.fences { db with bindings := db.bindings ++ [b] } = db.fences.opened b.id := by
  have hnone : db.getBinding b.id = none := lookup_eq_none_iff.mpr hnew
  have hcurrent : (EgoBrowserTables.fences { db with bindings := db.bindings ++ [b] }).current =
      (db.fences.opened b.id).current := by
    funext id
    by_cases h : id = b.id
    · subst h
      simp only [fences, Fences.opened, getBinding, lookup_append, Function.update_self] at hnone ⊢
      rw [hnone]
      simp [lookup, hgen]
    · have hne : ¬b.id = id := fun heq => h heq.symm
      simp [fences, Fences.opened, getBinding, lookup, Function.update_of_ne h, hne]
  exact congrArg (fun current => Fences.mk current db.fences.retired) hcurrent

/-- The current generation of a binding is not in the outbox. -/
lemma not_mem_outbox (h : Fenced db events) (hb : b ∈ db.bindings) :
    ¬∃ e ∈ db.outbox, e.bindingId = b.id ∧ e.generation = b.generation := by
  rintro ⟨e, he, hid, hgen⟩
  have hcurrent : db.fences.current b.id = some b.generation := by
    simp only [fences]
    rw [getBinding_of_mem h.ids hb]
    rfl
  have hcount := h.complete.count hcurrent b.generation
  rw [if_neg (by omega), Multiset.count_eq_zero] at hcount
  apply hcount
  simp only [fences, Multiset.mem_coe, List.mem_map, List.mem_filter, decide_eq_true_eq]
  exact ⟨e, ⟨he, hid⟩, hgen⟩

lemma outbox_enqueueRevocation {id : Uuid} {n : ℕ}
    (hfresh : ¬∃ e ∈ db.outbox, e.bindingId = id ∧ e.generation = n) :
    (db.enqueueRevocation id n reason).outbox = db.outbox ++
      [{ bindingId := id, generation := n, reason := safeReason reason, deliveredAt := none }] := by
  simp only [enqueueRevocation, addOutbox, reject, if_neg hfresh]
  rfl

lemma outbox_supersede (hfresh : ¬∃ e ∈ db.outbox, e.bindingId = old.id ∧
      e.generation = old.generation) :
    (db.supersede old new reason).outbox = db.outbox ++
      [{ bindingId := old.id, generation := old.generation, reason := safeReason reason,
         deliveredAt := none }] :=
  outbox_enqueueRevocation hfresh

lemma fences_supersede (h : Fenced db events) (hold : old ∈ db.bindings) (hid : new.id = old.id)
    (hgen : new.generation = old.generation + 1) :
    (db.supersede old new reason).fences = db.fences.left old.id old.generation := by
  have hcurrent : (db.supersede old new reason).fences.current =
      (db.fences.left old.id old.generation).current := by
    funext id
    simp only [fences, getBinding, bindings_supersede, lookup_replace, Fences.left]
    by_cases hne : id = old.id
    · have hlookup : lookup EgoBrowserBinding.id db.bindings old.id = some old :=
        lookup_of_mem h.ids hold
      simp [hne, hid, hlookup, hgen]
    · simp [hne, hid]
  have hretired : (db.supersede old new reason).fences.retired =
      (db.fences.left old.id old.generation).retired := by
    funext id
    simp only [fences, Fences.left, outbox_supersede (not_mem_outbox h hold), List.filter_append]
    by_cases hne : id = old.id
    · subst hne
      simp [← Multiset.coe_add, Multiset.add_comm, Multiset.singleton_add]
    · have hne' : ¬old.id = id := fun heq => hne heq.symm
      simp [hne', Function.update_of_ne hne]
  exact congrArg₂ Fences.mk hcurrent hretired

/-! ### The invariant -/

lemma live_replace (hlive : ∀ b ∈ db.bindings, ∀ c ∈ db.bindings, b.status.live = true →
      c.status.live = true → Competes b c → b = c)
    (hold : old ∈ db.bindings) (hsame : SameBinding old new)
    (hstatus : new.status.live = true → old.status.live = true) :
    ∀ b ∈ replace EgoBrowserBinding.id db.bindings new,
      ∀ c ∈ replace EgoBrowserBinding.id db.bindings new,
        b.status.live = true → c.status.live = true → Competes b c → b = c := by
  intro b hb c hc hblive hclive hcompetes
  rw [mem_replace] at hb hc
  obtain ⟨hb, hbid⟩ | ⟨rfl, -⟩ := hb
  · obtain ⟨hc, hcid⟩ | ⟨rfl, -⟩ := hc
    · exact hlive b hb c hc hblive hclive hcompetes
    · have hcompetes' : Competes b old := by
        unfold Competes at hcompetes ⊢
        rwa [hsame.device, hsame.session, hsame.reference] at hcompetes
      rw [hlive b hb old hold hblive (hstatus hclive) hcompetes', hsame.id] at hbid
      exact absurd rfl hbid
  · obtain ⟨hc, hcid⟩ | ⟨rfl, -⟩ := hc
    · have hcompetes' : Competes old c := by
        unfold Competes at hcompetes ⊢
        rwa [hsame.device, hsame.session, hsame.reference] at hcompetes
      rw [← hlive old hold c hc (hstatus hblive) hclive hcompetes', hsame.id] at hcid
      exact absurd rfl hcid
    · rfl

lemma Competes.symm {b c : EgoBrowserBinding} (h : Competes b c) : Competes c b := by
  obtain h | h | ⟨hne, h⟩ := h
  · exact .inl h.symm
  · exact .inr (.inl h.symm)
  · exact .inr (.inr ⟨h ▸ hne, h.symm⟩)

namespace Fenced

lemma congr (h : Fenced db events) (hbindings : db'.bindings = db.bindings)
    (houtbox : db'.outbox = db.outbox) : Fenced db' events where
  ids := by
    rw [hbindings]
    exact h.ids
  complete := by
    rw [fences_congr hbindings houtbox]
    exact h.complete
  live := by
    rw [hbindings]
    exact h.live
  delivered := by
    rw [houtbox]
    exact h.delivered

lemma mono (h : Fenced db events) (es : List EgoBrowserEvent) : Fenced db (events ++ es) where
  ids := h.ids
  complete := h.complete
  live := h.live
  delivered e he hdone := List.mem_append_left _ (h.delivered e he hdone)

lemma claim (h : Fenced db events) (hnew : ∀ c ∈ db.bindings, c.id ≠ b.id)
    (hgen : b.generation = 1)
    (hfree : ∀ c ∈ db.bindings, c.status.live = true → ¬Competes c b) :
    Fenced { db with bindings := db.bindings ++ [b] } events where
  ids := by
    rw [List.map_append, List.nodup_append]
    refine ⟨h.ids, List.nodup_singleton _, ?_⟩
    intro i hi j hj
    obtain ⟨c, hc, rfl⟩ := List.mem_map.mp hi
    rw [List.map_singleton, List.mem_singleton] at hj
    rw [hj]
    exact hnew c hc
  complete := by
    rw [fences_addBinding hnew hgen]
    apply h.complete.opened
    simp only [fences]
    rw [show db.getBinding b.id = none from lookup_eq_none_iff.mpr hnew]
    rfl
  live := by
    intro c hc d hd hclive hdlive hcompetes
    rw [List.mem_append, List.mem_singleton] at hc hd
    obtain hc | rfl := hc
    · obtain hd | rfl := hd
      · exact h.live c hc d hd hclive hdlive hcompetes
      · exact absurd hcompetes (hfree c hc hclive)
    · obtain hd | rfl := hd
      · exact absurd hcompetes.symm (hfree d hd hdlive)
      · rfl
  delivered := h.delivered

lemma touch (h : Fenced db events) (hold : old ∈ db.bindings) (hsame : SameBinding old new)
    (hgen : new.generation = old.generation)
    (hstatus : new.status = old.status ∨
      (old.status.awaitsBridge = true ∧ new.status = .active)) :
    Fenced (db.setBinding new) events where
  ids := by
    rw [setBinding, map_key_replace]
    exact h.ids
  complete := by
    rw [fences_setBinding h.ids hold hsame.id hgen]
    exact h.complete
  live := by
    apply live_replace h.live hold hsame
    intro hlive
    obtain hstatus | ⟨hawaits, -⟩ := hstatus
    · rwa [← hstatus]
    · exact EgoBrowserBindingStatus.live_of_awaitsBridge hawaits
  delivered := h.delivered

lemma leave (h : Fenced db events) (hold : old ∈ db.bindings) (hsame : SameBinding old new)
    (hgen : new.generation = old.generation + 1)
    (hstatus : new.status.terminal = true ∨ old.status.live = true) :
    Fenced (db.supersede old new reason) events where
  ids := by
    rw [bindings_supersede, map_key_replace]
    exact h.ids
  complete := by
    rw [fences_supersede h hold hsame.id hgen]
    apply h.complete.left
    simp only [fences]
    rw [getBinding_of_mem h.ids hold]
    rfl
  live := by
    rw [bindings_supersede]
    apply live_replace h.live hold hsame
    intro hlive
    obtain hterminal | hold := hstatus
    · rw [EgoBrowserBindingStatus.terminal_eq_false_of_live hlive] at hterminal
      cases hterminal
    · exact hold
  delivered := by
    rw [outbox_supersede (not_mem_outbox h hold)]
    intro e he hdone
    rw [List.mem_append, List.mem_singleton] at he
    obtain he | rfl := he
    · exact h.delivered e he hdone
    · exact absurd rfl hdone

lemma deliver (h : Fenced db events) {bindingId : Uuid} {generation : ℕ} :
    Fenced (db.markDelivered bindingId generation now)
      (events ++ [.published bindingId generation]) where
  ids := h.ids
  complete := by
    have hfences : (db.markDelivered bindingId generation now).fences = db.fences := by
      have hretired : (db.markDelivered bindingId generation now).fences.retired =
          db.fences.retired := by
        funext id
        simp only [fences, markDelivered, List.filter_map, List.map_map, Multiset.coe_eq_coe]
        apply List.Perm.of_eq
        have hfilter : (db.outbox.filter ((fun e => decide (e.bindingId = id)) ∘ fun e =>
            if e.bindingId = bindingId ∧ e.generation = generation then
              { e with deliveredAt := some now } else e)) =
            db.outbox.filter fun e => e.bindingId = id := by
          apply List.filter_congr
          intro e _
          simp only [Function.comp_apply]
          split_ifs <;> rfl
        rw [hfilter]
        apply List.map_congr_left
        intro e _
        simp only [Function.comp_apply]
        split_ifs <;> rfl
      exact congrArg (Fences.mk db.fences.current) hretired
    rw [hfences]
    exact h.complete
  live := h.live
  delivered := by
    intro e he hdone
    simp only [markDelivered, List.mem_map] at he
    obtain ⟨f, hf, rfl⟩ := he
    split_ifs at hdone ⊢ with hkey
    · obtain ⟨rfl, rfl⟩ := hkey
      exact List.mem_append_right _ (List.mem_singleton_self _)
    · exact List.mem_append_left _ (h.delivered f hf hdone)

/-- No move breaks the fences. -/
lemma move (h : Fenced db events) {e : Option EgoBrowserEvent} (hm : Move service now mayMark db e db') :
    Fenced db' (events ++ e.toList) := by
  cases hm with
  | other hbindings _ houtbox => exact (h.congr hbindings houtbox).mono _
  | claim hnew hgen _ _ _ _ hfree => exact (h.claim hnew hgen hfree).mono _
  | touch hold hsame hgen hstatus _ => exact (h.touch hold hsame hgen hstatus).mono _
  | leave hold hsame hgen _ hstatus _ => exact (h.leave hold hsame hgen hstatus).mono _
  | accept _ _ _ _ _ _ _ _ hadd =>
    obtain ⟨-, hbindings, houtbox⟩ := mem_addLedger hadd
    exact (h.congr hbindings houtbox).mono _
  | answer _ _ _ _ _ _ hadd =>
    obtain ⟨-, hbindings, houtbox⟩ := mem_addLedger hadd
    exact (h.congr hbindings houtbox).mono _
  | settle | ask =>
    refine (h.congr ?_ ?_).mono _
    · rfl
    · rfl
  | deliver => exact h.deliver

lemma moves (h : Fenced db events) (hm : Moves service now mayMark db es db') : Fenced db' (events ++ es) := by
  induction hm with
  | refl => simpa using h
  | tail _ hm ih =>
    rw [← List.append_assoc]
    exact ih.move hm

end Fenced

/-! ### Progress of the bindings -/

/-- No binding disappears, falls back to an earlier generation or leaves a terminal status. -/
def Progress (db db' : EgoBrowserTables) : Prop :=
  ∀ b ∈ db.bindings, ∃ b' ∈ db'.bindings, b'.id = b.id ∧ b.generation ≤ b'.generation ∧
    (b.status.terminal = true → b'.status.terminal = true)

namespace Progress

lemma of_subset (h : ∀ b ∈ db.bindings, b ∈ db'.bindings) : Progress db db' :=
  fun b hb => ⟨b, h b hb, rfl, le_rfl, id⟩

lemma trans {db'' : EgoBrowserTables} (h : Progress db db') (h' : Progress db' db'') :
    Progress db db'' := by
  intro b hb
  obtain ⟨c, hc, hcid, hcgen, hcterm⟩ := h b hb
  obtain ⟨d, hd, hdid, hdgen, hdterm⟩ := h' c hc
  exact ⟨d, hd, hdid.trans hcid, hcgen.trans hdgen, fun hb => hdterm (hcterm hb)⟩

lemma of_replace (hn : (db.bindings.map EgoBrowserBinding.id).Nodup) (hold : old ∈ db.bindings)
    (hid : new.id = old.id) (hgen : old.generation ≤ new.generation)
    (hterm : old.status.terminal = true → new.status.terminal = true)
    (hdb : db'.bindings = replace EgoBrowserBinding.id db.bindings new) : Progress db db' := by
  intro b hb
  by_cases hne : b.id = new.id
  · obtain rfl : b = old := eq_of_key_eq hn hb hold (hne.trans hid)
    refine ⟨new, ?_, hid, hgen, hterm⟩
    rw [hdb]
    exact mem_replace.mpr (.inr ⟨rfl, b, hb, hne⟩)
  · refine ⟨b, ?_, rfl, le_rfl, id⟩
    rw [hdb]
    exact mem_replace_of_ne hb hne

lemma of_move (hn : (db.bindings.map EgoBrowserBinding.id).Nodup)
    {e : Option EgoBrowserEvent} (hm : Move service now mayMark db e db') : Progress db db' := by
  cases hm with
  | other hbindings =>
    apply of_subset
    rw [hbindings]
    exact fun b hb => hb
  | claim => exact of_subset fun b hb => List.mem_append_left _ hb
  | touch hold hsame hgen hstatus _ =>
    refine of_replace hn hold hsame.id hgen.ge ?_ rfl
    intro hterminal
    obtain hstatus | ⟨hawaits, -⟩ := hstatus
    · rwa [hstatus]
    · have hlive := EgoBrowserBindingStatus.live_of_awaitsBridge hawaits
      rw [EgoBrowserBindingStatus.terminal_eq_false_of_live hlive] at hterminal
      cases hterminal
  | leave hold hsame hgen _ hstatus _ =>
    refine of_replace hn hold hsame.id (by omega) ?_ (bindings_supersede _ _ _)
    intro hterminal
    obtain hnew | hlive := hstatus
    · exact hnew
    · rw [EgoBrowserBindingStatus.terminal_eq_false_of_live hlive] at hterminal
      cases hterminal
  | accept _ _ _ _ _ _ _ _ hadd =>
    apply of_subset
    rw [(mem_addLedger hadd).2.1]
    exact fun b hb => hb
  | answer _ _ _ _ _ _ hadd =>
    apply of_subset
    rw [(mem_addLedger hadd).2.1]
    exact fun b hb => hb
  | settle | ask | deliver => exact of_subset fun b hb => hb

lemma of_moves (h : Fenced db events) (hm : Moves service now mayMark db es db') : Progress db db' := by
  induction hm with
  | refl => exact of_subset fun b hb => hb
  | tail hms hm ih => exact ih.trans (of_move (h.moves hms).ids hm)

end Progress

/-! ### Runs -/

lemma Fenced.empty : Fenced {} [] where
  ids := List.nodup_nil
  complete _ := rfl
  live b hb := by cases hb
  delivered e he := by cases he

/-- How many outbox rows a generation of a binding has. -/
lemma Fenced.count_outbox (h : Fenced db events) (hb : b ∈ db.bindings) (g : ℕ) :
    (db.outbox.countP fun e => e.bindingId = b.id ∧ e.generation = g) =
      if 1 ≤ g ∧ g < b.generation then 1 else 0 := by
  have hcurrent : db.fences.current b.id = some b.generation := by
    simp only [fences]
    rw [getBinding_of_mem h.ids hb]
    rfl
  rw [← h.complete.count hcurrent g]
  simp only [fences, Multiset.coe_count, List.count, List.countP_map, List.countP_filter]
  apply List.countP_congr
  intro e _
  simp [and_comm]

section

variable [Sha256]

/-- An action on fenced tables is a sequence of moves; any lease may be marked. -/
lemma Fenced.perform_moves (h : Fenced db events) (action : Instant × EgoBrowserAction) :
    Moves service action.1 (fun _ => True) db (service.perform db action.1 action.2).2
      (service.perform db action.1 action.2).1 :=
  AgentRemote.perform_moves h.ids action.2 fun _ _ _ _ _ _ _ => trivial

lemma Fenced.step {s : EgoBrowserRun} (h : Fenced s.db s.events)
    (action : Instant × EgoBrowserAction) :
    Fenced (service.step s action).db (service.step s action).events :=
  h.moves (h.perform_moves action)

/-- A run from a fenced state stays fenced and makes progress. -/
lemma Fenced.foldl {s : EgoBrowserRun} (h : Fenced s.db s.events)
    (actions : List (Instant × EgoBrowserAction)) :
    Fenced (actions.foldl service.step s).db (actions.foldl service.step s).events ∧
      Progress s.db (actions.foldl service.step s).db := by
  induction actions generalizing s with
  | nil => exact ⟨h, .of_subset fun b hb => hb⟩
  | cons action actions ih =>
    obtain ⟨hfenced, hprogress⟩ := ih (h.step action)
    have hstep : Progress s.db (service.step s action).db :=
      .of_moves h (h.perform_moves action)
    exact ⟨hfenced, hstep.trans hprogress⟩

lemma Fenced.run (actions : List (Instant × EgoBrowserAction)) :
    Fenced (service.run actions).db (service.run actions).events :=
  (Fenced.foldl Fenced.empty actions).1

/-- In every state of every run, a binding of generation `n` has one outbox row for each
generation before `n` and none for another; generations never decrease and a terminal binding
stays terminal, over any continuation of the run; no two live bindings compete for a device or
a tool session; and a delivered row was published. -/
theorem outbox_complete (actions more : List (Instant × EgoBrowserAction)) :
    (∀ b ∈ (service.run actions).db.bindings, ∀ g,
      ((service.run actions).db.outbox.countP fun e => e.bindingId = b.id ∧ e.generation = g) =
        if 1 ≤ g ∧ g < b.generation then 1 else 0) ∧
    (∀ b ∈ (service.run actions).db.bindings, ∃ b' ∈ (service.run (actions ++ more)).db.bindings,
      b'.id = b.id ∧ b.generation ≤ b'.generation ∧
        (b.status.terminal = true → b'.status.terminal = true)) ∧
    (∀ b ∈ (service.run actions).db.bindings, ∀ c ∈ (service.run actions).db.bindings,
      b.status.live = true → c.status.live = true → Competes b c → b = c) ∧
    ∀ e ∈ (service.run actions).db.outbox, e.deliveredAt ≠ none →
      .published e.bindingId e.generation ∈ (service.run actions).events := by
  have hfenced : Fenced (service.run actions).db (service.run actions).events := .run actions
  refine ⟨fun b hb g => hfenced.count_outbox hb g, ?_, hfenced.live, hfenced.delivered⟩
  have hrun : service.run (actions ++ more) = more.foldl service.step (service.run actions) :=
    List.foldl_append
  rw [hrun]
  exact (hfenced.foldl more).2

end

end AgentRemote
