import AgentRemote.EgoBrowser.Revocation

/-!
# Safety of the request ledger

The ledger rows of one generation record which requests were accepted and which results were
forwarded. The events of a run are the rows in their order, so what the unique indexes and the
sequence test say about rows holds of the frames the relay saw.
-/

namespace AgentRemote
open Library EgoBrowserTables

variable {db db' : EgoBrowserTables} {events es : List EgoBrowserEvent}
  {b old new : EgoBrowserBinding} {reason : String} {r row request : EgoBrowserRequestLedger}
  {service : EgoBrowserService} {now : Instant} {mayMark : EgoBrowserBinding → Prop}

def EgoBrowserEvent.acceptedKey : EgoBrowserEvent → Option FrameKey
  | .accepted k => some k
  | _ => none

def EgoBrowserEvent.answeredKey : EgoBrowserEvent → Option FrameKey
  | .answered k => some k
  | _ => none

/-- The keys of the rows of one direction, in the order they were written. -/
def EgoBrowserTables.ledgerKeys (db : EgoBrowserTables) (direction : LedgerDirection) :
    List FrameKey :=
  (db.ledger.filter fun r => r.direction = direction).map EgoBrowserRequestLedger.key

/-- A later frame of one generation has a larger sequence and another request id. -/
def FrameKey.Precedes (k l : FrameKey) : Prop :=
  k.bindingId = l.bindingId → k.generation = l.generation →
    k.sequence < l.sequence ∧ k.requestId ≠ l.requestId

/-- An unfinished row belongs to the current generation of an active binding. -/
def CurrentRow (bindings : List EgoBrowserBinding) (r : EgoBrowserRequestLedger) : Prop :=
  ∃ b ∈ bindings, b.id = r.bindingId ∧ b.generation = r.generation ∧ b.status = .active

/-- The invariant of the ledger. -/
structure Ledgered (db : EgoBrowserTables) (events : List EgoBrowserEvent) : Prop where
  ids : (db.ledger.map EgoBrowserRequestLedger.id).Nodup
  accepted : events.filterMap EgoBrowserEvent.acceptedKey = db.ledgerKeys .request
  answered : events.filterMap EgoBrowserEvent.answeredKey = db.ledgerKeys .response
  ordered : (db.ledgerKeys .request).Pairwise FrameKey.Precedes
  distinct : (db.ledgerKeys .response).Nodup
  preceded : ∀ xs ys k, events = xs ++ .answered k :: ys → .accepted k ∈ xs
  executes : ∀ r ∈ db.ledger, r.direction = .request → r.messageType = .execute
  current : ∀ r ∈ db.ledger, r.direction = .request → r.status.unfinished = true →
    CurrentRow db.bindings r

/-! ### Rows that only change their status -/

/-- What a change of statuses keeps of a row. -/
structure SameRow (q r : EgoBrowserRequestLedger) : Prop where
  id : r.id = q.id
  key : r.key = q.key
  direction : r.direction = q.direction
  messageType : r.messageType = q.messageType

lemma SameRow.bindingId (h : SameRow r row) : row.bindingId = r.bindingId :=
  congrArg FrameKey.bindingId h.key

lemma SameRow.generation (h : SameRow r row) : row.generation = r.generation :=
  congrArg FrameKey.generation h.key

lemma ledgerKeys_map {f : EgoBrowserRequestLedger → EgoBrowserRequestLedger}
    (hf : ∀ r ∈ db.ledger, SameRow r (f r)) (hdb : db'.ledger = db.ledger.map f)
    (direction : LedgerDirection) : db'.ledgerKeys direction = db.ledgerKeys direction := by
  unfold ledgerKeys
  rw [hdb, List.filter_map, List.map_map]
  have hfilter : db.ledger.filter ((fun r => decide (r.direction = direction)) ∘ f) =
      db.ledger.filter fun r => decide (r.direction = direction) := by
    apply List.filter_congr
    intro r hr
    simp only [Function.comp_apply, (hf r hr).direction]
  rw [hfilter]
  apply List.map_congr_left
  intro r hr
  exact (hf r (List.mem_filter.mp hr).1).key

lemma Ledgered.map (h : Ledgered db events)
    {f : EgoBrowserRequestLedger → EgoBrowserRequestLedger}
    (hf : ∀ r ∈ db.ledger, SameRow r (f r)) (hdb : db'.ledger = db.ledger.map f)
    (hcurrent : ∀ r ∈ db.ledger, r.direction = .request → (f r).status.unfinished = true →
      CurrentRow db'.bindings r) : Ledgered db' events where
  ids := by
    have hmap : db'.ledger.map EgoBrowserRequestLedger.id =
        db.ledger.map EgoBrowserRequestLedger.id := by
      rw [hdb, List.map_map]
      exact List.map_congr_left fun r hr => (hf r hr).id
    rw [hmap]
    exact h.ids
  accepted := by
    rw [ledgerKeys_map hf hdb]
    exact h.accepted
  answered := by
    rw [ledgerKeys_map hf hdb]
    exact h.answered
  ordered := by
    rw [ledgerKeys_map hf hdb]
    exact h.ordered
  distinct := by
    rw [ledgerKeys_map hf hdb]
    exact h.distinct
  preceded := h.preceded
  executes := by
    intro r hr hdir
    rw [hdb] at hr
    obtain ⟨q, hq, rfl⟩ := List.mem_map.mp hr
    rw [(hf q hq).messageType]
    exact h.executes q hq ((hf q hq).direction ▸ hdir)
  current := by
    intro r hr hdir hunfinished
    rw [hdb] at hr
    obtain ⟨q, hq, rfl⟩ := List.mem_map.mp hr
    obtain ⟨b, hb, hid, hgen, hactive⟩ :=
      hcurrent q hq ((hf q hq).direction ▸ hdir) hunfinished
    exact ⟨b, hb, by rw [hid, (hf q hq).bindingId], by rw [hgen, (hf q hq).generation], hactive⟩

lemma Ledgered.congr (h : Ledgered db events) (hledger : db'.ledger = db.ledger)
    (hcurrent : ∀ r ∈ db.ledger, CurrentRow db.bindings r → CurrentRow db'.bindings r) :
    Ledgered db' events := by
  refine h.map (f := fun r => r) (fun r _ => ⟨rfl, rfl, rfl, rfl⟩) (by simpa using hledger) ?_
  intro r hr hdir hunfinished
  exact hcurrent r hr (h.current r hr hdir hunfinished)

/-- A row is rewritten with a status that is no more unfinished than it may be. -/
lemma Ledgered.setStatus (h : Ledgered db events) {status : EgoBrowserRequestStatus}
    (hr : request ∈ db.ledger) (hdir : request.direction = .request)
    (hcurrent : status.unfinished = true → CurrentRow db.bindings request) :
    Ledgered (db.setLedger { request with status }) events := by
  refine h.map (f := fun r => if r.id = request.id then { request with status } else r) ?_ rfl ?_
  · intro r hmem
    split_ifs with hid
    · obtain rfl := eq_of_key_eq h.ids hmem hr hid
      exact ⟨rfl, rfl, rfl, rfl⟩
    · exact ⟨rfl, rfl, rfl, rfl⟩
  · intro r hmem hrdir hunfinished
    split_ifs at hunfinished with hid
    · obtain rfl := eq_of_key_eq h.ids hmem hr hid
      exact hcurrent hunfinished
    · exact h.current r hmem hrdir hunfinished

/-! ### The moves -/

lemma CurrentRow.touch (hn : (db.bindings.map EgoBrowserBinding.id).Nodup)
    (hold : old ∈ db.bindings) (hsame : SameBinding old new)
    (hgen : new.generation = old.generation)
    (hstatus : new.status = old.status ∨
      (old.status.awaitsBridge = true ∧ new.status = .active))
    (h : CurrentRow db.bindings r) : CurrentRow (db.setBinding new).bindings r := by
  obtain ⟨b, hb, hid, hbgen, hactive⟩ := h
  by_cases hne : b.id = new.id
  · obtain rfl : b = old := eq_of_key_eq hn hb hold (hne.trans hsame.id)
    refine ⟨new, mem_replace.mpr (.inr ⟨rfl, b, hb, hne⟩), hsame.id.trans hid,
      hgen.trans hbgen, ?_⟩
    obtain hstatus | ⟨-, hstatus⟩ := hstatus
    · exact hstatus.trans hactive
    · exact hstatus
  · exact ⟨b, mem_replace_of_ne hb hne, hid, hbgen, hactive⟩

@[simp] lemma ledger_supersede :
    (db.supersede old new reason).ledger =
      (db.cancelGenerationRequests old.id old.generation).ledger := by
  simp [supersede, setBinding]

/-- Leaving a generation cancels its unfinished requests. -/
lemma Ledgered.leave (h : Ledgered db events)
    (hn : (db.bindings.map EgoBrowserBinding.id).Nodup) (hold : old ∈ db.bindings)
    (hid : new.id = old.id) : Ledgered (db.supersede old new reason) events := by
  refine h.map (f := fun r =>
    if r.bindingId = old.id ∧ r.generation = old.generation ∧ r.direction = .request ∧
      r.messageType = .execute ∧ r.status.unfinished
    then { r with status := .cancelled } else r) ?_ (by rw [ledger_supersede]; rfl) ?_
  · intro r _
    split_ifs with hcancel
    · exact ⟨rfl, rfl, rfl, rfl⟩
    · exact ⟨rfl, rfl, rfl, rfl⟩
  · intro r hmem hdir hunfinished
    split_ifs at hunfinished with hcancel
    · cases hunfinished
    obtain ⟨b, hb, hbid, hbgen, hactive⟩ := h.current r hmem hdir hunfinished
    have hne : b.id ≠ new.id := by
      intro heq
      obtain rfl : b = old := eq_of_key_eq hn hb hold (heq.trans hid)
      exact hcancel ⟨hbid.symm, hbgen.symm, hdir, h.executes r hmem hdir, hunfinished⟩
    rw [bindings_supersede]
    exact ⟨b, mem_replace_of_ne hb hne, hbid, hbgen, hactive⟩

lemma ledgerKeys_append (hdb : db'.ledger = db.ledger ++ [row]) (direction : LedgerDirection) :
    db'.ledgerKeys direction = db.ledgerKeys direction ++
      if row.direction = direction then [row.key] else [] := by
  unfold ledgerKeys
  rw [hdb, List.filter_append, List.map_append]
  by_cases h : row.direction = direction
  · simp [h]
  · simp [h]

/-- What the unique indexes checked of an added row. -/
lemma addLedger_fresh (h : db.addLedger row = .ok db') :
    ∀ q ∈ db.ledger, q.id ≠ row.id ∧ (q.bindingId = row.bindingId →
      q.generation = row.generation → q.direction = row.direction →
        q.requestId ≠ row.requestId ∧ q.sequence ≠ row.sequence) := by
  unfold addLedger at h
  simp only [reject_bind_eq_ok] at h
  obtain ⟨-, hfresh, -⟩ := h
  intro q hq
  refine ⟨fun hid => hfresh ⟨q, hq, .inl hid⟩, fun hbinding hgen hdir => ⟨fun hrequest => ?_, fun hseq => ?_⟩⟩
  · exact hfresh ⟨q, hq, .inr ⟨hbinding, hgen, hdir, .inl hrequest⟩⟩
  · exact hfresh ⟨q, hq, .inr ⟨hbinding, hgen, hdir, .inr hseq⟩⟩

lemma nodup_addLedger (hn : (db.ledger.map EgoBrowserRequestLedger.id).Nodup)
    (h : db.addLedger row = .ok db') :
    (db'.ledger.map EgoBrowserRequestLedger.id).Nodup := by
  rw [(mem_addLedger h).1, List.map_append, List.nodup_append]
  refine ⟨hn, List.nodup_singleton _, ?_⟩
  intro i hi j hj
  obtain ⟨q, hq, rfl⟩ := List.mem_map.mp hi
  rw [List.map_singleton, List.mem_singleton] at hj
  rw [hj]
  exact (addLedger_fresh h q hq).1

/-- An event that is no result leaves the results preceded by their requests. -/
lemma preceded_append {e : EgoBrowserEvent}
    (h : ∀ xs ys k, events = xs ++ .answered k :: ys → .accepted k ∈ xs)
    (he : ∀ k, e = .answered k → .accepted k ∈ events) :
    ∀ xs ys k, events ++ [e] = xs ++ .answered k :: ys → .accepted k ∈ xs := by
  intro xs ys k heq
  cases ys using List.reverseRecOn with
  | nil =>
    obtain ⟨rfl, hlast⟩ := List.append_inj' heq rfl
    exact he k (List.singleton_inj.mp hlast)
  | append_singleton ys y =>
    rw [show xs ++ .answered k :: (ys ++ [y]) = (xs ++ .answered k :: ys) ++ [y] by simp] at heq
    obtain ⟨hevents, -⟩ := List.append_inj' heq rfl
    exact h xs ys k hevents

lemma Ledgered.accept (h : Ledgered db events) (hb : b ∈ db.bindings)
    (hactive : b.status = .active) (hid : row.bindingId = b.id)
    (hgen : row.generation = b.generation) (hdir : row.direction = .request)
    (htype : row.messageType = .execute)
    (hseq : ∀ s ∈ db.sequences b.id b.generation .request, s < row.sequence)
    (hadd : db.addLedger row = .ok db') : Ledgered db' (events ++ [.accepted row.key]) where
  ids := nodup_addLedger h.ids hadd
  accepted := by
    rw [ledgerKeys_append (mem_addLedger hadd).1, if_pos hdir, List.filterMap_append, h.accepted]
    rfl
  answered := by
    have hne : ¬row.direction = .response := by simp [hdir]
    rw [ledgerKeys_append (mem_addLedger hadd).1, if_neg hne, List.filterMap_append, h.answered]
    rfl
  ordered := by
    rw [ledgerKeys_append (mem_addLedger hadd).1, if_pos hdir, List.pairwise_append]
    refine ⟨h.ordered, List.pairwise_singleton _ _, ?_⟩
    intro k hk l hl hbinding hgeneration
    rw [List.mem_singleton] at hl
    subst hl
    obtain ⟨q, hq, rfl⟩ := List.mem_map.mp hk
    obtain ⟨hq, hqdir⟩ := List.mem_filter.mp hq
    have hqdir : q.direction = .request := by simpa using hqdir
    have hfresh := (addLedger_fresh hadd q hq).2 hbinding hgeneration (hqdir.trans hdir.symm)
    refine ⟨hseq q.sequence ?_, hfresh.1⟩
    have hqid : q.bindingId = b.id := Eq.trans hbinding hid
    have hqgen : q.generation = b.generation := Eq.trans hgeneration hgen
    refine List.mem_map.mpr ⟨q, List.mem_filter.mpr ⟨hq, ?_⟩, rfl⟩
    simp [hqid, hqgen, hqdir]
  distinct := by
    have hne : ¬row.direction = .response := by simp [hdir]
    rw [ledgerKeys_append (mem_addLedger hadd).1, if_neg hne, List.append_nil]
    exact h.distinct
  preceded := preceded_append h.preceded fun k hk => by cases hk
  executes := by
    rw [(mem_addLedger hadd).1]
    intro r hr hrdir
    rw [List.mem_append, List.mem_singleton] at hr
    obtain hr | rfl := hr
    · exact h.executes r hr hrdir
    · exact htype
  current := by
    obtain ⟨hledger, hbindings, -⟩ := mem_addLedger hadd
    rw [hledger, hbindings]
    intro r hr hrdir hunfinished
    rw [List.mem_append, List.mem_singleton] at hr
    obtain hr | rfl := hr
    · exact h.current r hr hrdir hunfinished
    · exact ⟨b, hb, hid.symm, hgen.symm, hactive⟩

lemma Ledgered.answer (h : Ledgered db events) (hrequest : request ∈ db.ledger)
    (hreqdir : request.direction = .request) (hkey : row.key = request.key)
    (hdir : row.direction = .response) (hadd : db.addLedger row = .ok db') :
    Ledgered db' (events ++ [.answered row.key]) where
  ids := nodup_addLedger h.ids hadd
  accepted := by
    have hne : ¬row.direction = .request := by simp [hdir]
    rw [ledgerKeys_append (mem_addLedger hadd).1, if_neg hne, List.filterMap_append, h.accepted]
    rfl
  answered := by
    rw [ledgerKeys_append (mem_addLedger hadd).1, if_pos hdir, List.filterMap_append, h.answered]
    rfl
  ordered := by
    have hne : ¬row.direction = .request := by simp [hdir]
    rw [ledgerKeys_append (mem_addLedger hadd).1, if_neg hne, List.append_nil]
    exact h.ordered
  distinct := by
    rw [ledgerKeys_append (mem_addLedger hadd).1, if_pos hdir, List.nodup_append]
    refine ⟨h.distinct, List.nodup_singleton _, ?_⟩
    intro k hk l hl heq
    rw [List.mem_singleton] at hl
    subst hl
    obtain ⟨q, hq, hqkey⟩ := List.mem_map.mp hk
    obtain ⟨hq, hqdir⟩ := List.mem_filter.mp hq
    have hqdir : q.direction = .response := by simpa using hqdir
    have hsame : q.key = row.key := hqkey.trans heq
    have hfresh := (addLedger_fresh hadd q hq).2 (congrArg FrameKey.bindingId hsame)
      (congrArg FrameKey.generation hsame) (hqdir.trans hdir.symm)
    exact hfresh.1 (congrArg FrameKey.requestId hsame)
  preceded := by
    apply preceded_append h.preceded
    intro k hk
    obtain rfl := EgoBrowserEvent.answered.inj hk
    have hmem : row.key ∈ events.filterMap EgoBrowserEvent.acceptedKey := by
      rw [h.accepted, hkey]
      exact List.mem_map_of_mem (List.mem_filter.mpr ⟨hrequest, by simp [hreqdir]⟩)
    obtain ⟨e, he, hek⟩ := List.mem_filterMap.mp hmem
    cases e with
    | accepted l =>
      obtain rfl := Option.some.inj hek
      exact he
    | answered l => cases hek
    | published i n => cases hek
  executes := by
    rw [(mem_addLedger hadd).1]
    intro r hr hrdir
    rw [List.mem_append, List.mem_singleton] at hr
    obtain hr | rfl := hr
    · exact h.executes r hr hrdir
    · rw [hdir] at hrdir
      cases hrdir
  current := by
    obtain ⟨hledger, hbindings, -⟩ := mem_addLedger hadd
    rw [hledger, hbindings]
    intro r hr hrdir hunfinished
    rw [List.mem_append, List.mem_singleton] at hr
    obtain hr | rfl := hr
    · exact h.current r hr hrdir hunfinished
    · rw [hdir] at hrdir
      cases hrdir

lemma Ledgered.published (h : Ledgered db events) (id : Uuid) (n : ℕ) :
    Ledgered db (events ++ [.published id n]) where
  ids := h.ids
  accepted := by
    rw [List.filterMap_append, h.accepted]
    exact List.append_nil _
  answered := by
    rw [List.filterMap_append, h.answered]
    exact List.append_nil _
  ordered := h.ordered
  distinct := h.distinct
  preceded := preceded_append h.preceded fun k hk => by cases hk
  executes := h.executes
  current := h.current

lemma Ledgered.silent (h : Ledgered db events) :
    Ledgered db (events ++ (none : Option EgoBrowserEvent).toList) := by
  simpa using h

/-- No move breaks the ledger, when the ids of the bindings are distinct. -/
lemma Ledgered.move (h : Ledgered db events) (hn : (db.bindings.map EgoBrowserBinding.id).Nodup)
    {e : Option EgoBrowserEvent} (hm : Move service now mayMark db e db') : Ledgered db' (events ++ e.toList) := by
  cases hm with
  | other hbindings hledger =>
    refine (h.congr hledger ?_).silent
    rw [hbindings]
    exact fun r _ hr => hr
  | claim =>
    refine Ledgered.silent (h.congr ?_ ?_)
    · rfl
    · rintro r _ ⟨b, hb, hr⟩
      exact ⟨b, List.mem_append_left _ hb, hr⟩
  | touch hold hsame hgen hstatus _ =>
    refine Ledgered.silent (h.congr ?_ ?_)
    · rfl
    · exact fun r _ hr => hr.touch hn hold hsame hgen hstatus
  | leave hold hsame => exact (h.leave hn hold hsame.id).silent
  | accept hb hactive hid hgen hdir htype _ hseq hadd =>
    exact h.accept hb hactive hid hgen hdir htype hseq hadd
  | answer hrequest hreqdir hkey hdir _ _ hadd => exact h.answer hrequest hreqdir hkey hdir hadd
  | settle hrequest hdir hsettles =>
    refine (h.setStatus hrequest hdir fun hunfinished => ?_).silent
    cases hsettles with
    | completed => cases hunfinished
    | cancelled => cases hunfinished
  | ask hb hactive hrequest hdir hid hgen =>
    refine (h.setStatus hrequest hdir fun _ => ?_).silent
    exact ⟨_, hb, hid.symm, hgen.symm, hactive⟩
  | deliver =>
    refine Ledgered.published (h.congr ?_ ?_) _ _
    · rfl
    · exact fun r _ hr => hr

lemma Ledgered.moves (h : Ledgered db events) (hf : Fenced db events) (hm : Moves service now mayMark db es db') :
    Ledgered db' (events ++ es) := by
  induction hm with
  | refl => simpa using h
  | tail hms hm ih =>
    rw [← List.append_assoc]
    exact ih.move (hf.moves hms).ids hm

/-! ### Finished requests -/

/-- Rows stay, and a completed or cancelled row keeps its status. -/
def Absorbs (db db' : EgoBrowserTables) : Prop :=
  ∀ r ∈ db.ledger, ∃ r' ∈ db'.ledger, SameRow r r' ∧
    (r.status = .completed → r'.status = .completed) ∧
    (r.status = .cancelled → r'.status = .cancelled)

namespace Absorbs

lemma of_subset (h : ∀ r ∈ db.ledger, r ∈ db'.ledger) : Absorbs db db' :=
  fun r hr => ⟨r, h r hr, ⟨rfl, rfl, rfl, rfl⟩, id, id⟩

lemma trans {db'' : EgoBrowserTables} (h : Absorbs db db') (h' : Absorbs db' db'') :
    Absorbs db db'' := by
  intro r hr
  obtain ⟨q, hq, hsame, hcompleted, hcancelled⟩ := h r hr
  obtain ⟨p, hp, hsame', hcompleted', hcancelled'⟩ := h' q hq
  exact ⟨p, hp, ⟨hsame'.id.trans hsame.id, hsame'.key.trans hsame.key,
    hsame'.direction.trans hsame.direction, hsame'.messageType.trans hsame.messageType⟩,
    fun hr => hcompleted' (hcompleted hr), fun hr => hcancelled' (hcancelled hr)⟩

lemma of_setStatus (hn : (db.ledger.map EgoBrowserRequestLedger.id).Nodup)
    {status : EgoBrowserRequestStatus} (hr : request ∈ db.ledger)
    (hcompleted : request.status = .completed → status = .completed)
    (hcancelled : request.status = .cancelled → status = .cancelled) :
    Absorbs db (db.setLedger { request with status }) := by
  intro r hmem
  by_cases hid : r.id = request.id
  · obtain rfl := eq_of_key_eq hn hmem hr hid
    exact ⟨{ r with status }, mem_replace.mpr (.inr ⟨rfl, r, hmem, rfl⟩), ⟨rfl, rfl, rfl, rfl⟩,
      hcompleted, hcancelled⟩
  · exact ⟨r, mem_replace.mpr (.inl ⟨hmem, hid⟩), ⟨rfl, rfl, rfl, rfl⟩, id, id⟩

lemma of_leave : Absorbs db (db.supersede old new reason) := by
  intro r hr
  refine ⟨_, by rw [ledger_supersede]; exact List.mem_map_of_mem hr, ?_⟩
  split_ifs with hcancel
  · obtain ⟨-, -, -, -, hunfinished⟩ := hcancel
    refine ⟨⟨rfl, rfl, rfl, rfl⟩, fun hstatus => ?_, fun _ => rfl⟩
    rw [hstatus] at hunfinished
    cases hunfinished
  · exact ⟨⟨rfl, rfl, rfl, rfl⟩, id, id⟩

lemma of_move (hn : (db.ledger.map EgoBrowserRequestLedger.id).Nodup)
    {e : Option EgoBrowserEvent} (hm : Move service now mayMark db e db') : Absorbs db db' := by
  cases hm with
  | other _ hledger =>
    apply of_subset
    rw [hledger]
    exact fun r hr => hr
  | claim | touch | deliver => exact of_subset fun r hr => hr
  | leave => exact of_leave
  | accept _ _ _ _ _ _ _ _ hadd =>
    apply of_subset
    rw [(mem_addLedger hadd).1]
    exact fun r hr => List.mem_append_left _ hr
  | answer _ _ _ _ _ _ hadd =>
    apply of_subset
    rw [(mem_addLedger hadd).1]
    exact fun r hr => List.mem_append_left _ hr
  | settle hrequest _ hsettles =>
    apply of_setStatus hn hrequest
    · intro hstatus
      cases hsettles with
      | completed => rfl
      | cancelled hunfinished =>
        rw [hstatus] at hunfinished
        cases hunfinished
    · intro hstatus
      cases hsettles with
      | completed hne => exact absurd hstatus hne
      | cancelled => rfl
  | ask _ _ hrequest _ _ _ haccepted =>
    apply of_setStatus hn hrequest
    · intro hstatus
      rw [haccepted] at hstatus
      cases hstatus
    · intro hstatus
      rw [haccepted] at hstatus
      cases hstatus

lemma of_moves (h : Ledgered db events) (hf : Fenced db events) (hm : Moves service now mayMark db es db') :
    Absorbs db db' := by
  induction hm with
  | refl => exact of_subset fun r hr => hr
  | tail hms hm ih => exact ih.trans (of_move (h.moves hf hms).ids hm)

end Absorbs

/-! ### Runs -/

lemma Ledgered.empty : Ledgered {} [] where
  ids := List.nodup_nil
  accepted := rfl
  answered := rfl
  ordered := List.Pairwise.nil
  distinct := List.nodup_nil
  preceded xs ys k h := by simp at h
  executes r hr := by cases hr
  current r hr := by cases hr

section

variable [Sha256]

/-- A run from a sound state keeps the ledger and its finished rows. -/
lemma Ledgered.foldl {s : EgoBrowserRun} (h : Ledgered s.db s.events)
    (hf : Fenced s.db s.events) (actions : List (Instant × EgoBrowserAction)) :
    Ledgered (actions.foldl service.step s).db (actions.foldl service.step s).events ∧
      Absorbs s.db (actions.foldl service.step s).db := by
  induction actions generalizing s with
  | nil => exact ⟨h, .of_subset fun r hr => hr⟩
  | cons action actions ih =>
    have hmoves : Moves service action.1 (fun _ => True) s.db
        (service.perform s.db action.1 action.2).2 (service.perform s.db action.1 action.2).1 :=
      hf.perform_moves action
    have hledgered' : Ledgered (service.step s action).db (service.step s action).events :=
      h.moves hf hmoves
    obtain ⟨hledgered, habsorbs⟩ := ih hledgered' (hf.step action)
    have hstep : Absorbs s.db (service.step s action).db := .of_moves h hf hmoves
    exact ⟨hledgered, hstep.trans habsorbs⟩

/-- In every state of every run: the accepted requests of one generation have increasing
sequences and distinct request ids; a result is forwarded at most once, and only after its
request was accepted; an accepted or cancel-requested row belongs to the current generation of
an active binding; and no continuation changes a completed or cancelled row. -/
theorem requestLedger_safe (actions more : List (Instant × EgoBrowserAction)) :
    ((service.run actions).events.filterMap EgoBrowserEvent.acceptedKey).Pairwise
      FrameKey.Precedes ∧
    ((service.run actions).events.filterMap EgoBrowserEvent.answeredKey).Nodup ∧
    (∀ xs ys k, (service.run actions).events = xs ++ .answered k :: ys → .accepted k ∈ xs) ∧
    (∀ r ∈ (service.run actions).db.ledger, r.direction = .request →
      r.status = .accepted ∨ r.status = .cancelRequested →
      ∃ b ∈ (service.run actions).db.bindings, b.id = r.bindingId ∧
        b.generation = r.generation ∧ b.status = .active) ∧
    Absorbs (service.run actions).db (service.run (actions ++ more)).db := by
  have hfenced : Fenced (service.run actions).db (service.run actions).events := .run actions
  have hledgered : Ledgered (service.run actions).db (service.run actions).events :=
    (Ledgered.foldl Ledgered.empty Fenced.empty actions).1
  refine ⟨?_, ?_, hledgered.preceded, ?_, ?_⟩
  · rw [hledgered.accepted]
    exact hledgered.ordered
  · rw [hledgered.answered]
    exact hledgered.distinct
  · intro r hr hdir hstatus
    apply hledgered.current r hr hdir
    obtain hstatus | hstatus := hstatus
    · rw [hstatus]
      rfl
    · rw [hstatus]
      rfl
  · have hrun : service.run (actions ++ more) = more.foldl service.step (service.run actions) :=
      List.foldl_append
    rw [hrun]
    exact (hledgered.foldl hfenced more).2

end

end AgentRemote
