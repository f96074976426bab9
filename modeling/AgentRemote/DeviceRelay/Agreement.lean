import AgentRemote.DeviceRelay.Store

/-!
# The two stores agree

Each store simulates the one-time exchange of pins within the lifetime of its entry: the script
chooses the secret with the first material, the record with its first call. The answers of both are
those of the exchange.
-/

namespace AgentRemote.DeviceRelay
open Library Exchange

/-- The result that an answer of the exchange is given as. -/
def resultOf : Reply Text Text → Except ExchangeError ExchangeResult
  | .changed => .error .spkiChanged
  | .waiting => .ok { status := .waiting }
  | .alreadyIssued => .ok { status := .alreadyIssued }
  | .ready pin secret =>
    .ok { status := .ready, peerSpkiSha256 := some pin, exporterContext := some secret }

/-- The answer that a result gives. -/
def replyOf : Except ExchangeError ExchangeResult → Reply Text Text
  | .error _ => .changed
  | .ok ⟨.alreadyIssued, _, _⟩ => .alreadyIssued
  | .ok ⟨.ready, some pin, some secret⟩ => .ready pin secret
  | .ok _ => .waiting

@[simp] lemma replyOf_resultOf (reply : Reply Text Text) : replyOf (resultOf reply) = reply := by
  cases reply <;> rfl

/-- An answered call as an event of the exchange. -/
def eventOf (answered : ExchangeCall × Except ExchangeError ExchangeResult) :
    Event DeviceRelayRole Text Text where
  role := answered.1.role
  pin := answered.1.spkiSha256
  reply := replyOf answered.2

/-- The answered calls of one session and generation. -/
def answersFor (key : Uuid × ℤ)
    (answered : List (ExchangeCall × Except ExchangeError ExchangeResult)) :
    List (ExchangeCall × Except ExchangeError ExchangeResult) :=
  answered.filter fun a => a.1.binding.key = key

abbrev ExchangeEntry := Entry DeviceRelayRole Text Text

/-! ### The script -/

namespace RedisDb

variable {db : RedisDb} {now : Instant} {key : Uuid × ℤ}

/-- A field as it is stored, whether expired or not. -/
def stored (db : RedisDb) (key : Uuid × ℤ) (field : Text) : Option Text :=
  (db key).bind fun hash => hash.fields field

lemma hget_of_live (h : db.live now key = db key) (field : Text) :
    db.hget now key field = db.stored key field := by
  unfold hget stored
  rw [h]

lemma not_expired_of_live {hash : RedisHash} (h : db.live now key = some hash) :
    ¬∃ t ∈ hash.expireAt, t ≤ now := by
  unfold live at h
  split at h
  · split_ifs at h with hexpired
    cases h
    exact hexpired
  · cases h

/-- What is set is alive. -/
lemma live_hset (field value : Text) :
    ∃ hash, (db.hset now key field value).live now key = some hash ∧
      (db.hset now key field value) key = some hash := by
  have hunexpired : ¬∃ t ∈ ((db.live now key).getD
      { fields := fun _ => none, expireAt := none }).expireAt, t ≤ now := by
    cases h : db.live now key with
    | none => simp
    | some hash => exact not_expired_of_live h
  refine ⟨_, ?_, Function.update_self ..⟩
  unfold live hset
  rw [Function.update_self]
  exact if_neg hunexpired

lemma stored_hset (field value other : Text) :
    (db.hset now key field value).stored key other =
      if other = field then some value else db.hget now key other := by
  unfold stored hset
  rw [Function.update_self]
  simp only [Option.bind_some]
  by_cases hother : other = field
  · subst hother
    rw [Function.update_self, if_pos rfl]
  · rw [Function.update_of_ne hother, if_neg hother]
    unfold hget
    cases db.live now key <;> rfl

lemma hset_of_ne {other : Uuid × ℤ} (h : other ≠ key) (field value : Text) :
    (db.hset now key field value) other = db other := Function.update_of_ne h ..

lemma expire_of_live {ttl : ℤ} {hash : RedisHash} (httl : 0 < ttl)
    (h : db.live now key = some hash) :
    db.expire now key ttl =
      Function.update db key (some { hash with expireAt := some (now + 1000000 * ttl) }) := by
  unfold expire
  rw [h]
  exact if_neg (not_le.mpr httl)

lemma live_expire {ttl : ℤ} {hash : RedisHash} (httl : 0 < ttl)
    (h : db.live now key = some hash) :
    (db.expire now key ttl).live now key = (db.expire now key ttl) key := by
  have hlater : ¬∃ t ∈ some (now + 1000000 * ttl), t ≤ now := by
    rintro ⟨t, ht, hle⟩
    cases ht
    linarith
  rw [expire_of_live httl h]
  unfold live
  rw [Function.update_self]
  exact if_neg hlater

lemma stored_expire {ttl : ℤ} {hash : RedisHash} (httl : 0 < ttl)
    (h : db.live now key = some hash) (field : Text) :
    (db.expire now key ttl).stored key field = db.hget now key field := by
  unfold stored hget
  rw [expire_of_live httl h, Function.update_self, h]
  rfl

lemma expire_of_ne {other : Uuid × ℤ} (h : other ≠ key) (ttl : ℤ) :
    (db.expire now key ttl) other = db other := by
  unfold expire
  cases db.live now key with
  | none => rfl
  | some hash =>
    by_cases httl : ttl ≤ 0
    · simp only [if_pos httl]
      exact Function.update_of_ne h ..
    · simp only [if_neg httl]
      exact Function.update_of_ne h ..

end RedisDb

/-- The fields of the hash are those of an entry of the exchange. -/
structure RedisRel (db : RedisDb) (key : Uuid × ℤ) (s : ExchangeEntry) : Prop where
  pins : ∀ role : DeviceRelayRole, db.stored key (spkiField role.text) = s.pins role
  issued : ∀ role : DeviceRelayRole,
    (db.stored key (issuedField role.text)).isSome = s.issued role
  secret : db.stored key secretField = s.secret

/-- The call comes before the hash of its key expires, and its time to live is a time. -/
def RedisAlive (db : RedisDb) (call : ExchangeCall) : Prop :=
  (∀ hash ∈ db call.binding.key, ∀ t ∈ hash.expireAt, call.now < t) ∧ 0 < call.ttl

lemma RedisAlive.live {db : RedisDb} {call : ExchangeCall} (h : RedisAlive db call) :
    db.live call.now call.binding.key = db call.binding.key := by
  unfold RedisDb.live
  split
  · rename_i hash hhash
    have hunexpired : ¬∃ t ∈ hash.expireAt, t ≤ call.now := by
      rintro ⟨t, ht, hle⟩
      exact absurd (h.1 hash hhash t ht) (not_lt.mpr hle)
    rw [if_neg hunexpired, hhash]
  · rename_i hnone
    exact hnone.symm

/-- The five fields have different names. -/
lemma field_names (role other : DeviceRelayRole) :
    (spkiField role.text = spkiField other.text ↔ role = other) ∧
      (issuedField role.text = issuedField other.text ↔ role = other) ∧
      spkiField role.text ≠ issuedField other.text ∧ spkiField role.text ≠ secretField ∧
      issuedField role.text ≠ secretField := by
  cases role <;> cases other <;> decide +kernel

section

variable {db : RedisDb} {call : ExchangeCall} {s : ExchangeEntry}

/-- The database once the script has registered the pin of a call. -/
def registered (db : RedisDb) (call : ExchangeCall) : RedisDb :=
  registerPin db call.now call.binding.key call.role.text call.spkiSha256 call.ttl

lemma registered_live (httl : 0 < call.ttl) :
    (registered db call).live call.now call.binding.key =
      (registered db call) call.binding.key := by
  obtain ⟨hash, hlive, -⟩ := db.live_hset (spkiField call.role.text) call.spkiSha256
  exact RedisDb.live_expire httl hlive

lemma registered_stored (httl : 0 < call.ttl) (field : Text) :
    (registered db call).stored call.binding.key field =
      if field = spkiField call.role.text then some call.spkiSha256
      else db.hget call.now call.binding.key field := by
  obtain ⟨hash, hlive, hkey⟩ := db.live_hset (spkiField call.role.text) call.spkiSha256
  rw [← RedisDb.stored_hset]
  exact (RedisDb.stored_expire httl hlive field).trans
    (RedisDb.hget_of_live (hlive.trans hkey.symm) field)

/-- The registration as the exchange has it. -/
lemma registered_rel (h : RedisRel db call.binding.key s) (halive : RedisAlive db call)
    (hsame : ∀ p, s.pins call.role = some p → p = call.spkiSha256) :
    ∃ s', RedisRel (registered db call) call.binding.key s' ∧
      Registers s s' call.role call.spkiSha256 ∧ s'.issued = s.issued ∧ s'.secret = s.secret := by
  have hstored : ∀ field, (registered db call).stored call.binding.key field =
      if field = spkiField call.role.text then some call.spkiSha256
      else db.stored call.binding.key field := by
    intro field
    rw [registered_stored halive.2, RedisDb.hget_of_live halive.live]
  refine ⟨{ s with pins := Function.update s.pins call.role (some call.spkiSha256) }, ?_,
    ⟨hsame, rfl, fun _ hx => hx⟩, rfl, rfl⟩
  constructor
  · intro role
    rw [hstored]
    by_cases hrole : role = call.role
    · rw [hrole, if_pos rfl]
      simp only [Function.update_self]
    · rw [if_neg (fun h => hrole ((field_names role call.role).1.mp h)), h.pins]
      simp only [Function.update_of_ne hrole]
  · intro role
    rw [hstored, if_neg (Ne.symm (field_names call.role role).2.2.1), h.issued]
  · rw [hstored, if_neg (Ne.symm (field_names call.role call.role).2.2.2.1), h.secret]

/-- The issue of the material as the exchange has it. -/
lemma issueTo_rel {peerPin secret : Text} (h : RedisRel db call.binding.key s)
    (hlive : db.live call.now call.binding.key = db call.binding.key) :
    RedisRel (issueTo db call.now call.binding.key call.role.text peerPin secret).1
      call.binding.key { s with issued := Function.update s.issued call.role true } := by
  have hstored : ∀ field, (issueTo db call.now call.binding.key call.role.text peerPin
      secret).1.stored call.binding.key field = if field = issuedField call.role.text then
        some "1".toList else db.stored call.binding.key field := by
    intro field
    rw [← RedisDb.hget_of_live hlive]
    exact RedisDb.stored_hset ..
  constructor
  · intro role
    rw [hstored, if_neg (field_names role call.role).2.2.1, h.pins]
  · intro role
    rw [hstored]
    by_cases hrole : role = call.role
    · rw [hrole, if_pos rfl]
      simp only [Function.update_self, Option.isSome_some]
    · rw [if_neg (fun h => hrole ((field_names role call.role).2.1.mp h)), h.issued]
      simp only [Function.update_of_ne hrole]
  · rw [hstored, if_neg (Ne.symm (field_names call.role call.role).2.2.2.2), h.secret]

/-- The choice of the secret as the exchange has it. -/
lemma hset_secret_rel {secret : Text} (h : RedisRel db call.binding.key s)
    (hlive : db.live call.now call.binding.key = db call.binding.key) :
    RedisRel (db.hset call.now call.binding.key secretField secret) call.binding.key
      { s with secret := some secret } := by
  have hstored : ∀ field, (db.hset call.now call.binding.key secretField secret).stored
      call.binding.key field = if field = secretField then some secret
        else db.stored call.binding.key field := by
    intro field
    rw [← RedisDb.hget_of_live hlive]
    exact RedisDb.stored_hset ..
  constructor
  · intro role
    rw [hstored, if_neg (field_names role role).2.2.2.1, h.pins]
  · intro role
    rw [hstored, if_neg (field_names role role).2.2.2.2, h.issued]
  · rw [hstored, if_pos rfl]

lemma readValues_waiting : readValues ["waiting".toList] = resultOf .waiting := by
  decide +kernel

lemma readValues_alreadyIssued :
    readValues ["already_issued".toList] = resultOf .alreadyIssued := by
  decide +kernel

lemma readValues_ready (pin secret : Text) :
    readValues ["ready".toList, pin, secret] = resultOf (.ready pin secret) := by
  have hne : "ready".toList ≠ "mismatch".toList := by decide
  simp only [readValues, if_neg hne, if_pos]
  rfl

/-- A call within the lifetime of the hash does what the exchange does. -/
theorem redisExchange_answers (h : RedisRel db call.binding.key s) (halive : RedisAlive db call) :
    ∃ reply s', (redisExchange db call).2 = resultOf reply ∧
      Answers DeviceRelayRole.peer s ⟨call.role, call.spkiSha256, reply⟩ s' ∧
      RedisRel (redisExchange db call).1 call.binding.key s' := by
  have hget : db.hget call.now call.binding.key (spkiField call.role.text) =
      s.pins call.role := by
    rw [RedisDb.hget_of_live halive.live, h.pins]
  unfold redisExchange exchangeScript
  simp only [hget]
  by_cases hchanged : ∃ existing ∈ s.pins call.role, existing ≠ call.spkiSha256
  · rw [if_pos hchanged]
    obtain ⟨p, hp, hne⟩ := hchanged
    exact ⟨.changed, s, rfl, .changed hp hne, h⟩
  rw [if_neg hchanged]
  have hsame : ∀ p, s.pins call.role = some p → p = call.spkiSha256 := by
    intro p hp
    by_contra hne
    exact hchanged ⟨p, hp, hne⟩
  obtain ⟨s₁, hrel, hreg, hissued, hsecret⟩ := registered_rel h halive hsame
  have hlive : (registered db call).live call.now call.binding.key =
      (registered db call) call.binding.key := registered_live halive.2
  have hpeer : (registered db call).hget call.now call.binding.key
      (spkiField call.role.peer.text) = s₁.pins call.role.peer := by
    rw [RedisDb.hget_of_live hlive, hrel.pins]
  have htold : (registered db call).hexists call.now call.binding.key
      (issuedField call.role.text) = s.issued call.role := by
    unfold RedisDb.hexists
    rw [RedisDb.hget_of_live hlive, hrel.issued, hissued]
  have hchosen : (registered db call).hget call.now call.binding.key secretField = s.secret := by
    rw [RedisDb.hget_of_live hlive, hrel.secret, hsecret]
  rw [← registered, hpeer, htold, hchosen]
  cases hp : s₁.pins call.role.peer with
  | none =>
    exact ⟨.waiting, s₁, readValues_waiting, .waiting hreg hp hissued, hrel⟩
  | some peerPin =>
    cases htold' : s.issued call.role with
    | true =>
      exact ⟨.alreadyIssued, s₁, readValues_alreadyIssued,
        .alreadyIssued hreg hp htold' hissued, hrel⟩
    | false =>
      cases hx : s.secret with
      | some secret =>
        refine ⟨.ready peerPin secret, _, readValues_ready .., ?_, issueTo_rel hrel hlive⟩
        refine .ready ⟨hreg.same, hreg.pins, hreg.secret⟩ hp htold' ?_ ?_
        · rw [hissued]
        · exact hsecret.trans hx
      | none =>
        refine ⟨.ready peerPin call.exporterContext, _, readValues_ready .., ?_,
          issueTo_rel (hset_secret_rel hrel hlive) ?_⟩
        · refine .ready ⟨hreg.same, hreg.pins, ?_⟩ hp htold' ?_ rfl
          · intro x hsome
            rw [hx] at hsome
            cases hsome
          · simp only [hissued]
        · obtain ⟨hash, hhash, hkey⟩ := (registered db call).live_hset secretField
            call.exporterContext
          exact hhash.trans hkey.symm

/-- A call changes no other session or generation. -/
lemma redisExchange_of_ne {key : Uuid × ℤ} (h : key ≠ call.binding.key) :
    (redisExchange db call).1 key = db key := by
  have hregistered : (registered db call) key = db key :=
    (RedisDb.expire_of_ne h _).trans (RedisDb.hset_of_ne h _ _)
  unfold redisExchange exchangeScript
  simp only
  rw [← registered]
  by_cases hchanged : ∃ existing ∈ db.hget call.now call.binding.key (spkiField call.role.text),
      existing ≠ call.spkiSha256
  · rw [if_pos hchanged]
  rw [if_neg hchanged]
  split
  · exact hregistered
  · split_ifs
    · exact hregistered
    · split
      · exact (RedisDb.hset_of_ne h _ _).trans hregistered
      · exact ((RedisDb.hset_of_ne h _ _).trans (RedisDb.hset_of_ne h _ _)).trans hregistered

/-- A call that fails changes nothing. -/
lemma redisExchange_error {e : ExchangeError} (h : (redisExchange db call).2 = .error e) :
    (redisExchange db call).1 = db := by
  unfold redisExchange exchangeScript at h ⊢
  simp only at h ⊢
  by_cases hchanged : ∃ existing ∈ db.hget call.now call.binding.key (spkiField call.role.text),
      existing ≠ call.spkiSha256
  · rw [if_pos hchanged]
  exfalso
  rw [if_neg hchanged] at h
  split at h
  · exact absurd (readValues_waiting.symm.trans h) nofun
  · split_ifs at h
    · exact absurd (readValues_alreadyIssued.symm.trans h) nofun
    · split at h
      · exact absurd ((readValues_ready _ _).symm.trans h) nofun
      · exact absurd ((readValues_ready _ _).symm.trans h) nofun

end

/-! ### The record -/

/-- The record is an entry of the exchange, with the secret of its first call. -/
structure MemoryRel (store : MemoryStore) (key : Uuid × ℤ) (s : ExchangeEntry) : Prop where
  none : store key = none → s = .empty
  some : ∀ entry, store key = some entry →
    entry.pins = s.pins ∧ entry.issued = s.issued ∧ s.secret = some entry.secret

/-- The call comes before the record of its key expires. -/
def MemoryAlive (store : MemoryStore) (call : ExchangeCall) : Prop :=
  ∀ entry ∈ store call.binding.key, call.now < entry.expiresAt

section

variable {store : MemoryStore} {call : ExchangeCall} {s : ExchangeEntry}

/-- What a call finds within the lifetime of the record. -/
lemma current_rel (h : MemoryRel store call.binding.key s) (halive : MemoryAlive store call) :
    (store.current call).pins = s.pins ∧ (store.current call).issued = s.issued ∧
      ∀ x, s.secret = some x → some (store.current call).secret = some x := by
  unfold MemoryStore.current
  cases hstored : store call.binding.key with
  | none =>
    rw [h.none hstored]
    refine ⟨rfl, rfl, ?_⟩
    intro x hx
    cases hx
  | some entry =>
    have hunexpired := not_le.mpr (halive entry hstored)
    obtain ⟨hpins, hissued, hsecret⟩ := h.some entry hstored
    simp only [if_neg hunexpired]
    refine ⟨hpins, hissued, ?_⟩
    intro x hx
    rw [← hx, hsecret]

/-- A call within the lifetime of the record does what the exchange does. -/
theorem memoryExchange_answers (h : MemoryRel store call.binding.key s)
    (halive : MemoryAlive store call) :
    ∃ reply s', (memoryExchange store call).2 = resultOf reply ∧
      Answers DeviceRelayRole.peer s ⟨call.role, call.spkiSha256, reply⟩ s' ∧
      MemoryRel (memoryExchange store call).1 call.binding.key s' := by
  obtain ⟨hpins, hissued, hsecret⟩ := current_rel h halive
  have hstored : ∀ (entry : MemoryEntry) (s' : ExchangeEntry), entry.pins = s'.pins →
      entry.issued = s'.issued → s'.secret = some entry.secret →
      MemoryRel (Function.update store call.binding.key (some entry)) call.binding.key s' := by
    intro entry s' hp hi hx
    constructor
    · intro hnone
      rw [Function.update_self] at hnone
      cases hnone
    · intro entry' hentry
      rw [Function.update_self] at hentry
      cases hentry
      exact ⟨hp, hi, hx⟩
  unfold memoryExchange
  simp only [hpins, hissued]
  by_cases hchanged : ∃ existing ∈ s.pins call.role, existing ≠ call.spkiSha256
  · rw [if_pos hchanged]
    obtain ⟨p, hp, hne⟩ := hchanged
    exact ⟨.changed, s, rfl, .changed hp hne, h⟩
  rw [if_neg hchanged]
  have hsame : ∀ p, s.pins call.role = some p → p = call.spkiSha256 := by
    intro p hp
    by_contra hne
    exact hchanged ⟨p, hp, hne⟩
  let registered : ExchangeEntry :=
    { pins := Function.update s.pins call.role (some call.spkiSha256), issued := s.issued
      secret := some (store.current call).secret }
  have hreg : Registers s registered call.role call.spkiSha256 :=
    ⟨hsame, rfl, hsecret⟩
  cases hp : Function.update s.pins call.role (some call.spkiSha256) call.role.peer with
  | none =>
    exact ⟨.waiting, registered, rfl, .waiting hreg hp rfl, hstored _ _ rfl rfl rfl⟩
  | some peerPin =>
    cases htold : s.issued call.role with
    | true =>
      exact ⟨.alreadyIssued, registered, rfl, .alreadyIssued hreg hp htold rfl,
        hstored _ _ rfl rfl rfl⟩
    | false =>
      exact ⟨.ready peerPin (store.current call).secret,
        { registered with issued := Function.update s.issued call.role true }, rfl,
        .ready ⟨hsame, rfl, hsecret⟩ hp htold rfl rfl, hstored _ _ rfl rfl rfl⟩

/-- A call changes no other session or generation. -/
lemma memoryExchange_of_ne {key : Uuid × ℤ} (h : key ≠ call.binding.key) :
    (memoryExchange store call).1 key = store key := by
  unfold memoryExchange
  simp only
  by_cases hchanged : ∃ existing ∈ (store.current call).pins call.role, existing ≠ call.spkiSha256
  · rw [if_pos hchanged]
  rw [if_neg hchanged]
  split
  · exact Function.update_of_ne h ..
  · split_ifs
    · exact Function.update_of_ne h ..
    · exact Function.update_of_ne h ..

/-- A call that fails changes nothing. -/
lemma memoryExchange_error {e : ExchangeError} (h : (memoryExchange store call).2 = .error e) :
    (memoryExchange store call).1 = store := by
  unfold memoryExchange at h ⊢
  simp only at h ⊢
  by_cases hchanged : ∃ existing ∈ (store.current call).pins call.role, existing ≠ call.spkiSha256
  · rw [if_pos hchanged]
  exfalso
  rw [if_neg hchanged] at h
  split at h
  · cases h
  · split_ifs at h

end

/-! ### Runs of a store -/

/-- Every call of the session and generation meets a store in which its entry is alive. -/
def Within {Store : Type}
    (exchange : Store → ExchangeCall → Store × Except ExchangeError ExchangeResult) (init : Store)
    (Alive : Store → ExchangeCall → Prop) (key : Uuid × ℤ) : List ExchangeCall → Prop
  | [] => True
  | call :: past => Within exchange init Alive key past ∧
    (call.binding.key = key → Alive (answers exchange init past).1 call)

/-- A store that simulates the exchange within the lifetime of its entries. -/
structure Simulates {Store : Type}
    (exchange : Store → ExchangeCall → Store × Except ExchangeError ExchangeResult) (init : Store)
    (Alive : Store → ExchangeCall → Prop) (Rel : Store → Uuid × ℤ → ExchangeEntry → Prop) :
    Prop where
  init : ∀ key, Rel init key .empty
  other : ∀ store key call s, key ≠ call.binding.key → Rel store key s →
    Rel (exchange store call).1 key s
  step : ∀ store call s, Rel store call.binding.key s → Alive store call →
    ∃ reply s', (exchange store call).2 = resultOf reply ∧
      Answers DeviceRelayRole.peer s ⟨call.role, call.spkiSha256, reply⟩ s' ∧
      Rel (exchange store call).1 call.binding.key s'

section

variable {Store : Type}
  {exchange : Store → ExchangeCall → Store × Except ExchangeError ExchangeResult} {init : Store}
  {Alive : Store → ExchangeCall → Prop} {Rel : Store → Uuid × ℤ → ExchangeEntry → Prop}
  {key : Uuid × ℤ} {calls : List ExchangeCall}

/-- The answers of a run are those of a run of the exchange. -/
theorem Simulates.runs (h : Simulates exchange init Alive Rel)
    (hwithin : Within exchange init Alive key calls) :
    ∃ s, Runs DeviceRelayRole.peer ((answersFor key (answers exchange init calls).2).map eventOf) s ∧
      Rel (answers exchange init calls).1 key s ∧
      ∀ a ∈ answersFor key (answers exchange init calls).2, a.2 = resultOf (replyOf a.2) := by
  induction calls with
  | nil => exact ⟨.empty, .nil, h.init key, by simp [answers, answersFor]⟩
  | cons call past ih =>
    obtain ⟨s, hruns, hrel, hall⟩ := ih hwithin.1
    by_cases hkey : call.binding.key = key
    · subst hkey
      obtain ⟨reply, s', hresult, hanswers, hrel'⟩ := h.step _ call s hrel (hwithin.2 rfl)
      have hfor : answersFor call.binding.key (answers exchange init (call :: past)).2 =
          (call, resultOf reply) :: answersFor call.binding.key (answers exchange init past).2 := by
        rw [← hresult]
        exact List.filter_cons_of_pos (decide_eq_true rfl)
      rw [hfor]
      refine ⟨s', ?_, hrel', ?_⟩
      · have hevent : eventOf (call, resultOf reply) = ⟨call.role, call.spkiSha256, reply⟩ := by
          unfold eventOf
          rw [replyOf_resultOf]
        rw [List.map_cons, hevent]
        exact .cons hruns hanswers
      · intro a ha
        rcases List.mem_cons.mp ha with rfl | ha
        · rw [replyOf_resultOf]
        · exact hall a ha
    · have hfor : answersFor key (answers exchange init (call :: past)).2 =
          answersFor key (answers exchange init past).2 :=
        List.filter_cons_of_neg (by simpa using hkey)
      rw [hfor]
      exact ⟨s, hruns, h.other _ _ _ _ (Ne.symm hkey) hrel, hall⟩

end

lemma redis_simulates : Simulates redisExchange (fun _ => none) RedisAlive RedisRel where
  init _ := ⟨fun _ => rfl, fun _ => rfl, rfl⟩
  other db key call s hne h := by
    have hstored : ∀ field, (redisExchange db call).1.stored key field = db.stored key field := by
      intro field
      unfold RedisDb.stored
      rw [redisExchange_of_ne hne]
    constructor
    · exact fun role => (hstored _).trans (h.pins role)
    · intro role
      rw [hstored, h.issued]
    · exact (hstored _).trans h.secret
  step _ _ _ h halive := redisExchange_answers h halive

lemma memory_simulates : Simulates memoryExchange (fun _ => none) MemoryAlive MemoryRel where
  init _ := ⟨fun _ => rfl, nofun⟩
  other store key call s hne h := by
    constructor
    · intro hnone
      rw [memoryExchange_of_ne hne] at hnone
      exact h.none hnone
    · intro entry hentry
      rw [memoryExchange_of_ne hne] at hentry
      exact h.some entry hentry
  step _ _ _ h halive := memoryExchange_answers h halive

/-! ### The claims of the exchange -/

/-- Every answer for the session and generation is one of the exchange, and the answers agree. -/
structure ExchangeAgrees (key : Uuid × ℤ)
    (answered : List (ExchangeCall × Except ExchangeError ExchangeResult)) : Prop where
  complete : ∀ a ∈ answersFor key answered, a.2 = resultOf (replyOf a.2)
  agreed : Agreed DeviceRelayRole.peer ((answersFor key answered).map eventOf)

/-- The statuses and pins of the answers for a session and generation. -/
def shown (key : Uuid × ℤ)
    (answered : List (ExchangeCall × Except ExchangeError ExchangeResult)) :
    List (Except ExchangeError (ExchangeStatus × Option Text)) :=
  (answersFor key answered).map fun a => a.2.map fun r => (r.status, r.peerSpkiSha256)

/-- The status and the pin of an answer do not tell its secret. -/
lemma shown_congr {reply other : Reply Text Text} (h : reply.open? = other.open?) :
    (resultOf reply).map (fun r => (r.status, r.peerSpkiSha256)) =
      (resultOf other).map fun r => (r.status, r.peerSpkiSha256) := by
  cases reply with
  | ready pin secret =>
    cases other with
    | ready pin' secret' =>
      cases h
      rfl
    | _ => cases h
  | _ =>
    cases other with
    | ready pin' secret' => cases h
    | _ => first | rfl | cases h

section

variable {Store : Type}
  {exchange : Store → ExchangeCall → Store × Except ExchangeError ExchangeResult} {init : Store}

/-- A run answers its calls. -/
lemma map_fst_answers
    (exchange : Store → ExchangeCall → Store × Except ExchangeError ExchangeResult) (init : Store)
    (calls : List ExchangeCall) : (answers exchange init calls).2.map Prod.fst = calls := by
  induction calls with
  | nil => rfl
  | cons call past ih => exact congrArg (call :: ·) ih

lemma map_call_answersFor
    (exchange : Store → ExchangeCall → Store × Except ExchangeError ExchangeResult) (init : Store)
    (key : Uuid × ℤ) (calls : List ExchangeCall) :
    ((answersFor key (answers exchange init calls).2).map eventOf).map (fun e => (e.role, e.pin)) =
      (calls.filter fun c => c.binding.key = key).map fun c => (c.role, c.spkiSha256) := by
  conv_rhs => rw [← map_fst_answers exchange init calls]
  unfold answersFor
  rw [List.filter_map, List.map_map, List.map_map]
  rfl

lemma Simulates.agrees {Alive : Store → ExchangeCall → Prop}
    {Rel : Store → Uuid × ℤ → ExchangeEntry → Prop} (h : Simulates exchange init Alive Rel)
    {key : Uuid × ℤ} {calls : List ExchangeCall}
    (hwithin : Within exchange init Alive key calls) :
    ExchangeAgrees key (answers exchange init calls).2 := by
  obtain ⟨s, hruns, -, hcomplete⟩ := h.runs hwithin
  exact ⟨hcomplete, hruns.agreed (by rintro (_ | _) <;> decide)⟩

end

lemma shown_eq {key : Uuid × ℤ}
    {answered other : List (ExchangeCall × Except ExchangeError ExchangeResult)}
    (h : ∀ a ∈ answersFor key answered, a.2 = resultOf (replyOf a.2))
    (h' : ∀ a ∈ answersFor key other, a.2 = resultOf (replyOf a.2))
    (hsame : ((answersFor key answered).map eventOf).map (fun e => e.reply.open?) =
      ((answersFor key other).map eventOf).map fun e => e.reply.open?) :
    shown key answered = shown key other := by
  unfold shown
  generalize answersFor key answered = xs at h hsame ⊢
  generalize answersFor key other = ys at h' hsame ⊢
  induction xs generalizing ys with
  | nil =>
    cases ys with
    | nil => rfl
    | cons y ys => simp at hsame
  | cons x xs ih =>
    cases ys with
    | nil => simp at hsame
    | cons y ys =>
      simp only [List.map_cons, List.cons.injEq] at hsame
      obtain ⟨hhead, htail⟩ := hsame
      have hhead : (replyOf x.2).open? = (replyOf y.2).open? := hhead
      have hx := h x List.mem_cons_self
      have hy := h' y List.mem_cons_self
      rw [List.map_cons, List.map_cons, hx, hy, shown_congr hhead,
        ih (fun a ha => h a (List.mem_cons_of_mem _ ha)) ys
          (fun a ha => h' a (List.mem_cons_of_mem _ ha)) htail]

/-- In every order of calls within the lifetime of the entry each store tells each role once, after
both have registered, the pin that the other registered first, and one secret to both; a changed
pin is refused and changes nothing; and the stores answer with the same statuses and pins. -/
theorem relay_exchange_agrees (key : Uuid × ℤ) (calls : List ExchangeCall) :
    (Within redisExchange (fun _ => none) RedisAlive key calls →
      ExchangeAgrees key (redisRun calls).2) ∧
    (Within memoryExchange (fun _ => none) MemoryAlive key calls →
      ExchangeAgrees key (memoryRun calls).2) ∧
    (∀ db call e, (redisExchange db call).2 = .error e → (redisExchange db call).1 = db) ∧
    (∀ store call e, (memoryExchange store call).2 = .error e →
      (memoryExchange store call).1 = store) ∧
    (Within redisExchange (fun _ => none) RedisAlive key calls →
      Within memoryExchange (fun _ => none) MemoryAlive key calls →
        shown key (redisRun calls).2 = shown key (memoryRun calls).2) := by
  refine ⟨redis_simulates.agrees, memory_simulates.agrees, fun _ _ _ => redisExchange_error,
    fun _ _ _ => memoryExchange_error, ?_⟩
  intro hredis hmemory
  obtain ⟨s, hruns, -, hcomplete⟩ := redis_simulates.runs hredis
  obtain ⟨s', hruns', -, hcomplete'⟩ := memory_simulates.runs hmemory
  have hcalls := (map_call_answersFor redisExchange (fun _ => none) key calls).trans
    (map_call_answersFor memoryExchange (fun _ => none) key calls).symm
  exact shown_eq hcomplete hcomplete' (hruns.same hruns' hcalls).1

/-- The device calls, the proxy calls, and the device calls again for its material. -/
def sampleCalls : List ExchangeCall :=
  let binding : DeviceRelayBinding :=
    { userId := 1, deviceId := 2, toolSessionId := 3, deviceSessionId := 4, nodeId := 5
      generation := 1 }
  [{ binding, role := .device, spkiSha256 := "d".toList, exporterContext := "z".toList, ttl := 60
     now := 2000000 },
    { binding, role := .proxy, spkiSha256 := "p".toList, exporterContext := "y".toList, ttl := 60
      now := 1000000 },
    { binding, role := .device, spkiSha256 := "d".toList, exporterContext := "x".toList, ttl := 60
      now := 0 }]

/-- The sample calls are within the lifetime of both entries. -/
theorem relay_exchange_sample :
    ExchangeAgrees (4, 1) (redisRun sampleCalls).2 ∧
      ExchangeAgrees (4, 1) (memoryRun sampleCalls).2 ∧
      shown (4, 1) (redisRun sampleCalls).2 = shown (4, 1) (memoryRun sampleCalls).2 ∧
      shown (4, 1) (redisRun sampleCalls).2 = [.ok (.ready, some "p".toList),
        .ok (.ready, some "d".toList), .ok (.waiting, none)] := by
  have hredis : Within redisExchange (fun _ => none) RedisAlive (4, 1) sampleCalls := by
    refine ⟨⟨⟨trivial, fun _ => ⟨?_, ?_⟩⟩, fun _ => ⟨?_, ?_⟩⟩, fun _ => ⟨?_, ?_⟩⟩
    all_goals decide +kernel
  have hmemory : Within memoryExchange (fun _ => none) MemoryAlive (4, 1) sampleCalls := by
    refine ⟨⟨⟨trivial, fun _ => ?_⟩, fun _ => ?_⟩, fun _ => ?_⟩
    all_goals
      unfold MemoryAlive
      decide +kernel
  obtain ⟨hleft, hright, -, -, hsame⟩ := relay_exchange_agrees (4, 1) sampleCalls
  exact ⟨hleft hredis, hright hmemory, hsame hredis hmemory, by decide +kernel⟩

end AgentRemote.DeviceRelay
