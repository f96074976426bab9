import AgentRemote.Relay.Distributed

/-!
# Presence and revocation

What the steps do to the presence keys of a generation while its revocation marker exists.
-/

namespace AgentRemote.Relay.Distributed

/-- No presence is registered that was not there. -/
def Redis.RegistersNone (redis redis' : Redis) : Prop :=
  ∀ role id, redis'.presence role = some id → redis.presence role = some id

variable {settings : HubSettings} {w w' : World}

lemma Redis.RegistersNone.refl (redis : Redis) : redis.RegistersNone redis := fun _ _ h => h

lemma Redis.registersNone_of_eq {redis redis' : Redis} (h : redis' = redis) :
    redis.RegistersNone redis' := fun _ _ hp => h ▸ hp

lemma Redis.presence_setPresence (redis : Redis) (role r : EgoBrowserRelayRole) (id : ℕ) :
    (redis.setPresence role id).presence r = if r = role then some id else redis.presence r := by
  have hlive : redis.now < redis.now + presenceTtl := lt_add_of_pos_right _ (by decide +kernel)
  by_cases hr : r = role
  · simp [Redis.presence, Redis.setPresence, hr, hlive]
  · simp [Redis.presence, Redis.setPresence, hr]
    rfl

lemma Redis.registerPresence_none {redis : Redis} (h : redis.revoked = true)
    (role : EgoBrowserRelayRole) (id : ℕ) :
    redis.RegistersNone (redis.registerPresence role id).2 :=
  Redis.registersNone_of_eq (by rw [Redis.registerPresence, if_pos h])

lemma Redis.refreshPresence_none (redis : Redis) (role : EgoBrowserRelayRole) (id : ℕ) :
    redis.RegistersNone (redis.refreshPresence role id).2 := by
  unfold Redis.refreshPresence
  split_ifs with hown
  · intro r i hi
    rw [Redis.presence_setPresence] at hi
    split_ifs at hi with hr
    · rw [hr, hown, hi]
    · exact hi
  · exact .refl _

lemma Redis.deletePresence_none (redis : Redis) (role : EgoBrowserRelayRole) (id : ℕ) :
    redis.RegistersNone (redis.deletePresence role id) := by
  unfold Redis.deletePresence
  split_ifs
  · intro r i hi
    by_cases hr : r = role
    · subst hr
      simp [Redis.presence] at hi
    · simpa [Redis.presence, hr] using hi
  · exact .refl _

lemma Redis.elapse_none (redis : Redis) {time : ℚ} (h : 0 ≤ time) :
    redis.RegistersNone { redis with now := redis.now + time } := by
  intro role id hid
  simp only [Redis.presence, Option.map_eq_some_iff, Option.filter_eq_some_iff,
    decide_eq_true_eq] at hid ⊢
  obtain ⟨p, ⟨hp, hlive⟩, hid⟩ := hid
  exact ⟨p, ⟨hp, by linarith⟩, hid⟩

lemma World.publish_redis (w : World) (target sender : ℕ) (payload : List ℕ) :
    (w.publish target sender payload).2.redis = w.redis := by
  unfold World.publish
  split
  · split_ifs <;> rfl
  · rfl

lemma Redis.registersNone_of_put {id : ℕ} {endpoint : Endpoint}
    (h : some (w.put id endpoint) = some w') : w.redis.RegistersNone w'.redis := by
  obtain rfl := Option.some.inj h
  exact .refl _

/-- No step registers a presence while the revocation marker exists. -/
lemma step_registersNone {event : Event} (h : w.step settings event = some w')
    (hrevoked : w.redis.revoked = true) : w.redis.RegistersNone w'.redis := by
  cases event <;> simp only [World.step] at h
  case elapse time =>
    split_ifs at h with htime
    obtain rfl := Option.some.inj h
    exact w.redis.elapse_none htime
  case connect id process role =>
    simp only [World.connect] at h
    split_ifs at h
    · exact Redis.registersNone_of_put h
    · exact Redis.registersNone_of_put (w := w.setHub _ _) h
  case setRevoked =>
    obtain rfl := Option.some.inj h
    exact .refl _
  case closeBinding process code =>
    obtain rfl := Option.some.inj h
    exact .refl _
  case close process =>
    obtain rfl := Option.some.inj h
    exact .refl _
  case register id =>
    simp only [World.register, Option.bind_eq_bind, Option.bind_eq_some_iff] at h
    obtain ⟨endpoint, -, h⟩ := h
    split at h
    · obtain rfl := Option.some.inj h
      exact Redis.registerPresence_none hrevoked endpoint.role id
    · cases h
  case wait id =>
    simp only [World.wait, Option.bind_eq_bind, Option.bind_eq_some_iff] at h
    obtain ⟨endpoint, -, h⟩ := h
    split at h
    · split at h
      · exact Redis.registersNone_of_put h
      · split at h
        · obtain rfl := Option.some.inj h
          exact w.redis.refreshPresence_none endpoint.role id
        · exact Redis.registersNone_of_put h
    · cases h
  case refresh id =>
    simp only [World.refresh, Option.bind_eq_bind, Option.bind_eq_some_iff] at h
    obtain ⟨endpoint, -, h⟩ := h
    split at h
    · split at h
      · obtain rfl := Option.some.inj h
        exact w.redis.refreshPresence_none endpoint.role id
      · cases h
    · cases h
  case withdraw id =>
    simp only [World.withdraw, Option.bind_eq_bind, Option.bind_eq_some_iff] at h
    obtain ⟨endpoint, -, h⟩ := h
    split at h
    · obtain rfl := Option.some.inj h
      exact w.redis.deletePresence_none endpoint.role id
    · cases h
  case subscribe id =>
    simp only [World.subscribe, Option.bind_eq_bind, Option.bind_eq_some_iff] at h
    obtain ⟨endpoint, -, h⟩ := h
    split at h
    · exact Redis.registersNone_of_put h
    · cases h
  case poll id =>
    simp only [World.poll, Option.bind_eq_bind, Option.bind_eq_some_iff] at h
    obtain ⟨endpoint, -, h⟩ := h
    split at h
    · split at h
      · exact Redis.registersNone_of_put h
      · split at h
        · exact Redis.registersNone_of_put h
        · exact Redis.registersNone_of_put h
    · cases h
  case forward id message paced =>
    simp only [World.forward, Option.bind_eq_bind, Option.bind_eq_some_iff] at h
    obtain ⟨endpoint, -, h⟩ := h
    split at h
    · split at h
      · cases h
      · split at h
        · exact Redis.registersNone_of_put h
        · obtain rfl := Option.some.inj h
          split_ifs
          · exact .refl _
          · exact Redis.registersNone_of_eq (w.publish_redis _ _ _)
    · cases h
  case deliver id socketOpen =>
    simp only [World.deliver, Option.bind_eq_bind, Option.bind_eq_some_iff] at h
    obtain ⟨endpoint, -, h⟩ := h
    split at h
    · split at h
      · cases h
      · split at h
        · exact Redis.registersNone_of_put h
        · split at h
          · obtain rfl := Option.some.inj h
            exact .refl _
          · exact Redis.registersNone_of_put h
    · cases h
  case keep id =>
    simp only [World.keep, Option.bind_eq_bind, Option.bind_eq_some_iff] at h
    obtain ⟨endpoint, -, h⟩ := h
    split at h
    · split_ifs at h
      · exact Redis.registersNone_of_put h
      · exact Redis.registersNone_of_put h
      · exact Redis.registersNone_of_put h
      · exact Redis.registersNone_of_put h
      · obtain rfl := Option.some.inj h
        exact .refl _
    · cases h
  case noticeShutdown id =>
    simp only [World.noticeShutdown, Option.bind_eq_bind, Option.bind_eq_some_iff] at h
    obtain ⟨endpoint, -, h⟩ := h
    split at h
    · split_ifs at h
      exact Redis.registersNone_of_put h
    · cases h
  case endServe id =>
    simp only [World.endServe, Option.bind_eq_bind, Option.bind_eq_some_iff] at h
    obtain ⟨endpoint, -, h⟩ := h
    split at h
    · split at h
      · split_ifs at h
        exact Redis.registersNone_of_put h
      · exact Redis.registersNone_of_put h
    · cases h
  case publishClose id =>
    simp only [World.publishClose, Option.bind_eq_bind, Option.bind_eq_some_iff] at h
    obtain ⟨endpoint, -, h⟩ := h
    split at h
    · obtain rfl := Option.some.inj h
      exact Redis.registersNone_of_eq (World.publish_redis _ _ _ _)
    · cases h
  case unsubscribe id =>
    simp only [World.unsubscribe, Option.bind_eq_bind, Option.bind_eq_some_iff] at h
    obtain ⟨endpoint, -, h⟩ := h
    split at h
    · exact Redis.registersNone_of_put h
    · cases h
  case remove id =>
    simp only [World.remove, Option.bind_eq_bind, Option.bind_eq_some_iff] at h
    obtain ⟨endpoint, -, h⟩ := h
    split at h
    · obtain rfl := Option.some.inj h
      split_ifs
      · exact .refl _
      · exact .refl _
    · cases h
  case redisError id =>
    simp only [World.redisError, Option.bind_eq_bind, Option.bind_eq_some_iff] at h
    obtain ⟨endpoint, -, h⟩ := h
    split at h
    all_goals first
      | exact Redis.registersNone_of_put h
      | cases h

end AgentRemote.Relay.Distributed
