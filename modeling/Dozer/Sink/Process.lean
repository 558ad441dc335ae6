import Dozer.Sink.Basic
import Dozer.Cache.RwCache

open dozer_types.types dozer_cache

namespace dozer_orchestrator.sinks

/-- The cache sink: its cache, the count of operations it has seen, its
    endpoint and its optional notifier. The progress bar is left out. -/
structure CacheSink (σ : Type) where
  cache : σ
  counter : Nat
  api_endpoint : ApiEndpoint
  notifier : Option Sender

variable {σ : Type} (get_primary_key : List Nat → List Field → Key) (c : RwCache σ)

/-- `CacheSink::new`: the counter starts at the cache's record count. -/
def CacheSink.new (cache : σ) (api_endpoint : ApiEndpoint) (notifier : Option Sender) :
    Except ExecutionError (CacheSink σ) :=
  match c.count cache api_endpoint.name with
  | .error e => .error (.SinkError (.CacheCountFailed api_endpoint.name e))
  | .ok counter => .ok ⟨cache, counter, api_endpoint, notifier⟩

/-- The `match` of `process` that applies an operation to the cache, tagging
    its records with the schema's identifier, and maps it to the event of its
    notification. -/
def CacheSink.apply_operation (self : CacheSink σ) (schema : Schema) :
    Operation → Except ExecutionError (Event × σ)
  | .Delete old =>
    let old := { old with schema_id := schema.identifier }
    let key := get_primary_key schema.primary_index old.values
    match c.delete self.cache key with
    | .error e => .error (.SinkError (.CacheDeleteFailed self.api_endpoint.name e))
    | .ok (version, cache) =>
      .ok (map_delete_operation self.api_endpoint.name { old with version := some version }, cache)
  | .Insert new =>
    let new := { new with schema_id := schema.identifier }
    match c.insert self.cache new with
    | .error e => .error (.SinkError (.CacheInsertFailed self.api_endpoint.name e))
    | .ok (id, new, cache) => .ok (map_insert_operation self.api_endpoint.name new id, cache)
  | .Update old new =>
    let old := { old with schema_id := schema.identifier }
    let new := { new with schema_id := schema.identifier }
    let key := get_primary_key schema.primary_index old.values
    match c.update self.cache key new with
    | .error e => .error (.SinkError (.CacheUpdateFailed self.api_endpoint.name e))
    | .ok (old_version, new, cache) =>
      .ok (map_update_operation self.api_endpoint.name { old with version := some old_version } new,
        cache)

/-- `CacheSink::process`. The counter goes up first; the notification is
    tried only once the cache call has succeeded. -/
def CacheSink.process (self : CacheSink σ) (op : Operation) :
    Except ExecutionError Unit × CacheSink σ :=
  let self := { self with counter := self.counter + 1 }
  match c.get_schema_and_indexes_by_name self.cache self.api_endpoint.name with
  | .error _ => (.error .SchemaNotInitialized, self)
  | .ok (schema, _) =>
    match self.apply_operation get_primary_key c schema op with
    | .error e => (.error e, self)
    | .ok (mapped_op, cache) =>
      let self := { self with cache }
      match self.notifier with
      | none => (.ok (), self)
      | some notifier =>
        match notifier.try_send ⟨self.api_endpoint.name, some (.Op mapped_op)⟩ with
        | .error e => (.error (.InternalError e), self)
        | .ok notifier => (.ok (), { self with notifier := some notifier })

/-- `Sink::commit` of the cache sink. -/
def CacheSink.commit (self : CacheSink σ) : Except ExecutionError (CacheSink σ) :=
  match c.commit self.cache with
  | .error e => .error (.SinkError (.CacheCommitTransactionFailed self.api_endpoint.name e))
  | .ok cache => .ok { self with cache }

/-- One cache call of the operation's kind took the cache from `cache` to
    `cache'`, with the operation's records tagged by the schema's identifier,
    and `event` describes that call. -/
def Applied (schema : Schema) (cache cache' : σ) : Operation → Event → Prop
  | .Delete old, event => ∃ version,
    c.delete cache (get_primary_key schema.primary_index old.values) = .ok (version, cache') ∧
      event = .Delete { old with schema_id := schema.identifier, version := some version }
  | .Insert new, event => ∃ id new',
    c.insert cache { new with schema_id := schema.identifier } = .ok (id, new', cache') ∧
      event = .Insert id new'
  | .Update old new, event => ∃ version new',
    c.update cache (get_primary_key schema.primary_index old.values)
        { new with schema_id := schema.identifier } = .ok (version, new', cache') ∧
      event = .Update { old with schema_id := schema.identifier, version := some version } new'

section spec

variable {get_primary_key c} {self : CacheSink σ} {schema : Schema} {op : Operation}

theorem CacheSink.apply_operation_ok {event : Event} {cache' : σ}
    (h : self.apply_operation get_primary_key c schema op = .ok (event, cache')) :
    Applied get_primary_key c schema self.cache cache' op event := by
  cases op <;> simp only [CacheSink.apply_operation] at h <;> split at h <;> cases h
  · exact ⟨_, ‹_›, rfl⟩
  · exact ⟨_, _, ‹_›, rfl⟩
  · exact ⟨_, _, ‹_›, rfl⟩

theorem CacheSink.apply_operation_error {e : ExecutionError}
    (h : self.apply_operation get_primary_key c schema op = .error e) :
    ∃ se, e = .SinkError se ∧ se.endpoint = self.api_endpoint.name := by
  cases op <;> simp only [CacheSink.apply_operation] at h <;> split at h <;> cases h <;>
    exact ⟨_, rfl, rfl⟩

theorem CacheSink.apply_operation_counter (n : Nat) :
    ({ self with counter := n } : CacheSink σ).apply_operation get_primary_key c schema op =
      self.apply_operation get_primary_key c schema op := by
  cases op <;> rfl

end spec

/-- Everything one call of `process` can do. It fails before touching the
    cache or the channel, when the schema lookup or the cache call fails; or
    it applies one cache call of the operation's kind and then either fails
    to notify, sending nothing, or succeeds, sending the notification that
    describes the call if there is a notifier. -/
theorem CacheSink.process_cases (self : CacheSink σ) (op : Operation) :
    let step := self.process get_primary_key c op
    step.2.api_endpoint = self.api_endpoint ∧
    ((step.1 ≠ .ok () ∧ (∀ t, step.1 ≠ .error (.InternalError t)) ∧
        step.2.cache = self.cache ∧ step.2.notifier = self.notifier) ∨
      ∃ schema indexes event,
        c.get_schema_and_indexes_by_name self.cache self.api_endpoint.name = .ok (schema, indexes) ∧
        Applied get_primary_key c schema self.cache step.2.cache op event ∧
        ((∃ t, step.1 = .error (.InternalError t) ∧ step.2.notifier = self.notifier) ∨
          (step.1 = .ok () ∧ step.2.notifier.map Sender.sent =
            self.notifier.map fun n => n.sent ++ [⟨self.api_endpoint.name, some (.Op event)⟩]))) := by
  simp only [CacheSink.process]
  cases hschema : c.get_schema_and_indexes_by_name self.cache self.api_endpoint.name with
  | error e => simp
  | ok found =>
    obtain ⟨schema, indexes⟩ := found
    simp only [CacheSink.apply_operation_counter]
    cases happly : self.apply_operation get_primary_key c schema op with
    | error e =>
      obtain ⟨se, rfl, -⟩ := CacheSink.apply_operation_error happly
      simp
    | ok applied =>
      obtain ⟨event, cache'⟩ := applied
      have happlied := CacheSink.apply_operation_ok happly
      cases hnotifier : self.notifier with
      | none => simpa using ⟨event, happlied⟩
      | some n =>
        cases hsend : n.try_send ⟨self.api_endpoint.name, some (.Op event)⟩ with
        | error t => simpa [hsend] using ⟨event, happlied⟩
        | ok n' => simpa [hsend] using ⟨event, happlied, Sender.try_send_ok hsend⟩

/-- `process` fails before touching the cache or the channel when the schema
    lookup or the cache call fails. When the notification cannot be sent it
    fails with the cache call applied and nothing sent. When it succeeds, one
    cache call of the operation's kind was applied and, if there is a
    notifier, exactly the notification describing it was sent. -/
theorem process_cache_and_notifier (self : CacheSink σ) (op : Operation) :
    let step := self.process get_primary_key c op
    let message := fun event : Event =>
      (⟨self.api_endpoint.name, some (.Op event)⟩ : PipelineResponse)
    (∀ e, step.1 = .error e → (∀ t, e ≠ .InternalError t) →
      step.2.cache = self.cache ∧ step.2.notifier = self.notifier) ∧
    (∀ t, step.1 = .error (.InternalError t) → ∃ schema indexes event,
      c.get_schema_and_indexes_by_name self.cache self.api_endpoint.name = .ok (schema, indexes) ∧
      Applied get_primary_key c schema self.cache step.2.cache op event ∧
      step.2.notifier = self.notifier) ∧
    (step.1 = .ok () → ∃ schema indexes event,
      c.get_schema_and_indexes_by_name self.cache self.api_endpoint.name = .ok (schema, indexes) ∧
      Applied get_primary_key c schema self.cache step.2.cache op event ∧
      step.2.notifier.map Sender.sent = self.notifier.map fun n => n.sent ++ [message event]) := by
  obtain ⟨-, ⟨hfailed, hsend, hcache, hnotifier⟩ | ⟨schema, indexes, event, hschema, happlied, hout⟩⟩ :=
    CacheSink.process_cases get_primary_key c self op
  · exact ⟨fun _ _ _ => ⟨hcache, hnotifier⟩, fun t h => absurd h (hsend t), fun h => absurd h hfailed⟩
  · rcases hout with ⟨t, hresult, hnotifier⟩ | ⟨hresult, hsent⟩
    · exact ⟨fun e he hne => (hne t (Except.error.inj (he.symm.trans hresult))).elim,
        fun _ _ => ⟨schema, indexes, event, hschema, happlied, hnotifier⟩,
        fun h => nomatch h.symm.trans hresult⟩
    · exact ⟨fun _ he _ => (nomatch hresult.symm.trans he), fun _ h => (nomatch hresult.symm.trans h),
        fun _ => ⟨schema, indexes, event, hschema, happlied, hsent⟩⟩

/-- With a full notifier channel, an insert that the cache accepts stays in
    the cache while `process` returns an error and sends nothing. -/
theorem process_full_channel_keeps_insert :
    let sink : CacheSink MapCache :=
      ⟨⟨"films", ⟨none, [], []⟩, [], .empty, 0⟩, 0, ⟨"films", none⟩, some ⟨[], 0, some 0, false⟩⟩
    let step := sink.process (fun _ _ => []) (MapCache.rwCache fun _ _ => [])
      (.Insert (Record.new none []))
    (∃ e, step.1 = .error e) ∧ step.2.cache.records.entries ≠ sink.cache.records.entries ∧
      step.2.notifier = sink.notifier :=
  ⟨⟨_, rfl⟩, by decide, rfl⟩

end dozer_orchestrator.sinks
