import Dozer.Sink.Process
import Dozer.Sink.Schema

open dozer_types.types dozer_cache

namespace dozer_orchestrator.sinks

variable {μ σ : Type} (m : CacheManager μ σ)

/-- `open_or_create_cache`: the cache the manager opens under `name` if there
    is one; otherwise a new cache with the schema and secondary indexes,
    aliased under `name`. -/
def open_or_create_cache (manager : μ) (name : String) (schema : Schema)
    (secondary_indexes : List IndexDefinition) : Except ExecutionError (σ × μ) :=
  match m.open_rw_cache manager name with
  | .error e => .error (.SinkError (.CacheOpenFailed name e))
  | .ok (some cache) => .ok (cache, manager)
  | .ok none =>
    match m.create_cache manager [(name, schema, secondary_indexes)] with
    | .error e => .error (.SinkError (.CacheCreateFailed name e))
    | .ok (cache, manager) =>
      match m.create_alias manager (m.name cache) name with
      | .error e => .error (.SinkError (.CacheCreateAliasFailed name (m.name cache) e))
      | .ok manager => .ok (cache, manager)

variable (DEFAULT_PORT_HANDLE : PortHandle) (c : RwCache σ)

/-- `SinkFactory::build` of the cache sink factory, given the schema on the
    default input port and the factory's notifier. The progress bar is left
    out. -/
def CacheSinkFactory.build (self : CacheSinkFactory) (notifier : Option Sender) (manager : μ)
    (schema : Schema) : Except ExecutionError (CacheSink σ × μ) := do
  let (schema, secondary_indexes) ← self.get_output_schema DEFAULT_PORT_HANDLE schema
  let (cache, manager) ←
    open_or_create_cache m manager self.api_endpoint.name schema secondary_indexes
  let sink ← CacheSink.new c cache self.api_endpoint notifier
  pure (sink, manager)

section spec

variable {m} {manager manager' : μ} {name : String} {schema : Schema}
  {secondary_indexes : List IndexDefinition}

/-- The cache is the one open under the name, or else one created with the
    schema and indexes and then aliased under the name. -/
theorem open_or_create_cache_ok {cache : σ}
    (h : open_or_create_cache m manager name schema secondary_indexes = .ok (cache, manager')) :
    (m.open_rw_cache manager name = .ok (some cache) ∧ manager' = manager) ∨
      (m.open_rw_cache manager name = .ok none ∧ ∃ created,
        m.create_cache manager [(name, schema, secondary_indexes)] = .ok (cache, created) ∧
          m.create_alias created (m.name cache) name = .ok manager') := by
  unfold open_or_create_cache at h
  split at h
  · cases h
  · cases h
    exact .inl ⟨‹_›, rfl⟩
  · split at h
    · cases h
    · split at h
      · cases h
      · cases h
        exact .inr ⟨‹_›, _, ‹_›, ‹_›⟩

theorem open_or_create_cache_error {e : ExecutionError}
    (h : open_or_create_cache m manager name schema secondary_indexes = .error e) :
    ∃ se, e = .SinkError se ∧ se.endpoint = name := by
  unfold open_or_create_cache at h
  repeat' split at h
  all_goals cases h
  all_goals exact ⟨_, rfl, rfl⟩

end spec

theorem CacheSink.new_error {cache : σ} {api_endpoint : ApiEndpoint} {notifier : Option Sender}
    {e : ExecutionError} (h : CacheSink.new c cache api_endpoint notifier = .error e) :
    ∃ se, e = .SinkError se ∧ se.endpoint = api_endpoint.name := by
  unfold CacheSink.new at h
  split at h <;> cases h
  exact ⟨_, rfl, rfl⟩

theorem CacheSink.process_error {get_primary_key : List Nat → List Field → Key}
    {self : CacheSink σ} {op : Operation} {e : ExecutionError}
    (h : (self.process get_primary_key c op).1 = .error e) :
    e = .SchemaNotInitialized ∨ (∃ t, e = .InternalError t) ∨
      ∃ se, e = .SinkError se ∧ se.endpoint = self.api_endpoint.name := by
  simp only [CacheSink.process] at h
  split at h
  · cases h
    exact .inl rfl
  · split at h
    · cases h
      exact .inr (.inr (CacheSink.apply_operation_error ‹_›))
    · split at h
      · cases h
      · split at h <;> cases h
        exact .inr (.inl ⟨_, rfl⟩)

theorem CacheSinkFactory.build_error {self : CacheSinkFactory} {notifier : Option Sender}
    {manager : μ} {schema : Schema} {e : ExecutionError}
    (h : self.build m DEFAULT_PORT_HANDLE c notifier manager schema = .error e) :
    (∃ name, e = .FieldNotFound name) ∨
      (∃ expected actual, e = .MismatchPrimaryKey self.api_endpoint.name expected actual) ∨
      ∃ se, e = .SinkError se ∧ se.endpoint = self.api_endpoint.name := by
  rcases Except.bind_eq_error_iff.mp h with hout | ⟨⟨schema', secondary_indexes⟩, -, h⟩
  · rcases get_output_schema_error DEFAULT_PORT_HANDLE hout with ⟨name, -, -, rfl⟩ | rfl
    · exact .inl ⟨name, rfl⟩
    · exact .inr (.inl ⟨_, _, rfl⟩)
  rcases Except.bind_eq_error_iff.mp h with hopen | ⟨⟨cache, manager'⟩, -, h⟩
  · exact .inr (.inr (open_or_create_cache_error hopen))
  rcases Except.bind_eq_error_iff.mp h with hnew | ⟨_, -, h⟩
  · exact .inr (.inr (CacheSink.new_error c hnew))
  · cases h

/-- Every sink error names the endpoint of the sink that raised it, whether
    it comes from building the sink (opening, creating or aliasing its cache,
    or counting its records), from processing an operation, or from a
    commit. -/
theorem sink_errors_name_endpoint (get_primary_key : List Nat → List Field → Key)
    (self : CacheSinkFactory) (notifier : Option Sender) (manager : μ) (schema : Schema)
    (sink : CacheSink σ) (op : Operation) :
    (∀ se, self.build m DEFAULT_PORT_HANDLE c notifier manager schema = .error (.SinkError se) →
      se.endpoint = self.api_endpoint.name) ∧
    (∀ se, (sink.process get_primary_key c op).1 = .error (.SinkError se) →
      se.endpoint = sink.api_endpoint.name) ∧
    (∀ se, sink.commit c = .error (.SinkError se) → se.endpoint = sink.api_endpoint.name) := by
  refine ⟨fun se h => ?_, fun se h => ?_, fun se h => ?_⟩
  · obtain ⟨_, he⟩ | ⟨_, _, he⟩ | ⟨_, he, hname⟩ := CacheSinkFactory.build_error m DEFAULT_PORT_HANDLE c h
    · cases he
    · cases he
    · cases he
      exact hname
  · obtain hschema | ⟨_, he⟩ | ⟨_, he, hname⟩ := CacheSink.process_error c h
    · cases hschema
    · cases he
    · cases he
      exact hname
  · unfold CacheSink.commit at h
    split at h <;> cases h
    rfl

/-- A built sink counts the records of its cache and keeps the factory's
    endpoint and notifier. Its cache is the one open under the endpoint's
    name, reused whatever its schema, or else a cache created with the
    output schema and secondary indexes and aliased under that name. -/
theorem build_opens_or_creates {self : CacheSinkFactory} {notifier : Option Sender}
    {manager manager' : μ} {schema : Schema} {sink : CacheSink σ}
    (h : self.build m DEFAULT_PORT_HANDLE c notifier manager schema = .ok (sink, manager')) :
    let name := self.api_endpoint.name
    ∃ schema' indexes, self.get_output_schema DEFAULT_PORT_HANDLE schema = .ok (schema', indexes) ∧
      c.count sink.cache name = .ok sink.counter ∧ sink.api_endpoint = self.api_endpoint ∧
      sink.notifier = notifier ∧
      ((m.open_rw_cache manager name = .ok (some sink.cache) ∧ manager' = manager) ∨
        (m.open_rw_cache manager name = .ok none ∧ ∃ created,
          m.create_cache manager [(name, schema', indexes)] = .ok (sink.cache, created) ∧
            m.create_alias created (m.name sink.cache) name = .ok manager')) := by
  obtain ⟨⟨schema', indexes⟩, hout, h⟩ := Except.bind_eq_ok_iff.mp h
  obtain ⟨⟨cache, opened⟩, hopen, h⟩ := Except.bind_eq_ok_iff.mp h
  obtain ⟨built, hnew, h⟩ := Except.bind_eq_ok_iff.mp h
  cases h
  unfold CacheSink.new at hnew
  split at hnew <;> cases hnew
  exact ⟨schema', indexes, hout, ‹_›, rfl, rfl, open_or_create_cache_ok hopen⟩

/-- A sink built a second time, on the manager the first build left, when
    the first build created its cache: the second build opens that cache and
    keeps the manager as it was, and the cache reports the first build's
    output schema and indexes, which the sink's `process` then keys records
    by, whatever the schema given to the second build. -/
theorem rebuild_keeps_first_cache_schema (hmanager : m.AliasContract c) {self : CacheSinkFactory}
    {notifier notifier' : Option Sender} {manager manager₁ manager₂ : μ}
    {schema₁ schema₂ : Schema} {sink₁ sink₂ : CacheSink σ}
    (hfresh : m.open_rw_cache manager self.api_endpoint.name = .ok none)
    (hbuild₁ : self.build m DEFAULT_PORT_HANDLE c notifier manager schema₁ = .ok (sink₁, manager₁))
    (hbuild₂ : self.build m DEFAULT_PORT_HANDLE c notifier' manager₁ schema₂ = .ok (sink₂, manager₂)) :
    sink₂.cache = sink₁.cache ∧ manager₂ = manager₁ ∧
      ∃ schema indexes, self.get_output_schema DEFAULT_PORT_HANDLE schema₁ = .ok (schema, indexes) ∧
        c.get_schema_and_indexes_by_name sink₂.cache self.api_endpoint.name = .ok (schema, indexes) := by
  obtain ⟨schema, indexes, hout, -, -, -, hcache₁⟩ := build_opens_or_creates m DEFAULT_PORT_HANDLE c hbuild₁
  rcases hcache₁ with ⟨hopen, -⟩ | ⟨-, created, hcreate, halias⟩
  · rw [hfresh] at hopen
    cases hopen
  have hreopen := hmanager.open_alias hcreate halias
  obtain ⟨_, _, -, -, -, -, hcache₂⟩ := build_opens_or_creates m DEFAULT_PORT_HANDLE c hbuild₂
  rcases hcache₂ with ⟨hopen, hkept⟩ | ⟨hnone, -⟩
  · rw [hreopen] at hopen
    have hsame := Option.some.inj (Except.ok.inj hopen)
    exact ⟨hsame.symm, hkept, schema, indexes, hout, hsame ▸ hmanager.create_schema hcreate⟩
  · rw [hreopen] at hnone
    cases hnone

/-- The films endpoint built twice on an empty list-backed manager, the
    second time with the upstream primary key on the name instead of the
    id: the second sink has the first cache, keyed by the id. -/
theorem rebuild_keeps_first_cache_schema_films :
    let c := MapCache.rwCache fun _ _ => []
    let self : CacheSinkFactory := ⟨⟨"films", none⟩⟩
    let schema₁ : Schema := ⟨none, [⟨"film_id", .Int⟩, ⟨"film_name", .String⟩], [0]⟩
    let schema₂ : Schema := { schema₁ with primary_index := [1] }
    ∃ sink₁ manager₁ sink₂ manager₂,
      MapManager.cacheManager.open_rw_cache ⟨[]⟩ self.api_endpoint.name = .ok none ∧
      self.build MapManager.cacheManager 0 c none ⟨[]⟩ schema₁ = .ok (sink₁, manager₁) ∧
      self.build MapManager.cacheManager 0 c none manager₁ schema₂ = .ok (sink₂, manager₂) ∧
      sink₂.cache = sink₁.cache ∧ manager₂ = manager₁ ∧
      ∃ schema indexes, self.get_output_schema 0 schema₁ = .ok (schema, indexes) ∧
        c.get_schema_and_indexes_by_name sink₂.cache self.api_endpoint.name = .ok (schema, indexes) := by
  intro c self schema₁ schema₂
  have hfresh : MapManager.cacheManager.open_rw_cache ⟨[]⟩ self.api_endpoint.name = .ok none := rfl
  obtain ⟨sink₁, manager₁, hbuild₁, sink₂, manager₂, hbuild₂⟩ : ∃ sink₁ manager₁,
      self.build MapManager.cacheManager 0 c none ⟨[]⟩ schema₁ = .ok (sink₁, manager₁) ∧
        ∃ sink₂ manager₂,
          self.build MapManager.cacheManager 0 c none manager₁ schema₂ = .ok (sink₂, manager₂) :=
    ⟨_, _, rfl, _, _, rfl⟩
  exact ⟨sink₁, manager₁, sink₂, manager₂, hfresh, hbuild₁, hbuild₂,
    rebuild_keeps_first_cache_schema _ 0 _ (MapManager.alias_contract _) hfresh hbuild₁ hbuild₂⟩

end dozer_orchestrator.sinks
