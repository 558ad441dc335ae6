import Dozer.Cache.RecordDatabase

open dozer_types.types

namespace dozer_cache

/-- A primary key, as `get_primary_key` encodes the key fields of a record. -/
abbrev Key := List UInt8

/-- The `RwCache` trait object the sink holds, as the calls it makes on a
    cache state `σ`. A failing call returns no state, so a failed insert,
    update or delete leaves the cache as it was. `insert` and `update` take
    their record mutably: the record they return is the caller's afterwards.
    `count` is the count of the query without limit. -/
structure RwCache (σ : Type) where
  get_schema_and_indexes_by_name : σ → String → Except CacheError (Schema × List IndexDefinition)
  count : σ → String → Except CacheError Nat
  insert : σ → Record → Except CacheError (Nat × Record × σ)
  delete : σ → Key → Except CacheError (UInt32 × σ)
  update : σ → Key → Record → Except CacheError (UInt32 × Record × σ)
  commit : σ → Except CacheError σ

/-- The `CacheManager` trait object the sink factory holds, as the calls it
    makes on a manager state `μ` that hands out caches of state `σ`: opening
    a cache by name or alias (`none` when there is none), creating caches,
    aliasing a physical name, and the physical name of a cache. -/
structure CacheManager (μ σ : Type) where
  open_rw_cache : μ → String → Except CacheError (Option σ)
  create_cache : μ → List (String × Schema × List IndexDefinition) → Except CacheError (σ × μ)
  create_alias : μ → String → String → Except CacheError μ
  name : σ → String

variable (get_primary_key : List Nat → List Field → Key)

/-- What a cache must do to be the map of primary keys to records that the
    sink's contract describes, read through `view`, for the endpoint `name`
    whose schema it reports as `schema`: an insert binds the record's key, an
    update unbinds the given key and binds the new record's key, a delete
    unbinds the key. Records keep their values, and the schema stays. -/
structure RwCache.MapContract {σ : Type} (cache : RwCache σ) (view : σ → Key → Option Record)
    (name : String) (schema : Schema) : Prop where
  insert {s s' : σ} {indexes : List IndexDefinition} {record record' : Record} {id : Nat} :
    cache.get_schema_and_indexes_by_name s name = .ok (schema, indexes) →
    cache.insert s record = .ok (id, record', s') →
    record'.values = record.values ∧
      view s' = Function.update (view s) (get_primary_key schema.primary_index record.values)
        (some record') ∧
      cache.get_schema_and_indexes_by_name s' name = .ok (schema, indexes)
  update {s s' : σ} {indexes : List IndexDefinition} {key : Key} {record record' : Record}
      {version : UInt32} :
    cache.get_schema_and_indexes_by_name s name = .ok (schema, indexes) →
    cache.update s key record = .ok (version, record', s') →
    record'.values = record.values ∧
      view s' = Function.update (Function.update (view s) key none)
        (get_primary_key schema.primary_index record.values) (some record') ∧
      cache.get_schema_and_indexes_by_name s' name = .ok (schema, indexes)
  delete {s s' : σ} {indexes : List IndexDefinition} {key : Key} {version : UInt32} :
    cache.get_schema_and_indexes_by_name s name = .ok (schema, indexes) →
    cache.delete s key = .ok (version, s') →
    view s' = Function.update (view s) key none ∧
      cache.get_schema_and_indexes_by_name s' name = .ok (schema, indexes)

/-- What the sink factory relies on from a cache manager across builds: a
    cache created with one schema and its indexes reports them under the
    name it was created for, and once aliased under that name it is the cache
    opened under the name. -/
structure CacheManager.AliasContract {μ σ : Type} (manager : CacheManager μ σ)
    (cache : RwCache σ) : Prop where
  create_schema {m created : μ} {c : σ} {name : String} {schema : Schema}
      {indexes : List IndexDefinition} :
    manager.create_cache m [(name, schema, indexes)] = .ok (c, created) →
    cache.get_schema_and_indexes_by_name c name = .ok (schema, indexes)
  open_alias {m created m' : μ} {c : σ} {name : String} {schema : Schema}
      {indexes : List IndexDefinition} :
    manager.create_cache m [(name, schema, indexes)] = .ok (c, created) →
    manager.create_alias created (manager.name c) name = .ok m' →
    manager.open_rw_cache m' name = .ok (some c)

/-- Modelled from the spec: the version a cache gives a record it inserts
    (the cache crate's constant is not in the repository's sources). -/
def INITIAL_RECORD_VERSION : UInt32 := 1

/-- Modelled from the spec: the cache implementation behind `RwCache` is not
    in the repository's sources. Per the spec a cache has a name, one schema
    with its secondary indexes, and a map from primary keys to records, each
    record carrying its version; inserts take their ids from a counter. -/
structure MapCache where
  name : String
  schema : Schema
  indexes : List IndexDefinition
  records : lmdb.Database Key Record
  next_id : Nat

namespace MapCache

def key (self : MapCache) (record : Record) : Key :=
  get_primary_key self.schema.primary_index record.values

def get_schema_and_indexes_by_name (self : MapCache) (name : String) :
    Except CacheError (Schema × List IndexDefinition) :=
  if name = self.name then .ok (self.schema, self.indexes) else .error (.SchemaNotFound name)

def count (self : MapCache) (name : String) : Except CacheError Nat :=
  if name = self.name then .ok self.records.entries.length else .error (.SchemaNotFound name)

/-- Per the spec, an insert fails on a key that is already present, and
    otherwise stores the record with the initial version under a fresh id. -/
def insert (self : MapCache) (record : Record) : Except CacheError (Nat × Record × MapCache) :=
  let record := { record with version := some INITIAL_RECORD_VERSION }
  match self.records.put_no_overwrite (self.key get_primary_key record) record with
  | .error _ => .error .PrimaryKeyExists
  | .ok records => .ok (self.next_id, record, { self with records, next_id := self.next_id + 1 })

/-- Per the spec, a delete removes the record under the key and returns its
    version. -/
def delete (self : MapCache) (key : Key) : Except CacheError (UInt32 × MapCache) :=
  match self.records.get key with
  | none => .error .PrimaryKeyNotFound
  | some old =>
    match self.records.del key with
    | .error _ => .error .PrimaryKeyNotFound
    | .ok records => .ok (old.version.getD INITIAL_RECORD_VERSION, { self with records })

/-- Per the spec, an update removes the record under the key and stores the
    new one under its own key with the next version; it returns the old one. -/
def update (self : MapCache) (key : Key) (record : Record) :
    Except CacheError (UInt32 × Record × MapCache) :=
  match self.delete key with
  | .error e => .error e
  | .ok (version, removed) =>
    let record := { record with version := some (version + 1) }
    match removed.records.put_no_overwrite (self.key get_primary_key record) record with
    | .error _ => .error .PrimaryKeyExists
    | .ok records => .ok (version, record, { removed with records })

def rwCache : RwCache MapCache where
  get_schema_and_indexes_by_name := get_schema_and_indexes_by_name
  count := count
  insert := insert get_primary_key
  delete := delete
  update := update get_primary_key
  commit := .ok

/-- The cache's content as a map from primary keys to records. -/
def view (self : MapCache) : Key → Option Record := self.records.get

theorem get_schema_and_indexes_by_name_ok {self : MapCache} {name : String} {schema : Schema}
    {indexes : List IndexDefinition}
    (h : self.get_schema_and_indexes_by_name name = .ok (schema, indexes)) :
    name = self.name ∧ schema = self.schema ∧ indexes = self.indexes := by
  unfold get_schema_and_indexes_by_name at h
  split_ifs at h with hname
  cases h
  exact ⟨hname, rfl, rfl⟩

theorem delete_ok {self self' : MapCache} {key : Key} {version : UInt32}
    (h : self.delete key = .ok (version, self')) :
    self'.view = Function.update self.view key none ∧ self'.name = self.name ∧
      self'.schema = self.schema ∧ self'.indexes = self.indexes := by
  unfold delete at h
  split at h
  · cases h
  · split at h
    · cases h
    · rename_i hdel
      cases h
      exact ⟨lmdb.Database.get_del hdel, rfl, rfl, rfl⟩

/-- The spec's cache is the map of the sink's contract. -/
theorem map_contract (name : String) (schema : Schema) :
    (rwCache get_primary_key).MapContract get_primary_key view name schema where
  insert hschema hinsert := by
    obtain ⟨rfl, rfl, rfl⟩ := get_schema_and_indexes_by_name_ok hschema
    simp only [rwCache, insert] at hinsert
    split at hinsert
    · cases hinsert
    · rename_i hput
      cases hinsert
      exact ⟨rfl, lmdb.Database.get_put_no_overwrite hput, hschema⟩
  update hschema hupdate := by
    obtain ⟨rfl, rfl, rfl⟩ := get_schema_and_indexes_by_name_ok hschema
    simp only [rwCache, update] at hupdate
    split at hupdate
    · cases hupdate
    · rename_i version removed hdelete
      obtain ⟨hview, hname, hschema', hindexes⟩ := delete_ok hdelete
      split at hupdate
      · cases hupdate
      · rename_i hput
        cases hupdate
        refine ⟨rfl, ?_, ?_⟩
        · rw [view, lmdb.Database.get_put_no_overwrite hput, ← view, hview]
          rfl
        · simp [rwCache, get_schema_and_indexes_by_name, hname, hschema', hindexes]
  delete hschema hdelete := by
    obtain ⟨rfl, rfl, rfl⟩ := get_schema_and_indexes_by_name_ok hschema
    obtain ⟨hview, hname, hschema', hindexes⟩ := delete_ok hdelete
    exact ⟨hview, by simp [rwCache, get_schema_and_indexes_by_name, hname, hschema', hindexes]⟩

end MapCache


/-- Modelled from the spec: the cache manager is not in the repository's
    sources. This one keeps every cache it has created or aliased in a list
    under the name or alias, newest first. A cache holds one schema, so a
    cache is created for exactly one schema, empty. -/
structure MapManager where
  caches : List (String × MapCache)

namespace MapManager

def open_rw_cache (self : MapManager) (name : String) : Except CacheError (Option MapCache) :=
  .ok (self.caches.lookup name)

def create_cache (self : MapManager) :
    List (String × Schema × List IndexDefinition) → Except CacheError (MapCache × MapManager)
  | [(name, schema, indexes)] =>
    let cache : MapCache := ⟨name, schema, indexes, .empty, 0⟩
    .ok (cache, ⟨(name, cache) :: self.caches⟩)
  | _ => .error (.SchemaNotFound "")

def create_alias (self : MapManager) (name alias_name : String) : Except CacheError MapManager :=
  match self.caches.lookup name with
  | some cache => .ok ⟨(alias_name, cache) :: self.caches⟩
  | none => .error (.SchemaNotFound name)

def cacheManager : CacheManager MapManager MapCache where
  open_rw_cache := open_rw_cache
  create_cache := create_cache
  create_alias := create_alias
  name := MapCache.name

theorem create_cache_ok {self created : MapManager} {cache : MapCache} {name : String}
    {schema : Schema} {indexes : List IndexDefinition}
    (h : self.create_cache [(name, schema, indexes)] = .ok (cache, created)) :
    cache = ⟨name, schema, indexes, .empty, 0⟩ ∧ created = ⟨(name, cache) :: self.caches⟩ := by
  cases h
  exact ⟨rfl, rfl⟩

/-- The list-backed manager keeps the contract, with the spec's caches. -/
theorem alias_contract : cacheManager.AliasContract (MapCache.rwCache get_primary_key) where
  create_schema h := by
    obtain ⟨rfl, -⟩ := create_cache_ok h
    simp [MapCache.rwCache, MapCache.get_schema_and_indexes_by_name]
  open_alias hcreate halias := by
    obtain ⟨rfl, rfl⟩ := create_cache_ok hcreate
    simp only [cacheManager, create_alias, List.lookup_cons_self] at halias
    cases halias
    simp [cacheManager, open_rw_cache]

end MapManager

end dozer_cache
