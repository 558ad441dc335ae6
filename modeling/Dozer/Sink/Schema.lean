import Dozer.Sink.Basic
import Mathlib.Data.List.Nodup

open dozer_types.types

namespace dozer_orchestrator.sinks

/-- The lookup of `create_primary_indexes`: the position of the first field
    called `name`. -/
def field_position (schema : Schema) (name : String) : Except ExecutionError Nat :=
  match schema.fields.findIdx? (·.name == name) with
  | some p => .ok p
  | none => .error (.FieldNotFound name)

/-- Every configured name in turn to its field's position, failing on the
    first name no field has. Repeated names are not merged. -/
def create_primary_indexes (schema : Schema) (api_index : ApiIndex) :
    Except ExecutionError (List Nat) :=
  api_index.primary_key.mapM (field_position schema)

/-- `get_field_names`. The source indexes `schema.fields[idx]`, which panics
    on a position out of bounds; there the model gives the default field's
    name. Only an upstream primary index out of bounds reaches that case,
    which `Schema.PrimaryIndexValid` rules out. -/
def get_field_names (schema : Schema) (indexes : List Nat) : List String :=
  indexes.map fun idx => schema.fields[idx]!.name

/-- The secondary indexes created for the field at `idx`, by its type. A
    text field gets none: the source's arm that gave it a full-text index is
    commented out, under the comment that still announces it. -/
def secondary_indexes_for (idx : Nat) : FieldType → List IndexDefinition
  | .UInt | .Int | .Float | .Boolean | .Decimal | .Timestamp | .Date | .Point =>
    [.SortedInverted [idx]]
  | .String => [.SortedInverted [idx], .FullText idx]
  | .Text => []
  | .Binary | .Bson => []

/-- The factory's configuration that `get_output_schema` reads. -/
structure CacheSinkFactory where
  api_endpoint : ApiEndpoint

/-- The `match` of `get_output_schema` that settles the primary key from the
    configured and the upstream one. -/
def resolve_primary_index (endpoint_name : String) (schema : Schema)
    (configured_index upstream_index : List Nat) : Except ExecutionError (List Nat) :=
  match configured_index.isEmpty, upstream_index.isEmpty with
  | true, true => .ok []
  | true, false => .ok upstream_index
  | false, true => .ok configured_index
  | false, false =>
    if upstream_index ≠ configured_index then
      .error (.MismatchPrimaryKey endpoint_name
        (get_field_names schema upstream_index) (get_field_names schema configured_index))
    else .ok configured_index

variable (DEFAULT_PORT_HANDLE : PortHandle)

/-- `CacheSinkFactory::get_output_schema`, given the schema on the default
    input port. -/
def CacheSinkFactory.get_output_schema (self : CacheSinkFactory) (schema : Schema) :
    Except ExecutionError (Schema × List IndexDefinition) := do
  let configured_index ← create_primary_indexes schema (self.api_endpoint.index.getD default)
  let upstream_index := schema.primary_index
  let index ← resolve_primary_index self.api_endpoint.name schema configured_index upstream_index
  let schema := { schema with
    primary_index := index
    identifier := some ⟨DEFAULT_PORT_HANDLE.toUInt32, 1⟩ }
  pure (schema, schema.fields.enum.flatMap fun (idx, f) => secondary_indexes_for idx f.typ)

/-- The position `create_primary_indexes` gives a name that some field has. -/
def field_index (schema : Schema) (name : String) : Nat :=
  schema.fields.findIdx (·.name == name)

theorem field_position_eq (schema : Schema) (name : String) :
    field_position schema name =
      if ∃ f ∈ schema.fields, f.name = name then .ok (field_index schema name)
      else .error (.FieldNotFound name) := by
  split_ifs with hfound
  · rw [field_position, List.findIdx?_eq_some_of_exists (by simpa using hfound)]
    rfl
  · have hnone : schema.fields.findIdx? (·.name == name) = none := by simpa using hfound
    rw [field_position, hnone]

/-- `create_primary_indexes` fails naming the first configured name that no
    field has, and otherwise gives each name's field position, in order. -/
theorem create_primary_indexes_eq (schema : Schema) (names : List String) :
    create_primary_indexes schema ⟨names⟩ =
      match names.find? (fun name => !schema.fields.any (·.name == name)) with
      | some name => .error (.FieldNotFound name)
      | none => .ok (names.map (field_index schema)) := by
  induction names with
  | nil => rfl
  | cons name names ih =>
    simp only [create_primary_indexes] at ih ⊢
    rw [List.mapM_cons, field_position_eq, List.find?_cons]
    by_cases hfound : ∃ f ∈ schema.fields, f.name = name
    · have hany : schema.fields.any (·.name == name) = true := by simpa using hfound
      simp only [if_pos hfound, hany, Bool.not_true, ih]
      cases names.find? (fun name => !schema.fields.any (·.name == name)) <;> rfl
    · have hany : schema.fields.any (·.name == name) = false := by simpa using hfound
      simp only [if_neg hfound, hany, Bool.not_false]
      rfl

theorem field_index_lt {schema : Schema} {name : String} (hfound : ∃ f ∈ schema.fields, f.name = name) :
    field_index schema name < schema.fields.length :=
  List.findIdx_lt_length_of_exists (by simpa using hfound)

theorem field_index_name {schema : Schema} {name : String}
    (hfound : ∃ f ∈ schema.fields, f.name = name) :
    schema.fields[field_index schema name]!.name = name := by
  rw [getElem!_pos schema.fields _ (field_index_lt hfound)]
  simpa using List.findIdx_getElem (w := field_index_lt hfound)

/-- Found names are told apart by their positions. -/
theorem field_index_inj {schema : Schema} {a b : String} (ha : ∃ f ∈ schema.fields, f.name = a)
    (hb : ∃ f ∈ schema.fields, f.name = b) (heq : field_index schema a = field_index schema b) :
    a = b := by
  have hname := field_index_name ha
  rw [heq, field_index_name hb] at hname
  exact hname.symm

/-- The names of the positions of found names are those names. -/
theorem get_field_names_field_index {schema : Schema} {names : List String}
    (hfound : ∀ name ∈ names, ∃ f ∈ schema.fields, f.name = name) :
    get_field_names schema (names.map (field_index schema)) = names := by
  rw [get_field_names, List.map_map]
  conv_rhs => rw [← List.map_id names]
  exact List.map_congr_left fun name hname => field_index_name (hfound name hname)

theorem create_primary_indexes_ok_iff {schema : Schema} {names : List String} {configured : List Nat} :
    create_primary_indexes schema ⟨names⟩ = .ok configured ↔
      (∀ name ∈ names, ∃ f ∈ schema.fields, f.name = name) ∧
        configured = names.map (field_index schema) := by
  rw [create_primary_indexes_eq]
  cases hfind : names.find? (fun name => !schema.fields.any (·.name == name)) with
  | some name =>
    obtain ⟨hmissing, hmem⟩ := List.find?_some hfind, List.mem_of_find?_eq_some hfind
    simp only [Bool.not_eq_true', List.any_eq_false, beq_iff_eq] at hmissing
    simp only [reduceCtorEq, false_iff, not_and]
    exact fun hall => absurd (hall name hmem) (by simpa using hmissing)
  | none =>
    simp only [List.find?_eq_none, Bool.not_eq_true', List.any_eq_false, beq_iff_eq] at hfind
    simp only [Except.ok.injEq, eq_comm (a := configured)]
    exact ⟨fun h => ⟨fun name hmem => by simpa using hfind name hmem, h⟩, And.right⟩

theorem create_primary_indexes_error_iff {schema : Schema} {names : List String} :
    (∃ e, create_primary_indexes schema ⟨names⟩ = .error e) ↔
      ∃ name ∈ names, ∀ f ∈ schema.fields, f.name ≠ name := by
  rw [create_primary_indexes_eq]
  cases hfind : names.find? (fun name => !schema.fields.any (·.name == name)) with
  | some name =>
    have hmissing := List.find?_some hfind
    simp only [Bool.not_eq_true', List.any_eq_false, beq_iff_eq] at hmissing
    exact iff_of_true ⟨_, rfl⟩ ⟨name, List.mem_of_find?_eq_some hfind, hmissing⟩
  | none =>
    simp only [List.find?_eq_none, Bool.not_eq_true', List.any_eq_false, beq_iff_eq] at hfind
    simp only [reduceCtorEq, exists_false, false_iff, not_exists, not_and, not_forall, not_not]
    exact fun name hmem => by simpa using hfind name hmem

section resolve

variable {endpoint_name : String} {schema : Schema} {configured upstream : List Nat}

theorem resolve_primary_index_error_iff :
    (∃ e, resolve_primary_index endpoint_name schema configured upstream = .error e) ↔
      configured ≠ [] ∧ upstream ≠ [] ∧ configured ≠ upstream := by
  cases configured <;> cases upstream <;> simp [resolve_primary_index]
  split_ifs <;> simp_all [eq_comm]

theorem resolve_primary_index_ok {index : List Nat}
    (h : resolve_primary_index endpoint_name schema configured upstream = .ok index) :
    (configured ≠ [] → index = configured) ∧ (upstream ≠ [] → index = upstream) ∧
      (upstream = [] → index = configured) := by
  cases configured <;> cases upstream <;> simp [resolve_primary_index] at h ⊢
  · exact h
  · exact h.symm
  · exact h.symm
  · split_ifs at h with hne
    cases h
    push_neg at hne
    obtain ⟨rfl, rfl⟩ := hne
    simp

/-- The key settled, given back as the upstream key, is settled again. -/
theorem resolve_primary_index_fixed {index : List Nat}
    (h : resolve_primary_index endpoint_name schema configured upstream = .ok index) (schema' : Schema) :
    resolve_primary_index endpoint_name schema' configured index = .ok index := by
  obtain ⟨hcfg, -, -⟩ := resolve_primary_index_ok h
  cases configured with
  | nil => cases index <;> rfl
  | cons i is => rw [← hcfg (List.cons_ne_nil i is)]; cases index <;> simp [resolve_primary_index]

end resolve

theorem secondary_indexes_for_in_bounds {idx n : Nat} (hidx : idx < n) (typ : FieldType) :
    ∀ d ∈ secondary_indexes_for idx typ, d.InBounds n := by
  cases typ <;> simp [secondary_indexes_for, IndexDefinition.InBounds, hidx]

/-- `create_primary_indexes` reads only the schema's fields. -/
theorem create_primary_indexes_of_fields (api_index : ApiIndex) (schema : Schema) {schema' : Schema}
    (h : schema'.fields = schema.fields) :
    create_primary_indexes schema' api_index = create_primary_indexes schema api_index := by
  have hposition : field_position schema' = field_position schema := by
    funext name
    simp only [field_position, h]
  simp only [create_primary_indexes, hposition]

theorem create_primary_indexes_error {schema : Schema} {api_index : ApiIndex} {e : ExecutionError}
    (h : create_primary_indexes schema api_index = .error e) : ∃ name, e = .FieldNotFound name := by
  obtain ⟨names⟩ := api_index
  rw [create_primary_indexes_eq] at h
  split at h <;> cases h
  exact ⟨_, rfl⟩

/-- Every error of `get_output_schema` says what is wrong: a configured name
    that no field has, or a key mismatch naming the endpoint, the fields of
    the upstream key, and the configured names as configured. -/
theorem get_output_schema_error {self : CacheSinkFactory} {schema : Schema} {e : ExecutionError}
    (h : self.get_output_schema DEFAULT_PORT_HANDLE schema = .error e) :
    (∃ name ∈ (self.api_endpoint.index.getD default).primary_key,
        (∀ f ∈ schema.fields, f.name ≠ name) ∧ e = .FieldNotFound name) ∨
      e = .MismatchPrimaryKey self.api_endpoint.name (get_field_names schema schema.primary_index)
        (self.api_endpoint.index.getD default).primary_key := by
  simp only [CacheSinkFactory.get_output_schema] at h
  generalize self.api_endpoint.index.getD default = api_index at h ⊢
  obtain ⟨names⟩ := api_index
  cases hcreate : create_primary_indexes schema ⟨names⟩ with
  | error e' =>
    rw [hcreate, Except.error_bind] at h
    cases h
    rw [create_primary_indexes_eq] at hcreate
    split at hcreate <;> cases hcreate
    rename_i name hfind
    have hmissing := List.find?_some hfind
    simp only [Bool.not_eq_true', List.any_eq_false, beq_iff_eq] at hmissing
    exact .inl ⟨name, List.mem_of_find?_eq_some hfind, hmissing, rfl⟩
  | ok configured =>
    rw [hcreate, Except.ok_bind] at h
    obtain ⟨hfound, rfl⟩ := create_primary_indexes_ok_iff.mp hcreate
    unfold resolve_primary_index at h
    split at h <;> (try split_ifs at h) <;> simp at h
    exact .inr (h.symm.trans (by rw [get_field_names_field_index hfound]))

/-- `get_output_schema` fails exactly when a configured name has no field or
    the configured and upstream keys are both set and differ. Otherwise the
    key it settles is in bounds, equals each of the two keys that is set, and
    repeats no position unless the upstream key is empty and a configured name
    is repeated; its secondary indexes name fields that exist. -/
theorem get_output_schema_spec (self : CacheSinkFactory) (schema : Schema)
    (hschema : schema.PrimaryIndexValid) :
    ((∃ e, self.get_output_schema DEFAULT_PORT_HANDLE schema = .error e) ↔
      (∃ name ∈ (self.api_endpoint.index.getD default).primary_key,
        ∀ f ∈ schema.fields, f.name ≠ name) ∨
      ∃ configured,
        create_primary_indexes schema (self.api_endpoint.index.getD default) = .ok configured ∧
          configured ≠ [] ∧ schema.primary_index ≠ [] ∧ configured ≠ schema.primary_index) ∧
    ∀ schema' indexes,
      self.get_output_schema DEFAULT_PORT_HANDLE schema = .ok (schema', indexes) →
      (∀ i ∈ schema'.primary_index, i < schema'.fields.length) ∧
      (schema'.primary_index.Nodup ↔
        schema.primary_index ≠ [] ∨ (self.api_endpoint.index.getD default).primary_key.Nodup) ∧
      (∀ configured,
        create_primary_indexes schema (self.api_endpoint.index.getD default) = .ok configured →
          configured ≠ [] → schema'.primary_index = configured) ∧
      (schema.primary_index ≠ [] → schema'.primary_index = schema.primary_index) ∧
      ∀ d ∈ indexes, d.InBounds schema'.fields.length := by
  obtain ⟨hbounds, hnodup⟩ := hschema
  unfold CacheSinkFactory.get_output_schema
  generalize self.api_endpoint.index.getD default = api_index
  obtain ⟨names⟩ := api_index
  cases hcreate : create_primary_indexes schema ⟨names⟩ with
  | error e =>
    have hmissing := create_primary_indexes_error_iff.mp ⟨e, hcreate⟩
    simp [hcreate, hmissing]
  | ok configured =>
    obtain ⟨hfound, rfl⟩ := create_primary_indexes_ok_iff.mp hcreate
    cases hresolve : resolve_primary_index self.api_endpoint.name schema
        (names.map (field_index schema)) schema.primary_index with
    | error e =>
      have hmismatch := resolve_primary_index_error_iff.mp ⟨e, hresolve⟩
      simp [hcreate, hresolve, hmismatch]
    | ok index =>
      obtain ⟨hcfg, hup, hempty⟩ := resolve_primary_index_ok hresolve
      simp [hcreate, hresolve]
      refine ⟨⟨hfound, fun hn hu => (hcfg (by simpa using hn)).symm.trans (hup hu)⟩,
        fun i hi => ?_, ?_, fun hn => hcfg (by simpa using hn), hup,
        fun d i f hmem hd => secondary_indexes_for_in_bounds (List.fst_lt_of_mem_enum hmem) f.typ d hd⟩
      · by_cases hu : schema.primary_index = []
        · rw [hempty hu] at hi
          obtain ⟨name, hname, rfl⟩ := List.mem_map.mp hi
          exact field_index_lt (hfound name hname)
        · exact hbounds i (hup hu ▸ hi)
      · by_cases hu : schema.primary_index = []
        · rw [hempty hu]
          simp only [hu, ne_eq, not_true_eq_false, false_or]
          exact ⟨List.Nodup.of_map _, List.Nodup.map_on fun a ha b hb =>
            field_index_inj (hfound a ha) (hfound b hb)⟩
        · exact iff_of_true (hup hu ▸ hnodup) (.inl hu)

/-- An endpoint with no configured key, over a schema keyed on its first
    field, is accepted. -/
theorem get_output_schema_spec_upstream_key :
    (⟨none, [⟨"id", .Int⟩, ⟨"name", .String⟩], [0]⟩ : Schema).PrimaryIndexValid ∧
      ¬ ∃ e, (⟨⟨"films", none⟩⟩ : CacheSinkFactory).get_output_schema 0
        ⟨none, [⟨"id", .Int⟩, ⟨"name", .String⟩], [0]⟩ = .error e :=
  have hvalid : (⟨none, [⟨"id", .Int⟩, ⟨"name", .String⟩], [0]⟩ : Schema).PrimaryIndexValid := by
    decide
  ⟨hvalid, fun herr => by
    simpa [create_primary_indexes, List.mapM.loop] using (get_output_schema_spec 0 ⟨⟨"films", none⟩⟩ _ hvalid).1.mp herr⟩

/-- A configured key that names one field twice, over a schema with no
    upstream key, is accepted with a repeated position. -/
theorem get_output_schema_repeats_configured_name :
    (⟨none, [⟨"id", .Int⟩], []⟩ : Schema).PrimaryIndexValid ∧
      (⟨⟨"films", some ⟨["id", "id"]⟩⟩⟩ : CacheSinkFactory).get_output_schema 0
        ⟨none, [⟨"id", .Int⟩], []⟩ =
        .ok (⟨some ⟨0, 1⟩, [⟨"id", .Int⟩], [0, 0]⟩, [.SortedInverted [0]]) ∧
      ¬ [0, 0].Nodup :=
  ⟨by decide, rfl, by decide⟩

/-- The output schema is a fixed point of the factory: given back as the
    upstream schema, it is accepted and yields itself and the same secondary
    indexes. -/
theorem get_output_schema_idempotent (self : CacheSinkFactory) {schema schema' : Schema}
    {indexes : List IndexDefinition}
    (h : self.get_output_schema DEFAULT_PORT_HANDLE schema = .ok (schema', indexes)) :
    self.get_output_schema DEFAULT_PORT_HANDLE schema' = .ok (schema', indexes) := by
  obtain ⟨configured, hcreate, h⟩ := Except.bind_eq_ok_iff.mp h
  obtain ⟨index, hresolve, h⟩ := Except.bind_eq_ok_iff.mp h
  cases h
  simp only [CacheSinkFactory.get_output_schema]
  rw [create_primary_indexes_of_fields _ schema, hcreate, Except.ok_bind,
    resolve_primary_index_fixed hresolve, Except.ok_bind]
  all_goals rfl

/-- The output schema of an endpoint keyed upstream on its first field. -/
theorem get_output_schema_idempotent_films :
    (⟨⟨"films", none⟩⟩ : CacheSinkFactory).get_output_schema 0
        ⟨none, [⟨"id", .Int⟩, ⟨"name", .String⟩], [0]⟩ =
        .ok (⟨some ⟨0, 1⟩, [⟨"id", .Int⟩, ⟨"name", .String⟩], [0]⟩,
          [.SortedInverted [0], .SortedInverted [1], .FullText 1]) ∧
      (⟨⟨"films", none⟩⟩ : CacheSinkFactory).get_output_schema 0
        ⟨some ⟨0, 1⟩, [⟨"id", .Int⟩, ⟨"name", .String⟩], [0]⟩ =
        .ok (⟨some ⟨0, 1⟩, [⟨"id", .Int⟩, ⟨"name", .String⟩], [0]⟩,
          [.SortedInverted [0], .SortedInverted [1], .FullText 1]) :=
  have h : (⟨⟨"films", none⟩⟩ : CacheSinkFactory).get_output_schema 0
      ⟨none, [⟨"id", .Int⟩, ⟨"name", .String⟩], [0]⟩ =
      .ok (⟨some ⟨0, 1⟩, [⟨"id", .Int⟩, ⟨"name", .String⟩], [0]⟩,
        [.SortedInverted [0], .SortedInverted [1], .FullText 1]) := rfl
  ⟨h, get_output_schema_idempotent 0 _ h⟩

end dozer_orchestrator.sinks
