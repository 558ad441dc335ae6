import Dozer.Sink.Process

open dozer_types.types dozer_cache

namespace dozer_orchestrator.sinks

variable {σ : Type} (get_primary_key : List Nat → List Field → Key) (c : RwCache σ)

/-- The contract's reading of an operation on the map from primary keys to
    records: an insert binds the new record's key, an update unbinds the old
    record's key and binds the new one's, a delete unbinds the old key. -/
def Operation.apply_by_key (key : Record → Key) (m : Key → Option Record) :
    Operation → Key → Option Record
  | .Insert new => Function.update m (key new) (some new)
  | .Update old new => Function.update (Function.update m (key old) none) (key new) (some new)
  | .Delete old => Function.update m (key old) none

/-- A subscriber's reading of a notification on the same map. -/
def Event.apply (key : Record → Key) (m : Key → Option Record) : Event → Key → Option Record
  | .Insert _ new => Function.update m (key new) (some new)
  | .Update old new => Function.update (Function.update m (key old) none) (key new) (some new)
  | .Delete old => Function.update m (key old) none

/-- Notifications replayed in order on a map. -/
def replay_notifications (key : Record → Key) (m : Key → Option Record)
    (messages : List PipelineResponse) : Key → Option Record :=
  messages.foldl (fun m message =>
    match message.api_event with
    | some (.Op event) => event.apply key m
    | none => m) m

theorem replay_notifications_snoc (key : Record → Key) (m : Key → Option Record)
    (messages : List PipelineResponse) (endpoint : String) (event : Event) :
    replay_notifications key m (messages ++ [⟨endpoint, some (.Op event)⟩]) =
      event.apply key (replay_notifications key m messages) := by
  simp [replay_notifications]

/-- The values of the records of a map. -/
def values_of (m : Key → Option Record) : Key → Option (List Field) :=
  fun k => (m k).map (·.values)

@[simp] theorem values_of_update (m : Key → Option Record) (k : Key) (r : Option Record) :
    values_of (Function.update m k r) = Function.update (values_of m) k (r.map (·.values)) := by
  funext k'
  by_cases hk : k' = k
  · subst hk; simp [values_of]
  · simp [values_of, hk]

/-- The runs of a cache sink: calls of `process` that return `Ok`, and
    receives on its notifier channel by a subscriber. -/
inductive CacheSink.Run : CacheSink σ → List Operation → CacheSink σ → Prop
  | nil (self : CacheSink σ) : CacheSink.Run self [] self
  | process {self self' self'' : CacheSink σ} {ops : List Operation} {op : Operation} :
      CacheSink.Run self ops self' → self'.process get_primary_key c op = (.ok (), self'') →
      CacheSink.Run self (ops ++ [op]) self''
  | recv {self self' : CacheSink σ} {ops : List Operation} :
      CacheSink.Run self ops self' →
      CacheSink.Run self ops { self' with notifier := self'.notifier.map Sender.recv }

/-- Whether a call of `process` that returned `result` made its cache call:
    it returned `Ok`, or it failed only at notifying. -/
def cache_call_applied : Except ExecutionError Unit → Bool
  | .ok () => true
  | .error (.InternalError _) => true
  | .error _ => false

/-- The operations of the calls whose result passes `p`, in order. -/
def ops_where (p : Except ExecutionError Unit → Bool)
    (calls : List (Operation × Except ExecutionError Unit)) : List Operation :=
  (calls.filter (p ·.2)).map Prod.fst

@[simp] theorem ops_where_snoc (p : Except ExecutionError Unit → Bool)
    (calls : List (Operation × Except ExecutionError Unit)) (op : Operation)
    (result : Except ExecutionError Unit) :
    ops_where p (calls ++ [(op, result)]) = ops_where p calls ++ if p result then [op] else [] := by
  by_cases h : p result <;> simp [ops_where, List.filter_append, List.filter_cons, h]

/-- The calls of `process` on a sink, each with what it returned, whether
    `Ok` or not, and the receives on its notifier channel. -/
inductive CacheSink.Calls :
    CacheSink σ → List (Operation × Except ExecutionError Unit) → CacheSink σ → Prop
  | nil (self : CacheSink σ) : CacheSink.Calls self [] self
  | process {self self' : CacheSink σ} {calls : List (Operation × Except ExecutionError Unit)}
      (op : Operation) : CacheSink.Calls self calls self' →
      CacheSink.Calls self (calls ++ [(op, (self'.process get_primary_key c op).1)])
        (self'.process get_primary_key c op).2
  | recv {self self' : CacheSink σ} {calls : List (Operation × Except ExecutionError Unit)} :
      CacheSink.Calls self calls self' →
      CacheSink.Calls self calls { self' with notifier := self'.notifier.map Sender.recv }

theorem ops_where_map_ok (p : Except ExecutionError Unit → Bool) (hp : p (.ok ()) = true)
    (ops : List Operation) : ops_where p (ops.map fun op => (op, .ok ())) = ops := by
  induction ops with
  | nil => rfl
  | cons op ops ih => simpa [ops_where, List.filter_cons, hp] using ih

/-- A run of calls that all return `Ok` is a sequence of calls. -/
theorem CacheSink.Run.calls {self self' : CacheSink σ} {ops : List Operation}
    (hrun : CacheSink.Run get_primary_key c self ops self') :
    CacheSink.Calls get_primary_key c self (ops.map fun op => (op, .ok ())) self' := by
  induction hrun with
  | nil => exact .nil _
  | @process self' self'' ops op _ hprocess ih =>
    have hcall := CacheSink.Calls.process op ih
    rw [hprocess] at hcall
    simpa using hcall
  | recv _ ih => exact .recv ih

theorem values_of_apply_by_key_congr (key : Record → Key) {m m' : Key → Option Record}
    (h : values_of m = values_of m') (op : Operation) :
    values_of (op.apply_by_key key m) = values_of (op.apply_by_key key m') := by
  cases op <;> simp [Operation.apply_by_key, h]

section contract

variable {get_primary_key c} {view : σ → Key → Option Record} {name : String} {schema : Schema}

/-- One cache call of an operation's kind moves a cache that keeps the map
    contract as the contract reads the operation, up to the records' tags,
    and exactly as a subscriber reads the event describing the call; on any
    map, that event and the operation agree up to the records' tags. -/
theorem Applied.map_step (hcontract : c.MapContract get_primary_key view name schema)
    {s s' : σ} {indexes : List IndexDefinition} {op : Operation} {event : Event}
    (hschema : c.get_schema_and_indexes_by_name s name = .ok (schema, indexes))
    (happlied : Applied get_primary_key c schema s s' op event) :
    let key := fun r : Record => get_primary_key schema.primary_index r.values
    c.get_schema_and_indexes_by_name s' name = .ok (schema, indexes) ∧
      values_of (view s') = values_of (op.apply_by_key key (view s)) ∧
      view s' = event.apply key (view s) ∧
      ∀ m, values_of (event.apply key m) = values_of (op.apply_by_key key m) := by
  cases op with
  | Insert new =>
    obtain ⟨id, new', hinsert, rfl⟩ := happlied
    obtain ⟨hvalues, hview, hschema'⟩ := hcontract.insert hschema hinsert
    refine ⟨hschema', ?_, ?_, fun m => ?_⟩ <;>
      simp [hview, Operation.apply_by_key, Event.apply, hvalues]
  | Update old new =>
    obtain ⟨version, new', hupdate, rfl⟩ := happlied
    obtain ⟨hvalues, hview, hschema'⟩ := hcontract.update hschema hupdate
    refine ⟨hschema', ?_, ?_, fun m => ?_⟩ <;>
      simp [hview, Operation.apply_by_key, Event.apply, hvalues]
  | Delete old =>
    obtain ⟨version, hdelete, rfl⟩ := happlied
    obtain ⟨hview, hschema'⟩ := hcontract.delete hschema hdelete
    refine ⟨hschema', ?_, ?_, fun m => ?_⟩ <;> simp [hview, Operation.apply_by_key, Event.apply]

/-- What a sequence of calls keeps: the endpoint, the schema the cache reports
    for it, the records' values as the operations of the calls that made
    their cache call give them, and a log whose replay gives the values of
    the operations of the calls that returned `Ok`, and gives the cache's map
    itself while no notification has failed. -/
private theorem calls_invariant (hcontract : c.MapContract get_primary_key view name schema)
    {self self' : CacheSink σ} {calls : List (Operation × Except ExecutionError Unit)}
    {indexes : List IndexDefinition} (hname : self.api_endpoint.name = name)
    (hschema : c.get_schema_and_indexes_by_name self.cache name = .ok (schema, indexes))
    (hcalls : CacheSink.Calls get_primary_key c self calls self') :
    let key := fun r : Record => get_primary_key schema.primary_index r.values
    self'.api_endpoint = self.api_endpoint ∧
      c.get_schema_and_indexes_by_name self'.cache name = .ok (schema, indexes) ∧
      values_of (view self'.cache) =
        values_of ((ops_where cache_call_applied calls).foldl (Operation.apply_by_key key)
          (view self.cache)) ∧
      ∀ n, self.notifier = some n → ∃ n' sent, self'.notifier = some n' ∧ n'.sent = n.sent ++ sent ∧
        values_of (replay_notifications key (view self.cache) sent) =
          values_of ((ops_where Except.toBool calls).foldl (Operation.apply_by_key key)
            (view self.cache)) ∧
        ((∀ call ∈ calls, ∀ t, call.2 ≠ .error (.InternalError t)) →
          replay_notifications key (view self.cache) sent = view self'.cache) := by
  intro key
  induction hcalls with
  | nil => exact ⟨rfl, hschema, rfl, fun n hn => ⟨n, [], hn, by simp, rfl, fun _ => rfl⟩⟩
  | @process self' calls op _ ih =>
    obtain ⟨hendpoint, hschema', hvalues, hlog⟩ := ih
    have hearlier {P : Operation × Except ExecutionError Unit → Prop}
        (h : ∀ call ∈ calls ++ [(op, (self'.process get_primary_key c op).1)], P call) :
        ∀ call ∈ calls, P call := fun call hcall => h call (List.mem_append_left _ hcall)
    obtain ⟨hendpoint', ⟨hfailed, hsend, hcache, hnotifier⟩ |
        ⟨found, indexes', event, hfound, happlied, hout⟩⟩ :=
      CacheSink.process_cases get_primary_key c self' op
    · -- failed before the cache call: nothing changes
      have happlied : cache_call_applied (self'.process get_primary_key c op).1 = false := by
        revert hfailed hsend
        rcases (self'.process get_primary_key c op).1 with (_ | _ | _ | _ | _ | t) | ⟨⟨⟩⟩ <;>
          simp [cache_call_applied]
      have hok : (self'.process get_primary_key c op).1.toBool = false := by
        revert hfailed
        rcases (self'.process get_primary_key c op).1 with _ | ⟨⟨⟩⟩ <;> simp [Except.toBool]
      refine ⟨hendpoint'.trans hendpoint, hcache ▸ hschema', ?_, fun n hn => ?_⟩
      · simpa [happlied, hcache] using hvalues
      · obtain ⟨n', sent, hn', hsent, hreplay, hexact⟩ := hlog n hn
        refine ⟨n', sent, hnotifier.trans hn', hsent, by simpa [hok] using hreplay, fun hno => ?_⟩
        rw [hcache, hexact (hearlier hno)]
    rw [hendpoint, hname, hschema'] at hfound
    obtain ⟨rfl, rfl⟩ := Prod.mk.inj (Except.ok.inj hfound)
    obtain ⟨hnext, hvalues', hview, hevent⟩ := happlied.map_step hcontract hschema'
    refine ⟨hendpoint'.trans hendpoint, hnext, ?_, fun n hn => ?_⟩
    · have happ : cache_call_applied (self'.process get_primary_key c op).1 = true := by
        rcases hout with ⟨t, ht, -⟩ | ⟨ht, -⟩ <;> rw [ht] <;> rfl
      rw [ops_where_snoc, if_pos happ, List.foldl_append, List.foldl_cons, List.foldl_nil,
        hvalues']
      exact values_of_apply_by_key_congr key hvalues op
    · obtain ⟨n', sent, hn', hsent, hreplay, hexact⟩ := hlog n hn
      rcases hout with ⟨t, ht, hnotifier⟩ | ⟨ht, hsent'⟩
      · -- the notification failed: the log is as before, and no longer the cache's
        refine ⟨n', sent, hnotifier.trans hn', hsent, ?_, fun hno => ?_⟩
        · rw [ht, ops_where_snoc]
          simpa [Except.toBool] using hreplay
        · exact absurd ht (hno _ (List.mem_append_right _ (List.mem_singleton_self _)) t)
      · -- the notification describing the cache call was appended
        rw [hn', Option.map_some'] at hsent'
        obtain ⟨n'', hn'', hsent''⟩ := Option.map_eq_some'.mp hsent'
        refine ⟨n'', sent ++ [⟨self'.api_endpoint.name, some (.Op event)⟩], hn'', ?_, ?_,
          fun hno => ?_⟩
        · rw [hsent'', hsent, List.append_assoc]
        · have hok : (self'.process get_primary_key c op).1.toBool = true := by rw [ht]; rfl
          rw [replay_notifications_snoc, hevent, ops_where_snoc, if_pos hok, List.foldl_append,
            List.foldl_cons, List.foldl_nil]
          exact values_of_apply_by_key_congr key hreplay op
        · rw [replay_notifications_snoc, hexact (hearlier hno), hview]
  | recv _ ih =>
    obtain ⟨hendpoint, hschema', hvalues, hlog⟩ := ih
    refine ⟨hendpoint, hschema', hvalues, fun n hn => ?_⟩
    obtain ⟨n', sent, hn', hsent, hlog'⟩ := hlog n hn
    exact ⟨n'.recv, sent, by simp [hn'], hsent, hlog'⟩

/-- Over every run of the sink in which each call of `process` returns `Ok`,
    on a cache that keeps the map contract for its endpoint: the records'
    values are those the operations give when applied in order by primary
    key, and the notifications sent during the run, replayed on the initial
    map, give the cache's map. -/
theorem run_cache_and_notifications (hcontract : c.MapContract get_primary_key view name schema)
    {self self' : CacheSink σ} {ops : List Operation} {indexes : List IndexDefinition}
    (hname : self.api_endpoint.name = name)
    (hschema : c.get_schema_and_indexes_by_name self.cache name = .ok (schema, indexes))
    (hrun : CacheSink.Run get_primary_key c self ops self') :
    let key := fun r : Record => get_primary_key schema.primary_index r.values
    values_of (view self'.cache) = values_of (ops.foldl (Operation.apply_by_key key) (view self.cache)) ∧
      ∀ n, self.notifier = some n → ∃ n' sent, self'.notifier = some n' ∧ n'.sent = n.sent ++ sent ∧
        replay_notifications key (view self.cache) sent = view self'.cache := by
  obtain ⟨-, -, hvalues, hlog⟩ := calls_invariant hcontract hname hschema hrun.calls
  rw [ops_where_map_ok _ rfl] at hvalues
  refine ⟨hvalues, fun n hn => ?_⟩
  obtain ⟨n', sent, hn', hsent, -, hexact⟩ := hlog n hn
  refine ⟨n', sent, hn', hsent, hexact fun call hcall t => ?_⟩
  obtain ⟨op, -, rfl⟩ := List.mem_map.mp hcall
  exact fun h => nomatch h

/-- The run of the source's test of an update that changes the primary key:
    a film inserted, then updated to a new id, on the spec's cache keyed by
    the film's id and with an unbounded notifier. -/
theorem run_cache_and_notifications_key_change :
    let get_primary_key : List Nat → List Field → Key := fun index values =>
      index.map fun i => match values.get? i with
        | some (.Int id) => id.toNat.toUInt8
        | _ => 0
    let schema : Schema := ⟨some ⟨1, 1⟩, [⟨"film_id", .Int⟩, ⟨"film_name", .String⟩], [0]⟩
    let c := MapCache.rwCache get_primary_key
    let old := Record.new (some ⟨1, 1⟩) [.Int 1, .String "Film name old"]
    let new := Record.new (some ⟨1, 1⟩) [.Int 2, .String "Film name updated"]
    let sink : CacheSink MapCache :=
      ⟨⟨"films", schema, [], .empty, 0⟩, 0, ⟨"films", none⟩, some ⟨[], 0, none, false⟩⟩
    let inserted := (sink.process get_primary_key c (.Insert old)).2
    let updated := (inserted.process get_primary_key c (.Update old new)).2
    let key := fun r : Record => get_primary_key schema.primary_index r.values
    CacheSink.Run get_primary_key c sink [.Insert old, .Update old new] updated ∧
      values_of updated.cache.view =
        values_of ([Operation.Insert old, .Update old new].foldl (Operation.apply_by_key key)
          sink.cache.view) ∧
      ∀ n, sink.notifier = some n → ∃ n' sent, updated.notifier = some n' ∧ n'.sent = n.sent ++ sent ∧
        replay_notifications key sink.cache.view sent = updated.cache.view := by
  intro get_primary_key schema c old new sink inserted updated key
  have hinsert : sink.process get_primary_key c (.Insert old) = (.ok (), inserted) := rfl
  have hupdate : inserted.process get_primary_key c (.Update old new) = (.ok (), updated) := rfl
  have hrun : CacheSink.Run get_primary_key c sink [.Insert old, .Update old new] updated :=
    .process (.process (.nil sink) hinsert) hupdate
  have hschema : c.get_schema_and_indexes_by_name sink.cache "films" = .ok (schema, []) := rfl
  exact ⟨hrun, run_cache_and_notifications (MapCache.map_contract get_primary_key "films" schema)
    rfl hschema hrun⟩

/-- Over every sequence of calls of `process`, whatever each returns, on a
    cache that keeps the map contract for the sink's endpoint: the records'
    values are those of the operations whose cache call was made (the call
    returned `Ok` or failed only at notifying), applied in order by key; the
    notifications sent, replayed on the initial map, give the values of the
    operations whose call returned `Ok`, and give the cache's map itself while
    no notification has failed. A subscriber misses exactly the updates whose
    notification failed. -/
theorem calls_cache_and_notifications (hcontract : c.MapContract get_primary_key view name schema)
    {self self' : CacheSink σ} {calls : List (Operation × Except ExecutionError Unit)}
    {indexes : List IndexDefinition} (hname : self.api_endpoint.name = name)
    (hschema : c.get_schema_and_indexes_by_name self.cache name = .ok (schema, indexes))
    (hcalls : CacheSink.Calls get_primary_key c self calls self') :
    let key := fun r : Record => get_primary_key schema.primary_index r.values
    values_of (view self'.cache) =
        values_of ((ops_where cache_call_applied calls).foldl (Operation.apply_by_key key)
          (view self.cache)) ∧
      ∀ n, self.notifier = some n → ∃ n' sent, self'.notifier = some n' ∧ n'.sent = n.sent ++ sent ∧
        values_of (replay_notifications key (view self.cache) sent) =
          values_of ((ops_where Except.toBool calls).foldl (Operation.apply_by_key key)
            (view self.cache)) ∧
        ((∀ call ∈ calls, ∀ t, call.2 ≠ .error (.InternalError t)) →
          replay_notifications key (view self.cache) sent = view self'.cache) :=
  have hinv := calls_invariant hcontract hname hschema hcalls
  ⟨hinv.2.2.1, hinv.2.2.2⟩

/-- An insert into the spec's cache whose notification finds the channel
    full: the record is cached, and the log still replays to the empty map. -/
theorem calls_cache_and_notifications_full_channel :
    let sink : CacheSink MapCache :=
      ⟨⟨"films", ⟨none, [], []⟩, [], .empty, 0⟩, 0, ⟨"films", none⟩, some ⟨[], 0, some 0, false⟩⟩
    let op := Operation.Insert (Record.new none [])
    let step := sink.process (fun _ _ => []) (MapCache.rwCache fun _ _ => []) op
    CacheSink.Calls (fun _ _ => []) (MapCache.rwCache fun _ _ => []) sink [(op, step.1)] step.2 ∧
      cache_call_applied step.1 = true ∧ step.1.toBool = false ∧
      values_of step.2.cache.view =
        values_of ((ops_where cache_call_applied [(op, step.1)]).foldl
          (Operation.apply_by_key fun _ => []) sink.cache.view) ∧
      ∀ n, sink.notifier = some n → ∃ n' sent, step.2.notifier = some n' ∧ n'.sent = n.sent ++ sent ∧
        values_of (replay_notifications (fun _ => []) sink.cache.view sent) =
          values_of ((ops_where Except.toBool [(op, step.1)]).foldl
            (Operation.apply_by_key fun _ => []) sink.cache.view) ∧
        ((∀ call ∈ [(op, step.1)], ∀ t, call.2 ≠ .error (.InternalError t)) →
          replay_notifications (fun _ => []) sink.cache.view sent = step.2.cache.view) :=
  have hcalls : CacheSink.Calls (fun _ _ => []) (MapCache.rwCache fun _ _ => [])
      ⟨⟨"films", ⟨none, [], []⟩, [], .empty, 0⟩, 0, ⟨"films", none⟩, some ⟨[], 0, some 0, false⟩⟩
      [(.Insert (Record.new none []), _)] _ := .process _ (.nil _)
  have hschema : (MapCache.rwCache fun _ _ => []).get_schema_and_indexes_by_name
      ⟨"films", ⟨none, [], []⟩, [], .empty, 0⟩ "films" = .ok (⟨none, [], []⟩, []) := rfl
  ⟨hcalls, rfl, rfl, calls_cache_and_notifications (MapCache.map_contract _ "films" ⟨none, [], []⟩)
    rfl hschema hcalls⟩

end contract

end dozer_orchestrator.sinks
