import Dozer.Types
import Mathlib.Data.List.Nodup

open dozer_types.types

namespace lmdb

/-- The error codes of the LMDB calls the record store makes. -/
inductive Error where
  | KeyExist
  | NotFound
  deriving DecidableEq, Repr

/-- The content of one LMDB database as a read-write transaction sees it:
    its key/value pairs, each key bound at most once. -/
structure Database (κ ν : Type) where
  entries : List (κ × ν)
  nodup : (entries.map Prod.fst).Nodup

variable {κ ν : Type}

def Database.empty : Database κ ν := ⟨[], List.nodup_nil⟩

@[simp] theorem Database.empty_entries : (Database.empty : Database κ ν).entries = [] := rfl

def Database.keys (db : Database κ ν) : List κ := db.entries.map Prod.fst

private theorem nodup_keys_append {db : Database κ ν} {key : κ} (hfresh : key ∉ db.keys)
    (value : ν) : ((db.entries ++ [(key, value)]).map Prod.fst).Nodup := by
  simpa [List.nodup_append, Database.keys] using And.intro db.nodup hfresh

variable [DecidableEq κ]

instance [DecidableEq ν] : DecidableEq (Database κ ν) := fun a b =>
  decidable_of_iff (a.entries = b.entries) (by cases a; cases b; simp)

def Database.get (db : Database κ ν) (key : κ) : Option ν :=
  (db.entries.find? (·.1 = key)).map Prod.snd

private theorem nodup_keys_filter (db : Database κ ν) (key : κ) :
    ((db.entries.filter (·.1 ≠ key)).map Prod.fst).Nodup :=
  db.nodup.sublist ((List.filter_sublist _).map _)

/-- `put` with `WriteFlags::NO_OVERWRITE`: binds a key that is not bound
    yet, and fails with `KeyExist` otherwise. -/
def Database.put_no_overwrite (db : Database κ ν) (key : κ) (value : ν) :
    Except Error (Database κ ν) :=
  if h : key ∈ db.keys then .error .KeyExist
  else .ok ⟨db.entries ++ [(key, value)], nodup_keys_append h value⟩

/-- `del` without a value: unbinds a bound key, and fails with `NotFound`
    otherwise. -/
def Database.del (db : Database κ ν) (key : κ) : Except Error (Database κ ν) :=
  if key ∈ db.keys then .ok ⟨db.entries.filter (·.1 ≠ key), nodup_keys_filter db key⟩
  else .error .NotFound

theorem Database.get_put_no_overwrite {db db' : Database κ ν} {key : κ} {value : ν}
    (h : db.put_no_overwrite key value = .ok db') :
    db'.get = Function.update db.get key (some value) := by
  unfold put_no_overwrite at h
  split_ifs at h with hfresh
  cases h
  funext k
  by_cases hk : k = key
  · subst hk
    have hnone : db.entries.find? (·.1 = k) = none := by
      rw [List.find?_eq_none]
      rintro ⟨a, b⟩ hab hak
      simp only [decide_eq_true_eq] at hak
      subst hak
      exact hfresh (List.mem_map_of_mem Prod.fst hab)
    simp [get, List.find?_append, hnone]
  · simp [get, List.find?_append, hk, Ne.symm hk]

theorem Database.get_del {db db' : Database κ ν} {key : κ} (h : db.del key = .ok db') :
    db'.get = Function.update db.get key none := by
  unfold del at h
  split_ifs at h
  cases h
  funext k
  by_cases hk : k = key
  · subst hk
    simp [get, List.find?_eq_none]
  · simp only [get, Function.update_noteq hk, List.find?_filter]
    congr 2
    funext e
    by_cases he : e.1 = k <;> simp [he, hk]

structure MDB_stat where
  ms_entries : Nat

def lmdb_stat (db : Database κ ν) : MDB_stat := ⟨db.entries.length⟩

end lmdb

namespace dozer_cache

inductive QueryError where
  | GetValue (e : lmdb.Error)
  | InsertValue (e : lmdb.Error)
  | DeleteValue (e : lmdb.Error)
  deriving DecidableEq, Repr

/-- The cache errors raised by the modelled code and by the spec's cache. -/
inductive CacheError where
  | QueryError (e : QueryError)
  | PrimaryKeyNotFound
  | PrimaryKeyExists
  | SchemaNotFound (name : String)
  deriving DecidableEq, Repr

/-- `RecordDatabase::insert`. The id is the database's entry count, which
    the code writes as 8 big-endian bytes (kept here as their `u64` value),
    and the record is put under it with `NO_OVERWRITE`. -/
def RecordDatabase.insert (txn : lmdb.Database UInt64 Record) (record : Record) :
    Except CacheError (UInt64 × lmdb.Database UInt64 Record) :=
  let id := UInt64.ofNat (lmdb.lmdb_stat txn).ms_entries
  match txn.put_no_overwrite id record with
  | .error e => .error (.QueryError (.InsertValue e))
  | .ok txn => .ok (id, txn)

/-- Modelled from the spec: `query::helper::get` is not in the repository's
    sources; per the spec, a lookup that fails with `NotFound` if absent. -/
def RecordDatabase.get (txn : lmdb.Database UInt64 Record) (id : UInt64) :
    Except CacheError Record :=
  match txn.get id with
  | some record => .ok record
  | none => .error (.QueryError (.GetValue .NotFound))

def RecordDatabase.delete (txn : lmdb.Database UInt64 Record) (id : UInt64) :
    Except CacheError (lmdb.Database UInt64 Record) :=
  match txn.del id with
  | .error e => .error (.QueryError (.DeleteValue e))
  | .ok txn => .ok txn

/-- Deletes break the entry-count ids. After two inserts and a delete of id
    `0` the count is `1`, the id of the surviving entry, so the next insert
    fails with `KeyExist`; after one insert and its delete, the next insert
    hands out id `0` a second time. -/
theorem insert_after_delete_collides_or_reuses :
    (do
      let (_, txn) ← RecordDatabase.insert .empty (Record.new none [])
      let (_, txn) ← RecordDatabase.insert txn (Record.new none [])
      let txn ← RecordDatabase.delete txn 0
      RecordDatabase.insert txn (Record.new none [])) =
        .error (.QueryError (.InsertValue .KeyExist)) ∧
    (do
      let (first, txn) ← RecordDatabase.insert .empty (Record.new none [])
      let txn ← RecordDatabase.delete txn first
      let (second, _) ← RecordDatabase.insert txn (Record.new none [])
      pure (first, second)) = (.ok (0, 0) : Except CacheError (UInt64 × UInt64)) :=
  ⟨rfl, rfl⟩

/-- Records inserted in turn into one database, with no delete between
    them: the ids handed out, and the database after the last insert. -/
def RecordDatabase.insert_each (txn : lmdb.Database UInt64 Record) :
    List Record → Except CacheError (List UInt64 × lmdb.Database UInt64 Record)
  | [] => .ok ([], txn)
  | record :: records => do
    let (id, txn) ← RecordDatabase.insert txn record
    let (ids, txn) ← RecordDatabase.insert_each txn records
    pure (id :: ids, txn)

theorem RecordDatabase.insert_of_keys {txn : lmdb.Database UInt64 Record} {n : Nat}
    (hkeys : txn.keys = (List.range n).map UInt64.ofNat) (hn : n < UInt64.size) (record : Record) :
    ∃ txn', RecordDatabase.insert txn record = .ok (UInt64.ofNat n, txn') ∧
      txn'.entries = txn.entries ++ [(UInt64.ofNat n, record)] := by
  have hcount : txn.entries.length = n := by
    simpa [lmdb.Database.keys] using congrArg List.length hkeys
  have hfresh : UInt64.ofNat n ∉ txn.keys := by
    rw [hkeys]
    simp only [List.mem_map, List.mem_range, not_exists, not_and]
    intro m hm heq
    have hval := congrArg UInt64.toNat heq
    rw [UInt64.toNat_ofNat_of_lt (by omega), UInt64.toNat_ofNat_of_lt hn] at hval
    omega
  simp [RecordDatabase.insert, lmdb.lmdb_stat, hcount, lmdb.Database.put_no_overwrite, hfresh]

theorem RecordDatabase.insert_each_of_keys {txn : lmdb.Database UInt64 Record} {n : Nat}
    (hkeys : txn.keys = (List.range n).map UInt64.ofNat) (records : List Record)
    (hlen : n + records.length ≤ UInt64.size) :
    ∃ txn', RecordDatabase.insert_each txn records =
        .ok ((List.range' n records.length).map UInt64.ofNat, txn') ∧
      txn'.entries = txn.entries ++ ((List.range' n records.length).map UInt64.ofNat).zip records := by
  induction records generalizing txn n with
  | nil => exact ⟨txn, rfl, by simp⟩
  | cons record records ih =>
    simp only [List.length_cons] at hlen
    obtain ⟨txn₁, hinsert, hentries₁⟩ := insert_of_keys hkeys (by omega) record
    have hkeys₁ : txn₁.keys = (List.range (n + 1)).map UInt64.ofNat := by
      simp [lmdb.Database.keys, hentries₁, List.range_succ, ← hkeys]
    obtain ⟨txn', hrest, hentries'⟩ := ih hkeys₁ (by omega)
    refine ⟨txn', by simp [insert_each, hinsert, hrest, List.range'_succ], ?_⟩
    simp [hentries', hentries₁, List.range'_succ]

/-- Without deletes the entry count is a fresh id every time: records
    inserted one after another into an empty database are all accepted, get
    the ids `0, 1, 2, ...`, which are distinct, and are stored each under its
    id. -/
theorem insert_each_fresh_ids (records : List Record) (hlen : records.length ≤ UInt64.size) :
    ∃ txn, RecordDatabase.insert_each .empty records =
        .ok ((List.range records.length).map UInt64.ofNat, txn) ∧
      ((List.range records.length).map UInt64.ofNat).Nodup ∧
      txn.entries = ((List.range records.length).map UInt64.ofNat).zip records := by
  have hkeys : (lmdb.Database.empty : lmdb.Database UInt64 Record).keys =
      (List.range 0).map UInt64.ofNat := rfl
  obtain ⟨txn, heach, hentries⟩ := RecordDatabase.insert_each_of_keys hkeys records (by omega)
  rw [← List.range_eq_range', lmdb.Database.empty_entries, List.nil_append] at hentries
  rw [← List.range_eq_range'] at heach
  have hids : txn.keys = (List.range records.length).map UInt64.ofNat := by
    rw [lmdb.Database.keys, hentries, List.map_fst_zip _ _ (by simp)]
  exact ⟨txn, heach, hids ▸ txn.nodup, hentries⟩

/-- Two records inserted into an empty database get ids `0` and `1`. -/
theorem insert_each_fresh_ids_two :
    [Record.new none [], Record.new none [.Null]].length ≤ UInt64.size ∧
      ∃ txn, RecordDatabase.insert_each .empty [Record.new none [], Record.new none [.Null]] =
        .ok ([0, 1], txn) :=
  have hlen : [Record.new none [], Record.new none [.Null]].length ≤ UInt64.size := by decide
  ⟨hlen, (insert_each_fresh_ids _ hlen).imp fun _ h => h.1⟩

/-- The databases reached from an empty one by inserts and deletes that
    succeed, with the ids the inserts handed out, in order. -/
inductive RecordDatabase.Run : lmdb.Database UInt64 Record → List UInt64 → Prop
  | empty : RecordDatabase.Run .empty []
  | insert {txn txn' : lmdb.Database UInt64 Record} {ids : List UInt64} {id : UInt64}
      (record : Record) : RecordDatabase.Run txn ids →
      RecordDatabase.insert txn record = .ok (id, txn') → RecordDatabase.Run txn' (ids ++ [id])
  | delete {txn txn' : lmdb.Database UInt64 Record} {ids : List UInt64} (id : UInt64) :
      RecordDatabase.Run txn ids → RecordDatabase.delete txn id = .ok txn' →
      RecordDatabase.Run txn' ids

section run

variable {txn txn' : lmdb.Database UInt64 Record} {ids : List UInt64} {id : UInt64}

theorem RecordDatabase.insert_ok {record : Record}
    (h : RecordDatabase.insert txn record = .ok (id, txn')) :
    id = UInt64.ofNat txn.entries.length ∧ id ∉ txn.keys ∧
      txn'.entries = txn.entries ++ [(id, record)] := by
  by_cases hlive : UInt64.ofNat txn.entries.length ∈ txn.keys
  · simp [RecordDatabase.insert, lmdb.lmdb_stat, lmdb.Database.put_no_overwrite, hlive] at h
  · simp only [RecordDatabase.insert, lmdb.lmdb_stat, lmdb.Database.put_no_overwrite, hlive,
      dif_neg, not_false_eq_true, Except.ok.injEq, Prod.mk.injEq] at h
    obtain ⟨rfl, rfl⟩ := h
    exact ⟨rfl, hlive, rfl⟩

theorem RecordDatabase.delete_ok (h : RecordDatabase.delete txn id = .ok txn') :
    txn'.entries = txn.entries.filter (·.1 ≠ id) := by
  unfold RecordDatabase.delete lmdb.Database.del at h
  split_ifs at h
  cases h
  rfl

/-- What a run keeps, with the number of ids handed out as the peak: these
    ids are the counts below the peak, the entry count stays at most the
    peak, and every live id is one of them. -/
structure RecordDatabase.IdHistory (txn : lmdb.Database UInt64 Record) (ids : List UInt64)
    (peak : Nat) : Prop where
  peak_le : peak ≤ ids.length
  count_le : txn.entries.length ≤ peak
  mem_ids : ∀ id, id ∈ ids ↔ ∃ k < peak, id = UInt64.ofNat k
  keys_mem : ∀ id ∈ txn.keys, id ∈ ids

theorem RecordDatabase.IdHistory.insert {peak : Nat} {record : Record}
    (hist : RecordDatabase.IdHistory txn ids peak)
    (h : RecordDatabase.insert txn record = .ok (id, txn')) :
    ∃ peak', RecordDatabase.IdHistory txn' (ids ++ [id]) peak' := by
  obtain ⟨rfl, -, hentries⟩ := RecordDatabase.insert_ok h
  have hcount : txn'.entries.length = txn.entries.length + 1 := by simp [hentries]
  have hlen : (ids ++ [UInt64.ofNat txn.entries.length]).length = ids.length + 1 := by simp
  have hkeys : ∀ x ∈ txn'.keys, x ∈ ids ++ [UInt64.ofNat txn.entries.length] := by
    simp only [lmdb.Database.keys, hentries, List.map_append, List.mem_append, List.mem_singleton,
      List.map_cons, List.map_nil]
    exact fun x hx => hx.imp_left (hist.keys_mem x)
  have hbound := hist.peak_le
  rcases Nat.lt_or_ge txn.entries.length peak with hlt | hge
  · -- an id handed out before: the ids and the peak stay
    have hold : UInt64.ofNat txn.entries.length ∈ ids := (hist.mem_ids _).mpr ⟨_, hlt, rfl⟩
    refine ⟨peak, by omega, by omega, fun x => ?_, hkeys⟩
    rw [List.mem_append, List.mem_singleton, ← hist.mem_ids]
    exact or_iff_left_of_imp (· ▸ hold)
  · -- the count is the peak: a new id, and the peak moves up
    have hpeak : txn.entries.length = peak := le_antisymm hist.count_le hge
    refine ⟨peak + 1, by omega, by omega, fun x => ?_, hkeys⟩
    simp only [List.mem_append, List.mem_singleton, hist.mem_ids, Nat.lt_succ_iff_lt_or_eq,
      or_and_right, exists_or, exists_eq_left, hpeak]

theorem RecordDatabase.IdHistory.delete {peak : Nat} (hist : RecordDatabase.IdHistory txn ids peak)
    (h : RecordDatabase.delete txn id = .ok txn') : RecordDatabase.IdHistory txn' ids peak := by
  have hentries := RecordDatabase.delete_ok h
  refine ⟨hist.peak_le, ?_, hist.mem_ids, fun x hx => hist.keys_mem x ?_⟩
  · exact hentries ▸ (List.length_filter_le _ _).trans hist.count_le
  · simp only [lmdb.Database.keys, hentries, List.mem_map, List.mem_filter] at hx ⊢
    obtain ⟨e, ⟨he, -⟩, rfl⟩ := hx
    exact ⟨e, he, rfl⟩

theorem RecordDatabase.Run.id_history (hrun : RecordDatabase.Run txn ids) :
    ∃ peak, RecordDatabase.IdHistory txn ids peak := by
  induction hrun with
  | empty => exact ⟨0, le_rfl, le_rfl, by simp, by simp [lmdb.Database.keys]⟩
  | insert record _ h ih =>
    obtain ⟨peak, hist⟩ := ih
    exact hist.insert h
  | delete id _ h ih =>
    obtain ⟨peak, hist⟩ := ih
    exact ⟨peak, hist.delete h⟩

end run

/-- Over any run of inserts and deletes that succeed, from an empty database
    and with fewer than 2^64 ids handed out: every live id was handed out by
    an insert, and the next insert's id, the entry count, is a new one exactly
    when every id handed out so far is below the count; then the insert
    succeeds. Otherwise it fails if the old id is live and hands it out again
    if not. -/
theorem insert_fresh_iff_ids_below_count {txn : lmdb.Database UInt64 Record}
    {ids : List UInt64} (hrun : RecordDatabase.Run txn ids) (hlen : ids.length < UInt64.size) :
    (∀ id ∈ txn.keys, id ∈ ids) ∧
      (UInt64.ofNat txn.entries.length ∉ ids ↔ ∀ id ∈ ids, id.toNat < txn.entries.length) ∧
      (UInt64.ofNat txn.entries.length ∉ ids → ∀ record, ∃ txn',
        RecordDatabase.insert txn record = .ok (UInt64.ofNat txn.entries.length, txn')) := by
  obtain ⟨peak, hist⟩ := hrun.id_history
  have hpeak : peak < UInt64.size := lt_of_le_of_lt hist.peak_le hlen
  have htoNat : ∀ k < peak, (UInt64.ofNat k).toNat = k := fun k hk =>
    UInt64.toNat_ofNat_of_lt (by omega)
  refine ⟨hist.keys_mem, ⟨fun hnew x hx => ?_, fun hbelow hold => ?_⟩, fun hnew record => ?_⟩
  · obtain ⟨k, hk, rfl⟩ := (hist.mem_ids x).mp hx
    have hcount : ¬ txn.entries.length < peak := fun hlt =>
      hnew ((hist.mem_ids _).mpr ⟨_, hlt, rfl⟩)
    rw [htoNat k hk]
    omega
  · have hcount := hbelow _ hold
    rw [UInt64.toNat_ofNat_of_lt (by have := hist.count_le; omega)] at hcount
    exact lt_irrefl _ hcount
  · have hfresh : UInt64.ofNat txn.entries.length ∉ txn.keys := fun hlive =>
      hnew (hist.keys_mem _ hlive)
    simp [RecordDatabase.insert, lmdb.lmdb_stat, lmdb.Database.put_no_overwrite, hfresh]

/-- One insert and the delete of its id bring the count back to `0`, an id
    handed out already: the next id is not new, and not every id is below
    the count. -/
theorem insert_fresh_iff_ids_below_count_reused :
    RecordDatabase.Run .empty [0] ∧ [(0 : UInt64)].length < UInt64.size ∧
      (UInt64.ofNat (lmdb.Database.empty : lmdb.Database UInt64 Record).entries.length ∉ [0] ↔
        ∀ id ∈ [(0 : UInt64)],
          id.toNat < (lmdb.Database.empty : lmdb.Database UInt64 Record).entries.length) :=
  have hinsert : RecordDatabase.insert .empty (Record.new none []) =
      .ok (0, ⟨[(0, Record.new none [])], by decide⟩) := rfl
  have hdelete : RecordDatabase.delete ⟨[(0, Record.new none [])], by decide⟩ 0 = .ok .empty := rfl
  have hrun : RecordDatabase.Run .empty [0] := .delete 0 (.insert _ .empty hinsert) hdelete
  ⟨hrun, by decide, (insert_fresh_iff_ids_below_count hrun (by decide)).2.1⟩

end dozer_cache
