import Mathlib.Data.List.Basic

section except

variable {ε α β : Type}

@[simp] theorem Except.pure_eq_ok (a : α) : (pure a : Except ε α) = Except.ok a := rfl

@[simp] theorem Except.error_bind (e : ε) (f : α → Except ε β) :
    (Except.error e >>= f) = Except.error e := rfl

@[simp] theorem Except.ok_bind (a : α) (f : α → Except ε β) : (Except.ok a >>= f) = f a := rfl

theorem Except.bind_eq_ok_iff {x : Except ε α} {f : α → Except ε β} {b : β} :
    x >>= f = .ok b ↔ ∃ a, x = .ok a ∧ f a = .ok b := by
  cases x <;> simp

theorem Except.bind_eq_error_iff {x : Except ε α} {f : α → Except ε β} {e : ε} :
    x >>= f = .error e ↔ x = .error e ∨ ∃ a, x = .ok a ∧ f a = .error e := by
  cases x <;> simp

end except

namespace dozer_types.types

/-- The column types a schema can declare. -/
inductive FieldType where
  | UInt | Int | Float | Boolean | String | Text | Binary | Decimal | Timestamp | Date | Bson | Point
  deriving DecidableEq, Repr, Inhabited

/-- A column value. The payloads of the numeric, temporal and spatial
    variants are kept as bit patterns or integer encodings: no modelled
    function looks inside a field, only compares fields. -/
inductive Field where
  | UInt (value : UInt64)
  | Int (value : Int)
  | Float (bits : UInt64)
  | Boolean (value : Bool)
  | String (value : String)
  | Text (value : String)
  | Binary (bytes : List UInt8)
  | Decimal (mantissa : Int) (scale : Nat)
  | Timestamp (millis : Int)
  | Date (days : Int)
  | Bson (bytes : List UInt8)
  | Point (x y : UInt64)
  | Null
  deriving DecidableEq, Repr

structure SchemaIdentifier where
  id : UInt32
  version : UInt16
  deriving DecidableEq, Repr

structure FieldDefinition where
  name : String
  typ : FieldType
  deriving DecidableEq, Repr, Inhabited

/-- A schema: field definitions, the positions forming the primary key
    (possibly none) and an identifier. -/
structure Schema where
  identifier : Option SchemaIdentifier
  fields : List FieldDefinition
  primary_index : List Nat
  deriving DecidableEq, Repr

/-- The schema invariant of the data model: primary-key positions are in
    bounds and pairwise distinct. The type does not enforce it; the sink
    factory is where it is supposed to be kept. -/
def Schema.PrimaryIndexValid (schema : Schema) : Prop :=
  (∀ i ∈ schema.primary_index, i < schema.fields.length) ∧ schema.primary_index.Nodup

instance (schema : Schema) : Decidable schema.PrimaryIndexValid :=
  inferInstanceAs (Decidable (_ ∧ _))

structure Record where
  schema_id : Option SchemaIdentifier
  values : List Field
  version : Option UInt32
  deriving DecidableEq, Repr

/-- `Record::new(schema_id, values)`: no version until a cache assigns one. -/
def Record.new (schema_id : Option SchemaIdentifier) (values : List Field) : Record :=
  ⟨schema_id, values, none⟩

inductive IndexDefinition where
  | SortedInverted (fields : List Nat)
  | FullText (field : Nat)
  deriving DecidableEq, Repr

/-- Every field position an index definition refers to is below `n`. -/
def IndexDefinition.InBounds (n : Nat) : IndexDefinition → Prop
  | .SortedInverted fields => ∀ i ∈ fields, i < n
  | .FullText field => field < n

instance (n : Nat) : (d : IndexDefinition) → Decidable (d.InBounds n)
  | .SortedInverted fields => inferInstanceAs (Decidable (∀ i ∈ fields, i < n))
  | .FullText field => inferInstanceAs (Decidable (field < n))

/-- The change-data-capture delta, as the SQL processors receive it. -/
inductive Operation where
  | Delete (old : Record)
  | Insert (new : Record)
  | Update (old new : Record)
  | BatchInsert (new : List Record)
  deriving DecidableEq, Repr

abbrev PortHandle := UInt16

structure OpIdentifier where
  txid : UInt64
  seq_in_tx : UInt64
  deriving DecidableEq, Repr

structure OperationWithId where
  id : Option OpIdentifier
  op : Operation
  deriving DecidableEq, Repr

def OperationWithId.without_id (op : Operation) : OperationWithId := ⟨none, op⟩

@[simp] theorem OperationWithId.without_id_op (op : Operation) :
    (OperationWithId.without_id op).op = op := rfl

end dozer_types.types
