import Dozer.Cache.RecordDatabase

open dozer_types.types dozer_cache

namespace dozer_orchestrator.sinks

/-- The `index` section of an endpoint's configuration; its default has no
    primary key. -/
structure ApiIndex where
  primary_key : List String
  deriving DecidableEq, Repr, Inhabited

@[simp] theorem ApiIndex.default_primary_key : (default : ApiIndex).primary_key = [] := rfl

structure ApiEndpoint where
  name : String
  index : Option ApiIndex
  deriving DecidableEq, Repr

/-- The operation type the sink matches on. sinks.rs is written against a
    version of `dozer_types` whose `Operation` has three arms and no batch
    insert. -/
inductive Operation where
  | Delete (old : Record)
  | Insert (new : Record)
  | Update (old new : Record)
  deriving DecidableEq, Repr

/-- Modelled from the spec: the API crate's `types_helper`, which builds the
    operation of a notification, is not in the repository's sources. Per the
    spec a notification's event is `Insert{id, record}`, `Update{old, new}`
    or `Delete{old, version}`; the sink puts a delete's version in its old
    record. -/
inductive Event where
  | Insert (id : Nat) (new : Record)
  | Update (old new : Record)
  | Delete (old : Record)
  deriving DecidableEq, Repr

def map_insert_operation (_endpoint_name : String) (record : Record) (id : Nat) : Event :=
  .Insert id record

def map_update_operation (_endpoint_name : String) (old new : Record) : Event :=
  .Update old new

def map_delete_operation (_endpoint_name : String) (old : Record) : Event :=
  .Delete old

inductive ApiEvent where
  | Op (op : Event)
  deriving DecidableEq, Repr

/-- A message on the notifier channel. -/
structure PipelineResponse where
  endpoint : String
  api_event : Option ApiEvent
  deriving DecidableEq, Repr

/-- The sending side of the notifier channel: every message it has accepted,
    oldest first, how many of them are still queued, its capacity (`none`
    when unbounded) and whether every receiver is gone. -/
structure Sender where
  sent : List PipelineResponse
  len : Nat
  cap : Option Nat
  disconnected : Bool
  deriving DecidableEq, Repr

inductive TrySendError where
  | Full (msg : PipelineResponse)
  | Disconnected (msg : PipelineResponse)
  deriving DecidableEq, Repr

/-- `Sender::try_send`: never blocks; a disconnected or full channel hands
    the message back in the error. -/
def Sender.try_send (self : Sender) (msg : PipelineResponse) : Except TrySendError Sender :=
  if self.disconnected then .error (.Disconnected msg)
  else if self.cap.any (· ≤ self.len) then .error (.Full msg)
  else .ok { self with sent := self.sent ++ [msg], len := self.len + 1 }

theorem Sender.try_send_ok {self self' : Sender} {msg : PipelineResponse}
    (h : self.try_send msg = .ok self') : self'.sent = self.sent ++ [msg] := by
  unfold try_send at h
  split_ifs at h
  cases h
  rfl

/-- A receiver takes the oldest queued message. -/
def Sender.recv (self : Sender) : Sender := { self with len := self.len - 1 }

/-- The sink errors the modelled sink code raises; each wraps the cache's
    error. -/
inductive SinkError where
  | CacheOpenFailed (name : String) (e : CacheError)
  | CacheCreateFailed (name : String) (e : CacheError)
  | CacheCreateAliasFailed (alias_name real_name : String) (source : CacheError)
  | CacheInsertFailed (endpoint : String) (e : CacheError)
  | CacheUpdateFailed (endpoint : String) (e : CacheError)
  | CacheDeleteFailed (endpoint : String) (e : CacheError)
  | CacheCountFailed (endpoint : String) (e : CacheError)
  | CacheCommitTransactionFailed (endpoint : String) (e : CacheError)
  deriving DecidableEq, Repr

/-- The table or endpoint a sink error names: for a failed alias, the alias
    (the field `alias` of the source, a keyword in Lean). -/
def SinkError.endpoint : SinkError → String
  | .CacheOpenFailed name _ | .CacheCreateFailed name _ => name
  | .CacheCreateAliasFailed alias_name _ _ => alias_name
  | .CacheInsertFailed endpoint _ | .CacheUpdateFailed endpoint _ | .CacheDeleteFailed endpoint _
  | .CacheCountFailed endpoint _ | .CacheCommitTransactionFailed endpoint _ => endpoint

/-- The execution errors the modelled sink code raises. -/
inductive ExecutionError where
  | FieldNotFound (name : String)
  | MismatchPrimaryKey (endpoint_name : String) (expected actual : List String)
  | SchemaNotInitialized
  | SinkError (e : SinkError)
  | InternalError (e : TrySendError)
  deriving DecidableEq, Repr

end dozer_orchestrator.sinks
