import Dozer.Types

open dozer_types.types

namespace dozer_sql.window

/-- The window strategy (`WindowType` of the window operator, which is not in
    the repository's sources), reduced to the one call the processor makes:
    `execute`, from a record to the rows of the windows it falls in. -/
structure WindowType (ε : Type) where
  execute : Record → Except ε (List Record)

inductive PipelineError (ε : Type) where
  | WindowError (e : ε)
  deriving DecidableEq, Repr

/-- The channel forwarder handed to `process`, as the record of every
    `send` made to it, oldest first. -/
structure Forwarder where
  sent : List (OperationWithId × PortHandle)
  deriving DecidableEq, Repr

def Forwarder.send (fw : Forwarder) (op : OperationWithId) (port : PortHandle) : Forwarder :=
  ⟨fw.sent ++ [(op, port)]⟩

/-- `WindowProcessor`, as `process` reads it: its window strategy. The
    processor's id, which `process` never reads, is left out. -/
structure WindowProcessor (ε : Type) where
  window : WindowType ε

variable {ε : Type} (DEFAULT_PORT_HANDLE : PortHandle)

/-- The loop of the `BatchInsert` arm: `records.extend(execute(record)?)` for
    each row in turn, stopping at the first failure. -/
def WindowType.extend_each (window : WindowType ε) (records : List Record) :
    List Record → Except ε (List Record)
  | [] => .ok records
  | record :: new =>
    match window.execute record with
    | .error e => .error e
    | .ok rows => window.extend_each (records ++ rows) new

/-- `WindowProcessor::process`. `Update` recurses into `process` for the
    `Delete` of the old row and then for the `Insert` of the new one. -/
def WindowProcessor.process (self : WindowProcessor ε) (_from_port : PortHandle)
    (op : OperationWithId) (fw : Forwarder) : Except (PipelineError ε) Unit × Forwarder :=
  match op with
  | ⟨_, .Delete old⟩ =>
    match self.window.execute old with
    | .error e => (.error (.WindowError e), fw)
    | .ok records =>
      (.ok (), records.foldl
        (fun fw record => fw.send (.without_id (.Delete record)) DEFAULT_PORT_HANDLE) fw)
  | ⟨_, .Insert new⟩ =>
    match self.window.execute new with
    | .error e => (.error (.WindowError e), fw)
    | .ok records =>
      (.ok (), records.foldl
        (fun fw record => fw.send (.without_id (.Insert record)) DEFAULT_PORT_HANDLE) fw)
  | ⟨_, .Update old new⟩ =>
    match self.process DEFAULT_PORT_HANDLE (.without_id (.Delete old)) fw with
    | (.error e, fw) => (.error e, fw)
    | (.ok (), fw) => self.process DEFAULT_PORT_HANDLE (.without_id (.Insert new)) fw
  | ⟨_, .BatchInsert new⟩ =>
    match self.window.extend_each [] new with
    | .error e => (.error (.WindowError e), fw)
    | .ok records =>
      (.ok (), fw.send (.without_id (.BatchInsert records)) DEFAULT_PORT_HANDLE)
termination_by match op.op with
  | .Update .. => 1
  | _ => 0
decreasing_by all_goals simp_wf

/-- The sends of `records`, each wrapped by `mk`, to the default port. -/
def sent_as (mk : Record → Operation) (records : List Record) :
    List (OperationWithId × PortHandle) :=
  records.map fun record => (.without_id (mk record), DEFAULT_PORT_HANDLE)

@[simp] theorem sent_as_append (mk : Record → Operation) (rs rs' : List Record) :
    sent_as DEFAULT_PORT_HANDLE mk (rs ++ rs') =
      sent_as DEFAULT_PORT_HANDLE mk rs ++ sent_as DEFAULT_PORT_HANDLE mk rs' :=
  List.map_append _ _ _

theorem Forwarder.foldl_send (mk : Record → Operation) (records : List Record) (fw : Forwarder) :
    records.foldl (fun fw record => fw.send (.without_id (mk record)) DEFAULT_PORT_HANDLE) fw =
      ⟨fw.sent ++ sent_as DEFAULT_PORT_HANDLE mk records⟩ := by
  induction records generalizing fw with
  | nil => simp [sent_as]
  | cons record records ih =>
    rw [List.foldl_cons, ih]
    simp [Forwarder.send, sent_as]

/-- The accumulator of the batch loop only prefixes its result. -/
theorem WindowType.extend_each_eq (window : WindowType ε) (records new : List Record) :
    window.extend_each records new = (window.extend_each [] new).map (records ++ ·) := by
  induction new generalizing records with
  | nil => simp [WindowType.extend_each, Except.map]
  | cons record new ih =>
    simp only [WindowType.extend_each]
    cases window.execute record with
    | error e => rfl
    | ok rows =>
      dsimp only
      rw [ih, ih ([] ++ rows)]
      cases window.extend_each [] new <;> simp [Except.map]

section spec

variable (self : WindowProcessor ε) (from_port : PortHandle) (id : Option OpIdentifier)
  (fw : Forwarder)

theorem process_delete (old : Record) :
    self.process DEFAULT_PORT_HANDLE from_port ⟨id, .Delete old⟩ fw =
      match self.window.execute old with
      | .error e => (.error (.WindowError e), fw)
      | .ok records => (.ok (), ⟨fw.sent ++ sent_as DEFAULT_PORT_HANDLE .Delete records⟩) := by
  rw [WindowProcessor.process]
  cases self.window.execute old <;> simp [Forwarder.foldl_send]

theorem process_insert (new : Record) :
    self.process DEFAULT_PORT_HANDLE from_port ⟨id, .Insert new⟩ fw =
      match self.window.execute new with
      | .error e => (.error (.WindowError e), fw)
      | .ok records => (.ok (), ⟨fw.sent ++ sent_as DEFAULT_PORT_HANDLE .Insert records⟩) := by
  rw [WindowProcessor.process]
  cases self.window.execute new <;> simp [Forwarder.foldl_send]

/-- An update forwards the deletes of the old row's windows, and then, only
    if the old row was assigned, the inserts of the new row's windows. -/
theorem process_update (old new : Record) :
    self.process DEFAULT_PORT_HANDLE from_port ⟨id, .Update old new⟩ fw =
      match self.window.execute old, self.window.execute new with
      | .error e, _ => (.error (.WindowError e), fw)
      | .ok olds, .error e =>
        (.error (.WindowError e), ⟨fw.sent ++ sent_as DEFAULT_PORT_HANDLE .Delete olds⟩)
      | .ok olds, .ok news =>
        (.ok (), ⟨fw.sent ++ sent_as DEFAULT_PORT_HANDLE .Delete olds ++
          sent_as DEFAULT_PORT_HANDLE .Insert news⟩) := by
  rw [WindowProcessor.process]
  simp only [OperationWithId.without_id, process_delete, process_insert]
  cases self.window.execute old <;> cases self.window.execute new <;> rfl

/-- Where the old row falls in a window and the new row's assignment fails,
    an update returns the error after the old row's delete has been forwarded. -/
theorem process_update_fails_after_forwarding_deletes :
    (⟨⟨fun r => if r.values = [] then .ok [r] else .error ()⟩⟩ : WindowProcessor Unit).process
        0 0 (.without_id (.Update (Record.new none []) (Record.new none [.Null]))) ⟨[]⟩ =
      (.error (.WindowError ()), ⟨[(.without_id (.Delete (Record.new none [])), 0)]⟩) := by
  simp [OperationWithId.without_id, process_update, sent_as, Record.new]

theorem process_batch_insert (new : List Record) :
    self.process DEFAULT_PORT_HANDLE from_port ⟨id, .BatchInsert new⟩ fw =
      match self.window.extend_each [] new with
      | .error e => (.error (.WindowError e), fw)
      | .ok records => (.ok (), fw.send (.without_id (.BatchInsert records)) DEFAULT_PORT_HANDLE) := by
  rw [WindowProcessor.process]

end spec

/-- What a failed operation leaves forwarded, by operation kind: an update
    whose old row was assigned has forwarded exactly the deletes of the old
    row's windows, and every other failed operation has forwarded nothing. -/
theorem process_error_forwards_only_old_deletes (self : WindowProcessor ε)
    (from_port : PortHandle) (op : OperationWithId) (fw : Forwarder) {e : PipelineError ε}
    (herr : (self.process DEFAULT_PORT_HANDLE from_port op fw).1 = .error e) :
    (self.process DEFAULT_PORT_HANDLE from_port op fw).2 =
      match op.op with
      | .Update old _ =>
        match self.window.execute old with
        | .ok olds => ⟨fw.sent ++ sent_as DEFAULT_PORT_HANDLE .Delete olds⟩
        | .error _ => fw
      | .Delete _ | .Insert _ | .BatchInsert _ => fw := by
  obtain ⟨id, op⟩ := op
  revert herr
  cases op with
  | Update old new =>
    dsimp only
    rw [process_update]
    cases self.window.execute old with
    | error _ => exact fun _ => rfl
    | ok olds =>
      cases self.window.execute new with
      | error _ => exact fun _ => rfl
      | ok _ => exact fun herr => by cases herr
  | Delete row | Insert row | BatchInsert row =>
    simp only [process_delete, process_insert, process_batch_insert]
    split
    · exact fun _ => rfl
    · exact fun herr => by cases herr

/-- An update whose old row is assigned and whose new row is not: it fails
    after forwarding the delete of the old row's one window row. -/
theorem process_error_forwards_only_old_deletes_update :
    let self : WindowProcessor Unit := ⟨⟨fun r => if r.values = [] then .ok [r] else .error ()⟩⟩
    let op := OperationWithId.without_id (.Update (Record.new none []) (Record.new none [.Null]))
    (self.process 0 0 op ⟨[]⟩).1 = .error (.WindowError ()) ∧
      (self.process 0 0 op ⟨[]⟩).2 = ⟨[] ++ sent_as 0 .Delete [Record.new none []]⟩ :=
  have herr : (WindowProcessor.process 0
      (⟨⟨fun r => if r.values = [] then .ok [r] else .error ()⟩⟩ : WindowProcessor Unit) 0
      (.without_id (.Update (Record.new none []) (Record.new none [.Null]))) ⟨[]⟩).1 =
        .error (.WindowError ()) := by
    simp [OperationWithId.without_id, process_update, Record.new]
  ⟨herr, process_error_forwards_only_old_deletes 0 _ 0 _ _ herr⟩

/-- The spec's row-by-row reading of a batch: the operations processed one
    after another, stopping at the first error. -/
def WindowProcessor.process_each (self : WindowProcessor ε) :
    List OperationWithId → Forwarder → Except (PipelineError ε) Unit × Forwarder
  | [], fw => (.ok (), fw)
  | op :: ops, fw =>
    match self.process DEFAULT_PORT_HANDLE DEFAULT_PORT_HANDLE op fw with
    | (.error e, fw) => (.error e, fw)
    | (.ok (), fw) => self.process_each ops fw

/-- Inserting the rows of a batch one by one fails with the batch loop's
    first error, and otherwise forwards the rows the batch loop collects. -/
theorem process_each_inserts (self : WindowProcessor ε) (rs : List Record) (fw : Forwarder) :
    match self.window.extend_each [] rs with
    | .error e => (self.process_each DEFAULT_PORT_HANDLE
        (rs.map fun r => .without_id (.Insert r)) fw).1 = .error (.WindowError e)
    | .ok rows => self.process_each DEFAULT_PORT_HANDLE
        (rs.map fun r => .without_id (.Insert r)) fw =
          (.ok (), ⟨fw.sent ++ sent_as DEFAULT_PORT_HANDLE .Insert rows⟩) := by
  induction rs generalizing fw with
  | nil => simp [WindowProcessor.process_each, WindowType.extend_each, sent_as]
  | cons r rs ih =>
    simp only [List.map_cons, WindowProcessor.process_each, OperationWithId.without_id,
      process_insert, WindowType.extend_each]
    cases self.window.execute r with
    | error e => rfl
    | ok rows =>
      have hrest := ih ⟨fw.sent ++ sent_as DEFAULT_PORT_HANDLE .Insert rows⟩
      dsimp only
      rw [WindowType.extend_each_eq]
      cases h : self.window.extend_each [] rs with
      | error e => simpa [h, Except.map, OperationWithId.without_id] using hrest
      | ok rows' => simpa [h, Except.map, OperationWithId.without_id] using hrest

/-- A batch insert fails exactly as inserting its rows one by one would, and
    otherwise forwards one batch of the rows those inserts forward, in order.
    An update forwards what the delete of its old row forwards and, only when
    that delete succeeds, what the insert of its new row forwards: deletes and
    inserts, never an update. -/
theorem process_refines_row_by_row (self : WindowProcessor ε) (from_port : PortHandle)
    (rs : List Record) (old new : Record) (fw : Forwarder) :
    let inserts := rs.map fun r => OperationWithId.without_id (.Insert r)
    let deleteOld := self.process DEFAULT_PORT_HANDLE from_port (.without_id (.Delete old)) ⟨[]⟩
    let insertNew := self.process DEFAULT_PORT_HANDLE from_port (.without_id (.Insert new)) ⟨[]⟩
    let update := self.process DEFAULT_PORT_HANDLE from_port (.without_id (.Update old new)) fw
    ((self.process DEFAULT_PORT_HANDLE from_port (.without_id (.BatchInsert rs)) fw).1 =
        (self.process_each DEFAULT_PORT_HANDLE inserts fw).1 ∧
      ∀ fw', self.process_each DEFAULT_PORT_HANDLE inserts fw = (.ok (), fw') →
        ∃ rows, fw'.sent = fw.sent ++ sent_as DEFAULT_PORT_HANDLE .Insert rows ∧
          self.process DEFAULT_PORT_HANDLE from_port (.without_id (.BatchInsert rs)) fw =
            (.ok (), fw.send (.without_id (.BatchInsert rows)) DEFAULT_PORT_HANDLE)) ∧
    update.2.sent = fw.sent ++ deleteOld.2.sent ++
        (match deleteOld.1 with
         | .ok () => insertNew.2.sent
         | .error _ => []) ∧
    ∀ x ∈ update.2.sent.drop fw.sent.length,
      (∃ r, x.1.op = .Delete r) ∨ (∃ r, x.1.op = .Insert r) := by
  have hbatch := process_each_inserts DEFAULT_PORT_HANDLE self rs fw
  simp only [OperationWithId.without_id, process_batch_insert, process_update, process_delete,
    process_insert] at hbatch ⊢
  refine ⟨?_, ?_⟩
  · cases h : self.window.extend_each [] rs with
    | error e =>
      rw [h] at hbatch
      refine ⟨hbatch.symm, fun fw' heach => ?_⟩
      simp [heach] at hbatch
    | ok rows =>
      rw [h] at hbatch
      refine ⟨by simp [hbatch], fun fw' heach => ⟨rows, ?_, rfl⟩⟩
      rw [hbatch] at heach
      cases heach
      rfl
  · cases self.window.execute old <;> cases self.window.execute new <;> simp [sent_as]
    rintro _ _ (⟨r, -, rfl, -⟩ | ⟨r, -, rfl, -⟩)
    · exact .inl ⟨r, rfl⟩
    · exact .inr ⟨r, rfl⟩

/-- When the old row's assignment fails, an update forwards nothing, not the
    inserts that the new row alone would forward. -/
theorem process_update_skips_inserts_after_failed_delete :
    let window : WindowProcessor Unit :=
      ⟨⟨fun r => if r.values = [] then .error () else .ok [r]⟩⟩
    (window.process 0 0
        (.without_id (.Update (Record.new none []) (Record.new none [.Null]))) ⟨[]⟩).2.sent ≠
      (window.process 0 0 (.without_id (.Delete (Record.new none []))) ⟨[]⟩).2.sent ++
        (window.process 0 0 (.without_id (.Insert (Record.new none [.Null]))) ⟨[]⟩).2.sent := by
  simp [OperationWithId.without_id, process_update, process_delete, process_insert, sent_as,
    Record.new]

end dozer_sql.window
