import Dozer.Window.Processor
import Mathlib.Data.Multiset.Bind

open dozer_types.types

namespace dozer_sql.window

variable {ε : Type} (DEFAULT_PORT_HANDLE : PortHandle)

/-- A multiset of rows after one delta: `none` when a delete or an update
    names a row that is not there. Both the processor's input rows and the
    rows downstream of it change this way. -/
def apply_operation (rows : Multiset Record) : Operation → Option (Multiset Record)
  | .Insert new => some (new ::ₘ rows)
  | .Delete old => if old ∈ rows then some (rows.erase old) else none
  | .Update old new => if old ∈ rows then some (new ::ₘ rows.erase old) else none
  | .BatchInsert new => some (rows + ↑new)

/-- Deltas applied in order; `none` once one removes an absent row. -/
def replay (rows : Multiset Record) : List Operation → Option (Multiset Record)
  | [] => some rows
  | op :: ops => (apply_operation rows op).bind (replay · ops)

theorem replay_append (rows : Multiset Record) (ops ops' : List Operation) :
    replay rows (ops ++ ops') = (replay rows ops).bind (replay · ops') := by
  induction ops generalizing rows with
  | nil => rfl
  | cons op ops ih => cases h : apply_operation rows op <;> simp [replay, h, ih]

theorem replay_inserts (rows : Multiset Record) (records : List Record) :
    replay rows (records.map .Insert) = some (rows + ↑records) := by
  induction records generalizing rows with
  | nil => simp [replay]
  | cons r records ih =>
    simp only [List.map_cons, replay, apply_operation, Option.some_bind, ih]
    rw [← Multiset.cons_coe, Multiset.add_cons, Multiset.cons_add]

theorem replay_deletes (rows : Multiset Record) (records : List Record) (hle : ↑records ≤ rows) :
    replay rows (records.map .Delete) = some (rows - ↑records) := by
  induction records generalizing rows with
  | nil => simp [replay]
  | cons r records ih =>
    rw [← Multiset.cons_coe] at hle ⊢
    have hr : r ∈ rows := Multiset.mem_of_le hle (Multiset.mem_cons_self r _)
    have hrest : ↑records ≤ rows.erase r := by
      rwa [← Multiset.cons_erase hr, Multiset.cons_le_cons_iff] at hle
    simp only [List.map_cons, replay, apply_operation, if_pos hr, Option.some_bind, ih _ hrest]
    rw [Multiset.sub_cons]

/-- The window rows of a row, none where its assignment fails. -/
def WindowType.rows (window : WindowType ε) (record : Record) : Multiset Record :=
  match window.execute record with
  | .ok records => ↑records
  | .error _ => 0

theorem WindowType.extend_each_rows (window : WindowType ε) {new records : List Record}
    (h : window.extend_each [] new = .ok records) :
    (↑records : Multiset Record) = (↑new : Multiset Record).bind window.rows := by
  induction new generalizing records with
  | nil => cases h; simp
  | cons record new ih =>
    simp only [WindowType.extend_each] at h
    rw [← Multiset.cons_coe, Multiset.cons_bind, WindowType.rows]
    cases hrow : window.execute record with
    | error e => simp [hrow] at h
    | ok rows =>
      rw [hrow] at h
      dsimp only at h ⊢
      rw [WindowType.extend_each_eq] at h
      cases hrest : window.extend_each [] new with
      | error e => simp [hrest, Except.map] at h
      | ok rest =>
        simp only [hrest, Except.map, Except.ok.injEq] at h
        simp [← h, ← ih hrest]

theorem sent_as_ops (mk : Record → Operation) (records : List Record) :
    (sent_as DEFAULT_PORT_HANDLE mk records).map (fun sent => sent.1.op) = records.map mk := by
  simp [sent_as]

theorem WindowType.bind_rows_erase (window : WindowType ε) {live : Multiset Record} {old : Record}
    (hold : old ∈ live) : live.bind window.rows = window.rows old + (live.erase old).bind window.rows := by
  conv_lhs => rw [← Multiset.cons_erase hold]
  rw [Multiset.cons_bind]

/-- What the processor has forwarded, applied in order to no rows, removes
    no absent row and gives the window rows of every live input row. -/
def ReplaysTo (self : WindowProcessor ε) (live : Multiset Record) (fw : Forwarder) : Prop :=
  replay 0 (fw.sent.map fun sent => sent.1.op) = some (live.bind self.window.rows)

/-- The states reached from no input and an empty forwarder through
    operations that `process` accepts, where every delete or update names a
    live input row: the live input rows and the forwarder. -/
inductive Reachable (self : WindowProcessor ε) : Multiset Record → Forwarder → Prop
  | init : Reachable self 0 ⟨[]⟩
  | step {live live' : Multiset Record} {fw fw' : Forwarder} (from_port : PortHandle)
      (op : OperationWithId) :
      Reachable self live fw → apply_operation live op.op = some live' →
      self.process DEFAULT_PORT_HANDLE from_port op fw = (.ok (), fw') → Reachable self live' fw'

section step

variable {self : WindowProcessor ε} {live live' : Multiset Record} {fw fw' : Forwarder}

private theorem replays_deletes (hinv : ReplaysTo self live fw) {old : Record} (hold : old ∈ live)
    {records : List Record} (hrows : self.window.execute old = .ok records) :
    replay 0 ((fw.sent ++ sent_as DEFAULT_PORT_HANDLE .Delete records).map fun sent => sent.1.op) =
      some ((live.erase old).bind self.window.rows) := by
  have hsplit := self.window.bind_rows_erase hold
  simp only [WindowType.rows, hrows] at hsplit
  rw [List.map_append, replay_append, hinv, Option.some_bind, sent_as_ops,
    replay_deletes _ _ (hsplit ▸ Multiset.le_add_right _ _), hsplit, add_tsub_cancel_left]

/-- One operation that `process` accepts, whose delete or update names a
    live input row, keeps the forwarded deltas in step with the live rows. -/
theorem ReplaysTo.step (hinv : ReplaysTo self live fw) (from_port : PortHandle)
    (op : OperationWithId) (hlive : apply_operation live op.op = some live')
    (hprocess : self.process DEFAULT_PORT_HANDLE from_port op fw = (.ok (), fw')) :
    ReplaysTo self live' fw' := by
  obtain ⟨id, op⟩ := op
  cases op with
  | Insert new =>
    rw [process_insert] at hprocess
    cases hnew : self.window.execute new with
    | error e => simp [hnew] at hprocess
    | ok records =>
      simp only [hnew, Prod.mk.injEq, true_and] at hprocess
      simp only [apply_operation, Option.some.injEq] at hlive
      subst hprocess hlive
      rw [ReplaysTo, List.map_append, replay_append, hinv, Option.some_bind, sent_as_ops,
        replay_inserts, Multiset.cons_bind, WindowType.rows, hnew, add_comm]
  | Delete old =>
    rw [process_delete] at hprocess
    simp only [apply_operation] at hlive
    split_ifs at hlive with hold
    cases hold' : self.window.execute old with
    | error e => simp [hold'] at hprocess
    | ok records =>
      simp only [hold', Prod.mk.injEq, true_and] at hprocess
      simp only [Option.some.injEq] at hlive
      subst hprocess hlive
      exact replays_deletes DEFAULT_PORT_HANDLE hinv hold hold'
  | Update old new =>
    rw [process_update] at hprocess
    simp only [apply_operation] at hlive
    split_ifs at hlive with hold
    cases hold' : self.window.execute old with
    | error e => simp [hold'] at hprocess
    | ok olds =>
      cases hnew : self.window.execute new with
      | error e => simp [hold', hnew] at hprocess
      | ok news =>
        simp only [hold', hnew, Prod.mk.injEq, true_and] at hprocess
        simp only [Option.some.injEq] at hlive
        subst hprocess hlive
        rw [ReplaysTo, List.map_append, replay_append,
          replays_deletes DEFAULT_PORT_HANDLE hinv hold hold', Option.some_bind, sent_as_ops,
          replay_inserts, Multiset.cons_bind, WindowType.rows, hnew, add_comm]
  | BatchInsert new =>
    rw [process_batch_insert] at hprocess
    cases hnew : self.window.extend_each [] new with
    | error e => simp [hnew] at hprocess
    | ok records =>
      simp only [hnew, Prod.mk.injEq, true_and] at hprocess
      simp only [apply_operation, Option.some.injEq] at hlive
      subst hprocess hlive
      rw [ReplaysTo, Forwarder.send, List.map_append, replay_append, hinv, Option.some_bind]
      simp [replay, apply_operation, Multiset.add_bind, WindowType.extend_each_rows _ hnew]

end step

/-- Over every run of the processor in which each operation is accepted and
    each delete or update names a live input row, the deltas forwarded so far,
    applied in order to no rows, never remove an absent row and give exactly
    the window rows of the live input rows. -/
theorem reachable_forwarded_replay {self : WindowProcessor ε} {live : Multiset Record}
    {fw : Forwarder} (hreach : Reachable DEFAULT_PORT_HANDLE self live fw) :
    replay 0 (fw.sent.map fun sent => sent.1.op) = some (live.bind self.window.rows) := by
  induction hreach with
  | init => simp [replay]
  | step from_port op _ hlive hprocess ih => exact ReplaysTo.step DEFAULT_PORT_HANDLE ih from_port op hlive hprocess

/-- A run through a window that puts every row in two windows: two rows
    inserted, the first updated to a third, and the second deleted. -/
theorem reachable_forwarded_replay_update_delete :
    let self : WindowProcessor Unit := ⟨⟨fun r => .ok [r, r]⟩⟩
    let a := Record.new none []
    let b := Record.new none [.Null]
    let c := Record.new none [.Null, .Null]
    let live := (c ::ₘ (b ::ₘ {a}).erase a).erase b
    let fw : Forwarder := ⟨sent_as 0 .Insert [a, a] ++ sent_as 0 .Insert [b, b] ++
      sent_as 0 .Delete [a, a] ++ sent_as 0 .Insert [c, c] ++ sent_as 0 .Delete [b, b]⟩
    Reachable 0 self live fw ∧
      replay 0 (fw.sent.map fun sent => sent.1.op) = some (live.bind self.window.rows) := by
  intro self a b c live fw
  have hinsert_a : Reachable 0 self {a} ⟨sent_as 0 .Insert [a, a]⟩ :=
    .step 0 (.without_id (.Insert a)) .init rfl (by simp [OperationWithId.without_id, process_insert])
  have hinsert_b : Reachable 0 self (b ::ₘ {a}) ⟨sent_as 0 .Insert [a, a] ++ sent_as 0 .Insert [b, b]⟩ :=
    .step 0 (.without_id (.Insert b)) hinsert_a rfl
      (by simp [OperationWithId.without_id, process_insert])
  have hupdate : Reachable 0 self (c ::ₘ (b ::ₘ {a}).erase a) ⟨sent_as 0 .Insert [a, a] ++
      sent_as 0 .Insert [b, b] ++ sent_as 0 .Delete [a, a] ++ sent_as 0 .Insert [c, c]⟩ :=
    .step 0 (.without_id (.Update a c)) hinsert_b rfl
      (by simp [OperationWithId.without_id, process_update])
  have hdelete : Reachable 0 self live fw :=
    .step 0 (.without_id (.Delete b)) hupdate rfl
      (by simp [OperationWithId.without_id, process_delete, fw])
  exact ⟨hdelete, reachable_forwarded_replay 0 hdelete⟩

end dozer_sql.window
