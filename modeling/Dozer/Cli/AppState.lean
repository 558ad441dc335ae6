import Mathlib.Data.Finset.Option

namespace dozer_cli.ui.app

/-- The errors of the modelled calls of `AppUIState`: no app built yet, a
    temporary directory that cannot be created or closed, and an
    orchestration error, kept as its text. -/
inductive AppUIError where
  | NotInitialized
  | Io
  | OrchestrationError (e : String)
  deriving DecidableEq, Repr

/-- `DozerAndContract`: the built app (its orchestrator, kept abstract as
    `δ`) and its contract (`κ`), absent while none could be created. -/
structure DozerAndContract (δ κ : Type) where
  dozer : δ
  contract : Option κ

/-- The shared state of the app UI server (`AppUIState`): the built app, the
    `run_thread` slot (here the pipeline that its stored
    `ShutdownAndTempDir` shuts down) and the error message. The broadcast
    sender is left out. -/
structure AppUIState (δ κ : Type) where
  dozer : Option (DozerAndContract δ κ)
  run_thread : Option Nat
  error_message : Option String

variable {δ κ : Type}

/-- `AppUIState::new`. -/
def AppUIState.new : AppUIState δ κ := ⟨none, none, none⟩

/-- The body of `build` under the write lock on `dozer`, once `init_config`
    and `init_dozer` have given the app: store it with the contract that
    `create_contract` gave, if any, set the error message to that call's
    error or clear it, and return the call's result. -/
def AppUIState.build (self : AppUIState δ κ) (dozer : δ) (contract : Except String κ) :
    Except AppUIError Unit × AppUIState δ κ :=
  let self := { self with
    dozer := some ⟨dozer, contract.toOption⟩
    error_message := match contract with
      | .error e => some e
      | .ok _ => none }
  ((contract.map fun _ => ()).mapError .OrchestrationError, self)

/-- `create_contract_if_missing` under the write lock on `dozer`: a built
    app with no contract gets the one `create_contract` gives, or the call
    fails with that call's error. -/
def AppUIState.create_contract_if_missing (self : AppUIState δ κ) (contract : Except String κ) :
    Except AppUIError Unit × AppUIState δ κ :=
  match self.dozer with
  | some ⟨dozer, none⟩ =>
    match contract with
    | .ok contract => (.ok (), { self with dozer := some ⟨dozer, some contract⟩ })
    | .error e => (.error (.OrchestrationError e), self)
  | _ => (.ok (), self)

/-- Where a call of `run` is while it holds the read lock on `dozer`: before
    its call of `stop`, after it, or after starting its pipeline, which it
    has not stored in `run_thread` yet. -/
inductive RunStep where
  | locked
  | stopped
  | started (pipeline : Nat)
  deriving DecidableEq, Repr

/-- The server around the shared state: the pipelines started and not yet
    sent their shutdown signal (`unsignalled`, whether or not their thread
    still runs), the pipelines whose thread has not ended (`alive`), how
    many pipelines have been started (the next one's number), and the calls
    of `run` in flight. -/
structure Server (δ κ : Type) where
  state : AppUIState δ κ
  unsignalled : Finset Nat
  alive : Finset Nat
  started : Nat
  runs : Multiset RunStep

/-- The body of `stop` under the write lock on `run_thread`: take the stored
    handle, signal its pipeline to shut down and close its temporary
    directory, which can fail (`close_ok`). The slot is empty either way. -/
def Server.stop (srv : Server δ κ) (close_ok : Bool) : Except AppUIError Unit × Server δ κ :=
  match srv.state.run_thread with
  | none => (.ok (), srv)
  | some p =>
    let srv := { srv with
      state := { srv.state with run_thread := none }
      unsignalled := srv.unsignalled.erase p }
    if close_ok then (.ok (), srv) else (.error .Io, srv)

/-- The free function `run` once `stop` has returned: it spawns the
    pipeline's thread, and the pipeline gets the next number. -/
def Server.start (srv : Server δ κ) : Nat × Server δ κ :=
  (srv.started, { srv with
    unsignalled := insert srv.started srv.unsignalled
    alive := insert srv.started srv.alive
    started := srv.started + 1 })

/-- The end of `run` under the write lock on `run_thread`: signal the
    pipeline of any handle stored since this call's `stop` to shut down, and
    store the new handle. -/
def Server.install (srv : Server δ κ) (p : Nat) : Server δ κ :=
  { srv with
    state := { srv.state with run_thread := some p }
    unsignalled := match srv.state.run_thread with
      | some q => srv.unsignalled.erase q
      | none => srv.unsignalled }

/-- A call of `run` moving from `now` to `next` (`none` once it returns). -/
def Server.advance (srv : Server δ κ) (now : RunStep) (next : Option RunStep) : Server δ κ :=
  { srv with runs := match next with
    | some next => next ::ₘ srv.runs.erase now
    | none => srv.runs.erase now }

section fields

variable (srv : Server δ κ)

@[simp] theorem Server.start_fst : srv.start.1 = srv.started := rfl
@[simp] theorem Server.start_state : srv.start.2.state = srv.state := rfl
@[simp] theorem Server.start_unsignalled : srv.start.2.unsignalled = insert srv.started srv.unsignalled := rfl
@[simp] theorem Server.start_started : srv.start.2.started = srv.started + 1 := rfl
@[simp] theorem Server.start_runs : srv.start.2.runs = srv.runs := rfl

@[simp] theorem Server.install_run_thread (p : Nat) :
    (srv.install p).state.run_thread = some p := rfl
@[simp] theorem Server.install_started (p : Nat) : (srv.install p).started = srv.started := rfl
@[simp] theorem Server.install_runs (p : Nat) : (srv.install p).runs = srv.runs := rfl

@[simp] theorem Server.advance_state (now : RunStep) (next : Option RunStep) :
    (srv.advance now next).state = srv.state := rfl
@[simp] theorem Server.advance_unsignalled (now : RunStep) (next : Option RunStep) :
    (srv.advance now next).unsignalled = srv.unsignalled := rfl
@[simp] theorem Server.advance_started (now : RunStep) (next : Option RunStep) :
    (srv.advance now next).started = srv.started := rfl
@[simp] theorem Server.advance_runs_some (now next : RunStep) :
    (srv.advance now (some next)).runs = next ::ₘ srv.runs.erase now := rfl
@[simp] theorem Server.advance_runs_none (now : RunStep) :
    (srv.advance now none).runs = srv.runs.erase now := rfl

@[simp] theorem Server.stop_state (close_ok : Bool) :
    (srv.stop close_ok).2.state = { srv.state with run_thread := none } := by
  unfold Server.stop
  split
  · next hnone => exact congrArg (fun r => { srv.state with run_thread := r }) hnone
  · cases close_ok <;> rfl

@[simp] theorem Server.stop_runs (close_ok : Bool) : (srv.stop close_ok).2.runs = srv.runs := by
  unfold Server.stop
  split
  · rfl
  · cases close_ok <;> rfl

/-- What stays unsignalled when a handle is stored: all but the pipeline of
    the handle it replaces. -/
theorem Server.mem_install_unsignalled (p r : Nat) :
    r ∈ (srv.install p).unsignalled ↔ r ∈ srv.unsignalled ∧ srv.state.run_thread ≠ some r := by
  simp only [Server.install]
  cases srv.state.run_thread with
  | none => simp
  | some q => simp [Finset.mem_erase, and_comm, eq_comm]

end fields

@[simp] theorem AppUIState.create_contract_if_missing_run_thread (self : AppUIState δ κ)
    (contract : Except String κ) :
    (self.create_contract_if_missing contract).2.run_thread = self.run_thread := by
  unfold AppUIState.create_contract_if_missing
  split
  · cases contract <;> rfl
  · rfl

/-- The server before any call: `AppUIState::new` and no pipeline. -/
def Server.init : Server δ κ := ⟨AppUIState.new, ∅, ∅, 0, 0⟩

/-- One step of the server: a section of a call of `run` that runs without
    an await under a lock, a call of `stop`, a call of `build`, or the first
    section of a schema query, its `create_contract_if_missing`. A call of
    `run` holds the read lock on `dozer` from its first step to its last,
    and `build` and `create_contract_if_missing` hold the write lock, so
    they wait for every call of `run` in flight. A call of `run` on an app
    not built returns `NotInitialized` at once and changes nothing, and so
    does a call of `build` that fails before `create_contract`. A pipeline's
    thread can end at any time: after its shutdown signal, or on its own
    when `run_all` fails and its `unwrap` panics; the thread's handle is
    dropped, so nothing in the shared state sees it end. -/
inductive Server.Step : Server δ κ → Server δ κ → Prop
  | run_lock (srv : Server δ κ) : srv.state.dozer.isSome →
      Server.Step srv { srv with runs := .locked ::ₘ srv.runs }
  | run_stop (srv : Server δ κ) (close_ok : Bool) : RunStep.locked ∈ srv.runs →
      Server.Step srv
        (match srv.stop close_ok with
         | (.ok (), stopped) => stopped.advance .locked (some .stopped)
         | (.error _, stopped) => stopped.advance .locked none)
  | run_start (srv : Server δ κ) : RunStep.stopped ∈ srv.runs →
      Server.Step srv (srv.start.2.advance .stopped (some (.started srv.start.1)))
  | run_start_failed (srv : Server δ κ) : RunStep.stopped ∈ srv.runs →
      Server.Step srv (srv.advance .stopped none)
  | run_install (srv : Server δ κ) (p : Nat) : RunStep.started p ∈ srv.runs →
      Server.Step srv ((srv.install p).advance (.started p) none)
  | stop (srv : Server δ κ) (close_ok : Bool) : Server.Step srv (srv.stop close_ok).2
  | build (srv : Server δ κ) (dozer : δ) (contract : Except String κ) : srv.runs = 0 →
      Server.Step srv { srv with state := (srv.state.build dozer contract).2 }
  | create_contract (srv : Server δ κ) (contract : Except String κ) : srv.runs = 0 →
      Server.Step srv { srv with state := (srv.state.create_contract_if_missing contract).2 }
  | exit (srv : Server δ κ) (p : Nat) : p ∈ srv.alive →
      Server.Step srv { srv with alive := srv.alive.erase p }

/-- The states the server reaches from `Server.init` by any interleaving of
    steps. -/
inductive Server.Reachable : Server δ κ → Prop
  | init : Server.Reachable Server.init
  | step {srv srv' : Server δ κ} : Server.Reachable srv → Server.Step srv srv' → Server.Reachable srv'

/-- Every pipeline not yet signalled is the stored one or one started by a
    call of `run` in flight; the stored one is not signalled, nor the one a
    call in flight started, which is not the stored one and no other call's;
    pipelines are numbered below the count started. -/
structure Server.Inv (srv : Server δ κ) : Prop where
  unsignalled_owned : ∀ p ∈ srv.unsignalled, srv.state.run_thread = some p ∨ RunStep.started p ∈ srv.runs
  stored_unsignalled : ∀ p, srv.state.run_thread = some p → p ∈ srv.unsignalled
  started_unsignalled : ∀ p, RunStep.started p ∈ srv.runs → p ∈ srv.unsignalled
  started_not_stored : ∀ p, RunStep.started p ∈ srv.runs → srv.state.run_thread ≠ some p
  unsignalled_below : ∀ p ∈ srv.unsignalled, p < srv.started
  started_once : ∀ p, srv.runs.count (RunStep.started p) ≤ 1

section inv

variable {srv : Server δ κ}

theorem Server.advance_started_count {now : RunStep} {next : Option RunStep}
    (hnow : ∀ p, now ≠ .started p) (hnext : ∀ p, next ≠ some (.started p)) (p : Nat) :
    (srv.advance now next).runs.count (.started p) = srv.runs.count (.started p) := by
  have herase := Multiset.count_erase_of_ne (hnow p).symm srv.runs
  cases next with
  | none => exact herase
  | some next =>
    have hne : RunStep.started p ≠ next := fun h => hnext p (congrArg some h.symm)
    simpa [Server.advance, Multiset.count_cons_of_ne hne] using herase

/-- The invariant reads the calls in flight only through the pipelines they
    started. -/
theorem Server.Inv.of_runs (hinv : srv.Inv) {runs : Multiset RunStep}
    (hcount : ∀ p, runs.count (.started p) = srv.runs.count (.started p)) :
    ({ srv with runs } : Server δ κ).Inv := by
  have hmem : ∀ p, RunStep.started p ∈ runs ↔ RunStep.started p ∈ srv.runs :=
    fun p => by simp only [← Multiset.count_pos, hcount]
  exact ⟨fun p hp => (hinv.unsignalled_owned p hp).imp_right (hmem p).mpr, hinv.stored_unsignalled,
    fun p hp => hinv.started_unsignalled p ((hmem p).mp hp),
    fun p hp => hinv.started_not_stored p ((hmem p).mp hp), hinv.unsignalled_below,
    fun p => (hcount p).symm ▸ hinv.started_once p⟩

/-- The invariant reads the shared state only through `run_thread`. -/
theorem Server.Inv.of_run_thread (hinv : srv.Inv) {state : AppUIState δ κ}
    (h : state.run_thread = srv.state.run_thread) : ({ srv with state } : Server δ κ).Inv := by
  refine ⟨?_, ?_, hinv.started_unsignalled, ?_, hinv.unsignalled_below, hinv.started_once⟩ <;>
    simp only [h]
  exacts [hinv.unsignalled_owned, hinv.stored_unsignalled, hinv.started_not_stored]

/-- A step that moves a call of `run` between steps that started no
    pipeline keeps the invariant. -/
theorem Server.Inv.advance (hinv : srv.Inv) {now : RunStep} {next : Option RunStep}
    (hnow : ∀ p, now ≠ .started p) (hnext : ∀ p, next ≠ some (.started p)) :
    (srv.advance now next).Inv :=
  hinv.of_runs (Server.advance_started_count hnow hnext)

/-- `stop` shuts down only the stored pipeline and keeps the invariant. -/
theorem Server.Inv.stop (hinv : srv.Inv) (close_ok : Bool) : (srv.stop close_ok).2.Inv := by
  unfold Server.stop
  cases hstored : srv.state.run_thread with
  | none => exact hinv
  | some q =>
    have hinv' : Server.Inv { srv with
        state := { srv.state with run_thread := none }, unsignalled := srv.unsignalled.erase q } := by
      refine ⟨fun p hp => .inr ?_, fun p h => (nomatch h), fun p hp => ?_, fun p _ h => (nomatch h),
        fun p hp => hinv.unsignalled_below p (Finset.mem_of_mem_erase hp), hinv.started_once⟩
      · obtain ⟨hpq, hp⟩ := Finset.mem_erase.mp hp
        exact (hinv.unsignalled_owned p hp).resolve_left fun h => hpq (Option.some.inj (h.symm.trans hstored))
      · exact Finset.mem_erase.mpr ⟨fun hpq => hinv.started_not_stored p hp (hpq ▸ hstored),
          hinv.started_unsignalled p hp⟩
    cases close_ok <;> exact hinv'

/-- Starting a pipeline for a call of `run` that has stopped keeps the
    invariant: the new pipeline's number is fresh. -/
theorem Server.Inv.start (hinv : srv.Inv) :
    (srv.start.2.advance .stopped (some (.started srv.start.1))).Inv := by
  have hfresh : RunStep.started srv.started ∉ srv.runs := fun h =>
    lt_irrefl _ (hinv.unsignalled_below _ (hinv.started_unsignalled _ h))
  have hmem : ∀ p, RunStep.started p ∈ .started srv.started ::ₘ srv.runs.erase .stopped ↔
      p = srv.started ∨ RunStep.started p ∈ srv.runs := fun p => by
    rw [Multiset.mem_cons, Multiset.mem_erase_of_ne (by simp), RunStep.started.injEq]
  simp only [Server.start_fst]
  refine ⟨fun p hp => ?_, fun p h => Finset.mem_insert_of_mem (hinv.stored_unsignalled p h),
    fun p hp => ?_, fun p hp h => ?_, fun p hp => ?_, fun p => ?_⟩
  · rcases Finset.mem_insert.mp hp with rfl | hp
    · exact .inr ((hmem _).mpr (.inl rfl))
    · exact (hinv.unsignalled_owned p hp).imp_right fun h => (hmem p).mpr (.inr h)
  · rcases (hmem p).mp hp with rfl | hp
    · exact Finset.mem_insert_self _ _
    · exact Finset.mem_insert_of_mem (hinv.started_unsignalled p hp)
  · rcases (hmem p).mp hp with rfl | hp
    · exact lt_irrefl _ (hinv.unsignalled_below _ (hinv.stored_unsignalled _ h))
    · exact hinv.started_not_stored p hp h
  · rcases Finset.mem_insert.mp hp with rfl | hp
    · exact Nat.lt_succ_self _
    · exact Nat.lt_succ_of_lt (hinv.unsignalled_below p hp)
  · simp only [Server.advance_runs_some, Server.start_runs]
    by_cases hp : p = srv.started
    · subst hp
      rw [Multiset.count_cons_self, Multiset.count_erase_of_ne (by simp),
        Multiset.count_eq_zero_of_not_mem hfresh]
    · rw [Multiset.count_cons_of_ne (by simpa using hp), Multiset.count_erase_of_ne (by simp)]
      exact hinv.started_once p

/-- Storing the pipeline of a call of `run` in flight keeps the invariant:
    the pipeline it replaces is shut down, and no other call holds the
    stored one. -/
theorem Server.Inv.install (hinv : srv.Inv) {p : Nat} (hp : RunStep.started p ∈ srv.runs) :
    ((srv.install p).advance (.started p) none).Inv := by
  have hgone : RunStep.started p ∉ srv.runs.erase (.started p) := by
    rw [← Multiset.count_pos, Multiset.count_erase_self]
    have := hinv.started_once p
    omega
  have hmem : ∀ r, RunStep.started r ∈ srv.runs.erase (.started p) ↔
      r ≠ p ∧ RunStep.started r ∈ srv.runs := fun r => by
    by_cases hr : r = p
    · subst hr
      simpa using hgone
    · have hne : RunStep.started r ≠ RunStep.started p := by simpa using hr
      rw [Multiset.mem_erase_of_ne hne]
      exact ⟨fun h => ⟨hr, h⟩, And.right⟩
  have hstarted := hinv.started_not_stored p hp
  have hkept := srv.mem_install_unsignalled p
  refine ⟨fun r hr => ?_, fun r h => ?_, fun r hr => ?_, fun r hr h => ?_,
    fun r hr => hinv.unsignalled_below r ((hkept r).mp hr).1, fun r => ?_⟩
  · obtain ⟨hr, hne⟩ := (hkept r).mp hr
    by_cases hrp : p = r
    · exact .inl (congrArg some hrp)
    · exact .inr ((hmem r).mpr ⟨Ne.symm hrp, (hinv.unsignalled_owned r hr).resolve_left hne⟩)
  · cases Option.some.inj h
    exact (hkept p).mpr ⟨hinv.started_unsignalled p hp, hstarted⟩
  · obtain ⟨-, hr⟩ := (hmem r).mp hr
    exact (hkept r).mpr ⟨hinv.started_unsignalled r hr, hinv.started_not_stored r hr⟩
  · exact ((hmem r).mp hr).1 (Option.some.inj h).symm
  · exact (Multiset.count_le_of_le _ (Multiset.erase_le _ _)).trans (hinv.started_once r)

end inv

/-- Every step keeps the invariant. -/
theorem Server.Step.inv {srv srv' : Server δ κ} (hstep : Server.Step srv srv') (hinv : srv.Inv) :
    srv'.Inv := by
  cases hstep with
  | run_lock _ => exact hinv.of_runs fun p => Multiset.count_cons_of_ne (by simp) _
  | run_stop close_ok _ =>
    have hstop := hinv.stop close_ok
    cases hresult : srv.stop close_ok with
    | mk result stopped =>
      rw [hresult] at hstop
      cases result <;> exact hstop.advance (by simp) (by simp)
  | run_start _ => exact hinv.start
  | run_start_failed _ => exact hinv.advance (by simp) (by simp)
  | run_install p hp => exact hinv.install hp
  | stop close_ok => exact hinv.stop close_ok
  | build _ _ _ => exact hinv.of_run_thread rfl
  | create_contract contract _ =>
    exact hinv.of_run_thread (srv.state.create_contract_if_missing_run_thread contract)
  | exit _ _ => exact ⟨hinv.1, hinv.2, hinv.3, hinv.4, hinv.5, hinv.6⟩

theorem Server.Reachable.inv {srv : Server δ κ} (hreach : srv.Reachable) : srv.Inv := by
  induction hreach with
  | init =>
    exact ⟨fun p hp => absurd hp (Finset.not_mem_empty p), fun p h => (nomatch h),
      fun p hp => absurd hp (Multiset.not_mem_zero _), fun p hp => absurd hp (Multiset.not_mem_zero _),
      fun p hp => absurd hp (Finset.not_mem_empty p), fun p => by simp [Server.init]⟩
  | step _ hstep ih => exact hstep.inv ih

/-- A call of `stop` does not signal a pipeline that a call of `run` in
    flight has already started: that pipeline stays unsignalled through
    `stop`, and when the call of `run` then stores it, it is the stored
    pipeline and still not signalled, although `stop` returned after it was
    started. -/
theorem stop_spares_pipeline_in_flight {srv : Server δ κ} (hreach : srv.Reachable) {p : Nat}
    (hp : RunStep.started p ∈ srv.runs) (close_ok : Bool) :
    let stopped := (srv.stop close_ok).2
    let stored := (stopped.install p).advance (.started p) none
    p ∈ stopped.unsignalled ∧ Server.Step stopped stored ∧
      stored.state.run_thread = some p ∧ p ∈ stored.unsignalled := by
  have hinv := (hreach.step (.stop srv close_ok)).inv
  have hp' : RunStep.started p ∈ (srv.stop close_ok).2.runs := by rwa [Server.stop_runs]
  exact ⟨hinv.started_unsignalled p hp', .run_install _ p hp', rfl,
    ((hreach.step (.stop srv close_ok)).step (.run_install _ p hp')).inv.stored_unsignalled p rfl⟩

/-- A call of `stop` made while a call of `run` has started pipeline `0`
    but not stored it. -/
theorem stop_spares_pipeline_in_flight_started :
    let built : Server Unit Unit := ⟨⟨some ⟨(), some ()⟩, none, none⟩, ∅, ∅, 0, 0⟩
    let locked : Server Unit Unit := { built with runs := .locked ::ₘ built.runs }
    let stopped := (locked.stop true).2.advance .locked (some .stopped)
    let started := stopped.start.2.advance .stopped (some (.started stopped.start.1))
    let stopped' := (started.stop true).2
    let stored := (stopped'.install stopped.start.1).advance (.started stopped.start.1) none
    started.Reachable ∧ RunStep.started stopped.start.1 ∈ started.runs ∧
      stopped.start.1 ∈ stopped'.unsignalled ∧ Server.Step stopped' stored ∧
      stored.state.run_thread = some stopped.start.1 ∧ stopped.start.1 ∈ stored.unsignalled := by
  intro built locked stopped started stopped' stored
  have hbuilt : built.Reachable := .step .init (.build _ () (.ok ()) rfl)
  have hlocked : locked.Reachable := hbuilt.step (.run_lock _ rfl)
  have hstopped : stopped.Reachable :=
    hlocked.step (.run_stop _ true (Multiset.mem_cons_self .locked built.runs))
  have hstarted : started.Reachable :=
    hstopped.step (.run_start _ (Multiset.mem_cons_self .stopped (locked.runs.erase .locked)))
  have hp : RunStep.started stopped.start.1 ∈ started.runs :=
    Multiset.mem_cons_self (.started stopped.start.1) (stopped.runs.erase .stopped)
  exact ⟨hstarted, hp, stop_spares_pipeline_in_flight hstarted hp true⟩

/-- What `get_current` and `get_contract` read agrees: an error message is
    set only for a built app, and a built app with no contract has one. -/
structure AppUIState.ContractInv (state : AppUIState δ κ) : Prop where
  message_built : state.error_message.isSome → state.dozer.isSome
  missing_reported : ∀ d ∈ state.dozer, d.contract = none → state.error_message.isSome

section contract

variable {self state : AppUIState δ κ}

theorem AppUIState.ContractInv.congr (h : self.ContractInv) (hdozer : state.dozer = self.dozer)
    (hmessage : state.error_message = self.error_message) : state.ContractInv :=
  ⟨hmessage ▸ hdozer ▸ h.message_built, hdozer ▸ hmessage ▸ h.missing_reported⟩

/-- `create_contract_if_missing` can only add a contract. -/
theorem AppUIState.ContractInv.create_contract_if_missing (h : self.ContractInv)
    (contract : Except String κ) : (self.create_contract_if_missing contract).2.ContractInv := by
  unfold AppUIState.create_contract_if_missing
  split
  · cases contract with
    | ok contract => exact ⟨fun _ => rfl, by simp⟩
    | error e => exact h
  · exact h

end contract

end dozer_cli.ui.app
