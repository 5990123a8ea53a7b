import Chalybs.Foundation.Run
import Chalybs.Machine.Lifecycle

/-!
# Histories of the state machine

`Host.logged` is a host that behaves like another one and keeps a log of the calls.  On it, every
operation of the state machine leaves a lawful entry of a history, so the code refines the
automaton of `Lifecycle`.

* `Performs` — a computation calls given functions in order, up to the first that fails, and moves
  the machine only if it succeeds; `performs_bringUp` and `performs_tearDown` say it of the arms.
* `simulates_perform` — keeping the log changes nothing else.
* `history_follows` — the history of every run is one of the automaton.
-/

namespace Chalybs

open Foundation

variable {W : Type}

/-! ## Keeping a log of the calls -/

/-- The host that behaves like `h` and notes every call and whether it returned. -/
def Host.logged (h : Host W) : Host (W × List (Callee × Bool)) where
  call c rt := fun t =>
    match h.call c rt (t.1, t.2.1) with
    | .ok _ u => .ok () (u.1, u.2, t.2.2 ++ [(c, true)])
    | .error e u => .error e (u.1, u.2, t.2.2 ++ [(c, false)])
  detectCpuIdentity t := h.detectCpuIdentity t.1
  numaTopology t := h.numaTopology t.1

/-- The computation returns or fails with the machine in state `st`, having called `work` in order
up to the first call that failed; it returns only if none did, with the machine in state `st'`. -/
def Performs {α : Type} (st : VmState) (work : List Callee) (st' : VmState)
    (x : MachineM (W × List (Callee × Bool)) α) : Prop :=
  ∀ sm w log, sm.state = st →
    Ends x (sm, w, log)
      (fun _ t => t.1.state = st' ∧ t.2.2 = log ++ work.map (·, true))
      (fun _ t => t.1.state = st ∧ ∃ made, t.2.2 = log ++ made ∧ made.map Prod.fst <+: work)

section

variable {α : Type} {st st' : VmState} {work : List Callee}
  {x : MachineM (W × List (Callee × Bool)) α} (h : Host W)

lemma performs_modifyRt {f : VmRuntime → VmRuntime} :
    Performs (W := W) st [] st (modifyRt f) := by
  intro sm w log hst
  exact ⟨hst, (List.append_nil log).symm⟩

lemma performs_setState : Performs (W := W) st [] st' (setState st') := by
  intro sm w log _
  exact ⟨rfl, (List.append_nil log).symm⟩

/-- The rule for the changes of the runtime between two calls. -/
lemma Performs.after_modifyRt {f : VmRuntime → VmRuntime} (hx : Performs st work st' x) :
    Performs st work st' (modifyRt f >>= fun _ => x) := by
  intro sm w log hst
  rw [ends_bind]
  exact hx _ w log hst

/-- The rule for the calls. -/
lemma Performs.after_invoke {c : Callee} (hx : Performs st work st' x) :
    Performs st (c :: work) st' (h.logged.invoke c >>= fun _ => x) := by
  intro sm w log hst
  rw [ends_bind]
  simp only [Ends, Host.invoke, Host.logged]
  cases h.call c sm.rt (c.owned sm.rt, w) with
  | ok a u =>
      refine (hx { sm with rt := c.store sm.rt u.1 } u.2 (log ++ [(c, true)]) hst).mono ?_ ?_
      · rintro _ t ⟨hst', hlog⟩
        exact ⟨hst', by simpa using hlog⟩
      · rintro e t ⟨hst', made, hlog, hmade⟩
        refine ⟨hst', (c, true) :: made, by simpa using hlog, ?_⟩
        simpa using hmade
  | error e u => exact ⟨hst, [(c, false)], rfl, by simp⟩

/-- The rule for the CPU plan, which may fail but calls nothing. -/
lemma Performs.after_checkCpuPlan (hx : Performs st work st' x) :
    Performs st work st' (h.logged.checkCpuPlan >>= fun _ => x) := by
  intro sm w log hst
  rw [ends_bind, Ends, Host.checkCpuPlan]
  cases hplan : h.logged.planCpus (w, log) sm.rt with
  | mk rt e =>
      cases e with
      | none => exact hx { sm with rt } w log hst
      | some e => exact ⟨hst, [], by simp, List.nil_prefix⟩

/-- **The arms of `step`** perform the work of their state.  An arm that the automaton refuses
fails. -/
lemma performs_bringUp (s : VmState) :
    match Op.next .Step s with
    | some s' => Performs s (Op.work .Step s) s' (h.logged.bringUp s)
    | none => ∃ e, h.logged.bringUp s = throw e := by
  cases s with
  | Init => exact .after_modifyRt performs_setState
  | Validate =>
      refine .after_modifyRt (.after_invoke h ?_)
      refine .after_modifyRt (.after_invoke h ?_)
      refine .after_modifyRt (.after_invoke h ?_)
      exact .after_modifyRt (.after_checkCpuPlan h performs_setState)
  | PrepareHugepages => exact .after_modifyRt (.after_invoke h performs_setState)
  | PreparePci => exact .after_modifyRt (.after_invoke h (.after_modifyRt performs_setState))
  | ReserveCpus => exact .after_modifyRt (.after_invoke h (.after_modifyRt performs_setState))
  | LaunchQemu => exact .after_modifyRt (.after_invoke h (.after_modifyRt performs_setState))
  | DetectThreads => exact .after_modifyRt (.after_invoke h (.after_modifyRt performs_setState))
  | PinVcpus =>
      refine .after_modifyRt (.after_invoke h ?_)
      exact .after_modifyRt (.after_modifyRt performs_setState)
  | DetectMsi => exact .after_modifyRt (.after_invoke h (.after_modifyRt performs_setState))
  | PinIrqs => exact .after_modifyRt (.after_modifyRt (.after_modifyRt performs_setState))
  | PeripheralHooks => exact .after_modifyRt (.after_invoke h (.after_modifyRt performs_setState))
  | Steady => exact .after_modifyRt performs_modifyRt
  | Shutdown | Cleanup | Idle => exact ⟨_, rfl⟩

/-- **The arms of `step_shutdown`** perform the work of their state, and none is refused. -/
lemma performs_tearDown (s : VmState) :
    ∃ s', Op.next .StepShutdown s = some s' ∧
      Performs s (Op.work .StepShutdown s) s' (h.logged.tearDown s) := by
  cases s with
  | Shutdown =>
      refine ⟨_, rfl, ?_⟩
      refine .after_modifyRt (.after_invoke h ?_)
      refine .after_modifyRt (.after_modifyRt (.after_invoke h ?_))
      refine .after_modifyRt (.after_invoke h ?_)
      exact .after_modifyRt (.after_invoke h (.after_modifyRt performs_setState))
  | Cleanup => exact ⟨_, rfl, fun sm w log _ => ⟨rfl, (List.append_nil log).symm⟩⟩
  | Idle => exact ⟨.Idle, rfl, performs_modifyRt (f := fun rt => rt.pushSystem _)⟩
  | _ => exact ⟨_, rfl, .after_modifyRt (.after_invoke h (.after_modifyRt performs_setState))⟩

end

/-! ## Operations -/

/-- An operation of the state machine. -/
def Host.perform (h : Host W) : Op → MachineM W VmState
  | .Step => h.step
  | .StepShutdown => h.stepShutdown

/-- **An operation does what the automaton allows.** -/
theorem perform_logged (h : Host W) (op : Op) (sm : VmStateMachine) (w : W)
    (log : List (Callee × Bool)) :
    Ends (h.logged.perform op) (sm, w, log)
      (fun _ t => op.next sm.state = some t.1.state ∧
        t.2.2 = log ++ (op.work sm.state).map (·, true))
      (fun _ t => t.1.state = sm.state ∧
        ∃ made, t.2.2 = log ++ made ∧ made.map Prod.fst <+: op.work sm.state) := by
  cases op with
  | Step =>
      have harm := performs_bringUp h sm.state
      show Ends (h.logged.bringUp sm.state >>= fun _ => returnState) (sm, w, log) _ _
      rw [ends_bind]
      cases hnext : Op.next .Step sm.state with
      | some s' =>
          rw [hnext] at harm
          refine (harm sm w log rfl).mono ?_ fun e t ht => ht
          rintro _ t ⟨hstate, hlog⟩
          exact ⟨congrArg some hstate.symm, hlog⟩
      | none =>
          rw [hnext] at harm
          obtain ⟨e, harm⟩ := harm
          rw [harm]
          exact ⟨rfl, [], (List.append_nil log).symm, List.nil_prefix⟩
  | StepShutdown =>
      obtain ⟨s', hnext, harm⟩ := performs_tearDown h sm.state
      show Ends (h.logged.tearDown sm.state >>= fun _ => returnState) (sm, w, log) _ _
      rw [ends_bind]
      refine (harm sm w log rfl).mono ?_ fun e t ht => ht
      rintro _ t ⟨hstate, hlog⟩
      exact ⟨hnext.trans (congrArg some hstate.symm), hlog⟩

/-! ## The log changes nothing -/

/-- The same machine on the same host, with a log beside it. -/
def WithLog (s : VmStateMachine × W) (t : VmStateMachine × W × List (Callee × Bool)) : Prop :=
  t.1 = s.1 ∧ t.2.1 = s.2

section

variable {α : Type} {x : MachineM W α} {y : MachineM (W × List (Callee × Bool)) α} (h : Host W)

lemma simulates_modifyRt {f : VmRuntime → VmRuntime} :
    Simulates (WithLog (W := W)) (modifyRt f) (modifyRt f) :=
  Simulates.modify fun _ _ hst => ⟨by rw [hst.1], hst.2⟩

lemma simulates_pushSystem {message : String} :
    Simulates (WithLog (W := W)) (pushSystem message) (pushSystem message) :=
  simulates_modifyRt

lemma simulates_setState {state : VmState} :
    Simulates (WithLog (W := W)) (setState state) (setState state) :=
  Simulates.modify fun _ _ hst => ⟨by rw [hst.1], hst.2⟩

lemma simulates_invoke {c : Callee} : Simulates WithLog (h.invoke c) (h.logged.invoke c) := by
  rintro ⟨_, _⟩ ⟨sm, w, log⟩ ⟨rfl, rfl⟩
  simp only [Ends, Host.invoke, Host.logged]
  cases h.call c sm.rt (c.owned sm.rt, w) with
  | ok a u => exact ⟨_, rfl, rfl, rfl⟩
  | error e u => exact ⟨_, rfl, rfl, rfl⟩

lemma simulates_checkCpuPlan : Simulates WithLog h.checkCpuPlan h.logged.checkCpuPlan := by
  rintro ⟨_, _⟩ ⟨sm, w, log⟩ ⟨rfl, rfl⟩
  have hplan : h.logged.planCpus (w, log) sm.rt = h.planCpus w sm.rt := rfl
  simp only [Ends, Host.checkCpuPlan, hplan]
  cases h.planCpus w sm.rt with
  | mk rt e =>
      cases e with
      | none => exact ⟨_, rfl, rfl, rfl⟩
      | some e => exact ⟨_, rfl, rfl, rfl⟩

/-- Every arm is put together from parts that take no notice of the log. -/
lemma simulates_arms (s : VmState) :
    Simulates WithLog (h.bringUp s) (h.logged.bringUp s) ∧
      Simulates WithLog (h.tearDown s) (h.logged.tearDown s) := by
  constructor
  all_goals
    cases s <;>
    repeat' first
      | refine Simulates.bind ?_ fun _ => ?_
      | exact simulates_modifyRt
      | exact simulates_pushSystem
      | exact simulates_setState
      | exact simulates_invoke h
      | exact simulates_checkCpuPlan h
      | exact Simulates.throw

lemma simulates_returnState : Simulates (WithLog (W := W)) returnState returnState := by
  rintro ⟨_, _⟩ ⟨sm, w, log⟩ ⟨rfl, rfl⟩
  exact ⟨_, rfl, rfl, rfl⟩

/-- **Keeping the log changes nothing else.** -/
theorem simulates_perform (op : Op) : Simulates WithLog (h.perform op) (h.logged.perform op) := by
  rintro ⟨_, _⟩ ⟨sm, w, log⟩ ⟨rfl, rfl⟩
  cases op with
  | Step => exact (simulates_arms h sm.state).1.bind (fun _ => simulates_returnState) _ _ ⟨rfl, rfl⟩
  | StepShutdown =>
      exact (simulates_arms h sm.state).2.bind (fun _ => simulates_returnState) _ _ ⟨rfl, rfl⟩

end

/-! ## Runs -/

/-- The state that an operation leads to on a host. -/
def advance (s : VmStateMachine × W) (o : Op × Host W) : VmStateMachine × W :=
  (outcome (o.2.perform o.1) s).2

/-- The entry that the operation adds to the history: what it does, and the calls that the log of
it shows. -/
def observe (s : VmStateMachine × W) (o : Op × Host W) : Entry where
  op := o.1
  before := s.1.state
  after := (advance s o).1.state
  ok := (outcome (o.2.perform o.1) s).1
  calls := (outcome (o.2.logged.perform o.1) (s.1, s.2, [])).2.2.2

/-- The history of a run. -/
def history (s : VmStateMachine × W) (ops : List (Op × Host W)) : List Entry :=
  trace advance (fun s o => [observe s o]) s ops

/-- **Every operation of the code is lawful.** -/
theorem observe_lawful (s : VmStateMachine × W) (o : Op × Host W) : (observe s o).Lawful := by
  obtain ⟨op, h⟩ := o
  have hspec := perform_logged h op s.1 s.2 []
  obtain ⟨hok, hmachine, -⟩ :=
    (simulates_perform h op).outcome (s := s) (t := (s.1, s.2, [])) ⟨rfl, rfl⟩
  rw [Ends] at hspec
  cases hx : h.logged.perform op (s.1, s.2, []) with
  | ok a t =>
      rw [hx] at hspec
      rw [outcome_of_ok hx] at hok hmachine
      have hobs : observe s (op, h) = ⟨op, s.1.state, t.1.state, true, t.2.2⟩ := by
        rw [observe, advance, hok, outcome_of_ok hx, hmachine]
      rw [hobs]
      refine ⟨?_, fun _ => by simpa using hspec.2, fun _ => hspec.1, by simp⟩
      show t.2.2.map Prod.fst <+: op.work s.1.state
      rw [hspec.2]
      simp [Function.comp_def]
  | error e t =>
      rw [hx] at hspec
      rw [outcome_of_error hx] at hok hmachine
      have hobs : observe s (op, h) = ⟨op, s.1.state, t.1.state, false, t.2.2⟩ := by
        rw [observe, advance, hok, outcome_of_error hx, hmachine]
      obtain ⟨hstate, made, hlog, hmade⟩ := hspec
      rw [hobs]
      refine ⟨?_, by simp, by simp, fun _ => hstate⟩
      show t.2.2.map Prod.fst <+: op.work s.1.state
      rwa [hlog, List.nil_append]

/-- **The code refines the automaton**: the history of every run is lawful and leads to the state
that the run leads to. -/
theorem history_follows (s : VmStateMachine × W) (ops : List (Op × Host W)) :
    Follows s.1.state (history s ops) (run advance s ops).1.state := by
  induction ops generalizing s with
  | nil => rfl
  | cons o ops ih => exact ⟨rfl, observe_lawful s o, ih (advance s o)⟩

end Chalybs
