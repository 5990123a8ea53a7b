import Chalybs.Foundation.Loop
import Chalybs.Machine.Calls

/-!
# Bring-up and shutdown in one go

`run_until_steady` and `run_shutdown` (`state.rs`) call `step` and `step_shutdown` until the machine
is where they want it.  Each call that succeeds moves the machine along its chain of states, so the
loops end.

* `Host.runUntilSteady`, `Host.runShutdown` — the loops.
* `ends_runUntilSteady`, `ends_runShutdown` — what every operation keeps, the loops keep.
-/

namespace Chalybs

open Foundation

variable {W : Type}

/-! ## The turns -/

/-- One turn of `run_until_steady`. -/
def Host.steadyTurn (h : Host W) : MachineM W (Option Unit) := do
  let t ← get
  match t.1.state with
  | .Steady => do
      pushSystem "state=Steady"
      pushInfo "vm: reached steady-state (all bring-up phases complete)"
      pure (some ())
  | .Shutdown | .Cleanup | .Idle =>
      throw (.State s!"run_until_steady() called in invalid state: {t.1.state.debug}")
  | _ => do
      let _ ← h.step
      pure none

/-- One turn of `run_shutdown`. -/
def Host.shutdownTurn (h : Host W) : MachineM W (Option Unit) := do
  let t ← get
  match t.1.state with
  | .Idle => pure (some ())
  | _ => do
      let _ ← h.stepShutdown
      let t ← get
      if t.1.state = .Idle then pure (some ()) else pure none

variable {h : Host W} {t : VmStateMachine × W}

/-- Where an operation leads when it succeeds; otherwise the machine stays. -/
lemma ends_perform_next (h : Host W) (op : Op) (t : VmStateMachine × W) :
    Ends (h.perform op) t (fun _ t' => op.next t.1.state = some t'.1.state)
      (fun _ t' => t'.1.state = t.1.state) := by
  have hlaw := observe_lawful t (op, h)
  rw [Ends]
  cases hx : h.perform op t with
  | ok a t' =>
      have hnext := hlaw.next_of_ok (by simp [observe, outcome_of_ok hx])
      simpa [observe, advance, outcome_of_ok hx] using hnext
  | error e t' =>
      have hstays := hlaw.stays (by simp [observe, outcome_of_error hx])
      simpa [observe, advance, outcome_of_error hx] using hstays

/-- What a turn of `run_until_steady` does in each state. -/
lemma ends_steadyTurn {Q : Option Unit → VmStateMachine × W → Prop}
    {E : ChalybsError → VmStateMachine × W → Prop}
    (hsteady : t.1.state = .Steady → ∀ events, Q (some ()) (⟨.Steady, { t.1.rt with events }⟩, t.2))
    (hpath : t.1.state.OnShutdownPath → ∀ e, E e t)
    (hstep : t.1.state.IsBringUp → Ends (h.perform .Step) t (fun _ => Q none) E) :
    Ends h.steadyTurn t Q E := by
  rw [Host.steadyTurn, ends_bind, ends_get]
  obtain ⟨⟨state, rt⟩, w⟩ := t
  dsimp only at hsteady hpath hstep
  cases state with
  | Steady => exact hsteady rfl _
  | Shutdown | Cleanup | Idle => exact hpath (by decide) _
  | _ =>
      rw [ends_bind]
      exact hstep (by decide)

/-- What a turn of `run_shutdown` does in each state. -/
lemma ends_shutdownTurn {Q : Option Unit → VmStateMachine × W → Prop}
    {E : ChalybsError → VmStateMachine × W → Prop}
    (hidle : t.1.state = .Idle → Q (some ()) t)
    (hstep : t.1.state ≠ .Idle → Ends (h.perform .StepShutdown) t
      (fun _ t' => if t'.1.state = .Idle then Q (some ()) t' else Q none t') E) :
    Ends h.shutdownTurn t Q E := by
  rw [Host.shutdownTurn, ends_bind, ends_get]
  obtain ⟨⟨state, rt⟩, w⟩ := t
  by_cases hstate : state = .Idle
  · subst hstate
    exact hidle rfl
  · have hrest : Ends (h.stepShutdown >>= fun _ => get >>= fun t =>
        if t.1.state = .Idle then pure (some ()) else pure none) (⟨state, rt⟩, w) Q E := by
      rw [ends_bind]
      refine (hstep hstate).mono (fun _ t' ht' => ?_) fun _ _ he => he
      rw [ends_bind, ends_get]
      split_ifs at ht' ⊢
      · exact ht'
      · exact ht'
    cases state with
    | Idle => exact absurd rfl hstate
    | _ => exact hrest

/-! ## The loops -/

/-- A turn of `run_until_steady` that is not the last comes closer to Steady. -/
lemma steadyTurn_closer (h : Host W) (t t' : VmStateMachine × W)
    (hturn : h.steadyTurn t = .ok none t') :
    VmState.Steady.rank - t'.1.state.rank < VmState.Steady.rank - t.1.state.rank := by
  have hends : Ends h.steadyTurn t (fun r t' => r = none →
      VmState.Steady.rank - t'.1.state.rank < VmState.Steady.rank - t.1.state.rank)
      fun _ _ => True := by
    refine ends_steadyTurn (by simp) (by simp) fun hup => ?_
    refine (ends_perform_next h .Step t).mono (fun _ t' hnext _ => ?_) (by simp)
    have hlt : t.1.state.rank < VmState.Steady.rank := hup
    rcases next_step hnext with ⟨hsteady, -⟩ | ⟨-, hrank⟩
    · rw [hsteady] at hlt
      omega
    · omega
  rw [Ends, hturn] at hends
  exact hends rfl

/-- A turn of `run_shutdown` that is not the last comes closer to Idle. -/
lemma shutdownTurn_closer (h : Host W) (t t' : VmStateMachine × W)
    (hturn : h.shutdownTurn t = .ok none t') :
    VmState.Idle.rank - t'.1.state.rank < VmState.Idle.rank - t.1.state.rank := by
  have hends : Ends h.shutdownTurn t (fun r t' => r = none →
      VmState.Idle.rank - t'.1.state.rank < VmState.Idle.rank - t.1.state.rank)
      fun _ _ => True := by
    refine ends_shutdownTurn (by simp) fun hidle => ?_
    refine (ends_perform_next h .StepShutdown t).mono (fun _ t' hnext => ?_) (by simp)
    split_ifs
    · simp
    · intro _
      have hlt := rank_lt_of_next_stepShutdown hnext hidle
      omega
  rw [Ends, hturn] at hends
  exact hends rfl

/-- `run_until_steady`. -/
def Host.runUntilSteady (h : Host W) : MachineM W Unit :=
  loop h.steadyTurn (fun t => VmState.Steady.rank - t.1.state.rank) (steadyTurn_closer h)

/-- `run_shutdown`. -/
def Host.runShutdown (h : Host W) : MachineM W Unit :=
  loop h.shutdownTurn (fun t => VmState.Idle.rank - t.1.state.rank) (shutdownTurn_closer h)

/-- **Bring-up keeps what its steps keep**, and returns in Steady. -/
theorem ends_runUntilSteady {I : VmStateMachine × W → Prop} (ht : I t)
    (hlog : ∀ t events, I t → I (⟨t.1.state, { t.1.rt with events }⟩, t.2))
    (hstep : ∀ t, I t → t.1.state.IsBringUp → I (advance t (.Step, h))) :
    Ends h.runUntilSteady t (fun _ t' => I t' ∧ t'.1.state = .Steady) fun _ => I := by
  refine ends_loop ht fun t ht => ends_steadyTurn ?_ ?_ ?_
  · intro hsteady events
    exact ⟨hsteady ▸ hlog t events ht, rfl⟩
  · intro _ _
    exact ht
  · intro hup
    exact ends_of_outcome_snd (hstep t ht hup)

/-- **Shutdown keeps what its steps keep**, and returns in Idle. -/
theorem ends_runShutdown {I : VmStateMachine × W → Prop} (ht : I t)
    (hstep : ∀ t, I t → I (advance t (.StepShutdown, h))) :
    Ends h.runShutdown t (fun _ t' => I t' ∧ t'.1.state = .Idle) fun _ => I := by
  refine ends_loop ht fun t ht => ends_shutdownTurn ?_ ?_
  · intro hidle
    exact ⟨ht, hidle⟩
  · intro _
    have hkeeps : Ends (h.perform .StepShutdown) t (fun _ => I) fun _ => I :=
      ends_of_outcome_snd (hstep t ht)
    refine hkeeps.mono (fun _ t' ht' => ?_) fun _ _ he => he
    split_ifs with hidle
    · exact ⟨ht', hidle⟩
    · exact ht'

end Chalybs
