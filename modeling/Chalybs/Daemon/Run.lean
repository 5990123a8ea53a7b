import Chalybs.Daemon.Server
import Chalybs.Machine.Frame

/-!
# Runs of the daemon

The daemon handles the commands its clients sent and then takes a tick, over and over.  A run is
any sequence of commands and ticks; every tick has an environment of its own, so every phase may
fail or succeed and every guest may exit at any time.

* `IpcVmState.due`, `drive_eq` — which operation a tick performs on a VM.
* `Drives`, `advance_drives` — everything a tick can do to the two states of a VM.
* `lookup_tick` — a tick advances each configured VM once.
* `everyVm_run` — what holds of every managed VM in every run.
-/

namespace Chalybs

open Foundation

variable {W : Type}

/-! ## One VM -/

/-- The VM is wanted in Steady. -/
def IpcVmState.WantsUp (desired : IpcVmState) : Prop := desired = .Starting ∨ desired = .Running

instance (desired : IpcVmState) : Decidable desired.WantsUp := inferInstanceAs (Decidable (_ ∨ _))

/-- The operation that brings a VM closer to the desired state. -/
def IpcVmState.due (desired : IpcVmState) (state : VmState) : Option Op :=
  if desired.WantsUp then
    if state.IsBringUp then some .Step else none
  else if state = .Idle then none
  else some .StepShutdown

/-- The desired state after the operation failed. -/
def IpcVmState.afterFailure (desired : IpcVmState) : Op → IpcVmState
  | .Step => .Stopped
  | .StepShutdown => desired

/-- The desired state when nothing is due. -/
def IpcVmState.atRest (desired : IpcVmState) (state : VmState) : IpcVmState :=
  if desired.WantsUp ∧ state = .Steady then .Running else desired

section

variable {desired : IpcVmState} {s : VmState}

/-- A VM is stepped exactly while it is wanted up. -/
lemma step_due {op : Op} (h : desired.due s = some op) : op = .Step ↔ desired.WantsUp := by
  revert op
  cases desired <;> cases s <;> decide

lemma due_step_iff : desired.due s = some .Step ↔ desired.WantsUp ∧ s.IsBringUp := by
  cases desired <;> cases s <;> decide

lemma due_stepShutdown_iff :
    desired.due s = some .StepShutdown ↔ ¬ desired.WantsUp ∧ s ≠ .Idle := by
  cases desired <;> cases s <;> decide

/-- Nothing is due for a VM that is up and wanted up. -/
lemma due_eq_none_of_wantsUp (hup : desired.WantsUp) (hs : ¬ s.IsBringUp) :
    desired.due s = none := by
  rw [IpcVmState.due, if_pos hup, if_neg hs]

/-- A failure leaves nobody wanting the VM up. -/
lemma not_wantsUp_afterFailure {op : Op} (h : desired.due s = some op) :
    ¬ (desired.afterFailure op).WantsUp := by
  revert op
  cases desired <;> cases s <;> decide

lemma wantsUp_atRest : (desired.atRest s).WantsUp ↔ desired.WantsUp := by
  cases desired <;> cases s <;> decide

end

/-- The text that the driver logs when the operation fails. -/
def Op.errorText (e : ChalybsError) : Op → String
  | .Step => s!"vm state machine bring-up error: {e.display}"
  | .StepShutdown => s!"vm state machine shutdown error: {e.display}"

/-- **One step of the driver** performs the operation that the VM is due. -/
theorem drive_eq (h : Host W) (vm : DaemonVm) (w : W) :
    driveVmTowardsDesired h vm w =
      match vm.desired.due vm.sm.state with
      | none => ({ vm with desired := vm.desired.atRest vm.sm.state }, w)
      | some op =>
          match h.perform op (vm.sm, w) with
          | .ok _ t => ({ vm with sm := t.1 }, t.2)
          | .error e t =>
              ({ { vm with sm := t.1 }.reportError (op.errorText e) with
                desired := vm.desired.afterFailure op }, t.2) := by
  obtain ⟨⟨state, rt⟩, desired, sent⟩ := vm
  cases desired <;> cases state <;> rfl

section

variable {h : Host W} {vm : DaemonVm} {w : W} {op : Op} {t : VmStateMachine × W}

lemma drive_rests (hdue : vm.desired.due vm.sm.state = none) :
    driveVmTowardsDesired h vm w = ({ vm with desired := vm.desired.atRest vm.sm.state }, w) := by
  rw [drive_eq, hdue]

lemma drive_succeeds {state : VmState} (hdue : vm.desired.due vm.sm.state = some op)
    (hx : h.perform op (vm.sm, w) = .ok state t) :
    driveVmTowardsDesired h vm w = ({ vm with sm := t.1 }, t.2) := by
  rw [drive_eq, hdue]
  simp only [hx]

lemma drive_fails {e : ChalybsError} (hdue : vm.desired.due vm.sm.state = some op)
    (hx : h.perform op (vm.sm, w) = .error e t) :
    driveVmTowardsDesired h vm w =
      ({ { vm with sm := t.1 }.reportError (op.errorText e) with
        desired := vm.desired.afterFailure op }, t.2) := by
  rw [drive_eq, hdue]
  simp only [hx]

end

/-- **Performing an operation** moves the machine as the automaton says. -/
lemma perform_state (h : Host W) (op : Op) (s : VmStateMachine × W) :
    match h.perform op s with
    | .ok _ t => op.next s.1.state = some t.1.state
    | .error _ t => t.1.state = s.1.state := by
  have hlaw := observe_lawful s (op, h)
  cases hx : h.perform op s with
  | ok a t =>
      have hnext := hlaw.next_of_ok
      simp only [observe, advance, outcome_of_ok hx] at hnext
      exact hnext trivial
  | error e t =>
      have hstays := hlaw.stays
      simp only [observe, advance, outcome_of_error hx] at hstays
      exact hstays trivial

/-- The guest was seen to have exited. -/
def DaemonVm.Exited (env : TickEnv W) (vm : DaemonVm) (w : W) : Prop :=
  vm.sm.state = .Steady ∧ ∃ q, vm.sm.rt.qemu = some q ∧ env.tryWait q w = .ok true

lemma pollQemu_of_not_exited {env : TickEnv W} {vm : DaemonVm} {w : W} (h : ¬ vm.Exited env w) :
    (vm.pollQemu fun q => env.tryWait q w) = vm := by
  rw [DaemonVm.pollQemu]
  split_ifs with hsteady
  · cases hq : vm.sm.rt.qemu with
    | none => rfl
    | some q =>
        cases hwait : env.tryWait q w with
        | error e => simp [hwait]
        | ok exited =>
            cases exited with
            | true => exact absurd ⟨hsteady, q, hq, hwait⟩ h
            | false => simp [hwait]
  · rfl

lemma pollQemu_cases (tryWait : QemuState → Except String Bool) (vm : DaemonVm) :
    vm.pollQemu tryWait = vm ∨
      vm.sm.state = .Steady ∧ (∃ q, vm.sm.rt.qemu = some q ∧ tryWait q = .ok true) ∧
        vm.pollQemu tryWait = { vm with sm.rt.qemu := none, desired := .Stopped } := by
  rw [DaemonVm.pollQemu]
  split_ifs with hsteady
  · split
    · exact .inl rfl
    next q hq =>
      split
      next hwait => exact .inr ⟨hsteady, ⟨q, hq, hwait⟩, rfl⟩
      · exact .inl rfl
      · exact .inl rfl
  · exact .inl rfl

/-- The poll touches nothing but the recorded process and the desired state. -/
lemma exists_pollQemu (tryWait : QemuState → Except String Bool) (vm : DaemonVm) :
    ∃ qemu desired, vm.pollQemu tryWait = { vm with sm.rt.qemu := qemu, desired := desired } := by
  rcases pollQemu_cases tryWait vm with hpoll | ⟨-, -, hpoll⟩
  · exact ⟨vm.sm.rt.qemu, vm.desired, hpoll⟩
  · exact ⟨none, .Stopped, hpoll⟩

lemma state_pollQemu (tryWait : QemuState → Except String Bool) (vm : DaemonVm) :
    (vm.pollQemu tryWait).sm.state = vm.sm.state := by
  obtain ⟨qemu, desired, hpoll⟩ := exists_pollQemu tryWait vm
  rw [hpoll]

lemma pollQemu_of_not_steady {tryWait : QemuState → Except String Bool} {vm : DaemonVm}
    (h : vm.sm.state ≠ .Steady) : vm.pollQemu tryWait = vm := by
  rw [DaemonVm.pollQemu, if_neg h]

/-- **What may be due once the process was polled**: a step only of a VM that is wanted up, and
`step_shutdown` of such a VM only in Steady. -/
lemma wantsUp_of_due {tryWait : QemuState → Except String Bool} {vm : DaemonVm} {op : Op}
    (hdue : (vm.pollQemu tryWait).desired.due vm.sm.state = some op) :
    (op = .Step → vm.desired.WantsUp ∧ vm.sm.state.IsBringUp) ∧
      (op = .StepShutdown → vm.sm.state ≠ .Steady → ¬ vm.desired.WantsUp) := by
  constructor
  · rintro rfl
    have hstep := due_step_iff.mp hdue
    have hsteady : vm.sm.state ≠ .Steady := by
      intro h
      rw [h] at hstep
      exact absurd hstep.2 (by decide)
    rwa [pollQemu_of_not_steady hsteady] at hstep
  · rintro rfl hsteady
    rw [pollQemu_of_not_steady hsteady] at hdue
    exact (due_stepShutdown_iff.mp hdue).1

/-- What one step of the driver does to the state of a machine and to the state it is wanted in. -/
inductive Drives (s : VmState) (desired : IpcVmState) : VmState → IpcVmState → Prop
  | rests : desired.due s = none → Drives s desired s (desired.atRest s)
  | succeeds {op : Op} {s' : VmState} : desired.due s = some op → op.next s = some s' →
      Drives s desired s' desired
  | fails {op : Op} : desired.due s = some op → Drives s desired s (desired.afterFailure op)

lemma drive_drives (h : Host W) (vm : DaemonVm) (w : W) :
    Drives vm.sm.state vm.desired (driveVmTowardsDesired h vm w).1.sm.state
      (driveVmTowardsDesired h vm w).1.desired := by
  cases hdue : vm.desired.due vm.sm.state with
  | none =>
      rw [drive_rests hdue]
      exact .rests hdue
  | some op =>
      have hstate := perform_state h op (vm.sm, w)
      cases hx : h.perform op (vm.sm, w) with
      | ok a t =>
          rw [hx] at hstate
          rw [drive_succeeds hdue hx]
          exact .succeeds hdue hstate
      | error e t =>
          rw [hx] at hstate
          rw [drive_fails hdue hx]
          simp only [DaemonVm.reportError]
          rw [show t.1.state = vm.sm.state from hstate]
          exact .fails hdue

/-- **A tick** drives a VM, after the desired state was set to Stopped if the guest has exited. -/
theorem advance_drives (env : TickEnv W) (vm : DaemonVm) (w : W) :
    let vm' := (vm.advance env w).1
    Drives vm.sm.state vm.desired vm'.sm.state vm'.desired ∨
      vm.sm.state = .Steady ∧ Drives .Steady .Stopped vm'.sm.state vm'.desired := by
  rcases pollQemu_cases (fun q => env.tryWait q w) vm with hpoll | ⟨hsteady, -, hpoll⟩
  · left
    rw [DaemonVm.advance, hpoll]
    exact drive_drives env.host vm w
  · right
    refine ⟨hsteady, ?_⟩
    have hdrives := drive_drives env.host (vm.pollQemu fun q => env.tryWait q w) w
    rw [hpoll] at hdrives
    rw [DaemonVm.advance, hpoll]
    rw [← hsteady]
    exact hdrives

/-- A tick never takes a VM back. -/
lemma rank_le_advance (env : TickEnv W) (vm : DaemonVm) (w : W) :
    vm.sm.state.rank ≤ (vm.advance env w).1.sm.state.rank := by
  have hdrives : ∀ {s desired s' desired'}, Drives s desired s' desired' → s.rank ≤ s'.rank := by
    rintro s desired s' desired' (- | ⟨-, hnext⟩ | -)
    · exact le_refl _
    · exact rank_le_of_next hnext
    · exact le_refl _
  rcases advance_drives env vm w with hd | ⟨hsteady, hd⟩
  · exact hdrives hd
  · rw [hsteady]
    exact hdrives hd

/-- **What a tick performs**: nothing, or the operation that is due once the process was polled,
whose failure is noted in the log. -/
theorem advance_performs (env : TickEnv W) (vm : DaemonVm) (w : W) :
    let p := vm.pollQemu fun q => env.tryWait q w
    let r := vm.advance env w
    p.desired.due vm.sm.state = none ∧ r.1.sm = p.sm ∧ r.2 = w ∨
      ∃ op, p.desired.due vm.sm.state = some op ∧
        let t := Chalybs.advance (p.sm, w) (op, env.host)
        r.1.sm.state = t.1.state ∧ r.2 = t.2 ∧
          (r.1.sm.rt = t.1.rt ∨ ∃ m, r.1.sm.rt = t.1.rt.pushError m) := by
  intro p r
  have hstate : p.sm.state = vm.sm.state := state_pollQemu _ vm
  have hr : r = driveVmTowardsDesired env.host p w := rfl
  rw [← hstate, hr]
  cases hdue : p.desired.due p.sm.state with
  | none =>
      rw [drive_rests hdue]
      exact .inl ⟨rfl, rfl, rfl⟩
  | some op =>
      refine .inr ⟨op, rfl, ?_⟩
      rw [Chalybs.advance]
      cases hx : env.host.perform op (p.sm, w) with
      | ok a t =>
          rw [drive_succeeds hdue hx, outcome_of_ok hx]
          exact ⟨rfl, rfl, .inl rfl⟩
      | error e t =>
          rw [drive_fails hdue hx, outcome_of_error hx]
          exact ⟨rfl, rfl, .inr ⟨_, rfl⟩⟩

/-- **What a tick leaves** on a VM that is not in Steady, given what its phase leaves.  If the phase
fails, the VM stays in it and the failure is noted. -/
lemma Ends.advance (env : TickEnv W) {vm : DaemonVm} {w : W} {P Q : VmStateMachine × W → Prop}
    {op : Op} (hsteady : vm.sm.state ≠ .Steady) (hdue : vm.desired.due vm.sm.state = some op)
    (h : Ends (match op with
      | .Step => env.host.bringUp vm.sm.state
      | .StepShutdown => env.host.tearDown vm.sm.state) (vm.sm, w) (fun _ => P) fun _ => Q) :
    P ((vm.advance env w).1.sm, (vm.advance env w).2) ∨
      ∃ rt m, Q (⟨vm.sm.state, rt⟩, (vm.advance env w).2) ∧
        (vm.advance env w).1.sm = ⟨vm.sm.state, rt.pushError m⟩ := by
  have hends : Ends (env.host.perform op) (vm.sm, w) (fun _ => P) fun _ => Q := ends_perform.mpr h
  have hstate := perform_state env.host op (vm.sm, w)
  rw [DaemonVm.advance, pollQemu_of_not_steady hsteady]
  rw [Ends] at hends
  cases hx : env.host.perform op (vm.sm, w) with
  | ok a t =>
      rw [hx] at hends
      rw [drive_succeeds hdue hx]
      exact .inl hends
  | error e t =>
      obtain ⟨⟨state, rt⟩, w'⟩ := t
      rw [hx] at hends hstate
      obtain rfl : state = vm.sm.state := hstate
      rw [drive_fails hdue hx]
      exact .inr ⟨rt, _, hends, rfl⟩

/-- A call that a tick may make: one of the phase of a VM that is wanted up, or one of the shutdown
of a VM that is not, or that is in Steady. -/
def DaemonVm.MayCall (vm : DaemonVm) (c : Callee) : Prop :=
  vm.desired.WantsUp ∧ c ∈ Op.work .Step vm.sm.state ∨
    (vm.sm.state ≠ .Steady → ¬ vm.desired.WantsUp) ∧ c ∈ Op.work .StepShutdown vm.sm.state

section

variable {vm : DaemonVm} {c : Callee}

lemma DaemonVm.MayCall.phase (h : vm.MayCall c) {p : VmState} (hp : c.phase = some p) :
    vm.sm.state = p ∧ vm.desired.WantsUp := by
  rcases h with ⟨hup, hc⟩ | ⟨-, hc⟩
  · exact ⟨(step_of_mem_work hc hp).2, hup⟩
  · cases (step_of_mem_work hc hp).1

lemma DaemonVm.MayCall.shutdown (h : vm.MayCall c)
    (hc : c = .RestorePci ∨ c = .CleanupHugepages ∨ c = .ApplyVmDown) :
    vm.sm.state = .Shutdown ∧ ¬ vm.desired.WantsUp := by
  rcases h with ⟨-, hwork⟩ | ⟨hdown, hwork⟩
  · have hphase : c.phase = none := by
      rcases hc with rfl | rfl | rfl <;> rfl
    cases stepShutdown_of_mem_work hwork hphase
  · have hstate := shutdown_of_mem_work hwork hc
    exact ⟨hstate, hdown (by rw [hstate]; decide)⟩

end

/-- A property of the runtime and the host survives a tick if the loss of the process keeps it, and
what the tick may call, and setting the flag in the PinIrqs phase. -/
lemma FramedBut.tick {P : VmRuntime → W → Prop} (hP : FramedBut P) {env : TickEnv W}
    {vm : DaemonVm} {w : W} (hqemu : ∀ rt w, P rt w → P { rt with qemu := none } w)
    (hcalls : ∀ c, vm.MayCall c → Preserves (OnRuntime P) (env.host.invoke c))
    (hirqs : vm.sm.state = .PinIrqs → vm.desired.WantsUp →
      ∀ rt w, P rt w → P { rt with pinnedIrqs := true } w)
    (h : P vm.sm.rt w) : P (vm.advance env w).1.sm.rt (vm.advance env w).2 := by
  have hstate := state_pollQemu (fun q => env.tryWait q w) vm
  have hpoll : P (vm.pollQemu fun q => env.tryWait q w).sm.rt w := by
    rcases pollQemu_cases (fun q => env.tryWait q w) vm with heq | ⟨-, -, heq⟩
    · rw [heq]
      exact h
    · rw [heq]
      exact hqemu _ _ h
  rcases advance_performs env vm w with ⟨-, hsm, hw⟩ | ⟨op, hdue, -, hw, hrt⟩
  · rw [hsm, hw]
    exact hpoll
  · obtain ⟨hstep, hdown⟩ := wantsUp_of_due hdue
    have hkept : OnRuntime P (Chalybs.advance
        ((vm.pollQemu fun q => env.tryWait q w).sm, w) (op, env.host)) := by
      refine hP.perform (fun c hc => hcalls c ?_)
        (fun hop hpins => hirqs (hstate.symm.trans hpins) (hstep hop).1) hpoll
      rw [hstate] at hc
      cases op with
      | Step => exact .inl ⟨(hstep rfl).1, hc⟩
      | StepShutdown => exact .inr ⟨hdown rfl, hc⟩
    rw [hw]
    rcases hrt with heq | ⟨m, heq⟩
    · rw [heq]
      exact hkept
    · rw [heq]
      exact hP.push _ _ _ _ hkept

/-! ## Commands and ticks -/

/-- What the daemon does next: handle a command line, or take a tick. -/
inductive DaemonOp (W : Type)
  | Command (line : String)
  | Tick (tick : UInt64) (env : TickEnv W)

/-- The state that an operation leads to. -/
def DaemonState.apply (s : DaemonState × W) : DaemonOp W → DaemonState × W
  | .Command line => ((s.1.handleShellCommand line).1, s.2)
  | .Tick tick env => (DaemonState.buildSnapshot env tick s).2

lemma apply_command (s : DaemonState × W) (line : String) :
    DaemonState.apply s (.Command line) = ((s.1.handleShellCommand line).1, s.2) := by
  rw [DaemonState.apply]

lemma apply_tick (s : DaemonState × W) (tick : UInt64) (env : TickEnv W) :
    DaemonState.apply s (.Tick tick env) = DaemonState.tick env s :=
  buildSnapshot_state env tick s

/-- **A tick is a visit to each VM**, and the sending of the events, in every system that has these
among its steps. -/
lemma tick_eq_run_steps {ι : Type} (step : DaemonState × W → ι → DaemonState × W)
    (visit : String → ι) {env : TickEnv W} {send : ι}
    (hvisit : ∀ s name, step s (visit name) = DaemonState.tickVm env s name)
    (hsend : ∀ s, step s send = ({ s.1 with vms := mapVms DaemonVm.markSent s.1.vms }, s.2))
    (s : DaemonState × W) :
    DaemonState.tick env s = run step s (s.1.visited.map visit ++ [send]) := by
  rw [run_snoc, hsend, run, List.foldl_map]
  simp only [hvisit]
  rfl

lemma lookup_tickVm_ne {env : TickEnv W} {s : DaemonState × W} {name other : String}
    (h : other ≠ name) :
    (DaemonState.tickVm env s name).1.vms.lookup other = s.1.vms.lookup other := by
  rw [DaemonState.tickVm]
  split
  · rfl
  · exact AList.lookup_insert_ne h

lemma lookup_tickVm_self {env : TickEnv W} {s : DaemonState × W} {name : String} :
    (DaemonState.tickVm env s name).1.vms.lookup name =
      (s.1.vms.lookup name).map fun vm => (vm.advance env s.2).1 := by
  rw [DaemonState.tickVm]
  cases hvm : s.1.vms.lookup name with
  | none => exact hvm
  | some vm => exact AList.lookup_insert _

lemma host_tickVm {env : TickEnv W} {s : DaemonState × W} {name : String} {vm : DaemonVm}
    (h : s.1.vms.lookup name = some vm) :
    (DaemonState.tickVm env s name).2 = (vm.advance env s.2).2 := by
  rw [DaemonState.tickVm, h]

lemma lookup_run_tickVm {env : TickEnv W} {names : List String} {s : DaemonState × W}
    {name : String} (h : name ∉ names) :
    (run (DaemonState.tickVm env) s names).1.vms.lookup name = s.1.vms.lookup name := by
  induction names generalizing s with
  | nil => rfl
  | cons first names ih =>
      rw [List.mem_cons, not_or] at h
      rw [run_cons, ih h.2, lookup_tickVm_ne h.1]

lemma rootCfg_tickVm {env : TickEnv W} {s : DaemonState × W} {name : String} :
    (DaemonState.tickVm env s name).1.rootCfg = s.1.rootCfg := by
  rw [DaemonState.tickVm]
  split
  · rfl
  · rfl

/-- Every configured name is visited once. -/
lemma nodup_visited (d : DaemonState) : d.visited.Nodup := by
  rw [DaemonState.visited]
  cases d.rootCfg with
  | none => exact List.nodup_nil
  | some cfg => exact (List.perm_insertionSort _ _).nodup_iff.mpr cfg.vm.keys_nodup

/-- The VMs that a tick comes to before a VM. -/
lemma takeWhile_visited {d : DaemonState} {pre post : List String} {name : String}
    (hnames : d.visited = pre ++ name :: post) : d.visited.takeWhile (· ≠ name) = pre := by
  have hnodup := nodup_visited d
  rw [hnames] at hnodup
  have hpre : ∀ other ∈ pre, decide (other ≠ name) = true := fun other hother =>
    decide_eq_true fun heq =>
      (List.nodup_append.mp hnodup).2.2 other hother name List.mem_cons_self heq
  rw [hnames, List.takeWhile_append_of_pos hpre, List.takeWhile_cons_of_neg (by simp),
    List.append_nil]

/-- **A tick advances each visited VM once**, from the state of the host that the VMs before it
left. -/
lemma lookup_run_visited {env : TickEnv W} {s : DaemonState × W} {pre post : List String}
    {name : String} (hnames : s.1.visited = pre ++ name :: post) :
    let s' := run (DaemonState.tickVm env) s pre
    s'.1.vms.lookup name = s.1.vms.lookup name ∧
      (run (DaemonState.tickVm env) s s.1.visited).1.vms.lookup name =
        (s.1.vms.lookup name).map fun vm => (vm.advance env s'.2).1 := by
  have hnodup := nodup_visited s.1
  rw [hnames] at hnodup
  have hpre : name ∉ pre := fun hmem =>
    (List.nodup_append.mp hnodup).2.2 name hmem name List.mem_cons_self rfl
  have hpost : name ∉ post := (List.nodup_cons.mp (List.nodup_append.mp hnodup).2.1).1
  refine ⟨lookup_run_tickVm hpre, ?_⟩
  rw [hnames, run_append, run_cons, lookup_run_tickVm hpost, lookup_tickVm_self,
    lookup_run_tickVm hpre]

/-- A VM that is visited is advanced, and its events are sent. -/
theorem lookup_tick {env : TickEnv W} {s : DaemonState × W} {pre post : List String}
    {name : String} {vm : DaemonVm} (hnames : s.1.visited = pre ++ name :: post)
    (hvm : s.1.vms.lookup name = some vm) :
    let s' := run (DaemonState.tickVm env) s pre
    s'.1.vms.lookup name = some vm ∧
      (DaemonState.tick env s).1.vms.lookup name = some (vm.advance env s'.2).1.markSent := by
  obtain ⟨hbefore, hafter⟩ := @lookup_run_visited _ env _ _ _ _ hnames
  refine ⟨hbefore.trans hvm, ?_⟩
  show (mapVms DaemonVm.markSent (run (DaemonState.tickVm env) s s.1.visited).1.vms).lookup name = _
  rw [lookup_mapVms, hafter, hvm]
  rfl

/-- A VM that a tick does not visit is left as it was. -/
lemma lookup_tick_of_not_visited {env : TickEnv W} {s : DaemonState × W} {name : String}
    (h : name ∉ s.1.visited) :
    (DaemonState.tick env s).1.vms.lookup name =
      (s.1.vms.lookup name).map DaemonVm.markSent := by
  show (mapVms DaemonVm.markSent (run (DaemonState.tickVm env) s s.1.visited).1.vms).lookup name = _
  rw [lookup_mapVms, lookup_run_tickVm h]

lemma rootCfg_tick {env : TickEnv W} {s : DaemonState × W} :
    (DaemonState.tick env s).1.rootCfg = s.1.rootCfg := by
  show (run (DaemonState.tickVm env) s s.1.visited).1.rootCfg = _
  exact run_invariant (I := fun t : DaemonState × W => t.1.rootCfg = s.1.rootCfg)
    (fun t name ht => rootCfg_tickVm.trans ht) rfl _

/-! ## What holds of every VM -/

/-- Every managed VM is configured and satisfies `P`. -/
def EveryVm (P : DaemonVm → Prop) (d : DaemonState) : Prop :=
  ∀ name vm, d.vms.lookup name = some vm → name ∈ d.visited ∧ P vm

/-- What commands and ticks must keep for a property of every managed VM, apart from the commands
that start a VM that there is already. -/
structure Kept (W : Type) (P : DaemonVm → Prop) : Prop where
  new : ∀ name vmCfg vm, DaemonVm.new name vmCfg = .ok vm → P { vm with desired := .Starting }
  stop : ∀ vm, P vm → P { vm with desired := .ShuttingDown }
  advance : ∀ (env : TickEnv W) vm w, P vm → P (vm.advance env w).1
  markSent : ∀ vm, P vm → P vm.markSent

lemma markSent_sm (vm : DaemonVm) : vm.markSent.sm = vm.sm := by
  rw [DaemonVm.markSent]
  split_ifs <;> rfl

lemma markSent_desired (vm : DaemonVm) : vm.markSent.desired = vm.desired := by
  rw [DaemonVm.markSent]
  split_ifs <;> rfl

lemma state_of_new {name : String} {vmCfg : VmConfig} {vm : DaemonVm}
    (h : DaemonVm.new name vmCfg = .ok vm) : vm.sm.state = .Init := by
  obtain ⟨cpus, rfl⟩ := exists_layout_of_new h
  rfl

/-- A property of the two states of a VM is kept if `Drives` and the exit of a guest keep it. -/
lemma kept_of_drives {Q : VmState → IpcVmState → Prop} (hnew : Q .Init .Starting)
    (hstop : ∀ s desired, Q s desired → Q s .ShuttingDown)
    (hexit : ∀ desired, Q .Steady desired → Q .Steady .Stopped)
    (hdrives : ∀ s desired s' desired', Q s desired → Drives s desired s' desired' →
      Q s' desired') : Kept W fun vm => Q vm.sm.state vm.desired where
  new name vmCfg vm hvm := by rw [state_of_new hvm]; exact hnew
  stop vm h := hstop _ _ h
  advance env vm w h := by
    rcases advance_drives env vm w with hd | ⟨hsteady, hd⟩
    · exact hdrives _ _ _ _ h hd
    · rw [hsteady] at h
      exact hdrives _ _ _ _ (hexit _ h) hd
  markSent vm h := by rw [markSent_sm, markSent_desired]; exact h

/-- If the operation starts a VM that there is already, then that keeps the property. -/
def StartKeeps (P : DaemonVm → Prop) (s : DaemonState × W) : DaemonOp W → Prop
  | .Command line => ∀ name vm, s.1.vms.lookup name = some vm → vm.sm.state ≠ .Idle →
      s.1.Starts name (s.1.handleShellCommand line).1 → P vm → P { vm with desired := .Starting }
  | .Tick _ _ => True

lemma mem_visited {d : DaemonState} {cfg : RootConfig} (h : d.rootCfg = some cfg) {name : String} :
    name ∈ d.visited ↔ name ∈ cfg.vm := by
  rw [DaemonState.visited, h, AList.mem_keys]
  exact (List.perm_insertionSort _ _).mem_iff

variable {P : DaemonVm → Prop}

/-- A command keeps a property that new VMs have, that stopping keeps, and that is kept where the
command starts a VM that there is already. -/
lemma everyVm_command
    (hnew : ∀ name vmCfg vm, DaemonVm.new name vmCfg = .ok vm → P { vm with desired := .Starting })
    (hstop : ∀ vm, P vm → P { vm with desired := .ShuttingDown }) {s : DaemonState × W}
    (hs : EveryVm P s.1) {line : String} (hkeeps : StartKeeps P s (.Command line)) :
    EveryVm P (s.1.handleShellCommand line).1 := by
  have hsame : (s.1.handleShellCommand line).1.visited = s.1.visited := by
    rw [DaemonState.visited, DaemonState.visited, s.1.rootCfg_handleShellCommand]
  intro name vm hvm
  rw [hsame]
  rcases s.1.commanded_handleShellCommand line name with
    hlook | ⟨hstart, -, hmade, hlook⟩ | ⟨hstart, hold, hidle, hlook⟩ | ⟨hold, hlook⟩
  · exact hs name vm (hlook.symm.trans hvm)
  · obtain rfl := Option.some.inj (hlook.symm.trans hvm)
    obtain ⟨cfg, vmCfg, -, hcfg, hconf, -⟩ := hstart
    have hmem : name ∈ cfg.vm := AList.lookup_isSome.mp (by rw [hconf]; rfl)
    exact ⟨(mem_visited hcfg).mpr hmem, hnew name _ _ hmade⟩
  · obtain rfl := Option.some.inj (hlook.symm.trans hvm)
    obtain ⟨hvisited, hPold⟩ := hs name _ hold
    exact ⟨hvisited, hkeeps name _ hold hidle hstart hPold⟩
  · obtain rfl := Option.some.inj (hlook.symm.trans hvm)
    obtain ⟨hvisited, hPold⟩ := hs name _ hold
    exact ⟨hvisited, hstop _ hPold⟩

/-- A visit of a tick to one VM. -/
lemma everyVm_tickVm {env : TickEnv W} (hadvance : ∀ vm w, P vm → P (vm.advance env w).1)
    {s : DaemonState × W} (hs : EveryVm P s.1) (name : String) :
    EveryVm P (DaemonState.tickVm env s name).1 := by
  intro other vm hother
  have hsame : (DaemonState.tickVm env s name).1.visited = s.1.visited := by
    rw [DaemonState.visited, DaemonState.visited, rootCfg_tickVm]
  rw [hsame]
  by_cases hname : other = name
  · subst hname
    rw [lookup_tickVm_self] at hother
    obtain ⟨vm', hvm', rfl⟩ := Option.map_eq_some_iff.mp hother
    exact ⟨(hs other vm' hvm').1, hadvance vm' s.2 (hs other vm' hvm').2⟩
  · rw [lookup_tickVm_ne hname] at hother
    exact hs other vm hother

/-- The sending of the events at the end of a tick. -/
lemma everyVm_send (hmark : ∀ vm, P vm → P vm.markSent) {d : DaemonState} (hd : EveryVm P d) :
    EveryVm P { d with vms := mapVms DaemonVm.markSent d.vms } := by
  intro name vm hvm
  have hvm' : (mapVms DaemonVm.markSent d.vms).lookup name = some vm := hvm
  rw [lookup_mapVms] at hvm'
  obtain ⟨vm', hlook, rfl⟩ := Option.map_eq_some_iff.mp hvm'
  obtain ⟨hmem, hPvm⟩ := hd name vm' hlook
  exact ⟨hmem, hmark vm' hPvm⟩

lemma everyVm_tick {env : TickEnv W} (hadvance : ∀ vm w, P vm → P (vm.advance env w).1)
    (hmark : ∀ vm, P vm → P vm.markSent) {s : DaemonState × W} (hs : EveryVm P s.1) :
    EveryVm P (DaemonState.tick env s).1 :=
  everyVm_send hmark (run_invariant (I := fun t : DaemonState × W => EveryVm P t.1)
    (fun _ name ht => everyVm_tickVm hadvance ht name) hs _)

/-- **Every managed VM** is configured and has the property, in every run of the daemon in which
no command that starts a VM breaks it. -/
theorem everyVm_run (hP : Kept W P) {s : DaemonState × W} (hs : EveryVm P s.1)
    {ops : List (DaemonOp W)} (hkeeps : Along DaemonState.apply (StartKeeps P) s ops) :
    EveryVm P (run DaemonState.apply s ops).1 := by
  refine run_invariant_along (I := fun t : DaemonState × W => EveryVm P t.1) ?_ hs hkeeps
  intro t op ht hop
  cases op with
  | Command line =>
      simp only [DaemonState.apply]
      exact everyVm_command hP.new hP.stop ht hop
  | Tick tick env =>
      rw [apply_tick]
      exact everyVm_tick (hP.advance env) hP.markSent ht

lemma everyVm_new (rootCfg : Option RootConfig) (global : List IpcEvent)
    (perVm : List IpcVmEvents) : EveryVm P (DaemonState.new rootCfg global perVm) := by
  intro name vm h
  cases h

/-! ## A daemon on a host where nothing happens -/

/-- The host on which every call succeeds and does nothing. -/
def idleHost (W : Type) : Host W where
  call _ _ := pure ()
  detectCpuIdentity _ := none
  numaTopology _ := .ok ⟨[]⟩

/-- The environment of a tick in which nothing happens. -/
def idleEnv (W : Type) : TickEnv W where
  host := idleHost W
  tryWait _ _ := .ok false
  threads _ _ := none

/-- The host of `idleHost` on which a launch records a process. -/
def recordingHost : Host Unit where
  call
    | .LaunchQemu, _ => fun _ => .ok () (some ⟨100⟩, ())
    | _, _ => pure ()
  detectCpuIdentity _ := none
  numaTopology _ := .ok ⟨[]⟩

/-- A daemon with one configured VM. -/
def oneVmDaemon : DaemonState :=
  DaemonState.new (some ⟨AList.singleton "a" (minimalVmConfig {} {})⟩) [] []

end Chalybs
