import Chalybs.Daemon.Run

/-!
# Convergence

Once the commands stop and everything succeeds, the daemon takes every VM to the state it is wanted
in, unless a VM is stuck: a VM that is wanted up while it is in Shutdown or Cleanup is neither
started nor shut down any further.

* `IpcVmState.distance` — the number of quiet ticks that a VM still needs; `due_distance` says that
  each of them is a step.
* `quiet_run` — a run of quiet ticks.
* `not_converges_of_stuck` — a stuck VM stays where it is.
* `converges_iff` — the daemon converges exactly when no VM is stuck.
-/

namespace Chalybs

open Foundation

variable {W : Type}

/-! ## One VM -/

/-- Wanted up, but on the way down. -/
def DaemonVm.Stuck (vm : DaemonVm) : Prop :=
  (vm.sm.state = .Shutdown ∨ vm.sm.state = .Cleanup) ∧ vm.desired.WantsUp

/-- The state that the VM is to be taken to. -/
def IpcVmState.target (desired : IpcVmState) : VmState :=
  if desired.WantsUp then .Steady else .Idle

/-- A VM in Idle is not wanted up: a command that starts it makes it a new one. -/
def DaemonVm.Rested (vm : DaemonVm) : Prop := vm.sm.state = .Idle → ¬ vm.desired.WantsUp

/-- The number of operations from the state to the target. -/
def IpcVmState.distance (desired : IpcVmState) (s : VmState) : ℕ :=
  if desired.WantsUp then VmState.Steady.rank - s.rank
  else if s.OnShutdownPath then VmState.Idle.rank - s.rank
  else 3

/-- A machine that can make its way to the target: it is not on the way down when wanted up. -/
def IpcVmState.OnCourse (desired : IpcVmState) (s : VmState) : Prop :=
  desired.WantsUp → ¬ s.OnShutdownPath

instance (desired : IpcVmState) (s : VmState) : Decidable (desired.OnCourse s) :=
  inferInstanceAs (Decidable (_ → _))

section

variable {desired : IpcVmState} {s s' : VmState}

lemma distance_le : desired.distance s ≤ 11 := by
  cases desired <;> cases s <;> decide

lemma state_of_distance (h : desired.OnCourse s) (hd : desired.distance s = 0) :
    s = desired.target := by
  revert h hd
  cases desired <;> cases s <;> decide

/-- At rest the VM has arrived. -/
lemma due_none (h : desired.OnCourse s) (hdue : desired.due s = none) :
    desired.distance s = 0 := by
  revert h hdue
  cases desired <;> cases s <;> decide

lemma eq_stepShutdown_of_next {op : Op} (h : op.next s = some .Idle) : op = .StepShutdown := by
  revert h
  cases op <;> cases s <;> decide

lemma distance_congr {desired' : IpcVmState} (h : desired'.WantsUp ↔ desired.WantsUp) :
    desired'.distance s = desired.distance s := by
  simp only [IpcVmState.distance, h]

/-- **A successful operation is one step closer.** -/
lemma due_distance {op : Op} (h : desired.OnCourse s) (hdue : desired.due s = some op)
    (hnext : op.next s = some s') :
    desired.OnCourse s' ∧ desired.distance s' = desired.distance s - 1 := by
  revert s'
  revert op
  revert h
  cases desired <;> cases s <;> decide

/-- A VM is on course unless it is stuck. -/
lemma onCourse_iff {vm : DaemonVm} (h : vm.Rested) :
    vm.desired.OnCourse vm.sm.state ↔ ¬ vm.Stuck := by
  obtain ⟨⟨s, rt⟩, desired, sent⟩ := vm
  simp only [DaemonVm.Rested, DaemonVm.Stuck] at h ⊢
  revert h
  cases desired <;> cases s <;> decide

end

/-! ## Quiet ticks -/

/-- The tick does not see the guest exit, and the operation it performs succeeds. -/
def DaemonVm.AdvancesQuietly (env : TickEnv W) (vm : DaemonVm) (w : W) : Prop :=
  ¬ vm.Exited env w ∧ ∀ op, vm.desired.due vm.sm.state = some op →
    (outcome (env.host.perform op) (vm.sm, w)).1 = true

/-- In this tick every operation succeeds and no guest exits. -/
def QuietTick (s : DaemonState × W) (tick : UInt64 × TickEnv W) : Prop :=
  Along (DaemonState.tickVm tick.2) (fun t name => ∀ vm, t.1.vms.lookup name = some vm →
    vm.AdvancesQuietly tick.2 t.2) s s.1.visited

/-- The state after a tick. -/
def DaemonState.applyTick (s : DaemonState × W) (tick : UInt64 × TickEnv W) : DaemonState × W :=
  DaemonState.apply s (.Tick tick.1 tick.2)

/-- A tick advances a VM or leaves it as it was. -/
lemma lookup_applyTick {s : DaemonState × W} {name : String} {vm : DaemonVm}
    (hvm : s.1.vms.lookup name = some vm) (tick : UInt64 × TickEnv W) :
    ∃ vm', (DaemonState.applyTick s tick).1.vms.lookup name = some vm'.markSent ∧
      (vm' = vm ∨ ∃ w, vm' = (vm.advance tick.2 w).1) := by
  rw [DaemonState.applyTick, apply_tick]
  by_cases hname : name ∈ s.1.visited
  · obtain ⟨pre, post, hnames⟩ := List.append_of_mem hname
    exact ⟨_, (lookup_tick hnames hvm).2, .inr ⟨_, rfl⟩⟩
  · exact ⟨vm, by rw [lookup_tick_of_not_visited hname, hvm]; rfl, .inl rfl⟩

/-- A quiet tick advances a VM quietly, and goes on to visit it. -/
lemma lookup_quietTick {s : DaemonState × W} {tick : UInt64 × TickEnv W} (h : QuietTick s tick)
    {name : String} {vm : DaemonVm} (hname : name ∈ s.1.visited)
    (hvm : s.1.vms.lookup name = some vm) :
    name ∈ (DaemonState.applyTick s tick).1.visited ∧ ∃ w, vm.AdvancesQuietly tick.2 w ∧
      (DaemonState.applyTick s tick).1.vms.lookup name =
        some (vm.advance tick.2 w).1.markSent := by
  obtain ⟨pre, post, hnames⟩ := List.append_of_mem hname
  obtain ⟨hbefore, hafter⟩ := @lookup_tick _ tick.2 _ _ _ _ _ hnames hvm
  rw [DaemonState.applyTick, apply_tick]
  refine ⟨?_, _, h pre name post hnames vm hbefore, hafter⟩
  rw [DaemonState.visited, rootCfg_tick]
  exact hname

/-- The VM after a tick: as far as it matters here, an operation closer to its target. -/
def DaemonVm.CloserThan (vm' vm : DaemonVm) (n : ℕ) : Prop :=
  (vm'.desired.WantsUp ↔ vm.desired.WantsUp) ∧ vm'.desired.OnCourse vm'.sm.state ∧
    vm'.desired.distance vm'.sm.state = vm.desired.distance vm.sm.state - n

/-- **A quiet tick brings a VM on course one step closer.** -/
lemma advance_closer {env : TickEnv W} {vm : DaemonVm} {w : W} (h : vm.AdvancesQuietly env w)
    (hcourse : vm.desired.OnCourse vm.sm.state) : (vm.advance env w).1.CloserThan vm 1 := by
  obtain ⟨hexit, hok⟩ := h
  rw [DaemonVm.advance, pollQemu_of_not_exited hexit]
  cases hdue : vm.desired.due vm.sm.state with
  | none =>
      rw [drive_rests hdue]
      have hzero := due_none hcourse hdue
      refine ⟨wantsUp_atRest, fun hup => hcourse (wantsUp_atRest.mp hup), ?_⟩
      refine (distance_congr wantsUp_atRest).trans ?_
      show vm.desired.distance vm.sm.state = vm.desired.distance vm.sm.state - 1
      rw [hzero]
  | some op =>
      have hstate := perform_state env.host op (vm.sm, w)
      cases hx : env.host.perform op (vm.sm, w) with
      | ok a t =>
          rw [hx] at hstate
          rw [drive_succeeds hdue hx]
          exact ⟨Iff.rfl, due_distance hcourse hdue hstate⟩
      | error e t =>
          have hfail := hok op hdue
          rw [outcome_of_error hx] at hfail
          cases hfail

/-- **A run of quiet ticks** brings every VM that is on course as many steps closer. -/
theorem quiet_run {s : DaemonState × W} {ticks : List (UInt64 × TickEnv W)}
    (h : Along DaemonState.applyTick QuietTick s ticks) {name : String} {vm : DaemonVm}
    (hname : name ∈ s.1.visited) (hvm : s.1.vms.lookup name = some vm)
    (hcourse : vm.desired.OnCourse vm.sm.state) :
    ∃ vm', (run DaemonState.applyTick s ticks).1.vms.lookup name = some vm' ∧
      vm'.CloserThan vm ticks.length := by
  induction ticks generalizing s vm with
  | nil => exact ⟨vm, hvm, Iff.rfl, hcourse, rfl⟩
  | cons tick ticks ih =>
      obtain ⟨hquiet, hrest⟩ := along_cons.mp h
      obtain ⟨hvisited, w, hadvances, hafter⟩ := lookup_quietTick hquiet hname hvm
      have hclose := advance_closer hadvances hcourse
      obtain ⟨vm', hvm', hclose'⟩ := ih hrest hvisited hafter
        (by rw [markSent_sm, markSent_desired]; exact hclose.2.1)
      refine ⟨vm', hvm', ?_⟩
      simp only [DaemonVm.CloserThan, markSent_sm, markSent_desired] at hclose'
      obtain ⟨hup, -, hdist⟩ := hclose
      obtain ⟨hup', hcourse', hdist'⟩ := hclose'
      exact ⟨hup'.trans hup, hcourse', by rw [hdist', hdist, List.length_cons]; omega⟩

/-! ## A host on which everything succeeds -/

lemma perform_idleHost {op : Op} {sm : VmStateMachine} {w : W} (h : op.next sm.state ≠ none) :
    (outcome ((idleHost W).perform op) (sm, w)).1 = true := by
  obtain ⟨state, rt⟩ := sm
  cases op <;> cases state <;> first | rfl | exact absurd rfl h

lemma next_of_due {desired : IpcVmState} {s : VmState} {op : Op} (h : desired.due s = some op) :
    op.next s ≠ none := by
  revert op
  cases desired <;> cases s <;> decide

lemma quietTick_idle (s : DaemonState × W) (tick : UInt64) : QuietTick s (tick, idleEnv W) := by
  rintro pre name post - vm -
  refine ⟨?_, fun op hdue => perform_idleHost (next_of_due hdue)⟩
  rintro ⟨-, q, -, hwait⟩
  cases hwait

/-- **A stuck VM stays where it is**, whatever a tick finds. -/
lemma advance_stuck {env : TickEnv W} {vm : DaemonVm} {w : W} (h : vm.Stuck) :
    (vm.advance env w).1 = vm := by
  obtain ⟨hstate, hup⟩ := h
  have hsteady : vm.sm.state ≠ .Steady := by
    rcases hstate with hs | hs <;> rw [hs] <;> decide
  have hexit : ¬ vm.Exited env w := fun hexit => hsteady hexit.1
  have hdue : vm.desired.due vm.sm.state = none := by
    refine due_eq_none_of_wantsUp hup ?_
    rcases hstate with hs | hs <;> rw [hs] <;> decide
  rw [DaemonVm.advance, pollQemu_of_not_exited hexit, drive_rests hdue, IpcVmState.atRest,
    if_neg fun hrest => hsteady hrest.2]

lemma run_stuck {s : DaemonState × W} {name : String} {vm : DaemonVm} (h : vm.Stuck)
    (hvm : s.1.vms.lookup name = some vm) (ticks : List (UInt64 × TickEnv W)) :
    ∃ vm', (run DaemonState.applyTick s ticks).1.vms.lookup name = some vm' ∧ vm'.sm = vm.sm := by
  induction ticks generalizing s vm with
  | nil => exact ⟨vm, hvm, rfl⟩
  | cons tick ticks ih =>
      have hafter : (DaemonState.applyTick s tick).1.vms.lookup name = some vm.markSent := by
        obtain ⟨vm', hvm', rfl | ⟨w, rfl⟩⟩ := lookup_applyTick hvm tick
        · exact hvm'
        · rwa [advance_stuck h] at hvm'
      have hstuck : vm.markSent.Stuck := by
        simp only [DaemonVm.Stuck, markSent_sm, markSent_desired]
        exact h
      obtain ⟨vm', hvm', hsm⟩ := ih hstuck hafter
      exact ⟨vm', hvm', hsm.trans (markSent_sm vm)⟩

/-! ## The daemon -/

/-- From the state on, 16 or more ticks without a command, in which every operation succeeds and no
guest exits, take every managed VM to its target. -/
def Converges (s : DaemonState × W) : Prop :=
  ∀ ticks : List (UInt64 × TickEnv W), 16 ≤ ticks.length →
    Along DaemonState.applyTick QuietTick s ticks →
      ∀ name vm, s.1.vms.lookup name = some vm →
        ∃ vm', (run DaemonState.applyTick s ticks).1.vms.lookup name = some vm' ∧
          vm'.sm.state = vm.desired.target

/-- No managed VM is stuck. -/
def NoneStuck (d : DaemonState) : Prop := ∀ name vm, d.vms.lookup name = some vm → ¬ vm.Stuck

/-- A command that starts a VM does not come while the VM is in Shutdown or Cleanup. -/
def TimelyStart (s : DaemonState × W) : DaemonOp W → Prop
  | .Command line => ∀ name vm, s.1.vms.lookup name = some vm →
      s.1.Starts name (s.1.handleShellCommand line).1 →
        vm.sm.state ≠ .Shutdown ∧ vm.sm.state ≠ .Cleanup
  | .Tick _ _ => True

/-- When a VM is stuck the daemon does not converge. -/
lemma not_converges_of_stuck {s : DaemonState × W} {name : String} {vm : DaemonVm}
    (hvm : s.1.vms.lookup name = some vm) (h : vm.Stuck) : ¬ Converges s := by
  intro hconv
  have hquiet : Along DaemonState.applyTick QuietTick s (List.replicate 16 (1, idleEnv W)) :=
    along_replicate fun t => quietTick_idle t 1
  obtain ⟨vm₁, hvm₁, htarget⟩ := hconv _ (by simp) hquiet name vm hvm
  obtain ⟨vm₂, hvm₂, hsm⟩ := run_stuck h hvm (List.replicate 16 (1, idleEnv W))
  obtain rfl : vm₁ = vm₂ := Option.some.inj (hvm₁.symm.trans hvm₂)
  rw [hsm, IpcVmState.target, if_pos h.2] at htarget
  rcases h.1 with hs | hs <;> rw [hs] at htarget <;> cases htarget

lemma converges_of_everyVm {s : DaemonState × W} (hs : EveryVm DaemonVm.Rested s.1)
    (h : NoneStuck s.1) : Converges s := by
  intro ticks hlen hquiet name vm hvm
  obtain ⟨hname, hrested⟩ := hs name vm hvm
  obtain ⟨vm', hvm', hup, hcourse, hdist⟩ :=
    quiet_run hquiet hname hvm ((onCourse_iff hrested).mpr (h name vm hvm))
  have hle : vm.desired.distance vm.sm.state ≤ 11 := distance_le
  refine ⟨vm', hvm', ?_⟩
  rw [state_of_distance hcourse (by omega), IpcVmState.target, IpcVmState.target]
  simp only [hup]

lemma kept_rested : Kept W DaemonVm.Rested := by
  refine kept_of_drives (Q := fun s desired => s = .Idle → ¬ desired.WantsUp) (by decide)
    (fun _ _ _ _ => by decide) (fun _ _ h => by cases h) ?_
  rintro s desired s' desired' h (hdue | ⟨hdue, hnext⟩ | hdue) hidle
  · exact fun hup => h hidle (wantsUp_atRest.mp hup)
  · rw [hidle] at hnext
    rw [← step_due hdue, eq_stepShutdown_of_next hnext]
    decide
  · exact not_wantsUp_afterFailure hdue

lemma kept_onCourse : Kept W fun vm => vm.desired.OnCourse vm.sm.state := by
  refine kept_of_drives (Q := fun s desired => desired.OnCourse s) (by decide)
    (fun s _ _ hup => absurd hup (by decide)) (fun _ _ hup => absurd hup (by decide)) ?_
  rintro s desired s' desired' h (hdue | ⟨hdue, hnext⟩ | hdue) hup
  · exact h (wantsUp_atRest.mp hup)
  · exact (due_distance h hdue hnext).1 hup
  · exact absurd hup (not_wantsUp_afterFailure hdue)

/-- **Convergence.**  In every run of the daemon: the state reached converges exactly when no
managed VM is in Shutdown or Cleanup while it is wanted up, and no VM ever is if no command starts
a VM that is then in Shutdown or Cleanup. -/
theorem converges_iff (rootCfg : Option RootConfig) (global : List IpcEvent)
    (perVm : List IpcVmEvents) (w : W) (ops : List (DaemonOp W)) :
    let s₀ := (DaemonState.new rootCfg global perVm, w)
    let s := run DaemonState.apply s₀ ops
    (Converges s ↔ NoneStuck s.1) ∧ (Along DaemonState.apply TimelyStart s₀ ops → Converges s) := by
  intro s₀ s
  have hrested : EveryVm DaemonVm.Rested s.1 := by
    refine everyVm_run kept_rested (everyVm_new rootCfg global perVm) ?_
    rintro pre (line | ⟨tick, env⟩) post -
    · exact fun name vm _ hidle _ _ h => absurd h hidle
    · trivial
  refine ⟨⟨?_, converges_of_everyVm hrested⟩, ?_⟩
  · intro hconv name vm hvm hstuck
    exact not_converges_of_stuck hvm hstuck hconv
  · intro htimely
    have hcourse : EveryVm (fun vm => vm.desired.OnCourse vm.sm.state) s.1 := by
      refine everyVm_run kept_onCourse (everyVm_new rootCfg global perVm) ?_
      rintro pre (line | ⟨tick, env⟩) post hops
      · intro name vm hvm hidle hstart _ _ hpath
        obtain ⟨hshutdown, hcleanup⟩ := htimely pre _ post hops name vm hvm hstart
        rcases eq_of_onShutdownPath hpath with hs | hs | hs
        · exact hshutdown hs
        · exact hcleanup hs
        · exact hidle hs
      · trivial
    refine converges_of_everyVm hrested fun name vm hvm => ?_
    exact (onCourse_iff (hrested name vm hvm).2).mp (hcourse name vm hvm).2

/-! ## A VM that gets stuck -/

/-- The VM is started, stopped after one step, and started again after one step of the
shutdown. -/
def restartDuringShutdown : List (DaemonOp Unit) :=
  [.Command "vm start a", .Tick 1 (idleEnv Unit), .Command "vm stop a", .Tick 2 (idleEnv Unit),
    .Command "vm start a"]

theorem restart_sticks :
    ¬ Converges (run DaemonState.apply (oneVmDaemon, ()) restartDuringShutdown) := by
  have hview : ((run DaemonState.apply (oneVmDaemon, ()) restartDuringShutdown).1.vms.lookup
      "a").map (fun vm => (vm.sm.state, vm.desired)) = some (.Shutdown, .Starting) := by decide
  obtain ⟨vm, hvm, hstates⟩ := Option.map_eq_some_iff.mp hview
  obtain ⟨hstate, hdesired⟩ := Prod.mk.inj hstates
  exact not_converges_of_stuck hvm ⟨.inl hstate, .inl hdesired⟩

end Chalybs
