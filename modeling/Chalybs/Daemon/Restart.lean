import Chalybs.Daemon.Convergence

/-!
# Restarting a VM

`vm restart <name>` is handled like `vm start <name>`: it sets the desired state to Starting.  On a
VM in Steady there is then nothing to do, so QEMU is not restarted.

* `RestartsWithin` — what a restart is to do: the VM goes down to Idle and comes up to Steady.
* `pairwise_statesOf` — ticks alone never take a VM back.
* `steady_run` — quiet ticks leave a VM in Steady as it is.
* `restart_never` — no run of the daemon restarts a VM that is in Steady.
-/

namespace Chalybs

open Foundation

variable {W : Type}

/-! ## What a restart is to do -/

/-- The command line asks for a restart of the VM. -/
def IsRestart (name line : String) : Prop :=
  ∃ rest, (splitWhitespace (trim line.toList)).map String.ofList = "vm" :: "restart" :: name :: rest

/-- The state of the VM after each of the ticks. -/
def statesOf (name : String) (s : DaemonState × W) (ticks : List (UInt64 × TickEnv W)) :
    List VmState :=
  trace DaemonState.applyTick (fun s tick =>
    ((DaemonState.applyTick s tick).1.vms.lookup name).toList.map fun vm => vm.sm.state) s ticks

/-- The VM goes through the shutdown sequence and is then in Steady again. -/
def Restarted (name : String) (s : DaemonState × W) (ticks : List (UInt64 × TickEnv W)) : Prop :=
  List.Sublist [.Shutdown, .Cleanup, .Idle, .Steady] (statesOf name s ticks)

/-- From the state on, `n` ticks without a command, in which every operation succeeds and no guest
exits, restart the VM. -/
def RestartsWithin (n : ℕ) (name : String) (s : DaemonState × W) : Prop :=
  ∀ ticks : List (UInt64 × TickEnv W), ticks.length = n →
    Along DaemonState.applyTick QuietTick s ticks → Restarted name s ticks

/-! ## What the ticks do -/

lemma rank_le_of_mem_statesOf {name : String} {s : DaemonState × W} {vm : DaemonVm}
    (hvm : s.1.vms.lookup name = some vm) {ticks : List (UInt64 × TickEnv W)} {state : VmState}
    (h : state ∈ statesOf name s ticks) : vm.sm.state.rank ≤ state.rank := by
  induction ticks generalizing s vm with
  | nil => exact absurd h List.not_mem_nil
  | cons tick ticks ih =>
      obtain ⟨vm', hvm', hadvance⟩ := lookup_applyTick hvm tick
      have hle : vm.sm.state.rank ≤ vm'.sm.state.rank := by
        rcases hadvance with rfl | ⟨w, rfl⟩
        · exact le_refl _
        · exact rank_le_advance tick.2 vm w
      rw [← markSent_sm vm'] at hle
      rw [statesOf, trace, List.mem_append, hvm'] at h
      rcases h with h | h
      · rw [List.mem_singleton.mp h]
        exact hle
      · exact hle.trans (ih hvm' h)

/-- **Ticks alone never take a VM back.** -/
lemma pairwise_statesOf {name : String} {s : DaemonState × W} {vm : DaemonVm}
    (hvm : s.1.vms.lookup name = some vm) (ticks : List (UInt64 × TickEnv W)) :
    (statesOf name s ticks).Pairwise fun state state' => state.rank ≤ state'.rank := by
  induction ticks generalizing s vm with
  | nil => exact List.Pairwise.nil
  | cons tick ticks ih =>
      obtain ⟨vm', hvm', -⟩ := lookup_applyTick hvm tick
      rw [statesOf, trace, hvm']
      refine List.pairwise_cons.mpr ⟨fun state hstate => ?_, ih hvm'⟩
      exact rank_le_of_mem_statesOf hvm' hstate

/-- Quiet ticks leave a VM that is wanted and in Steady as it is. -/
lemma steady_run {s : DaemonState × W} {ticks : List (UInt64 × TickEnv W)}
    (h : Along DaemonState.applyTick QuietTick s ticks) {name : String} {vm : DaemonVm}
    (hname : name ∈ s.1.visited) (hvm : s.1.vms.lookup name = some vm)
    (hsteady : vm.sm.state = .Steady) (hup : vm.desired.WantsUp) :
    ∃ vm', (run DaemonState.applyTick s ticks).1.vms.lookup name = some vm' ∧ vm'.sm = vm.sm := by
  induction ticks generalizing s vm with
  | nil => exact ⟨vm, hvm, rfl⟩
  | cons tick ticks ih =>
      obtain ⟨hquiet, hrest⟩ := along_cons.mp h
      obtain ⟨hvisited, w, hadvances, hafter⟩ := lookup_quietTick hquiet hname hvm
      have hdue := due_eq_none_of_wantsUp hup (by rw [hsteady]; decide : ¬ vm.sm.state.IsBringUp)
      have hadvance : (vm.advance tick.2 w).1 =
          { vm with desired := vm.desired.atRest .Steady } := by
        rw [DaemonVm.advance, pollQemu_of_not_exited hadvances.1, drive_rests hdue, hsteady]
      rw [hadvance] at hafter
      obtain ⟨vm', hvm', hsm⟩ := ih hrest hvisited hafter (by rw [markSent_sm]; exact hsteady)
        (by rw [markSent_desired]; exact wantsUp_atRest.mpr hup)
      exact ⟨vm', hvm', hsm.trans (markSent_sm _)⟩

/-! ## The command -/

/-- The command line of a restart is handled by starting the VM. -/
lemma handleShellCommand_restart {d : DaemonState} {cfg : RootConfig} (hcfg : d.rootCfg = some cfg)
    {name line : String} (h : IsRestart name line) :
    d.handleShellCommand line = d.vmStart cfg "restart" name := by
  obtain ⟨rest, hwords⟩ := h
  rw [DaemonState.handleShellCommand, hwords]
  simp [DaemonState.handleVmCommand, hcfg]

/-- A restart of a configured VM that is not in Idle sets its desired state, and does nothing
else. -/
lemma lookup_restart {d : DaemonState} {name line : String} {vm : DaemonVm}
    (hname : name ∈ d.visited) (hvm : d.vms.lookup name = some vm) (hidle : vm.sm.state ≠ .Idle)
    (h : IsRestart name line) :
    (d.handleShellCommand line).1.vms.lookup name = some { vm with desired := .Starting } := by
  cases hcfg : d.rootCfg with
  | none => simp [DaemonState.visited, hcfg] at hname
  | some cfg =>
      obtain ⟨vmCfg, hconf⟩ := Option.isSome_iff_exists.mp
        (AList.lookup_isSome.mpr ((mem_visited hcfg).mp hname))
      have hstart : d.vmToStart name vmCfg = .ok vm := by
        simp [DaemonState.vmToStart, hvm, hidle]
      rw [handleShellCommand_restart hcfg h, DaemonState.vmStart, hconf]
      simp only [hstart]
      exact AList.lookup_insert _

/-- **A VM in Steady is never restarted.**  In every run of the daemon: a command line that asks
for a restart of a VM that is in Steady with a recorded QEMU process does not restart it.  Whatever
the ticks after it find, they do not take the VM down and up again; and as long as everything
succeeds the VM stays in Steady with the same process. -/
theorem restart_never (rootCfg : Option RootConfig) (global : List IpcEvent)
    (perVm : List IpcVmEvents) (w : W) (ops : List (DaemonOp W)) {name line : String}
    {vm : DaemonVm} {q : QemuState} :
    let s := run DaemonState.apply (DaemonState.new rootCfg global perVm, w) ops
    let s' := DaemonState.apply s (.Command line)
    s.1.vms.lookup name = some vm → vm.sm.state = .Steady → vm.sm.rt.qemu = some q →
      IsRestart name line →
        ¬ RestartsWithin 24 name s' ∧ (∀ ticks, ¬ Restarted name s' ticks) ∧
          ∀ ticks, Along DaemonState.applyTick QuietTick s' ticks →
            ∃ vm', (run DaemonState.applyTick s' ticks).1.vms.lookup name = some vm' ∧
              vm'.sm.state = .Steady ∧ vm'.sm.rt.qemu = some q := by
  intro s s' hvm hsteady hq hline
  have hname : name ∈ s.1.visited := by
    refine (everyVm_run kept_rested (everyVm_new rootCfg global perVm) ?_ name vm hvm).1
    rintro pre (line | ⟨tick, env⟩) post -
    · exact fun name vm _ hidle _ _ h => absurd h hidle
    · trivial
  have hcommand : s'.1 = (s.1.handleShellCommand line).1 := by
    simp only [s', apply_command]
  have hvm' : s'.1.vms.lookup name = some { vm with desired := .Starting } := by
    rw [hcommand]
    exact lookup_restart hname hvm (by rw [hsteady]; decide) hline
  have hnever : ∀ ticks, ¬ Restarted name s' ticks := by
    intro ticks h
    have hback := (pairwise_statesOf hvm' ticks).sublist h
    revert hback
    decide
  refine ⟨fun h => ?_, hnever, fun ticks hquiet => ?_⟩
  · refine hnever _ (h (List.replicate 24 (1, idleEnv W)) (by simp) ?_)
    exact along_replicate fun t => quietTick_idle t 1
  · have hvisited : name ∈ s'.1.visited := by
      rw [DaemonState.visited, hcommand, s.1.rootCfg_handleShellCommand line]
      exact hname
    obtain ⟨vm₁, hvm₁, hsm⟩ := steady_run hquiet hvisited hvm' hsteady (.inl rfl)
    exact ⟨vm₁, hvm₁, by rw [hsm]; exact hsteady, by rw [hsm]; exact hq⟩

/-! ## A VM that is not restarted -/

/-- The VM is started and taken to Steady. -/
def startedRun : List (DaemonOp Unit) :=
  .Command "vm start a" ::
    List.replicate 11 (.Tick 1 { idleEnv Unit with host := recordingHost })

/-- The state after the VM has come to Steady and the restart was asked for. -/
def restartRequested : DaemonState × Unit :=
  DaemonState.apply (run DaemonState.apply (oneVmDaemon, ()) startedRun) (.Command "vm restart a")

theorem started_not_restarted : ¬ RestartsWithin 24 "a" restartRequested := by
  intro h
  have hstates : statesOf "a" restartRequested (List.replicate 24 (1, idleEnv Unit)) =
      List.replicate 24 .Steady := by decide
  have hrestarted := h (List.replicate 24 (1, idleEnv Unit)) (by simp)
    (along_replicate fun t => quietTick_idle t 1)
  rw [Restarted, hstates] at hrestarted
  revert hrestarted
  decide

theorem restart_never_started :
    IsRestart "a" "vm restart a" ∧ ∀ ticks, ¬ Restarted "a" restartRequested ticks := by
  have hview : ((run DaemonState.apply (oneVmDaemon, ()) startedRun).1.vms.lookup "a").map
      (fun vm => (vm.sm.state, vm.sm.rt.qemu)) = some (.Steady, some ⟨100⟩) := by decide
  obtain ⟨vm, hvm, hstates⟩ := Option.map_eq_some_iff.mp hview
  obtain ⟨hstate, hqemu⟩ := Prod.mk.inj hstates
  have hline : IsRestart "a" "vm restart a" := ⟨[], by decide⟩
  rw [restartRequested]
  rw [oneVmDaemon] at hvm ⊢
  exact ⟨hline, (restart_never (some ⟨AList.singleton "a" (minimalVmConfig {} {})⟩) [] [] ()
    startedRun hvm hstate hqemu hline).2.1⟩

end Chalybs
