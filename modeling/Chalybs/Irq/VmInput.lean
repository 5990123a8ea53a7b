import Chalybs.Irq.HostInput

/-!
# The monitor of a VM that came up

Two places switch the monitor to the VM.  `apply_vm_up` does so only when the IRQ pinning is
complete, which nothing ever notes; the worker does so at its end, unless there was nothing for it
to pin.

* `vmSwitches` — how often the monitor was switched to the VM.
* `Alive`, `QemuRecorded` — the worker finds QEMU, and DetectMsi finds its process recorded.
* `Progress` — what the worker has switched by the time it is where it is.
* `switched_once_iff` — the monitor is switched once exactly when some device is eligible and
  DetectMsi found the process.
-/

namespace Chalybs

open Foundation

variable {V : Type}

/-- How often the monitor was switched to the VM, by either place. -/
def vmSwitches (log : List DdcCommand) : ℕ := log.countP fun c => decide (c.phase ≠ .VmDown)

/-- The worker finds that QEMU exists. -/
def Alive (s : IrqState V) : IrqOp V → Prop
  | .WorkerStep os => ∀ w, s.2.worker = some w → os.processExists w.qemuPid s.2.rest = true
  | .Tick _ _ | .Start | .Stop => True

/-- DetectMsi finds the process of QEMU recorded. -/
def QemuRecorded (s : IrqState V) (op : IrqOp V) : Prop :=
  Takes .DetectMsi s op → s.1.sm.rt.qemu ≠ none

/-- The worker has returned. -/
def WorkerPoint.HasReturned : WorkerPoint → Prop
  | .Returned _ => True
  | .Entry | .Check _ | .Scan _ _ | .Finish _ => False

instance : (point : WorkerPoint) → Decidable point.HasReturned
  | .Returned _ => isTrue trivial
  | .Entry | .Check _ | .Scan _ _ | .Finish _ => isFalse id

/-- How often the monitor was switched when the worker is at a point, where `work` is what it has
to do. -/
def Progress (work : List PciDeviceConfig) (n : ℕ) : WorkerPoint → Prop
  | .Entry => n = 0
  | .Check _ | .Scan _ _ | .Finish _ => work ≠ [] ∧ n = 0
  | .Returned _ => n = if work = [] then 0 else 1

section

variable {sys : DeviceSysfs} {cfg : VmConfig} {cpus : VmCpuLayout} {s : IrqState V}

lemma vmSwitches_append (log added : List DdcCommand) :
    vmSwitches (log ++ added) = vmSwitches log + vmSwitches added := List.countP_append

lemma vmSwitches_downCommands : vmSwitches cfg.downCommands = 0 := by
  rw [vmSwitches, List.countP_eq_zero]
  intro c hc
  simp [(mem_downCommands hc).1]

lemma vmSwitches_upCommands {ddc : DdcConfig} (h : cfg.ddc = some ddc) :
    vmSwitches cfg.upCommands = 1 := by
  rw [VmConfig.upCommands, h]
  rfl

/-! ## What the worker has switched -/

/-- **A step of the worker** that finds QEMU keeps the count. -/
lemma progress_moves {w : IrqWorker} {p p' : WorkerPoint} {added : List DdcCommand} {n : ℕ}
    {ddc : DdcConfig} (hddc : w.vmCfg.ddc = some ddc) (h : Moves sys w true p added p')
    (hp : Progress ((workItems sys w.vmCfg w.vmCpus w.devices).map DeviceWork.dev) n p) :
    Progress ((workItems sys w.vmCfg w.vmCpus w.devices).map DeviceWork.dev)
      (n + vmSwitches added) p' := by
  cases h with
  | skips hnone =>
      rw [hnone]
      exact hp
  | enters hsome => exact ⟨fun h => hsome (List.map_eq_nil_iff.mp h), hp⟩
  | aborts hgone => cases hgone
  | switches =>
      rw [vmSwitches_upCommands hddc, hp.2]
      exact (if_neg hp.1).symm
  | finds | scans | repeats | finishes | rests => exact hp

/-- What holds in a run in which QEMU stays alive. -/
structure Switching (sys : DeviceSysfs) (cfg : VmConfig) (cpus : VmCpuLayout) (s : IrqState V) :
    Prop where
  inv : IrqInv cfg cpus s
  none : s.2.worker = none → vmSwitches s.2.ddc = 0
  some : ∀ w, s.2.worker = some w →
    Progress (eligible sys cfg cpus.vm.cpus) (vmSwitches s.2.ddc) w.point

lemma Switching.same (hs : Switching sys cfg cpus s) {s' : IrqState V} (hinv : IrqInv cfg cpus s')
    (hworker : s'.2.worker = s.2.worker) (hcount : vmSwitches s'.2.ddc = vmSwitches s.2.ddc) :
    Switching sys cfg cpus s' where
  inv := hinv
  none h := hcount.trans (hs.none (hworker.symm.trans h))
  some w hw := by
    rw [hcount]
    exact hs.some w (hworker.symm.trans hw)

/-- **One event** keeps the count. -/
lemma Switching.applyIrq {ddc : DdcConfig} (hddc : cfg.ddc = Option.some ddc)
    (hs : Switching sys cfg cpus s) {op : IrqOp V} (hop : Alive s op) :
    Switching sys cfg cpus (applyIrq sys s op) := by
  have hinv : IrqInv cfg cpus (Chalybs.applyIrq sys s op) := hs.inv.applyIrq sys op
  rcases evolves_applyIrq sys hs.inv.gate op with
    ⟨-, -, hworker, hlog, -, -⟩ | ⟨-, hstate, -, hworld, -⟩ | ⟨-, -, -, hworld, -⟩ |
    ⟨-, -, -, hworker, hlog, -, -⟩ | ⟨rfl, hold, -, hworker, hlog, hmoves⟩
  · exact hs.same hinv hworker (by rw [hlog])
  · have hnone := hs.inv.early (by rw [hstate])
    refine ⟨hinv, fun _ => ?_, fun w hw => ?_⟩
    · rw [hworld]
      exact hs.none hnone
    · rw [hworld, worker_spawn hnone] at hw
      obtain ⟨-, -, -, hpoint⟩ := args_of_spawn hw
      rw [hpoint, hworld]
      exact hs.none hnone
  · exact hs.same hinv (by rw [hworld]) (by rw [hworld])
  · refine hs.same hinv hworker ?_
    rcases hlog with hlog | hlog
    · rw [hlog]
    · rw [hlog, vmSwitches_append, hs.inv.sameCfg, vmSwitches_downCommands, Nat.add_zero]
  · rename_i os w added point
    obtain ⟨hcfg, hcpus, hdevices⟩ := hs.inv.args w hold
    refine ⟨hinv, fun h => (by cases hworker.symm.trans h), fun w' hw' => ?_⟩
    obtain rfl := Option.some.inj (hworker.symm.trans hw')
    have hwork : eligible sys cfg cpus.vm.cpus =
        (workItems sys w.vmCfg w.vmCpus w.devices).map DeviceWork.dev := by
      rw [hcfg, hcpus, hdevices]
      rfl
    have hprogress := hs.some w hold
    rw [hop w hold] at hmoves
    rw [hwork] at hprogress ⊢
    rw [hlog, vmSwitches_append]
    exact progress_moves (by rw [hcfg]; exact hddc) hmoves hprogress

/-! ## Whether there is a worker -/

/-- Either DetectMsi found the process, and there is a worker after it if a device is configured; or
it did not, and there is none. -/
def Spawning (cfg : VmConfig) (s : IrqState V) (recorded : Prop) : Prop :=
  recorded ∧ (s.1.sm.state.AfterDetect → collectDevices cfg ≠ [] → s.2.worker ≠ none) ∨
    ¬ recorded ∧ VmState.DetectMsi.rank < s.1.sm.state.rank ∧ s.2.worker = none

lemma spawn_eq_none {rt : VmRuntime} (h : rt.qemu = none) : spawnIrqPinWorker rt = none := by
  simp only [spawnIrqPinWorker, h, Option.map_none, ite_self]

lemma spawn_ne_none {rt : VmRuntime} (hqemu : rt.qemu ≠ none)
    (hdevices : collectDevices rt.cfg ≠ []) : spawnIrqPinWorker rt ≠ none := by
  simp only [spawnIrqPinWorker, List.isEmpty_iff]
  rw [if_neg hdevices]
  simpa using hqemu

/-- **One event** decides it, if it is the tick through DetectMsi. -/
lemma Spawning.applyIrq {recorded : Prop} (h : Spawning cfg s recorded) (hs : IrqInv cfg cpus s)
    (op : IrqOp V) : Spawning cfg (applyIrq sys s op) (recorded ∧ QemuRecorded s op) := by
  have hother : ¬ Takes .DetectMsi s op → QemuRecorded s op := fun hnot htakes => absurd htakes hnot
  rcases evolves_applyIrq sys hs.gate op with
    ⟨hdetect, -, hworker, -, -, hmove⟩ | ⟨htakes, hstate, hstate', hworld, -⟩ |
    ⟨-, hstate, hstate', hworld, -⟩ | ⟨-, hstate, hrank, hworker, -, -, -⟩ |
    ⟨rfl, hold, hvm, hworker, -, -⟩
  · rcases h with ⟨hrec, hsome⟩ | ⟨hrec, hrank, hnone⟩
    · refine .inl ⟨⟨hrec, hother hdetect⟩, fun hafter hdevices => ?_⟩
      rw [hworker]
      exact hsome (hmove.afterDetect hafter) hdevices
    · exact .inr ⟨fun hboth => hrec hboth.1, hrank.trans_le hmove.rank_le, hworker.trans hnone⟩
  · have hnone := hs.early (by rw [hstate])
    have hworker : (Chalybs.applyIrq sys s op).2.worker = spawnIrqPinWorker s.1.sm.rt := by
      rw [hworld, worker_spawn hnone]
    rcases h with ⟨hrec, -⟩ | ⟨-, hrank, -⟩
    · by_cases hqemu : s.1.sm.rt.qemu = none
      · refine .inr ⟨fun hboth => hboth.2 htakes hqemu, ?_, hworker.trans (spawn_eq_none hqemu)⟩
        rw [hstate']
        decide
      · refine .inl ⟨⟨hrec, fun _ => hqemu⟩, fun _ hdevices => ?_⟩
        rw [hworker]
        exact spawn_ne_none hqemu (by rw [hs.sameCfg]; exact hdevices)
    · rw [hstate] at hrank
      exact absurd hrank (lt_irrefl _)
  · have hnot : ¬ Takes .DetectMsi s op := not_takes hstate (by decide)
    rcases h with ⟨hrec, hsome⟩ | ⟨hrec, hrank, hnone⟩
    · refine .inl ⟨⟨hrec, hother hnot⟩, fun _ hdevices => ?_⟩
      rw [hworld]
      exact hsome (by rw [hstate]; decide) hdevices
    · refine .inr ⟨fun hboth => hrec hboth.1, ?_, by rw [hworld]; exact hnone⟩
      rw [hstate']
      decide
  · have hnot : ¬ Takes .DetectMsi s op := not_takes hstate (by decide)
    rcases h with ⟨hrec, -⟩ | ⟨hrec, hrank', hnone⟩
    · refine .inl ⟨⟨hrec, hother hnot⟩, fun hafter _ => ?_⟩
      rw [hstate] at hrank
      exact absurd (hrank.trans hafter.2) (by decide)
    · exact .inr ⟨fun hboth => hrec hboth.1, hrank'.trans_le hrank, hworker.trans hnone⟩
  · rcases h with ⟨hrec, -⟩ | ⟨-, -, hnone⟩
    · refine .inl ⟨⟨hrec, hother id⟩, fun _ _ => ?_⟩
      rw [hworker]
      exact Option.some_ne_none _
    · cases hnone.symm.trans hold

lemma spawning_run (sys : DeviceSysfs) (name : String) (cfg : VmConfig) (cpus : VmCpuLayout)
    (rest : V) (events : List (IrqOp V)) :
    Spawning cfg (run (applyIrq sys) (freshIrq name cfg cpus rest) events)
      (Along (applyIrq sys) QemuRecorded (freshIrq name cfg cpus rest) events) := by
  induction events using List.reverseRecOn with
  | nil => exact .inl ⟨along_nil _ _, fun h => absurd h (show ¬ VmState.Init.AfterDetect by decide)⟩
  | append_singleton events op ih =>
      have hinv : IrqInv cfg cpus (run (applyIrq sys) (freshIrq name cfg cpus rest) events) :=
        run_invariant (fun _ op ht => ht.applyIrq sys op) (irqInv_fresh name rest) events
      rw [run_snoc, along_snoc]
      exact ih.applyIrq hinv op

end

/-! ## Runs -/

/-- **When the monitor is switched once.**  In a run in which QEMU stays alive, of a VM that has
come to Steady and whose worker, if there is one, has returned, the monitor was switched to the VM
exactly once if and only if some configured device is eligible and DetectMsi found the process of
QEMU recorded. -/
theorem switched_once_iff (sys : DeviceSysfs) (name : String) (cfg : VmConfig) (cpus : VmCpuLayout)
    (rest : V) (events : List (IrqOp V)) {ddc : DdcConfig} (hddc : cfg.ddc = some ddc)
    (halive : Along (applyIrq sys) Alive (freshIrq name cfg cpus rest) events)
    (hsteady : (run (applyIrq sys) (freshIrq name cfg cpus rest) events).1.sm.state = .Steady)
    (hreturned : ∀ w ∈ (run (applyIrq sys) (freshIrq name cfg cpus rest) events).2.worker,
      w.point.HasReturned) :
    vmSwitches (run (applyIrq sys) (freshIrq name cfg cpus rest) events).2.ddc = 1 ↔
      eligible sys cfg cpus.vm.cpus ≠ [] ∧
        Along (applyIrq sys) QemuRecorded (freshIrq name cfg cpus rest) events := by
  have hfresh : Switching sys cfg cpus (freshIrq name cfg cpus rest) :=
    ⟨irqInv_fresh name rest, fun _ => rfl, fun _ h => by cases h⟩
  have hs := run_invariant_along (fun _ _ ht hop => ht.applyIrq hddc hop) hfresh halive
  have hspawn := spawning_run sys name cfg cpus rest events
  cases hworker : (run (applyIrq sys) (freshIrq name cfg cpus rest) events).2.worker with
  | none =>
      rw [hs.none hworker]
      refine iff_of_false (by decide) ?_
      rintro ⟨hwork, hrecorded⟩
      rcases hspawn with ⟨-, hsome⟩ | ⟨hnot, -⟩
      · refine hsome (by rw [hsteady]; decide) (fun hdevices => hwork ?_) hworker
        rw [eligible, hdevices]
        rfl
      · exact hnot hrecorded
  | some w =>
      have hpoint := hreturned w hworker
      have hprogress : vmSwitches (run (applyIrq sys)
          (freshIrq name cfg cpus rest) events).2.ddc =
            if eligible sys cfg cpus.vm.cpus = [] then 0 else 1 := by
        have hcount := hs.some w hworker
        generalize w.point = point at hpoint hcount
        cases point with
        | Returned items => exact hcount
        | Entry | Check items | Scan scanned rest | Finish items => exact hpoint.elim
      rcases hspawn with ⟨hrecorded, -⟩ | ⟨-, -, hnone⟩
      · rw [hprogress]
        split_ifs with hwork
        · exact iff_of_false (by decide) fun h => h.1 hwork
        · exact iff_of_true rfl ⟨hwork, hrecorded⟩
      · cases hnone.symm.trans hworker

/-- The guest has brought up its devices. -/
def presentCalls : IrqCalls Unit := { findingCalls Unit with processExists := fun _ _ => true }

/-- The VM comes to Steady, and its worker goes on to its end. -/
def steadyRun (os : IrqCalls Unit) (steps : ℕ) : List (IrqOp Unit) :=
  List.replicate 11 (.Tick { idleEnv Unit with host := recordingHost } os) ++
    List.replicate steps (.WorkerStep os)

lemma alive_steadyRun {sys : DeviceSysfs} {s : IrqState Unit} {os : IrqCalls Unit}
    (h : ∀ pid v, os.processExists pid v = true) (steps : ℕ) :
    Along (applyIrq sys) Alive s (steadyRun os steps) := by
  refine along_of_mem fun op hmem t => ?_
  rcases List.mem_append.mp hmem with hmem | hmem
  · rw [List.eq_of_mem_replicate hmem]
    exact trivial
  · rw [List.eq_of_mem_replicate hmem]
    exact fun w _ => h _ _

theorem switched_once_sharedMonitor :
    vmSwitches (run (applyIrq flatSysfs) (freshIrq "a" sharedMonitorVm ⟨⟨[0]⟩, ⟨[1]⟩⟩ ())
        (steadyRun presentCalls 5)).2.ddc = 1 ↔
      eligible flatSysfs sharedMonitorVm [1] ≠ [] ∧
        Along (applyIrq flatSysfs) QemuRecorded (freshIrq "a" sharedMonitorVm ⟨⟨[0]⟩, ⟨[1]⟩⟩ ())
          (steadyRun presentCalls 5) :=
  switched_once_iff flatSysfs "a" sharedMonitorVm ⟨⟨[0]⟩, ⟨[1]⟩⟩ () (steadyRun presentCalls 5)
    rfl (alive_steadyRun (fun _ _ => rfl) 5) (by decide) (by decide)

/-- A host on which the devices are on a node without a CPU of the VM. -/
def remoteSysfs : DeviceSysfs where
  numaNode _ := .ok "1"
  nodeCpulist _ := .ok "2-3"

/-- The GPU is on a node without a CPU of the VM: the worker returns at once, and the VM is in
Steady while the monitor still shows the host. -/
theorem steady_without_switch :
    let s := freshIrq "a" sharedMonitorVm ⟨⟨[0]⟩, ⟨[1]⟩⟩ ()
    let steady := run (applyIrq remoteSysfs) s (steadyRun presentCalls 1)
    Along (applyIrq remoteSysfs) Alive s (steadyRun presentCalls 1) ∧
      steady.1.sm.state = .Steady ∧
      steady.2.worker.map IrqWorker.point = some (.Returned []) ∧
      vmSwitches steady.2.ddc ≠ 1 :=
  ⟨alive_steadyRun (fun _ _ => rfl) 1, by decide, by decide, by decide⟩

end Chalybs
