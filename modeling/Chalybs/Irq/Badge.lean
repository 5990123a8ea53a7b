import Chalybs.Irq.Run

/-!
# The IRQ badge

A snapshot reports a VM's interrupts as pinned from the tick that goes through the PinIrqs phase.
That phase sets the flag and waits for nothing, while the worker that was spawned one tick before
may still be waiting for the guest.

* `AllPinned` — the worker has found and pinned the interrupts of every eligible device.
* `BadgeTrue` — a snapshot that reports the interrupts as pinned is taken after that.
* `badge_true_iff` — the snapshots of a run are true exactly when PinIrqs never comes too early.
-/

namespace Chalybs

open Foundation

variable {V : Type}

/-- The work of the worker, as it stands; none if there is no worker. -/
def workOf (worker : Option IrqWorker) : List DeviceWork :=
  (worker.map fun w => w.point.items).getD []

/-- The worker has found and pinned the interrupts of every eligible device. -/
def AllPinned (sys : DeviceSysfs) (cfg : VmConfig) (cpus : VmCpuLayout)
    (worker : Option IrqWorker) : Prop :=
  ∀ dev ∈ eligible sys cfg cpus.vm.cpus, ∃ item ∈ workOf worker, item.dev = dev ∧ item.Pinned

instance (sys : DeviceSysfs) (cfg : VmConfig) (cpus : VmCpuLayout) (worker : Option IrqWorker) :
    Decidable (AllPinned sys cfg cpus worker) := inferInstanceAs (Decidable (∀ _ ∈ _, _))

/-- If the snapshot of the tick reports the interrupts as pinned, they are. -/
def BadgeTrue (sys : DeviceSysfs) (cfg : VmConfig) (cpus : VmCpuLayout) (s : IrqState V) :
    IrqOp V → Prop
  | .Tick env os =>
      let s' := applyIrq sys s (.Tick env os)
      (vmStatus (env.withIrq os) s'.2 s'.1.sm.rt.name cfg (some s'.1)).irqPinned = true →
        AllPinned sys cfg cpus s'.2.worker
  | .Start | .Stop | .WorkerStep _ => True

/-! ## What is pinned stays pinned -/

section

variable {sys : DeviceSysfs} {cfg : VmConfig} {cpus : VmCpuLayout} {s : IrqState V}

/-- A step of the worker keeps every device that is pinned. -/
lemma pinned_moves {w : IrqWorker} {alive : Bool} {added : List DdcCommand}
    {p p' : WorkerPoint} (h : Moves sys w alive p added p') {item : DeviceWork}
    (hmem : item ∈ p.items) (hpinned : item.Pinned) :
    ∃ item' ∈ p'.items, item'.dev = item.dev ∧ item'.Pinned := by
  cases h with
  | skips | enters => cases hmem
  | @scans scanned rest old new hdev hdone =>
      have hmem' : item ∈ scanned ++ old :: rest := hmem
      have hnew : new ∈ (WorkerPoint.Scan (scanned ++ [new]) rest).items := by
        simp [WorkerPoint.items]
      rcases List.mem_append.mp hmem' with hscanned | hrest
      · exact ⟨item, by simp [WorkerPoint.items, hscanned], rfl, hpinned⟩
      · rcases List.mem_cons.mp hrest with rfl | hrest
        · exact ⟨new, hnew, hdev, by rw [hdone hpinned.1]; exact hpinned⟩
        · exact ⟨item, by simp [WorkerPoint.items, hrest], rfl, hpinned⟩
  | finds | aborts | switches | rests => exact ⟨item, hmem, rfl, hpinned⟩
  | repeats | finishes =>
      exact ⟨item, by simpa [WorkerPoint.items] using hmem, rfl, hpinned⟩

/-- **What is pinned stays pinned.** -/
lemma AllPinned.applyIrq (hs : IrqInv cfg cpus s)
    (h : AllPinned sys cfg cpus s.2.worker) (op : IrqOp V) :
    AllPinned sys cfg cpus (applyIrq sys s op).2.worker := by
  rcases evolves_applyIrq sys hs.gate op with
    ⟨-, -, hworker, -, -, -⟩ | ⟨-, hstate, -, -, -⟩ | ⟨-, -, -, hworld, -⟩ |
    ⟨-, -, -, hworker, -, -, -⟩ | ⟨-, hold, -, hworker, -, hmoves⟩
  · rw [hworker]
    exact h
  · -- there was no worker, so nothing was to be pinned
    have hnone := hs.early (by rw [hstate])
    intro dev hdev
    obtain ⟨item, hitem, -⟩ := h dev hdev
    rw [hnone] at hitem
    cases hitem
  · rw [hworld]
    exact h
  · rw [hworker]
    exact h
  · intro dev hdev
    obtain ⟨item, hitem, hitemDev, hpinned⟩ := h dev hdev
    rw [hold] at hitem
    obtain ⟨item', hitem', hdev', hpinned'⟩ := pinned_moves hmoves hitem hpinned
    exact ⟨item', by rw [hworker]; exact hitem', hdev'.trans hitemDev, hpinned'⟩

lemma badgeTrue_tick {env : TickEnv V} {os : IrqCalls V} :
    BadgeTrue sys cfg cpus s (.Tick env os) ↔
      ((decide (mapVmStateToIpc (applyIrq sys s (.Tick env os)).1.sm.state ≠ .Stopped) &&
        (applyIrq sys s (.Tick env os)).1.sm.rt.pinnedIrqs) = true →
          AllPinned sys cfg cpus (applyIrq sys s (.Tick env os)).2.worker) := Iff.rfl

/-- **One event**: its snapshot is true exactly if it does not go through PinIrqs too early. -/
lemma badgeTrue_iff (hs : IrqInv cfg cpus s)
    (hflag : s.1.sm.rt.pinnedIrqs = true → AllPinned sys cfg cpus s.2.worker) (op : IrqOp V) :
    (Takes .PinIrqs s op → AllPinned sys cfg cpus s.2.worker) ↔ BadgeTrue sys cfg cpus s op := by
  cases op with
  | Start | Stop | WorkerStep os => exact iff_of_true (fun h => h.elim) trivial
  | Tick env os =>
      rw [badgeTrue_tick]
      by_cases hpins : Takes .PinIrqs s (.Tick env os)
      · obtain ⟨hstate', hset, hworld⟩ := tick_pinIrqs env os hpins.1 hpins.2
        rw [applyIrq, hstate', hset, hworld]
        exact ⟨fun h _ => h hpins, fun h _ => h (by decide)⟩
      · refine iff_of_true (fun h => absurd h hpins) fun hshown => ?_
        have hkept := (evolves_applyIrq sys hs.gate (.Tick env os)).pinned hpins
        exact (hflag (hkept (Bool.and_eq_true_iff.mp hshown).2)).applyIrq hs _

end

/-! ## Runs -/

/-- **When the badge is true.**  In every run of a VM, every snapshot that reports the interrupts
as pinned is taken after the worker has pinned those of all eligible devices, exactly when every
tick that goes through PinIrqs comes after that. -/
theorem badge_true_iff (sys : DeviceSysfs) (name : String) (cfg : VmConfig) (cpus : VmCpuLayout)
    (rest : V) (events : List (IrqOp V)) :
    Along (applyIrq sys) (BadgeTrue sys cfg cpus) (freshIrq name cfg cpus rest) events ↔
      Along (applyIrq sys) (fun s op => Takes .PinIrqs s op → AllPinned sys cfg cpus s.2.worker)
        (freshIrq name cfg cpus rest) events := by
  refine (along_iff_along (I := fun s : IrqState V => IrqInv cfg cpus s ∧
    (s.1.sm.rt.pinnedIrqs = true → AllPinned sys cfg cpus s.2.worker)) ?_ ?_
    ⟨irqInv_fresh name rest, fun h => by cases h⟩ events).symm
  · rintro s op ⟨hinv, hflag⟩ hop
    refine ⟨hinv.applyIrq sys op, fun hflag' => ?_⟩
    refine AllPinned.applyIrq hinv ?_ op
    by_cases hpins : Takes .PinIrqs s op
    · exact hop hpins
    · exact hflag ((evolves_applyIrq sys hinv.gate op).pinned hpins hflag')
  · rintro s op ⟨hinv, hflag⟩
    exact badgeTrue_iff hinv hflag op

/-! ## A badge that comes too early -/

/-- A VM with one GPU. -/
def oneGpuVm : VmConfig := minimalVmConfig { gpu := some [{ pciAddress := "0000:01:00.0" }] } {}

/-- A host on which no device has a NUMA node. -/
def flatSysfs : DeviceSysfs where
  numaNode _ := .ok "-1"
  nodeCpulist _ := .error "No such file or directory (os error 2)"

/-- The guest has not brought up any device yet. -/
def waitingCalls : IrqCalls Unit where
  publishPower _ _ := pure ()
  sendDdcSetInput _ _ _ := pure ()
  processExists _ _ := true
  msiIrqs _ _ := none
  pathExists _ _ := true
  writeFile _ _ := pure ()

/-- Ten ticks after the start the snapshot reports the interrupts of the GPU as pinned, while the
worker has not even looked at it. -/
theorem badge_before_pinning :
    let tick : IrqOp Unit := .Tick { idleEnv Unit with host := recordingHost } waitingCalls
    ¬ Along (applyIrq flatSysfs) (BadgeTrue flatSysfs oneGpuVm ⟨⟨[0]⟩, ⟨[1]⟩⟩)
      (freshIrq "a" oneGpuVm ⟨⟨[0]⟩, ⟨[1]⟩⟩ ()) (List.replicate 10 tick) := by
  intro tick halong
  have hbadge := halong (List.replicate 9 tick) tick [] rfl
  rw [badgeTrue_tick, ← run_snoc (applyIrq flatSysfs)] at hbadge
  exact absurd (hbadge (by decide)) (by decide)

end Chalybs
