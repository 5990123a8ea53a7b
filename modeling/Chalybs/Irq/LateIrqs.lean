import Chalybs.Irq.Badge

/-!
# Interrupts that appear late

The guest brings up the interrupts of a device one by one, while `irq_worker` looks at the devices
in turn.  It is done with a device as soon as it has found some interrupt of it, and does not look
at it again; those that appear afterwards are never pinned.

* `PinEvent`, `applyPin` — the worker takes a step, or the host changes.
* `AllTried` — every interrupt that is listed was tried, with the CPUs of its device.
* `NoLateIrqs` — the condition on an event.
* `Tracks`, `Tracks.applyPin` — what holds as long as no interrupt comes late.
* `finishesAllTried_of_noLateIrqs` — nothing is missed then.
-/

namespace Chalybs

open Foundation

variable {V : Type}

/-! ## The system -/

/-- The worker takes a step, or the host changes. -/
inductive PinEvent (V : Type)
  | Step
  | Change (v : V)

/-- The worker, the commands that the monitor was sent, and the rest of the host. -/
abbrev PinState (V : Type) := IrqWorker × List DdcCommand × V

/-- The state that an event leads to. -/
def applyPin (os : IrqCalls V) (sys : DeviceSysfs) (s : PinState V) : PinEvent V → PinState V
  | .Step => os.workerStep sys s.1 s.2
  | .Change v => (s.1, s.2.1, v)

/-- A worker that was just spawned. -/
def startPin (cfg : VmConfig) (vmCpus : List ℕ) (qemuPid : ℕ) (v : V) : PinState V :=
  ({ vmCpus, devices := collectDevices cfg, qemuPid, vmCfg := cfg }, [], v)

/-- The worker of a VM starts there. -/
lemma spawned_eq_startPin {rt : VmRuntime} {w : IrqWorker} (h : spawnIrqPinWorker rt = some w)
    (v : V) : (w, [], v) = startPin rt.cfg rt.cpus.vm.cpus w.qemuPid v := by
  simp only [spawnIrqPinWorker] at h
  split_ifs at h
  obtain ⟨q, -, rfl⟩ := Option.map_eq_some_iff.mp h
  rfl

/-! ## Nothing is missed -/

/-- For every eligible device, all interrupts that are listed were tried, with the CPUs of the
device. -/
def AllTried (os : IrqCalls V) (sys : DeviceSysfs) (cfg : VmConfig) (vmCpus : List ℕ)
    (items : List DeviceWork) (v : V) : Prop :=
  ∀ dev ∈ eligible sys cfg vmCpus, ∃ item ∈ items, item.dev = dev ∧
    targetCpusForDevice sys vmCpus dev = .ok item.targetCpus ∧
      ∀ irq ∈ os.deviceIrqsBestEffort dev v, irq ∈ item.pins.map Prod.fst

instance (os : IrqCalls V) (sys : DeviceSysfs) (cfg : VmConfig) (vmCpus : List ℕ)
    (items : List DeviceWork) (v : V) : Decidable (AllTried os sys cfg vmCpus items v) :=
  inferInstanceAs (Decidable (∀ _ ∈ _, ∃ _ ∈ _, _ ∧ _ ∧ ∀ _ ∈ _, _))

/-- If the event is the step by which the worker finishes with all devices completed, then nothing
has been missed. -/
def FinishesAllTried (os : IrqCalls V) (sys : DeviceSysfs) (cfg : VmConfig) (vmCpus : List ℕ)
    (s : PinState V) : PinEvent V → Prop
  | .Step =>
      let s' := applyPin os sys s .Step
      ∀ items, s'.1.point = .Finish items → AllTried os sys cfg vmCpus items s'.2.2
  | .Change _ => True

/-- The devices that the worker is done with, and the one that it looks at in this event. -/
def WorkerPoint.settled (p : WorkerPoint) (e : PinEvent V) : List DeviceWork :=
  p.items.filter DeviceWork.done ++
    match e, p with
    | .Step, .Scan _ (item :: _) => [item]
    | _, _ => []

/-- The event brings up no interrupt of a device that the worker is done with, or that it has just
looked at. -/
def NoLateIrqs (os : IrqCalls V) (sys : DeviceSysfs) (s : PinState V) (e : PinEvent V) : Prop :=
  ∀ item ∈ s.1.point.settled e,
    ∀ irq ∈ os.deviceIrqsBestEffort item.dev (applyPin os sys s e).2.2,
      irq ∈ os.deviceIrqsBestEffort item.dev s.2.2

instance (os : IrqCalls V) (sys : DeviceSysfs) (s : PinState V) (e : PinEvent V) :
    Decidable (NoLateIrqs os sys s e) := inferInstanceAs (Decidable (∀ _ ∈ _, ∀ _ ∈ _, _))

/-! ## What a pass notes -/

section

variable {os : IrqCalls V} {sys : DeviceSysfs} {cfg : VmConfig} {vmCpus : List ℕ}

/-- Every interrupt is tried. -/
lemma map_fst_pinEach (os : IrqCalls V) (cpus irqs : List ℕ) (v : V) :
    (os.pinEach cpus irqs v).1.map Prod.fst = irqs := by
  induction irqs generalizing v with
  | nil => rfl
  | cons irq irqs ih =>
      rw [IrqCalls.pinEach]
      simp [ih]

/-- When a pass is done with a device, all interrupts that were listed have been tried. -/
lemma map_fst_pins_scanDevice {item : DeviceWork} {v : V} (hopen : item.done = false)
    (hdone : (os.scanDevice item v).1.done = true) :
    (os.scanDevice item v).1.pins.map Prod.fst = os.deviceIrqsBestEffort item.dev v := by
  rw [IrqCalls.scanDevice, hopen, if_neg Bool.false_ne_true] at hdone ⊢
  cases hirqs : os.deviceIrqsBestEffort item.dev v with
  | nil =>
      rw [hirqs] at hdone
      exact absurd (hopen.symm.trans hdone) Bool.false_ne_true
  | cons irq irqs => exact map_fst_pinEach os item.targetCpus (irq :: irqs) v

/-! ## The invariant -/

/-- What holds as long as no interrupt comes late: the work is for the eligible devices, and every
interrupt that a device lists was tried once the worker is done with it. -/
structure Tracks (os : IrqCalls V) (sys : DeviceSysfs) (cfg : VmConfig) (vmCpus : List ℕ)
    (s : PinState V) : Prop where
  planned : PlannedWork sys cfg vmCpus s.1
  tried : ∀ item ∈ s.1.point.items, item.done = true →
    ∀ irq ∈ os.deviceIrqsBestEffort item.dev s.2.2, irq ∈ item.pins.map Prod.fst
  finished : ∀ items, s.1.point = .Finish items → ∀ item ∈ items, item.done = true

lemma plannedWork_startPin (qemuPid : ℕ) (v : V) :
    PlannedWork sys cfg vmCpus (startPin cfg vmCpus qemuPid v).1 :=
  ⟨⟨rfl, rfl, rfl⟩, fun h => absurd rfl h⟩

lemma tracks_startPin (qemuPid : ℕ) (v : V) :
    Tracks os sys cfg vmCpus (startPin cfg vmCpus qemuPid v) where
  planned := plannedWork_startPin qemuPid v
  tried _ h := by cases h
  finished _ h := by cases h

/-- When the worker has finished, nothing has been missed. -/
lemma Tracks.allTried {s : PinState V} (hs : Tracks os sys cfg vmCpus s) {items : List DeviceWork}
    (hpoint : s.1.point = .Finish items) : AllTried os sys cfg vmCpus items s.2.2 := by
  intro dev hdev
  obtain ⟨item, hitem, rfl⟩ := hs.planned.exists_item (by rw [hpoint]; simp) hdev
  obtain ⟨-, htarget⟩ := hs.planned.target hitem
  have htried := hs.tried item hitem
  rw [hpoint] at hitem
  exact ⟨item, hitem, rfl, htarget, htried (hs.finished items hpoint item hitem)⟩

lemma mem_settled {p : WorkerPoint} {e : PinEvent V} {item : DeviceWork} (hitem : item ∈ p.items)
    (hdone : item.done = true) : item ∈ p.settled e :=
  List.mem_append_left _ (List.mem_filter.mpr ⟨hitem, hdone⟩)

section

variable {w : IrqWorker} {t t' : List DdcCommand × V} {p p' : WorkerPoint}

/-- A step that brings up no interrupt late leaves none untried that a finished device lists. -/
lemma WorksOn.tried (h : WorksOn os sys w t p p' t')
    (hp : ∀ item ∈ p.items, item.done = true →
      ∀ irq ∈ os.deviceIrqsBestEffort item.dev t.2, irq ∈ item.pins.map Prod.fst)
    (hlate : ∀ item ∈ p.settled (.Step : PinEvent V),
      ∀ irq ∈ os.deviceIrqsBestEffort item.dev t'.2,
        irq ∈ os.deviceIrqsBestEffort item.dev t.2) :
    ∀ item ∈ p'.items, item.done = true →
      ∀ irq ∈ os.deviceIrqsBestEffort item.dev t'.2, irq ∈ item.pins.map Prod.fst := by
  -- what a device lists now that was done before, was tried
  have hkept : ∀ item ∈ p.items, item.done = true →
      ∀ irq ∈ os.deviceIrqsBestEffort item.dev t'.2, irq ∈ item.pins.map Prod.fst :=
    fun item hitem hdone irq hirq =>
      hp item hitem hdone irq (hlate item (mem_settled hitem hdone) irq hirq)
  cases h with
  | skips => exact fun _ hitem => by cases hitem
  | enters =>
      intro item hitem hdone
      obtain ⟨dev, -, -, targetCpus, -, rfl⟩ := mem_workItems.mp hitem
      cases hdone
  | @scans scanned rest item =>
      intro item' hitem' hdone
      simp only [WorkerPoint.items, List.append_assoc, List.singleton_append, List.mem_append,
        List.mem_cons] at hitem'
      rcases hitem' with hscanned | rfl | hrest
      · exact hkept item' (by simp [WorkerPoint.items, hscanned]) hdone
      · by_cases hopen : item.done = true
        · rw [scanDevice_of_done hopen] at hkept ⊢
          exact hkept item (by simp [WorkerPoint.items]) hopen
        · -- the interrupts have just been listed, and all of them tried
          rw [map_fst_pins_scanDevice (Bool.not_eq_true _ ▸ hopen) hdone, scanDevice_dev]
          exact hlate item (List.mem_append_right _ (by simp))
      · exact hkept item' (by simp [WorkerPoint.items, hrest]) hdone
  | repeats | finishes => simpa [WorkerPoint.items] using hkept
  | finds | aborts | switches | rests => exact hkept

/-- The worker finishes with all devices done. -/
lemma WorksOn.all_done (h : WorksOn os sys w t p p' t') {items : List DeviceWork}
    (hfinish : p' = .Finish items) : ∀ item ∈ items, item.done = true := by
  cases h with
  | finishes hdone =>
      obtain rfl := WorkerPoint.Finish.inj hfinish
      exact hdone
  | skips | enters | finds | aborts | scans | repeats | switches | rests => cases hfinish

end

/-- **One step of the worker** that brings up no interrupt late. -/
lemma Tracks.workerStep {s : PinState V} (hs : Tracks os sys cfg vmCpus s)
    (hlate : NoLateIrqs os sys s .Step) :
    Tracks os sys cfg vmCpus (os.workerStep sys s.1 s.2) := by
  obtain ⟨point, hw, hworks⟩ := worksOn_workerStep os sys s.1 s.2
  refine ⟨hs.planned.workerStep os s.2, ?_, ?_⟩
  · rw [hw]
    exact hworks.tried hs.tried hlate
  · rw [hw]
    exact fun items hfinish => hworks.all_done hfinish

/-- **One event** that brings up no interrupt late. -/
theorem Tracks.applyPin {s : PinState V} (hs : Tracks os sys cfg vmCpus s) {e : PinEvent V}
    (hlate : NoLateIrqs os sys s e) : Tracks os sys cfg vmCpus (applyPin os sys s e) := by
  cases e with
  | Step => exact hs.workerStep hlate
  | Change v =>
      refine ⟨hs.planned, fun item hitem hdone irq hirq => ?_, hs.finished⟩
      exact hs.tried item hitem hdone irq (hlate item (mem_settled hitem hdone) irq hirq)

end

/-! ## Runs -/

/-- **Nothing is missed** in a run in which no interrupt comes late. -/
theorem finishesAllTried_of_noLateIrqs (os : IrqCalls V) (sys : DeviceSysfs) (cfg : VmConfig)
    (vmCpus : List ℕ) (qemuPid : ℕ) (v : V) (events : List (PinEvent V))
    (hlate : Along (applyPin os sys) (NoLateIrqs os sys) (startPin cfg vmCpus qemuPid v) events) :
    Along (applyPin os sys) (FinishesAllTried os sys cfg vmCpus) (startPin cfg vmCpus qemuPid v)
      events := by
  refine along_of_invariant (fun s e hs => hs.applyPin) (fun s e hs he => ?_)
    (tracks_startPin qemuPid v) hlate
  cases e with
  | Step => exact fun items hpoint => (hs.applyPin he).allTried hpoint
  | Change v => exact trivial

/-! ## Two vectors, one after the other -/

/-- A VM with a GPU and a network card. -/
def gpuAndNicVm : VmConfig := minimalVmConfig
  { gpu := some [{ pciAddress := "0000:01:00.0" }]
    nic := some [{ pciAddress := "0000:02:00.0" }] } {}

/-- The host has the names in `msi_irqs` of the GPU and of the network card. -/
def vectorCalls : IrqCalls (List String × List String) where
  publishPower _ _ := pure ()
  sendDdcSetInput _ _ _ := pure ()
  processExists _ _ := true
  msiIrqs addr v := some (if addr = "0000:01:00.0" then v.1 else v.2)
  pathExists _ _ := true
  writeFile _ _ := pure ()

/-- The GPU has one vector in the first pass.  In the second, the network card has one too, and the
GPU those of `vectors`. -/
def twoPasses (vectors : List String) : List (PinEvent (List String × List String)) :=
  [.Step, .Step, .Change (["30"], []), .Step, .Step, .Step, .Change (vectors, ["40"]),
    .Step, .Step, .Step, .Step]

/-- What the worker has done at its end. -/
def bothPinned : List DeviceWork :=
  [⟨⟨"0000:01:00.0", true, none⟩, [2, 3], true, [(30, true)]⟩,
    ⟨⟨"0000:02:00.0", true, none⟩, [2, 3], true, [(40, true)]⟩]

/-- With one vector for each device nothing is missed. -/
theorem one_vector_each :
    let start := startPin gpuAndNicVm [2, 3] 100 ([], [])
    Along (applyPin vectorCalls flatSysfs)
        (FinishesAllTried vectorCalls flatSysfs gpuAndNicVm [2, 3]) start (twoPasses ["30"]) ∧
      (run (applyPin vectorCalls flatSysfs) start (twoPasses ["30"])).1.point =
        .Finish bothPinned := by
  intro start
  refine ⟨finishesAllTried_of_noLateIrqs vectorCalls flatSysfs gpuAndNicVm [2, 3] 100 ([], []) _ ?_,
    ?_⟩
  · decide +kernel
  · decide +kernel

/-- The second vector of the GPU appears while the worker waits for the network card.  It is not
pinned when the worker finishes. -/
theorem second_vector_missed :
    ¬ Along (applyPin vectorCalls flatSysfs)
      (FinishesAllTried vectorCalls flatSysfs gpuAndNicVm [2, 3])
      (startPin gpuAndNicVm [2, 3] 100 ([], [])) (twoPasses ["30", "31"]) := by
  intro halong
  let before := (twoPasses ["30", "31"]).take 10
  have hfinish := halong before .Step [] rfl bothPinned (by decide +kernel)
  exact absurd hfinish (by decide +kernel)

end Chalybs
