import Chalybs.Cpu.Reserve
import Chalybs.Pci.Sysfs
import Chalybs.Peripherals.Hooks

/-!
# The IRQ worker

`irq_worker` (`irq/pin.rs`) runs on a thread of its own.  It looks at the configured devices again
and again while QEMU exists, pins the interrupts of each once they appear, and switches the monitor
to the VM after the last.  It is modelled as a machine that takes one step for each test of QEMU,
each device it looks at, and the switch, so that the daemon may act between any two of them.

* `targetCpusForDevice`, `isAuxGpuFunction` — which CPUs a device gets, and which devices get none.
* `workItems`, `eligible` — the devices that the worker is responsible for.
* `IrqCalls.workerStep` — one step.
* `WorksOn`, `worksOn_workerStep` — everything a step can do.
* `Moves`, `moves_workerStep` — the same, without the host.
* `PlannedWork` — the work is for the eligible devices, as long as the worker runs.
-/

namespace Chalybs

open Foundation

variable {V : Type}

/-! ## The CPUs of a device -/

/-- The files of sysfs that say which CPUs are near a device. -/
structure DeviceSysfs where
  /-- `numa_node` of a device. -/
  numaNode : String → Except String String
  /-- `cpulist` of a node. -/
  nodeCpulist : ℕ → Except String String

/-- `device_numa_node`. -/
def deviceNumaNode (sys : DeviceSysfs) (pciAddr : String) : Option Int32 :=
  (sys.numaNode pciAddr).toOption.bind fun raw => parseI32 (trim raw.toList)

/-- `node_cpus`. -/
def nodeCpus (sys : DeviceSysfs) (node : ℕ) : Except ChalybsError (List ℕ) :=
  let path := s!"/sys/devices/system/node/node{node}/cpulist"
  match sys.nodeCpulist node with
  | .error e => .error (.Irq s!"failed to read NUMA node cpulist from {path}: {e}")
  | .ok data => (parseCpuList (trimmed data)).mapError fun e =>
      .Irq s!"failed to parse NUMA node cpulist {path}: {e.display}"

/-- `intersect`. -/
def intersect (a b : List ℕ) : List ℕ := a.filter fun v => b.contains v

/-- `target_cpus_for_device`. -/
def targetCpusForDevice (sys : DeviceSysfs) (vmCpus : List ℕ) (dev : PciDeviceConfig) :
    Except ChalybsError (List ℕ) :=
  let node := (deviceNumaNode sys dev.pciAddress).getD (-1)
  if 0 ≤ node then do
    let cpus ← nodeCpus sys node.toInt.toNat
    let subset := intersect vmCpus cpus
    if subset.isEmpty then
      throw (.Irq (s!"no VM CPUs on NUMA node {node.toInt} for device {dev.pciAddress}; " ++
        s!"vm_cpus={vmCpus}, node_cpus={cpus}"))
    else pure subset
  else pure vmCpus

/-! ## Auxiliary functions -/

/-- `parse_bdf_slot_and_func`. -/
def parseBdfSlotAndFunc (bdf : String) : Option (String × ℕ) :=
  match bdf.toList.splitOn ':' with
  | [domain, bus, devfunc] =>
      match devfunc.splitOn '.' with
      | [dev, func] =>
          if byteLen domain ≠ 4 ∨ byteLen bus ≠ 2 ∨ byteLen dev ≠ 2 ∨ func.isEmpty then none
          else do
            let domain ← (fromStrRadix 16 (2 ^ 16) domain).toOption
            let bus ← (fromStrRadix 16 (2 ^ 8) bus).toOption
            let dev ← (fromStrRadix 16 (2 ^ 8) dev).toOption
            let func ← (fromStrRadix 10 (2 ^ 8) func).toOption
            pure (s!"{hexPadded 4 domain}:{hexPadded 2 bus}:{hexPadded 2 dev}", func)
      | _ => none
  | _ => none

/-- The function numbers of the GPUs that are configured for a slot. -/
def gpuFunctionsInSlot (cfg : VmConfig) (slot : String) : List ℕ :=
  (deviceList cfg.devices.gpu).filterMap fun g => do
    let (gSlot, gFunc) ← parseBdfSlotAndFunc g.pciAddress
    if gSlot = slot then some gFunc else none

/-- `is_aux_gpu_function`. -/
def isAuxGpuFunction (dev : PciDeviceConfig) (cfg : VmConfig) : Bool :=
  match parseBdfSlotAndFunc dev.pciAddress with
  | none => false
  | some (slot, func) =>
      let sameSlot := gpuFunctionsInSlot cfg slot
      decide (1 < sameSlot.length) && sameSlot.contains 0 && decide (func ≠ 0)

/-! ## The work -/

/-- `DeviceWork`; the worker leaves auxiliary functions out, so that `is_aux_gpu` is always false.
`pins` is what came of the interrupts that were found, which the source only logs. -/
structure DeviceWork where
  dev : PciDeviceConfig
  targetCpus : List ℕ
  done : Bool := false
  pins : List (ℕ × Bool) := []
  deriving DecidableEq, Repr

/-- The interrupts of the device were found, and all of them were pinned. -/
def DeviceWork.Pinned (item : DeviceWork) : Prop :=
  item.done = true ∧ ∀ pin ∈ item.pins, pin.2 = true

instance (item : DeviceWork) : Decidable item.Pinned := inferInstanceAs (Decidable (_ ∧ _))

/-- `collect_devices`. -/
def collectDevices (cfg : VmConfig) : List PciDeviceConfig := cfg.configured

/-- The work for one device, unless it is auxiliary or has no target CPUs. -/
def workItem (sys : DeviceSysfs) (vmCfg : VmConfig) (vmCpus : List ℕ) (dev : PciDeviceConfig) :
    Option DeviceWork :=
  if isAuxGpuFunction dev vmCfg then none
  else
    match targetCpusForDevice sys vmCpus dev with
    | .ok targetCpus => some { dev, targetCpus }
    | .error _ => none

/-- `work_items` before the loop. -/
def workItems (sys : DeviceSysfs) (vmCfg : VmConfig) (vmCpus : List ℕ)
    (devices : List PciDeviceConfig) : List DeviceWork :=
  devices.filterMap (workItem sys vmCfg vmCpus)

/-- The configured devices whose interrupts are to be pinned. -/
def eligible (sys : DeviceSysfs) (cfg : VmConfig) (vmCpus : List ℕ) : List PciDeviceConfig :=
  (workItems sys cfg vmCpus (collectDevices cfg)).map DeviceWork.dev

/-! ## Steps -/

/-- Where the worker is. -/
inductive WorkerPoint
  /-- The thread was spawned. -/
  | Entry
  /-- At the top of the loop, before the test whether QEMU exists. -/
  | Check (items : List DeviceWork)
  /-- In a pass over the devices. -/
  | Scan (scanned rest : List DeviceWork)
  /-- After the loop. -/
  | Finish (items : List DeviceWork)
  | Returned (items : List DeviceWork)
  deriving DecidableEq, Repr

/-- The work, as it stands. -/
def WorkerPoint.items : WorkerPoint → List DeviceWork
  | .Entry => []
  | .Check items | .Finish items | .Returned items => items
  | .Scan scanned rest => scanned ++ rest

/-- The thread that runs `irq_worker`, with its arguments. -/
structure IrqWorker where
  vmCpus : List ℕ
  devices : List PciDeviceConfig
  qemuPid : ℕ
  vmCfg : VmConfig
  point : WorkerPoint := .Entry
  deriving DecidableEq

/-- What the worker finds on the host. -/
structure IrqCalls (V : Type) extends HookCalls V where
  /-- `process_exists`. -/
  processExists : ℕ → V → Bool
  /-- The names in `msi_irqs` of a device, unless the directory cannot be read. -/
  msiIrqs : String → V → Option (List String)
  pathExists : String → V → Bool
  writeFile : String → String → EStateM String V Unit

/-- `format_cpu_list`, which `irq/pin.rs` has a copy of. -/
def formatIrqCpuList (cpus : List ℕ) : String := formatCpuList cpus

namespace IrqCalls

variable (os : IrqCalls V)

/-- `device_irqs_best_effort`. -/
def deviceIrqsBestEffort (dev : PciDeviceConfig) (v : V) : List ℕ :=
  ((os.msiIrqs dev.pciAddress v).getD []).filterMap fun name => (parseU32 name.toList).toOption

/-- `pin_single_irq`. -/
def pinSingleIrq (irq : ℕ) (cpus : List ℕ) : EStateM ChalybsError V Unit := do
  let irqDir := s!"/proc/irq/{irq}"
  let listPath := s!"{irqDir}/smp_affinity_list"
  let v ← get
  if !os.pathExists irqDir v then
    throw (.Irq s!"IRQ {irq} directory {irqDir} does not exist")
  else if !os.pathExists listPath v then
    throw (.Irq (s!"smp_affinity_list not found for IRQ {irq} at {listPath} " ++
      "(kernel may be too old or not support cpulist interface)"))
  else
    EStateM.adaptExcept
      (fun e => .Irq s!"failed to write IRQ affinity for {irq} to {listPath}: {e}")
      (os.writeFile listPath (formatIrqCpuList cpus))

/-- The loop over the interrupts of a device.  One that cannot be pinned is passed over. -/
def pinEach (cpus : List ℕ) : List ℕ → V → List (ℕ × Bool) × V
  | [], v => ([], v)
  | irq :: irqs, v =>
      let (ok, v) := outcome (os.pinSingleIrq irq cpus) v
      let (pins, v) := pinEach cpus irqs v
      ((irq, ok) :: pins, v)

/-- What a pass does for one device. -/
def scanDevice (item : DeviceWork) (v : V) : DeviceWork × V :=
  if item.done then (item, v)
  else
    match os.deviceIrqsBestEffort item.dev v with
    | [] => (item, v)
    | irqs =>
        let (pins, v) := os.pinEach item.targetCpus irqs v
        ({ item with done := true, pins }, v)

/-- The end of `irq_worker` when all devices are done. -/
def afterPinning (vmCfg : VmConfig) (t : List DdcCommand × V) : List DdcCommand × V :=
  match vmCfg.ddc with
  | none => t
  | some ddc => (outcome (os.switchToVmInputAfterIrq ddc) t).2

/-- The part of `irq_worker` before the loop. -/
def enter (sys : DeviceSysfs) (w : IrqWorker) : WorkerPoint :=
  if w.devices.isEmpty then .Returned []
  else
    let items := workItems sys w.vmCfg w.vmCpus w.devices
    if items.isEmpty then .Returned [] else .Check items

/-- One step of `irq_worker`. -/
def workerStep (sys : DeviceSysfs) (w : IrqWorker) (t : List DdcCommand × V) :
    IrqWorker × List DdcCommand × V :=
  match w.point with
  | .Entry => ({ w with point := enter sys w }, t)
  | .Check items =>
      if os.processExists w.qemuPid t.2 then ({ w with point := .Scan [] items }, t)
      else ({ w with point := .Returned items }, t)
  | .Scan scanned (item :: rest) =>
      let (item, v) := os.scanDevice item t.2
      ({ w with point := .Scan (scanned ++ [item]) rest }, t.1, v)
  | .Scan scanned [] =>
      -- `completed_devices` counts the devices that are done
      if scanned.all DeviceWork.done then ({ w with point := .Finish scanned }, t)
      else ({ w with point := .Check scanned }, t)
  | .Finish items => ({ w with point := .Returned items }, os.afterPinning w.vmCfg t)
  | .Returned _ => (w, t)

end IrqCalls

/-- `spawn_irq_pin_worker`: the thread, if one is spawned. -/
def spawnIrqPinWorker (rt : VmRuntime) : Option IrqWorker :=
  let devices := collectDevices rt.cfg
  if devices.isEmpty then none
  else rt.qemu.map fun q =>
    { vmCpus := rt.cpus.vm.cpus, devices, qemuPid := q.pid, vmCfg := rt.cfg }

/-! ## What a step can do -/

/-- The commands that the worker sends at its end. -/
def VmConfig.upCommands (cfg : VmConfig) : List DdcCommand :=
  (cfg.ddc.map fun ddc => ddc.command .IrqComplete).toList

/-- What a step of the worker does to its place and to the commands; `alive` says whether the test
finds QEMU. -/
inductive Moves (sys : DeviceSysfs) (w : IrqWorker) (alive : Bool) :
    WorkerPoint → List DdcCommand → WorkerPoint → Prop
  | skips : workItems sys w.vmCfg w.vmCpus w.devices = [] →
      Moves sys w alive .Entry [] (.Returned [])
  | enters : workItems sys w.vmCfg w.vmCpus w.devices ≠ [] →
      Moves sys w alive .Entry [] (.Check (workItems sys w.vmCfg w.vmCpus w.devices))
  | finds {items : List DeviceWork} : alive = true →
      Moves sys w alive (.Check items) [] (.Scan [] items)
  | aborts {items : List DeviceWork} : alive = false →
      Moves sys w alive (.Check items) [] (.Returned items)
  | scans {scanned rest : List DeviceWork} {item item' : DeviceWork} : item'.dev = item.dev →
      (item.done = true → item' = item) →
      Moves sys w alive (.Scan scanned (item :: rest)) [] (.Scan (scanned ++ [item']) rest)
  | repeats {scanned : List DeviceWork} : ¬ (∀ item ∈ scanned, item.done = true) →
      Moves sys w alive (.Scan scanned []) [] (.Check scanned)
  | finishes {scanned : List DeviceWork} : (∀ item ∈ scanned, item.done = true) →
      Moves sys w alive (.Scan scanned []) [] (.Finish scanned)
  | switches {items : List DeviceWork} :
      Moves sys w alive (.Finish items) w.vmCfg.upCommands (.Returned items)
  | rests {items : List DeviceWork} : Moves sys w alive (.Returned items) [] (.Returned items)

section

variable {os : IrqCalls V} {sys : DeviceSysfs}

lemma scanDevice_dev (item : DeviceWork) (v : V) : (os.scanDevice item v).1.dev = item.dev := by
  rw [IrqCalls.scanDevice]
  split_ifs
  · rfl
  · cases os.deviceIrqsBestEffort item.dev v <;> rfl

lemma scanDevice_of_done {item : DeviceWork} (h : item.done = true) (v : V) :
    os.scanDevice item v = (item, v) := by
  rw [IrqCalls.scanDevice, if_pos h]

lemma ddc_afterPinning (vmCfg : VmConfig) (t : List DdcCommand × V) :
    (os.afterPinning vmCfg t).1 = t.1 ++ vmCfg.upCommands := by
  rw [IrqCalls.afterPinning, VmConfig.upCommands]
  cases vmCfg.ddc with
  | none => exact (List.append_nil _).symm
  | some ddc => exact (@ends_setInput V os.toHookCalls ddc ddc.vmInput .IrqComplete t).outcome_snd

/-- What a step of the worker does to its place, the commands and the host. -/
inductive WorksOn (os : IrqCalls V) (sys : DeviceSysfs) (w : IrqWorker) (t : List DdcCommand × V) :
    WorkerPoint → WorkerPoint → List DdcCommand × V → Prop
  | skips : workItems sys w.vmCfg w.vmCpus w.devices = [] →
      WorksOn os sys w t .Entry (.Returned []) t
  | enters : workItems sys w.vmCfg w.vmCpus w.devices ≠ [] →
      WorksOn os sys w t .Entry (.Check (workItems sys w.vmCfg w.vmCpus w.devices)) t
  | finds {items : List DeviceWork} : os.processExists w.qemuPid t.2 = true →
      WorksOn os sys w t (.Check items) (.Scan [] items) t
  | aborts {items : List DeviceWork} : os.processExists w.qemuPid t.2 = false →
      WorksOn os sys w t (.Check items) (.Returned items) t
  | scans {scanned rest : List DeviceWork} {item : DeviceWork} :
      WorksOn os sys w t (.Scan scanned (item :: rest))
        (.Scan (scanned ++ [(os.scanDevice item t.2).1]) rest) (t.1, (os.scanDevice item t.2).2)
  | repeats {scanned : List DeviceWork} : ¬ (∀ item ∈ scanned, item.done = true) →
      WorksOn os sys w t (.Scan scanned []) (.Check scanned) t
  | finishes {scanned : List DeviceWork} : (∀ item ∈ scanned, item.done = true) →
      WorksOn os sys w t (.Scan scanned []) (.Finish scanned) t
  | switches {items : List DeviceWork} :
      WorksOn os sys w t (.Finish items) (.Returned items) (os.afterPinning w.vmCfg t)
  | rests {items : List DeviceWork} : WorksOn os sys w t (.Returned items) (.Returned items) t

/-- **One step of the worker.** -/
theorem worksOn_workerStep (os : IrqCalls V) (sys : DeviceSysfs) (w : IrqWorker)
    (t : List DdcCommand × V) :
    ∃ point, (os.workerStep sys w t).1 = { w with point } ∧
      WorksOn os sys w t w.point point (os.workerStep sys w t).2 := by
  obtain ⟨vmCpus, devices, qemuPid, vmCfg, point⟩ := w
  rw [IrqCalls.workerStep]
  cases point with
  | Entry =>
      refine ⟨_, rfl, ?_⟩
      rw [IrqCalls.enter]
      dsimp only
      split_ifs with hdevices hitems
      · rw [List.isEmpty_iff] at hdevices
        exact .skips (by rw [hdevices]; rfl)
      · exact .skips (List.isEmpty_iff.mp hitems)
      · exact .enters fun h => hitems (List.isEmpty_iff.mpr h)
  | Check items =>
      dsimp only
      split_ifs with halive
      · exact ⟨_, rfl, .finds halive⟩
      · exact ⟨_, rfl, .aborts (by simpa using halive)⟩
  | Scan scanned rest =>
      cases rest with
      | cons item rest => exact ⟨_, rfl, .scans⟩
      | nil =>
          dsimp only
          split_ifs with hdone
          · exact ⟨_, rfl, .finishes (List.all_eq_true.mp hdone)⟩
          · exact ⟨_, rfl, .repeats fun h => hdone (List.all_eq_true.mpr h)⟩
  | Finish items => exact ⟨_, rfl, .switches⟩
  | Returned items => exact ⟨_, rfl, .rests⟩

section

variable {w : IrqWorker} {t t' : List DdcCommand × V} {p p' : WorkerPoint}

lemma WorksOn.moves (h : WorksOn os sys w t p p' t') :
    ∃ added, t'.1 = t.1 ++ added ∧ Moves sys w (os.processExists w.qemuPid t.2) p added p' := by
  have hnil : t.1 = t.1 ++ [] := (List.append_nil _).symm
  cases h with
  | skips hitems => exact ⟨[], hnil, .skips hitems⟩
  | enters hitems => exact ⟨[], hnil, .enters hitems⟩
  | finds halive => exact ⟨[], hnil, .finds halive⟩
  | aborts halive => exact ⟨[], hnil, .aborts halive⟩
  | @scans scanned rest item =>
      exact ⟨[], hnil, .scans (scanDevice_dev item t.2)
        fun h => congrArg Prod.fst (scanDevice_of_done h t.2)⟩
  | repeats hdone => exact ⟨[], hnil, .repeats hdone⟩
  | finishes hdone => exact ⟨[], hnil, .finishes hdone⟩
  | switches => exact ⟨_, ddc_afterPinning w.vmCfg t, .switches⟩
  | rests => exact ⟨[], hnil, .rests⟩

end

/-- **One step of the worker**, without the host. -/
theorem moves_workerStep (os : IrqCalls V) (sys : DeviceSysfs) (w : IrqWorker)
    (t : List DdcCommand × V) :
    let r := os.workerStep sys w t
    ∃ added point, r.1 = { w with point } ∧ r.2.1 = t.1 ++ added ∧
      Moves sys w (os.processExists w.qemuPid t.2) w.point added point := by
  intro r
  obtain ⟨point, hw, hworks⟩ := worksOn_workerStep os sys w t
  obtain ⟨added, hddc, hmoves⟩ := hworks.moves
  exact ⟨added, point, hw, hddc, hmoves⟩

/-! ## The work -/

lemma scanDevice_targetCpus (item : DeviceWork) (v : V) :
    (os.scanDevice item v).1.targetCpus = item.targetCpus := by
  rw [IrqCalls.scanDevice]
  split_ifs
  · rfl
  · cases os.deviceIrqsBestEffort item.dev v <;> rfl

/-- The device and the target CPUs of an item. -/
def DeviceWork.task (item : DeviceWork) : PciDeviceConfig × List ℕ := (item.dev, item.targetCpus)

/-- A step does not change what is to be done. -/
lemma WorksOn.map_task {w : IrqWorker} {t t' : List DdcCommand × V} {p p' : WorkerPoint}
    (h : WorksOn os sys w t p p' t')
    (hp : p ≠ .Entry → p.items.map DeviceWork.task =
      (workItems sys w.vmCfg w.vmCpus w.devices).map DeviceWork.task) :
    p'.items.map DeviceWork.task =
      (workItems sys w.vmCfg w.vmCpus w.devices).map DeviceWork.task := by
  cases h with
  | skips hnil => rw [hnil]; rfl
  | enters => rfl
  | @scans scanned rest item =>
      have htask : (os.scanDevice item t.2).1.task = item.task :=
        Prod.ext (scanDevice_dev item t.2) (scanDevice_targetCpus item t.2)
      rw [← hp (by simp)]
      simp [WorkerPoint.items, htask]
  | repeats | finishes => simpa [WorkerPoint.items] using hp (by simp)
  | finds | aborts | switches | rests => exact hp (by simp)

/-- The items of the work are made for devices that are not auxiliary, with their target CPUs, and
none of them is done. -/
lemma mem_workItems {cfg : VmConfig} {vmCpus : List ℕ} {devices : List PciDeviceConfig}
    {item : DeviceWork} :
    item ∈ workItems sys cfg vmCpus devices ↔
      ∃ dev ∈ devices, isAuxGpuFunction dev cfg = false ∧
        ∃ targetCpus, targetCpusForDevice sys vmCpus dev = .ok targetCpus ∧
          item = { dev, targetCpus } := by
  rw [workItems, List.mem_filterMap]
  refine exists_congr fun dev => and_congr_right fun _ => ?_
  rw [workItem]
  cases isAuxGpuFunction dev cfg with
  | true => simp
  | false =>
      cases targetCpusForDevice sys vmCpus dev with
      | error e => simp
      | ok targetCpus => simp [eq_comm]

/-- The worker has the arguments that it was spawned with, and its work is for the eligible
devices. -/
structure PlannedWork (sys : DeviceSysfs) (cfg : VmConfig) (vmCpus : List ℕ) (w : IrqWorker) :
    Prop where
  args : w.vmCfg = cfg ∧ w.vmCpus = vmCpus ∧ w.devices = collectDevices cfg
  tasks : w.point ≠ .Entry → w.point.items.map DeviceWork.task =
    (workItems sys cfg vmCpus (collectDevices cfg)).map DeviceWork.task

section

variable {cfg : VmConfig} {vmCpus : List ℕ} {w : IrqWorker}

lemma PlannedWork.workerStep (h : PlannedWork sys cfg vmCpus w) (os : IrqCalls V)
    (t : List DdcCommand × V) : PlannedWork sys cfg vmCpus (os.workerStep sys w t).1 := by
  obtain ⟨point, hw, hworks⟩ := worksOn_workerStep os sys w t
  have htasks := hworks.map_task
  rw [h.args.1, h.args.2.1, h.args.2.2] at htasks
  rw [hw]
  exact ⟨h.args, fun _ => htasks h.tasks⟩

/-- The work of every eligible device is there, unless the worker has not begun. -/
lemma PlannedWork.exists_item (h : PlannedWork sys cfg vmCpus w) (hpoint : w.point ≠ .Entry)
    {dev : PciDeviceConfig} (hdev : dev ∈ eligible sys cfg vmCpus) :
    ∃ item ∈ w.point.items, item.dev = dev := by
  obtain ⟨planned, hplanned, rfl⟩ := List.mem_map.mp hdev
  have htask : planned.task ∈ w.point.items.map DeviceWork.task := by
    rw [h.tasks hpoint]
    exact List.mem_map_of_mem hplanned
  obtain ⟨item, hitem, htask⟩ := List.mem_map.mp htask
  exact ⟨item, hitem, (Prod.mk.inj htask).1⟩

/-- The work is for configured devices, with their target CPUs. -/
lemma PlannedWork.target (h : PlannedWork sys cfg vmCpus w) {item : DeviceWork}
    (hitem : item ∈ w.point.items) :
    item.dev ∈ collectDevices cfg ∧
      targetCpusForDevice sys vmCpus item.dev = .ok item.targetCpus := by
  have hpoint : w.point ≠ .Entry := by
    intro hentry
    rw [hentry] at hitem
    cases hitem
  have htask := List.mem_map_of_mem (f := DeviceWork.task) hitem
  rw [h.tasks hpoint] at htask
  obtain ⟨planned, hplanned, htask⟩ := List.mem_map.mp htask
  obtain ⟨hdev, htarget⟩ := Prod.mk.inj htask
  obtain ⟨dev, hmem, -, targetCpus, htargets, rfl⟩ := mem_workItems.mp hplanned
  rw [← hdev, ← htarget]
  exact ⟨hmem, htargets⟩

end

end

end Chalybs
