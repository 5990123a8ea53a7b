import Chalybs.Cpu.ListGrammar
import Chalybs.Irq.LateIrqs

/-!
# Where the interrupts are steered

Interrupts are pinned on two paths: by the worker, and by `pin_irqs` (`irq/pin.rs`), which goes over
the devices once and stops at the first error.  A journal beside the host keeps every write of
either path, with the device that is looked at and the interrupts that it lists then.

* `deviceIrqs`, `pinIrqs` — the synchronous path.
* `IrqCalls.noting` — the host with the journal; nothing that runs on it can tell.
* `ReadsBack` — a text that stands for a set of CPUs.
* `Steered`, `SteeredWrite` — the CPUs that the interrupts of a device may go to.
* `written_lists_read_back`, `writes_steered` — every write is one of those.
-/

namespace Chalybs

open Foundation

variable {V : Type}

/-! ## The synchronous path -/

/-- What `pin_irqs` finds on the host. -/
structure SyncCalls (V : Type) extends IrqCalls V where
  /-- Why `msi_irqs` of a device cannot be read. -/
  readDirError : String → V → String

namespace SyncCalls

variable (os : SyncCalls V)

/-- `device_irqs`. -/
def deviceIrqs (dev : PciDeviceConfig) (v : V) : Except ChalybsError (List ℕ) :=
  let dir := s!"/sys/bus/pci/devices/{dev.pciAddress}/msi_irqs"
  if !os.pathExists dir v then
    if dev.required then
      .error (.Irq s!"required device {dev.pciAddress} has no msi_irqs directory at {dir}")
    else .ok []
  else
    match os.msiIrqs dev.pciAddress v with
    | none => .error (.Irq
        s!"failed to read msi_irqs for {dev.pciAddress}: {os.readDirError dev.pciAddress v}")
    | some names =>
        let irqs := names.filterMap fun name => (parseU32 name.toList).toOption
        if irqs.isEmpty && dev.required then
          .error (.Irq s!"required device {dev.pciAddress} has empty msi_irqs directory")
        else .ok irqs

/-- What `pin_irqs` does for one device. -/
def pinDevice (sys : DeviceSysfs) (vmCpus : List ℕ) (dev : PciDeviceConfig) :
    EStateM ChalybsError V Unit := do
  let targetCpus ← fromExcept (targetCpusForDevice sys vmCpus dev)
  let v ← get
  let irqs ← fromExcept (os.deviceIrqs dev v)
  irqs.forM fun irq => os.pinSingleIrq irq targetCpus

end SyncCalls

/-- `pin_irqs`.  What the host answers while a device is looked at is `calls dev`, so that it may
change from one device to the next. -/
def pinIrqs (calls : PciDeviceConfig → SyncCalls V) (sys : DeviceSysfs) (rt : VmRuntime) :
    EStateM ChalybsError V Unit :=
  (collectDevices rt.cfg).forM fun dev => (calls dev).pinDevice sys rt.cpus.vm.cpus dev

/-! ## The journal -/

/-- A device that is looked at, with the names in its `msi_irqs` at that moment. -/
structure DeviceLook where
  dev : PciDeviceConfig
  names : Option (List String)
  deriving DecidableEq, Repr

/-- The interrupt is one of the device. -/
def DeviceLook.Lists (look : DeviceLook) (irq : ℕ) : Prop :=
  ∃ names, look.names = some names ∧ ∃ name ∈ names, parseU32 name.toList = .ok irq

def IrqCalls.look (os : IrqCalls V) (dev : PciDeviceConfig) (v : V) : DeviceLook :=
  ⟨dev, os.msiIrqs dev.pciAddress v⟩

/-- A write to a file of `/proc/irq`, with the device that is being looked at. -/
structure AffinityWrite where
  look : Option DeviceLook
  path : String
  text : String
  deriving DecidableEq, Repr

/-- A computation on the host, beside the journal. -/
def besideJournal {ε α : Type} (x : EStateM ε V α) : EStateM ε (V × List AffinityWrite) α :=
  zoom Prod.fst (fun v t => (v, t.2)) x

/-- The host with a journal of the writes, whether the kernel takes them or not. -/
def IrqCalls.noting (os : IrqCalls V) (look : Option DeviceLook) :
    IrqCalls (V × List AffinityWrite) where
  publishPower cfg on := besideJournal (os.publishPower cfg on)
  sendDdcSetInput bus code value := besideJournal (os.sendDdcSetInput bus code value)
  processExists pid t := os.processExists pid t.1
  msiIrqs pciAddr t := os.msiIrqs pciAddr t.1
  pathExists path t := os.pathExists path t.1
  writeFile path text := do
    modify fun t => (t.1, t.2 ++ [⟨look, path, text⟩])
    besideJournal (os.writeFile path text)

def SyncCalls.noting (os : SyncCalls V) (look : DeviceLook) :
    SyncCalls (V × List AffinityWrite) where
  toIrqCalls := os.toIrqCalls.noting (some look)
  readDirError pciAddr t := os.readDirError pciAddr t.1

/-- What `pin_irqs` does for one device, on the host with the journal. -/
def SyncCalls.pinDeviceNoted (os : SyncCalls V) (sys : DeviceSysfs) (vmCpus : List ℕ)
    (dev : PciDeviceConfig) : EStateM ChalybsError (V × List AffinityWrite) Unit := do
  let t ← get
  (os.noting (os.look dev t.1)).pinDevice sys vmCpus dev

/-- `pin_irqs` on the host with the journal. -/
def pinIrqsNoted (calls : PciDeviceConfig → SyncCalls V) (sys : DeviceSysfs) (rt : VmRuntime) :
    EStateM ChalybsError (V × List AffinityWrite) Unit :=
  (collectDevices rt.cfg).forM fun dev => (calls dev).pinDeviceNoted sys rt.cpus.vm.cpus dev

/-- The device that the worker looks at. -/
def WorkerPoint.current : WorkerPoint → Option PciDeviceConfig
  | .Scan _ (item :: _) => some item.dev
  | .Scan _ [] | .Entry | .Check _ | .Finish _ | .Returned _ => none

/-- An event of a run of the worker, on the host with the journal. -/
def applyNoted (os : IrqCalls V) (sys : DeviceSysfs) (s : PinState (V × List AffinityWrite)) :
    PinEvent V → PinState (V × List AffinityWrite)
  | .Step =>
      let look := s.1.point.current.map fun dev => os.look dev s.2.2.1
      (os.noting look).workerStep sys s.1 s.2
  | .Change v => (s.1, s.2.1, v, s.2.2.2)

/-! ## The journal changes nothing -/

section

variable {os : IrqCalls V} {look : Option DeviceLook}

/-- The host of the left state, which has a journal besides, is the right one. -/
def SameHost (t : V × List AffinityWrite) (v : V) : Prop := t.1 = v

lemma simulates_besideJournal {ε α : Type} {x : EStateM ε V α} :
    Simulates SameHost (besideJournal x) x := by
  rintro t _ rfl
  rw [besideJournal, ends_zoom]
  exact ends_of_eq (fun a v h => ⟨v, h, rfl⟩) fun e v h => ⟨v, h, rfl⟩

lemma simulates_writeFile (path text : String) :
    Simulates SameHost ((os.noting look).writeFile path text) (os.writeFile path text) := by
  rintro t _ rfl
  exact simulates_besideJournal (t.1, t.2 ++ [⟨look, path, text⟩]) t.1 rfl

lemma simulates_pinSingleIrq (irq : ℕ) (cpus : List ℕ) :
    Simulates SameHost ((os.noting look).pinSingleIrq irq cpus) (os.pinSingleIrq irq cpus) := by
  refine .get_bind ?_
  rintro t _ rfl
  exact .ite .throw (.ite .throw (.adaptExcept (simulates_writeFile _ _)))

lemma pinEach_noting (cpus irqs : List ℕ) (t : V × List AffinityWrite) :
    ((os.noting look).pinEach cpus irqs t).1 = (os.pinEach cpus irqs t.1).1 ∧
      ((os.noting look).pinEach cpus irqs t).2.1 = (os.pinEach cpus irqs t.1).2 := by
  induction irqs generalizing t with
  | nil => exact ⟨rfl, rfl⟩
  | cons irq irqs ih =>
      have hsim := (@simulates_pinSingleIrq V os look irq cpus).outcome (rfl : SameHost t t.1)
      obtain ⟨hok, hhost⟩ := hsim
      have hrest := ih (outcome ((os.noting look).pinSingleIrq irq cpus) t).2
      rw [show (outcome ((os.noting look).pinSingleIrq irq cpus) t).2.1 = _ from hhost] at hrest
      simp only [IrqCalls.pinEach, hok, hrest, and_self]

lemma scanDevice_noting (item : DeviceWork) (t : V × List AffinityWrite) :
    ((os.noting look).scanDevice item t).1 = (os.scanDevice item t.1).1 ∧
      ((os.noting look).scanDevice item t).2.1 = (os.scanDevice item t.1).2 := by
  have hirqs : (os.noting look).deviceIrqsBestEffort item.dev t =
      os.deviceIrqsBestEffort item.dev t.1 := rfl
  rw [IrqCalls.scanDevice, IrqCalls.scanDevice, hirqs]
  split_ifs
  · exact ⟨rfl, rfl⟩
  · cases os.deviceIrqsBestEffort item.dev t.1 with
    | nil => exact ⟨rfl, rfl⟩
    | cons irq irqs =>
        obtain ⟨hpins, hhost⟩ := @pinEach_noting V os look item.targetCpus (irq :: irqs) t
        simp only [hpins, hhost, and_self]

/-- The switch of the monitor at the end writes nothing to `/proc/irq`. -/
lemma afterPinning_noting {cfg : VmConfig} {t : List DdcCommand × V × List AffinityWrite} :
    let r := (os.noting look).afterPinning cfg t
    (r.1, r.2.1) = os.afterPinning cfg (t.1, t.2.1) ∧ r.2.2 = t.2.2 := by
  intro r
  have hsend : ∀ bus code value, (os.noting look).sendDdcSetInput bus code value =
      besideJournal (os.sendDdcSetInput bus code value) := fun _ _ _ => rfl
  show (((os.noting look).afterPinning cfg t).1, ((os.noting look).afterPinning cfg t).2.1) = _ ∧
    ((os.noting look).afterPinning cfg t).2.2 = t.2.2
  rw [IrqCalls.afterPinning, IrqCalls.afterPinning]
  cases cfg.ddc with
  | none => exact ⟨rfl, rfl⟩
  | some ddc =>
      simp only [HookCalls.switchToVmInputAfterIrq, outcome, HookCalls.setInput, hsend,
        besideJournal, zoom]
      cases os.sendDdcSetInput ddc.monitorI2cBus vcpCodeInputSource ddc.vmInput t.2.1 with
      | ok a v => exact ⟨rfl, rfl⟩
      | error e v => cases ddc.fatalOnError <;> exact ⟨rfl, rfl⟩

/-- The state without the journal. -/
def eraseJournal (s : PinState (V × List AffinityWrite)) : PinState V := (s.1, s.2.1, s.2.2.1)

lemma eraseJournal_applyNoted (os : IrqCalls V) (sys : DeviceSysfs)
    (s : PinState (V × List AffinityWrite)) (e : PinEvent V) :
    eraseJournal (applyNoted os sys s e) = applyPin os sys (eraseJournal s) e := by
  cases e with
  | Change v => rfl
  | Step =>
      obtain ⟨⟨vmCpus, devices, qemuPid, vmCfg, point⟩, ddc, t⟩ := s
      cases point with
      | Entry => rfl
      | Check items =>
          have halive : ∀ label, (os.noting label).processExists qemuPid t =
              os.processExists qemuPid t.1 := fun _ => rfl
          cases hfinds : os.processExists qemuPid t.1 <;>
            simp [applyNoted, applyPin, eraseJournal, IrqCalls.workerStep, halive, hfinds]
      | Scan scanned rest =>
          cases rest with
          | nil =>
              simp only [applyNoted, applyPin, eraseJournal, IrqCalls.workerStep]
              split_ifs <;> rfl
          | cons item rest =>
              obtain ⟨hitem, hhost⟩ :=
                @scanDevice_noting V os (some (os.look item.dev t.1)) item t
              simp only [applyNoted, applyPin, eraseJournal, IrqCalls.workerStep,
                WorkerPoint.current, Option.map_some, hitem, hhost]
      | Finish items =>
          obtain ⟨hhost, -⟩ := @afterPinning_noting V os none vmCfg (ddc, t)
          exact congrArg (Prod.mk _) hhost
      | Returned items => rfl

/-- **The journal changes nothing**: without it, a run is one of the worker alone. -/
theorem eraseJournal_run (os : IrqCalls V) (sys : DeviceSysfs)
    (s : PinState (V × List AffinityWrite)) (events : List (PinEvent V)) :
    eraseJournal (run (applyNoted os sys) s events) =
      run (applyPin os sys) (eraseJournal s) events := by
  induction events generalizing s with
  | nil => rfl
  | cons e events ih => rw [run_cons, run_cons, ih, eraseJournal_applyNoted]

/-- The same for `pin_irqs`. -/
theorem simulates_pinIrqs (calls : PciDeviceConfig → SyncCalls V) (sys : DeviceSysfs)
    (rt : VmRuntime) :
    Simulates SameHost (pinIrqsNoted calls sys rt) (pinIrqs calls sys rt) := by
  refine Simulates.forM (fun dev t v htv => ?_) _
  rw [SyncCalls.pinDeviceNoted, ends_bind, ends_get]
  refine Simulates.bind .fromExcept (fun targetCpus => .get_bind ?_) t v htv
  rintro u _ rfl
  exact .bind .fromExcept fun irqs =>
    Simulates.forM (fun irq => simulates_pinSingleIrq irq targetCpus) irqs

end

/-! ## Where the interrupts of a device may go -/

/-- The text is a CPU list, and read back as the CPUs: each once, in increasing order. -/
def ReadsBack (text : String) (cpus : List ℕ) : Prop :=
  ∃ list, list.Pairwise (· < ·) ∧ (∀ cpu, cpu ∈ list ↔ cpu ∈ cpus) ∧ DenotesCpus text list ∧
    parseCpuList text = .ok list

/-- The interrupts of the device may go to these CPUs: some of the VM's, and exactly those on the
node of the device if it has one. -/
structure Targets (sys : DeviceSysfs) (vmCpus : List ℕ) (dev : PciDeviceConfig) (cpus : List ℕ) :
    Prop where
  nonempty : cpus ≠ []
  subset : ∀ cpu ∈ cpus, cpu ∈ vmCpus
  onNode : ∀ node, 0 ≤ node → deviceNumaNode sys dev.pciAddress = some node →
    ∃ own, nodeCpus sys node.toInt.toNat = .ok own ∧
      ∀ cpu, cpu ∈ cpus ↔ cpu ∈ vmCpus ∧ cpu ∈ own

/-- The text stands for such CPUs. -/
def Steered (sys : DeviceSysfs) (vmCpus : List ℕ) (dev : PciDeviceConfig) (text : String) : Prop :=
  ∃ cpus, ReadsBack text cpus ∧ Targets sys vmCpus dev cpus

/-- `smp_affinity_list` of an interrupt. -/
def smpAffinityList (irq : ℕ) : String :=
  let irqDir := s!"/proc/irq/{irq}"
  s!"{irqDir}/smp_affinity_list"

/-- A write that steers one of the interrupts that a configured device lists when it is looked at,
to CPUs where it may go. -/
def SteeredWrite (sys : DeviceSysfs) (cfg : VmConfig) (vmCpus : List ℕ) (w : AffinityWrite) :
    Prop :=
  ∃ look irq, w.look = some look ∧ look.dev ∈ collectDevices cfg ∧ look.Lists irq ∧
    w.path = smpAffinityList irq ∧ Steered sys vmCpus look.dev w.text

section

variable {sys : DeviceSysfs} {cfg : VmConfig} {vmCpus cpus : List ℕ} {dev : PciDeviceConfig}

/-- What is written is read back. -/
lemma readsBack_formatCpuList (h : ∀ cpu ∈ cpus, cpu < 2 ^ 32) :
    ReadsBack (formatCpuList cpus) cpus := by
  have hdenotes := denotesCpus_formatCpuList h
  exact ⟨sortDedup cpus, pairwise_sortDedup, fun _ => mem_sortDedup, hdenotes, hdenotes.parse⟩

lemma mem_intersect {a b : List ℕ} {v : ℕ} : v ∈ intersect a b ↔ v ∈ a ∧ v ∈ b := by
  rw [intersect, List.mem_filter, List.contains_iff_mem]

/-- **The target CPUs of a device** are CPUs where its interrupts may go. -/
lemma targets_of_ok (hne : vmCpus ≠ []) (h : targetCpusForDevice sys vmCpus dev = .ok cpus) :
    Targets sys vmCpus dev cpus := by
  rw [targetCpusForDevice] at h
  split_ifs at h with hnode
  · obtain ⟨own, hown, h⟩ := except_bind_eq_ok.mp h
    dsimp only at h
    split_ifs at h with hempty
    obtain rfl := Except.ok.inj h
    refine ⟨by simpa using hempty, fun cpu hcpu => (mem_intersect.mp hcpu).1, ?_⟩
    intro node _ heq
    rw [heq] at hown
    exact ⟨own, hown, fun _ => mem_intersect⟩
  · obtain rfl := Except.ok.inj h
    refine ⟨hne, fun _ => id, fun node hpos heq => ?_⟩
    rw [heq] at hnode
    exact absurd hpos hnode

lemma Targets.steered (h : Targets sys vmCpus dev cpus) (hlt : ∀ cpu ∈ vmCpus, cpu < 2 ^ 32) :
    Steered sys vmCpus dev (formatIrqCpuList cpus) :=
  ⟨cpus, readsBack_formatCpuList fun cpu hcpu => hlt cpu (h.subset cpu hcpu), h⟩

end

/-! ## What is noted -/

/-- Every write of the journal is good. -/
def Journal (Good : AffinityWrite → Prop) (t : V × List AffinityWrite) : Prop := ∀ w ∈ t.2, Good w

section

variable {Good : AffinityWrite → Prop} {os : IrqCalls V} {look : Option DeviceLook}
  {cpus : List ℕ}

lemma preserves_besideJournal {ε α : Type} {x : EStateM ε V α} :
    Preserves (Journal Good) (besideJournal x) :=
  .zoom (fun _ ht _ _ => ends_of_forall (fun _ _ => ht) fun _ _ => ht) fun _ => rfl

lemma preserves_writeFile {path text : String} (h : Good ⟨look, path, text⟩) :
    Preserves (Journal Good) ((os.noting look).writeFile path text) := by
  refine .bind (.modify fun t ht => ?_) fun _ => preserves_besideJournal
  exact List.forall_mem_append.mpr ⟨ht, List.forall_mem_singleton.mpr h⟩

/-- **One interrupt**: the list is written to its file, or nothing is. -/
lemma preserves_pinSingleIrq {irq : ℕ}
    (h : Good ⟨look, smpAffinityList irq, formatIrqCpuList cpus⟩) :
    Preserves (Journal Good) ((os.noting look).pinSingleIrq irq cpus) := by
  refine .bind .get fun t => ?_
  split_ifs
  · exact .throw
  · exact .throw
  · exact (preserves_writeFile h).adaptExcept

lemma journal_pinEach (irqs : List ℕ)
    (h : ∀ irq ∈ irqs, Good ⟨look, smpAffinityList irq, formatIrqCpuList cpus⟩)
    {t : V × List AffinityWrite} (ht : Journal Good t) :
    Journal Good ((os.noting look).pinEach cpus irqs t).2 := by
  induction irqs generalizing t with
  | nil => exact ht
  | cons irq irqs ih =>
      obtain ⟨hfirst, hrest⟩ := List.forall_mem_cons.mp h
      exact ih hrest ((preserves_pinSingleIrq hfirst).outcome_snd ht)

/-- The numbers that the worker reads are interrupts of the device. -/
lemma lists_of_bestEffort {dev : PciDeviceConfig} {v : V} {irq : ℕ}
    (h : irq ∈ os.deviceIrqsBestEffort dev v) : (os.look dev v).Lists irq := by
  obtain ⟨name, hname, hirq⟩ := List.mem_filterMap.mp h
  cases hnames : os.msiIrqs dev.pciAddress v with
  | none =>
      rw [hnames] at hname
      exact absurd hname List.not_mem_nil
  | some names =>
      rw [hnames] at hname
      exact ⟨names, hnames, name, hname, toOption_eq_some.mp hirq⟩

/-- So are those that `pin_irqs` reads. -/
lemma lists_of_deviceIrqs {os : SyncCalls V} {dev : PciDeviceConfig} {v : V} {irqs : List ℕ}
    (h : os.deviceIrqs dev v = .ok irqs) : ∀ irq ∈ irqs, (os.look dev v).Lists irq := by
  intro irq hirq
  have hnil : irqs ≠ [] := List.ne_nil_of_mem hirq
  rw [SyncCalls.deviceIrqs] at h
  dsimp only at h
  split_ifs at h
  · exact absurd (Except.ok.inj h).symm hnil
  · cases hnames : os.msiIrqs dev.pciAddress v with
    | none =>
        rw [hnames] at h
        cases h
    | some names =>
        rw [hnames] at h
        dsimp only at h
        split_ifs at h
        obtain rfl := Except.ok.inj h
        obtain ⟨name, hname, hparsed⟩ := List.mem_filterMap.mp hirq
        exact ⟨names, hnames, name, hname, toOption_eq_some.mp hparsed⟩

lemma journal_scanDevice {item : DeviceWork} {t : V × List AffinityWrite}
    (h : ∀ irq, (os.look item.dev t.1).Lists irq →
      Good ⟨look, smpAffinityList irq, formatIrqCpuList item.targetCpus⟩)
    (ht : Journal Good t) : Journal Good ((os.noting look).scanDevice item t).2 := by
  rw [IrqCalls.scanDevice]
  split_ifs
  · exact ht
  · have hirqs : (os.noting look).deviceIrqsBestEffort item.dev t =
        os.deviceIrqsBestEffort item.dev t.1 := rfl
    rw [hirqs]
    cases hlisted : os.deviceIrqsBestEffort item.dev t.1 with
    | nil => exact ht
    | cons irq irqs =>
        refine journal_pinEach (irq :: irqs) (fun irq' hirq' => ?_) ht
        exact h irq' (lists_of_bestEffort (hlisted ▸ hirq'))

/-- **One step of the worker** writes to the files of the interrupts that the device lists which it
looks at, and nothing else. -/
lemma WorksOn.journal {sys : DeviceSysfs} {w : IrqWorker}
    {t t' : List DdcCommand × V × List AffinityWrite} {p p' : WorkerPoint}
    (h : WorksOn (os.noting (p.current.map fun dev => os.look dev t.2.1)) sys w t p p' t')
    (hgood : ∀ item ∈ p.items, ∀ irq, (os.look item.dev t.2.1).Lists irq →
      Good ⟨some (os.look item.dev t.2.1), smpAffinityList irq,
        formatIrqCpuList item.targetCpus⟩)
    (ht : Journal Good t.2) : Journal Good t'.2 := by
  cases h with
  | @scans scanned rest item =>
      exact journal_scanDevice (hgood item (by simp [WorkerPoint.items])) ht
  | switches =>
      rw [Journal, afterPinning_noting.2]
      exact ht
  | skips | enters | finds | aborts | repeats | finishes | rests => exact ht

/-- **One device of `pin_irqs`.** -/
lemma ends_pinDeviceNoted {os : SyncCalls V} {sys : DeviceSysfs} {vmCpus : List ℕ}
    {dev : PciDeviceConfig} {t : V × List AffinityWrite}
    (h : ∀ targetCpus, targetCpusForDevice sys vmCpus dev = .ok targetCpus → ∀ irq,
      (os.look dev t.1).Lists irq →
        Good ⟨some (os.look dev t.1), smpAffinityList irq, formatIrqCpuList targetCpus⟩)
    (ht : Journal Good t) :
    Ends (os.pinDeviceNoted sys vmCpus dev) t (fun _ => Journal Good) fun _ => Journal Good := by
  rw [SyncCalls.pinDeviceNoted, ends_bind, ends_get, SyncCalls.pinDevice, ends_bind,
    ends_fromExcept]
  cases htarget : targetCpusForDevice sys vmCpus dev with
  | error e => exact ht
  | ok targetCpus =>
      have hirqs : (os.noting (os.look dev t.1)).deviceIrqs dev t = os.deviceIrqs dev t.1 := rfl
      show Ends (get >>= _) t _ _
      rw [ends_bind, ends_get, ends_bind, hirqs, ends_fromExcept]
      cases hlisted : os.deviceIrqs dev t.1 with
      | error e => exact ht
      | ok irqs =>
          refine Preserves.forM (fun irq hirq => ?_) t ht
          exact preserves_pinSingleIrq
            (h targetCpus htarget irq (lists_of_deviceIrqs hlisted irq hirq))

end

/-! ## Every write -/

section

variable {sys : DeviceSysfs} {cfg : VmConfig} {vmCpus : List ℕ}

/-- A write for an interrupt of a device, to the target CPUs of the device. -/
lemma steeredWrite_of_target (hne : vmCpus ≠ []) (hlt : ∀ cpu ∈ vmCpus, cpu < 2 ^ 32)
    {look : DeviceLook} (hdev : look.dev ∈ collectDevices cfg) {targetCpus : List ℕ}
    (htarget : targetCpusForDevice sys vmCpus look.dev = .ok targetCpus) {irq : ℕ}
    (hirq : look.Lists irq) :
    SteeredWrite sys cfg vmCpus
      ⟨some look, smpAffinityList irq, formatIrqCpuList targetCpus⟩ :=
  ⟨look, irq, rfl, hdev, hirq, rfl, (targets_of_ok hne htarget).steered hlt⟩

/-- What holds in every run of the worker. -/
structure Steers (sys : DeviceSysfs) (cfg : VmConfig) (vmCpus : List ℕ)
    (s : PinState (V × List AffinityWrite)) : Prop where
  planned : PlannedWork sys cfg vmCpus s.1
  journal : Journal (SteeredWrite sys cfg vmCpus) s.2.2

/-- **One event.** -/
lemma Steers.applyNoted (hne : vmCpus ≠ []) (hlt : ∀ cpu ∈ vmCpus, cpu < 2 ^ 32)
    {s : PinState (V × List AffinityWrite)} (hs : Steers sys cfg vmCpus s) (os : IrqCalls V)
    (e : PinEvent V) : Steers sys cfg vmCpus (applyNoted os sys s e) := by
  cases e with
  | Change v => exact ⟨hs.planned, hs.journal⟩
  | Step =>
      obtain ⟨_, -, hworks⟩ := worksOn_workerStep
        (os.noting (s.1.point.current.map fun dev => os.look dev s.2.2.1)) sys s.1 s.2
      refine ⟨hs.planned.workerStep _ s.2, hworks.journal (fun item hitem irq hirq => ?_)
        hs.journal⟩
      obtain ⟨hdev, htarget⟩ := hs.planned.target hitem
      have hlook : (os.look item.dev s.2.2.1).dev ∈ collectDevices cfg := hdev
      exact steeredWrite_of_target hne hlt hlook htarget hirq

lemma journal_pinIrqs (calls : PciDeviceConfig → SyncCalls V) (rt : VmRuntime)
    (hne : rt.cpus.vm.cpus ≠ []) (hlt : ∀ cpu ∈ rt.cpus.vm.cpus, cpu < 2 ^ 32) :
    Preserves (Journal (SteeredWrite sys rt.cfg rt.cpus.vm.cpus)) (pinIrqsNoted calls sys rt) := by
  refine .forM fun dev hdev t ht => ?_
  refine ends_pinDeviceNoted (fun targetCpus htarget irq hirq => ?_) ht
  have hlook : ((calls dev).look dev t.1).dev ∈ collectDevices rt.cfg := hdev
  exact steeredWrite_of_target hne hlt hlook htarget hirq

end

/-- CPU numbers of the type `u32`. -/
def cpuNumbers (cpus : List UInt32) : List ℕ := cpus.map UInt32.toNat

/-- **What is written is read back**, from the files of the cpusets as from those of the
interrupts. -/
theorem written_lists_read_back (cpus : List UInt32) :
    (ReadsBack (formatCpuList (cpuNumbers cpus)) (cpuNumbers cpus) ∧
        ReadsBack (formatIrqCpuList (cpuNumbers cpus)) (cpuNumbers cpus)) ∧
      (∀ sys layout texts, cpusetTexts sys layout = .ok texts →
        (layout.vm.cpus = cpuNumbers cpus → ReadsBack texts.vmCpus (cpuNumbers cpus)) ∧
          (layout.host.cpus = cpuNumbers cpus → ReadsBack texts.hostCpus (cpuNumbers cpus))) ∧
      ∀ (os : IrqCalls V) irq v,
        ∀ write ∈ (outcome ((os.noting none).pinSingleIrq irq (cpuNumbers cpus)) (v, [])).2.2,
          write.path = smpAffinityList irq ∧ ReadsBack write.text (cpuNumbers cpus) := by
  have hback : ReadsBack (formatCpuList (cpuNumbers cpus)) (cpuNumbers cpus) := by
    refine readsBack_formatCpuList fun cpu hcpu => ?_
    obtain ⟨c, -, rfl⟩ := List.mem_map.mp hcpu
    exact c.toNat_lt
  refine ⟨⟨hback, hback⟩, fun sys layout texts htexts => ?_, fun os irq v => ?_⟩
  · obtain ⟨hvm, hhost⟩ := cpus_of_cpusetTexts htexts
    exact ⟨fun h => by rw [hvm, h]; exact hback, fun h => by rw [hhost, h]; exact hback⟩
  · refine Preserves.outcome_snd (preserves_pinSingleIrq ?_) (fun _ h => by cases h)
    exact ⟨rfl, hback⟩

/-- **Every write is steered.**  In every run of the worker of a VM, and in every run of `pin_irqs`,
each write goes to an interrupt that the device lists which is looked at, and the list that is
written stands for CPUs where the interrupts of the device may go. -/
theorem writes_steered (sys : DeviceSysfs) (rt : VmRuntime) (hne : rt.cpus.vm.cpus ≠ [])
    (hlt : ∀ cpu ∈ rt.cpus.vm.cpus, cpu < 2 ^ 32) :
    (∀ w, spawnIrqPinWorker rt = some w → ∀ (os : IrqCalls V) v events,
      ∀ write ∈ (run (applyNoted os sys) (w, [], v, []) events).2.2.2,
        SteeredWrite sys rt.cfg rt.cpus.vm.cpus write) ∧
      ∀ (calls : PciDeviceConfig → SyncCalls V) v,
        ∀ write ∈ (outcome (pinIrqsNoted calls sys rt) (v, [])).2.2,
          SteeredWrite sys rt.cfg rt.cpus.vm.cpus write := by
  have hempty : ∀ v : V, Journal (SteeredWrite sys rt.cfg rt.cpus.vm.cpus) (v, []) :=
    fun _ _ h => by cases h
  constructor
  · intro w hw os v events
    rw [spawned_eq_startPin hw (v, [])]
    refine Steers.journal (run_invariant (fun s e hs => hs.applyNoted hne hlt os e) ?_ events)
    exact ⟨plannedWork_startPin _ _, hempty v⟩
  · intro calls v
    exact (journal_pinIrqs calls rt hne hlt).outcome_snd (hempty v)

/-- A host whose devices are all on node 1, with CPUs 2 to 5. -/
def nodeOneSysfs : DeviceSysfs where
  numaNode _ := .ok "1"
  nodeCpulist _ := .ok "2-5"

/-- The VM has CPUs 1 to 3, so that interrupts go to CPUs 2 and 3. -/
theorem steered_to_node :
    SteeredWrite nodeOneSysfs gpuAndNicVm [1, 2, 3]
      ⟨some ⟨⟨"0000:01:00.0", true, none⟩, some ["30"]⟩, smpAffinityList 30, "2,3"⟩ := by
  let rt : VmRuntime :=
    { VmRuntime.new "a" gpuAndNicVm ⟨⟨[0]⟩, ⟨[1, 2, 3]⟩⟩ with qemu := some ⟨100⟩ }
  obtain ⟨hworker, -⟩ := @writes_steered (List String × List String) nodeOneSysfs rt (by decide)
    (by decide)
  exact hworker _ rfl vectorCalls ([], []) (twoPasses ["30"]) _ (by decide +kernel)

end Chalybs
