import Chalybs.Foundation.Fallible
import Chalybs.Vfio.Isolation

/-!
# What the isolation gate decides

The evaluators work on hash maps of groups, on a set of addresses and on per-device contexts.
`IsolationViolation` says what they look for in terms of the inventory and the configuration
alone, one constructor for each rule, and the verdict of the gate is that nothing of this kind
exists.

* `mem_collectPassthroughBdfs`, `exists_context` — what the two collecting passes collect;
* `exclusivity_reports`, …, `numa_reports` — when each evaluator reports a violation;
* `GateRefusal` with `evaluateIsolationForVm_iff` — the verdict over every configuration and
  inventory, with the effect of repeated entries;
* `isolationGate_decides` — the verdict in terms of the rules, where nothing is repeated.
-/

namespace Chalybs

open Foundation

/-! ## The rules -/

/-- `f` is configured with the effective level `level`. -/
def VmConfig.HasLevel (cfg : VmConfig) (level : IsolationLevel) (f : PciFunction) : Prop :=
  ∃ dev ∈ cfg.configured, dev.pciAddress = f.bdf ∧ dev.effectiveLevel cfg.isolation = level

/-- Two functions of the inventory that are in one IOMMU group, one with `P` and one with `Q`. -/
def PciInventory.SharesGroup (inv : PciInventory) (P Q : PciFunction → Prop) : Prop :=
  ∃ f ∈ inv.functions, ∃ g ∈ inv.functions, ∃ gid : UInt32,
    f.iommuGroup = some gid ∧ g.iommuGroup = some gid ∧ P f ∧ Q g

/-- Two functions of the inventory that are in one slot, one with `P` and one with `Q`. -/
def PciInventory.SharesSlot (inv : PciInventory) (P Q : PciFunction → Prop) : Prop :=
  ∃ f ∈ inv.functions, ∃ g ∈ inv.functions, ∃ slot : ℕ × ℕ × ℕ,
    parseSlotKey f.bdf = some slot ∧ parseSlotKey g.bdf = some slot ∧ P f ∧ Q g

/-- A way in which a configuration breaks its isolation policy on an inventory. -/
inductive IsolationViolation (cfg : VmConfig) (inv : PciInventory) : Prop
  | groupNotExclusive (hflag : cfg.isolation.requireIommuExclusive = true)
      (h : inv.SharesGroup (fun f => cfg.Configures f.bdf) fun g => ¬ cfg.Configures g.bdf)
  | mixedOwnership (hflag : cfg.isolation.requireMultifunctionConsistency = true)
      (h : inv.SharesSlot (fun f => cfg.Configures f.bdf) fun g => ¬ cfg.Configures g.bdf)
  | hostCriticalGpu (hflag : cfg.isolation.forbidHostCriticalInGroup = true)
      (h : inv.SharesGroup (fun f => cfg.Configures f.bdf) fun g =>
        g.isDisplayController = true ∧ ∃ driver ∈ hostGpuDrivers, g.driver = some driver)
  | forbiddenDevice (h : ∃ f ∈ inv.functions, cfg.HasLevel .Forbidden f)
  | dedicatedNotExclusive (hflag : cfg.isolation.requireIommuExclusive = false)
      (h : inv.SharesGroup (cfg.HasLevel .Dedicated) fun g => ¬ cfg.Configures g.bdf)
  | numaMismatch (vmNode : UInt16) (hnode : cfg.numa.bind NumaConfig.node = some vmNode)
      (h : ∃ f ∈ inv.functions, cfg.HasLevel .Dedicated f ∧
        ∃ node, f.numaNode = some node ∧ 0 ≤ node.toInt ∧ node.toInt ≠ vmNode.toNat)

/-! ## What the passes see

Repeated entries and repeated addresses make a difference to the passes: a lookup finds the first
function with an address, and of the entries of one list with an address the last one counts. -/

/-- `f` is the function that the inventory has at its address. -/
def PciInventory.Finds (inv : PciInventory) (f : PciFunction) : Prop :=
  inv.findByBdf f.bdf = some f

/-- The last entry for `bdf` in some list has the effective level `level`. -/
def VmConfig.LastLevel (cfg : VmConfig) (level : IsolationLevel) (bdf : String) : Prop :=
  ∃ devs ∈ cfg.devices.lists, ∃ dev, lastOn PciDeviceConfig.pciAddress devs bdf = some dev ∧
    dev.effectiveLevel cfg.isolation = level

/-- A reason for which the gate refuses a configuration in `Enforce` mode. -/
inductive GateRefusal (cfg : VmConfig) (inv : PciInventory) : Prop
  | groupNotExclusive (hflag : cfg.isolation.requireIommuExclusive = true)
      (h : inv.SharesGroup (fun f => cfg.Configures f.bdf) fun g => ¬ cfg.Configures g.bdf)
  | mixedOwnership (hflag : cfg.isolation.requireMultifunctionConsistency = true)
      (h : inv.SharesSlot (fun f => cfg.Configures f.bdf) fun g => ¬ cfg.Configures g.bdf)
  | hostCriticalGpu (hflag : cfg.isolation.forbidHostCriticalInGroup = true)
      (h : inv.SharesGroup (fun f => cfg.Configures f.bdf) fun g =>
        g.isDisplayController = true ∧ ∃ driver ∈ hostGpuDrivers, g.driver = some driver)
  | forbiddenDevice (h : ∃ f, inv.Finds f ∧ cfg.LastLevel .Forbidden f.bdf)
  | dedicatedNotExclusive (hflag : cfg.isolation.requireIommuExclusive = false)
      (h : inv.SharesGroup (fun f => inv.Finds f ∧ cfg.LastLevel .Dedicated f.bdf)
        fun g => ¬ cfg.Configures g.bdf)
  | numaMismatch (vmNode : UInt16) (hnode : cfg.numa.bind NumaConfig.node = some vmNode)
      (h : ∃ f, inv.Finds f ∧ cfg.LastLevel .Dedicated f.bdf ∧
        ∃ node, f.numaNode = some node ∧ 0 ≤ node.toInt ∧ node.toInt % 65536 ≠ vmNode.toNat)

/-! ## The collecting passes -/

variable {cfg : VmConfig} {inv : PciInventory}

lemma mem_configured {dev : PciDeviceConfig} :
    dev ∈ cfg.configured ↔ ∃ devs ∈ cfg.devices.lists, dev ∈ devs := by
  rw [VmConfig.configured, List.mem_flatten]

lemma requiredPresent_configured :
    inv.RequiredPresent cfg.configured ↔ ∀ devs ∈ cfg.devices.lists, inv.RequiredPresent devs := by
  simp only [PciInventory.RequiredPresent, mem_configured]
  constructor
  · intro h devs hdevs dev hdev
    exact h dev ⟨devs, hdevs, hdev⟩
  · rintro h dev ⟨devs, hdevs, hdev⟩
    exact h devs hdevs dev hdev

/-- A pass over the four lists that appends what it makes of each resolved list. -/
lemma collect_eq_ok {γ : Type} {step : Option (List PciDeviceConfig) → List γ →
      Except ChalybsError (List γ)} {make : List PciDeviceConfig → List γ}
    (hstep : ∀ cfgs out, step cfgs out = do
      let _ ← inv.resolveConfigured (deviceList cfgs)
      pure (out ++ make (deviceList cfgs))) {out : List γ} :
    (do
      let acc ← step cfg.devices.gpu []
      let acc ← step cfg.devices.nvme acc
      let acc ← step cfg.devices.nic acc
      step cfg.devices.usb acc) = .ok out ↔
      inv.RequiredPresent cfg.configured ∧ out = cfg.devices.lists.flatMap make := by
  have hone : ∀ cfgs acc r, step cfgs acc = .ok r ↔
      inv.RequiredPresent (deviceList cfgs) ∧ r = acc ++ make (deviceList cfgs) := by
    intro cfgs acc r
    rw [hstep, except_bind_eq_ok]
    simp only [resolveConfigured_eq_ok, pure, Except.pure, Except.ok.injEq]
    constructor
    · rintro ⟨funcs, ⟨hreq, -⟩, rfl⟩
      exact ⟨hreq, rfl⟩
    · rintro ⟨hreq, rfl⟩
      exact ⟨_, ⟨hreq, rfl⟩, rfl⟩
  rw [requiredPresent_configured]
  simp only [except_bind_eq_ok, hone, DevicesConfig.lists, List.forall_mem_cons,
    List.flatMap_cons, List.flatMap_nil, List.not_mem_nil, false_implies, implies_true, and_true,
    List.nil_append, List.append_nil]
  constructor
  · rintro ⟨_, ⟨hg, rfl⟩, _, ⟨hn, rfl⟩, _, ⟨hi, rfl⟩, hu, rfl⟩
    exact ⟨⟨hg, hn, hi, hu⟩, by simp only [List.append_assoc]⟩
  · rintro ⟨⟨hg, hn, hi, hu⟩, rfl⟩
    exact ⟨_, ⟨hg, rfl⟩, _, ⟨hn, rfl⟩, _, ⟨hi, rfl⟩, hu, by simp only [List.append_assoc]⟩

lemma collectPassthroughBdfs_eq_ok {bdfs : List String} :
    collectPassthroughBdfs cfg inv = .ok bdfs ↔
      inv.RequiredPresent cfg.configured ∧
        bdfs = cfg.devices.lists.flatMap fun devs => (inv.resolved devs).map PciFunction.bdf := by
  refine collect_eq_ok fun cfgs out => ?_
  rw [collectDevicesForKind]
  cases hres : inv.resolveConfigured (deviceList cfgs) with
  | error e => rfl
  | ok funcs => rw [resolveConfigured_ok hres]; rfl

lemma collectDeviceContexts_eq_ok {policy : IsolationPolicyConfig}
    {ctxs : List DeviceIsolationContext} :
    collectDeviceContexts policy cfg inv = .ok ctxs ↔
      inv.RequiredPresent cfg.configured ∧
        ctxs = cfg.devices.lists.flatMap fun devs =>
          (inv.resolved devs).filterMap (deviceContext policy devs) := by
  refine collect_eq_ok fun cfgs out => ?_
  rw [collectDeviceContextsForKind]
  cases hres : inv.resolveConfigured (deviceList cfgs) with
  | error e => rfl
  | ok funcs => rw [resolveConfigured_ok hres]; rfl

/-- **The passthrough set** holds the addresses of the configured devices that are present. -/
lemma mem_collectPassthroughBdfs {bdfs : List String}
    (h : collectPassthroughBdfs cfg inv = .ok bdfs) {f : PciFunction} (hf : f ∈ inv.functions) :
    f.bdf ∈ bdfs ↔ cfg.Configures f.bdf := by
  rw [(collectPassthroughBdfs_eq_ok.mp h).2]
  simp only [List.mem_flatMap, List.mem_map, mem_resolved, VmConfig.Configures, mem_configured]
  constructor
  · rintro ⟨devs, hdevs, g, ⟨dev, hdev, hfind⟩, hbdf⟩
    exact ⟨dev, ⟨devs, hdevs, hdev⟩, by rw [← hbdf, (mem_of_findByBdf hfind).2]⟩
  · rintro ⟨dev, ⟨devs, hdevs, hdev⟩, hbdf⟩
    have hsome : (inv.findByBdf dev.pciAddress).isSome := findByBdf_isSome.mpr ⟨f, hf, hbdf.symm⟩
    obtain ⟨g, hg⟩ := Option.isSome_iff_exists.mp hsome
    exact ⟨devs, hdevs, g, ⟨dev, hdev, hg⟩, by rw [(mem_of_findByBdf hg).2, hbdf]⟩

/-- **The device contexts** are the functions that the configured devices resolve to, each with the
levels that count for it. -/
lemma exists_context {ctxs : List DeviceIsolationContext}
    (h : collectDeviceContexts cfg.isolation cfg inv = .ok ctxs)
    {P : PciFunction → IsolationLevel → Prop} :
    (∃ ctx ∈ ctxs, P ctx.func ctx.effectiveLevel) ↔
      ∃ f, inv.Finds f ∧ ∃ level, cfg.LastLevel level f.bdf ∧ P f level := by
  rw [(collectDeviceContexts_eq_ok.mp h).2]
  simp only [List.mem_flatMap, List.mem_filterMap, mem_resolved, deviceContext,
    Option.map_eq_some_iff]
  constructor
  · rintro ⟨ctx, ⟨devs, hdevs, f, ⟨dev, -, hfind⟩, last, hlast, rfl⟩, hP⟩
    exact ⟨f, findByBdf_bdf hfind, _, ⟨devs, hdevs, last, hlast, rfl⟩, hP⟩
  · rintro ⟨f, hf, level, ⟨devs, hdevs, last, hlast, rfl⟩, hP⟩
    obtain ⟨hmem, hbdf⟩ := mem_of_lastOn hlast
    exact ⟨_, ⟨devs, hdevs, f, ⟨last, hmem, by rw [hbdf]; exact hf⟩, last, hlast, rfl⟩, hP⟩

/-! ## The evaluators -/

/-- Some finding of the list is a violation. -/
def HasViolation (findings : List IsolationFinding) : Prop :=
  ∃ finding ∈ findings, finding.isViolation = true

lemma hasViolation_append {xs ys : List IsolationFinding} :
    HasViolation (xs ++ ys) ↔ HasViolation xs ∨ HasViolation ys := by
  simp only [HasViolation, List.mem_append, or_and_right, exists_or]

lemma hasViolation_ite {c : Bool} {xs : List IsolationFinding} :
    HasViolation (if c then xs else []) ↔ c = true ∧ HasViolation xs := by
  cases c with
  | false => simp [HasViolation]
  | true => simp

lemma hasViolation_filterMap {γ : Type} {make : γ → Option IsolationFinding} {xs : List γ} :
    HasViolation (xs.filterMap make) ↔
      ∃ x ∈ xs, ∃ finding, make x = some finding ∧ finding.isViolation = true := by
  simp only [HasViolation, List.mem_filterMap]
  constructor
  · rintro ⟨finding, ⟨x, hx, hmake⟩, hv⟩
    exact ⟨x, hx, finding, hmake, hv⟩
  · rintro ⟨x, hx, finding, hmake, hv⟩
    exact ⟨finding, ⟨x, hx, hmake⟩, hv⟩

variable {vmName : String} {bdfs : List String}

lemma splitByPassthrough_fst_ne_nil {members : List PciFunction} :
    (splitByPassthrough bdfs members).1.isEmpty = false ↔ ∃ m ∈ members, m.bdf ∈ bdfs := by
  simp [splitByPassthrough, List.isEmpty_eq_false_iff, List.filter_eq_nil_iff]

lemma splitByPassthrough_snd_ne_nil {members : List PciFunction} :
    (splitByPassthrough bdfs members).2.isEmpty = false ↔ ∃ m ∈ members, m.bdf ∉ bdfs := by
  simp [splitByPassthrough, List.isEmpty_eq_false_iff, List.filter_eq_nil_iff]

/-- Exclusivity is violated by a group with members on both sides. -/
lemma exclusivity_reports :
    HasViolation (evaluateIommuExclusivity vmName inv bdfs) ↔
      inv.SharesGroup (fun f => f.bdf ∈ bdfs) fun g => g.bdf ∉ bdfs := by
  rw [evaluateIommuExclusivity, hasViolation_filterMap, PciInventory.byIommuGroup]
  refine Iff.trans ?_ (exists_mixed_group PciFunction.iommuGroup inv.functions _ _)
  refine exists_congr fun group => and_congr_right fun _ => ?_
  rw [← splitByPassthrough_fst_ne_nil, ← splitByPassthrough_snd_ne_nil]
  cases hp : (splitByPassthrough bdfs group.2).1.isEmpty with
  | true => simp [exclusivityFinding, hp]
  | false =>
      cases hn : (splitByPassthrough bdfs group.2).2.isEmpty with
      | true => simp [exclusivityFinding, hp, hn, IsolationFinding.isViolation]
      | false => simp [exclusivityFinding, hp, hn, IsolationFinding.isViolation]

/-- Multi-function consistency is violated by a slot with functions on both sides. -/
lemma multifunction_reports :
    HasViolation (evaluateMultifunctionConsistency vmName inv bdfs) ↔
      inv.SharesSlot (fun f => f.bdf ∈ bdfs) fun g => g.bdf ∉ bdfs := by
  rw [evaluateMultifunctionConsistency, hasViolation_filterMap]
  refine Iff.trans ?_
    (exists_mixed_group (fun f : PciFunction => parseSlotKey f.bdf) inv.functions _ _)
  refine exists_congr fun group => and_congr_right fun _ => ?_
  rw [← splitByPassthrough_fst_ne_nil, ← splitByPassthrough_snd_ne_nil]
  cases hp : (splitByPassthrough bdfs group.2).1.isEmpty with
  | true => simp [multifunctionFinding, hp]
  | false =>
      cases hn : (splitByPassthrough bdfs group.2).2.isEmpty with
      | true => simp [multifunctionFinding, hp, hn]
      | false => simp [multifunctionFinding, hp, hn, IsolationFinding.isViolation]

lemma isHostCritical_iff {f : PciFunction} :
    f.isHostCritical = true ↔
      f.isDisplayController = true ∧ ∃ driver ∈ hostGpuDrivers, f.driver = some driver := by
  rw [PciFunction.isHostCritical, Bool.and_eq_true, decide_eq_true_eq, gpuSafetyClass_eq_hostOwned]
  tauto

/-- Host-critical sharing is violated by a group with a passthrough member and a GPU that the
host drives. -/
lemma hostCritical_reports :
    HasViolation (evaluateHostCriticalSharing vmName inv bdfs) ↔
      inv.SharesGroup (fun f => f.bdf ∈ bdfs) fun g => g.isHostCritical = true := by
  rw [evaluateHostCriticalSharing, hasViolation_filterMap, PciInventory.byIommuGroup]
  refine Iff.trans ?_ (exists_mixed_group PciFunction.iommuGroup inv.functions _ _)
  refine exists_congr fun group => and_congr_right fun _ => ?_
  have hcrit : ((group.2.filter PciFunction.isHostCritical).map PciFunction.bdf).isEmpty = false ↔
      ∃ g ∈ group.2, g.isHostCritical = true := by
    simp [List.isEmpty_eq_false_iff, List.filter_eq_nil_iff]
  have hpass : (group.2.any fun m => bdfs.contains m.bdf) = true ↔
      ∃ f ∈ group.2, f.bdf ∈ bdfs := by simp
  rw [← hcrit, ← hpass]
  cases hc : ((group.2.filter PciFunction.isHostCritical).map PciFunction.bdf).isEmpty with
  | true => simp only [hostCriticalFinding, hc]; simp
  | false =>
      cases hp : group.2.any fun m => bdfs.contains m.bdf with
      | true => simp only [hostCriticalFinding, hc, hp]; simp [IsolationFinding.isViolation]
      | false => simp only [hostCriticalFinding, hc, hp]; simp [IsolationFinding.isViolation]

/-- A dedicated device is reported when its group has a member outside the set. -/
lemma dedicated_reports {f : PciFunction} (hf : f ∈ inv.functions) :
    (dedicatedFinding vmName inv bdfs f).isViolation = true ↔
      ∃ g ∈ inv.functions, ∃ gid, f.iommuGroup = some gid ∧ g.iommuGroup = some gid ∧
        g.bdf ∉ bdfs := by
  cases hg : f.iommuGroup with
  | none => simp [dedicatedFinding, hg, IsolationFinding.isViolation]
  | some gid =>
      have hmembers : findGroup inv.byIommuGroup gid =
          some (inv.functions.filter fun g => decide (g.iommuGroup = some gid)) :=
        findGroup_groupOn hf hg
      have hsplit : (splitByPassthrough bdfs
            (inv.functions.filter fun g => decide (g.iommuGroup = some gid))).2.isEmpty = false ↔
          ∃ g ∈ inv.functions, g.iommuGroup = some gid ∧ g.bdf ∉ bdfs := by
        rw [splitByPassthrough_snd_ne_nil]
        simp only [List.mem_filter, decide_eq_true_eq, and_assoc]
      simp only [Option.some.injEq, exists_eq_left', ← hsplit]
      cases hn : (splitByPassthrough bdfs
          (inv.functions.filter fun g => decide (g.iommuGroup = some gid))).2.isEmpty with
      | true => simp [dedicatedFinding, hg, hmembers, hn, IsolationFinding.isViolation]
      | false => simp [dedicatedFinding, hg, hmembers, hn, IsolationFinding.isViolation]

/-- The per-device levels are violated by a forbidden device, and, when exclusivity is not
required anyway, by a dedicated one whose group has a member outside the set. -/
lemma level_reports {policy : IsolationPolicyConfig} {ctx : DeviceIsolationContext}
    (hf : ctx.func ∈ inv.functions) :
    (∃ finding, levelFinding vmName policy inv bdfs ctx = some finding ∧
        finding.isViolation = true) ↔
      ctx.effectiveLevel = .Forbidden ∨
        (ctx.effectiveLevel = .Dedicated ∧ policy.requireIommuExclusive = false ∧
          ∃ g ∈ inv.functions, ∃ gid, ctx.func.iommuGroup = some gid ∧ g.iommuGroup = some gid ∧
            g.bdf ∉ bdfs) := by
  cases hlevel : ctx.effectiveLevel with
  | Forbidden => simp [levelFinding, hlevel, IsolationFinding.isViolation]
  | SharedWithHost => simp [levelFinding, hlevel]
  | Dedicated =>
      have hded : (dedicatedFinding vmName inv bdfs ctx.func).isViolation = true ↔ _ :=
        dedicated_reports hf
      rw [← hded]
      cases hflag : policy.requireIommuExclusive with
      | true => simp [levelFinding, hlevel, hflag]
      | false => simp [levelFinding, hlevel, hflag]

/-- The conversion to `u16` keeps the lowest 16 bits. -/
lemma ofInt_eq_iff {n : ℤ} {vmNode : UInt16} :
    UInt16.ofInt n = vmNode ↔ n % 65536 = vmNode.toNat := by
  have hnat : ((UInt16.ofInt n).toNat : ℤ) = n % 65536 := by
    rw [UInt16.ofInt]
    simp
    omega
  rw [← UInt16.toNat_inj]
  omega

/-- NUMA placement is violated, in `Enforce` mode, by a dedicated device on a node that differs
from the VM's in its lowest 16 bits. -/
lemma numa_reports {vmNode : UInt16} {ctx : DeviceIsolationContext} :
    (∃ finding, numaFinding vmName .Enforce vmNode ctx = some finding ∧
        finding.isViolation = true) ↔
      ctx.effectiveLevel = .Dedicated ∧
        ∃ node, ctx.func.numaNode = some node ∧ 0 ≤ node.toInt ∧
          node.toInt % 65536 ≠ vmNode.toNat := by
  cases hn : ctx.func.numaNode with
  | none => simp [numaFinding, hn, IsolationFinding.isViolation]
  | some node =>
      simp only [Option.some.injEq, exists_eq_left', ne_eq, ← ofInt_eq_iff]
      by_cases hneg : node.toInt < 0
      · have hnonneg : ¬ 0 ≤ node.toInt := by omega
        simp [numaFinding, hn, hneg, hnonneg, IsolationFinding.isViolation]
      · have h0 : 0 ≤ node.toInt := by omega
        by_cases hmatch : UInt16.ofInt node.toInt = vmNode
        · simp [numaFinding, hn, hneg, hmatch]
        · cases hlevel : ctx.effectiveLevel with
          | Forbidden => simp [numaFinding, hn, hneg, hmatch, hlevel, numaMismatch]
          | SharedWithHost =>
              simp [numaFinding, hn, hneg, hmatch, hlevel, numaMismatch,
                IsolationFinding.isViolation]
          | Dedicated =>
              simp [numaFinding, hn, hneg, hmatch, hlevel, numaMismatch, h0,
                IsolationFinding.isViolation]

/-! ## The verdict -/

lemma sharesGroup_congr {P P' Q Q' : PciFunction → Prop}
    (hP : ∀ f ∈ inv.functions, P f ↔ P' f) (hQ : ∀ g ∈ inv.functions, Q g ↔ Q' g) :
    inv.SharesGroup P Q ↔ inv.SharesGroup P' Q' := by
  refine exists_congr fun f => and_congr_right fun hf => ?_
  refine exists_congr fun g => and_congr_right fun hg => ?_
  rw [hP f hf, hQ g hg]

lemma sharesSlot_congr {P P' Q Q' : PciFunction → Prop}
    (hP : ∀ f ∈ inv.functions, P f ↔ P' f) (hQ : ∀ g ∈ inv.functions, Q g ↔ Q' g) :
    inv.SharesSlot P Q ↔ inv.SharesSlot P' Q' := by
  refine exists_congr fun f => and_congr_right fun hf => ?_
  refine exists_congr fun g => and_congr_right fun hg => ?_
  rw [hP f hf, hQ g hg]

lemma context_mem {ctxs : List DeviceIsolationContext}
    (h : collectDeviceContexts cfg.isolation cfg inv = .ok ctxs) {ctx : DeviceIsolationContext}
    (hctx : ctx ∈ ctxs) : ctx.func ∈ inv.functions := by
  rw [(collectDeviceContexts_eq_ok.mp h).2] at hctx
  simp only [List.mem_flatMap, List.mem_filterMap, mem_resolved, deviceContext,
    Option.map_eq_some_iff] at hctx
  obtain ⟨devs, -, f, ⟨dev, -, hfind⟩, dev', -, rfl⟩ := hctx
  exact (mem_of_findByBdf hfind).1

lemma PciInventory.Finds.mem {f : PciFunction} (h : inv.Finds f) : f ∈ inv.functions :=
  (mem_of_findByBdf h).1

/-- What the evaluator of the per-device levels reports, in terms of the configuration. -/
lemma levels_reports {ctxs : List DeviceIsolationContext}
    (hctxs : collectDeviceContexts cfg.isolation cfg inv = .ok ctxs) :
    HasViolation (evaluatePerDeviceIsolationLevels vmName cfg.isolation inv ctxs bdfs) ↔
      (∃ f, inv.Finds f ∧ cfg.LastLevel .Forbidden f.bdf) ∨
        (cfg.isolation.requireIommuExclusive = false ∧
          inv.SharesGroup (fun f => inv.Finds f ∧ cfg.LastLevel .Dedicated f.bdf)
            fun g => g.bdf ∉ bdfs) := by
  rw [evaluatePerDeviceIsolationLevels, hasViolation_filterMap]
  have hreports : (∃ ctx ∈ ctxs, ∃ finding,
        levelFinding vmName cfg.isolation inv bdfs ctx = some finding ∧
          finding.isViolation = true) ↔ _ :=
    exists_congr fun ctx => and_congr_right fun hctx => level_reports (context_mem hctxs hctx)
  rw [hreports, exists_context hctxs (P := fun f level => level = .Forbidden ∨
    (level = .Dedicated ∧ cfg.isolation.requireIommuExclusive = false ∧
      ∃ g ∈ inv.functions, ∃ gid, f.iommuGroup = some gid ∧ g.iommuGroup = some gid ∧
        g.bdf ∉ bdfs))]
  constructor
  · rintro ⟨f, hf, level, hlevel, rfl | ⟨rfl, hflag, g, hg, gid, hfg, hgg, hout⟩⟩
    · exact Or.inl ⟨f, hf, hlevel⟩
    · exact Or.inr ⟨hflag, f, hf.mem, g, hg, gid, hfg, hgg, ⟨hf, hlevel⟩, hout⟩
  · rintro (⟨f, hf, hlevel⟩ | ⟨hflag, f, -, g, hg, gid, hfg, hgg, ⟨hf, hlevel⟩, hout⟩)
    · exact ⟨f, hf, _, hlevel, Or.inl rfl⟩
    · exact ⟨f, hf, _, hlevel, Or.inr ⟨rfl, hflag, g, hg, gid, hfg, hgg, hout⟩⟩

/-- What the evaluator of the NUMA placement reports, in terms of the configuration. -/
lemma placement_reports (hmode : cfg.isolation.mode = .Enforce)
    {ctxs : List DeviceIsolationContext}
    (hctxs : collectDeviceContexts cfg.isolation cfg inv = .ok ctxs) :
    HasViolation (evaluateNumaPlacement vmName cfg.isolation cfg ctxs) ↔
      ∃ vmNode, cfg.numa.bind NumaConfig.node = some vmNode ∧
        ∃ f, inv.Finds f ∧ cfg.LastLevel .Dedicated f.bdf ∧
          ∃ node, f.numaNode = some node ∧ 0 ≤ node.toInt ∧
            node.toInt % 65536 ≠ vmNode.toNat := by
  rw [evaluateNumaPlacement, hmode]
  cases hnode : cfg.numa.bind NumaConfig.node with
  | none => simp [HasViolation]
  | some vmNode =>
      rw [hasViolation_filterMap]
      simp only [numa_reports]
      rw [exists_context hctxs (P := fun f level => level = .Dedicated ∧
        ∃ node, f.numaNode = some node ∧ 0 ≤ node.toInt ∧ node.toInt % 65536 ≠ vmNode.toNat)]
      simp only [Option.some.injEq, exists_eq_left']
      constructor
      · rintro ⟨f, hf, level, hlevel, rfl, hmis⟩
        exact ⟨f, hf, hlevel, hmis⟩
      · rintro ⟨f, hf, hlevel, hmis⟩
        exact ⟨f, hf, _, hlevel, rfl, hmis⟩

/-- The findings of the `Enforce` mode contain a violation exactly when there is a reason to
refuse. -/
lemma isolationFindings_reports (hmode : cfg.isolation.mode = .Enforce)
    {ctxs : List DeviceIsolationContext} (hbdfs : collectPassthroughBdfs cfg inv = .ok bdfs)
    (hctxs : collectDeviceContexts cfg.isolation cfg inv = .ok ctxs) :
    HasViolation (isolationFindings vmName cfg inv bdfs ctxs) ↔ GateRefusal cfg inv := by
  have hin : ∀ f ∈ inv.functions, f.bdf ∈ bdfs ↔ cfg.Configures f.bdf :=
    fun f hf => mem_collectPassthroughBdfs hbdfs hf
  have hout : ∀ f ∈ inv.functions, f.bdf ∉ bdfs ↔ ¬ cfg.Configures f.bdf :=
    fun f hf => not_congr (hin f hf)
  rw [isolationFindings]
  simp only [hasViolation_append, hasViolation_ite, exclusivity_reports, multifunction_reports,
    hostCritical_reports, levels_reports hctxs, placement_reports hmode hctxs,
    sharesGroup_congr hin hout, sharesSlot_congr hin hout,
    sharesGroup_congr hin fun g _ => isHostCritical_iff,
    sharesGroup_congr (fun _ _ => Iff.rfl) hout]
  constructor
  · rintro ((((⟨hflag, h⟩ | ⟨hflag, h⟩) | ⟨hflag, h⟩) | h | ⟨hflag, h⟩) | ⟨vmNode, hnode, h⟩)
    · exact .groupNotExclusive hflag h
    · exact .mixedOwnership hflag h
    · exact .hostCriticalGpu hflag h
    · exact .forbiddenDevice h
    · exact .dedicatedNotExclusive hflag h
    · exact .numaMismatch vmNode hnode h
  · rintro (⟨hflag, h⟩ | ⟨hflag, h⟩ | ⟨hflag, h⟩ | h | ⟨hflag, h⟩ | ⟨vmNode, hnode, h⟩)
    · exact Or.inl (Or.inl (Or.inl (Or.inl ⟨hflag, h⟩)))
    · exact Or.inl (Or.inl (Or.inl (Or.inr ⟨hflag, h⟩)))
    · exact Or.inl (Or.inl (Or.inr ⟨hflag, h⟩))
    · exact Or.inl (Or.inr (Or.inl h))
    · exact Or.inl (Or.inr (Or.inr ⟨hflag, h⟩))
    · exact Or.inr ⟨vmNode, hnode, h⟩

lemma hasViolations_iff {report : IsolationReport} :
    report.hasViolations = true ↔ HasViolation report.findings := by
  rw [IsolationReport.hasViolations, List.any_eq_true, HasViolation]

/-- Outside the mode `Disabled`, the gate accepts when both passes collect and, in `Enforce` mode,
the findings contain no violation. -/
lemma evaluateIsolationForVm_eq_ok (hmode : cfg.isolation.mode ≠ .Disabled) :
    evaluateIsolationForVm vmName cfg inv = .ok () ↔
      ∃ bdfs ctxs, collectPassthroughBdfs cfg inv = .ok bdfs ∧
        collectDeviceContexts cfg.isolation cfg inv = .ok ctxs ∧
        ¬ (cfg.isolation.mode = .Enforce ∧
          HasViolation (isolationFindings vmName cfg inv bdfs ctxs)) := by
  rw [evaluateIsolationForVm, if_neg hmode]
  simp only [except_bind_eq_ok]
  refine exists_congr fun bdfs => ?_
  rw [← exists_and_left]
  refine exists_congr fun ctxs => and_congr_right fun _ => and_congr_right fun _ => ?_
  split_ifs with h
  · rw [hasViolations_iff] at h
    exact iff_of_false nofun (not_not_intro h)
  · rw [hasViolations_iff] at h
    exact iff_of_true rfl h

/-- A configuration that the gate accepts in `Enforce` mode, with exclusive groups required,
configures every scanned function that shares a group with one of its devices. -/
lemma configures_of_sharesGroup (hmode : cfg.isolation.mode = .Enforce)
    (hflag : cfg.isolation.requireIommuExclusive = true)
    (h : evaluateIsolationForVm vmName cfg inv = .ok ()) {f g : PciFunction} {gid : UInt32}
    (hf : f ∈ inv.functions) (hg : g ∈ inv.functions) (hfg : f.iommuGroup = some gid)
    (hgg : g.iommuGroup = some gid) (hconf : cfg.Configures f.bdf) : cfg.Configures g.bdf := by
  obtain ⟨bdfs, ctxs, hbdfs, -, hno⟩ :=
    (evaluateIsolationForVm_eq_ok (by simp [hmode])).mp h
  by_contra hout
  refine hno ⟨hmode, ?_⟩
  rw [isolationFindings, hflag, if_pos rfl]
  simp only [hasViolation_append, exclusivity_reports]
  refine Or.inl (Or.inl (Or.inl (Or.inl ⟨f, hf, g, hg, gid, hfg, hgg, ?_, ?_⟩)))
  · exact (mem_collectPassthroughBdfs hbdfs hf).mpr hconf
  · exact fun hin => hout ((mem_collectPassthroughBdfs hbdfs hg).mp hin)

/-- **The verdict of the gate, over every configuration and inventory.** -/
lemma evaluateIsolationForVm_iff :
    evaluateIsolationForVm vmName cfg inv = .ok () ↔
      match cfg.isolation.mode with
      | .Disabled => True
      | .Audit => inv.RequiredPresent cfg.configured
      | .Enforce => inv.RequiredPresent cfg.configured ∧ ¬ GateRefusal cfg inv := by
  cases hmode : cfg.isolation.mode with
  | Disabled => simp [evaluateIsolationForVm, hmode]
  | Audit =>
      rw [evaluateIsolationForVm_eq_ok (by simp [hmode])]
      simp only [hmode, reduceCtorEq, false_and, not_false_iff, and_true,
        collectPassthroughBdfs_eq_ok, collectDeviceContexts_eq_ok]
      exact ⟨fun ⟨_, _, h, _⟩ => h.1, fun h => ⟨_, _, ⟨h, rfl⟩, h, rfl⟩⟩
  | Enforce =>
      rw [evaluateIsolationForVm_eq_ok (by simp [hmode])]
      simp only [hmode, true_and]
      constructor
      · rintro ⟨bdfs, ctxs, hbdfs, hctxs, hno⟩
        rw [isolationFindings_reports hmode hbdfs hctxs] at hno
        exact ⟨(collectPassthroughBdfs_eq_ok.mp hbdfs).1, hno⟩
      · rintro ⟨hreq, hno⟩
        have hbdfs := collectPassthroughBdfs_eq_ok.mpr ⟨hreq, rfl⟩
        have hctxs : collectDeviceContexts cfg.isolation cfg inv = .ok _ :=
          collectDeviceContexts_eq_ok.mpr ⟨hreq, rfl⟩
        refine ⟨_, _, hbdfs, hctxs, ?_⟩
        rwa [isolationFindings_reports hmode hbdfs hctxs]

/-- If no list names a device twice, the levels that count are all the configured ones. -/
lemma lastLevel_iff (hdup : ∀ devs ∈ cfg.devices.lists, (devs.map (·.pciAddress)).Nodup)
    {level : IsolationLevel} {f : PciFunction} :
    cfg.LastLevel level f.bdf ↔ cfg.HasLevel level f := by
  constructor
  · rintro ⟨devs, hdevs, dev, hlast, hlevel⟩
    obtain ⟨hdev, hbdf⟩ := mem_of_lastOn hlast
    exact ⟨dev, mem_configured.mpr ⟨devs, hdevs, hdev⟩, hbdf, hlevel⟩
  · rintro ⟨dev, hdev, hbdf, hlevel⟩
    obtain ⟨devs, hdevs, hdev⟩ := mem_configured.mp hdev
    exact ⟨devs, hdevs, dev, (lastOn_eq_some (hdup devs hdevs)).mpr ⟨hdev, hbdf⟩, hlevel⟩

/-- With distinct entries, distinct addresses and nodes in the range of `u16`, the reasons to refuse
are the broken rules. -/
lemma gateRefusal_iff (hdup : ∀ devs ∈ cfg.devices.lists, (devs.map (·.pciAddress)).Nodup)
    (hinv : inv.DistinctBdfs)
    (hnuma : ∀ f ∈ inv.functions, ∀ node, f.numaNode = some node → node.toInt < 65536) :
    GateRefusal cfg inv ↔ IsolationViolation cfg inv := by
  have hfinds : ∀ f ∈ inv.functions, inv.Finds f :=
    fun f hf => (findByBdf_eq_some hinv).mpr ⟨hf, rfl⟩
  have hnode : ∀ f ∈ inv.functions, ∀ node, f.numaNode = some node → 0 ≤ node.toInt →
      node.toInt % 65536 = node.toInt :=
    fun f hf node hn h0 => Int.emod_eq_of_lt h0 (hnuma f hf node hn)
  have hdedicated : inv.SharesGroup (fun f => inv.Finds f ∧ cfg.LastLevel .Dedicated f.bdf)
        (fun g => ¬ cfg.Configures g.bdf) ↔
      inv.SharesGroup (cfg.HasLevel .Dedicated) fun g => ¬ cfg.Configures g.bdf := by
    refine sharesGroup_congr (fun f hf => ?_) fun _ _ => Iff.rfl
    simp only [hfinds f hf, true_and, lastLevel_iff hdup]
  constructor
  · rintro (⟨hflag, h⟩ | ⟨hflag, h⟩ | ⟨hflag, h⟩ | ⟨f, hf, h⟩ | ⟨hflag, h⟩ |
      ⟨vmNode, hvm, f, hf, h, node, hn, h0, hne⟩)
    · exact .groupNotExclusive hflag h
    · exact .mixedOwnership hflag h
    · exact .hostCriticalGpu hflag h
    · exact .forbiddenDevice ⟨f, hf.mem, (lastLevel_iff hdup).mp h⟩
    · exact .dedicatedNotExclusive hflag (hdedicated.mp h)
    · rw [hnode f hf.mem node hn h0] at hne
      exact .numaMismatch vmNode hvm ⟨f, hf.mem, (lastLevel_iff hdup).mp h, node, hn, h0, hne⟩
  · rintro (⟨hflag, h⟩ | ⟨hflag, h⟩ | ⟨hflag, h⟩ | ⟨f, hf, h⟩ | ⟨hflag, h⟩ |
      ⟨vmNode, hvm, f, hf, h, node, hn, h0, hne⟩)
    · exact .groupNotExclusive hflag h
    · exact .mixedOwnership hflag h
    · exact .hostCriticalGpu hflag h
    · exact .forbiddenDevice ⟨f, hfinds f hf, (lastLevel_iff hdup).mpr h⟩
    · exact .dedicatedNotExclusive hflag (hdedicated.mpr h)
    · rw [← hnode f hf node hn h0] at hne
      exact .numaMismatch vmNode hvm
        ⟨f, hfinds f hf, (lastLevel_iff hdup).mpr h, node, hn, h0, hne⟩

/-- **What the isolation gate decides.**  `Disabled` accepts everything; `Audit` accepts exactly
when the required devices are present; `Enforce` accepts exactly when, besides, no rule of the
policy is broken. -/
theorem isolationGate_decides (vmName : String) (cfg : VmConfig) (inv : PciInventory)
    (hdup : ∀ devs ∈ cfg.devices.lists, (devs.map (·.pciAddress)).Nodup)
    (hinv : inv.DistinctBdfs)
    (hnuma : ∀ f ∈ inv.functions, ∀ node, f.numaNode = some node → node.toInt < 65536) :
    evaluateIsolationForVm vmName cfg inv = .ok () ↔
      match cfg.isolation.mode with
      | .Disabled => True
      | .Audit => inv.RequiredPresent cfg.configured
      | .Enforce => inv.RequiredPresent cfg.configured ∧ ¬ IsolationViolation cfg inv := by
  rw [evaluateIsolationForVm_iff]
  cases cfg.isolation.mode with
  | Disabled => rfl
  | Audit => rfl
  | Enforce => rw [gateRefusal_iff hdup hinv hnuma]

/-- The verdict on a GPU that shares its group with a network controller of the host. -/
theorem isolationGate_decides_shared :
    let cfg := minimalVmConfig { gpu := some [{ pciAddress := "0000:01:00.0" }] }
      { mode := .Enforce }
    let inv : PciInventory := ⟨[makeGpu "0000:01:00.0" (some "vfio-pci") (some 10) (some 0),
      makeGeneric "0000:02:00.0" 0x020000 (some "e1000e") (some 10) none]⟩
    evaluateIsolationForVm "testvm" cfg inv = .ok () ↔
      inv.RequiredPresent cfg.configured ∧ ¬ IsolationViolation cfg inv :=
  isolationGate_decides _ _ _ (by decide) (by decide) (by simp [makeGpu, makeGeneric])

end Chalybs
