import Chalybs.Foundation.Lists
import Chalybs.Vfio.Restore
import Mathlib.Data.List.Forall2

/-!
# The outcomes of a restore

`restore_impl` splits the recorded transitions into six buckets and works through them one after
the other.  Whatever the mix of classes, no transition is lost or handled twice, and a dry run
tells in advance what a live restore attempts.

* `restoreOrder` — the transitions in the order in which they are handled.
* `restoreImpl_outcomes` — the outcomes, one for each transition in that order.
* `Foretells`, `foretells_restoreGroup` — what the outcome of a dry run says of the live one.
* `restoreImpl_exact` — the two together.
-/

namespace Chalybs

open Foundation

/-- `simulate_restore_pci_devices_for_vm`. -/
def simulateRestorePciDevicesForVm {σ : Type} (k : Sysfs σ) (rt : VmRuntime) (s : σ) :
    RestoreSummary × σ :=
  restoreImpl k rt .DryRun s

/-- The class of the function that a transition is about, if it is still there. -/
def classOf (inv : PciInventory) (t : VfioTransition) : Option RestoreClass :=
  (inv.findByBdf t.bdf).map PciFunction.restoreClass

/-- The transitions in the order in which they are handled: the missing devices first, then class
by class, each class in recorded order. -/
def restoreOrder (inv : PciInventory) (ts : List VfioTransition) : List VfioTransition :=
  [none, some .Gpu, some .Nvme, some .Nic, some .Usb, some .Misc].flatMap fun c =>
    ts.filter fun t => decide (classOf inv t = c)

section

variable {inv : PciInventory} {ts : List VfioTransition}

/-- No transition is lost or handled twice. -/
lemma restoreOrder_perm : (restoreOrder inv ts).Perm ts := by
  refine perm_flatMap_filter (by decide) fun t _ => ?_
  cases classOf inv t with
  | none => simp
  | some c => cases c <;> simp

/-- The items of one class are its transitions, in recorded order. -/
lemma map_fst_filter_class {c : RestoreClass} :
    ((ts.filterMap fun t => (inv.findByBdf t.bdf).map (Prod.mk t)).filter
        fun item => decide (item.2.restoreClass = c)).map Prod.fst =
      ts.filter fun t => decide (classOf inv t = some c) := by
  induction ts with
  | nil => rfl
  | cons t ts ih =>
      cases hf : inv.findByBdf t.bdf with
      | none => simpa [List.filterMap_cons, List.filter_cons, classOf, hf] using ih
      | some f =>
          by_cases hc : f.restoreClass = c
          · simpa [List.filterMap_cons, List.filter_cons, classOf, hf, hc] using ih
          · simpa [List.filterMap_cons, List.filter_cons, classOf, hf, hc] using ih

/-- The transitions whose device is missing, and then those of the items. -/
lemma restoreOrder_eq :
    restoreOrder inv ts =
      (ts.filter fun t => (inv.findByBdf t.bdf).isNone) ++ (restoreItems inv ts).map Prod.fst := by
  have hmissing : (ts.filter fun t => decide (classOf inv t = none)) =
      ts.filter fun t => (inv.findByBdf t.bdf).isNone := by
    refine List.filter_congr fun t _ => ?_
    cases hf : inv.findByBdf t.bdf with
    | none => simp [classOf, hf]
    | some f => simp [classOf, hf]
  simp only [restoreOrder, restoreItems, List.flatMap_cons, List.flatMap_nil, List.append_nil,
    List.map_append, map_fst_filter_class, hmissing]

end

/-! ## The outcomes of the groups -/

section

variable {σ : Type} {k : DriverFiles σ} {mode : RestoreMode}

lemma restoreItem_bdf {item : VfioTransition × PciFunction} {s : σ} :
    (restoreItem k mode item s).1.bdf = item.1.bdf := by
  simp only [restoreItem]
  cases item.1.originalDriver with
  | none => rfl
  | some driver =>
      by_cases hvfio : driver = "vfio-pci"
      · simp [hvfio]
      · simp only [hvfio, if_false]
        cases mode with
        | DryRun => rfl
        | Live =>
            cases item.2.bindToDriver k driver s with
            | ok a s' => rfl
            | error e s' => rfl

/-- A group has one outcome for each item. -/
lemma map_bdf_restoreGroup {items : List (VfioTransition × PciFunction)} {s : σ} :
    (restoreGroup k mode items s).1.map RestoreOutcome.bdf =
      (items.map Prod.fst).map VfioTransition.bdf := by
  induction items generalizing s with
  | nil => rfl
  | cons item items ih =>
      rw [restoreGroup]
      simp only [List.map_cons, restoreItem_bdf, ih]

/-- A dry run writes nothing. -/
lemma restoreItem_dryRun {item : VfioTransition × PciFunction} {s : σ} :
    (restoreItem k .DryRun item s).2 = s := by
  simp only [restoreItem]
  cases item.1.originalDriver with
  | none => rfl
  | some driver =>
      simp only
      split_ifs
      · rfl
      · rfl

lemma restoreGroup_dryRun {items : List (VfioTransition × PciFunction)} {s : σ} :
    (restoreGroup k .DryRun items s).2 = s := by
  induction items with
  | nil => rfl
  | cons item items ih =>
      rw [restoreGroup]
      simp only [restoreItem_dryRun, ih]

/-- What the outcome `dry` of a dry run says of the outcome `live` of a live restore: it is the
same, or the bind that was planned has been attempted. -/
inductive Foretells (dry live : RestoreOutcome) : Prop
  | same (h : live = dry) (hdone : dry.result ≠ .DryRunPlanned)
  | attempted (hplanned : dry.result = .DryRunPlanned)
      (hresult : live.result = .Succeeded ∨ live.result = .Failed)
      (h : live = { dry with result := live.result, reason := live.reason })

lemma foretells_restoreItem {item : VfioTransition × PciFunction} {s s' : σ} :
    Foretells (restoreItem k .DryRun item s).1 (restoreItem k .Live item s').1 := by
  simp only [restoreItem]
  cases item.1.originalDriver with
  | none => exact .same rfl (by simp)
  | some driver =>
      by_cases hvfio : driver = "vfio-pci"
      · simp only [hvfio, if_true]
        exact .same rfl (by simp)
      · simp only [hvfio, if_false]
        cases item.2.bindToDriver k driver s' with
        | ok a s'' => exact .attempted rfl (Or.inl rfl) rfl
        | error e s'' => exact .attempted rfl (Or.inr rfl) rfl

/-- **A dry run foretells the live restore**, outcome by outcome, whatever the states they start
from. -/
lemma foretells_restoreGroup {items : List (VfioTransition × PciFunction)} {s s' : σ} :
    List.Forall₂ Foretells (restoreGroup k .DryRun items s).1
      (restoreGroup k .Live items s').1 := by
  induction items generalizing s s' with
  | nil => exact .nil
  | cons item items ih =>
      rw [restoreGroup, restoreGroup]
      exact .cons foretells_restoreItem ih

end

/-! ## The whole restore -/

section

variable {σ : Type} {k : Sysfs σ} {rt : VmRuntime} {inv : PciInventory} {s : σ}

/-- **The outcomes** over the scanned inventory: those of the missing devices, then those of the
groups. -/
lemma restoreImpl_outcomes (mode : RestoreMode) (hscan : scan (k.devices s) = .ok inv) :
    (restoreImpl k rt mode s).1.outcomes =
      missingOutcomes inv rt.vfioTransitions ++
        (restoreGroup k.toDriverFiles mode (restoreItems inv rt.vfioTransitions) s).1 := by
  rw [restoreImpl]
  cases hts : rt.vfioTransitions with
  | nil => simp [missingOutcomes, restoreItems, restoreGroup]
  | cons t ts => simp [hscan]

lemma restoreImpl_dryRun : (restoreImpl k rt .DryRun s).2 = s := by
  rw [restoreImpl]
  split
  · rfl
  · split
    · rfl
    · exact restoreGroup_dryRun

lemma map_bdf_missingOutcomes {ts : List VfioTransition} :
    (missingOutcomes inv ts).map RestoreOutcome.bdf =
      (ts.filter fun t => (inv.findByBdf t.bdf).isNone).map VfioTransition.bdf := by
  simp [missingOutcomes, Function.comp_def]

/-- The outcomes are those of the transitions in the order in which they are handled. -/
lemma map_bdf_restoreImpl (mode : RestoreMode) (hscan : scan (k.devices s) = .ok inv) :
    (restoreImpl k rt mode s).1.outcomes.map RestoreOutcome.bdf =
      (restoreOrder inv rt.vfioTransitions).map VfioTransition.bdf := by
  rw [restoreImpl_outcomes mode hscan, List.map_append, map_bdf_missingOutcomes,
    map_bdf_restoreGroup, restoreOrder_eq, List.map_append]

end

/-- **What a restore reports.**  In either mode it has exactly one outcome for each transition, the
missing devices first and then class by class in recorded order; a dry run leaves the state of the
kernel as it is, also of one that counts its writes and rescans; and a dry run foretells the live
restore outcome by outcome. -/
theorem restoreImpl_exact {σ : Type} (k : Sysfs σ) (rt : VmRuntime) (inv : PciInventory) (s : σ)
    (hscan : scan (k.devices s) = .ok inv) :
    (∀ mode, (restoreImpl k rt mode s).1.outcomes.map RestoreOutcome.bdf =
        (restoreOrder inv rt.vfioTransitions).map VfioTransition.bdf) ∧
      (restoreOrder inv rt.vfioTransitions).Perm rt.vfioTransitions ∧
      (restoreImpl k rt .DryRun s).2 = s ∧
      List.Forall₂ Foretells (restoreImpl k rt .DryRun s).1.outcomes
        (restoreImpl k rt .Live s).1.outcomes := by
  refine ⟨fun mode => map_bdf_restoreImpl mode hscan, restoreOrder_perm, restoreImpl_dryRun, ?_⟩
  rw [restoreImpl_outcomes .DryRun hscan, restoreImpl_outcomes .Live hscan]
  have hmissing : List.Forall₂ Foretells (missingOutcomes inv rt.vfioTransitions)
      (missingOutcomes inv rt.vfioTransitions) := by
    rw [List.forall₂_same]
    intro o ho
    obtain ⟨t, -, rfl⟩ := List.mem_map.mp ho
    exact .same rfl (by simp)
  exact List.rel_append hmissing foretells_restoreGroup

/-- A runtime with transitions of a network controller, a device that has disappeared and an NVMe
controller. -/
def mixedRuntime : VmRuntime :=
  { storageRuntime with vfioTransitions :=
      [⟨"0000:02:00.0", some " igb\n", some 2⟩, ⟨"0000:09:00.0", none, none⟩, storageTransition] }

theorem restoreImpl_exact_mixed :
    (∀ mode, (restoreImpl (linuxSysfs storageHost) mixedRuntime mode
          stagedBindings).1.outcomes.map RestoreOutcome.bdf =
        (restoreOrder (linuxInventory storageHost stagedBindings)
          mixedRuntime.vfioTransitions).map VfioTransition.bdf) ∧
      (restoreOrder (linuxInventory storageHost stagedBindings)
        mixedRuntime.vfioTransitions).Perm mixedRuntime.vfioTransitions ∧
      (restoreImpl (linuxSysfs storageHost) mixedRuntime .DryRun stagedBindings).2 =
        stagedBindings ∧
      List.Forall₂ Foretells
        (restoreImpl (linuxSysfs storageHost) mixedRuntime .DryRun stagedBindings).1.outcomes
        (restoreImpl (linuxSysfs storageHost) mixedRuntime .Live stagedBindings).1.outcomes :=
  restoreImpl_exact (linuxSysfs storageHost) mixedRuntime _ stagedBindings scan_linuxSysfs

example : (restoreImpl (linuxSysfs storageHost) mixedRuntime .DryRun
      stagedBindings).1.outcomes.map (fun o => (o.bdf, o.result)) =
    [("0000:09:00.0", .SkippedDeviceMissing), ("0000:01:00.0", .DryRunPlanned),
      ("0000:02:00.0", .DryRunPlanned)] := by decide

end Chalybs
