import Chalybs.Vfio.Stage

/-!
# Restoring driver bindings

`restore_impl` (`vfio/mod.rs`) is the teardown counterpart of staging.  It goes through the
recorded transitions, class by class, and binds each function to its original driver again;
failures are noted in the summary and never stop it.  Nothing in it unbinds a function.

* `restoreImpl`, `restorePciDevicesForVm` — the code.
* `restoreItem_state` — the write that one transition leads to.
* `restoreGroup_of_bound`, `restoreGroup_eq_self`, `restoreGroup_binds` — what restoring does under
  the rule of Linux: bound functions stay as they are, unbound ones with a driver to restore are
  bound.
-/

namespace Chalybs

open Foundation

/-- `RestoreMode`. -/
inductive RestoreMode
  | Live
  | DryRun
  deriving DecidableEq, Repr

/-- `RestoreResultKind`. -/
inductive RestoreResultKind
  | Succeeded
  | DryRunPlanned
  | SkippedOriginallyUnbound
  | SkippedOriginallyVfio
  | SkippedDeviceMissing
  | Failed
  deriving DecidableEq, Repr

/-- `RestoreOutcome`. -/
structure RestoreOutcome where
  bdf : String
  originalDriver : Option String
  targetDriver : Option String
  iommuGroup : Option UInt32
  result : RestoreResultKind
  reason : Option String
  deriving DecidableEq, Repr

/-- `RestoreSummary`. -/
structure RestoreSummary where
  vmName : String
  mode : RestoreMode
  outcomes : List RestoreOutcome
  deriving DecidableEq, Repr

/-- The driver that a transition restores: the recorded one without surrounding white space, unless
nothing is left of it. -/
def VfioTransition.originalDriver (t : VfioTransition) : Option String :=
  t.fromDriver.bind fun driver =>
    let trimmed := trim driver.toList
    if trimmed.isEmpty then none else some (String.ofList trimmed)

section

variable {σ : Type}

/-- One iteration of `restore_group`.  The vendor-reset hooks around a GPU's restore do nothing. -/
def restoreItem (k : DriverFiles σ) (mode : RestoreMode) (item : VfioTransition × PciFunction)
    (s : σ) : RestoreOutcome × σ :=
  let (t, func) := item
  let finish := fun (result : RestoreResultKind) (reason : Option String) =>
    { bdf := t.bdf
      originalDriver := t.originalDriver
      targetDriver := t.originalDriver
      iommuGroup := t.iommuGroup <|> func.iommuGroup
      result
      reason }
  match t.originalDriver with
  | none =>
      (finish .SkippedOriginallyUnbound
        (some "original driver was None; leaving device unbound"), s)
  | some driver =>
      if driver = "vfio-pci" then
        (finish .SkippedOriginallyVfio
          (some "device was originally bound to vfio-pci; no restore needed"), s)
      else
        match mode with
        | .DryRun => (finish .DryRunPlanned (some "dry-run: no sysfs writes performed"), s)
        | .Live =>
            match func.bindToDriver k driver s with
            | .ok _ s' => (finish .Succeeded none, s')
            | .error e s' => (finish .Failed (some s!"failed to restore driver: {e.display}"), s')

/-- `restore_group`. -/
def restoreGroup (k : DriverFiles σ) (mode : RestoreMode) :
    List (VfioTransition × PciFunction) → σ → List RestoreOutcome × σ
  | [], s => ([], s)
  | item :: items, s =>
      let (outcome, s) := restoreItem k mode item s
      let (outcomes, s) := restoreGroup k mode items s
      (outcome :: outcomes, s)

/-- The groups in the order in which they are restored. -/
inductive RestoreClass
  | Gpu
  | Nvme
  | Nic
  | Usb
  | Misc
  deriving DecidableEq, Repr

/-- The group that a function is restored with. -/
def PciFunction.restoreClass (f : PciFunction) : RestoreClass :=
  if f.isDisplayController then .Gpu
  else if f.isNvme then .Nvme
  else if f.isNetworkController then .Nic
  else if f.isUsbController then .Usb
  else .Misc

/-- The transitions whose function is present, group by group. -/
def restoreItems (inv : PciInventory) (ts : List VfioTransition) :
    List (VfioTransition × PciFunction) :=
  let present := ts.filterMap fun t => (inv.findByBdf t.bdf).map (Prod.mk t)
  [RestoreClass.Gpu, .Nvme, .Nic, .Usb, .Misc].flatMap fun c =>
    present.filter fun item => decide (item.2.restoreClass = c)

/-- The outcomes for the transitions whose function has disappeared. -/
def missingOutcomes (inv : PciInventory) (ts : List VfioTransition) : List RestoreOutcome :=
  (ts.filter fun t => (inv.findByBdf t.bdf).isNone).map fun t =>
    { bdf := t.bdf
      originalDriver := t.fromDriver
      targetDriver := t.fromDriver
      iommuGroup := t.iommuGroup
      result := .SkippedDeviceMissing
      reason := some "device from VFIO transition not found in inventory at restore time" }

/-- `restore_impl`.  A failed scan and a failed bus rescan are logged only. -/
def restoreImpl (k : Sysfs σ) (rt : VmRuntime) (mode : RestoreMode) (s : σ) :
    RestoreSummary × σ :=
  let summary := fun outcomes => { vmName := rt.name, mode, outcomes }
  if rt.vfioTransitions.isEmpty then (summary [], s)
  else
    match scan (k.devices s) with
    | .error _ => (summary [], s)
    | .ok inv =>
        let (outcomes, s) :=
          restoreGroup k.toDriverFiles mode (restoreItems inv rt.vfioTransitions) s
        let s :=
          match mode with
          | .Live => (outcome k.rescan s).2
          | .DryRun => s
        (summary (missingOutcomes inv rt.vfioTransitions ++ outcomes), s)

/-- `restore_pci_devices_for_vm`: it never fails. -/
def restorePciDevicesForVm (k : Sysfs σ) (rt : VmRuntime) : EStateM ChalybsError σ Unit :=
  fun s => .ok () (restoreImpl k rt .Live s).2

end

/-! ## What restoring writes -/

/-- A transition that makes restore bind its function: it has a driver, and not vfio-pci. -/
def VfioTransition.Restorable (t : VfioTransition) : Prop :=
  ∃ driver, t.originalDriver = some driver ∧ driver ≠ "vfio-pci"

lemma mem_restoreItems {inv : PciInventory} {ts : List VfioTransition} {t : VfioTransition}
    {f : PciFunction} :
    (t, f) ∈ restoreItems inv ts ↔ t ∈ ts ∧ inv.findByBdf t.bdf = some f := by
  have hclass : f.restoreClass ∈ [RestoreClass.Gpu, .Nvme, .Nic, .Usb, .Misc] := by
    cases f.restoreClass <;> simp
  simp only [restoreItems, List.mem_flatMap, List.mem_filter, List.mem_filterMap,
    Option.map_eq_some_iff, Prod.mk.injEq, decide_eq_true_eq]
  constructor
  · rintro ⟨c, -, ⟨t', ht', g, hg, rfl, rfl⟩, -⟩
    exact ⟨ht', hg⟩
  · rintro ⟨ht, hf⟩
    exact ⟨_, hclass, ⟨t, ht, f, hf, rfl, rfl⟩, rfl⟩

/-- Restoring one function writes to its original driver, unless there is none, it is vfio-pci or
the function is bound to it. -/
lemma restoreItem_state {σ : Type} (k : DriverFiles σ) (t : VfioTransition) (f : PciFunction)
    (s : σ) :
    (restoreItem k .Live (t, f) s).2 =
      match t.originalDriver with
      | none => s
      | some driver =>
          if driver = "vfio-pci" ∨ f.driver = some driver then s
          else (k.effect (.Bind driver) f.bdf s).2 := by
  simp only [restoreItem]
  cases t.originalDriver with
  | none => rfl
  | some driver =>
      by_cases hvfio : driver = "vfio-pci"
      · simp [hvfio]
      · simp only [hvfio, if_false, false_or]
        trans (outcome (f.bindToDriver k driver) s).2
        · rw [outcome]
          cases f.bindToDriver k driver s with
          | ok a s' => rfl
          | error e s' => rfl
        · rw [outcome_bindToDriver]
          split_ifs <;> rfl

/-! ## Restoring under the rule of Linux -/

section

variable {entries : List PciEntry} {s : Bindings} {items : List (VfioTransition × PciFunction)}

/-- **A bound function keeps its driver**: the only writes are binds, which Linux refuses. -/
lemma restoreItem_of_bound {item : VfioTransition × PciFunction} {bdf : String}
    (h : s bdf ≠ none) :
    (restoreItem (linuxSysfs entries).toDriverFiles .Live item s).2 bdf = s bdf := by
  obtain ⟨t, f⟩ := item
  rw [restoreItem_state]
  cases t.originalDriver with
  | none => rfl
  | some driver =>
      simp only
      split_ifs with hskip
      · rfl
      · by_cases hbdf : bdf = f.bdf
        · subst hbdf
          rw [effect_bind_of_bound h]
        · exact effect_linuxSysfs_of_ne hbdf

lemma restoreGroup_of_bound {bdf : String} (h : s bdf ≠ none) :
    (restoreGroup (linuxSysfs entries).toDriverFiles .Live items s).2 bdf = s bdf := by
  induction items generalizing s with
  | nil => rfl
  | cons item items ih =>
      have hone : (restoreItem (linuxSysfs entries).toDriverFiles .Live item s).2 bdf = s bdf :=
        restoreItem_of_bound h
      rw [restoreGroup]
      exact (ih (by rw [hone]; exact h)).trans hone

/-- If every function with a restorable transition is bound, nothing changes. -/
lemma restoreGroup_eq_self
    (h : ∀ item ∈ items, item.1.Restorable → s item.2.bdf ≠ none) :
    (restoreGroup (linuxSysfs entries).toDriverFiles .Live items s).2 = s := by
  induction items with
  | nil => rfl
  | cons item items ih =>
      obtain ⟨t, f⟩ := item
      have hone : (restoreItem (linuxSysfs entries).toDriverFiles .Live (t, f) s).2 = s := by
        rw [restoreItem_state]
        cases horig : t.originalDriver with
        | none => rfl
        | some driver =>
            simp only
            split_ifs with hskip
            · rfl
            · rw [not_or] at hskip
              have hbound : s f.bdf ≠ none :=
                h (t, f) List.mem_cons_self ⟨driver, horig, hskip.1⟩
              rw [effect_bind_of_bound hbound]
      rw [restoreGroup]
      simp only [hone]
      exact ih fun item hitem => h item (List.mem_cons_of_mem _ hitem)

/-- An unbound function of the host with a restorable transition is bound to something. -/
lemma restoreGroup_binds {t : VfioTransition} {f : PciFunction} (hmem : (t, f) ∈ items)
    (ht : t.Restorable) (hf : f.driver = none) (hentry : ∃ entry ∈ entries, entry.bdf = f.bdf) :
    (restoreGroup (linuxSysfs entries).toDriverFiles .Live items s).2 f.bdf ≠ none := by
  induction items generalizing s with
  | nil => exact absurd hmem List.not_mem_nil
  | cons item items ih =>
      rw [restoreGroup]
      by_cases hs : (restoreItem (linuxSysfs entries).toDriverFiles .Live item s).2 f.bdf = none
      · rcases List.mem_cons.mp hmem with rfl | hmem
        · -- the first item is the one that binds the function
          exfalso
          obtain ⟨driver, horig, hvfio⟩ := ht
          have hunbound : s f.bdf = none := by
            by_contra hb
            rw [restoreItem_of_bound hb] at hs
            exact hb hs
          rw [restoreItem_state, horig] at hs
          simp only [hf, hvfio, reduceCtorEq, or_self, if_false,
            effect_bind_of_unbound hentry hunbound, Function.update_self] at hs
        · exact ih hmem
      · exact fun hnone => hs ((restoreGroup_of_bound hs).symm.trans hnone)

end

end Chalybs
