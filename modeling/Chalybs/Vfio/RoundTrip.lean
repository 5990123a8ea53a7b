import Chalybs.Vfio.Restore

/-!
# Staging followed by restoring

Staging takes a function from its driver and gives it to vfio-pci; restoring binds it to the
recorded driver again, but never takes it from vfio-pci.  Under the rule of Linux the second bind
is refused, so restoring undoes staging only where there was nothing to undo.

* `executeActions_frame`, `executeActions_idle` — what executing a plan leaves alone.
* `restore_inverts_stage_iff` — when restoring leaves every function as it was before staging.
-/

namespace Chalybs

open Foundation

/-! ## What executing leaves alone -/

section

variable {inv : PciInventory} {actions : List VfioAction} {entries : List PciEntry}

/-- Executing a plan keeps the transitions recorded before it, and the driver of every function
that no action names. -/
lemma executeActions_frame (hknown : Known inv actions) (ts : List VfioTransition) (s : Bindings) :
    let final := (outcome (executeActions (linuxSysfs entries).toDriverFiles inv actions) (ts, s)).2
    (∀ t ∈ ts, t ∈ final.1) ∧ ∀ bdf, (∀ a ∈ actions, a.bdf ≠ bdf) → final.2 bdf = s bdf := by
  induction actions generalizing ts s with
  | nil => exact ⟨fun t ht => ht, fun bdf _ => rfl⟩
  | cons action actions ih =>
      obtain ⟨func, hf⟩ := hknown action List.mem_cons_self
      have ih := ih fun a ha => hknown a (List.mem_cons_of_mem _ ha)
      rw [executeActions, outcome_seq, outcome_executeAction _ hf]
      cases hw : writeOf inv action with
      | none =>
          obtain ⟨hkeep, hframe⟩ := ih ts s
          exact ⟨hkeep, fun bdf h => hframe bdf fun a ha => h a (List.mem_cons_of_mem _ ha)⟩
      | some file =>
          simp only
          split_ifs
          · obtain ⟨hkeep, hframe⟩ := ih (ts ++ (recordOf inv action).toList)
              ((linuxSysfs entries).toDriverFiles.effect file action.bdf s).2
            refine ⟨fun t ht => hkeep t (List.mem_append_left _ ht), fun bdf h => ?_⟩
            rw [hframe bdf fun a ha => h a (List.mem_cons_of_mem _ ha)]
            exact effect_linuxSysfs_of_ne (h action List.mem_cons_self).symm
          · exact ⟨fun t ht => List.mem_append_left _ ht, fun bdf h =>
              effect_linuxSysfs_of_ne (h action List.mem_cons_self).symm⟩

/-- A plan none of whose actions writes changes nothing. -/
lemma executeActions_idle {σ : Type} {k : DriverFiles σ} (hknown : Known inv actions)
    (hidle : ∀ a ∈ actions, writeOf inv a = none) (ts : List VfioTransition) (s : σ) :
    outcome (executeActions k inv actions) (ts, s) = (true, ts, s) := by
  induction actions with
  | nil => rfl
  | cons action actions ih =>
      obtain ⟨func, hf⟩ := hknown action List.mem_cons_self
      rw [executeActions, outcome_seq, outcome_executeAction _ hf,
        hidle action List.mem_cons_self]
      exact ih (fun a ha => hknown a (List.mem_cons_of_mem _ ha))
        fun a ha => hidle a (List.mem_cons_of_mem _ ha)

/-- An action on a function that is bound to vfio-pci does not write. -/
lemma writeOf_eq_none_of_vfio {action : VfioAction} {f : PciFunction}
    (hf : inv.findByBdf action.bdf = some f) (hvfio : f.driver = some "vfio-pci") :
    writeOf inv action = none := by
  rw [writeOf, hf, Option.bind_some]
  cases action.kind with
  | UnbindFromCurrentDriver => simp [hvfio]
  | BindToVfio => simp [hvfio]

end

/-! ## The round trip -/

section

variable {entries : List PciEntry} {rt : VmRuntime} {s s' : Bindings} {ts : List VfioTransition}

/-- What successful staging establishes on a Linux host. -/
lemma stage_linux
    (h : stagePciDevicesForVm (linuxSysfs entries) rt (rt.vfioTransitions, s) = .ok () (ts, s')) :
    (∀ t ∈ rt.vfioTransitions, t ∈ ts) ∧
    (∀ dev ∈ rt.cfg.configured, ∀ f, (linuxInventory entries s).findByBdf dev.pciAddress = some f →
      s' f.bdf = some "vfio-pci") ∧
    (∀ bdf, (∀ dev ∈ rt.cfg.configured, ∀ f,
      (linuxInventory entries s).findByBdf dev.pciAddress = some f → f.bdf ≠ bdf) →
        s' bdf = s bdf) ∧
    ((∀ dev ∈ rt.cfg.configured, ∀ f, (linuxInventory entries s).findByBdf dev.pciAddress = some f →
      f.driver = some "vfio-pci") → ts = rt.vfioTransitions ∧ s' = s) := by
  obtain ⟨inv, plan, inv', hscan, -, hplan, hexec, hscan', hverify⟩ := stage_eq_ok.mp h
  obtain rfl := Except.ok.inj (scan_linuxSysfs.symm.trans hscan)
  obtain rfl := Except.ok.inj (scan_linuxSysfs.symm.trans hscan')
  have hknown := known_of_buildPlanForVm hplan
  have hout : outcome (executeActions (linuxSysfs entries).toDriverFiles
      (linuxInventory entries s) plan.actions) (rt.vfioTransitions, s) = (true, ts, s') :=
    outcome_of_ok hexec
  have hexecuted := @executeActions_frame _ _ entries hknown rt.vfioTransitions s
  rw [hout] at hexecuted
  obtain ⟨hkeep, hframe⟩ := hexecuted
  refine ⟨hkeep, ?_, ?_, ?_⟩
  · intro dev hdev f hf
    have hbdf : f.bdf = dev.pciAddress := (mem_of_findByBdf hf).2
    have hvfio := verifyWithInventory_ok hverify dev hdev _ (findByBdf_rebound s' hf)
    rwa [hbdf]
  · intro bdf hbdf
    refine hframe bdf fun a ha => ?_
    obtain ⟨dev, hdev, f, hf, hfa⟩ := configured_of_action hplan ha
    exact hfa ▸ hbdf dev hdev f hf
  · intro hvfio
    have hidle : ∀ a ∈ plan.actions, writeOf (linuxInventory entries s) a = none := by
      intro a ha
      obtain ⟨dev, hdev, f, hf, hfa⟩ := configured_of_action hplan ha
      exact writeOf_eq_none_of_vfio (hfa ▸ findByBdf_bdf hf) (hvfio dev hdev f hf)
    have hsame := (executeActions_idle hknown hidle rt.vfioTransitions s).symm.trans hout
    simp only [Prod.mk.injEq, true_and] at hsame
    exact ⟨hsame.1.symm, hsame.2.symm⟩

/-- The bindings that a live restore leaves on a Linux host. -/
lemma restore_linux :
    (outcome (restorePciDevicesForVm (linuxSysfs entries) rt) s).2 =
      (restoreGroup (linuxSysfs entries).toDriverFiles .Live
        (restoreItems (linuxInventory entries s) rt.vfioTransitions) s).2 := by
  have hstate : (outcome (restorePciDevicesForVm (linuxSysfs entries) rt) s).2 =
      (restoreImpl (linuxSysfs entries) rt .Live s).2 := rfl
  rw [hstate, restoreImpl]
  cases hts : rt.vfioTransitions with
  | nil => rfl
  | cons t ts =>
      rw [scan_linuxSysfs]
      rfl

/-- **When restoring undoes staging.**  After a successful staging, a live restore on the same
runtime leaves every function of the host with the driver it had before staging exactly when
every configured device present was bound to vfio-pci already, and no transition recorded in the
runtime before that names an unbound function and a driver to bind it to. -/
theorem restore_inverts_stage_iff (entries : List PciEntry) (rt : VmRuntime) (s s' : Bindings)
    (ts : List VfioTransition)
    (h : stagePciDevicesForVm (linuxSysfs entries) rt (rt.vfioTransitions, s) = .ok () (ts, s')) :
    (∀ entry ∈ entries,
      (outcome (restorePciDevicesForVm (linuxSysfs entries) { rt with vfioTransitions := ts }) s').2
        entry.bdf = s entry.bdf) ↔
      (∀ dev ∈ rt.cfg.configured, ∀ f,
        (linuxInventory entries s).findByBdf dev.pciAddress = some f →
          f.driver = some "vfio-pci") ∧
      ∀ t ∈ rt.vfioTransitions, ∀ f, (linuxInventory entries s).findByBdf t.bdf = some f →
        f.driver = none → ¬ t.Restorable := by
  obtain ⟨hkeep, hstaged, hframe, hidle⟩ := stage_linux h
  rw [restore_linux]
  constructor
  · intro hback
    have hvfio : ∀ dev ∈ rt.cfg.configured, ∀ f,
        (linuxInventory entries s).findByBdf dev.pciAddress = some f →
          f.driver = some "vfio-pci" := by
      intro dev hdev f hf
      obtain ⟨entry, hentry, hbdf⟩ := exists_entry_of_findByBdf hf
      have hfbdf : f.bdf = dev.pciAddress := (mem_of_findByBdf hf).2
      have hbound : s' entry.bdf = some "vfio-pci" := by
        rw [hbdf, ← hfbdf]
        exact hstaged dev hdev f hf
      rw [driver_of_findByBdf hf, ← hbdf, ← hback entry hentry,
        restoreGroup_of_bound (by simp [hbound]), hbound]
    refine ⟨hvfio, fun t ht f hf hnone hrestorable => ?_⟩
    obtain ⟨entry, hentry, hbdf⟩ := exists_entry_of_findByBdf hf
    have hfbdf : f.bdf = t.bdf := (mem_of_findByBdf hf).2
    have hunbound : s t.bdf = none := by rw [← driver_of_findByBdf hf, hnone]
    obtain ⟨-, rfl⟩ := hidle hvfio
    have hbinds := restoreGroup_binds (s := s')
      (mem_restoreItems.mpr ⟨hkeep t ht, hf⟩) hrestorable hnone
      ⟨entry, hentry, hbdf.trans hfbdf.symm⟩
    rw [hfbdf, ← hbdf, hback entry hentry, hbdf] at hbinds
    exact hbinds hunbound
  · rintro ⟨hvfio, hunrestorable⟩ entry hentry
    obtain ⟨rfl, rfl⟩ := hidle hvfio
    rw [restoreGroup_eq_self]
    rintro ⟨t, f⟩ hitem hrestorable
    obtain ⟨ht, hf⟩ := mem_restoreItems.mp hitem
    have hfbdf : f.bdf = t.bdf := (mem_of_findByBdf hf).2
    intro hnone
    refine hunrestorable t ht f hf ?_ hrestorable
    rw [driver_of_findByBdf hf, ← hfbdf, hnone]

end

theorem restore_inverts_stage_iff_storage :
    (∀ entry ∈ storageHost,
      (outcome (restorePciDevicesForVm (linuxSysfs storageHost)
        { storageRuntime with vfioTransitions := [storageTransition] }) stagedBindings).2
          entry.bdf = storageBindings entry.bdf) ↔
      (∀ dev ∈ storageRuntime.cfg.configured, ∀ f,
        (linuxInventory storageHost storageBindings).findByBdf dev.pciAddress = some f →
          f.driver = some "vfio-pci") ∧
      ∀ t ∈ storageRuntime.vfioTransitions, ∀ f,
        (linuxInventory storageHost storageBindings).findByBdf t.bdf = some f →
          f.driver = none → ¬ t.Restorable :=
  restore_inverts_stage_iff storageHost storageRuntime storageBindings stagedBindings
    [storageTransition] stage_storage

/-- The NVMe controller stays with vfio-pci after it was staged and restored. -/
theorem restore_leaves_vfio :
    ¬ ∀ (entries : List PciEntry) (rt : VmRuntime) (s s' : Bindings) (ts : List VfioTransition),
      (entries.map PciEntry.bdf).Nodup →
      stagePciDevicesForVm (linuxSysfs entries) rt (rt.vfioTransitions, s) = .ok () (ts, s') →
        ∀ entry ∈ entries,
          (outcome (restorePciDevicesForVm (linuxSysfs entries)
            { rt with vfioTransitions := ts }) s').2 entry.bdf = s entry.bdf := by
  intro h
  have hback := h storageHost storageRuntime storageBindings stagedBindings [storageTransition]
    (by decide) stage_storage
  revert hback
  decide

end Chalybs
