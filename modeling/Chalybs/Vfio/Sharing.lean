import Chalybs.Daemon.Interference
import Chalybs.Vfio.Simulation

/-!
# VMs that share the PCI functions of a host

The daemon stages and restores the PCI functions of all VMs on one host.  Under the rule of Linux
the driver of a function moves in one direction only, whichever VMs are configured with it: a driver
of the host is given up, the function is bound to vfio-pci, and there it stays.  The restore of a
teardown finds nothing that it could bind.

* `Host.withPci` — the host on which staging and restoring act on the drivers of the functions.
* `Advanced`, `Handed` — how one driver, and all of them, may move.
* `staged_advanced` — what staging does to the drivers and to the recorded transitions.
* `cooperative_drivers` — what the VMs rely on.
* `drivers_advance`, `staged_devices_stay` — what follows for every run.
-/

namespace Chalybs

open Foundation

variable {V : Type}

/-! ## The system -/

/-- The drivers of the PCI functions, and the rest of the host. -/
structure PciWorld (V : Type) where
  bindings : Bindings
  rest : V

/-- The host on which PreparePci stages and the Shutdown step restores, under the rule of Linux.
The other callees are those of `h`; none of them writes to a driver file. -/
def Host.withPci (h : Host V) (entries : List PciEntry) : Host (PciWorld V) where
  call
    | .StagePci, rt =>
        zoom (fun t => (t.1, t.2.bindings)) (fun u t => (u.1, { t.2 with bindings := u.2 }))
          (stagePciDevicesForVm (linuxSysfs entries) rt)
    | .RestorePci, rt =>
        zoom (fun t => t.2.bindings) (fun s t => (t.1, { t.2 with bindings := s }))
          (restorePciDevicesForVm (linuxSysfs entries) rt)
    | c, rt => zoom (fun t => (t.1, t.2.rest)) (fun u t => (u.1, { t.2 with rest := u.2 }))
        (h.call c rt)
  detectCpuIdentity w := h.detectCpuIdentity w.rest
  numaTopology w := h.numaTopology w.rest

/-- What a tick finds, on the host with the functions. -/
def TickEnv.withPci (env : TickEnv V) (entries : List PciEntry) : TickEnv (PciWorld V) where
  host := env.host.withPci entries
  tryWait q w := env.tryWait q w.rest
  threads pid w := env.threads pid w.rest

/-- A tick on the host with the functions `entries`. -/
def OnPci (entries : List PciEntry) (env : TickEnv (PciWorld V)) : Prop :=
  ∃ env' : TickEnv V, env = env'.withPci entries

/-! ## How drivers move -/

/-- The function has the driver that it had, or it is bound to vfio-pci, or it has lost a driver of
the host. -/
def Advanced (old new : Option String) : Prop :=
  new = old ∨ new = some "vfio-pci" ∨ new = none ∧ old ≠ some "vfio-pci"

lemma Advanced.refl (d : Option String) : Advanced d d := .inl rfl

lemma Advanced.trans {d d' d'' : Option String} (h : Advanced d d') (h' : Advanced d' d'') :
    Advanced d d'' := by
  rcases h' with rfl | hvfio | ⟨hnone, hne⟩
  · exact h
  · exact .inr (.inl hvfio)
  · rcases h with rfl | hvfio | ⟨-, hold⟩
    · exact .inr (.inr ⟨hnone, hne⟩)
    · exact absurd hvfio hne
    · exact .inr (.inr ⟨hnone, hold⟩)

/-- What is bound to vfio-pci stays there. -/
lemma Advanced.vfio {d d' : Option String} (h : Advanced d d') (hd : d = some "vfio-pci") :
    d' = some "vfio-pci" := by
  rcases h with rfl | hvfio | ⟨-, hne⟩
  · exact hd
  · exact hvfio
  · exact absurd hd hne

/-- A function that no driver of the host has gets none. -/
lemma Advanced.free {d d' : Option String} (h : Advanced d d')
    (hd : d = none ∨ d = some "vfio-pci") : d' = none ∨ d' = some "vfio-pci" := by
  rcases h with rfl | hvfio | ⟨hnone, -⟩
  · exact hd
  · exact .inr hvfio
  · exact .inl hnone

/-- The drivers have moved forward, and only those of the functions that `mine` holds of. -/
structure Handed (mine : String → Prop) (s s' : Bindings) : Prop where
  advanced : ∀ bdf, Advanced (s bdf) (s' bdf)
  frame : ∀ bdf, ¬ mine bdf → s' bdf = s bdf

lemma Handed.refl (mine : String → Prop) (s : Bindings) : Handed mine s s :=
  ⟨fun bdf => .refl (s bdf), fun _ _ => rfl⟩

lemma Handed.trans {mine : String → Prop} {s s' s'' : Bindings} (h : Handed mine s s')
    (h' : Handed mine s' s'') : Handed mine s s'' :=
  ⟨fun bdf => (h.advanced bdf).trans (h'.advanced bdf),
    fun bdf hbdf => (h'.frame bdf hbdf).trans (h.frame bdf hbdf)⟩

lemma Handed.mono {mine mine' : String → Prop} {s s' : Bindings} (h : Handed mine s s')
    (hmine : ∀ bdf, mine bdf → mine' bdf) : Handed mine' s s' :=
  ⟨h.advanced, fun bdf hbdf => h.frame bdf fun hm => hbdf (hmine bdf hm)⟩

/-- Every function keeps its driver or is given to vfio-pci: none is left without one. -/
def Given (s s' : Bindings) : Prop := ∀ bdf, s' bdf = s bdf ∨ s' bdf = some "vfio-pci"

lemma Given.refl (s : Bindings) : Given s s := fun _ => .inl rfl

lemma Given.trans {s s' s'' : Bindings} (h : Given s s') (h' : Given s' s'') : Given s s'' := by
  intro bdf
  rcases h' bdf with hsame | hvfio
  · rw [hsame]
    exact h bdf
  · exact .inr hvfio

/-- No address is configured twice. -/
def VmConfig.DistinctDevices (cfg : VmConfig) : Prop :=
  (cfg.configured.map (·.pciAddress)).Nodup

instance (cfg : VmConfig) : Decidable cfg.DistinctDevices :=
  inferInstanceAs (Decidable (List.Nodup _))

/-! ## What staging does -/

section

variable {entries : List PciEntry} {inv : PciInventory} {actions : List VfioAction}
  {s : Bindings} {ts : List VfioTransition}

/-- A write that takes a function from a driver of the host, or gives it to vfio-pci. -/
def DriverFile.TowardsVfio : DriverFile → Prop
  | .Unbind driver => driver ≠ "vfio-pci"
  | .Bind driver => driver = "vfio-pci"

/-- The executor makes no other writes. -/
lemma towardsVfio_of_writeOf {action : VfioAction} {file : DriverFile}
    (h : writeOf inv action = some file) : file.TowardsVfio := by
  obtain ⟨func, -, hfile⟩ := Option.bind_eq_some_iff.mp h
  cases hkind : action.kind with
  | UnbindFromCurrentDriver =>
      simp only [hkind] at hfile
      obtain ⟨driver, -, hdriver⟩ := Option.bind_eq_some_iff.mp hfile
      split_ifs at hdriver with hvfio
      obtain rfl := Option.some.inj hdriver
      exact hvfio
  | BindToVfio =>
      simp only [hkind] at hfile
      split_ifs at hfile
      obtain rfl := Option.some.inj hfile
      rfl

lemma handed_effect {file : DriverFile} (hfile : file.TowardsVfio) (bdf : String) :
    Handed (· = bdf) s ((linuxSysfs entries).toDriverFiles.effect file bdf s).2 := by
  refine ⟨fun other => ?_, fun other hother => effect_linuxSysfs_of_ne hother⟩
  by_cases hother : other = bdf
  · subst hother
    rw [effect_linuxSysfs]
    split_ifs with haccept
    · rw [Bool.and_eq_true] at haccept
      simp only [Function.update_self]
      cases file with
      | Unbind driver =>
          have hbound : s other = some driver := by simpa [DriverFile.accepts] using haccept.2
          refine .inr (.inr ⟨rfl, ?_⟩)
          rw [hbound]
          exact fun heq => hfile (Option.some.inj heq)
      | Bind driver => exact .inr (.inl (congrArg some hfile))
    · exact .refl _
  · rw [effect_linuxSysfs_of_ne hother]
    exact .refl _

/-- The transitions and the drivers that an action leaves. -/
def afterAction (entries : List PciEntry) (inv : PciInventory) (action : VfioAction)
    (t : List VfioTransition × Bindings) : List VfioTransition × Bindings :=
  (outcome (executeAction (linuxSysfs entries).toDriverFiles inv action) t).2

/-- The transitions and the drivers that the actions leave. -/
def afterActions (entries : List PciEntry) (inv : PciInventory) (actions : List VfioAction)
    (t : List VfioTransition × Bindings) : List VfioTransition × Bindings :=
  (outcome (executeActions (linuxSysfs entries).toDriverFiles inv actions) t).2

lemma afterActions_cons (action : VfioAction) (t : List VfioTransition × Bindings) :
    afterActions entries inv (action :: actions) t =
      if (outcome (executeAction (linuxSysfs entries).toDriverFiles inv action) t).1 then
        afterActions entries inv actions (afterAction entries inv action t)
      else afterAction entries inv action t := by
  rw [afterActions, executeActions, outcome_seq]
  split_ifs
  · rfl
  · rfl

lemma handed_action {action : VfioAction} {func : PciFunction}
    (hf : inv.findByBdf action.bdf = some func) (t : List VfioTransition × Bindings) :
    Handed (· = action.bdf) t.2 (afterAction entries inv action t).2 := by
  rw [afterAction, outcome_executeAction _ hf]
  cases hwrite : writeOf inv action with
  | none => exact .refl _ t.2
  | some file => exact handed_effect (towardsVfio_of_writeOf hwrite) action.bdf

/-- **Executing actions** moves drivers forward, of the functions that the actions name. -/
lemma handed_actions (hknown : Known inv actions) (t : List VfioTransition × Bindings) :
    Handed (fun bdf => ∃ a ∈ actions, a.bdf = bdf) t.2 (afterActions entries inv actions t).2 := by
  induction actions generalizing t with
  | nil => exact .refl _ t.2
  | cons action actions ih =>
      obtain ⟨func, hf⟩ := hknown action List.mem_cons_self
      have hone : Handed (fun bdf => ∃ a ∈ action :: actions, a.bdf = bdf) t.2
          (afterAction entries inv action t).2 :=
        (handed_action hf t).mono fun bdf hbdf => ⟨action, List.mem_cons_self, hbdf.symm⟩
      rw [afterActions_cons]
      split_ifs
      · refine hone.trans ((ih (fun a ha => hknown a (List.mem_cons_of_mem _ ha)) _).mono ?_)
        rintro bdf ⟨a, ha, hbdf⟩
        exact ⟨a, List.mem_cons_of_mem _ ha, hbdf⟩
      · exact hone

/-- The host has let the function go. -/
def LetGo (s : Bindings) (bdf : String) : Prop := s bdf = none ∨ s bdf = some "vfio-pci"

lemma Handed.letGo {mine : String → Prop} {s' : Bindings} (h : Handed mine s s') {bdf : String}
    (hbdf : LetGo s bdf) : LetGo s' bdf :=
  (h.advanced bdf).free hbdf

/-- Every action is an unbind from a driver of the host. -/
def Unbinding (inv : PciInventory) (actions : List VfioAction) : Prop :=
  ∀ a ∈ actions, ∃ driver, writeOf inv a = some (.Unbind driver)

/-- An unbind records nothing. -/
lemma recordOf_of_unbind {action : VfioAction} {func : PciFunction} {driver : String}
    (hf : inv.findByBdf action.bdf = some func)
    (hwrite : writeOf inv action = some (.Unbind driver)) : recordOf inv action = none := by
  cases hrec : recordOf inv action with
  | none => rfl
  | some t =>
      rw [writeOf_bind hf (recordOf_eq_some hf hrec).1] at hwrite
      split_ifs at hwrite
      cases hwrite

lemma transitions_of_unbinds (hknown : Known inv actions) (hunbind : Unbinding inv actions)
    (t : List VfioTransition × Bindings) : (afterActions entries inv actions t).1 = t.1 := by
  induction actions generalizing t with
  | nil => rfl
  | cons action actions ih =>
      obtain ⟨func, hf⟩ := hknown action List.mem_cons_self
      obtain ⟨driver, hwrite⟩ := hunbind action List.mem_cons_self
      have hone : (afterAction entries inv action t).1 = t.1 := by
        simp only [afterAction, outcome_executeAction _ hf, hwrite, recordOf_of_unbind hf hwrite,
          Option.toList_none, List.append_nil]
      rw [afterActions_cons]
      split_ifs
      · exact (ih (fun a ha => hknown a (List.mem_cons_of_mem _ ha))
          (fun a ha => hunbind a (List.mem_cons_of_mem _ ha)) _).trans hone
      · exact hone

/-- **Unbinds that all succeed** have the host let their functions go. -/
lemma released_of_unbinds (hknown : Known inv actions) (hunbind : Unbinding inv actions)
    {t : List VfioTransition × Bindings}
    (hok : (outcome (executeActions (linuxSysfs entries).toDriverFiles inv actions) t).1) :
    ∀ a ∈ actions, LetGo (afterActions entries inv actions t).2 a.bdf := by
  induction actions generalizing t with
  | nil => exact fun a ha => absurd ha List.not_mem_nil
  | cons action actions ih =>
      obtain ⟨func, hf⟩ := hknown action List.mem_cons_self
      have hknown' : Known inv actions := fun a ha => hknown a (List.mem_cons_of_mem _ ha)
      obtain ⟨driver, hwrite⟩ := hunbind action List.mem_cons_self
      rw [executeActions, outcome_seq] at hok
      rw [afterActions_cons]
      split_ifs at hok ⊢ with hfirst
      · refine List.forall_mem_cons.mpr
          ⟨?_, ih hknown' (fun a ha => hunbind a (List.mem_cons_of_mem _ ha)) hok⟩
        refine (handed_actions hknown' _).letGo ?_
        simp only [outcome_executeAction _ hf, hwrite, effect_linuxSysfs] at hfirst
        simp only [afterAction, outcome_executeAction _ hf, hwrite, effect_linuxSysfs]
        split_ifs at hfirst ⊢
        exact .inl (Function.update_self action.bdf none t.2)
      · exact absurd hok hfirst

/-- What was recorded since `t` is bound to vfio-pci. -/
def RecordsVfio (t t' : List VfioTransition × Bindings) : Prop :=
  ∀ v ∈ t'.1, v ∈ t.1 ∨ t'.2 v.bdf = some "vfio-pci"

lemma RecordsVfio.trans {t t' t'' : List VfioTransition × Bindings} {mine : String → Prop}
    (h : RecordsVfio t t') (h' : RecordsVfio t' t'') (hhanded : Handed mine t'.2 t''.2) :
    RecordsVfio t t'' := by
  intro v hv
  rcases h' v hv with hold | hvfio
  · exact (h v hold).imp_right (hhanded.advanced v.bdf).vfio
  · exact .inr hvfio

/-- A bind leaves the function that it records bound to vfio-pci, whether it succeeds or not. -/
lemma recordsVfio_of_bind {action : VfioAction} {func : PciFunction}
    (hf : inv.findByBdf action.bdf = some func) (hkind : action.kind = .BindToVfio)
    (hentry : ∃ entry ∈ entries, entry.bdf = action.bdf) {t : List VfioTransition × Bindings}
    (hreleased : LetGo t.2 action.bdf) :
    RecordsVfio t (afterAction entries inv action t) := by
  rw [afterAction, outcome_executeAction _ hf, writeOf_bind hf hkind]
  split_ifs with hvfio
  · exact fun v hv => .inl hv
  · intro v hv
    refine (List.mem_append.mp hv).imp_right fun hrec => ?_
    have hbdf : v.bdf = action.bdf :=
      (recordOf_eq_some hf (Option.mem_toList.mp hrec)).2.1.trans (mem_of_findByBdf hf).2
    simp only [hbdf]
    rcases hreleased with hnone | hbound
    · rw [effect_bind_of_unbound hentry hnone]
      exact Function.update_self action.bdf (some "vfio-pci") t.2
    · have hne : t.2 action.bdf ≠ none := by
        rw [hbound]
        exact Option.some_ne_none _
      rw [effect_bind_of_bound hne]
      exact hbound

/-- **Binds of functions that the host has let go** leave every function that they record bound to
vfio-pci. -/
lemma recordsVfio_of_binds (hknown : Known inv actions)
    (hbind : ∀ a ∈ actions, a.kind = .BindToVfio)
    (hentry : ∀ a ∈ actions, ∃ entry ∈ entries, entry.bdf = a.bdf)
    {t : List VfioTransition × Bindings} (hreleased : ∀ a ∈ actions, LetGo t.2 a.bdf) :
    RecordsVfio t (afterActions entries inv actions t) := by
  induction actions generalizing t with
  | nil => exact fun v hv => .inl hv
  | cons action actions ih =>
      obtain ⟨func, hf⟩ := hknown action List.mem_cons_self
      have hknown' : Known inv actions := fun a ha => hknown a (List.mem_cons_of_mem _ ha)
      rw [List.forall_mem_cons] at hbind hentry hreleased
      have hone := recordsVfio_of_bind hf hbind.1 hentry.1 hreleased.1
      rw [afterActions_cons]
      split_ifs
      · refine hone.trans (ih hknown' hbind.2 hentry.2 fun a ha => ?_) (handed_actions hknown' _)
        exact (handed_action hf t).letGo (hreleased.2 a ha)
      · exact hone

end

/-! ## Staging and restoring -/

section

variable {entries : List PciEntry} {rt : VmRuntime}

/-- What staging leaves: the drivers have moved forward, those of configured functions only, what
was recorded is bound to vfio-pci, and no function is left without a driver if none is configured
twice. -/
structure StagedFrom (cfg : VmConfig) (t t' : List VfioTransition × Bindings) : Prop where
  handed : Handed cfg.Configures t.2 t'.2
  records : RecordsVfio t t'
  given : cfg.DistinctDevices → Given t.2 t'.2

lemma StagedFrom.refl (cfg : VmConfig) (t : List VfioTransition × Bindings) : StagedFrom cfg t t :=
  ⟨.refl _ _, fun _ hv => .inl hv, fun _ => .refl _⟩

/-- A plan for distinct devices is carried out as a whole. -/
lemma given_executePlan {plan : VfioPlan} {t : List VfioTransition × Bindings}
    (hplan : buildPlanForVm rt.name rt.cfg (linuxInventory entries t.2) = .ok plan)
    (hdistinct : rt.cfg.DistinctDevices) :
    Given t.2 (afterActions entries (linuxInventory entries t.2) plan.actions t).2 := by
  have hexec := outcome_of_ok (executePlan_linux hdistinct agreesWith_linux hplan t.1)
  have hafter : (afterActions entries (linuxInventory entries t.2) plan.actions t).2 =
      applyWrites (linuxInventory entries t.2) t.2 plan.actions :=
    congrArg (fun u : Bool × List VfioTransition × Bindings => u.2.2) hexec
  intro bdf
  rw [hafter]
  by_cases hstaged : ∃ f ∈ (linuxInventory entries t.2).resolved rt.cfg.configured, f.bdf = bdf
  · obtain ⟨f, hf, rfl⟩ := hstaged
    exact .inr (applyWrites_plan hdistinct agreesWith_linux hplan hf)
  · refine .inl (applyWrites_of_not_named fun a ha hbdf => hstaged ?_)
    obtain ⟨dev, hdev, f, hf, hfa⟩ := configured_of_action hplan ha
    exact ⟨f, mem_resolved.mpr ⟨dev, hdev, hf⟩, hfa.trans hbdf⟩

/-- The staged functions are let go once all unbinds have succeeded. -/
lemma released_of_staged {vmName : String} {inv : PciInventory}
    {staged : List (String × PciFunction)} (hres : Resolved inv staged)
    (hknown : Known inv (actionsOf vmName staged).unbinds)
    (hunbind : Unbinding inv (actionsOf vmName staged).unbinds)
    {t : List VfioTransition × Bindings} (hagrees : inv.AgreesWith entries t.2)
    (hok : (outcome (executeActions (linuxSysfs entries).toDriverFiles inv
      (actionsOf vmName staged).unbinds) t).1) {p : String × PciFunction} (hp : p ∈ staged) :
    LetGo (afterActions entries inv (actionsOf vmName staged).unbinds t).2 p.2.bdf := by
  by_cases hneeds : p.2.NeedsUnbind
  · obtain ⟨action, haction⟩ := unbindAction?_isSome vmName p.1 hneeds
    rw [← (unbindAction?_eq_some haction).1]
    exact released_of_unbinds hknown hunbind hok action (List.mem_filterMap.mpr ⟨p, hp, haction⟩)
  · refine (handed_actions hknown t).letGo ?_
    have hdriver := (hagrees p.2 (mem_of_findByBdf (hres p hp)).1).2
    cases hd : p.2.driver with
    | none => exact .inl (hdriver.symm.trans hd)
    | some driver =>
        refine .inr ((hdriver.symm.trans hd).trans (congrArg some ?_))
        by_contra hvfio
        exact hneeds ⟨driver, hd, hvfio⟩

/-- **Executing a plan** that was built from the drivers that are bound. -/
lemma stagedFrom_executePlan {plan : VfioPlan} {t : List VfioTransition × Bindings}
    (hplan : buildPlanForVm rt.name rt.cfg (linuxInventory entries t.2) = .ok plan) :
    StagedFrom rt.cfg t (afterActions entries (linuxInventory entries t.2) plan.actions t) := by
  have hknown := known_of_buildPlanForVm hplan
  refine ⟨(handed_actions hknown t).mono ?_, ?_, given_executePlan hplan⟩
  · rintro bdf ⟨a, ha, rfl⟩
    obtain ⟨dev, hdev, f, hf, hbdf⟩ := configured_of_action hplan ha
    exact ⟨dev, hdev, (mem_of_findByBdf hf).2.symm.trans hbdf⟩
  obtain ⟨-, rfl⟩ := buildPlanForVm_eq_ok.mp hplan
  set inv := linuxInventory entries t.2
  set acts := actionsOf rt.name (stagedFunctions rt.cfg inv)
  have hres : Resolved inv (stagedFunctions rt.cfg inv) := resolved_stagedFunctions
  have hunbinds : Known inv acts.unbinds := fun a ha => hknown a (List.mem_append_left _ ha)
  have hbinds : Known inv acts.binds := fun a ha => hknown a (List.mem_append_right _ ha)
  have hunbinding : Unbinding inv acts.unbinds := by
    intro a ha
    obtain ⟨-, driver, -, -, hwrite⟩ := writeOf_of_mem_unbinds hres ha
    exact ⟨driver, hwrite⟩
  have hfirst : RecordsVfio t (afterActions entries inv acts.unbinds t) := by
    intro v hv
    rw [transitions_of_unbinds hunbinds hunbinding t] at hv
    exact .inl hv
  rw [afterActions, outcome_executeActions_append]
  split_ifs with hok
  · -- the binds find all their functions free
    refine hfirst.trans (recordsVfio_of_binds hbinds (fun a ha => ?_) (fun a ha => ?_)
      fun a ha => ?_) (handed_actions hbinds _)
    · obtain ⟨p, hp, -, hkind⟩ := mem_binds ha
      exact hkind
    · obtain ⟨p, hp, hbdf, -⟩ := mem_binds ha
      exact hbdf ▸ exists_entry_of_findByBdf (hres p hp)
    · obtain ⟨p, hp, hbdf, -⟩ := mem_binds ha
      rw [hbdf]
      exact released_of_staged hres hunbinds hunbinding agreesWith_linux hok hp
  · exact hfirst

/-- **Staging**, whether it succeeds or not. -/
theorem ends_stage (t : List VfioTransition × Bindings) :
    Ends (stagePciDevicesForVm (linuxSysfs entries) rt) t
      (fun _ t' => StagedFrom rt.cfg t t' ∧ verifyWithInventory rt.name rt.cfg
        (linuxInventory entries t'.2) = .ok ())
      fun _ t' => StagedFrom rt.cfg t t' := by
  have hscan : ∀ (t : List VfioTransition × Bindings),
      scanNow (linuxSysfs entries) t = .ok (linuxInventory entries t.2) t :=
    fun t => scanNow_eq_ok.mpr ⟨scan_linuxSysfs, rfl⟩
  rw [stagePciDevicesForVm, ends_bind]
  refine ends_of_ok (hscan t) ?_
  rw [ends_bind, ends_fromExcept]
  cases evaluateIsolationForVm rt.name rt.cfg (linuxInventory entries t.2) with
  | error e => exact .refl _ t
  | ok a =>
      simp only
      rw [ends_bind, ends_fromExcept]
      cases hplan : buildPlanForVm rt.name rt.cfg (linuxInventory entries t.2) with
      | error e => exact .refl _ t
      | ok plan =>
          simp only
          rw [ends_bind]
          have hexec := stagedFrom_executePlan hplan
          refine (ends_of_outcome_snd hexec).mono (fun _ t' ht' => ?_) fun _ t' ht' => ht'
          rw [verifyVmVfioBindings, ends_bind]
          refine ends_of_ok (hscan t') ?_
          rw [ends_fromExcept]
          cases hverify : verifyWithInventory rt.name rt.cfg (linuxInventory entries t'.2) with
          | error e => exact ht'
          | ok a => exact ⟨ht', rfl⟩

/-- Every function with a recorded transition is bound to vfio-pci. -/
def RecordedVfio (rt : VmRuntime) (s : Bindings) : Prop :=
  ∀ v ∈ rt.vfioTransitions, s v.bdf = some "vfio-pci"

/-- **Restoring finds nothing to bind** while the recorded functions are bound to vfio-pci. -/
lemma restore_eq_self {s : Bindings} (h : RecordedVfio rt s) :
    restorePciDevicesForVm (linuxSysfs entries) rt s = .ok () s := by
  have hstate : (outcome (restorePciDevicesForVm (linuxSysfs entries) rt) s).2 = s := by
    rw [restore_linux]
    refine restoreGroup_eq_self ?_
    rintro ⟨v, f⟩ hitem -
    obtain ⟨hv, hf⟩ := mem_restoreItems.mp hitem
    simp only [(mem_of_findByBdf hf).2, h v hv]
    exact Option.some_ne_none _
  exact congrArg (EStateM.Result.ok ()) hstate

end

/-! ## What a visit does -/

section

variable {entries : List PciEntry} {env : TickEnv V} {h : Host V} {vm : DaemonVm} {w : PciWorld V}
  {cfg : VmConfig} {s : Bindings} {W : Type}

/-- The VM has its configuration, what it has recorded is bound to vfio-pci, and the drivers have
moved from `s` as staging moves them. -/
structure OnDrivers (cfg : VmConfig) (s : Bindings) (rt : VmRuntime) (w : PciWorld V) : Prop where
  sameCfg : rt.cfg = cfg
  recorded : RecordedVfio rt w.bindings
  handed : Handed cfg.Configures s w.bindings
  given : cfg.DistinctDevices → Given s w.bindings

lemma framed_onDrivers :
    Framed (OnDrivers cfg s : VmRuntime → PciWorld V → Prop) :=
  ⟨⟨fun _ _ _ _ h => ⟨h.1, h.2, h.3, h.4⟩, fun _ _ h => ⟨h.1, h.2, h.3, h.4⟩,
    fun _ _ _ h => ⟨h.1, h.2, h.3, h.4⟩⟩, fun _ _ h => ⟨h.1, h.2, h.3, h.4⟩⟩

/-- **No call breaks this.** -/
lemma onDrivers_invoke (c : Callee) :
    Preserves (OnRuntime (OnDrivers cfg s)) ((h.withPci entries).invoke c) := by
  rintro t ⟨hcfg, hrecorded, hhanded, hgiven⟩
  rw [ends_invoke]
  by_cases hstage : c = .StagePci
  · subst hstage
    have hkeep : ∀ t' : List VfioTransition × Bindings,
        StagedFrom t.1.rt.cfg (t.1.rt.vfioTransitions, t.2.bindings) t' →
          OnRuntime (OnDrivers cfg s) ((⟨t.1.state, { t.1.rt with vfioTransitions := t'.1 }⟩,
            { t.2 with bindings := t'.2 }) : VmStateMachine × PciWorld V) := by
      rintro t' ⟨hmoved, hrecords, hwhole⟩
      refine ⟨hcfg, fun v hv => ?_, hhanded.trans (hcfg ▸ hmoved),
        fun hdistinct => (hgiven hdistinct).trans (hwhole (hcfg ▸ hdistinct))⟩
      rcases hrecords v hv with hold | hvfio
      · exact (hmoved.advanced v.bdf).vfio (hrecorded v hold)
      · exact hvfio
    refine ends_zoom.mpr ((ends_stage _).mono (fun _ t' ht' => hkeep t' ht'.1) fun _ t' ht' => ?_)
    exact hkeep t' ht'
  by_cases hrestore : c = .RestorePci
  · subst hrestore
    have hdone : (h.withPci entries).call .RestorePci t.1.rt ((), t.2) = .ok () ((), t.2) := by
      simp only [Host.withPci, zoom, restore_eq_self hrecorded]
    exact ends_of_ok hdone ⟨hcfg, hrecorded, hhanded, hgiven⟩
  · have hcall : (h.withPci entries).call c t.1.rt = zoom (fun t => (t.1, t.2.rest))
        (fun u t => (u.1, { t.2 with rest := u.2 })) (h.call c t.1.rt) := by
      cases c <;> first | rfl | contradiction
    have hstore : ∀ part, (c.store t.1.rt part).vfioTransitions = t.1.rt.vfioTransitions := by
      intro part
      cases c <;> first | rfl | contradiction
    have hkeep : ∀ part rest, OnRuntime (OnDrivers cfg s) ((⟨t.1.state, c.store t.1.rt part⟩,
        { t.2 with rest }) : VmStateMachine × PciWorld V) := by
      intro part rest
      refine ⟨(cfg_store c _ _).trans hcfg, ?_, hhanded, hgiven⟩
      rw [RecordedVfio, hstore]
      exact hrecorded
    rw [hcall, ends_zoom]
    exact ends_of_forall (fun _ u => hkeep u.1 u.2) fun _ u => hkeep u.1 u.2

/-- **A visit** moves drivers forward, of functions that the VM is configured with. -/
lemma visit_drivers (hrecorded : RecordedVfio vm.sm.rt w.bindings) :
    OnDrivers vm.sm.rt.cfg w.bindings (vm.advance (env.withPci entries) w).1.sm.rt
      (vm.advance (env.withPci entries) w).2 := by
  refine framed_onDrivers.toFramedBut.tick (fun _ _ h => ⟨h.1, h.2, h.3, h.4⟩)
    (fun c _ => onDrivers_invoke c) (fun _ _ => framed_onDrivers.pinnedIrqs)
    ⟨rfl, hrecorded, .refl _ _, fun _ => .refl _⟩

/-- PreparePci has succeeded, and the shutdown has not begun. -/
def VmState.AfterStaging (state : VmState) : Prop :=
  VmState.ReserveCpus.rank ≤ state.rank ∧ state.rank ≤ VmState.Steady.rank

instance (state : VmState) : Decidable state.AfterStaging := inferInstanceAs (Decidable (_ ∧ _))

/-- Every configured device that the host has is bound to vfio-pci. -/
def DevicesVfio (entries : List PciEntry) (s : Bindings) (cfg : VmConfig) : Prop :=
  ∀ dev ∈ cfg.configured, ∀ f, (linuxInventory entries s).findByBdf dev.pciAddress = some f →
    f.driver = some "vfio-pci"

lemma DevicesVfio.handed {s' : Bindings} {mine : String → Prop} (h : DevicesVfio entries s cfg)
    (hmoved : Handed mine s s') : DevicesVfio entries s' cfg := by
  intro dev hdev f hf
  have hbefore := h dev hdev _ (findByBdf_rebound s hf)
  rw [driver_of_findByBdf hf]
  exact (hmoved.advanced dev.pciAddress).vfio hbefore

/-- PreparePci is the only way past staging. -/
lemma staging_of_next {op : Op} {state state' : VmState} (h : op.next state = some state')
    (hafter : state'.AfterStaging) (hbefore : ¬ state.AfterStaging) :
    op = .Step ∧ state = .PreparePci := by
  revert state'
  revert hbefore
  cases op <;> cases state <;> decide

lemma staging_of_visit {env : TickEnv W} {w : W}
    (hafter : (vm.advance env w).1.sm.state.AfterStaging) (hbefore : ¬ vm.sm.state.AfterStaging) :
    vm.sm.state = .PreparePci ∧ vm.desired.WantsUp := by
  have hdrives : ∀ {state state' : VmState} {desired desired' : IpcVmState},
      Drives state desired state' desired' → state'.AfterStaging → ¬ state.AfterStaging →
        state = .PreparePci ∧ desired.WantsUp := by
    rintro state state' desired desired' (- | ⟨hdue, hnext⟩ | -) hafter hbefore
    · exact absurd hafter hbefore
    · obtain ⟨rfl, hstate⟩ := staging_of_next hnext hafter hbefore
      exact ⟨hstate, (step_due hdue).mp rfl⟩
    · exact absurd hafter hbefore
  rcases advance_drives env vm w with hd | ⟨hsteady, -⟩
  · exact hdrives hd hafter hbefore
  · rw [hsteady] at hbefore
    exact absurd (by decide) hbefore

/-- **A visit after which staging is over** finds it over, or it is the one that stages. -/
lemma devices_of_visit (hrecorded : RecordedVfio vm.sm.rt w.bindings)
    (hvm : vm.sm.state.AfterStaging → DevicesVfio entries w.bindings vm.sm.rt.cfg) :
    let r := vm.advance (env.withPci entries) w
    r.1.sm.state.AfterStaging → DevicesVfio entries r.2.bindings vm.sm.rt.cfg := by
  intro r hafter
  obtain ⟨-, -, hmoved, -⟩ := @visit_drivers _ entries env _ _ hrecorded
  by_cases hbefore : vm.sm.state.AfterStaging
  · exact (hvm hbefore).handed hmoved
  obtain ⟨hstate, hup⟩ := staging_of_visit hafter hbefore
  have hdue := due_step_iff.mpr ⟨hup, (by rw [hstate]; decide : vm.sm.state.IsBringUp)⟩
  have hends := Ends.advance (env.withPci entries) (w := w)
    (P := fun t => DevicesVfio entries t.2.bindings vm.sm.rt.cfg) (Q := fun _ => True)
    (by rw [hstate]; decide) hdue ?_
  · rcases hends with hdevices | ⟨rt, m, -, hsm⟩
    · exact hdevices
    · have hfailed : r.1.sm.state = vm.sm.state := by rw [hsm]
      rw [hfailed] at hafter
      exact absurd hafter hbefore
  · rw [hstate]
    show Ends (pushSystem "state=PreparePci" >>= fun _ =>
      (env.host.withPci entries).invoke .StagePci >>= fun _ => _) (vm.sm, w) _ _
    rw [ends_bind, ends_pushSystem, ends_bind, ends_invoke]
    refine ends_zoom.mpr ((ends_stage _).mono ?_ fun _ _ _ => trivial)
    rintro _ t ⟨-, hverify⟩
    rw [ends_bind, ends_pushInfo]
    exact verifyWithInventory_ok hverify

end

/-! ## Runs -/

/-- Some configured VM has the function among its devices. -/
def RootConfigures (root : Option RootConfig) (bdf : String) : Prop :=
  ∃ cfg name vmCfg, root = some cfg ∧ cfg.vm.lookup name = some vmCfg ∧ vmCfg.Configures bdf

/-- No configured VM has a device twice. -/
def RootDistinct (root : Option RootConfig) : Prop :=
  ∀ cfg, root = some cfg → ∀ entry ∈ cfg.vm.entries, entry.2.DistinctDevices

/-- What the visits guarantee of the drivers. -/
structure KeepsDrivers (root : Option RootConfig) (s s' : Bindings) : Prop where
  handed : Handed (RootConfigures root) s s'
  given : RootDistinct root → Given s s'

/-- What a VM relies on: it has its configuration, the functions that it has recorded are bound to
vfio-pci, and all its devices are once staging is over. -/
structure ReliesOnDrivers (entries : List PciEntry) (root : Option RootConfig) (name : String)
    (w : PciWorld V) (vm : DaemonVm) : Prop where
  configured : ∃ cfg, root = some cfg ∧ cfg.vm.lookup name = some vm.sm.rt.cfg
  recorded : RecordedVfio vm.sm.rt w.bindings
  devices : vm.sm.state.AfterStaging → DevicesVfio entries w.bindings vm.sm.rt.cfg

/-- **The VMs cooperate**: no visit takes a function from vfio-pci, or touches one that no VM is
configured with. -/
theorem cooperative_drivers (entries : List PciEntry) (root : Option RootConfig) :
    Cooperative root (OnPci entries) (ReliesOnDrivers (V := V) entries root)
      fun w w' => KeepsDrivers root w.bindings w'.bindings where
  refl w := ⟨.refl _ _, fun _ => .refl _⟩
  trans w w' w'' h h' := ⟨h.handed.trans h'.handed, fun hd => (h.given hd).trans (h'.given hd)⟩
  stable name w w' vm h hmoved :=
    ⟨h.configured, fun v hv => (hmoved.handed.advanced v.bdf).vfio (h.recorded v hv),
      fun hstate => (h.devices hstate).handed hmoved.handed⟩
  new cfg name vmCfg vm w hcfg hconf hmade := by
    obtain ⟨cpus, rfl⟩ := exists_layout_of_new hmade
    refine ⟨⟨cfg, hcfg, hconf⟩, fun v hv => absurd hv List.not_mem_nil, fun hstate => ?_⟩
    exact absurd hstate (by decide : ¬ VmState.Init.AfterStaging)
  wanted name w vm desired h := ⟨h.configured, h.recorded, h.devices⟩
  sent name w vm h := by
    refine ⟨?_, ?_, ?_⟩
    · rw [markSent_sm]
      exact h.configured
    · rw [markSent_sm]
      exact h.recorded
    · rw [markSent_sm]
      exact h.devices
  visit env name w vm henv h := by
    obtain ⟨env, rfl⟩ := henv
    obtain ⟨hcfg, hrecorded, hmoved, hgiven⟩ := @visit_drivers _ entries env _ _ h.recorded
    obtain ⟨cfg, hroot, hconf⟩ := h.configured
    refine ⟨⟨?_, hrecorded, ?_⟩, hmoved.mono fun bdf hbdf => ⟨cfg, name, _, hroot, hconf, hbdf⟩,
      fun hdistinct => hgiven (hdistinct cfg hroot ⟨name, _⟩ (AList.mem_lookup_iff.mp hconf))⟩
    · rw [hcfg]
      exact h.configured
    · rw [hcfg]
      exact devices_of_visit h.recorded h.devices

/-- The operations of a run on the host with the functions. -/
def DaemonOp.onPci (entries : List PciEntry) : DaemonOp V → DaemonOp (PciWorld V)
  | .Command line => .Command line
  | .Tick tick env => .Tick tick (env.withPci entries)

lemma within_onPci (entries : List PciEntry) (ops : List (DaemonOp V)) :
    ∀ op ∈ ops.map (DaemonOp.onPci entries), op.Within (OnPci entries) := by
  rintro _ hop
  obtain ⟨op, -, rfl⟩ := List.mem_map.mp hop
  cases op with
  | Command line => trivial
  | Tick tick env => exact ⟨env, rfl⟩

/-- The daemon and the host after a run. -/
def runPci (entries : List PciEntry) (s : DaemonState × PciWorld V) (ops : List (DaemonOp V)) :
    DaemonState × PciWorld V :=
  run DaemonState.apply s (ops.map (DaemonOp.onPci entries))

section

variable {entries : List PciEntry} {rootCfg : Option RootConfig} {global : List IpcEvent}
  {perVm : List IpcVmEvents} {w : PciWorld V}

lemma rootCfg_runPci (s : DaemonState × PciWorld V) (ops : List (DaemonOp V)) :
    (runPci entries s ops).1.rootCfg = s.1.rootCfg := by
  refine run_invariant (I := fun t : DaemonState × PciWorld V => t.1.rootCfg = s.1.rootCfg)
    (fun t op ht => ?_) rfl _
  cases op with
  | Command line => exact (t.1.rootCfg_handleShellCommand line).trans ht
  | Tick tick env =>
      rw [apply_tick]
      exact rootCfg_tick.trans ht

lemma everyone_new : (daemonParties (PciWorld V)).Everyone (ReliesOnDrivers entries rootCfg)
    (DaemonState.new rootCfg global perVm, w) := by
  intro name vm hvm
  cases hvm

/-- What the VMs rely on holds after a run, and in every run that continues it. -/
lemma keepsDrivers_runPci (ops ops' : List (DaemonOp V)) :
    let s := runPci entries (DaemonState.new rootCfg global perVm, w) ops
    let s' := runPci entries s ops'
    (daemonParties (PciWorld V)).Everyone (ReliesOnDrivers entries rootCfg) s ∧
      KeepsDrivers rootCfg w.bindings s.2.bindings ∧
        KeepsDrivers rootCfg s.2.bindings s'.2.bindings := by
  intro s s'
  obtain ⟨hall, hkeeps⟩ := (cooperative_drivers entries rootCfg).run rfl
    (@everyone_new V entries rootCfg global perVm w) (within_onPci entries ops)
  exact ⟨hall, hkeeps, ((cooperative_drivers entries rootCfg).run (rootCfg_runPci _ ops) hall
    (within_onPci entries ops')).2⟩

end

/-- **Drivers move one way.**  In every run of the daemon, with any number of VMs that may be
configured with the same devices: from any point of the run to any later one, each function keeps
its driver, loses a driver of the host or is given to vfio-pci, from where it never comes back; and
the functions that no VM is configured with keep the driver they had at the start. -/
theorem drivers_advance (entries : List PciEntry) (rootCfg : Option RootConfig)
    (global : List IpcEvent) (perVm : List IpcVmEvents) (w : PciWorld V)
    (ops ops' : List (DaemonOp V)) (bdf : String) :
    let s := runPci entries (DaemonState.new rootCfg global perVm, w) ops
    let s' := runPci entries s ops'
    Advanced (s.2.bindings bdf) (s'.2.bindings bdf) ∧
      (RootConfigures rootCfg bdf ∨ s'.2.bindings bdf = w.bindings bdf) := by
  intro s s'
  obtain ⟨-, hbefore, hafter⟩ := @keepsDrivers_runPci V entries rootCfg global perVm w ops ops'
  refine ⟨hafter.handed.advanced bdf, ?_⟩
  by_cases hmine : RootConfigures rootCfg bdf
  · exact .inl hmine
  · exact .inr ((hafter.handed.frame bdf hmine).trans (hbefore.handed.frame bdf hmine))

/-- **The devices of a VM** that the host has are bound to vfio-pci from the end of PreparePci until
the shutdown begins, and in whatever follows, whichever other VMs are configured with them. -/
theorem staged_devices_stay (entries : List PciEntry) (rootCfg : Option RootConfig)
    (global : List IpcEvent) (perVm : List IpcVmEvents) (w : PciWorld V)
    (ops ops' : List (DaemonOp V)) (name : String) (vm : DaemonVm)
    (hvm : (runPci entries (DaemonState.new rootCfg global perVm, w) ops).1.vms.lookup name =
      some vm)
    (hstate : vm.sm.state.AfterStaging) :
    DevicesVfio entries (runPci entries (runPci entries (DaemonState.new rootCfg global perVm, w)
      ops) ops').2.bindings vm.sm.rt.cfg := by
  obtain ⟨hall, -, hafter⟩ := @keepsDrivers_runPci V entries rootCfg global perVm w ops ops'
  exact ((hall name vm hvm).devices hstate).handed hafter.handed

/-- **A teardown gives nothing back.**  In every state that a run reaches, the restore of any VM
leaves the driver of every function as it is. -/
theorem restore_gives_nothing_back (entries : List PciEntry) (rootCfg : Option RootConfig)
    (global : List IpcEvent) (perVm : List IpcVmEvents) (w : PciWorld V) (ops : List (DaemonOp V))
    (name : String) (vm : DaemonVm)
    (hvm : (runPci entries (DaemonState.new rootCfg global perVm, w) ops).1.vms.lookup name =
      some vm) :
    restorePciDevicesForVm (linuxSysfs entries) vm.sm.rt
        (runPci entries (DaemonState.new rootCfg global perVm, w) ops).2.bindings =
      .ok () (runPci entries (DaemonState.new rootCfg global perVm, w) ops).2.bindings := by
  obtain ⟨hall, -, -⟩ := @keepsDrivers_runPci V entries rootCfg global perVm w ops []
  exact restore_eq_self (hall name vm hvm).recorded

/-- **No function is left without a driver**, in any run, if no VM has a device twice: each has the
driver that it had at the start, or vfio-pci. -/
theorem none_left_unbound (entries : List PciEntry) (rootCfg : Option RootConfig)
    (global : List IpcEvent) (perVm : List IpcVmEvents) (w : PciWorld V) (ops : List (DaemonOp V))
    (hdistinct : RootDistinct rootCfg) :
    Given w.bindings
      (runPci entries (DaemonState.new rootCfg global perVm, w) ops).2.bindings := by
  obtain ⟨-, hbefore, -⟩ := @keepsDrivers_runPci V entries rootCfg global perVm w ops []
  exact hbefore.given hdistinct

/-! ## A VM with an NVMe controller -/

def storageRoot : Option RootConfig := some ⟨AList.singleton "a" storageRuntime.cfg⟩

def storagePci : PciWorld Unit := ⟨storageBindings, ()⟩

/-- The VM is started and staged. -/
def stageOps : List (DaemonOp Unit) :=
  .Command "vm start a" :: List.replicate 4 (.Tick 1 (idleEnv Unit))

/-- The VM is stopped and shut down. -/
def stopOps : List (DaemonOp Unit) :=
  .Command "vm stop a" :: List.replicate 3 (.Tick 1 (idleEnv Unit))

lemma isSome_stagedVm : ((runPci storageHost (DaemonState.new storageRoot [] [], storagePci)
    stageOps).1.vms.lookup "a").isSome = true := by
  decide +kernel

/-- The VM once it is staged. -/
def stagedVm : DaemonVm :=
  ((runPci storageHost (DaemonState.new storageRoot [] [], storagePci)
    stageOps).1.vms.lookup "a").get isSome_stagedVm

lemma lookup_stagedVm : (runPci storageHost (DaemonState.new storageRoot [] [], storagePci)
    stageOps).1.vms.lookup "a" = some stagedVm := by
  rw [stagedVm, Option.some_get]

lemma afterStaging_stagedVm : stagedVm.sm.state.AfterStaging := by
  decide +kernel

theorem staged_devices_stay_storage :
    DevicesVfio storageHost (runPci storageHost (runPci storageHost
      (DaemonState.new storageRoot [] [], storagePci) stageOps) stopOps).2.bindings
        stagedVm.sm.rt.cfg :=
  staged_devices_stay storageHost storageRoot [] [] storagePci stageOps stopOps "a"
    stagedVm lookup_stagedVm afterStaging_stagedVm

theorem restore_gives_nothing_back_storage :
    restorePciDevicesForVm (linuxSysfs storageHost) stagedVm.sm.rt (runPci storageHost
        (DaemonState.new storageRoot [] [], storagePci) stageOps).2.bindings =
      .ok () (runPci storageHost (DaemonState.new storageRoot [] [], storagePci)
        stageOps).2.bindings :=
  restore_gives_nothing_back storageHost storageRoot [] [] storagePci stageOps "a" stagedVm
    lookup_stagedVm

theorem none_left_unbound_storage :
    Given storageBindings (runPci storageHost (DaemonState.new storageRoot [] [], storagePci)
      (stageOps ++ stopOps)).2.bindings := by
  refine none_left_unbound storageHost storageRoot [] [] storagePci (stageOps ++ stopOps) ?_
  intro cfg hcfg entry hentry
  obtain rfl := Option.some.inj hcfg
  obtain rfl := List.mem_singleton.mp hentry
  show storageRuntime.cfg.DistinctDevices
  decide

end Chalybs
