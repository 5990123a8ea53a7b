import Chalybs.Daemon.Startup
import Chalybs.Daemon.Visible
import Chalybs.Vfio.Sharing

/-!
# VMs that are refused

A call of a bring-up phase that fails for a VM whatever the host is like keeps the VM from ever
leaving the phase, except towards the shutdown.  The checks behind the startup events are such
calls: what is reported as an error when the daemon starts is not something that a VM gets around
later.

* `Host.Refuses`, `VmState.Past` — a call that always fails, the states that it keeps away.
* `visit_not_past`, `refused_stay` — a visit, and every run.
* `Host.withPolicy` — the host on which Validate applies the GPU policy and PreparePci stages.
* `refused_never_runs` — the startup events and the runs.
-/

namespace Chalybs

open Foundation

/-! ## Calls that always fail -/

/-- The call fails for every VM that `R` holds of, by its name and its configuration. -/
def Host.Refuses {W : Type} (h : Host W) (c : Callee) (R : String → VmConfig → Prop) : Prop :=
  ∀ rt, R rt.name rt.cfg → ∀ t, Ends (h.call c rt) t (fun _ _ => False) fun _ _ => True

/-- The bring-up has gone past the phase, and the shutdown has not begun. -/
def VmState.Past (p state : VmState) : Prop :=
  p.rank < state.rank ∧ state.rank ≤ VmState.Steady.rank

instance (p state : VmState) : Decidable (p.Past state) := inferInstanceAs (Decidable (_ ∧ _))

/-- Only the work of the phase leads past it. -/
lemma phase_of_past {op : Op} {p state state' : VmState} (h : op.next state = some state')
    (hafter : p.Past state') (hbefore : ¬ p.Past state) : op = .Step ∧ state = p := by
  obtain ⟨hlow, hhigh⟩ := hafter
  have hnot : state.rank ≤ VmState.Steady.rank → state.rank ≤ p.rank := by
    intro hle
    by_contra hlt
    exact hbefore ⟨Nat.lt_of_not_le hlt, hle⟩
  cases op with
  | Step =>
      rcases next_step h with ⟨rfl, rfl⟩ | ⟨hup, hrank⟩
      · exact absurd ⟨hlow, hhigh⟩ hbefore
      · have hle := hnot (le_of_lt hup)
        exact ⟨rfl, VmState.rank_inj (by omega)⟩
  | StepShutdown =>
      have hshutdown : VmState.Steady.rank < state'.rank := by
        rcases next_stepShutdown h with ⟨-, rfl⟩ | ⟨hpath, -⟩
        · decide
        · have hle : state.rank ≤ state'.rank := rank_le_of_next h
          have hlt : VmState.Steady.rank < state.rank := hpath
          omega
      omega

section

variable {W : Type} {h : Host W} {c : Callee} {R : String → VmConfig → Prop}

/-- A VM that `R` holds of. -/
def OfVm (R : String → VmConfig → Prop) (rt : VmRuntime) (_ : W) : Prop := R rt.name rt.cfg

lemma framed_ofVm : Framed (OfVm R : VmRuntime → W → Prop) :=
  ⟨⟨fun _ _ _ _ h => h, fun _ _ h => h, fun _ _ _ h => h⟩, fun _ _ h => h⟩

lemma name_store (c : Callee) (rt : VmRuntime) (part : c.Owned) :
    (c.store rt part).name = rt.name := by
  cases c <;> rfl

lemma ofVm_invoke (c : Callee) : Preserves (OnRuntime (OfVm R)) (h.invoke c) := by
  intro t ht
  rw [ends_invoke]
  refine ends_of_forall (fun _ u => ?_) fun _ u => ?_
  · simpa only [OnRuntime, OfVm, name_store, cfg_store] using ht
  · simpa only [OnRuntime, OfVm, name_store, cfg_store] using ht

/-- The computation fails for every VM that `R` holds of. -/
def Fails {α : Type} (R : String → VmConfig → Prop) (x : MachineM W α) : Prop :=
  ∀ t, OnRuntime (OfVm R) t → Ends x t (fun _ _ => False) fun _ _ => True

lemma Fails.bind {α β : Type} {x : MachineM W α} {f : α → MachineM W β} (hx : Fails R x) :
    Fails R (x >>= f) := by
  intro t ht
  rw [ends_bind]
  exact (hx t ht).mono (fun _ _ hfalse => hfalse.elim) fun _ _ _ => trivial

lemma Fails.after {α β : Type} {x : MachineM W α} {f : α → MachineM W β}
    (hx : Preserves (OnRuntime (OfVm R)) x) (hf : ∀ a, Fails R (f a)) : Fails R (x >>= f) := by
  intro t ht
  rw [ends_bind]
  exact (hx t ht).mono (fun a t' ht' => hf a t' ht') fun _ _ _ => trivial

lemma fails_invoke (href : h.Refuses c R) : Fails R (h.invoke c) := by
  intro t ht
  rw [ends_invoke]
  exact href t.1.rt ht (c.owned t.1.rt, t.2)

/-- **A phase fails if one of its calls always does.** -/
lemma fails_bringUp {p : VmState} (hphase : c.phase = some p) (href : h.Refuses c R) :
    Fails R (h.bringUp p) := by
  revert hphase
  cases c <;> intro hphase <;> cases hphase <;>
  repeat' first
    | exact (fails_invoke href).bind
    | refine Fails.after ?_ fun _ => ?_
    | exact preserves_modifyRt fun rt w hrt => framed_ofVm.push rt w _ _ hrt
    | exact ofVm_invoke _

/-! ## Visits and runs -/

variable {env : TickEnv W} {vm : DaemonVm} {w : W} {p : VmState}

/-- A visit that leads past a phase performs its work. -/
lemma phase_of_visit (hafter : p.Past (vm.advance env w).1.sm.state)
    (hbefore : ¬ p.Past vm.sm.state) : vm.sm.state = p ∧ vm.desired.WantsUp := by
  have hdrives : ∀ {state state' : VmState} {desired desired' : IpcVmState},
      Drives state desired state' desired' → p.Past state' → ¬ p.Past state →
        state = p ∧ desired.WantsUp := by
    rintro state state' desired desired' (- | ⟨hdue, hnext⟩ | -) hafter hbefore
    · exact absurd hafter hbefore
    · obtain ⟨rfl, hstate⟩ := phase_of_past hnext hafter hbefore
      exact ⟨hstate, (step_due hdue).mp rfl⟩
    · exact absurd hafter hbefore
  rcases advance_drives env vm w with hd | ⟨hsteady, hd⟩
  · exact hdrives hd hafter hbefore
  · rw [hsteady] at hbefore
    obtain ⟨-, hup⟩ := hdrives hd hafter hbefore
    exact absurd hup (by decide)

/-- **A visit does not lead past a phase whose call is refused.** -/
lemma visit_not_past (hphase : c.phase = some p) (href : env.host.Refuses c R)
    (hR : R vm.sm.rt.name vm.sm.rt.cfg) (hbefore : ¬ p.Past vm.sm.state) :
    ¬ p.Past (vm.advance env w).1.sm.state := by
  intro hafter
  obtain ⟨hstate, hup⟩ := phase_of_visit hafter hbefore
  have hbringUp : p.IsBringUp := by
    revert hphase
    cases c <;> intro hphase <;> cases hphase <;> decide
  have hsteady : vm.sm.state ≠ .Steady := by
    rw [hstate]
    rintro rfl
    exact absurd hbringUp (by decide)
  have hdue := due_step_iff.mpr ⟨hup, hstate ▸ hbringUp⟩
  have hends := Ends.advance env (P := fun _ => False) (Q := fun _ => True) hsteady hdue
    (hstate ▸ fails_bringUp hphase href (vm.sm, w) hR)
  rcases hends with hfalse | ⟨rt, m, -, hsm⟩
  · exact hfalse
  · have hsame : (vm.advance env w).1.sm.state = vm.sm.state := by rw [hsm]
    rw [hsame] at hafter
    exact hbefore hafter

/-- A visit leaves a VM its name and its configuration. -/
lemma ofVm_visit (hR : R vm.sm.rt.name vm.sm.rt.cfg) :
    R (vm.advance env w).1.sm.rt.name (vm.advance env w).1.sm.rt.cfg :=
  framed_ofVm.toFramedBut.tick (P := OfVm R) (fun _ _ h => h) (fun c _ => ofVm_invoke c)
    (fun _ _ => framed_ofVm.pinnedIrqs) hR

/-- What holds of a VM where the call `c` refuses those that `R c` holds of: it has its name and its
configuration, from which it could be made, and it has not gone past a phase in which it is
refused. -/
structure HeldBack (root : Option RootConfig) (R : Callee → String → VmConfig → Prop)
    (name : String) (vm : DaemonVm) : Prop where
  named : vm.sm.rt.name = name
  configured : ∃ cfg, root = some cfg ∧ cfg.vm.lookup name = some vm.sm.rt.cfg
  made : vm.sm.rt.cfg.CpuListsRead
  stays : ∀ c p, c.phase = some p → R c name vm.sm.rt.cfg → ¬ p.Past vm.sm.state

lemma heldBack_advance {root : Option RootConfig} {R : Callee → String → VmConfig → Prop}
    {name : String} (href : ∀ c, env.host.Refuses c (R c)) (h : HeldBack root R name vm) :
    HeldBack root R name (vm.advance env w).1 := by
  obtain ⟨hname, hcfg⟩ := @ofVm_visit _ (fun name cfg => name = vm.sm.rt.name ∧
    cfg = vm.sm.rt.cfg) env vm w ⟨rfl, rfl⟩
  refine ⟨hname.trans h.named, hcfg ▸ h.configured, hcfg ▸ h.made, fun c p hphase hR => ?_⟩
  rw [hcfg] at hR
  exact visit_not_past hphase (href c) (by rwa [h.named]) (h.stays c p hphase hR)

/-- The VMs do not get in each other's way, since refusing does not depend on the host. -/
lemma cooperative_heldBack (W : Type) (root : Option RootConfig)
    (R : Callee → String → VmConfig → Prop) :
    Cooperative root (fun env : TickEnv W => ∀ c, env.host.Refuses c (R c))
      (fun name _ vm => HeldBack root R name vm) fun _ _ => True where
  refl _ := trivial
  trans _ _ _ _ _ := trivial
  stable _ _ _ _ h _ := h
  new cfg name vmCfg vm w hcfg hconf hmade := by
    have hread := exists_new_iff.mp ⟨vm, hmade⟩
    obtain ⟨cpus, rfl⟩ := exists_layout_of_new hmade
    exact ⟨rfl, ⟨cfg, hcfg, hconf⟩, hread,
      fun c p _ _ hpast => absurd hpast.1 (Nat.not_lt_zero _)⟩
  wanted _ _ _ _ h := ⟨h.named, h.configured, h.made, h.stays⟩
  sent name _ vm h := by
    have hsm := markSent_sm vm
    exact ⟨hsm ▸ h.named, hsm ▸ h.configured, hsm ▸ h.made, hsm ▸ h.stays⟩
  visit env name w vm henv h := ⟨heldBack_advance henv h, trivial⟩

/-- **Every run.**  Where a call refuses a VM on every host of the run, the VM never goes past the
phase of the call. -/
theorem refused_stay (root : Option RootConfig) (global : List IpcEvent)
    (perVm : List IpcVmEvents) (R : Callee → String → VmConfig → Prop) (w : W)
    {ops : List (DaemonOp W)}
    (hops : ∀ op ∈ ops, op.Within fun env => ∀ c, env.host.Refuses c (R c)) :
    (daemonParties W).Everyone (fun name _ vm => HeldBack root R name vm)
      (run DaemonState.apply (DaemonState.new root global perVm, w) ops) :=
  ((cooperative_heldBack W root R).run rfl (fun name vm hvm => by cases hvm) hops).1

end

/-! ## The checks of the startup -/

section

variable {V : Type} {entries : List PciEntry} {b b' : Bindings} {name : String} {cfg : VmConfig}

/-- The host on which Validate applies the GPU policy, and PreparePci and the Shutdown step act on
the drivers. -/
def Host.withPolicy (h : Host V) (entries : List PciEntry) : Host (PciWorld V) where
  call
    | .PreflightGpuPolicy, rt => do
        let t ← get
        fromExcept (preflightGpuPolicy (scan ((linuxSysfs entries).devices t.2.bindings)) rt.name
          rt.cfg)
    | c, rt => (h.withPci entries).call c rt
  detectCpuIdentity w := h.detectCpuIdentity w.rest
  numaTopology w := h.numaTopology w.rest

/-- The operations of a run on the host with the policy. -/
def DaemonOp.withPolicy (entries : List PciEntry) : DaemonOp V → DaemonOp (PciWorld V)
  | .Command line => .Command line
  | .Tick tick env => .Tick tick { env.withPci entries with host := env.host.withPolicy entries }

/-- The VM is refused by the call, on a host with the functions `entries`. -/
def RefusedBy (entries : List PciEntry) (b : Bindings) : Callee → String → VmConfig → Prop
  | .PreflightGpuPolicy, name, cfg =>
      preflightGpuPolicy (.ok (linuxInventory entries b)) name cfg ≠ .ok ()
  | .StagePci, _, cfg => ¬ (linuxInventory entries b).RequiredPresent cfg.configured
  | _, _, _ => False

/-- Which functions there are does not depend on the drivers. -/
lemma requiredPresent_linuxInventory (b b' : Bindings) {devs : List PciDeviceConfig} :
    (linuxInventory entries b).RequiredPresent devs ↔
      (linuxInventory entries b').RequiredPresent devs := by
  have hfunctions : ∀ (s : Bindings) (bdf : String),
      (∃ f ∈ (linuxInventory entries s).functions, f.bdf = bdf) ↔
        ∃ f ∈ readableFunctions entries, f.bdf = bdf := by
    intro s bdf
    simp only [linuxInventory, List.mem_map, exists_exists_and_eq_and, PciFunction.boundBy]
  simp only [PciInventory.RequiredPresent, hfunctions]

lemma countDisplayControllers_linuxInventory (b b' : Bindings) :
    (linuxInventory entries b).countDisplayControllers =
      (linuxInventory entries b').countDisplayControllers := by
  have hclass : ∀ s : Bindings,
      PciFunction.isDisplayController ∘ PciFunction.boundBy s = PciFunction.isDisplayController :=
    fun _ => rfl
  simp only [PciInventory.countDisplayControllers, linuxInventory, List.countP_map, hclass]

lemma preflight_linuxInventory (b b' : Bindings) :
    preflightGpuPolicy (.ok (linuxInventory entries b)) name cfg = .ok () ↔
      preflightGpuPolicy (.ok (linuxInventory entries b')) name cfg = .ok () := by
  simp only [preflightGpuPolicy_eq_ok, PciInventory.AllowsGpus,
    countDisplayControllers_linuxInventory b b']

/-- **The two calls refuse these VMs**, whatever drivers are bound by then. -/
lemma refuses_withPolicy (h : Host V) (c : Callee) :
    (h.withPolicy entries).Refuses c (RefusedBy entries b c) := by
  intro rt hR t
  cases c with
  | PreflightGpuPolicy =>
      show Ends (get >>= fun t => fromExcept (preflightGpuPolicy
        (scan ((linuxSysfs entries).devices t.2.bindings)) rt.name rt.cfg)) t _ _
      rw [ends_bind, ends_get, ends_fromExcept, scan_linuxSysfs]
      cases hpolicy : preflightGpuPolicy (.ok (linuxInventory entries t.2.bindings)) rt.name
          rt.cfg with
      | ok _ => exact hR ((preflight_linuxInventory _ b).mp hpolicy)
      | error e => trivial
  | StagePci =>
      refine ends_zoom.mpr (ends_of_eq (fun _ t' hok => ?_) fun _ _ _ => trivial)
      obtain ⟨inv, plan, -, hscan, -, hplan, -⟩ := stage_eq_ok.mp hok
      rw [scan_linuxSysfs] at hscan
      obtain rfl := Except.ok.inj hscan
      obtain ⟨hplannable, -⟩ := buildPlanForVm_eq_ok.mp hplan
      exact hR ((requiredPresent_linuxInventory _ b).mp
        (requiredPresent_configured.mpr hplannable.requiredPresent))
  | _ => exact hR.elim

/-- The ticks of a run on the host with the policy. -/
lemma within_withPolicy (b : Bindings) (ops : List (DaemonOp V)) :
    ∀ op ∈ ops.map (DaemonOp.withPolicy entries),
      op.Within fun env => ∀ c, env.host.Refuses c (RefusedBy entries b c) := by
  rintro _ hop
  obtain ⟨op, -, rfl⟩ := List.mem_map.mp hop
  cases op with
  | Command line => trivial
  | Tick tick env => exact fun c => refuses_withPolicy env.host c

/-- `DaemonState::new` on the host, where every scan finds the same functions. -/
def startOn (files : ConfigFiles) (entries : List PciEntry) (b : Bindings) : DaemonState :=
  startDaemon files (scan ((linuxSysfs entries).devices b))
    fun _ => scan ((linuxSysfs entries).devices b)

/-- The startup events of a VM are those of its configuration. -/
lemma introspected_of_mem {files : ConfigFiles} {reported : IpcVmEvents}
    (h : reported ∈ (startOn files entries b).startupEventsVm) :
    ∃ root cfg, (startOn files entries b).rootCfg = some root ∧
      root.vm.lookup reported.vmName = some cfg ∧
      reported.events = introspectVmFull (linuxInventory entries b)
        (.ok (linuxInventory entries b)) reported.vmName cfg := by
  simp only [startOn, startDaemon, scan_linuxSysfs, DaemonState.new] at h ⊢
  cases hroot : (loadRootConfig files).1 with
  | none =>
      rw [hroot] at h
      exact absurd h List.not_mem_nil
  | some root =>
      rw [hroot] at h
      obtain ⟨entry, hentry, hsome⟩ := List.mem_filterMap.mp h
      dsimp only at hsome
      split_ifs at hsome
      obtain rfl := Option.some.inj hsome
      exact ⟨root, entry.2, rfl, AList.mem_lookup_iff.mpr hentry, rfl⟩

lemma not_past_of_not_past {p q state : VmState} (hpq : p.rank ≤ q.rank) (h : ¬ p.Past state) :
    ¬ q.Past state := fun hpast => h ⟨lt_of_le_of_lt hpq hpast.1, hpast.2⟩

/-- A VM that is shown as running is in Steady. -/
lemma steady_of_view {d : DaemonState} (h : (d.lifeline name).view = .Running) :
    ∃ vm, d.vms.lookup name = some vm ∧ vm.sm.state = .Steady := by
  rw [DaemonState.lifeline] at h
  cases hvm : d.vms.lookup name with
  | none => simp [hvm, Lifeline.view] at h
  | some vm =>
      refine ⟨vm, rfl, ?_⟩
      rw [hvm] at h
      dsimp only at h
      rw [view_lifelineOf] at h
      revert h
      cases vm.sm.state <;> decide

/-- A VM with an error among its startup events does not get past PreparePci. -/
lemma not_past_of_error {root : Option RootConfig} {vm : DaemonVm}
    (hback : HeldBack root (RefusedBy entries b) name vm)
    (herror : ¬ NoErrors (introspectVmFull (linuxInventory entries b)
      (.ok (linuxInventory entries b)) name vm.sm.rt.cfg)) :
    ¬ VmState.PreparePci.Past vm.sm.state := by
  by_cases hpresent : (linuxInventory entries b).RequiredPresent vm.sm.rt.cfg.configured
  · by_cases hpolicy : preflightGpuPolicy (.ok (linuxInventory entries b)) name vm.sm.rt.cfg =
      .ok ()
    · exact absurd (noErrors_full.mpr ⟨hback.made, hpresent, hpolicy⟩) herror
    · exact not_past_of_not_past (by decide) (hback.stays .PreflightGpuPolicy _ rfl hpolicy)
  · exact hback.stays .StagePci _ rfl hpresent

end

/-- **What is reported as an error at the start stays one.**  If there is an error among the startup
events of a VM, then in every run that follows, on a host that keeps its PCI functions, the VM does
not get past PreparePci: no CPUs are reserved for it and no QEMU is launched, and no snapshot shows
it as running. -/
theorem refused_never_runs {V : Type} (files : ConfigFiles) (entries : List PciEntry)
    (w : PciWorld V) (ops : List (DaemonOp V)) (reported : IpcVmEvents)
    (hreported : reported ∈ (startOn files entries w.bindings).startupEventsVm)
    (herror : ¬ NoErrors reported.events) :
    let s₀ := (startOn files entries w.bindings, w)
    let ops' := ops.map (DaemonOp.withPolicy entries)
    (∀ vm, (run DaemonState.apply s₀ ops').1.vms.lookup reported.vmName = some vm →
        ¬ VmState.PreparePci.Past vm.sm.state) ∧
      IpcVmState.Running ∉ trace DaemonState.apply (shows reported.vmName) s₀ ops' := by
  intro s₀ ops'
  obtain ⟨root, cfg, hroot, hcfg, hevents⟩ := introspected_of_mem hreported
  have hops' := @within_withPolicy V entries w.bindings ops
  have hnot : ∀ opsW : List (DaemonOp (PciWorld V)), opsW <+: ops' →
      ∀ vm, (run DaemonState.apply s₀ opsW).1.vms.lookup reported.vmName = some vm →
        ¬ VmState.PreparePci.Past vm.sm.state := by
    intro opsW hprefix vm hvm
    have hback := refused_stay _ _ _ (RefusedBy entries w.bindings) w
      (fun op hop => hops' op <| hprefix.subset hop) reported.vmName vm hvm
    refine not_past_of_error hback ?_
    obtain ⟨root', hroot', hcfg'⟩ := hback.configured
    obtain rfl := Option.some.inj (hroot.symm.trans hroot')
    obtain rfl := Option.some.inj (hcfg.symm.trans hcfg')
    rwa [← hevents]
  refine ⟨hnot ops' (List.prefix_refl _), fun hrunning => ?_⟩
  obtain ⟨pre, op, post, hsplit, hshown⟩ := mem_trace.mp hrunning
  cases op with
  | Command line => exact absurd hshown List.not_mem_nil
  | Tick tick env =>
      have hmanaged : EveryVm (fun _ => True) (run DaemonState.apply s₀ pre).1 :=
        run_invariant (I := fun t : DaemonState × PciWorld V => EveryVm (fun _ => True) t.1)
          (fun t op ht => managed_configured ht op) (everyVm_new _ _ _) pre
      have hview := List.mem_singleton.mp hshown
      rw [shown_buildSnapshot hmanaged] at hview
      obtain ⟨vm, hvm, hsteady⟩ := steady_of_view hview.symm
      have hprefix : pre ++ [.Tick tick env] <+: ops' := ⟨post, by rw [hsplit]; simp⟩
      refine hnot _ hprefix vm ?_ ?_
      · rw [run_snoc, apply_tick]
        exact hvm
      · rw [hsteady]
        decide

/-- A VM that needs an NVMe controller that the host does not have. -/
def missingNvmeConfig : VmConfig :=
  minimalVmConfig { nvme := some [{ pciAddress := "0000:03:00.0" }] } {}

/-- The default file, with this VM. -/
def missingNvmeFiles : ConfigFiles where
  chalybsConfig := none
  isPresent _ := true
  readToString _ := .ok ""
  fromStr _ := .ok ⟨AList.singleton "a" missingNvmeConfig⟩

def missingNvmeReport : IpcVmEvents where
  vmName := "a"
  events := introspectVmFull (linuxInventory storageHost storageBindings)
    (.ok (linuxInventory storageHost storageBindings)) "a" missingNvmeConfig

theorem missing_nvme_never_runs :
    IpcVmState.Running ∉ trace DaemonState.apply (shows missingNvmeReport.vmName)
      (startOn missingNvmeFiles storageHost storageBindings, storagePci)
      (stageOps.map (DaemonOp.withPolicy storageHost)) :=
  (refused_never_runs missingNvmeFiles storageHost storagePci stageOps missingNvmeReport
    (by decide +kernel) (by decide +kernel)).2

end Chalybs
