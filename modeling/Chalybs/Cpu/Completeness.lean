import Chalybs.Cpu.Reserve
import Chalybs.Daemon.State
import Chalybs.Machine.Frame

/-!
# What the Validate phase says about the CPU layout

A CPU plan that is recorded has every CPU of the layout on a node, as far as the host shows nodes
with CPUs.  It says nothing about the number of the CPUs, and a layout may be empty, too short or
repeat a CPU; the phases that follow find out later.

* `LayoutServes` — what the later phases need.
* `LayoutFits` — the condition on the layout.
* `layoutServes_iff` — after a Validate phase that recorded a plan they are the same.
-/

namespace Chalybs

open Foundation

/-! ## What is needed and what is enough -/

/-- The later phases accept the layout: on the same sysfs, whatever the files do, `create_cpuset`
does not fail for the layout; `pin_vcpus` does not find it too short; and no two vCPUs are pinned to
one CPU. -/
structure LayoutServes (sys : NumaSysfs) (rt : VmRuntime) : Prop where
  cpusets : ∀ {V : Type} (fs : CpusetFs V), (∀ v, fs.numaSysfs v = sys) → ∀ t e t',
    createCpuset fs rt t = .error e t' → e ∉ layoutErrors
  enough : rt.checkVcpuCount = .ok ()
  distinct : ∀ i j cpu, i < rt.cfg.qemu.numVcpus.toNat → j < rt.cfg.qemu.numVcpus.toNat →
    rt.vcpuTarget i = some cpu → rt.vcpuTarget j = some cpu → i = j

/-- The condition: both lists of CPUs have a node, the one of the VM has a CPU for each vCPU, and
none of these twice. -/
structure LayoutFits (sys : NumaSysfs) (numVcpus : ℕ) (cpus : VmCpuLayout) : Prop where
  vm : sys.Locates cpus.vm.cpus
  host : sys.Locates cpus.host.cpus
  enough : numVcpus ≤ cpus.vm.cpus.length
  distinct : (cpus.vm.cpus.take numVcpus).Nodup

/-! ## The Validate phase -/

section

variable {W : Type} {h : Host W} {s t : VmStateMachine × W} {state : VmState}

/-- The runtime has the layout and the configuration, and no plan. -/
def Unplanned (cpus : VmCpuLayout) (cfg : VmConfig) (rt : VmRuntime) : Prop :=
  rt.cpus = cpus ∧ rt.cfg = cfg ∧ rt.cpuPlan = none

/-- The runtime has the layout and the configuration, and if it has a plan then that was validated
for them and a topology of the host. -/
def Planned (h : Host W) (cpus : VmCpuLayout) (cfg : VmConfig) (rt : VmRuntime) : Prop :=
  rt.cpus = cpus ∧ rt.cfg = cfg ∧ (rt.cpuPlan ≠ none → ∃ w plan,
    h.numaTopology w = .ok plan.topology ∧ plan.vmLayout = cpus ∧ validateCpuPlan plan = [])

lemma planned_planCpus {cpus : VmCpuLayout} {cfg : VmConfig} {rt : VmRuntime} (w : W)
    (hrt : Unplanned cpus cfg rt) : Planned h cpus cfg (h.planCpus w rt).1 := by
  obtain ⟨hcpus, hcfg, hnone⟩ := hrt
  rw [Host.planCpus]
  split
  next ident _ =>
    split
    next topology htopology =>
      dsimp only
      split_ifs with hfindings
      · exact ⟨hcpus, hcfg, fun _ => ⟨w, _, htopology, hcpus, List.isEmpty_iff.mp hfindings⟩⟩
      · exact ⟨hcpus, hcfg, fun h => absurd hnone h⟩
    · exact ⟨hcpus, hcfg, fun h => absurd hnone h⟩
  · exact ⟨hcpus, hcfg, fun h => absurd hnone h⟩

/-- From a runtime without a plan, the computation returns only with a validated one, if any. -/
def Plans (h : Host W) (cpus : VmCpuLayout) (cfg : VmConfig) (x : MachineM W Unit) : Prop :=
  ∀ s : VmStateMachine × W, Unplanned cpus cfg s.1.rt →
    Ends x s (fun _ t => Planned h cpus cfg t.1.rt) (fun _ _ => True)

section

variable {cpus : VmCpuLayout} {cfg : VmConfig} {x : MachineM W Unit}

lemma Plans.after_push {f : VmRuntime → VmRuntime} (hf : ∀ rt, Unplanned cpus cfg rt →
    Unplanned cpus cfg (f rt)) (hx : Plans h cpus cfg x) :
    Plans h cpus cfg (modifyRt f >>= fun _ => x) := by
  intro s hs
  rw [ends_bind]
  exact hx ({ s.1 with rt := f s.1.rt }, s.2) (hf _ hs)

lemma Plans.after_invoke {c : Callee} (hc : c ∈ Op.work .Step .Validate)
    (hx : Plans h cpus cfg x) : Plans h cpus cfg (h.invoke c >>= fun _ => x) := by
  intro s hs
  have hstore : ∀ part, c.store s.1.rt part = s.1.rt := by
    intro part
    revert hc part
    cases c <;> intro hc part <;> first | rfl | exact absurd hc (by decide)
  rw [ends_bind, Ends, Host.invoke]
  cases h.call c s.1.rt (c.owned s.1.rt, s.2) with
  | error e u => trivial
  | ok a u =>
      refine hx ({ s.1 with rt := c.store s.1.rt u.1 }, u.2) ?_
      rw [hstore]
      exact hs

lemma plans_checkCpuPlan {st : VmState} :
    Plans h cpus cfg (h.checkCpuPlan >>= fun _ => setState st) := by
  intro s hs
  have hplanned := planned_planCpus (h := h) s.2 hs
  rw [ends_bind, Ends, Host.checkCpuPlan]
  cases hplan : h.planCpus s.2 s.1.rt with
  | mk rt e =>
      rw [hplan] at hplanned
      cases e with
      | none => exact hplanned
      | some e => trivial

end

/-- **A Validate phase that recorded a plan** has validated it for the layout of the runtime and
the topology that it has read, and has left the layout and the configuration as they were. -/
lemma planned_of_step (hstate : s.1.state = .Validate) (hfresh : s.1.rt.cpuPlan = none)
    (hok : h.perform .Step s = .ok state t) : Planned h s.1.rt.cpus s.1.rt.cfg t.1.rt := by
  have harm : Plans h s.1.rt.cpus s.1.rt.cfg (h.bringUp .Validate) := by
    refine .after_push (fun _ h => h) (.after_invoke (by decide) ?_)
    refine .after_push (fun _ h => h) (.after_invoke (by decide) ?_)
    refine .after_push (fun _ h => h) (.after_invoke (by decide) ?_)
    exact .after_push (fun _ h => h) plans_checkCpuPlan
  have hends : Ends (h.perform .Step) s
      (fun _ t => Planned h s.1.rt.cpus s.1.rt.cfg t.1.rt) fun _ _ => True := by
    rw [ends_perform, hstate]
    exact harm s ⟨rfl, rfl, hfresh⟩
  rwa [Ends, hok] at hends

end

/-! ## The layout -/

section

variable {sys : NumaSysfs} {rt : VmRuntime}

/-- A host whose sysfs `discover_numa_topology` does not get through puts no condition on a list. -/
lemma locates_of_error {e : ChalybsError} (h : sys.discoverNumaTopology = .error e)
    (cpus : List ℕ) : sys.Locates cpus := by
  rw [NumaSysfs.Locates]
  split
  next topology nodes online _ hnodes honline =>
    rw [NumaSysfs.discoverNumaTopology, honline, hnodes] at h
    cases h
  · trivial

lemma checkVcpuCount_eq_ok :
    rt.checkVcpuCount = .ok () ↔ rt.cfg.qemu.numVcpus.toNat ≤ rt.cpus.vm.cpus.length := by
  simp [VmRuntime.checkVcpuCount]

lemma nodup_take_iff {list : List ℕ} {n : ℕ} :
    (list.take n).Nodup ↔
      ∀ i j x, i < n → j < n → list[i]? = some x → list[j]? = some x → i = j := by
  constructor
  · intro hnodup i j x hi hj hx hy
    have hlen : i < (list.take n).length := by
      have hlen := (List.getElem?_eq_some_iff.mp hx).1
      rw [List.length_take]
      omega
    refine (List.getElem?_inj hlen hnodup).mp ?_
    rw [List.getElem?_take_of_lt hi, List.getElem?_take_of_lt hj, hx, hy]
  · intro hinj
    rw [List.nodup_iff_getElem?_ne_getElem?]
    intro i j hij hj heq
    rw [List.length_take] at hj
    obtain ⟨x, hx⟩ : ∃ x, list[j]? = some x := ⟨_, List.getElem?_eq_getElem (by omega)⟩
    rw [List.getElem?_take_of_lt (by omega), List.getElem?_take_of_lt (by omega), hx] at heq
    exact absurd (hinj i j x (by omega) (by omega) heq hx) (by omega)

/-- The files of a host on which every operation on a file succeeds. -/
def workingFs (sys : NumaSysfs) : CpusetFs Unit where
  numaSysfs _ := sys
  createDirAll _ := pure ()
  write _ _ := pure ()

lemma createCpuset_workingFs {e : ChalybsError} (h : cpusetTexts sys rt.cpus = .error e) :
    createCpuset (workingFs sys) rt (none, ()) = .error e (none, ()) := by
  have htexts : cpusetTexts ((workingFs sys).numaSysfs ()) rt.cpus = .error e := h
  simp only [createCpuset, bind_eq_error]
  refine .inr ⟨(), (none, ()), rfl, .inr ⟨(), (none, ()), rfl, .inr ⟨_, _, rfl, .inl ?_⟩⟩⟩
  show fromExcept (cpusetTexts ((workingFs sys).numaSysfs ()) rt.cpus) (none, ()) = _
  rw [htexts]
  rfl

/-- `create_cpuset` accepts the layout exactly when both lists have CPUs on a node of the topology
that it finds. -/
lemma cpusets_iff :
    (∀ {V : Type} (fs : CpusetFs V), (∀ v, fs.numaSysfs v = sys) → ∀ t e t',
        createCpuset fs rt t = .error e t' → e ∉ layoutErrors) ↔
      ∀ topo, sys.discoverNumaTopology = .ok topo → rt.cpus.Meets topo := by
  constructor
  · intro haccepts topo htopo
    by_contra hmeets
    obtain ⟨e, he, herror⟩ := cpusetTexts_layout_error.mpr ⟨topo, htopo, hmeets⟩
    exact haccepts (workingFs sys) (fun _ => rfl) _ e _ (createCpuset_workingFs herror) he
  · intro hmeets V fs hsys t e t' herror he
    have hends := createCpuset_error fs rt t
    rw [Ends, herror] at hends
    rcases hends with hfile | ⟨v, htexts⟩
    · exact not_mem_layoutErrors hfile he
    · rw [hsys v] at htexts
      obtain ⟨topo, htopo, hnot⟩ := cpusetTexts_layout_error.mp ⟨e, he, htexts⟩
      exact hnot (hmeets topo htopo)

end

/-- **When the later phases accept the layout**, after a Validate phase that recorded a plan. -/
theorem layoutServes_iff {W : Type} {h : Host W} {sys : NumaSysfs} {s t : VmStateMachine × W}
    {state : VmState} (hsys : ∀ w, h.numaTopology w = sys.fromSysfs)
    (hstate : s.1.state = .Validate) (hfresh : s.1.rt.cpuPlan = none)
    (hok : h.perform .Step s = .ok state t) (hplan : t.1.rt.cpuPlan ≠ none) :
    LayoutServes sys t.1.rt ↔ LayoutFits sys t.1.rt.cfg.qemu.numVcpus.toNat t.1.rt.cpus := by
  obtain ⟨hcpus, -, hplanned⟩ := planned_of_step hstate hfresh hok
  obtain ⟨w, plan, htopology, hlayout, hvalid⟩ := hplanned hplan
  rw [hsys w] at htopology
  rw [← hcpus] at hlayout
  -- the plan was validated, so where there are nodes every CPU of the layout lies on one
  have hmeets : ∀ topo, sys.discoverNumaTopology = .ok topo →
      (t.1.rt.cpus.Meets topo ↔
        sys.Locates t.1.rt.cpus.vm.cpus ∧ sys.Locates t.1.rt.cpus.host.cpus) := by
    intro topo htopo
    refine and_congr (meets_iff htopology htopo fun hne cpu hcpu => ?_)
      (meets_iff htopology htopo fun hne cpu hcpu => ?_)
    · exact mem_topology_of_validateCpuPlan hvalid hne (.inr (hlayout ▸ hcpu))
    · exact mem_topology_of_validateCpuPlan hvalid hne (.inl (hlayout ▸ hcpu))
  have hcpusets : (∀ topo, sys.discoverNumaTopology = .ok topo → t.1.rt.cpus.Meets topo) ↔
      sys.Locates t.1.rt.cpus.vm.cpus ∧ sys.Locates t.1.rt.cpus.host.cpus := by
    cases htopo : sys.discoverNumaTopology with
    | error e => exact iff_of_true (by simp) ⟨locates_of_error htopo _, locates_of_error htopo _⟩
    | ok topo =>
        rw [← hmeets topo htopo]
        exact ⟨fun h => h topo rfl, fun h topo' heq => Except.ok.inj heq ▸ h⟩
  constructor
  · rintro ⟨haccepts, henough, hdistinct⟩
    obtain ⟨hvm, hhost⟩ := hcpusets.mp (cpusets_iff.mp haccepts)
    exact ⟨hvm, hhost, checkVcpuCount_eq_ok.mp henough, nodup_take_iff.mpr hdistinct⟩
  · rintro ⟨hvm, hhost, henough, hdistinct⟩
    exact ⟨cpusets_iff.mpr (hcpusets.mpr ⟨hvm, hhost⟩), checkVcpuCount_eq_ok.mpr henough,
      nodup_take_iff.mp hdistinct⟩

/-! ## A layout that Validate lets through -/

/-- A host with four CPUs on one node. -/
def fourCpus : NumaSysfs where
  online := .ok "0-3\n"
  nodeDir := some (.ok (AList.singleton 0 (some (.ok "0-3\n"))))

/-- The host of `idleHost` that detects its CPU and shows these files. -/
def planningHost (sys : NumaSysfs) : Host Unit where
  call _ _ := pure ()
  detectCpuIdentity _ := some ⟨.Amd, 0x19, 0x21, 0, some "AuthenticAMD", none⟩
  numaTopology _ := sys.fromSysfs

/-- The VM of the unit tests with another list of CPUs. -/
def vmWithCpus (vmCpus : String) : VmConfig :=
  { minimalVmConfig {} {} with cpu := { hostCpus := "0-3", vmCpus } }

/-- The machine after the Init phase of a VM with the layout. -/
def beforeValidate (vmCpus : String) (vm : List ℕ) : VmStateMachine × Unit :=
  advance (VmStateMachine.new (VmRuntime.new "a" (vmWithCpus vmCpus) ⟨⟨[0, 1, 2, 3]⟩, ⟨vm⟩⟩), ())
    (.Step, planningHost fourCpus)

/-- The machine after the Validate phase. -/
def afterValidate (vmCpus : String) (vm : List ℕ) : VmStateMachine × Unit :=
  advance (beforeValidate vmCpus vm) (.Step, planningHost fourCpus)

/-- A list of CPUs that is only a comma is accepted by the configuration, it is parsed to no CPU at
all, and a plan is recorded for it. -/
theorem validated_without_cpus :
    (⟨AList.singleton "a" (vmWithCpus ",")⟩ : RootConfig).validate = .ok () ∧
      parseCpuList "0-3" = .ok [0, 1, 2, 3] ∧ parseCpuList "," = .ok [] ∧
      (afterValidate "," []).1.state = .PrepareHugepages ∧
      (afterValidate "," []).1.rt.cpuPlan.isSome = true ∧
      ¬ LayoutServes fourCpus (afterValidate "," []).1.rt := by
  refine ⟨by decide, by decide, by decide, by decide, by decide, fun hserves => ?_⟩
  have herror : cpusetTexts fourCpus (afterValidate "," []).1.rt.cpus = .error vmCpusetEmpty := by
    decide
  refine hserves.cpusets (workingFs fourCpus) (fun _ => rfl) _ _ _
    (createCpuset_workingFs herror) ?_
  simp [layoutErrors]

theorem layoutServes_twoCpus : LayoutServes fourCpus (afterValidate "0-1" [0, 1]).1.rt := by
  have hok : outcome ((planningHost fourCpus).perform .Step) (beforeValidate "0-1" [0, 1]) =
      (true, afterValidate "0-1" [0, 1]) := Prod.ext (by decide) rfl
  obtain ⟨state, hok⟩ := outcome_eq_true.mp hok
  have htopology : fourCpus.fromSysfs = .ok ⟨[⟨0, [0, 1, 2, 3]⟩]⟩ := by decide
  have hnodes : fourCpus.readNodeDir = .ok [⟨0, [0, 1, 2, 3]⟩] := by decide
  have honline : fourCpus.onlineCpus = .ok [0, 1, 2, 3] := by decide
  refine (layoutServes_iff (fun _ => rfl) (by decide) (by decide) hok (by decide)).mpr ?_
  have hlayout : (afterValidate "0-1" [0, 1]).1.rt.cpus = ⟨⟨[0, 1, 2, 3]⟩, ⟨[0, 1]⟩⟩ := by decide
  rw [hlayout]
  exact ⟨by simp [NumaSysfs.Locates, htopology, hnodes, honline],
    by simp [NumaSysfs.Locates, htopology, hnodes, honline], by decide, by decide⟩

end Chalybs
