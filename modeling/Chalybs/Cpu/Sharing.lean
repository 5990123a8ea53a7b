import Chalybs.Cpu.Reserve
import Chalybs.Daemon.Run
import Mathlib.Logic.Function.Basic

/-!
# VMs that share a cpuset

`create_cpuset` makes the cgroup `vfio_vm` for whichever VM comes to ReserveCpus, and writes the
CPUs of this VM into it; `destroy_cpuset` does nothing.  The daemon drives several VMs, so the CPUs
of a running VM last until the next VM comes to ReserveCpus.

* `Host.withCpusets` — the host on which the two phases work on the files of the cgroups.
* `CpusetOp`, `applyCpusets` — the events of a run; `tick_eq_visits` says that ticks are among them.
* `CpusIsolated` — every VM with a cpuset finds its own CPUs in it.
* `KeepsCpus` — the event writes no other CPUs while a VM has a cpuset.
* `cpus_isolated_iff` — the VMs are isolated throughout a run exactly when all its events are such.
-/

namespace Chalybs

open Foundation

variable {V : Type}

/-! ## The system -/

/-- The texts of the files of the cgroups, and the rest of the host. -/
structure CpusetWorld (V : Type) where
  files : String → Option String
  rest : V

/-- What the operating system answers to `create_cpuset`. -/
structure CpusetCalls (V : Type) where
  numaSysfs : V → NumaSysfs
  createDirAll : String → EStateM String V Unit
  write : String → String → EStateM String V Unit

/-- The files: a write that succeeds replaces the text. -/
def CpusetCalls.fs (os : CpusetCalls V) : CpusetFs (CpusetWorld V) where
  numaSysfs w := os.numaSysfs w.rest
  createDirAll path := zoom (fun w => w.rest) (fun rest w => { w with rest })
    (os.createDirAll path)
  write path text := fun w =>
    match os.write path text w.rest with
    | .ok _ rest => .ok () { files := Function.update w.files path (some text), rest }
    | .error e rest => .error e { w with rest }

/-- The host on which the cpusets are made and left by the functions of Chalybs.  The other callees
are those of `h`. -/
def Host.withCpusets (h : Host V) (os : CpusetCalls V) : Host (CpusetWorld V) where
  call
    | .ReserveCpus, rt => createCpuset os.fs rt
    | .CleanupCpus, _ => pure ()
    | c, rt => zoom (fun t => (t.1, t.2.rest)) (fun u t => (u.1, { t.2 with rest := u.2 }))
        (h.call c rt)
  detectCpuIdentity w := h.detectCpuIdentity w.rest
  numaTopology w := h.numaTopology w.rest

/-- What a visit finds, on the host with the cpusets. -/
def TickEnv.withCpusets (env : TickEnv V) (os : CpusetCalls V) : TickEnv (CpusetWorld V) where
  host := env.host.withCpusets os
  tryWait q w := env.tryWait q w.rest
  threads pid w := env.threads pid w.rest

/-- What can happen next. -/
inductive CpusetOp (V : Type)
  /-- A client sends a command line. -/
  | Command (line : String)
  /-- The daemon comes to the VM of a name in a tick. -/
  | Visit (name : String) (env : TickEnv V) (os : CpusetCalls V)
  /-- The daemon sends the events at the end of a tick. -/
  | Send
  /-- The host changes, apart from the files of the cgroups. -/
  | Change (rest : V)

/-- The daemon and the host. -/
abbrev CpusetState (V : Type) := DaemonState × CpusetWorld V

/-- The state that an event leads to. -/
def applyCpusets (s : CpusetState V) : CpusetOp V → CpusetState V
  | .Command line => ((s.1.handleShellCommand line).1, s.2)
  | .Visit name env os => DaemonState.tickVm (env.withCpusets os) s name
  | .Send => ({ s.1 with vms := mapVms DaemonVm.markSent s.1.vms }, s.2)
  | .Change rest => (s.1, { s.2 with rest })

/-- The events of a tick. -/
def visitOps (names : List String) (env : TickEnv V) (os : CpusetCalls V) : List (CpusetOp V) :=
  names.map (.Visit · env os) ++ [.Send]

/-- **A tick of the daemon** is a visit to each VM. -/
theorem tick_eq_visits (env : TickEnv V) (os : CpusetCalls V) (s : CpusetState V) :
    DaemonState.tick (env.withCpusets os) s =
      run applyCpusets s (visitOps s.1.visited env os) :=
  tick_eq_run_steps applyCpusets (.Visit · env os) (fun _ _ => rfl) (fun _ => rfl) s

/-! ## Isolation -/

/-- The file with the CPUs of the VM. -/
def CgroupPaths.cpusFile (cg : CgroupPaths) : String := s!"{cg.vm}/cpuset.cpus"

/-- The cgroups that `create_cpuset` makes, for every VM. -/
def vfioCgroups : CgroupPaths := .ofRoot "/sys/fs/cgroup"

/-- The CPUs of the VM, as they are written. -/
def DaemonVm.cpusText (vm : DaemonVm) : String := formatCpuList vm.sm.rt.cpus.vm.cpus

/-- `create_cpuset` has succeeded for the VM, and it is not shut down yet. -/
def DaemonVm.HoldsCpuset (vm : DaemonVm) : Prop :=
  vm.sm.rt.cgroups.isSome ∧ vm.sm.state ≠ .Idle

/-- The next step of the VM is `create_cpuset`. -/
def DaemonVm.AtReserve (vm : DaemonVm) : Prop :=
  vm.sm.state = .ReserveCpus ∧ vm.desired.WantsUp

/-- Every VM with a cpuset finds its CPUs in the cgroup that it is placed in. -/
def CpusIsolated (s : CpusetState V) : Prop :=
  ∀ entry ∈ s.1.vms.entries, ∀ cg ∈ entry.2.sm.rt.cgroups, entry.2.sm.state ≠ .Idle →
    s.2.files cg.cpusFile = some entry.2.cpusText

/-- `create_cpuset` comes to write the CPUs of the VM, and the write succeeds. -/
def CpusetCalls.WritesCpus (os : CpusetCalls V) (cpus : VmCpuLayout) (v : V) : Prop :=
  ∃ v₁ v₂ v₃ texts, os.createDirAll vfioCgroups.vm v = .ok () v₁ ∧
    os.createDirAll vfioCgroups.host v₁ = .ok () v₂ ∧
      cpusetTexts (os.numaSysfs v₂) cpus = .ok texts ∧
        os.write vfioCgroups.cpusFile texts.vmCpus v₂ = .ok () v₃

/-- If the event makes `create_cpuset` write the CPUs of a VM, they are those of every other VM that
has a cpuset. -/
def KeepsCpus (s : CpusetState V) : CpusetOp V → Prop
  | .Visit name _ os => ∀ vm, s.1.vms.lookup name = some vm → vm.AtReserve →
      os.WritesCpus vm.sm.rt.cpus s.2.rest → ∀ other vm', s.1.vms.lookup other = some vm' →
        other ≠ name → vm'.HoldsCpuset → vm'.cpusText = vm.cpusText
  | .Command _ | .Send | .Change _ => True

instance (s : CpusetState V) : Decidable (CpusIsolated s) :=
  inferInstanceAs (Decidable (∀ _ ∈ _, _))

/-! ## What `create_cpuset` does to the files -/

section

variable {os : CpusetCalls V} {t : Option CgroupPaths × CpusetWorld V}

lemma ends_createDirAll {path : String} {Q : Unit → Option CgroupPaths × CpusetWorld V → Prop}
    {E : ChalybsError → Option CgroupPaths × CpusetWorld V → Prop} :
    Ends (onFs (os.fs.createDirAll path)) t Q E ↔
      Ends (os.createDirAll path) t.2.rest (fun _ rest => Q () (t.1, { t.2 with rest }))
        fun e rest => E (.Io e) (t.1, { t.2 with rest }) := by
  rw [onFs, ends_zoom]
  simp only [Ends, EStateM.adaptExcept, CpusetCalls.fs, zoom]
  cases os.createDirAll path t.2.rest with
  | ok a rest => exact Iff.rfl
  | error e rest => exact Iff.rfl

lemma ends_write {path text : String} {Q : Unit → Option CgroupPaths × CpusetWorld V → Prop}
    {E : ChalybsError → Option CgroupPaths × CpusetWorld V → Prop} :
    Ends (onFs (os.fs.write path text)) t Q E ↔
      Ends (os.write path text) t.2.rest
        (fun _ rest => Q () (t.1, { files := Function.update t.2.files path (some text), rest }))
        fun e rest => E (.Io e) (t.1, { t.2 with rest }) := by
  rw [onFs, ends_zoom]
  simp only [Ends, EStateM.adaptExcept, CpusetCalls.fs]
  cases os.write path text t.2.rest with
  | ok a rest => simp
  | error e rest => simp

/-- A write to another file leaves the CPUs alone. -/
lemma preserves_write {file path text : String} (hpath : file ≠ path)
    {cgroups : Option CgroupPaths} {cpus : Option String} :
    Preserves (fun t => t.1 = cgroups ∧ t.2.files file = cpus) (onFs (os.fs.write path text)) := by
  rintro t ⟨hcgroups, hcpus⟩
  rw [ends_write]
  refine ends_of_forall (fun _ rest => ⟨hcgroups, ?_⟩) fun _ rest => ⟨hcgroups, hcpus⟩
  rw [← hcpus]
  exact Function.update_of_ne hpath _ _

/-- The CPUs in the cgroup after `create_cpuset` came to write them, or did not. -/
def CpusetCalls.Wrote (os : CpusetCalls V) (cpus : VmCpuLayout) (w w' : CpusetWorld V) : Prop :=
  os.WritesCpus cpus w.rest ∧
      w'.files vfioCgroups.cpusFile = some (formatCpuList cpus.vm.cpus) ∨
    ¬ os.WritesCpus cpus w.rest ∧
      w'.files vfioCgroups.cpusFile = w.files vfioCgroups.cpusFile

/-- **What `create_cpuset` does** to the CPUs in the cgroup and to the runtime. -/
lemma ends_createCpuset (rt : VmRuntime) :
    Ends (createCpuset os.fs rt) t
      (fun _ u => os.WritesCpus rt.cpus t.2.rest ∧ os.Wrote rt.cpus t.2 u.2 ∧
        u.1 = some vfioCgroups)
      fun _ u => os.Wrote rt.cpus t.2 u.2 ∧ u.1 = t.1 := by
  by_cases hwrites : os.WritesCpus rt.cpus t.2.rest
  · obtain ⟨v₁, v₂, v₃, texts, hvm, hhost, htexts, hcpus⟩ := id hwrites
    have hfails : ∀ (e : ChalybsError) (u : Option CgroupPaths × CpusetWorld V), u.1 = t.1 ∧
        u.2.files vfioCgroups.cpusFile = some (formatCpuList rt.cpus.vm.cpus) →
          os.Wrote rt.cpus t.2 u.2 ∧ u.1 = t.1 := fun _ _ hu => ⟨.inl ⟨hwrites, hu.2⟩, hu.1⟩
    refine ends_bind.mpr (ends_createDirAll.mpr (ends_of_ok hvm ?_))
    refine ends_bind.mpr (ends_createDirAll.mpr (ends_of_ok hhost ?_))
    refine ends_bind.mpr (ends_get.mpr (ends_bind.mpr (ends_fromExcept.mpr ?_)))
    simp only [CpusetCalls.fs, htexts]
    refine ends_bind.mpr (ends_write.mpr (ends_of_ok hcpus ?_))
    -- the other writes are to other files
    refine (preserves_write (by decide)).ends_bind hfails (fun _ u₁ hu₁ => ?_) ⟨rfl, ?_⟩
    swap
    · rw [← (cpus_of_cpusetTexts htexts).1]
      exact Function.update_self vfioCgroups.cpusFile (some texts.vmCpus) t.2.files
    refine (preserves_write (by decide)).ends_bind hfails (fun _ u₂ hu₂ => ?_) hu₁
    refine (preserves_write (by decide)).ends_bind hfails (fun _ u₃ hu₃ => ?_) hu₂
    exact ⟨hwrites, .inl ⟨hwrites, hu₃.2⟩, rfl⟩
  · have hfails : ∀ v, os.Wrote rt.cpus t.2 { t.2 with rest := v } ∧ t.1 = t.1 :=
      fun _ => ⟨.inr ⟨hwrites, rfl⟩, rfl⟩
    refine ends_bind.mpr (ends_createDirAll.mpr
      (ends_of_eq (fun _ v₁ hvm => ?_) fun _ v _ => hfails v))
    refine ends_bind.mpr (ends_createDirAll.mpr
      (ends_of_eq (fun _ v₂ hhost => ?_) fun _ v _ => hfails v))
    refine ends_bind.mpr (ends_get.mpr (ends_bind.mpr (ends_fromExcept.mpr ?_)))
    cases htexts : cpusetTexts (os.numaSysfs v₂) rt.cpus with
    | error e =>
        simp only [CpusetCalls.fs, htexts]
        exact ⟨(hfails v₂).1, trivial⟩
    | ok texts =>
        simp only [CpusetCalls.fs, htexts]
        refine ends_bind.mpr (ends_write.mpr
          (ends_of_eq (fun _ v₃ hcpus => ?_) fun _ v _ => hfails v))
        exact absurd ⟨v₁, v₂, v₃, texts, hvm, hhost, htexts, hcpus⟩ hwrites

end

/-! ## What a visit does -/

section

variable {env : TickEnv V} {os : CpusetCalls V} {vm : DaemonVm} {w : CpusetWorld V}

/-- The CPUs of a VM, its cgroups, and the files. -/
def OnCpuset (cpus : VmCpuLayout) (cgroups : Option CgroupPaths) (files : String → Option String)
    (rt : VmRuntime) (w : CpusetWorld V) : Prop :=
  rt.cpus = cpus ∧ rt.cgroups = cgroups ∧ w.files = files

lemma framed_onCpuset {cpus : VmCpuLayout} {cgroups : Option CgroupPaths}
    {files : String → Option String} :
    Framed (OnCpuset cpus cgroups files : VmRuntime → CpusetWorld V → Prop) :=
  ⟨⟨fun _ _ _ _ h => h, fun _ _ h => h, fun _ _ _ h => h⟩, fun _ _ h => h⟩

/-- The other calls leave the CPUs, the cgroups and the files alone. -/
lemma onCpuset_invoke {h : Host V} {c : Callee} (hc : c ≠ .ReserveCpus) {cpus : VmCpuLayout}
    {cgroups : Option CgroupPaths} {files : String → Option String} :
    Preserves (OnRuntime (OnCpuset cpus cgroups files)) ((h.withCpusets os).invoke c) := by
  rintro t ⟨hcpus, hcgroups, hfiles⟩
  rw [ends_invoke]
  have hstore : ∀ part, (c.store t.1.rt part).cpus = cpus ∧
      (c.store t.1.rt part).cgroups = cgroups := by
    intro part
    rw [← hcpus, ← hcgroups]
    cases c <;> first | exact ⟨rfl, rfl⟩ | contradiction
  by_cases hclean : c = .CleanupCpus
  · subst hclean
    exact ⟨(hstore ()).1, (hstore ()).2, hfiles⟩
  · have hcall : (h.withCpusets os).call c t.1.rt = zoom (fun t => (t.1, t.2.rest))
        (fun u t => (u.1, { t.2 with rest := u.2 })) (h.call c t.1.rt) := by
      cases c <;> first | rfl | contradiction
    rw [hcall, ends_zoom]
    exact ends_of_forall (fun _ _ => ⟨(hstore _).1, (hstore _).2, hfiles⟩)
      fun _ _ => ⟨(hstore _).1, (hstore _).2, hfiles⟩

/-- **Most visits** leave the CPUs of the VM, its cgroups and the files alone. -/
lemma visit_leaves_cpusets (hvm : ¬ vm.AtReserve) :
    OnCpuset vm.sm.rt.cpus vm.sm.rt.cgroups w.files (vm.advance (env.withCpusets os) w).1.sm.rt
      (vm.advance (env.withCpusets os) w).2 := by
  refine framed_onCpuset.toFramedBut.tick (fun _ _ h => h) (fun c hc => onCpuset_invoke ?_)
    (fun _ _ => framed_onCpuset.pinnedIrqs) ⟨rfl, rfl, rfl⟩
  rintro rfl
  exact hvm (hc.phase rfl)

/-- **A visit to a VM at `create_cpuset`.** -/
lemma visit_reserve (hvm : vm.AtReserve) :
    let r := vm.advance (env.withCpusets os) w
    os.Wrote vm.sm.rt.cpus w r.2 ∧ r.1.sm.rt.cpus = vm.sm.rt.cpus ∧
      (os.WritesCpus vm.sm.rt.cpus w.rest ∧ r.1.sm.rt.cgroups = some vfioCgroups ∧
          r.1.sm.state = .LaunchQemu ∨
        r.1.sm.rt.cgroups = vm.sm.rt.cgroups) := by
  obtain ⟨hstate, hup⟩ := hvm
  have hdue := due_step_iff.mpr ⟨hup, (by rw [hstate]; decide : vm.sm.state.IsBringUp)⟩
  have hends := Ends.advance (env.withCpusets os) (w := w)
    (P := fun t => os.WritesCpus vm.sm.rt.cpus w.rest ∧ os.Wrote vm.sm.rt.cpus w t.2 ∧
      t.1.rt.cpus = vm.sm.rt.cpus ∧ t.1.rt.cgroups = some vfioCgroups ∧ t.1.state = .LaunchQemu)
    (Q := fun t => os.Wrote vm.sm.rt.cpus w t.2 ∧ t.1.rt.cpus = vm.sm.rt.cpus ∧
      t.1.rt.cgroups = vm.sm.rt.cgroups) (by rw [hstate]; decide) hdue ?_
  · rcases hends with ⟨hwrites, hwrote, hcpus, hcgroups, hlaunch⟩ | ⟨rt, m, hfailed, hsm⟩
    · exact ⟨hwrote, hcpus, .inl ⟨hwrites, hcgroups, hlaunch⟩⟩
    · simp only [hsm]
      exact ⟨hfailed.1, hfailed.2.1, .inr hfailed.2.2⟩
  · rw [hstate]
    show Ends (pushSystem "state=ReserveCpus" >>= fun _ =>
      (env.host.withCpusets os).invoke .ReserveCpus >>= fun _ => _) (vm.sm, w) _ _
    rw [ends_bind, ends_pushSystem, ends_bind, ends_invoke]
    refine Ends.mono (@ends_createCpuset V os (vm.sm.rt.cgroups, w) _) ?_ ?_
    · rintro _ u ⟨hwrites, hwrote, hcgroups⟩
      rw [ends_bind, ends_pushInfo]
      exact ⟨hwrites, hwrote, rfl, hcgroups, rfl⟩
    · rintro _ u ⟨hwrote, hcgroups⟩
      exact ⟨hwrote, rfl, hcgroups⟩

/-- **The CPUs of another VM** stay in the cgroup exactly when the visit writes no others. -/
lemma others_cpus_iff {text : String} (hw : w.files vfioCgroups.cpusFile = some text) :
    (vm.advance (env.withCpusets os) w).2.files vfioCgroups.cpusFile = some text ↔
      (vm.AtReserve → os.WritesCpus vm.sm.rt.cpus w.rest → text = vm.cpusText) := by
  by_cases hvm : vm.AtReserve
  · obtain ⟨⟨hwrites, hfile⟩ | ⟨hwrites, hfile⟩, -⟩ := @visit_reserve V env os vm w hvm
    · rw [hfile]
      exact ⟨fun h _ _ => (Option.some.inj h).symm, fun h => by rw [h hvm hwrites]; rfl⟩
    · rw [hfile]
      exact ⟨fun _ _ h => absurd h hwrites, fun _ => hw⟩
  · obtain ⟨-, -, hfiles⟩ := @visit_leaves_cpusets V env os vm w hvm
    rw [hfiles]
    exact ⟨fun _ h => absurd h hvm, fun _ => hw⟩

end

/-! ## Runs -/

/-- The cgroups of the VM, if `create_cpuset` has made them. -/
def DaemonVm.Placed (vm : DaemonVm) : Prop :=
  ∀ cg ∈ vm.sm.rt.cgroups, cg = vfioCgroups ∧ VmState.ReserveCpus.rank < vm.sm.state.rank

section

variable {vm : DaemonVm} {s : CpusetState V} {env : TickEnv V} {os : CpusetCalls V} {name : String}

lemma cgroups_of_new {vmCfg : VmConfig} (h : DaemonVm.new name vmCfg = .ok vm) :
    vm.sm.rt.cgroups = none := by
  obtain ⟨cpus, rfl⟩ := exists_layout_of_new h
  rfl

/-- A VM has no cgroups before `create_cpuset`. -/
lemma DaemonVm.Placed.cgroups_eq_none (h : vm.Placed) (hvm : vm.AtReserve) :
    vm.sm.rt.cgroups = none := by
  cases hcg : vm.sm.rt.cgroups with
  | none => rfl
  | some cg =>
      have hrank := (h cg hcg).2
      rw [hvm.1] at hrank
      exact absurd hrank (lt_irrefl _)

lemma DaemonVm.Placed.advance (h : vm.Placed) (w : CpusetWorld V) :
    (vm.advance (env.withCpusets os) w).1.Placed := by
  have hrank := rank_le_advance (env.withCpusets os) vm w
  intro cg hcg
  by_cases hvm : vm.AtReserve
  · obtain ⟨-, -, ⟨-, hcgroups, hlaunch⟩ | hcgroups⟩ := @visit_reserve V env os vm w hvm
    · rw [hcgroups] at hcg
      refine ⟨(Option.some.inj hcg).symm, ?_⟩
      rw [hlaunch]
      decide
    · rw [hcgroups, h.cgroups_eq_none hvm] at hcg
      cases hcg
  · obtain ⟨-, hcgroups, -⟩ := @visit_leaves_cpusets V env os vm w hvm
    rw [hcgroups] at hcg
    exact ⟨(h cg hcg).1, (h cg hcg).2.trans_le hrank⟩

/-- **Every event** leaves every VM placed. -/
lemma everyVm_placed (hs : EveryVm DaemonVm.Placed s.1) (op : CpusetOp V) :
    EveryVm DaemonVm.Placed (applyCpusets s op).1 := by
  cases op with
  | Command line =>
      simp only [applyCpusets]
      refine everyVm_command (s := s) (fun name vmCfg vm hnew cg hcg => ?_) (fun vm hvm => hvm) hs
        fun _ _ _ _ _ hvm => hvm
      have hnone : none = some cg := (cgroups_of_new hnew).symm.trans hcg
      cases hnone
  | Visit name env os => exact everyVm_tickVm (fun vm w hvm => hvm.advance w) hs name
  | Send =>
      refine everyVm_send (fun vm hvm => ?_) hs
      rw [DaemonVm.Placed, markSent_sm]
      exact hvm
  | Change rest => exact hs

/-- If the VM has a cpuset, the files have its CPUs in `vfio_vm`. -/
def DaemonVm.FindsCpus (files : String → Option String) (vm : DaemonVm) : Prop :=
  vm.HoldsCpuset → files vfioCgroups.cpusFile = some vm.cpusText

/-- Placed VMs are isolated if each that has a cpuset finds its CPUs in `vfio_vm`. -/
lemma isolated_iff (hs : EveryVm DaemonVm.Placed s.1) :
    CpusIsolated s ↔ EveryVm (DaemonVm.FindsCpus s.2.files) s.1 := by
  constructor
  · intro h name vm hvm
    obtain ⟨hmem, hplaced⟩ := hs name vm hvm
    refine ⟨hmem, ?_⟩
    rintro ⟨hcgroups, hidle⟩
    obtain ⟨cg, hcg⟩ := Option.isSome_iff_exists.mp hcgroups
    obtain ⟨rfl, -⟩ := hplaced cg hcg
    exact h ⟨name, vm⟩ (AList.mem_lookup_iff.mp hvm) _ hcg hidle
  · rintro h ⟨name, vm⟩ hvm cg hcg hidle
    have hlook : s.1.vms.lookup name = some vm := AList.mem_lookup_iff.mpr hvm
    obtain ⟨rfl, -⟩ := (hs name vm hlook).2 cg hcg
    exact (h name vm hlook).2 ⟨by rw [hcg]; rfl, hidle⟩

/-- **The VM that is visited** finds its CPUs in the cgroup, if it did before. -/
lemma own_cpus_of_visit {w : CpusetWorld V} (hplaced : vm.Placed) (hvm : vm.FindsCpus w.files) :
    let r := vm.advance (env.withCpusets os) w
    r.1.FindsCpus r.2.files := by
  rintro r ⟨hcgroups, hidle⟩
  rw [DaemonVm.cpusText]
  by_cases hat : vm.AtReserve
  · obtain ⟨hwrote, hcpus, ⟨hwrites, -⟩ | hnone⟩ := @visit_reserve V env os vm w hat
    · rcases hwrote with ⟨-, hfile⟩ | ⟨hnot, -⟩
      · rw [hcpus]
        exact hfile
      · exact absurd hwrites hnot
    · rw [hnone, hplaced.cgroups_eq_none hat] at hcgroups
      cases hcgroups
  · obtain ⟨hcpus, hsame, hfiles⟩ := @visit_leaves_cpusets V env os vm w hat
    rw [hcpus, hfiles]
    refine hvm ⟨hsame ▸ hcgroups, fun hdown => hidle ?_⟩
    have hrank := rank_le_advance (env.withCpusets os) vm w
    rw [hdown] at hrank
    exact idle_of_rank_le hrank

/-- **Visit.**  The VMs stay isolated exactly when no other CPUs are written. -/
lemma isolated_visit_iff (hs : EveryVm DaemonVm.Placed s.1) (hiso : CpusIsolated s) :
    KeepsCpus s (.Visit name env os) ↔ CpusIsolated (applyCpusets s (.Visit name env os)) := by
  rw [isolated_iff (everyVm_placed hs _)]
  rw [isolated_iff hs] at hiso
  cases hvisited : s.1.vms.lookup name with
  | none =>
      have hsame : applyCpusets s (.Visit name env os) = s := by
        rw [applyCpusets, DaemonState.tickVm, hvisited]
      rw [hsame]
      refine ⟨fun _ => hiso, fun _ vm hvm => ?_⟩
      cases hvisited.symm.trans hvm
  | some vm =>
      rw [applyCpusets, host_tickVm hvisited]
      constructor
      · intro hkeeps other vm' hvm'
        have hmem : other ∈ (DaemonState.tickVm (env.withCpusets os) s name).1.visited :=
          (everyVm_placed hs (.Visit name env os) other vm' hvm').1
        refine ⟨hmem, ?_⟩
        by_cases hname : other = name
        · subst hname
          rw [lookup_tickVm_self, hvisited] at hvm'
          obtain rfl := Option.some.inj hvm'
          exact own_cpus_of_visit (hs _ vm hvisited).2 (hiso _ vm hvisited).2
        · rw [lookup_tickVm_ne hname] at hvm'
          intro hholds
          refine (others_cpus_iff ((hiso other vm' hvm').2 hholds)).mpr fun hat hwrites => ?_
          exact hkeeps vm hvisited hat hwrites other vm' hvm' hname hholds
      · intro h vm₁ hvm₁ hat hwrites other vm' hvm' hname hholds
        obtain rfl := Option.some.inj (hvisited.symm.trans hvm₁)
        have hfile := (h other vm' ((lookup_tickVm_ne hname).trans hvm')).2 hholds
        exact (others_cpus_iff ((hiso other vm' hvm').2 hholds)).mp hfile hat hwrites

/-- **Step.**  An event leaves the VMs isolated exactly when it writes no other CPUs. -/
lemma isolated_apply_iff (hs : EveryVm DaemonVm.Placed s.1) (hiso : CpusIsolated s)
    (op : CpusetOp V) : KeepsCpus s op ↔ CpusIsolated (applyCpusets s op) := by
  cases op with
  | Command line =>
      refine iff_of_true trivial ?_
      rw [isolated_iff (everyVm_placed hs _)]
      rw [isolated_iff hs] at hiso
      simp only [applyCpusets]
      refine everyVm_command (s := s) (fun name vmCfg vm hnew hholds => ?_) (fun vm hvm => hvm)
        hiso fun _ _ _ _ _ hvm => hvm
      have hcgroups : vm.sm.rt.cgroups.isSome := hholds.1
      rw [cgroups_of_new hnew] at hcgroups
      cases hcgroups
  | Visit name env os => exact isolated_visit_iff hs hiso
  | Send =>
      refine iff_of_true trivial ?_
      rw [isolated_iff (everyVm_placed hs _)]
      rw [isolated_iff hs] at hiso
      refine everyVm_send (fun vm hvm => ?_) hiso
      rw [DaemonVm.FindsCpus, DaemonVm.HoldsCpuset, DaemonVm.cpusText, markSent_sm]
      exact hvm
  | Change rest => exact iff_of_true trivial hiso

end

/-- **When the CPUs of the VMs are kept apart.**  In every run of the daemon, from the start and
with any number of VMs: in every state reached, every VM with a cpuset finds its own CPUs in the
cgroup that it is placed in, exactly when no event of the run makes `create_cpuset` write other CPUs
while a VM has a cpuset. -/
theorem cpus_isolated_iff (rootCfg : Option RootConfig) (global : List IpcEvent)
    (perVm : List IpcVmEvents) (w : CpusetWorld V) (ops : List (CpusetOp V)) :
    (∀ pre, pre <+: ops →
        CpusIsolated (run applyCpusets (DaemonState.new rootCfg global perVm, w) pre)) ↔
      Along applyCpusets KeepsCpus (DaemonState.new rootCfg global perVm, w) ops := by
  symm
  refine along_iff_forall_prefix (I := fun s => EveryVm DaemonVm.Placed s.1 ∧ CpusIsolated s)
    (fun s hs => hs.2) (fun s op hs => isolated_apply_iff hs.1 hs.2 op)
    (fun s op hs hop => ⟨everyVm_placed hs.1 op, (isolated_apply_iff hs.1 hs.2 op).mp hop⟩)
    ⟨everyVm_new rootCfg global perVm, ?_⟩ ops
  intro entry hentry
  cases hentry

/-! ## Two VMs -/

/-- A VM with CPUs of its own. -/
def vmOnCpus (vmCpus : String) : VmConfig :=
  { minimalVmConfig {} {} with cpu := { hostCpus := "0-1", vmCpus } }

/-- A daemon with two VMs on disjoint CPUs. -/
def disjointDaemon : DaemonState :=
  let vms := (AList.singleton "a" (vmOnCpus "2-3")).insert "b" (vmOnCpus "4-5")
  DaemonState.new (some ⟨vms⟩) [] []

/-- An operating system with six CPUs that refuses nothing. -/
def sixCpuCalls : CpusetCalls Unit where
  numaSysfs _ := ⟨.ok "0-5", some (.ok (AList.singleton 0 (some (.ok "0-5"))))⟩
  createDirAll _ := pure ()
  write _ _ := pure ()

/-- Both VMs are started, and ticks follow until both have come past ReserveCpus. -/
def bothReserved : List (CpusetOp Unit) :=
  [.Command "vm start a", .Command "vm start b"] ++
    (List.replicate 6 (visitOps ["a", "b"] (idleEnv Unit) sixCpuCalls)).flatten

/-- In the tick in which both VMs make their cpusets, the second writes its CPUs over those of the
first. -/
theorem second_reserve_overwrites :
    ¬ CpusIsolated (run applyCpusets (disjointDaemon, ⟨fun _ => none, ()⟩) bothReserved) := by
  decide +kernel

end Chalybs
