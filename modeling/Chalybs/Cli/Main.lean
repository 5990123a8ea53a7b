import Chalybs.Hugepages.Pool
import Chalybs.Machine.Blocking
import Chalybs.Machine.Frame
import Chalybs.Qemu.Process
import Chalybs.Vfio.Restore
import Chalybs.Vfio.Stage

/-!
# The command line

`chalybs up` and `chalybs down` (`main.rs` of the command line) are two processes.  Each makes a new
runtime from the configuration and runs the state machine on it; the runtime ends with the process
and is not kept anywhere.  So `down` starts without the QEMU process, the VFIO transitions and the
hugepages that `up` has recorded, and has nothing to give back.

* `Host.main` — the two commands.
* `Host.withDevices` — the host on which staging, restoring and the hugepages are those of Chalybs.
* `Host.journaled` — a host on which it is noted what the calls ask to be given back.
* `down_releases_nothing` — what `up` has acquired stays acquired.
-/

namespace Chalybs

open Foundation

variable {W V σ P : Type}

/-! ## The commands -/

/-- The commands that run the state machine. -/
inductive Commands
  | Up
  | Down
  deriving DecidableEq, Repr

/-- What `main` stops with. -/
inductive CliError
  | Anyhow (msg : String)
  | Core (e : ChalybsError)
  deriving DecidableEq, Repr

/-- How a process ended: what `main` returned, the machine that it had then, if it came to make
one, and the host it left.  The machine ends with the process. -/
structure Exit (W : Type) where
  result : Except CliError Unit
  machine : Option VmStateMachine
  host : W

/-- `main` up to the command.  `file` is what reading and parsing the configuration file gives. -/
def newMachine (file : Except ChalybsError RootConfig) (vm : Option String) :
    Except CliError VmStateMachine := do
  let cfg ← file.mapError .Core
  cfg.validate.mapError .Core
  let vmName := vm.getD "default"
  match cfg.vm.lookup vmName with
  | none => throw (.Anyhow s!"VM {vmName} not found in config")
  | some vmCfg => do
      let hostCpus ← (parseCpuList vmCfg.cpu.hostCpus).mapError .Core
      let vmCpus ← (parseCpuList vmCfg.cpu.vmCpus).mapError .Core
      pure (.new (.new vmName vmCfg ⟨⟨hostCpus⟩, ⟨vmCpus⟩⟩))

/-- The command on the machine. -/
def Host.runCommand (h : Host W) : Commands → MachineM W Unit
  | .Up => h.runUntilSteady
  | .Down => h.runShutdown

/-- `main`. -/
def Host.main (h : Host W) (command : Commands) (file : Except ChalybsError RootConfig)
    (vm : Option String) (w : W) : Exit W :=
  match newMachine file vm with
  | .error e => ⟨.error e, none, w⟩
  | .ok sm =>
      match h.runCommand command (sm, w) with
      | .ok _ t => ⟨.ok (), some t.1, t.2⟩
      | .error e t => ⟨.error (.Core e), some t.1, t.2⟩

/-! ## The host -/

/-- The kernel's side of the PCI functions, the hugepages, and the rest of the host. -/
structure DeviceWorld (σ P V : Type) where
  kernel : σ
  huge : HugeWorld P
  rest : V

/-- The host on which the PCI functions are staged and restored, and the hugepages provisioned and
torn down, by the functions of Chalybs.  The other callees are those of `h`. -/
def Host.withDevices (h : Host V) (k : Sysfs σ) (os : HugepageCalls P) :
    Host (DeviceWorld σ P V) where
  call
    | .StagePci, rt =>
        zoom (fun t => (t.1, t.2.kernel)) (fun u t => (u.1, { t.2 with kernel := u.2 }))
          (stagePciDevicesForVm k rt)
    | .RestorePci, rt =>
        zoom (fun t => t.2.kernel) (fun s t => (t.1, { t.2 with kernel := s }))
          (restorePciDevicesForVm k rt)
    | .ProvisionHugepages, rt =>
        zoom (fun t => (t.1, t.2.huge)) (fun u t => (u.1, { t.2 with huge := u.2 }))
          (os.provisionForVm rt)
    | .CleanupHugepages, _ =>
        zoom (fun t => (t.1, t.2.huge)) (fun u t => (u.1, { t.2 with huge := u.2 }))
          os.cleanupForVm
    | c, rt =>
        zoom (fun t => (t.1, t.2.rest)) (fun u t => (u.1, { t.2 with rest := u.2 })) (h.call c rt)
  detectCpuIdentity w := h.detectCpuIdentity w.rest
  numaTopology w := h.numaTopology w.rest

/-- What a call asks to be given back. -/
inductive Request
  /-- `qemu::shutdown` sends SIGTERM to the process. -/
  | Sigterm (pid : ℕ)
  /-- `restore_impl` is given the transition. -/
  | Restore (t : VfioTransition)
  /-- `cleanup_for_vm` takes down hugepages that are active. -/
  | Release (record : HugepageRecord)
  deriving DecidableEq, Repr

/-- What the call of the function with the runtime asks for. -/
def Callee.requests (rt : VmRuntime) : Callee → List Request
  | .ShutdownQemu => rt.qemu.toList.map fun q => .Sigterm q.pid
  | .RestorePci => rt.vfioTransitions.map .Restore
  | .CleanupHugepages => if rt.hugepages.active then [.Release rt.hugepages] else []
  | _ => []

/-- The host that behaves like `h`, with a journal of the requests beside it. -/
def Host.journaled (h : Host W) : Host (W × List Request) where
  call c rt := zoom (fun t => (t.1, t.2.1)) (fun u t => (u.1, u.2, t.2.2 ++ c.requests rt))
    (h.call c rt)
  detectCpuIdentity w := h.detectCpuIdentity w.1
  numaTopology w := h.numaTopology w.1

/-- Everything that the runtime shows as acquired has been asked back. -/
structure Released (rt : VmRuntime) (journal : List Request) : Prop where
  signalled : ∀ q, rt.qemu = some q → .Sigterm q.pid ∈ journal
  restored : ∀ t ∈ rt.vfioTransitions, .Restore t ∈ journal
  released : rt.hugepages.active = true → .Release rt.hugepages ∈ journal

/-- The host of the command line, with its journal. -/
abbrev CliWorld (σ P V : Type) := QemuWorld (DeviceWorld σ P V) × List Request

/-- The host of the command line. -/
def Host.cli (h : Host V) (os : SystemCalls (DeviceWorld σ P V)) (k : Sysfs σ)
    (huge : HugepageCalls P) : Host (CliWorld σ P V) :=
  ((h.withDevices k huge).withQemu os).journaled

section

variable {h : Host V} {os : SystemCalls (DeviceWorld σ P V)} {k : Sysfs σ}
  {huge : HugepageCalls P}

/-! ## Bring-up -/

/-- Bring-up asks nothing back. -/
lemma requests_of_phase {c : Callee} (hphase : c.phase ≠ none) (rt : VmRuntime) :
    c.requests rt = [] := by
  cases c <;> simp_all [Callee.phase, Callee.requests]

/-- A launch that returns has recorded the process. -/
lemma launch_records (rt : VmRuntime) (u : Option QemuState × QemuWorld V)
    (os : SystemCalls V) :
    Ends (os.launch rt) u (fun _ u' => u'.1.isSome) fun _ _ => True := by
  refine (os.launch_handle rt u).mono ?_ fun _ _ _ => trivial
  rintro - u' ⟨-, pid, hq, -⟩
  rw [hq]
  rfl

/-- The LaunchQemu phase records the process if it succeeds, and otherwise it stays. -/
lemma ends_step_launch {t : VmStateMachine × CliWorld σ P V} (hstate : t.1.state = .LaunchQemu) :
    Ends ((h.cli os k huge).perform .Step) t (fun _ t' => t'.1.rt.qemu.isSome)
      fun _ t' => t'.1.state = .LaunchQemu := by
  rw [ends_perform]
  simp only [hstate]
  rw [Host.bringUp, ends_bind, ends_pushSystem, ends_bind, ends_invoke]
  refine ends_zoom.mpr ((launch_records _ _ os).mono ?_ ?_)
  · rintro - u hsome
    show (VmRuntime.pushLaunched _).qemu.isSome
    rw [qemu_pushLaunched]
    exact hsome
  · intro _ _ _
    exact hstate

/-- What holds during bring-up: the process is recorded from the LaunchQemu phase on, and nothing
has been asked back. -/
structure Acquiring (journal : List Request) (t : VmStateMachine × CliWorld σ P V) : Prop where
  qemu : VmState.LaunchQemu.rank < t.1.state.rank → t.1.rt.qemu.isSome
  journal : t.2.2 = journal

/-- Outside the LaunchQemu phase the process stays recorded. -/
lemma isSome_step {t : VmStateMachine × CliWorld σ P V} (hstate : t.1.state ≠ .LaunchQemu)
    (hsome : t.1.rt.qemu.isSome) :
    (advance t (.Step, h.cli os k huge)).1.rt.qemu.isSome := by
  refine preserves_perform (R := fun q _ => q.isSome) (s := t) (fun c hc t' ht' => ?_) hsome
  have hphase := phase_of_mem_work hc
  have hlaunch : c ≠ .LaunchQemu := by
    rintro rfl
    exact hstate (Option.some.inj hphase).symm
  have hshutdown : c ≠ .ShutdownQemu := by
    rintro rfl
    cases hphase
  have hkept : ∀ part : c.Owned, (c.store t'.1.rt part).qemu.isSome := by
    intro part
    rw [store_qemu hlaunch hshutdown]
    exact ht'
  rw [ends_invoke, Ends]
  split
  · exact hkept _
  · exact hkept _

lemma Acquiring.step {journal : List Request} {t : VmStateMachine × CliWorld σ P V}
    (ht : Acquiring journal t) : Acquiring journal (advance t (.Step, h.cli os k huge)) := by
  constructor
  · intro hafter
    by_cases hstate : t.1.state = .LaunchQemu
    · have hends := (@ends_step_launch V σ P h os k huge t hstate).outcome
      split_ifs at hends with hok
      · exact hends
      · rw [advance, hends] at hafter
        omega
    · refine isSome_step hstate (ht.qemu ?_)
      have hne : t.1.state.rank ≠ VmState.LaunchQemu.rank :=
        fun heq => hstate (VmState.rank_inj heq)
      have hlaw := observe_lawful t (.Step, h.cli os k huge)
      rcases hlaw.moves with hstays | hnext
      · have hsame : (advance t (.Step, h.cli os k huge)).1.state = t.1.state := hstays
        rwa [hsame] at hafter
      · have hnext' : Op.next .Step t.1.state =
            some (advance t (.Step, h.cli os k huge)).1.state := hnext
        rcases next_step hnext' with ⟨hsteady, -⟩ | ⟨-, hrank⟩
        · rw [hsteady]
          decide
        · omega
  · have hframed : Framed fun (_ : VmRuntime) (w : CliWorld σ P V) => w.2 = journal :=
      ⟨⟨fun _ _ _ _ h => h, fun _ _ h => h, fun _ _ _ h => h⟩, fun _ _ h => h⟩
    refine hframed.perform (s := t) (fun c hc t' ht' => ?_) ht.journal
    have hphase : c.phase ≠ none := by
      rw [phase_of_mem_work hc]
      simp
    rw [ends_invoke]
    refine ends_zoom.mpr ?_
    rw [requests_of_phase hphase, Ends]
    have hkept : t'.2.2 ++ [] = journal := (List.append_nil _).trans ht'
    split
    · exact hkept
    · exact hkept

/-! ## Shutdown with nothing recorded -/

/-- The runtime shows nothing as acquired, and the processes, the kernel's side of the functions,
the hugepages and the journal are those of `w`. -/
structure EmptyHanded (w : CliWorld σ P V) (rt : VmRuntime) (w' : CliWorld σ P V) : Prop where
  qemu : rt.qemu = none
  transitions : rt.vfioTransitions = []
  hugepages : rt.hugepages = {}
  live : w'.1.live = w.1.live
  kernel : w'.1.rest.kernel = w.1.rest.kernel
  huge : w'.1.rest.huge = w.1.rest.huge
  journal : w'.2 = w.2

lemma EmptyHanded.framed (w : CliWorld σ P V) : Framed (EmptyHanded w) where
  push _ _ _ _ h := ⟨h.1, h.2, h.3, h.4, h.5, h.6, h.7⟩
  pinnedThreads _ _ h := ⟨h.1, h.2, h.3, h.4, h.5, h.6, h.7⟩
  pinnedIrqs _ _ h := ⟨h.1, h.2, h.3, h.4, h.5, h.6, h.7⟩
  cpuPlan _ _ _ h := ⟨h.1, h.2, h.3, h.4, h.5, h.6, h.7⟩

/-- A runtime that shows nothing as acquired asks nothing back. -/
lemma EmptyHanded.requests {w w' : CliWorld σ P V} {rt : VmRuntime} (h : EmptyHanded w rt w')
    (c : Callee) : w'.2 ++ c.requests rt = w.2 := by
  rw [h.journal]
  cases c <;> simp [Callee.requests, h.qemu, h.transitions, h.hugepages]

/-- The calls of the shutdown sequence have nothing to do. -/
lemma preserves_emptyHanded {w : CliWorld σ P V} {c : Callee} {s : VmState}
    (hc : c ∈ Op.work .StepShutdown s) :
    Preserves (OnRuntime (EmptyHanded w)) ((h.cli os k huge).invoke c) := by
  intro t ht
  have hphase : c.phase = none := phase_of_mem_work hc
  have hjournal := EmptyHanded.requests ht c
  obtain ⟨hqemu, htransitions, hhuge, hlive, hkernel, hpool, -⟩ := ht
  rw [ends_invoke]
  refine ends_zoom.mpr ?_
  cases c with
  | ShutdownQemu =>
      have hidle : os.shutdown t.1.rt (t.1.rt.qemu, t.2.1) = .ok () (none, t.2.1) := by
        rw [SystemCalls.shutdown, hqemu]
      exact ends_of_ok hidle ⟨rfl, htransitions, hhuge, hlive, hkernel, hpool, hjournal⟩
  | RestorePci =>
      have hidle : restorePciDevicesForVm k t.1.rt t.2.1.rest.kernel =
          .ok () t.2.1.rest.kernel := by
        rw [restorePciDevicesForVm, restoreImpl, htransitions]
        rfl
      have hcall : ((h.withDevices k huge).withQemu os).call .RestorePci t.1.rt =
          zoom (fun t => (t.1, t.2.rest)) (fun u t => (u.1, { t.2 with rest := u.2 }))
            (zoom (fun t => t.2.kernel) (fun s t => (t.1, { t.2 with kernel := s }))
              (restorePciDevicesForVm k t.1.rt)) := rfl
      rw [hcall]
      refine ends_zoom.mpr ?_
      refine ends_zoom.mpr ?_
      refine ends_of_ok hidle ?_
      exact ⟨hqemu, htransitions, hhuge, hlive, hkernel, hpool, hjournal⟩
  | CleanupHugepages =>
      have hidle : huge.cleanupForVm ((t.1.rt.hugepages, []), t.2.1.rest.huge) =
          .ok () ((t.1.rt.hugepages, []), t.2.1.rest.huge) := by
        simp [HugepageCalls.cleanupForVm, hhuge]
      refine ends_zoom.mpr ?_
      refine ends_zoom.mpr ?_
      refine ends_of_ok hidle ?_
      exact ⟨hqemu, htransitions, hhuge, hlive, hkernel, hpool, hjournal⟩
  | CleanupCpus | ApplyVmDown =>
      refine ends_zoom.mpr ?_
      refine ends_zoom.mpr ?_
      refine ends_of_forall ?_ ?_
      · intro _ _
        exact ⟨hqemu, htransitions, hhuge, hlive, hkernel, hpool, hjournal⟩
      · intro _ _
        exact ⟨hqemu, htransitions, hhuge, hlive, hkernel, hpool, hjournal⟩
  | _ => cases hphase

/-- **A shutdown step that starts with nothing leaves everything as it was.** -/
lemma EmptyHanded.stepShutdown {w : CliWorld σ P V} {t : VmStateMachine × CliWorld σ P V}
    (ht : OnRuntime (EmptyHanded w) t) :
    OnRuntime (EmptyHanded w) (advance t (.StepShutdown, h.cli os k huge)) :=
  (EmptyHanded.framed w).perform (fun _ hc => preserves_emptyHanded hc) ht

/-! ## The two invocations -/

/-- A machine that `main` makes is new. -/
lemma newMachine_eq_ok {file : Except ChalybsError RootConfig} {vm : Option String}
    {sm : VmStateMachine} (h : newMachine file vm = .ok sm) :
    ∃ name cfg cpus, sm = .new (.new name cfg cpus) := by
  rw [newMachine, except_bind_eq_ok] at h
  obtain ⟨cfg, -, h⟩ := h
  rw [except_seq_eq_ok] at h
  obtain ⟨-, h⟩ := h
  dsimp only at h
  cases hcfg : cfg.vm.lookup (vm.getD "default") with
  | none =>
      rw [hcfg] at h
      cases h
  | some vmCfg =>
      rw [hcfg] at h
      simp only [except_bind_eq_ok] at h
      obtain ⟨hostCpus, -, vmCpus, -, h⟩ := h
      exact ⟨_, _, _, (Except.ok.inj h).symm⟩

/-- A `main` that returns `Ok` has run the command on a new machine. -/
lemma main_eq_ok {H : Host W} {command : Commands} {file : Except ChalybsError RootConfig}
    {vm : Option String} {w : W} {P : VmStateMachine × W → Prop}
    (hP : ∀ name cfg cpus, Ends (H.runCommand command) (.new (.new name cfg cpus), w)
      (fun _ => P) fun _ _ => True) (hok : (H.main command file vm w).result = .ok ()) :
    ∃ sm, (H.main command file vm w).machine = some sm ∧
      P (sm, (H.main command file vm w).host) := by
  rw [Host.main] at hok ⊢
  cases hsm : newMachine file vm with
  | error e =>
      rw [hsm] at hok
      cases hok
  | ok sm =>
      obtain ⟨name, cfg, cpus, rfl⟩ := newMachine_eq_ok hsm
      have hends := hP name cfg cpus
      rw [Ends] at hends
      rw [hsm] at hok
      dsimp only at hok ⊢
      cases hrun : H.runCommand command (.new (.new name cfg cpus), w) with
      | ok a t =>
          rw [hrun] at hends
          exact ⟨t.1, rfl, hends⟩
      | error e t =>
          rw [hrun] at hok
          cases hok

end

/-- **`down` gives nothing back.**  Let `up` return `Ok`, on any host and with any configuration,
and let `down` return `Ok` later, whatever has happened to the host in between.  Then `up` has left
a QEMU process that has not been sent the signal: not everything that it acquired has been asked
back, and `down` has changed neither the processes nor the kernel's side of the PCI functions nor
the hugepages. -/
theorem down_releases_nothing (h : Host V) (os : SystemCalls (DeviceWorld σ P V)) (k : Sysfs σ)
    (huge : HugepageCalls P) (file : Except ChalybsError RootConfig) (vm : Option String)
    (w between : QemuWorld (DeviceWorld σ P V)) :
    let up := (h.cli os k huge).main .Up file vm (w, [])
    let down := (h.cli os k huge).main .Down file vm (between, up.host.2)
    up.result = .ok () → down.result = .ok () →
      (∃ sm, up.machine = some sm ∧ sm.state = .Steady ∧ ¬ Released sm.rt down.host.2) ∧
        down.host.1.live = between.live ∧ down.host.1.rest.kernel = between.rest.kernel ∧
        down.host.1.rest.huge = between.rest.huge := by
  intro up down hup hdown
  have hacquired : ∃ sm, up.machine = some sm ∧ Acquiring [] (sm, up.host) ∧
      sm.state = .Steady := by
    refine main_eq_ok (P := fun t => Acquiring [] t ∧ t.1.state = .Steady) ?_ hup
    intro name cfg cpus
    refine (ends_runUntilSteady ⟨?_, rfl⟩ (fun t events ht => ⟨ht.qemu, ht.journal⟩)
      fun t ht _ => ht.step).mono (fun _ _ ht => ht) fun _ _ _ => trivial
    intro hlate
    exact absurd hlate (show ¬ VmState.LaunchQemu.rank < VmState.Init.rank by decide)
  have hempty : ∃ sm, down.machine = some sm ∧
      EmptyHanded (between, up.host.2) sm.rt down.host := by
    refine main_eq_ok (P := OnRuntime (EmptyHanded (between, up.host.2))) ?_ hdown
    intro name cfg cpus
    exact (ends_runShutdown ⟨rfl, rfl, rfl, rfl, rfl, rfl, rfl⟩
      fun t ht => EmptyHanded.stepShutdown ht).mono (fun _ _ ht => ht.1) fun _ _ _ => trivial
  obtain ⟨sm, hsm, hacquired, hsteady⟩ := hacquired
  obtain ⟨_, -, hempty⟩ := hempty
  obtain ⟨q, hq⟩ := Option.isSome_iff_exists.mp (hacquired.qemu (by rw [hsteady]; decide))
  refine ⟨⟨sm, hsm, hsteady, fun hreleased => ?_⟩, hempty.live, hempty.kernel, hempty.huge⟩
  have hsignalled := hreleased.signalled q hq
  rw [hempty.journal, hacquired.journal] at hsignalled
  exact List.not_mem_nil hsignalled

/-! ## A VM with a device and hugepages -/

/-- A VM with the NVMe controller and 4 MiB of memory in hugepages, as the only one. -/
def storageFile : RootConfig :=
  let cfg := minimalVmConfig { nvme := some [{ pciAddress := "0000:01:00.0" }] } {}
  ⟨AList.singleton "default" { cfg with
    qemu := { cfg.qemu with memMb := 4, hugepages := true }
    numa := some { node := some 0 } }⟩

/-- A host on which nothing fails. -/
def quietHost : Host Unit where
  call _ _ := pure ()
  detectCpuIdentity _ := none
  numaTopology _ := .ok ⟨[]⟩

/-- A system on which process 7 starts. -/
def launchingCalls (V : Type) : SystemCalls V where
  createRunDir := pure ()
  prepareLookingGlassShm _ := pure ()
  buildCommand name _ _ := .ok ⟨"qemu-system-x86_64", [], s!"/run/chalybs/{name}.qmp"⟩
  spawn _ _ := .ok 7
  fileExists _ _ := true
  writeFile _ _ := pure ()
  kill _ _ := .ok ()
  wait _ _ := .ok ()
  cleanupLookingGlassShm _ rest := rest

def storageWorld : QemuWorld (DeviceWorld Bindings Unit Unit) :=
  ⟨∅, ⟨storageBindings, hugeHost 4, ()⟩⟩

/-- The host of the command line with these parts. -/
def storageCli : Host (CliWorld Bindings Unit Unit) :=
  quietHost.cli (launchingCalls _) (linuxSysfs storageHost) obligingCalls

/-- The VM is brought up by one process. -/
def storageUp : Exit (CliWorld Bindings Unit Unit) :=
  storageCli.main .Up (.ok storageFile) none (storageWorld, [])

/-- The next process shuts it down. -/
def storageDown : Exit (CliWorld Bindings Unit Unit) :=
  storageCli.main .Down (.ok storageFile) none storageUp.host

theorem down_releases_nothing_storage :
    (∃ sm, storageUp.machine = some sm ∧ sm.state = .Steady ∧
        ¬ Released sm.rt storageDown.host.2) ∧
      storageDown.host.1.live = storageUp.host.1.live ∧
      storageDown.host.1.rest.kernel = storageUp.host.1.rest.kernel ∧
      storageDown.host.1.rest.huge = storageUp.host.1.rest.huge :=
  down_releases_nothing quietHost (launchingCalls _) (linuxSysfs storageHost) obligingCalls
    (.ok storageFile) none storageWorld storageUp.host.1 (by decide +kernel) (by decide +kernel)

/-- Process 7 is recorded and alive, the NVMe controller is bound to vfio-pci, and the hugepages
are active and mounted; both invocations returned `Ok`, and nothing has been asked back. -/
theorem down_leaves_storage :
    storageUp.result = .ok () ∧ storageDown.result = .ok () ∧
      storageUp.machine.map (fun sm => (sm.rt.qemu, sm.rt.vfioTransitions, sm.rt.hugepages)) =
        some (some ⟨7⟩, [storageTransition], ⟨some 0, 2, 4194304, true⟩) ∧
      storageDown.host.2 = [] ∧ storageDown.host.1.live = {7} ∧
      storageDown.host.1.rest.kernel "0000:01:00.0" = some "vfio-pci" ∧
      storageDown.host.1.rest.huge.mounts = 1 ∧
      ¬ ∀ sm, storageUp.machine = some sm → Released sm.rt storageDown.host.2 := by
  have hmachine : storageUp.machine.map (fun sm =>
      (sm.rt.qemu, sm.rt.vfioTransitions, sm.rt.hugepages)) =
        some (some ⟨7⟩, [storageTransition], ⟨some 0, 2, 4194304, true⟩) := by decide +kernel
  have hjournal : storageDown.host.2 = [] := by decide +kernel
  refine ⟨by decide +kernel, by decide +kernel, hmachine, hjournal, by decide +kernel,
    by decide +kernel, by decide +kernel, fun hreleased => ?_⟩
  obtain ⟨sm, hsm, hparts⟩ := Option.map_eq_some_iff.mp hmachine
  have hsignalled := (hreleased sm hsm).signalled ⟨7⟩ (congrArg Prod.fst hparts)
  rw [hjournal] at hsignalled
  exact List.not_mem_nil hsignalled

end Chalybs
