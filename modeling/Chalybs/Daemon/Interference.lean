import Chalybs.Daemon.Run
import Chalybs.Foundation.Parties

/-!
# What the VMs rely on

The VMs of the daemon are parties that share the host.  A tick visits them one after the other, so
what a VM relies on must survive the visits to all the others.

* `daemonParties` — the daemon as a system of parties.
* `Cooperative` — what a visit must guarantee of the host, and what each VM may rely on.
* `Cooperative.run` — it holds in every run, and the host has changed only as is guaranteed.
-/

namespace Chalybs

open Foundation

variable {W : Type}

/-- The VMs that the daemon manages, and the host. -/
def daemonParties (W : Type) : Parties (DaemonState × W) String DaemonVm W where
  party s name := s.1.vms.lookup name
  shared s := s.2

/-- A VM relies on `P`, and every visit to a VM changes the host as `G` allows.  `P` holds of the
VMs that are made from the configuration `root`, in the environments `envs` a visit keeps it for the
VM that is visited, and `G` keeps it for the others. -/
structure Cooperative (root : Option RootConfig) (envs : TickEnv W → Prop)
    (P : String → W → DaemonVm → Prop) (G : W → W → Prop) : Prop where
  refl : ∀ w, G w w
  trans : ∀ w w' w'', G w w' → G w' w'' → G w w''
  stable : ∀ name w w' vm, P name w vm → G w w' → P name w' vm
  new : ∀ cfg name vmCfg vm w, root = some cfg → cfg.vm.lookup name = some vmCfg →
    DaemonVm.new name vmCfg = .ok vm → P name w { vm with desired := .Starting }
  wanted : ∀ name w vm desired, P name w vm → P name w { vm with desired }
  sent : ∀ name w vm, P name w vm → P name w vm.markSent
  visit : ∀ env name w vm, envs env → P name w vm →
    P name (vm.advance env w).2 (vm.advance env w).1 ∧ G w (vm.advance env w).2

/-- The operation is a command, or a tick in one of the environments. -/
def DaemonOp.Within (envs : TickEnv W → Prop) : DaemonOp W → Prop
  | .Command _ => True
  | .Tick _ env => envs env

namespace Cooperative

variable {root : Option RootConfig} {envs : TickEnv W → Prop} {P : String → W → DaemonVm → Prop}
  {G : W → W → Prop} {s : DaemonState × W}

/-- A VM that is made for a command is made from the configuration. -/
lemma configured_of_starts {d d' : DaemonState} {name : String} {vm : DaemonVm}
    (hstarts : d.Starts name d') (hidle : ∀ old, d.vms.lookup name = some old →
      old.sm.state = .Idle) (hlook : d'.vms.lookup name = some vm) :
    ∃ cfg vmCfg dvm, d.rootCfg = some cfg ∧ cfg.vm.lookup name = some vmCfg ∧
      DaemonVm.new name vmCfg = .ok dvm ∧ vm = { dvm with desired := .Starting } := by
  obtain ⟨cfg, vmCfg, dvm, hcfg, hconf, hvm, rfl⟩ := hstarts
  have hsame : vm = { dvm with desired := .Starting } :=
    (Option.some.inj ((AList.lookup_insert _).symm.trans hlook)).symm
  rcases d.vmToStart_cases hvm with ⟨-, hmade⟩ | ⟨hold, hbusy⟩
  · exact ⟨cfg, vmCfg, dvm, hcfg, hconf, hmade, hsame⟩
  · exact absurd (hidle dvm hold) hbusy

/-- **A command** moves at most one VM, and leaves the host alone. -/
lemma command (hP : Cooperative root envs P G) (hroot : s.1.rootCfg = root)
    (hs : (daemonParties W).Everyone P s) (line : String) :
    (daemonParties W).Guarantees P G s (DaemonState.apply s (.Command line)) := by
  refine ⟨hP.refl _, fun name vm hvm => ?_⟩
  have hlook : (s.1.handleShellCommand line).1.vms.lookup name = some vm := hvm
  rcases s.1.commanded_handleShellCommand line name with
    hsame | ⟨hstarts, hidle, -, -⟩ | ⟨-, hold, -, hnew⟩ | ⟨hold, hnew⟩
  · exact .inl (hsame.symm.trans hlook)
  · right
    obtain ⟨cfg, vmCfg, dvm, hcfg, hconf, hmade, rfl⟩ := configured_of_starts hstarts hidle hlook
    exact hP.new cfg name vmCfg dvm _ (hroot ▸ hcfg) hconf hmade
  · right
    obtain rfl := Option.some.inj (hnew.symm.trans hlook)
    exact hP.wanted name _ _ _ (hs name _ hold)
  · right
    obtain rfl := Option.some.inj (hnew.symm.trans hlook)
    exact hP.wanted name _ _ _ (hs name _ hold)

/-- **A visit** moves one VM, and changes the host as it guarantees. -/
lemma tickVm (hP : Cooperative root envs P G) {env : TickEnv W} (henv : envs env)
    (hs : (daemonParties W).Everyone P s) (name : String) :
    (daemonParties W).Guarantees P G s (DaemonState.tickVm env s name) := by
  cases hlook : s.1.vms.lookup name with
  | none =>
      have hsame : DaemonState.tickVm env s name = s := by rw [DaemonState.tickVm, hlook]
      rw [hsame]
      exact ⟨hP.refl _, fun _ _ hvm => .inl hvm⟩
  | some vm =>
      obtain ⟨hvisited, hG⟩ := hP.visit env name s.2 vm henv (hs name vm hlook)
      have hhost : (DaemonState.tickVm env s name).2 = (vm.advance env s.2).2 := host_tickVm hlook
      have hchanged : G s.2 (DaemonState.tickVm env s name).2 := by
        rw [hhost]
        exact hG
      refine ⟨hchanged, fun other vm' hvm' => ?_⟩
      have hlook' : (DaemonState.tickVm env s name).1.vms.lookup other = some vm' := hvm'
      by_cases hname : other = name
      · right
        subst hname
        rw [lookup_tickVm_self, hlook] at hlook'
        obtain rfl := Option.some.inj hlook'
        show P other (DaemonState.tickVm env s other).2 _
        rw [hhost]
        exact hvisited
      · exact .inl ((lookup_tickVm_ne hname).symm.trans hlook')

/-- The sending of the events changes no more of a VM than which of them were sent. -/
lemma send (hP : Cooperative root envs P G) (hs : (daemonParties W).Everyone P s) :
    (daemonParties W).Guarantees P G s
      ({ s.1 with vms := mapVms DaemonVm.markSent s.1.vms }, s.2) := by
  refine ⟨hP.refl _, fun name vm hvm => .inr ?_⟩
  have hlook : (mapVms DaemonVm.markSent s.1.vms).lookup name = some vm := hvm
  rw [lookup_mapVms] at hlook
  obtain ⟨old, hold, rfl⟩ := Option.map_eq_some_iff.mp hlook
  exact hP.sent name _ _ (hs name old hold)

/-- **A tick** is a visit to every VM, and the sending. -/
lemma tick (hP : Cooperative root envs P G) {env : TickEnv W} (henv : envs env)
    (hs : (daemonParties W).Everyone P s) :
    (daemonParties W).Everyone P (DaemonState.tick env s) ∧ G s.2 (DaemonState.tick env s).2 := by
  have hvisits : ∀ (t : DaemonState × W) (name : String), True →
      (daemonParties W).Everyone P t →
        (daemonParties W).Guarantees P G t (DaemonState.tickVm env t name) :=
    fun t name _ ht => hP.tickVm henv ht name
  obtain ⟨hall, hG⟩ := Parties.everyone_run hP.refl hP.trans hP.stable hvisits hs
    fun name (_ : name ∈ s.1.visited) => trivial
  exact ⟨(hP.send hall).everyone hP.stable hall, hG⟩

/-- **Every run.**  After any commands and any ticks in the environments, every VM has what it
relies on, and the host has changed only as the visits guarantee. -/
theorem run (hP : Cooperative root envs P G) (hroot : s.1.rootCfg = root)
    (hs : (daemonParties W).Everyone P s) {ops : List (DaemonOp W)}
    (hops : ∀ op ∈ ops, op.Within envs) :
    (daemonParties W).Everyone P (run DaemonState.apply s ops) ∧
      G s.2 (Foundation.run DaemonState.apply s ops).2 := by
  induction ops generalizing s with
  | nil => exact ⟨hs, hP.refl _⟩
  | cons op ops ih =>
      rw [List.forall_mem_cons] at hops
      have hone : (daemonParties W).Everyone P (DaemonState.apply s op) ∧
          G s.2 (DaemonState.apply s op).2 ∧ (DaemonState.apply s op).1.rootCfg = root := by
        cases op with
        | Command line =>
            have hstep := hP.command hroot hs line
            exact ⟨hstep.everyone hP.stable hs, hstep.shared,
              (s.1.rootCfg_handleShellCommand line).trans hroot⟩
        | Tick tick env =>
            obtain ⟨hall, hG⟩ := hP.tick hops.1 hs
            rw [apply_tick]
            exact ⟨hall, hG, rootCfg_tick.trans hroot⟩
      obtain ⟨hall, hG⟩ := ih hone.2.2 hone.1 hops.2
      exact ⟨hall, hP.trans _ _ _ hone.2.1 hG⟩

end Cooperative

end Chalybs
