import Chalybs.Daemon.Run
import Chalybs.Hugepages.Pool

/-!
# VMs that share a pool of hugepages

The daemon drives all VMs on one host, so the phases of one VM run between the phases of another.
A run is any sequence of commands, visits of the daemon to single VMs and exits of guests; a tick of
the daemon is a visit to each VM.

* `Host.withHuge` — the host on which the phases share a pool.
* `HugeOp`, `applyHuge` — the events of a run; `tick_eq_run` says that ticks are among them.
* `DaemonVm.AwaitsLaunch` — the pages of the VM were found, and QEMU is not launched yet.
* `Undisturbed` — the event leaves the waiting VMs what they need.
* `launch_ready` — a VM at its launch has its pages in every run whose events are such.
-/

namespace Chalybs

open Foundation

variable {V : Type}

/-! ## The system -/

/-- QEMU takes the recorded pages when it is spawned. -/
def HugeWorld.launch (record : HugepageRecord) (w : HugeWorld V) : HugeWorld V :=
  { w with pool := if record.active then w.pool.take record.pages else w.pool }

/-- The launch of QEMU, which spawns it if it returns. -/
def HugepageCalls.launchQemu (os : HugepageCalls V) (h : Host V) (rt : VmRuntime) :
    EStateM ChalybsError (Option QemuState × HugeWorld V) Unit := fun t =>
  match h.call .LaunchQemu rt (t.1, t.2.rest) with
  | .ok _ u => .ok () (u.1, ({ t.2 with rest := u.2 } : HugeWorld V).launch rt.hugepages)
  | .error e u =>
      let w : HugeWorld V := { t.2 with rest := u.2 }
      .error e (u.1, if os.leavesChild rt t.2.rest then w.launch rt.hugepages else w)

/-- The host on which provisioning, launch and teardown share the pool.  The other callees are those
of `h`. -/
def Host.withHuge (h : Host V) (os : HugepageCalls V) : Host (HugeWorld V) where
  call
    | .ProvisionHugepages, rt => os.provisionForVm rt
    | .CleanupHugepages, _ => os.cleanupForVm
    | .LaunchQemu, rt => os.launchQemu h rt
    | c, rt => zoom (fun t => (t.1, t.2.rest)) (fun u t => (u.1, { t.2 with rest := u.2 }))
        (h.call c rt)
  detectCpuIdentity w := h.detectCpuIdentity w.rest
  numaTopology w := h.numaTopology w.rest

/-- What a visit finds, on the host with the pool. -/
def TickEnv.withHuge (env : TickEnv V) (os : HugepageCalls V) : TickEnv (HugeWorld V) where
  host := env.host.withHuge os
  tryWait q w := env.tryWait q w.rest
  threads pid w := env.threads pid w.rest

/-- What can happen next. -/
inductive HugeOp (V : Type)
  /-- A client sends a command line. -/
  | Command (line : String)
  /-- The daemon comes to the VM of a name in a tick. -/
  | Visit (name : String) (env : TickEnv V) (os : HugepageCalls V)
  /-- The daemon sends the events at the end of a tick. -/
  | Send
  /-- A QEMU process exits and gives back its pages. -/
  | Exit (pages : ℕ)

/-- The daemon and the host. -/
abbrev HugeState (V : Type) := DaemonState × HugeWorld V

/-- The state that an event leads to. -/
def applyHuge (s : HugeState V) : HugeOp V → HugeState V
  | .Command line => ((s.1.handleShellCommand line).1, s.2)
  | .Visit name env os => DaemonState.tickVm (env.withHuge os) s name
  | .Send => ({ s.1 with vms := mapVms DaemonVm.markSent s.1.vms }, s.2)
  | .Exit pages => (s.1, { s.2 with pool := s.2.pool.giveBack pages })

/-- The events of a tick. -/
def tickOps (names : List String) (env : TickEnv V) (os : HugepageCalls V) : List (HugeOp V) :=
  names.map (.Visit · env os) ++ [.Send]

/-- **A tick of the daemon** is a visit to each VM. -/
theorem tick_eq_run (env : TickEnv V) (os : HugepageCalls V) (s : HugeState V) :
    DaemonState.tick (env.withHuge os) s = run applyHuge s (tickOps s.1.visited env os) :=
  tick_eq_run_steps applyHuge (.Visit · env os) (fun _ _ => rfl) (fun _ => rfl) s

/-! ## What a VM needs -/

/-- The phases after provisioning, up to the launch. -/
def VmState.BeforeLaunch (s : VmState) : Prop :=
  VmState.PreparePci.rank ≤ s.rank ∧ s.rank ≤ VmState.LaunchQemu.rank

/-- The VM was provided with hugepages and QEMU is not launched yet. -/
def DaemonVm.Prepared (vm : DaemonVm) : Prop :=
  vm.sm.rt.hugepages.active = true ∧ vm.sm.state.BeforeLaunch

/-- The VM is on its way to the launch with hugepages that it was provided with. -/
def DaemonVm.AwaitsLaunch (vm : DaemonVm) : Prop := vm.Prepared ∧ vm.desired.WantsUp

/-- The next step of the VM launches QEMU with hugepages. -/
def DaemonVm.AtLaunch (vm : DaemonVm) : Prop :=
  vm.sm.rt.hugepages.active = true ∧ vm.sm.state = .LaunchQemu ∧ vm.desired.WantsUp

/-- The next step of the VM tears its hugepages down. -/
def DaemonVm.AtCleanup (vm : DaemonVm) : Prop :=
  vm.sm.rt.hugepages.active = true ∧ vm.sm.state = .Shutdown ∧ ¬ vm.desired.WantsUp

/-- The launch spawns QEMU. -/
def HugepageCalls.Spawns (os : HugepageCalls V) (h : Host V) (rt : VmRuntime) (v : V) : Prop :=
  (outcome (h.call .LaunchQemu rt) (rt.qemu, v)).1 = true ∨ os.leavesChild rt v = true

instance (s : VmState) : Decidable s.BeforeLaunch := inferInstanceAs (Decidable (_ ∧ _))

instance (vm : DaemonVm) : Decidable vm.Prepared := inferInstanceAs (Decidable (_ ∧ _))

instance (vm : DaemonVm) : Decidable vm.AwaitsLaunch := inferInstanceAs (Decidable (_ ∧ _))

instance (vm : DaemonVm) : Decidable vm.AtLaunch := inferInstanceAs (Decidable (_ ∧ _))

instance (vm : DaemonVm) : Decidable vm.AtCleanup := inferInstanceAs (Decidable (_ ∧ _))

instance (os : HugepageCalls V) (h : Host V) (rt : VmRuntime) (v : V) :
    Decidable (os.Spawns h rt v) := inferInstanceAs (Decidable (_ ∨ _))

instance (w : HugeWorld V) (pages : ℕ) : Decidable (w.Provides pages) :=
  decidable_of_iff (pages ≤ w.pool.free ∧ 0 < w.mounts) ⟨fun h => ⟨h.1, h.2⟩, fun h => ⟨h.1, h.2⟩⟩

/-- Every VM at its launch finds its pages free and hugetlbfs mounted. -/
def LaunchReady (s : HugeState V) : Prop :=
  ∀ entry ∈ s.1.vms.entries, entry.2.AtLaunch → s.2.Provides entry.2.sm.rt.hugepages.pages

/-- The event leaves the VMs that await their launch what they need: a launch next to one leaves
room for both, there is no teardown next to one, and a VM that was being stopped is wanted again
only if it still has what it needs. -/
def Undisturbed (s : HugeState V) : HugeOp V → Prop
  | .Command line => ∀ entry ∈ s.1.vms.entries, entry.2.Prepared →
      ∀ vm ∈ (s.1.handleShellCommand line).1.vms.lookup entry.1, vm.desired.WantsUp →
        s.2.Provides entry.2.sm.rt.hugepages.pages
  | .Visit name env os => ∀ vm ∈ s.1.vms.lookup name, ∀ entry ∈ s.1.vms.entries,
      entry.1 ≠ name → entry.2.AwaitsLaunch →
        ¬ vm.AtCleanup ∧
          (vm.AtLaunch →
            os.Spawns env.host (vm.sm.rt.pushSystem "state=LaunchQemu") s.2.rest →
              vm.sm.rt.hugepages.pages + entry.2.sm.rt.hugepages.pages ≤ s.2.pool.free)
  | .Send | .Exit _ => True

instance (s : HugeState V) : Decidable (LaunchReady s) := inferInstanceAs (Decidable (∀ _ ∈ _, _))

instance (s : HugeState V) : (op : HugeOp V) → Decidable (Undisturbed s op)
  | .Command _ => inferInstanceAs (Decidable (∀ _ ∈ _, _))
  | .Visit _ _ _ => inferInstanceAs (Decidable (∀ _ ∈ _, _))
  | .Send | .Exit _ => inferInstanceAs (Decidable True)

/-! ## What a visit does -/

section

variable {env : TickEnv V} {os : HugepageCalls V} {h : Host V} {vm : DaemonVm} {w₀ w : HugeWorld V}
  {record : HugepageRecord} {pages : ℕ}

/-- The record of a VM, and a host that has no less than before. -/
def OnHuge (record : HugepageRecord) (w₀ : HugeWorld V) (rt : VmRuntime) (w : HugeWorld V) : Prop :=
  rt.hugepages = record ∧ w₀.NoLess w

lemma framed_onHuge : Framed (OnHuge record w₀) :=
  ⟨⟨fun _ _ _ _ h => h, fun _ _ h => h, fun _ _ _ h => h⟩, fun _ _ h => h⟩

/-- The other calls leave the record and the pool alone, and so does the teardown of a VM without
hugepages. -/
lemma onHuge_invoke {c : Callee} (hprovision : c ≠ .ProvisionHugepages) (hlaunch : c ≠ .LaunchQemu)
    (hcleanup : c = .CleanupHugepages → record.active = false) :
    Preserves (OnRuntime (OnHuge record w₀)) ((h.withHuge os).invoke c) := by
  rintro t ⟨hrecord, hless⟩
  rw [ends_invoke]
  by_cases hclean : c = .CleanupHugepages
  · subst hclean
    have hinactive : t.1.rt.hugepages.active = false := hrecord ▸ hcleanup rfl
    show Ends os.cleanupForVm ((t.1.rt.hugepages, []), t.2) _ _
    simp only [Ends, HugepageCalls.cleanupForVm, hinactive, Bool.false_eq_true, if_false]
    exact ⟨hrecord, hless⟩
  · have hcall : (h.withHuge os).call c t.1.rt = zoom (fun t => (t.1, t.2.rest))
        (fun u t => (u.1, { t.2 with rest := u.2 })) (h.call c t.1.rt) := by
      cases c <;> first | rfl | contradiction
    have hstore : ∀ part, (c.store t.1.rt part).hugepages = t.1.rt.hugepages := by
      intro part
      cases c <;> first | rfl | contradiction
    rw [hcall, ends_zoom, Ends]
    cases h.call c t.1.rt (c.owned t.1.rt, t.2.rest) with
    | ok a u => exact ⟨(hstore _).trans hrecord, hless.free, hless.mounts⟩
    | error e u => exact ⟨(hstore _).trans hrecord, hless.free, hless.mounts⟩

/-- **Most visits** leave the record alone and take nothing from the host. -/
lemma visit_frame (hprovision : vm.sm.state = .PrepareHugepages → ¬ vm.desired.WantsUp)
    (hlaunch : vm.sm.state = .LaunchQemu → ¬ vm.desired.WantsUp) (hcleanup : ¬ vm.AtCleanup) :
    let r := vm.advance (env.withHuge os) w
    OnHuge vm.sm.rt.hugepages w r.1.sm.rt r.2 := by
  refine framed_onHuge.toFramedBut.tick (fun _ _ h => h)
    (fun c hc => onHuge_invoke ?_ ?_ ?_) (fun _ _ => framed_onHuge.pinnedIrqs) ⟨rfl, .refl w⟩
  · rintro rfl
    obtain ⟨hstate, hup⟩ := hc.phase rfl
    exact hprovision hstate hup
  · rintro rfl
    obtain ⟨hstate, hup⟩ := hc.phase rfl
    exact hlaunch hstate hup
  · rintro rfl
    obtain ⟨hstate, hdown⟩ := hc.shutdown (.inr (.inl rfl))
    by_contra hactive
    exact hcleanup ⟨by simpa using hactive, hstate, hdown⟩

/-- **A visit to a VM at its provisioning** takes nothing from the host, and what the VM is prepared
with is there. -/
lemma visit_provision (hstate : vm.sm.state = .PrepareHugepages) (hup : vm.desired.WantsUp) :
    let r := vm.advance (env.withHuge os) w
    w.NoLess r.2 ∧ (r.1.Prepared → r.2.Provides r.1.sm.rt.hugepages.pages) := by
  have hdue := due_step_iff.mpr ⟨hup, (by rw [hstate]; decide : vm.sm.state.IsBringUp)⟩
  have hends := Ends.advance (env.withHuge os) (w := w)
    (P := fun t => w.NoLess t.2 ∧
      (t.1.rt.hugepages.active = true → t.2.Provides t.1.rt.hugepages.pages))
    (Q := fun t => w.NoLess t.2) (by rw [hstate]; decide) hdue ?_
  · rcases hends with ⟨hless, hprovided⟩ | ⟨rt, m, hless, hsm⟩
    · exact ⟨hless, fun hprepared => hprovided hprepared.1⟩
    · refine ⟨hless, fun hprepared => absurd hprepared.2 ?_⟩
      rw [hsm, hstate]
      decide
  · rw [hstate]
    show Ends ((env.host.withHuge os).invoke .ProvisionHugepages >>= fun _ => setState .PreparePci)
      (⟨vm.sm.state, vm.sm.rt.pushSystem _⟩, w) _ _
    rw [ends_bind, ends_invoke]
    exact (ends_provisionForVm _ _).mono (fun _ t ht => ht) fun _ t ht => ht

lemma provides_launch (hroom : record.active = true → record.pages + pages ≤ w.pool.free)
    (hw : w.Provides pages) : (w.launch record).Provides pages := by
  obtain ⟨hpages, hmounted⟩ := hw
  refine ⟨?_, hmounted⟩
  show pages ≤ (if record.active then w.pool.take record.pages else w.pool).free
  split_ifs with hactive
  · have hle := hroom hactive
    rw [NodePool.free_take (by omega)]
    omega
  · exact hpages

/-- **The launch** leaves pages for another VM if there is room for both. -/
lemma ends_launchQemu {rt : VmRuntime} (hroom : os.Spawns h rt w.rest → rt.hugepages.active = true →
      rt.hugepages.pages + pages ≤ w.pool.free) (hw : w.Provides pages) :
    Ends (os.launchQemu h rt) (rt.qemu, w) (fun _ t => t.2.Provides pages)
      fun _ t => t.2.Provides pages := by
  have hrest : ∀ rest, ({ w with rest } : HugeWorld V).Provides pages :=
    fun rest => ⟨hw.pages_le, hw.mounted⟩
  rw [HugepageCalls.Spawns, outcome] at hroom
  simp only [Ends, HugepageCalls.launchQemu]
  cases hcall : h.call .LaunchQemu rt (rt.qemu, w.rest) with
  | ok a u =>
      rw [hcall] at hroom
      exact provides_launch (hroom (.inl rfl)) (hrest u.2)
  | error e u =>
      rw [hcall] at hroom
      simp only
      split_ifs with hleaves
      · exact provides_launch (hroom (.inr hleaves)) (hrest u.2)
      · exact hrest u.2

/-- **A visit to a VM at its launch** leaves pages for another VM if there is room for both. -/
lemma visit_launch (hstate : vm.sm.state = .LaunchQemu) (hup : vm.desired.WantsUp)
    (hroom : vm.AtLaunch → os.Spawns env.host (vm.sm.rt.pushSystem "state=LaunchQemu") w.rest →
      vm.sm.rt.hugepages.pages + pages ≤ w.pool.free) (hw : w.Provides pages) :
    (vm.advance (env.withHuge os) w).2.Provides pages := by
  have hdue := due_step_iff.mpr ⟨hup, (by rw [hstate]; decide : vm.sm.state.IsBringUp)⟩
  have hends := Ends.advance (env.withHuge os) (w := w) (P := fun t => t.2.Provides pages)
    (Q := fun t => t.2.Provides pages) (by rw [hstate]; decide) hdue ?_
  · rcases hends with hprovides | ⟨rt, m, hprovides, -⟩
    · exact hprovides
    · exact hprovides
  · rw [hstate]
    show Ends ((env.host.withHuge os).invoke .LaunchQemu >>= fun _ =>
      modifyRt VmRuntime.pushLaunched >>= fun _ => setState .DetectThreads)
      (⟨vm.sm.state, vm.sm.rt.pushSystem "state=LaunchQemu"⟩, w) _ _
    rw [ends_bind, ends_invoke]
    have hlaunch : Ends (os.launchQemu env.host (vm.sm.rt.pushSystem "state=LaunchQemu")) _ _ _ :=
      ends_launchQemu (fun hspawns hactive => hroom ⟨hactive, hstate, hup⟩ hspawns) hw
    exact hlaunch.mono (fun _ t ht => ht) fun _ t ht => ht

/-- A step of the driver that ends on the way to the launch began there, before the launch. -/
lemma awaits_of_drives {s s' : VmState} {desired desired' : IpcVmState}
    (hd : Drives s desired s' desired') (hprovision : s = .PrepareHugepages → ¬ desired.WantsUp)
    (hs' : s'.BeforeLaunch) (hup : desired'.WantsUp) :
    s.BeforeLaunch ∧ desired.WantsUp ∧ s ≠ .LaunchQemu := by
  cases hd with
  | rests hdue =>
      refine ⟨hs', wantsUp_atRest.mp hup, ?_⟩
      rintro rfl
      rw [due_step_iff.mpr ⟨wantsUp_atRest.mp hup, by decide⟩] at hdue
      cases hdue
  | succeeds hdue hnext =>
      rw [(step_due hdue).mpr hup] at hnext
      refine ⟨?_, hup, ?_⟩
      · have hne : s ≠ .PrepareHugepages := fun hs => hprovision hs hup
        revert hs' hne
        revert s'
        cases s <;> decide
      · rintro rfl
        obtain rfl := Option.some.inj hnext
        exact absurd hs' (by decide)
  | fails hdue => exact absurd hup (not_wantsUp_afterFailure hdue)

lemma awaits_of_advance (hprovision : vm.sm.state = .PrepareHugepages → ¬ vm.desired.WantsUp)
    (hr : (vm.advance (env.withHuge os) w).1.AwaitsLaunch) :
    vm.sm.state.BeforeLaunch ∧ vm.desired.WantsUp ∧ vm.sm.state ≠ .LaunchQemu := by
  rcases advance_drives (env.withHuge os) vm w with hd | ⟨-, hd⟩
  · exact awaits_of_drives hd hprovision hr.1.2 hr.2
  · exact absurd (awaits_of_drives hd (by decide) hr.1.2 hr.2).1 (by decide)

/-- **The VM that is visited** has what it needs, if it had before. -/
lemma visit_self (hvm : vm.AwaitsLaunch → w.Provides vm.sm.rt.hugepages.pages) :
    let r := vm.advance (env.withHuge os) w
    r.1.AwaitsLaunch → r.2.Provides r.1.sm.rt.hugepages.pages := by
  intro r hr
  by_cases hprovision : vm.sm.state = .PrepareHugepages ∧ vm.desired.WantsUp
  · exact (visit_provision hprovision.1 hprovision.2).2 hr.1
  · have hprovision' : vm.sm.state = .PrepareHugepages → ¬ vm.desired.WantsUp :=
      fun hs hup => hprovision ⟨hs, hup⟩
    obtain ⟨hbefore, hup, hlaunch⟩ := awaits_of_advance hprovision' hr
    have hcleanup : ¬ vm.AtCleanup := fun hc => hc.2.2 hup
    obtain ⟨hrecord, hless⟩ := @visit_frame V env os vm w hprovision'
      (fun hs => absurd hs hlaunch) hcleanup
    have hactive := hr.1.1
    rw [hrecord] at hactive ⊢
    exact (hvm ⟨⟨hactive, hbefore⟩, hup⟩).noLess hless

/-- **The other VMs** have what they need, if the visit leaves it to them. -/
lemma visit_other (hcleanup : ¬ vm.AtCleanup)
    (hroom : vm.AtLaunch → os.Spawns env.host (vm.sm.rt.pushSystem "state=LaunchQemu") w.rest →
      vm.sm.rt.hugepages.pages + pages ≤ w.pool.free) (hw : w.Provides pages) :
    (vm.advance (env.withHuge os) w).2.Provides pages := by
  by_cases hlaunch : vm.sm.state = .LaunchQemu ∧ vm.desired.WantsUp
  · exact visit_launch hlaunch.1 hlaunch.2 hroom hw
  by_cases hprovision : vm.sm.state = .PrepareHugepages ∧ vm.desired.WantsUp
  · exact hw.noLess (visit_provision hprovision.1 hprovision.2).1
  · exact hw.noLess (visit_frame (fun hs hup => hprovision ⟨hs, hup⟩)
      (fun hs hup => hlaunch ⟨hs, hup⟩) hcleanup).2

end

/-! ## Runs -/

/-- Every VM that awaits its launch finds its pages free and hugetlbfs mounted. -/
def Provided (s : HugeState V) : Prop :=
  ∀ name vm, s.1.vms.lookup name = some vm → vm.AwaitsLaunch →
    s.2.Provides vm.sm.rt.hugepages.pages

section

variable {s : HugeState V}

lemma mem_entries {name : String} {vm : DaemonVm} :
    ⟨name, vm⟩ ∈ s.1.vms.entries ↔ s.1.vms.lookup name = some vm :=
  AList.mem_lookup_iff.symm

lemma Provided.launchReady (h : Provided s) : LaunchReady s := by
  rintro ⟨name, vm⟩ hvm ⟨hactive, hstate, hup⟩
  refine h name vm (mem_entries.mp hvm) ⟨⟨hactive, ?_⟩, hup⟩
  rw [hstate]
  decide

lemma Provided.command (h : Provided s) {line : String} (hop : Undisturbed s (.Command line)) :
    Provided (applyHuge s (.Command line)) := by
  intro name vm hvm hawaits
  simp only [applyHuge] at hvm ⊢
  rcases s.1.commanded_handleShellCommand line name with
    hsame | ⟨-, -, hmade, hnew⟩ | ⟨-, hold, -, hnew⟩ | ⟨hold, hnew⟩
  · exact h name vm (hsame.symm.trans hvm) hawaits
  · obtain rfl := Option.some.inj (hnew.symm.trans hvm)
    have hinit := hawaits.1.2
    rw [show _ = VmState.Init from state_of_new hmade] at hinit
    exact absurd hinit (by decide)
  · obtain rfl := Option.some.inj (hnew.symm.trans hvm)
    have hmem := mem_entries.mpr hold
    exact hop _ hmem hawaits.1 _ hvm hawaits.2
  · obtain rfl := Option.some.inj (hnew.symm.trans hvm)
    exact absurd hawaits.2 (show ¬ IpcVmState.WantsUp .ShuttingDown by decide)

lemma Provided.visit (h : Provided s) {name : String} {env : TickEnv V} {os : HugepageCalls V}
    (hop : Undisturbed s (.Visit name env os)) : Provided (applyHuge s (.Visit name env os)) := by
  cases hvisited : s.1.vms.lookup name with
  | none =>
      have hsame : applyHuge s (.Visit name env os) = s := by
        rw [applyHuge, DaemonState.tickVm, hvisited]
      rwa [hsame]
  | some vm =>
      intro other vm' hvm'
      rw [applyHuge] at hvm' ⊢
      rw [host_tickVm hvisited]
      by_cases hname : other = name
      · subst hname
        rw [lookup_tickVm_self, hvisited] at hvm'
        obtain rfl := Option.some.inj hvm'
        exact visit_self (h _ vm hvisited)
      · intro hawaits
        rw [lookup_tickVm_ne hname] at hvm'
        obtain ⟨hcleanup, hroom⟩ :=
          hop vm hvisited ⟨other, vm'⟩ (mem_entries.mpr hvm') hname hawaits
        exact visit_other hcleanup hroom (h other vm' hvm' hawaits)

/-- **Step.**  An event that leaves the waiting VMs what they need keeps them provided. -/
lemma Provided.apply (h : Provided s) {op : HugeOp V} (hop : Undisturbed s op) :
    Provided (applyHuge s op) := by
  cases op with
  | Command line => exact h.command hop
  | Visit name env os => exact h.visit hop
  | Send =>
      intro name vm hvm hawaits
      have hlook : (mapVms DaemonVm.markSent s.1.vms).lookup name = some vm := hvm
      rw [lookup_mapVms] at hlook
      obtain ⟨vm', hvm', rfl⟩ := Option.map_eq_some_iff.mp hlook
      rw [DaemonVm.AwaitsLaunch, DaemonVm.Prepared, markSent_sm, markSent_desired] at hawaits
      rw [markSent_sm]
      exact h name vm' hvm' hawaits
  | Exit pages =>
      intro name vm hvm hawaits
      exact (h name vm hvm hawaits).noLess ⟨NodePool.free_le_giveBack, le_rfl⟩

end

/-- **The pages are there at the launch.**  In every run of the daemon, from the start and with any
number of VMs, whose events leave the waiting VMs what they need: in every state reached, every VM
with hugepages that is at its launch finds its pages free and hugetlbfs mounted. -/
theorem launch_ready (rootCfg : Option RootConfig) (global : List IpcEvent)
    (perVm : List IpcVmEvents) (w : HugeWorld V) (ops : List (HugeOp V))
    (h : Along applyHuge Undisturbed (DaemonState.new rootCfg global perVm, w) ops) :
    ∀ pre, pre <+: ops →
      LaunchReady (run applyHuge (DaemonState.new rootCfg global perVm, w) pre) := by
  intro pre hpre
  have hnew : Provided (V := V) (DaemonState.new rootCfg global perVm, w) := by
    intro name vm hvm
    cases hvm
  exact (run_invariant_along (fun _ _ ht hop => ht.apply hop) hnew
    (h.of_prefix hpre)).launchReady

/-! ## Two VMs -/

/-- A VM with 4 MiB of memory in hugepages of node 0. -/
def hugeVm : VmConfig :=
  let cfg := minimalVmConfig {} {}
  { cfg with
    qemu := { cfg.qemu with memMb := 4, hugepages := true }
    numa := some { node := some 0 } }

/-- A daemon with two such VMs. -/
def twoVmDaemon : DaemonState :=
  DaemonState.new (some ⟨(AList.singleton "a" hugeVm).insert "b" hugeVm⟩) [] []

/-- Both VMs are started, and five ticks later the first is launched. -/
def bothStarted : List (HugeOp Unit) :=
  [.Command "vm start a", .Command "vm start b"] ++
    (List.replicate 5 (tickOps ["a", "b"] (idleEnv Unit) obligingCalls)).flatten ++
    [.Visit "a" (idleEnv Unit) obligingCalls]

theorem launch_ready_roomy :
    LaunchReady (run applyHuge (twoVmDaemon, hugeHost 4) bothStarted) :=
  launch_ready _ [] [] (hugeHost 4) bothStarted (by decide +kernel) _ List.prefix_rfl

/-- The pool is raised to what one VM needs, and both find the same two pages.  The first takes
them, and none is left for the second at its launch. -/
theorem second_launch_unready :
    ¬ LaunchReady (run applyHuge (twoVmDaemon, hugeHost 0) bothStarted) := by decide +kernel

end Chalybs
