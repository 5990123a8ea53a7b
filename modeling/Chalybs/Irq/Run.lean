import Chalybs.Daemon.Run
import Chalybs.Irq.Worker

/-!
# A VM and its IRQ worker

The daemon drives the state machine on one thread while the worker runs on another.  A run of the
VM is any interleaving of ticks, commands and steps of the worker; each of them finds the host as
it is then, so devices may show their interrupts and QEMU may exit at any time.

* `IrqWorld` — the host, with the worker and the commands that the monitor was sent.
* `Host.withIrq` — the host on which the state machine spawns the worker and calls the hooks.
* `IrqOp`, `applyIrq` — the events of a run.
* `frozen_tick`, `tick_detectMsi`, `tick_shutdown`, `pinned_tick` — what a tick can do.
* `IrqInv` — what holds in every run.
-/

namespace Chalybs

open Foundation

variable {V : Type}

/-! ## The system -/

/-- The thread of the worker, the commands that the monitor was sent, and the rest of the host. -/
structure IrqWorld (V : Type) where
  worker : Option IrqWorker
  ddc : List DdcCommand
  rest : V

/-- `spawn_irq_pin_worker`.  There is no worker yet when it is called. -/
def IrqWorld.spawn (rt : VmRuntime) (w : IrqWorld V) : IrqWorld V :=
  { w with worker := (spawnIrqPinWorker rt).or w.worker }

/-- A computation of the hooks, on the host with the worker. -/
def onHooks : HookM V Unit →
    EStateM ChalybsError ((Bool × List CoreEvent) × IrqWorld V) Unit :=
  zoom (fun t => (t.1, t.2.ddc, t.2.rest))
    fun u t => (u.1, { t.2 with ddc := u.2.1, rest := u.2.2 })

/-- The host on which the worker is spawned and the hooks run over the calls `os`.  The other
callees are those of `h`. -/
def Host.withIrq (h : Host V) (os : IrqCalls V) : Host (IrqWorld V) where
  call
    | .SpawnIrqPinWorker, rt => modify fun t => (t.1, t.2.spawn rt)
    | .ApplyVmUp, rt => onHooks (os.applyVmUp rt)
    | .ApplyVmDown, rt => onHooks (os.applyVmDown rt)
    | c, rt => zoom (fun t => (t.1, t.2.rest)) (fun u t => (u.1, { t.2 with rest := u.2 }))
        (h.call c rt)
  detectCpuIdentity w := h.detectCpuIdentity w.rest
  numaTopology w := h.numaTopology w.rest

/-- What a tick finds, on the host with the worker. -/
def TickEnv.withIrq (env : TickEnv V) (os : IrqCalls V) : TickEnv (IrqWorld V) where
  host := env.host.withIrq os
  tryWait q w := env.tryWait q w.rest
  threads pid w := env.threads pid w.rest

/-- What can happen to a VM until it is started anew. -/
inductive IrqOp (V : Type)
  /-- The daemon comes to the VM in a tick. -/
  | Tick (env : TickEnv V) (os : IrqCalls V)
  /-- `vm start` or `vm restart`. -/
  | Start
  /-- `vm stop`. -/
  | Stop
  | WorkerStep (os : IrqCalls V)

/-- A VM, its worker and the host. -/
abbrev IrqState (V : Type) := DaemonVm × IrqWorld V

/-- The state that an event leads to. -/
def applyIrq (sys : DeviceSysfs) (s : IrqState V) : IrqOp V → IrqState V
  | .Tick env os => s.1.advance (env.withIrq os) s.2
  | .Start =>
      -- a VM in Idle is made anew, which ends the run
      if s.1.sm.state = .Idle then s else ({ s.1 with desired := .Starting }, s.2)
  | .Stop => ({ s.1 with desired := .ShuttingDown }, s.2)
  | .WorkerStep os =>
      match s.2.worker with
      | none => s
      | some w =>
          let (w, ddc, rest) := os.workerStep sys w (s.2.ddc, s.2.rest)
          (s.1, ⟨some w, ddc, rest⟩)

/-- A VM that was just started. -/
def freshIrq (name : String) (cfg : VmConfig) (cpus : VmCpuLayout) (rest : V) : IrqState V :=
  (DaemonVm.fresh name cfg cpus, ⟨none, [], rest⟩)

/-! ## What the calls do -/

/-- The configuration, the layout and the gate of the DDC hook, which nothing writes. -/
structure SameSetup (rt₀ rt : VmRuntime) : Prop where
  cfg : rt.cfg = rt₀.cfg
  cpus : rt.cpus = rt₀.cpus
  gate : rt.irqPinningComplete = rt₀.irqPinningComplete

lemma sameSetup_store (c : Callee) (rt : VmRuntime) (part : c.Owned) :
    SameSetup rt (c.store rt part) := by
  cases c <;> exact ⟨rfl, rfl, rfl⟩

lemma SameSetup.trans {rt₀ rt₁ rt₂ : VmRuntime} (h : SameSetup rt₀ rt₁) (h' : SameSetup rt₁ rt₂) :
    SameSetup rt₀ rt₂ :=
  ⟨h'.cfg.trans h.cfg, h'.cpus.trans h.cpus, h'.gate.trans h.gate⟩

/-- A property of the worker and the commands, with the setup. -/
def OnIrq (rt₀ : VmRuntime) (Q : Option IrqWorker → List DdcCommand → Prop) (rt : VmRuntime)
    (w : IrqWorld V) : Prop :=
  SameSetup rt₀ rt ∧ Q w.worker w.ddc

lemma framed_onIrq {rt₀ : VmRuntime} {Q : Option IrqWorker → List DdcCommand → Prop} :
    Framed (OnIrq (V := V) rt₀ Q) where
  push _ _ _ _ h := ⟨h.1.trans ⟨rfl, rfl, rfl⟩, h.2⟩
  pinnedThreads _ _ h := ⟨h.1.trans ⟨rfl, rfl, rfl⟩, h.2⟩
  pinnedIrqs _ _ h := ⟨h.1.trans ⟨rfl, rfl, rfl⟩, h.2⟩
  cpuPlan _ _ _ h := ⟨h.1.trans ⟨rfl, rfl, rfl⟩, h.2⟩

section

variable {h : Host V} {os : IrqCalls V} {rt₀ : VmRuntime}
  {Q : Option IrqWorker → List DdcCommand → Prop}

/-- **The other calls leave the worker and the monitor alone**, and so does `apply_vm_up` while the
gate is closed. -/
lemma onIrq_invoke {c : Callee} (hspawn : c ≠ .SpawnIrqPinWorker) (hdown : c ≠ .ApplyVmDown)
    (hgate : rt₀.irqPinningComplete = false) :
    Preserves (OnRuntime (OnIrq rt₀ Q)) ((h.withIrq os).invoke c) := by
  rintro t ⟨hsetup, hQ⟩
  have hstore : ∀ part, SameSetup rt₀ (c.store t.1.rt part) :=
    fun part => hsetup.trans (sameSetup_store c _ part)
  rw [ends_invoke]
  by_cases hup : c = .ApplyVmUp
  · subst hup
    refine (ends_zoom.mpr ?_ : Ends (onHooks (os.applyVmUp t.1.rt)) _ _ _)
    refine (ends_applyVmUp (hsetup.gate.trans hgate) _).mono ?_ fun _ _ h => h.elim
    intro _ u hu
    refine ⟨hstore _, ?_⟩
    show Q t.2.worker u.2.1
    rw [hu]
    exact hQ
  · have hcall : (h.withIrq os).call c t.1.rt = zoom (fun t => (t.1, t.2.rest))
        (fun u t => (u.1, { t.2 with rest := u.2 })) (h.call c t.1.rt) := by
      cases c <;> first | rfl | contradiction
    rw [hcall, ends_zoom, Ends]
    cases h.call c t.1.rt (c.owned t.1.rt, t.2.rest) with
    | ok a u => exact ⟨hstore _, hQ⟩
    | error e u => exact ⟨hstore _, hQ⟩

/-- `apply_vm_down` adds the commands of the hook, whether it returns or fails. -/
lemma ends_invoke_down (t : VmStateMachine × IrqWorld V) :
    let Added := fun t' : VmStateMachine × IrqWorld V => SameSetup t.1.rt t'.1.rt ∧
      t'.2.worker = t.2.worker ∧ t'.2.ddc = t.2.ddc ++ t.1.rt.cfg.downCommands
    Ends ((h.withIrq os).invoke .ApplyVmDown) t (fun _ => Added) (fun _ => Added) := by
  intro Added
  rw [ends_invoke]
  refine (ends_zoom.mpr ?_ : Ends (onHooks (os.applyVmDown t.1.rt)) _ _ _)
  refine (ends_applyVmDown _).mono ?_ ?_
  · intro _ u hu
    exact ⟨sameSetup_store .ApplyVmDown _ _, rfl, hu⟩
  · intro _ u hu
    exact ⟨sameSetup_store .ApplyVmDown _ _, rfl, hu⟩

/-- The arm of the Shutdown state runs `apply_vm_down` last. -/
lemma ends_tearDown_shutdown (t : VmStateMachine × IrqWorld V)
    (hgate : t.1.rt.irqPinningComplete = false) :
    let Added := fun t' : VmStateMachine × IrqWorld V => SameSetup t.1.rt t'.1.rt ∧
      t'.2.worker = t.2.worker ∧ t'.2.ddc = t.2.ddc ++ t.1.rt.cfg.downCommands
    Ends ((h.withIrq os).tearDown .Shutdown) t (fun _ => Added)
      (fun _ t' => OnRuntime (OnIrq t.1.rt fun w ddc => w = t.2.worker ∧ ddc = t.2.ddc) t' ∨
        Added t') := by
  intro Added
  let Kept : VmStateMachine × IrqWorld V → Prop :=
    OnRuntime (OnIrq t.1.rt fun w ddc => w = t.2.worker ∧ ddc = t.2.ddc)
  have hseq : ∀ {x : MachineM (IrqWorld V) Unit} {f : Unit → MachineM (IrqWorld V) Unit},
      Preserves Kept x →
      (∀ t', Kept t' → Ends (f ()) t' (fun _ => Added) fun _ t' => Kept t' ∨ Added t') →
      ∀ t', Kept t' → Ends (x >>= f) t' (fun _ => Added) fun _ t' => Kept t' ∨ Added t' :=
    fun hx hf _ => hx.ends_bind (fun _ _ => .inl) fun _ => hf
  have hsystem : ∀ m, Preserves Kept (pushSystem m) :=
    fun m => preserves_modifyRt fun rt w hrt => ⟨hrt.1.trans ⟨rfl, rfl, rfl⟩, hrt.2⟩
  have hinfo : ∀ m, Preserves Kept (pushInfo m) :=
    fun m => preserves_modifyRt fun rt w hrt => ⟨hrt.1.trans ⟨rfl, rfl, rfl⟩, hrt.2⟩
  have hcall : ∀ c, c ≠ .SpawnIrqPinWorker → c ≠ .ApplyVmDown →
      Preserves Kept ((h.withIrq os).invoke c) :=
    fun c hspawn hdown => onIrq_invoke hspawn hdown hgate
  refine hseq (hsystem _) ?_ t ⟨⟨rfl, rfl, rfl⟩, rfl, rfl⟩
  refine hseq (hcall .RestorePci (by decide) (by decide)) ?_
  refine hseq (hinfo _) (hseq (hsystem _) ?_)
  refine hseq (hcall .CleanupCpus (by decide) (by decide)) (hseq (hinfo _) ?_)
  refine hseq (hcall .CleanupHugepages (by decide) (by decide)) (hseq (hinfo _) ?_)
  intro u hu
  obtain ⟨hsetup, hworker, hddc⟩ := hu
  have hadded : ∀ t', SameSetup u.1.rt t'.1.rt ∧ t'.2.worker = u.2.worker ∧
      t'.2.ddc = u.2.ddc ++ u.1.rt.cfg.downCommands → Added t' := by
    rintro t' ⟨hsetup', hworker', hddc'⟩
    refine ⟨hsetup.trans hsetup', hworker'.trans hworker, ?_⟩
    rw [hddc', hddc, hsetup.cfg]
  rw [ends_bind]
  refine (ends_invoke_down u).mono (fun _ t' ht' => ?_) fun _ t' ht' => .inr (hadded t' ht')
  obtain ⟨hsetup', hrest⟩ := hadded t' ht'
  exact ⟨hsetup'.trans ⟨rfl, rfl, rfl⟩, hrest⟩

end

/-! ## What a tick does -/

section

variable {s : IrqState V} (env : TickEnv V) (os : IrqCalls V)

/-- **Most ticks leave the worker and the monitor alone.** -/
lemma frozen_tick (hgate : s.1.sm.rt.irqPinningComplete = false)
    (hdetect : s.1.sm.state = .DetectMsi → ¬ s.1.desired.WantsUp)
    (hdown : s.1.sm.state = .Shutdown → s.1.desired.WantsUp) :
    let s' := s.1.advance (env.withIrq os) s.2
    OnIrq s.1.sm.rt (fun w ddc => w = s.2.worker ∧ ddc = s.2.ddc) s'.1.sm.rt s'.2 := by
  intro s'
  refine framed_onIrq.toFramedBut.tick (fun _ _ h => ⟨h.1.trans ⟨rfl, rfl, rfl⟩, h.2⟩)
    (fun c hc => onIrq_invoke ?_ ?_ hgate) (fun _ _ => framed_onIrq.pinnedIrqs)
    ⟨⟨rfl, rfl, rfl⟩, rfl, rfl⟩
  · rintro rfl
    obtain ⟨hstate, hup⟩ := hc.phase rfl
    exact hdetect hstate hup
  · rintro rfl
    obtain ⟨hstate, hnot⟩ := hc.shutdown (.inr (.inr rfl))
    exact hnot (hdown hstate)

/-- **DetectMsi** spawns the worker. -/
lemma tick_detectMsi (hstate : s.1.sm.state = .DetectMsi) (hup : s.1.desired.WantsUp) :
    let s' := s.1.advance (env.withIrq os) s.2
    s'.1.sm.state = .PinIrqs ∧ SameSetup s.1.sm.rt s'.1.sm.rt ∧
      s'.2 = s.2.spawn s.1.sm.rt := by
  have hdue := due_step_iff.mpr ⟨hup, (by rw [hstate]; decide : s.1.sm.state.IsBringUp)⟩
  have hends := Ends.advance (env.withIrq os) (w := s.2)
    (P := fun t => t.1.state = .PinIrqs ∧ SameSetup s.1.sm.rt t.1.rt ∧ t.2 = s.2.spawn s.1.sm.rt)
    (Q := fun _ => False) (by rw [hstate]; decide) hdue ?_
  · exact hends.resolve_right fun ⟨_, _, hfails, _⟩ => hfails
  · rw [hstate]
    exact ⟨rfl, ⟨rfl, rfl, rfl⟩, rfl⟩

/-- **The Shutdown state** runs the hooks, unless it fails before; it is left only after them. -/
lemma tick_shutdown (hgate : s.1.sm.rt.irqPinningComplete = false)
    (hstate : s.1.sm.state = .Shutdown) (hdown : ¬ s.1.desired.WantsUp) :
    let s' := s.1.advance (env.withIrq os) s.2
    let added := s'.2.ddc = s.2.ddc ++ s.1.sm.rt.cfg.downCommands
    SameSetup s.1.sm.rt s'.1.sm.rt ∧ s'.2.worker = s.2.worker ∧ (s'.2.ddc = s.2.ddc ∨ added) ∧
      (s'.1.sm.state ≠ .Shutdown → added) := by
  intro s' added
  have hdue := due_stepShutdown_iff.mpr ⟨hdown, (by rw [hstate]; decide : s.1.sm.state ≠ .Idle)⟩
  have harm := @ends_tearDown_shutdown V env.host os (s.1.sm, s.2) hgate
  rw [← hstate] at harm
  rcases Ends.advance (env.withIrq os) (by rw [hstate]; decide) hdue harm with
    ⟨hsetup, hworker, hddc⟩ | ⟨rt, m, hfails, hsm⟩
  · exact ⟨hsetup, hworker, .inr hddc, fun _ => hddc⟩
  · have hstay : s'.1.sm.state = .Shutdown := by
      rw [show s'.1.sm = _ from hsm]
      exact hstate
    have hnoted : SameSetup s.1.sm.rt rt → SameSetup s.1.sm.rt s'.1.sm.rt := by
      intro hsetup
      rw [show s'.1.sm = _ from hsm]
      exact hsetup.trans ⟨rfl, rfl, rfl⟩
    rcases hfails with ⟨hsetup, hworker, hddc⟩ | ⟨hsetup, hworker, hddc⟩
    · exact ⟨hnoted hsetup, hworker, .inl hddc, fun h => absurd hstay h⟩
    · exact ⟨hnoted hsetup, hworker, .inr hddc, fun _ => hddc⟩

/-- The flag is set by the PinIrqs phase alone. -/
lemma pinned_tick (hpin : s.1.sm.state = .PinIrqs → ¬ s.1.desired.WantsUp) :
    (s.1.advance (env.withIrq os) s.2).1.sm.rt.pinnedIrqs = true →
      s.1.sm.rt.pinnedIrqs = true := by
  have hframed : FramedBut fun (rt : VmRuntime) (_ : IrqWorld V) =>
      rt.pinnedIrqs = true → s.1.sm.rt.pinnedIrqs = true :=
    ⟨fun _ _ _ _ h => h, fun _ _ h => h, fun _ _ _ h => h⟩
  refine hframed.tick (fun _ _ h => h) (fun c _ t ht => ?_)
    (fun hstate hup => absurd hup (hpin hstate)) id
  have hstore : ∀ part, (c.store t.1.rt part).pinnedIrqs = t.1.rt.pinnedIrqs := by
    intro part
    cases c <;> rfl
  rw [ends_invoke, Ends]
  cases ((env.withIrq os).host.call c t.1.rt (c.owned t.1.rt, t.2)) with
  | ok a u => exact fun h => ht ((hstore u.1).symm.trans h)
  | error e u => exact fun h => ht ((hstore u.1).symm.trans h)

/-- **PinIrqs** sets the flag. -/
lemma tick_pinIrqs (hstate : s.1.sm.state = .PinIrqs) (hup : s.1.desired.WantsUp) :
    let s' := s.1.advance (env.withIrq os) s.2
    s'.1.sm.state = .PeripheralHooks ∧ s'.1.sm.rt.pinnedIrqs = true ∧ s'.2 = s.2 := by
  have hdue := due_step_iff.mpr ⟨hup, (by rw [hstate]; decide : s.1.sm.state.IsBringUp)⟩
  have hends := Ends.advance (env.withIrq os) (w := s.2)
    (P := fun t => t.1.state = .PeripheralHooks ∧ t.1.rt.pinnedIrqs = true ∧ t.2 = s.2)
    (Q := fun _ => False) (by rw [hstate]; decide) hdue ?_
  · exact hends.resolve_right fun ⟨_, _, hfails, _⟩ => hfails
  · rw [hstate]
    exact ⟨rfl, rfl, rfl⟩

end

/-! ## What an event does -/

/-- The phases between the spawn of the worker and the shutdown. -/
def VmState.AfterDetect (p : VmState) : Prop :=
  VmState.PinIrqs.rank ≤ p.rank ∧ p.rank ≤ VmState.Steady.rank

/-- The states after the hooks of the shutdown. -/
def VmState.PastHooks (p : VmState) : Prop := VmState.Cleanup.rank ≤ p.rank

instance (p : VmState) : Decidable p.AfterDetect := inferInstanceAs (Decidable (_ ∧ _))

instance (p : VmState) : Decidable p.PastHooks := inferInstanceAs (Decidable (_ ≤ _))

/-- The event is a tick that brings the VM up through the phase `p`. -/
def Takes (p : VmState) (s : IrqState V) : IrqOp V → Prop
  | .Tick _ _ => s.1.sm.state = p ∧ s.1.desired.WantsUp
  | .Start | .Stop | .WorkerStep _ => False

/-- A move of the state machine that neither leaves DetectMsi for the next phase nor runs the
hooks. -/
structure QuietMove (p q : VmState) : Prop where
  rank_le : p.rank ≤ q.rank
  afterDetect : q.AfterDetect → p.AfterDetect
  pastHooks : q.PastHooks → p.PastHooks

/-- Everything that an event can do to the worker, the commands and the flag. -/
inductive Evolves (sys : DeviceSysfs) (s : IrqState V) (op : IrqOp V) (s' : IrqState V) : Prop
  | quiet : ¬ Takes .DetectMsi s op → ¬ Takes .PinIrqs s op → s'.2.worker = s.2.worker →
      s'.2.ddc = s.2.ddc → (s'.1.sm.rt.pinnedIrqs = true → s.1.sm.rt.pinnedIrqs = true) →
      QuietMove s.1.sm.state s'.1.sm.state → Evolves sys s op s'
  | spawns : Takes .DetectMsi s op → s.1.sm.state = .DetectMsi → s'.1.sm.state = .PinIrqs →
      s'.2 = s.2.spawn s.1.sm.rt →
      (s'.1.sm.rt.pinnedIrqs = true → s.1.sm.rt.pinnedIrqs = true) → Evolves sys s op s'
  | pins : Takes .PinIrqs s op → s.1.sm.state = .PinIrqs → s'.1.sm.state = .PeripheralHooks →
      s'.2 = s.2 → s'.1.sm.rt.pinnedIrqs = true → Evolves sys s op s'
  | downs : (∃ env os, op = .Tick env os) → s.1.sm.state = .Shutdown →
      s.1.sm.state.rank ≤ s'.1.sm.state.rank →
      s'.2.worker = s.2.worker →
      (s'.2.ddc = s.2.ddc ∨ s'.2.ddc = s.2.ddc ++ s.1.sm.rt.cfg.downCommands) →
      (s'.1.sm.state ≠ .Shutdown → s'.2.ddc = s.2.ddc ++ s.1.sm.rt.cfg.downCommands) →
      (s'.1.sm.rt.pinnedIrqs = true → s.1.sm.rt.pinnedIrqs = true) → Evolves sys s op s'
  | works {os : IrqCalls V} {w : IrqWorker} {added : List DdcCommand} {point : WorkerPoint} :
      op = .WorkerStep os → s.2.worker = some w → s'.1 = s.1 →
      s'.2.worker = some { w with point } → s'.2.ddc = s.2.ddc ++ added →
      Moves sys w (os.processExists w.qemuPid s.2.rest) w.point added point → Evolves sys s op s'

lemma quietMove_of_next {op : Op} {p q : VmState} (h : op.next p = some q)
    (hdetect : p = .DetectMsi → op ≠ .Step) (hdown : p = .Shutdown → op = .Step) :
    QuietMove p q := by
  have hquiet : p.rank ≤ q.rank ∧ (q.AfterDetect → p.AfterDetect) ∧
      (q.PastHooks → p.PastHooks) := by
    revert h hdetect hdown
    revert q
    cases op <;> cases p <;> decide
  exact ⟨hquiet.1, hquiet.2.1, hquiet.2.2⟩

lemma quietMove_of_drives {p q : VmState} {desired desired' : IpcVmState}
    (h : Drives p desired q desired') (hdetect : p = .DetectMsi → ¬ desired.WantsUp)
    (hdown : p = .Shutdown → desired.WantsUp) : QuietMove p q := by
  cases h with
  | rests hdue => exact ⟨le_rfl, id, id⟩
  | succeeds hdue hnext =>
      exact quietMove_of_next hnext (fun h hstep => hdetect h ((step_due hdue).mp hstep))
        fun h => (step_due hdue).mpr (hdown h)
  | fails hdue => exact ⟨le_rfl, id, id⟩

section

variable {sys : DeviceSysfs} {s : IrqState V}

lemma not_takes {op : IrqOp V} {p q : VmState} (hstate : s.1.sm.state = q) (hne : q ≠ p) :
    ¬ Takes p s op := by
  cases op with
  | Tick env os => exact fun htakes => hne (hstate.symm.trans htakes.1)
  | Start | Stop | WorkerStep os => exact id

/-- Only PinIrqs sets the flag. -/
lemma Evolves.pinned {s' : IrqState V} {op : IrqOp V} (h : Evolves sys s op s')
    (hpins : ¬ Takes .PinIrqs s op) :
    s'.1.sm.rt.pinnedIrqs = true → s.1.sm.rt.pinnedIrqs = true := by
  cases h with
  | quiet _ _ _ _ hkept _ => exact hkept
  | spawns _ _ _ _ hkept => exact hkept
  | pins htakes => exact absurd htakes hpins
  | downs _ _ _ _ _ _ hkept => exact hkept
  | works _ _ hvm =>
      rw [hvm]
      exact id

lemma evolves_tick (hgate : s.1.sm.rt.irqPinningComplete = false) (env : TickEnv V)
    (os : IrqCalls V) : Evolves sys s (.Tick env os) (applyIrq sys s (.Tick env os)) := by
  by_cases hdetect : s.1.sm.state = .DetectMsi ∧ s.1.desired.WantsUp
  · obtain ⟨hstate, -, hworld⟩ := tick_detectMsi env os hdetect.1 hdetect.2
    exact .spawns hdetect hdetect.1 hstate hworld
      (pinned_tick env os fun h => absurd (hdetect.1.symm.trans h) (by decide))
  by_cases hpins : s.1.sm.state = .PinIrqs ∧ s.1.desired.WantsUp
  · obtain ⟨hstate, hflag, hworld⟩ := tick_pinIrqs env os hpins.1 hpins.2
    exact .pins hpins hpins.1 hstate hworld hflag
  have hflag := pinned_tick env os fun h hup => hpins ⟨h, hup⟩
  by_cases hdown : s.1.sm.state = .Shutdown ∧ ¬ s.1.desired.WantsUp
  · obtain ⟨-, hworker, hddc, hleft⟩ := tick_shutdown env os hgate hdown.1 hdown.2
    exact .downs ⟨env, os, rfl⟩ hdown.1 (rank_le_advance (env.withIrq os) s.1 s.2) hworker hddc
      hleft hflag
  have hshut : s.1.sm.state = .Shutdown → s.1.desired.WantsUp := fun h => by
    by_contra hnot
    exact hdown ⟨h, hnot⟩
  obtain ⟨-, hworker, hddc⟩ := frozen_tick env os hgate
    (fun h hup => hdetect ⟨h, hup⟩) hshut
  refine .quiet hdetect hpins hworker hddc hflag ?_
  rcases advance_drives (env.withIrq os) s.1 s.2 with hd | ⟨hsteady, hd⟩
  · exact quietMove_of_drives hd (fun h hup => hdetect ⟨h, hup⟩) hshut
  · rw [hsteady]
    exact quietMove_of_drives hd (fun h => absurd h (by decide)) fun h => absurd h (by decide)

/-- **What an event does.** -/
theorem evolves_applyIrq (sys : DeviceSysfs) (hgate : s.1.sm.rt.irqPinningComplete = false)
    (op : IrqOp V) :
    Evolves sys s op (applyIrq sys s op) := by
  cases op with
  | Tick env os => exact evolves_tick hgate env os
  | Start =>
      rw [applyIrq]
      split_ifs
      · exact .quiet id id rfl rfl id ⟨le_rfl, id, id⟩
      · exact .quiet id id rfl rfl id ⟨le_rfl, id, id⟩
  | Stop => exact .quiet id id rfl rfl id ⟨le_rfl, id, id⟩
  | WorkerStep os =>
      rw [applyIrq]
      cases hworker : s.2.worker with
      | none => exact .quiet id id rfl rfl id ⟨le_rfl, id, id⟩
      | some w =>
          obtain ⟨added, point, hw, hddc, hmoves⟩ :=
            moves_workerStep os sys w (s.2.ddc, s.2.rest)
          exact .works rfl hworker rfl (congrArg some hw) hddc hmoves

/-! ## The invariant -/

/-- What holds in every run: the setup is the one the VM was started with, the gate of the hook is
closed, there is no worker before DetectMsi has succeeded, and the commands are those of the
configuration. -/
structure IrqInv (cfg : VmConfig) (cpus : VmCpuLayout) (s : IrqState V) : Prop where
  sameCfg : s.1.sm.rt.cfg = cfg
  sameCpus : s.1.sm.rt.cpus = cpus
  gate : s.1.sm.rt.irqPinningComplete = false
  early : s.1.sm.state.rank ≤ VmState.DetectMsi.rank → s.2.worker = none
  args : ∀ w, s.2.worker = some w →
    w.vmCfg = cfg ∧ w.vmCpus = cpus.vm.cpus ∧ w.devices = collectDevices cfg
  sent : ∀ c ∈ s.2.ddc, ∃ ddc, cfg.ddc = some ddc ∧ c = ddc.command c.phase

variable {cfg : VmConfig} {cpus : VmCpuLayout}

lemma irqInv_fresh (name : String) (rest : V) : IrqInv cfg cpus (freshIrq name cfg cpus rest) :=
  ⟨rfl, rfl, rfl, fun _ => rfl, (fun _ h => by cases h), (fun _ h => by cases h)⟩

/-- The setup stays as it is. -/
lemma sameSetup_applyIrq (sys : DeviceSysfs) (hgate : s.1.sm.rt.irqPinningComplete = false)
    (op : IrqOp V) :
    SameSetup s.1.sm.rt (applyIrq sys s op).1.sm.rt := by
  cases op with
  | Tick env os =>
      by_cases hdetect : s.1.sm.state = .DetectMsi ∧ s.1.desired.WantsUp
      · exact (tick_detectMsi env os hdetect.1 hdetect.2).2.1
      by_cases hdown : s.1.sm.state = .Shutdown ∧ ¬ s.1.desired.WantsUp
      · exact (tick_shutdown env os hgate hdown.1 hdown.2).1
      · refine (frozen_tick env os hgate (fun h hup => hdetect ⟨h, hup⟩) fun h => ?_).1
        by_contra hnot
        exact hdown ⟨h, hnot⟩
  | Start =>
      rw [applyIrq]
      split_ifs <;> exact ⟨rfl, rfl, rfl⟩
  | Stop => exact ⟨rfl, rfl, rfl⟩
  | WorkerStep os =>
      rw [applyIrq]
      cases s.2.worker <;> exact ⟨rfl, rfl, rfl⟩

/-- The worker that is spawned gets the setup of the VM. -/
lemma args_of_spawn {rt : VmRuntime} {w : IrqWorker} (h : spawnIrqPinWorker rt = some w) :
    w.vmCfg = rt.cfg ∧ w.vmCpus = rt.cpus.vm.cpus ∧ w.devices = collectDevices rt.cfg ∧
      w.point = .Entry := by
  simp only [spawnIrqPinWorker] at h
  split_ifs at h
  obtain ⟨q, -, rfl⟩ := Option.map_eq_some_iff.mp h
  exact ⟨rfl, rfl, rfl, rfl⟩

/-- The first worker is the one that is spawned. -/
lemma worker_spawn {rt : VmRuntime} {w : IrqWorld V} (hnone : w.worker = none) :
    (w.spawn rt).worker = spawnIrqPinWorker rt := by
  rw [IrqWorld.spawn, hnone, Option.or_none]

lemma mem_downCommands {c : DdcCommand} (h : c ∈ cfg.downCommands) :
    c.phase = .VmDown ∧ ∃ ddc, cfg.ddc = some ddc ∧ c = ddc.command c.phase := by
  rw [VmConfig.downCommands, Option.mem_toList] at h
  obtain ⟨ddc, hddc, rfl⟩ := Option.map_eq_some_iff.mp h
  exact ⟨rfl, ddc, hddc, rfl⟩

lemma mem_upCommands {c : DdcCommand} (h : c ∈ cfg.upCommands) :
    c.phase = .IrqComplete ∧ ∃ ddc, cfg.ddc = some ddc ∧ c = ddc.command c.phase := by
  rw [VmConfig.upCommands, Option.mem_toList] at h
  obtain ⟨ddc, hddc, rfl⟩ := Option.map_eq_some_iff.mp h
  exact ⟨rfl, ddc, hddc, rfl⟩

/-- A step of the worker sends nothing, or it switches to the VM at the end. -/
lemma added_moves {w : IrqWorker} {alive : Bool} {p p' : WorkerPoint} {added : List DdcCommand}
    (h : Moves sys w alive p added p') :
    added = [] ∨ (∃ items, p = .Finish items) ∧ added = w.vmCfg.upCommands := by
  cases h with
  | switches => exact .inr ⟨⟨_, rfl⟩, rfl⟩
  | skips | enters | finds | aborts | scans | repeats | finishes | rests => exact .inl rfl

/-- Every command is one that the configuration asks for. -/
lemma IrqInv.sent_applyIrq (sys : DeviceSysfs) (hs : IrqInv cfg cpus s) (op : IrqOp V) :
    ∀ c ∈ (Chalybs.applyIrq sys s op).2.ddc,
      ∃ ddc, cfg.ddc = some ddc ∧ c = ddc.command c.phase := by
  have happend : ∀ {added : List DdcCommand},
      (∀ c ∈ added, ∃ ddc, cfg.ddc = some ddc ∧ c = ddc.command c.phase) →
      ∀ c ∈ s.2.ddc ++ added, ∃ ddc, cfg.ddc = some ddc ∧ c = ddc.command c.phase :=
    fun hadded c hc => (List.mem_append.mp hc).elim (hs.sent c) (hadded c)
  rcases evolves_applyIrq sys hs.gate op with
    ⟨-, -, -, hddc, -, -⟩ | ⟨-, -, -, hworld, -⟩ | ⟨-, -, -, hworld, -⟩ |
    ⟨-, -, -, -, hddc, -, -⟩ | ⟨-, hold, -, -, hddc, hmoves⟩
  · rw [hddc]
    exact hs.sent
  · rw [hworld]
    exact hs.sent
  · rw [hworld]
    exact hs.sent
  · rcases hddc with hddc | hddc <;> rw [hddc]
    · exact hs.sent
    · rw [hs.sameCfg]
      exact happend fun c hc => (mem_downCommands hc).2
  · rw [hddc]
    rcases added_moves hmoves with hnil | ⟨-, hup⟩
    · rw [hnil, List.append_nil]
      exact hs.sent
    · rw [hup, (hs.args _ hold).1]
      exact happend fun c hc => (mem_upCommands hc).2

/-- **The invariant is kept** by every event. -/
theorem IrqInv.applyIrq (sys : DeviceSysfs) (hs : IrqInv cfg cpus s) (op : IrqOp V) :
    IrqInv cfg cpus (Chalybs.applyIrq sys s op) := by
  have hsetup := sameSetup_applyIrq sys hs.gate op
  have hcfg := hsetup.cfg.trans hs.sameCfg
  have hcpus := hsetup.cpus.trans hs.sameCpus
  have hgate := hsetup.gate.trans hs.gate
  have hsent := hs.sent_applyIrq sys op
  rcases evolves_applyIrq sys hs.gate op with
    ⟨-, -, hworker, -, -, hmove⟩ | ⟨-, hstate, hstate', hworld, -⟩ |
    ⟨-, hstate, hstate', hworld, -⟩ | ⟨-, -, hrank, hworker, -, -, -⟩ |
    ⟨-, hold, hvm, hworker, -, -⟩
  · exact ⟨hcfg, hcpus, hgate, fun h => hworker.trans (hs.early (hmove.rank_le.trans h)),
      fun w hw => hs.args w (hworker.symm.trans hw), hsent⟩
  · refine ⟨hcfg, hcpus, hgate, fun h => ?_, fun w hw => ?_, hsent⟩
    · rw [hstate'] at h
      exact absurd h (by decide)
    · have hnone := hs.early (by rw [hstate])
      rw [hworld, worker_spawn hnone] at hw
      obtain ⟨hcfg', hcpus', hdevices, -⟩ := args_of_spawn hw
      rw [hs.sameCfg] at hcfg' hdevices
      rw [hs.sameCpus] at hcpus'
      exact ⟨hcfg', hcpus', hdevices⟩
  · refine ⟨hcfg, hcpus, hgate, fun h => ?_,
      fun w hw => hs.args w (by rw [← hworld]; exact hw), hsent⟩
    rw [hstate'] at h
    exact absurd h (by decide)
  · exact ⟨hcfg, hcpus, hgate, fun h => hworker.trans (hs.early (hrank.trans h)),
      fun w hw => hs.args w (hworker.symm.trans hw), hsent⟩
  · refine ⟨hcfg, hcpus, hgate, fun h => ?_, fun w hw => ?_, hsent⟩
    · rw [hvm] at h
      rw [hs.early h] at hold
      cases hold
    · obtain rfl := Option.some.inj (hworker.symm.trans hw)
      have hargs := hs.args _ hold
      exact hargs

end

end Chalybs
