import Chalybs.Machine.Calls

/-!
# What an operation keeps

Between its calls an operation of the state machine changes only the state, the flags, the plan and
the log of the runtime.

* `outcome_arm` — what the arms that launch QEMU and shut it down come to.
* `FramedBut.perform`, `Framed.perform` — a property that the changes between the calls keep, and
  every call of an operation, is kept by the operation.
* `events_advance` — the log only grows.
-/

namespace Chalybs

open Foundation

/-! ## The arms -/

section

variable {W : Type}

lemma outcome_invoke (h : Host W) (c : Callee) (s : VmStateMachine × W) :
    outcome (h.invoke c) s =
      let (ok, u) := outcome (h.call c s.1.rt) (c.owned s.1.rt, s.2)
      (ok, (⟨s.1.state, c.store s.1.rt u.1⟩, u.2)) := by
  rw [outcome, outcome, Host.invoke]
  cases h.call c s.1.rt (c.owned s.1.rt, s.2) with
  | ok a u => rfl
  | error e u => rfl

/-- A call of a function, from what the function does to its part of the runtime. -/
lemma ends_invoke {h : Host W} {c : Callee} {s : VmStateMachine × W}
    {Q : Unit → VmStateMachine × W → Prop} {E : ChalybsError → VmStateMachine × W → Prop} :
    Ends (h.invoke c) s Q E ↔
      Ends (h.call c s.1.rt) (c.owned s.1.rt, s.2)
        (fun _ u => Q () (⟨s.1.state, c.store s.1.rt u.1⟩, u.2))
        (fun e u => E e (⟨s.1.state, c.store s.1.rt u.1⟩, u.2)) := by
  rw [Ends, Ends, Host.invoke]
  cases h.call c s.1.rt (c.owned s.1.rt, s.2) with
  | ok a u => exact Iff.rfl
  | error e u => exact Iff.rfl

/-- What an operation does to the runtime between its calls. -/
lemma ends_modifyRt {f : VmRuntime → VmRuntime} {s : VmStateMachine × W}
    {Q : Unit → VmStateMachine × W → Prop} {E : ChalybsError → VmStateMachine × W → Prop} :
    Ends (modifyRt f) s Q E ↔ Q () (⟨s.1.state, f s.1.rt⟩, s.2) := Iff.rfl

lemma ends_pushInfo {m : String} {s : VmStateMachine × W}
    {Q : Unit → VmStateMachine × W → Prop} {E : ChalybsError → VmStateMachine × W → Prop} :
    Ends (pushInfo m) s Q E ↔ Q () (⟨s.1.state, s.1.rt.pushInfo m⟩, s.2) := ends_modifyRt

lemma ends_pushSystem {m : String} {s : VmStateMachine × W}
    {Q : Unit → VmStateMachine × W → Prop} {E : ChalybsError → VmStateMachine × W → Prop} :
    Ends (pushSystem m) s Q E ↔ Q () (⟨s.1.state, s.1.rt.pushSystem m⟩, s.2) := ends_modifyRt

/-- The shape of the arms that launch QEMU and shut it down. -/
lemma outcome_arm (h : Host W) (c : Callee) (m : String) (f : VmRuntime → VmRuntime)
    (state : VmState) (s : VmStateMachine × W) :
    outcome (pushSystem m >>= fun _ => h.invoke c >>= fun _ => modifyRt f >>= fun _ =>
        setState state) s =
      let rt := s.1.rt.pushSystem m
      let (ok, u) := outcome (h.call c rt) (c.owned rt, s.2)
      (ok, if ok then (⟨state, f (c.store rt u.1)⟩, u.2)
        else (⟨s.1.state, c.store rt u.1⟩, u.2)) := by
  have hinvoke : outcome (pushSystem m >>= fun _ => h.invoke c >>= fun _ => modifyRt f >>= fun _ =>
      setState state) s = outcome (h.invoke c >>= fun _ => modifyRt f >>= fun _ =>
        setState state) (⟨s.1.state, s.1.rt.pushSystem m⟩, s.2) := rfl
  rw [hinvoke, outcome_seq, outcome_invoke]
  dsimp only
  generalize outcome (h.call c (s.1.rt.pushSystem m)) (c.owned (s.1.rt.pushSystem m), s.2) = r
  obtain ⟨ok, u⟩ := r
  cases ok with
  | true => rfl
  | false => rfl

lemma outcome_perform (h : Host W) (op : Op) (s : VmStateMachine × W) :
    outcome (h.perform op) s = match op with
      | .Step => outcome (h.bringUp s.1.state) s
      | .StepShutdown => outcome (h.tearDown s.1.state) s := by
  cases op with
  | Step =>
      show outcome (h.bringUp s.1.state >>= fun _ => returnState) s = _
      rw [outcome_seq]
      split_ifs with hok
      · exact Prod.ext hok.symm rfl
      · rfl
  | StepShutdown =>
      show outcome (h.tearDown s.1.state >>= fun _ => returnState) s = _
      rw [outcome_seq]
      split_ifs with hok
      · exact Prod.ext hok.symm rfl
      · rfl

/-- An operation ends as the arm of its state does. -/
lemma ends_perform {h : Host W} {op : Op} {s : VmStateMachine × W}
    {P : VmStateMachine × W → Prop} {E : ChalybsError → VmStateMachine × W → Prop} :
    Ends (h.perform op) s (fun _ => P) E ↔
      Ends (match op with
        | .Step => h.bringUp s.1.state
        | .StepShutdown => h.tearDown s.1.state) s (fun _ => P) E := by
  cases op with
  | Step =>
      show Ends (h.bringUp s.1.state >>= fun _ => returnState) s _ _ ↔ _
      rw [ends_bind]
      exact Iff.rfl
  | StepShutdown =>
      show Ends (h.tearDown s.1.state >>= fun _ => returnState) s _ _ ↔ _
      rw [ends_bind]
      exact Iff.rfl

/-! ## The other arms -/

/-- A property of the runtime and the host that what an operation does between its calls keeps,
except perhaps in the PinIrqs phase. -/
structure FramedBut (P : VmRuntime → W → Prop) : Prop where
  push : ∀ rt w kind message, P rt w → P (rt.pushEvent kind message) w
  pinnedThreads : ∀ rt w, P rt w → P { rt with pinnedThreads := true } w
  cpuPlan : ∀ rt w plan, P rt w → P { rt with cpuPlan := some plan } w

/-- A property of the runtime and the host that what an operation does between its calls keeps. -/
structure Framed (P : VmRuntime → W → Prop) : Prop extends FramedBut P where
  pinnedIrqs : ∀ rt w, P rt w → P { rt with pinnedIrqs := true } w

/-- The property as one of the machine and the host. -/
def OnRuntime (P : VmRuntime → W → Prop) (t : VmStateMachine × W) : Prop := P t.1.rt t.2

section

variable {P : VmRuntime → W → Prop}

lemma preserves_modifyRt {f : VmRuntime → VmRuntime} (hf : ∀ rt w, P rt w → P (f rt) w) :
    Preserves (OnRuntime P) (modifyRt f) :=
  Preserves.modify fun t ht => hf t.1.rt t.2 ht

lemma preserves_setState {state : VmState} : Preserves (OnRuntime P) (setState state) :=
  Preserves.modify fun _ ht => ht

lemma FramedBut.pushLaunched (hP : FramedBut P) (rt : VmRuntime) (w : W) (h : P rt w) :
    P rt.pushLaunched w := by
  rw [VmRuntime.pushLaunched]
  split
  · exact hP.push _ _ _ _ h
  · exact hP.push _ _ _ _ h

lemma FramedBut.planCpus (hP : FramedBut P) (h : Host W) (w : W) {rt : VmRuntime} (hrt : P rt w) :
    P (h.planCpus w rt).1 w := by
  rw [Host.planCpus]
  split
  · split
    · simp only
      split_ifs
      · exact hP.push _ _ _ _ (hP.cpuPlan _ _ _ hrt)
      · exact hP.push _ _ _ _ hrt
    · exact hP.push _ _ _ _ hrt
  · exact hP.push _ _ _ _ hrt

lemma preserves_checkCpuPlan (hP : FramedBut P) (h : Host W) :
    Preserves (OnRuntime P) h.checkCpuPlan := by
  intro t ht
  have hrt := hP.planCpus h t.2 ht
  rw [Ends, Host.checkCpuPlan]
  cases hplan : h.planCpus t.2 t.1.rt with
  | mk rt e =>
      rw [hplan] at hrt
      cases e with
      | none => exact hrt
      | some e => exact hrt

/-- **An operation keeps what its calls keep**, and what setting the flag keeps in the PinIrqs
phase. -/
theorem FramedBut.perform (hP : FramedBut P) {h : Host W} {op : Op} {s : VmStateMachine × W}
    (hcalls : ∀ c ∈ op.work s.1.state, Preserves (OnRuntime P) (h.invoke c))
    (hirqs : op = .Step → s.1.state = .PinIrqs → ∀ rt w, P rt w →
      P { rt with pinnedIrqs := true } w)
    (hs : OnRuntime P s) : OnRuntime P (advance s (op, h)) := by
  have harm : Preserves (OnRuntime P) (match op with
      | .Step => h.bringUp s.1.state
      | .StepShutdown => h.tearDown s.1.state) := by
    revert hcalls hirqs
    cases op <;> cases s.1.state <;> intro hcalls hirqs <;>
    repeat' first
      | refine Preserves.bind ?_ fun _ => ?_
      | exact preserves_modifyRt fun rt w hrt => hP.push rt w _ _ hrt
      | exact preserves_setState
      | exact hcalls _ (by decide)
      | exact preserves_modifyRt hP.pinnedThreads
      | exact preserves_modifyRt (hirqs rfl rfl)
      | exact preserves_modifyRt hP.pushLaunched
      | exact preserves_checkCpuPlan hP h
      | exact Preserves.throw
  rw [advance, outcome_perform]
  cases op with
  | Step => exact harm.outcome_snd hs
  | StepShutdown => exact harm.outcome_snd hs

/-- **An operation keeps what its calls keep.** -/
theorem Framed.perform (hP : Framed P) {h : Host W} {op : Op} {s : VmStateMachine × W}
    (hcalls : ∀ c ∈ op.work s.1.state, Preserves (OnRuntime P) (h.invoke c))
    (hs : OnRuntime P s) : OnRuntime P (advance s (op, h)) :=
  hP.toFramedBut.perform hcalls (fun _ _ => hP.pinnedIrqs) hs

end

/-! ## The recorded process -/

/-- A property of the recorded process and the host. -/
def OnQemu (R : Option QemuState → W → Prop) (t : VmStateMachine × W) : Prop := R t.1.rt.qemu t.2

variable {R : Option QemuState → W → Prop}

lemma framed_qemu : Framed fun rt w => R rt.qemu w where
  push _ _ _ _ h := h
  pinnedThreads _ _ h := h
  pinnedIrqs _ _ h := h
  cpuPlan _ _ _ h := h

lemma qemu_pushLaunched (rt : VmRuntime) : rt.pushLaunched.qemu = rt.qemu := by
  rw [VmRuntime.pushLaunched]
  split <;> rfl

/-- Only two of the functions write the handle. -/
lemma store_qemu {c : Callee} (hlaunch : c ≠ .LaunchQemu) (hshutdown : c ≠ .ShutdownQemu)
    (rt : VmRuntime) (part : c.Owned) : (c.store rt part).qemu = rt.qemu := by
  cases c <;> first | rfl | contradiction

/-- An operation keeps what its calls keep of the process. -/
theorem preserves_perform {h : Host W} {op : Op} {s : VmStateMachine × W}
    (hcalls : ∀ c ∈ op.work s.1.state, Preserves (OnQemu R) (h.invoke c)) (hs : OnQemu R s) :
    OnQemu R (advance s (op, h)) :=
  framed_qemu.perform hcalls hs

/-! ## The configuration -/

lemma cfg_store (c : Callee) (rt : VmRuntime) (part : c.Owned) :
    (c.store rt part).cfg = rt.cfg := by
  cases c <;> rfl

/-- **No operation changes the configuration.** -/
theorem cfg_advance (h : Host W) (op : Op) (s : VmStateMachine × W) :
    (advance s (op, h)).1.rt.cfg = s.1.rt.cfg := by
  have hframed : Framed fun (rt : VmRuntime) (_ : W) => rt.cfg = s.1.rt.cfg :=
    ⟨⟨fun _ _ _ _ h => h, fun _ _ h => h, fun _ _ _ h => h⟩, fun _ _ h => h⟩
  refine hframed.perform (s := s) (fun c _ t ht => ?_) rfl
  rw [ends_invoke, Ends]
  cases h.call c t.1.rt (c.owned t.1.rt, t.2) with
  | ok a u => exact (cfg_store c _ _).trans ht
  | error e u => exact (cfg_store c _ _).trans ht

/-! ## The log -/

lemma framed_events (log : List CoreEvent) :
    Framed fun (rt : VmRuntime) (_ : W) => log <+: rt.events where
  push _ _ _ _ h := h.trans (List.prefix_append _ _)
  pinnedThreads _ _ h := h
  pinnedIrqs _ _ h := h
  cpuPlan _ _ _ h := h

lemma events_store (c : Callee) (rt : VmRuntime) (part : c.Owned) :
    rt.events <+: (c.store rt part).events := by
  cases c <;> first | exact List.prefix_rfl | exact List.prefix_append _ _

/-- **An operation only appends to the log.** -/
theorem events_advance (h : Host W) (op : Op) (s : VmStateMachine × W) :
    s.1.rt.events <+: (advance s (op, h)).1.rt.events := by
  refine (framed_events (W := W) s.1.rt.events).perform (s := s) (fun c _ t ht => ?_)
    List.prefix_rfl
  rw [ends_invoke, Ends]
  cases h.call c t.1.rt (c.owned t.1.rt, t.2) with
  | ok a u => exact List.IsPrefix.trans ht (events_store c _ _)
  | error e u => exact List.IsPrefix.trans ht (events_store c _ _)

end

end Chalybs
