import Chalybs.Foundation.Run
import Chalybs.Machine.State
import Chalybs.Peripherals.Hooks

/-!
# The Tasmota relay

The hooks note in `tasmota_powered` what came of their last publish.  A publish that returns `Ok` is
delivered, and the relay then is as it was told; one that returns `Err` leaves the relay as it was.

* `RelayState.apply` — a call of the hooks, on the runtime and with the relay.
* `RelayState.apply_eq` — what a call does to the flag and to the relay.
* `relay_truth_iff` — when the flag tells the state of the relay.
-/

namespace Chalybs

open Foundation

variable {V : Type}

/-! ## The system -/

/-- The calls, with the relay beside the rest of the host: it takes what is delivered. -/
def HookCalls.withRelay (os : HookCalls V) : HookCalls (Bool × V) where
  publishPower cfg on := fun t =>
    match os.publishPower cfg on t.2 with
    | .ok _ v => .ok () (on, v)
    | .error e v => .error e (t.1, v)
  sendDdcSetInput bus code value :=
    zoom Prod.snd (fun v t => (t.1, v)) (os.sendDdcSetInput bus code value)

/-- The runtime, the commands to the monitor, the relay and the rest of the host. -/
structure RelayState (V : Type) where
  rt : VmRuntime
  ddc : List DdcCommand
  /-- The last command that was delivered; off before the first. -/
  relay : Bool
  rest : V

/-- A call of the hooks, with what the broker and the bus answer to it. -/
inductive HookOp (V : Type)
  | VmUp (os : HookCalls V)
  | VmDown (os : HookCalls V)

def HookOp.os : HookOp V → HookCalls V
  | .VmUp os | .VmDown os => os

/-- What the relay is told. -/
def HookOp.on : HookOp V → Bool
  | .VmUp _ => true
  | .VmDown _ => false

/-- `apply_vm_up` or `apply_vm_down`. -/
def HookOp.hook (rt : VmRuntime) : HookOp V → HookM (Bool × V) Unit
  | .VmUp os => os.withRelay.applyVmUp rt
  | .VmDown os => os.withRelay.applyVmDown rt

/-- The relay that is configured. -/
def VmConfig.tasmota (cfg : VmConfig) : Option TasmotaConfig :=
  cfg.peripherals.bind PeripheralConfig.tasmota

namespace RelayState

/-- The state after a call, whether or not it returned. -/
def apply (s : RelayState V) (op : HookOp V) : RelayState V :=
  let t := (outcome (op.hook s.rt) ((s.rt.tasmotaPowered, []), s.ddc, s.relay, s.rest)).2
  { rt := Callee.ApplyVmUp.store s.rt t.1
    ddc := t.2.1
    relay := t.2.2.1
    rest := t.2.2.2 }

/-- The publish of a call returns `Ok`. -/
def Publishes (s : RelayState V) (op : HookOp V) : Prop :=
  ∀ cfg, s.rt.cfg.tasmota = some cfg → (outcome (op.os.publishPower cfg op.on) s.rest).1 = true

/-- The flag of the runtime is the state of the relay. -/
def Truthful (s : RelayState V) : Prop := s.rt.tasmotaPowered = s.relay

end RelayState

/-! ## What a call does -/

section

variable {os : HookCalls V} {rt : VmRuntime}

/-- The flag and the relay. -/
def flagAndRelay (t : (Bool × List CoreEvent) × List DdcCommand × Bool × V) : Bool × Bool :=
  (t.1.1, t.2.2.1)

/-- **A hook of the relay**: a publish that is delivered sets both, one that is not clears the
flag. -/
lemma ends_relayHook (on : Bool) (text : String) (cfg : TasmotaConfig)
    (t : (Bool × List CoreEvent) × List DdcCommand × Bool × V) :
    Ends (os.withRelay.tasmotaHook on text cfg) t
      (fun _ t' => flagAndRelay t' =
        if (outcome (os.publishPower cfg on) t.2.2.2).1 then (on, on) else (false, t.2.2.1))
      fun _ _ => False := by
  cases hsent : os.publishPower cfg on t.2.2.2 with
  | ok a v => simp [Ends, HookCalls.tasmotaHook, HookCalls.withRelay, outcome, hsent, flagAndRelay]
  | error e v =>
      simp [Ends, HookCalls.tasmotaHook, HookCalls.withRelay, outcome, hsent, flagAndRelay]

/-- A command to the monitor leaves the flag and the relay as they are. -/
lemma preserves_setInput (cfg : DdcConfig) (input : UInt8) (phase : DdcPhase) (p : Bool × Bool) :
    Preserves (fun t => flagAndRelay t = p)
      (HookCalls.onDdc (os.withRelay.setInput cfg input phase)) := by
  intro t ht
  rw [HookCalls.onDdc, ends_zoom]
  simp only [Ends, HookCalls.setInput, HookCalls.withRelay, zoom]
  cases os.sendDdcSetInput cfg.monitorI2cBus vcpCodeInputSource input t.2.2.2 with
  | ok a v => exact ht
  | error e v =>
      simp only
      cases cfg.fatalOnError with
      | true => exact ht
      | false => exact ht

lemma preserves_gatedVmUp (cfg : DdcConfig) (p : Bool × Bool) :
    Preserves (fun t => flagAndRelay t = p) (os.withRelay.gatedVmUp rt cfg) := by
  rw [HookCalls.gatedVmUp]
  split_ifs
  · exact preserves_setInput cfg cfg.vmInput .VmUp p
  · exact Preserves.modify fun t ht => ht

lemma preserves_forM {α : Type} {cfg : Option α} {f : α → HookM (Bool × V) Unit} {p : Bool × Bool}
    (h : ∀ a, Preserves (fun t => flagAndRelay t = p) (f a)) :
    Preserves (fun t => flagAndRelay t = p) (cfg.forM f) := by
  cases cfg with
  | none => exact fun t ht => ht
  | some a => exact h a

/-- The hook of the relay, and then something that leaves the flag and the relay as they are. -/
lemma ends_relayHook_then (on : Bool) (text : String) (cfg : Option TasmotaConfig)
    {next : HookM (Bool × V) Unit} (hnext : ∀ p, Preserves (fun t => flagAndRelay t = p) next)
    (t : (Bool × List CoreEvent) × List DdcCommand × Bool × V) :
    flagAndRelay (outcome (cfg.forM (os.withRelay.tasmotaHook on text) >>= fun _ => next) t).2 =
      match cfg with
      | none => flagAndRelay t
      | some cfg =>
          if (outcome (os.publishPower cfg on) t.2.2.2).1 then (on, on) else (false, t.2.2.1) := by
  refine Ends.outcome_snd (P := fun t' => flagAndRelay t' = _) ?_
  rw [ends_bind]
  cases cfg with
  | none => exact hnext _ t rfl
  | some cfg =>
      exact (ends_relayHook on text cfg t).mono (fun _ t' ht' => hnext _ t' ht') fun _ _ h => h.elim

end

namespace RelayState

variable {s : RelayState V} {op : HookOp V}

/-- **What a call does** to the flag and the relay. -/
theorem apply_eq (s : RelayState V) (op : HookOp V) :
    ((s.apply op).rt.tasmotaPowered, (s.apply op).relay) =
      match s.rt.cfg.tasmota with
      | none => (s.rt.tasmotaPowered, s.relay)
      | some cfg =>
          if (outcome (op.os.publishPower cfg op.on) s.rest).1 then (op.on, op.on)
          else (false, s.relay) := by
  let t : (Bool × List CoreEvent) × List DdcCommand × Bool × V :=
    ((s.rt.tasmotaPowered, []), s.ddc, s.relay, s.rest)
  show flagAndRelay (outcome (op.hook s.rt) t).2 = _
  cases hcfg : s.rt.cfg.peripherals with
  | none =>
      cases op with
      | VmUp os => simp [HookOp.hook, HookCalls.applyVmUp, VmConfig.tasmota, hcfg]; rfl
      | VmDown os => simp [HookOp.hook, HookCalls.applyVmDown, VmConfig.tasmota, hcfg]; rfl
  | some cfg =>
      have htasmota : s.rt.cfg.tasmota = cfg.tasmota := by rw [VmConfig.tasmota, hcfg]; rfl
      rw [htasmota]
      cases op with
      | VmUp os =>
          rw [HookOp.hook, HookCalls.applyVmUp, hcfg]
          exact ends_relayHook_then true "ON" cfg.tasmota
            (fun p => preserves_forM fun ddc => preserves_gatedVmUp ddc p) t
      | VmDown os =>
          rw [HookOp.hook, HookCalls.applyVmDown, hcfg]
          exact ends_relayHook_then false "OFF" cfg.tasmota
            (fun p => preserves_forM fun ddc => preserves_setInput ddc ddc.hostInput .VmDown p) t

/-- From a state in which the flag is right, a call makes it wrong exactly when its publish fails
while the relay is on. -/
lemma truthful_apply_iff (h : s.Truthful) :
    (s.relay = true → s.Publishes op) ↔ (s.apply op).Truthful := by
  have heq := s.apply_eq op
  rw [Truthful] at h ⊢
  rw [Publishes]
  cases htasmota : s.rt.cfg.tasmota with
  | none =>
      simp only [htasmota, Prod.mk.injEq] at heq
      rw [heq.1, heq.2]
      simpa using h
  | some cfg =>
      simp only [htasmota] at heq
      simp only [Option.some.injEq, forall_eq']
      split_ifs at heq with hsent
      · rw [(Prod.mk.inj heq).1, (Prod.mk.inj heq).2]
        simp [hsent]
      · rw [(Prod.mk.inj heq).1, (Prod.mk.inj heq).2]
        simp only [hsent, Bool.false_eq_true, imp_false, Bool.not_eq_true]
        exact eq_comm

end RelayState

/-- **The flag tells the state of the relay** after every call of a run exactly when no publish
fails while the relay is on.  The run starts with a flag that is off and nothing delivered, and is
any sequence of the two hooks with any answers of the broker and the bus. -/
theorem relay_truth_iff (rt : VmRuntime) (hoff : rt.tasmotaPowered = false) (ddc : List DdcCommand)
    (v : V) (ops : List (HookOp V)) :
    Along RelayState.apply (fun s op => s.relay = true → s.Publishes op) ⟨rt, ddc, false, v⟩ ops ↔
      ∀ pre, pre <+: ops → (run RelayState.apply ⟨rt, ddc, false, v⟩ pre).Truthful := by
  have hstart : RelayState.Truthful ⟨rt, ddc, false, v⟩ := hoff
  refine along_iff_forall_prefix (I := RelayState.Truthful) (fun _ h => h) ?_ ?_ hstart ops
  · exact fun s op h => RelayState.truthful_apply_iff h
  · exact fun s op h => (RelayState.truthful_apply_iff h).mp

/-! ## A publish that fails -/

/-- A VM with a relay. -/
def relayVm : VmConfig :=
  { minimalVmConfig {} {} with
    peripherals := some { tasmota := some { mqttHost := "broker", deviceId := "plug" } } }

/-- A broker that answers `ok` to every publish, and a bus that takes every command. -/
def brokerAnswers (ok : Bool) : HookCalls Unit where
  publishPower _ _ :=
    if ok then pure () else throw (.Peripheral "tasmota: never received ConnAck before publish")
  sendDdcSetInput _ _ _ := pure ()

/-- A VM that is switched on, and off again after a first attempt that failed while it was off. -/
theorem relay_truth_off_on_off :
    (run RelayState.apply ⟨.new "a" relayVm ⟨⟨[]⟩, ⟨[]⟩⟩, [], false, ()⟩
      [HookOp.VmDown (brokerAnswers false), .VmUp (brokerAnswers true),
        .VmDown (brokerAnswers true)]).Truthful := by
  refine (relay_truth_iff (.new "a" relayVm ⟨⟨[]⟩, ⟨[]⟩⟩) rfl [] () _).mp ?_ _ List.prefix_rfl
  rw [along_cons, along_cons, along_cons]
  refine ⟨fun h => absurd h (by decide), fun _ cfg _ => rfl, fun _ cfg _ => rfl, along_nil _ _⟩

/-- The relay stays on when the hook of the VM's end cannot reach the broker, and the flag is
cleared. -/
theorem flag_off_relay_on :
    ¬ ∀ (rt : VmRuntime) (ops : List (HookOp Unit)), rt.tasmotaPowered = false →
      ∀ pre, pre <+: ops → (run RelayState.apply ⟨rt, [], false, ()⟩ pre).Truthful := by
  intro h
  have hflag := h (.new "a" relayVm ⟨⟨[]⟩, ⟨[]⟩⟩)
    [.VmUp (brokerAnswers true), .VmDown (brokerAnswers false)] rfl _ List.prefix_rfl
  exact absurd hflag (by unfold RelayState.Truthful; decide)

end Chalybs
