import Chalybs.Core.Model
import Chalybs.Foundation.Fallible

/-!
# Peripheral hooks

`apply_vm_up` and `apply_vm_down` (`peripherals/mod.rs`), with the hooks of the Tasmota relay and of
the monitor.  What the MQTT client and the I²C bus answer is a parameter; every call of
`DdcHook::set_input` is kept in a log.  The hooks of Looking Glass and SPICE only trace.

* `HookCalls.setInput` — one command to the monitor.
* `HookCalls.applyVmUp`, `HookCalls.applyVmDown` — the hooks of a VM.
* `ends_applyVmUp`, `ends_applyVmDown` — what they do to the log of the commands.
-/

namespace Chalybs

open Foundation

variable {V : Type}

/-- The phase that `set_input` is told. -/
inductive DdcPhase
  | VmUp
  | VmDown
  | IrqComplete
  deriving DecidableEq, Repr

/-- A call of `set_input`. -/
structure DdcCommand where
  bus : UInt8
  input : UInt8
  phase : DdcPhase
  deriving DecidableEq, Repr

/-- What the broker and the bus answer. -/
structure HookCalls (V : Type) where
  /-- `publish_power`. -/
  publishPower : TasmotaConfig → Bool → EStateM ChalybsError V Unit
  /-- `send_ddc_set_input`: bus, VCP code and value. -/
  sendDdcSetInput : UInt8 → UInt8 → UInt8 → EStateM ChalybsError V Unit

/-- `VCP_CODE_INPUT_SOURCE`. -/
def vcpCodeInputSource : UInt8 := 0x60

/-- A computation on the commands and the host. -/
abbrev DdcM (V : Type) := EStateM ChalybsError (List DdcCommand × V)

/-- A computation on the part of the runtime that the hooks may write, the commands and the host. -/
abbrev HookM (V : Type) := EStateM ChalybsError ((Bool × List CoreEvent) × List DdcCommand × V)

/-- The command that the hook of a phase sends. -/
def DdcConfig.command (cfg : DdcConfig) (phase : DdcPhase) : DdcCommand where
  bus := cfg.monitorI2cBus
  input := match phase with
    | .VmUp | .IrqComplete => cfg.vmInput
    | .VmDown => cfg.hostInput
  phase

namespace HookCalls

variable (os : HookCalls V)

/-- `DdcHook::set_input`.  An error stops it only when errors are fatal. -/
def setInput (cfg : DdcConfig) (input : UInt8) (phase : DdcPhase) : DdcM V Unit := fun t =>
  let log := t.1 ++ [⟨cfg.monitorI2cBus, input, phase⟩]
  match os.sendDdcSetInput cfg.monitorI2cBus vcpCodeInputSource input t.2 with
  | .ok _ v => .ok () (log, v)
  | .error e v => if cfg.fatalOnError then .error e (log, v) else .ok () (log, v)

/-- `DdcHook::vm_up`. -/
def ddcVmUp (cfg : DdcConfig) : DdcM V Unit := os.setInput cfg cfg.vmInput .VmUp

/-- `DdcHook::vm_down`. -/
def ddcVmDown (cfg : DdcConfig) : DdcM V Unit := os.setInput cfg cfg.hostInput .VmDown

/-- `switch_to_vm_input_after_irq`. -/
def switchToVmInputAfterIrq (cfg : DdcConfig) : DdcM V Unit :=
  os.setInput cfg cfg.vmInput .IrqComplete

/-- A hook of `TasmotaHook`: publish, and note the outcome.  It never fails. -/
def tasmotaHook (on : Bool) (text : String) (cfg : TasmotaConfig) : HookM V Unit := fun t =>
  match os.publishPower cfg on t.2.2 with
  | .ok _ v => .ok () ((on, t.1.2), t.2.1, v)
  | .error e v => .ok ()
      ((false, t.1.2 ++ [⟨.Warning, s!"tasmota: MQTT POWER {text} failed: {e.display}"⟩]),
        t.2.1, v)

/-- `TasmotaHook::vm_up`. -/
def tasmotaVmUp : TasmotaConfig → HookM V Unit := os.tasmotaHook true "ON"

/-- `TasmotaHook::vm_down`. -/
def tasmotaVmDown : TasmotaConfig → HookM V Unit := os.tasmotaHook false "OFF"

/-- A computation on the commands, among the hooks. -/
def onDdc {α : Type} : DdcM V α → HookM V α := zoom Prod.snd fun u t => (t.1, u)

/-- The part of `apply_vm_up` that is about the monitor. -/
def gatedVmUp (rt : VmRuntime) (cfg : DdcConfig) : HookM V Unit :=
  if rt.irqPinningComplete then onDdc (os.ddcVmUp cfg)
  else modify fun t => ((t.1.1, t.1.2 ++
    [⟨.Info, "peripherals/ddc: IRQ pinning not yet complete; deferring DDC vm_up"⟩]), t.2)

/-- `apply_vm_up`. -/
def applyVmUp (rt : VmRuntime) : HookM V Unit :=
  match rt.cfg.peripherals with
  | none => pure ()
  | some cfg => do
      cfg.tasmota.forM os.tasmotaVmUp
      cfg.ddc.forM (os.gatedVmUp rt)

/-- `apply_vm_down`. -/
def applyVmDown (rt : VmRuntime) : HookM V Unit :=
  match rt.cfg.peripherals with
  | none => pure ()
  | some cfg => do
      cfg.tasmota.forM os.tasmotaVmDown
      cfg.ddc.forM fun ddc => onDdc (os.ddcVmDown ddc)

end HookCalls

/-- The monitor that is configured. -/
def VmConfig.ddc (cfg : VmConfig) : Option DdcConfig := cfg.peripherals.bind PeripheralConfig.ddc

/-! ## What the hooks do to the log -/

section

variable {os : HookCalls V} {rt : VmRuntime}

/-- **A command is logged once**, whether the monitor takes it or not. -/
lemma ends_setInput (cfg : DdcConfig) (input : UInt8) (phase : DdcPhase) (t : List DdcCommand × V) :
    Ends (os.setInput cfg input phase) t
      (fun _ t' => t'.1 = t.1 ++ [⟨cfg.monitorI2cBus, input, phase⟩])
      (fun _ t' => t'.1 = t.1 ++ [⟨cfg.monitorI2cBus, input, phase⟩]) := by
  rw [Ends, HookCalls.setInput]
  cases os.sendDdcSetInput cfg.monitorI2cBus vcpCodeInputSource input t.2 with
  | ok a v => rfl
  | error e v =>
      simp only
      cases cfg.fatalOnError with
      | true => rfl
      | false => rfl

/-- A hook of the relay returns, and sends nothing to the monitor. -/
lemma ends_tasmotaHook (on : Bool) (text : String) (cfg : Option TasmotaConfig)
    (t : (Bool × List CoreEvent) × List DdcCommand × V) :
    Ends (cfg.forM (os.tasmotaHook on text)) t (fun _ t' => t'.2.1 = t.2.1) fun _ _ => False := by
  cases cfg with
  | none => exact rfl
  | some cfg =>
      show Ends (os.tasmotaHook on text cfg) t _ _
      rw [Ends, HookCalls.tasmotaHook]
      cases os.publishPower cfg on t.2.2 with
      | ok a v => rfl
      | error e v => rfl

/-- **`apply_vm_up` sends nothing to the monitor** while the IRQ pinning is not complete. -/
lemma ends_applyVmUp (hgate : rt.irqPinningComplete = false)
    (t : (Bool × List CoreEvent) × List DdcCommand × V) :
    Ends (os.applyVmUp rt) t (fun _ t' => t'.2.1 = t.2.1) fun _ _ => False := by
  rw [HookCalls.applyVmUp]
  cases rt.cfg.peripherals with
  | none => exact rfl
  | some cfg =>
      show Ends (cfg.tasmota.forM os.tasmotaVmUp >>= fun _ => cfg.ddc.forM (os.gatedVmUp rt)) t _ _
      rw [ends_bind]
      refine (ends_tasmotaHook true "ON" cfg.tasmota t).mono (fun _ t' ht' => ?_) fun _ _ h => h
      cases cfg.ddc with
      | none => exact ht'
      | some ddc =>
          show Ends (os.gatedVmUp rt ddc) t' _ _
          rw [HookCalls.gatedVmUp, hgate]
          exact ht'

/-- The commands that `apply_vm_down` adds. -/
def VmConfig.downCommands (cfg : VmConfig) : List DdcCommand :=
  (cfg.ddc.map fun ddc => ddc.command .VmDown).toList

/-- **`apply_vm_down` switches to the input of the host**, whether the monitor takes it or not. -/
lemma ends_applyVmDown (t : (Bool × List CoreEvent) × List DdcCommand × V) :
    Ends (os.applyVmDown rt) t (fun _ t' => t'.2.1 = t.2.1 ++ rt.cfg.downCommands)
      (fun _ t' => t'.2.1 = t.2.1 ++ rt.cfg.downCommands) := by
  rw [HookCalls.applyVmDown, VmConfig.downCommands, VmConfig.ddc]
  cases rt.cfg.peripherals with
  | none => exact (List.append_nil _).symm
  | some cfg =>
      show Ends (cfg.tasmota.forM os.tasmotaVmDown >>= fun _ =>
        cfg.ddc.forM fun ddc => HookCalls.onDdc (os.ddcVmDown ddc)) t _ _
      rw [ends_bind]
      refine (ends_tasmotaHook false "OFF" cfg.tasmota t).mono (fun _ t' ht' => ?_)
        fun _ _ h => h.elim
      cases hddc : cfg.ddc with
      | none =>
          show t'.2.1 = t.2.1 ++ _
          simpa [hddc] using ht'
      | some ddc =>
          show Ends (HookCalls.onDdc (os.ddcVmDown ddc)) t' _ _
          rw [HookCalls.onDdc, ends_zoom, HookCalls.ddcVmDown]
          refine (ends_setInput ddc ddc.hostInput .VmDown t'.2).mono (fun _ u hu => ?_)
            fun _ u hu => ?_
          · show u.1 = t.2.1 ++ _
            rw [hu, ht']
            simp [hddc, DdcConfig.command]
          · show u.1 = t.2.1 ++ _
            rw [hu, ht']
            simp [hddc, DdcConfig.command]

end

end Chalybs
