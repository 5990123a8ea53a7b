import Chalybs.Foundation.Checksum
import Chalybs.Foundation.Run
import Chalybs.Peripherals.Hooks

/-!
# The monitor on the I²C bus

`send_ddc_set_input` (`peripherals/ddc.rs`): a Set VCP Feature packet, a Get VCP Feature packet, and
the reply, which is looked at only if it has the layout that is expected.  At the other end of the
bus there is a monitor, which takes the packets that are whole.

* `I2cBus.sendDdcSetInput` — the exchange, on any bus.
* `Monitor`, `wiredBus` — a bus with a monitor on it and with faults on the wire.
* `exchanges_told_iff` — when what the exchanges return tells whether the monitor has the value,
  although bytes may be corrupted.
* `monitor_follows` — the monitors show what they were last told.
-/

namespace Chalybs

open Foundation

variable {V : Type}

/-! ## The exchange -/

/-- `DDC_DEST_ADDRESS_8BIT`. -/
def ddcDestAddress8Bit : UInt8 := 0x6e

/-- `CMD_SET_VCP_FEATURE`. -/
def cmdSetVcpFeature : UInt8 := 0x03

/-- `CMD_GET_VCP_FEATURE`. -/
def cmdGetVcpFeature : UInt8 := 0x01

/-- `compute_ddc_checksum`. -/
def computeDdcChecksum (dest8Bit : UInt8) (payload : List UInt8) : UInt8 :=
  checksum (fun a b => a ^^^ b) dest8Bit payload

/-- A payload and its checksum. -/
def ddcPacket (payload : List UInt8) : List UInt8 :=
  payload ++ [computeDdcChecksum ddcDestAddress8Bit payload]

/-- `set_buf`. -/
def setPacket (vcpCode inputValue : UInt8) : List UInt8 :=
  ddcPacket [0x51, 0x84, cmdSetVcpFeature, vcpCode, 0x00, inputValue]

/-- `get_buf`. -/
def getPacket (vcpCode : UInt8) : List UInt8 :=
  ddcPacket [0x51, 0x82, cmdGetVcpFeature, vcpCode]

/-- What the system calls on `/dev/i2c-<bus>` answer.  An error is the text of an `io::Error`. -/
structure I2cBus (V : Type) where
  openDevice : UInt8 → EStateM String V Unit
  /-- `ioctl(I2C_SLAVE)`. -/
  slave : UInt8 → EStateM String V Unit
  /-- `ioctl(I2C_RDWR)` with one message that is written. -/
  write : UInt8 → List UInt8 → EStateM String V Unit
  /-- `ioctl(I2C_RDWR)` with one message of 16 bytes that is read. -/
  read : UInt8 → EStateM String V (Vector UInt8 16)

/-- The reply is looked at, which is always long enough: only one that has the expected layout can
be an error. -/
def checkReply (vcpCode inputValue : UInt8) (readBuf : Vector UInt8 16) :
    Except ChalybsError Unit :=
  if readBuf[0] ≠ ddcDestAddress8Bit then .ok ()
  else if readBuf[2] ≠ 0x00 then .ok ()
  else if readBuf[3] ≠ vcpCode then .ok ()
  else
    let rc := readBuf[4]
    if rc ≠ 0x00 then .ok ()
    else
      let reportedLo := readBuf[8]
      if reportedLo ≠ inputValue then
        .error (.Peripheral (s!"DDC: verification failed: monitor returned " ++
          s!"0x{hexPadded 2 reportedLo.toNat}, expected 0x{hexPadded 2 inputValue.toNat}"))
      else .ok ()

/-- A call whose error becomes one of the peripherals. -/
def ddcCall {α : Type} (text : String → String) (call : EStateM String V α) :
    EStateM ChalybsError V α :=
  EStateM.adaptExcept (fun e => .Peripheral (text e)) call

/-- `send_ddc_set_input`. -/
def I2cBus.sendDdcSetInput (os : I2cBus V) (bus vcpCode inputValue : UInt8) :
    EStateM ChalybsError V Unit := do
  let path := s!"/dev/i2c-{bus}"
  ddcCall (fun e => s!"DDC: failed to open {path}: {e}") (os.openDevice bus)
  ddcCall (fun e => s!"DDC: ioctl(I2C_SLAVE) on {path} failed: {e}") (os.slave bus)
  ddcCall (fun e => s!"DDC: ioctl(I2C_RDWR) write transaction failed: {e}")
    (os.write bus (setPacket vcpCode inputValue))
  ddcCall (fun e => s!"DDC: ioctl(I2C_RDWR) write(GET_VCP) failed: {e}")
    (os.write bus (getPacket vcpCode))
  let readBuf ← ddcCall (fun e => s!"DDC: ioctl(I2C_RDWR) read(GET_VCP) failed: {e}")
    (os.read bus)
  fromExcept (checkReply vcpCode inputValue readBuf)

/-- The hooks, with a broker and a bus that know nothing of each other. -/
def HookCalls.ofPeripherals {U : Type}
    (publishPower : TasmotaConfig → Bool → EStateM ChalybsError U Unit) (os : I2cBus V) :
    HookCalls (V × U) where
  publishPower cfg on := zoom Prod.snd (fun u t => (t.1, u)) (publishPower cfg on)
  sendDdcSetInput bus vcpCode inputValue :=
    zoom Prod.fst (fun v t => (v, t.2)) (os.sendDdcSetInput bus vcpCode inputValue)

/-! ## The other end -/

/-- How a monitor lays out its reply for a VCP code and its current value. -/
abbrev ReplyLayout := UInt8 → UInt8 → Vector UInt8 16

/-- A monitor: the low bytes of the current values of its features, and the reply that it has
ready. -/
structure Monitor where
  features : UInt8 → UInt8
  reply : Option (Vector UInt8 16)

namespace Monitor

/-- What a whole packet tells the monitor. -/
def obey (layout : ReplyLayout) (m : Monitor) : List UInt8 → Monitor
  | [source, length, cmd, vcpCode, valueHi, valueLo, _] =>
      if source = 0x51 ∧ length = 0x84 ∧ cmd = cmdSetVcpFeature ∧ valueHi = 0x00 then
        { m with features := Function.update m.features vcpCode valueLo }
      else m
  | [source, length, cmd, vcpCode, _] =>
      if source = 0x51 ∧ length = 0x82 ∧ cmd = cmdGetVcpFeature then
        { m with reply := some (layout vcpCode (m.features vcpCode)) }
      else m
  | _ => m

/-- A packet arrives.  One that its checksum does not close is dropped. -/
def receive (layout : ReplyLayout) (m : Monitor) (bytes : List UInt8) : Monitor :=
  if computeDdcChecksum ddcDestAddress8Bit bytes = 0 then m.obey layout bytes else m

/-- The reply is read; without one there are zeros on the bus. -/
def readReply (m : Monitor) : Vector UInt8 16 := m.reply.getD (Vector.replicate 16 0)

end Monitor

/-- A fault on the wire replaces a byte of a packet. -/
abbrev Fault := Option (ℕ × UInt8)

/-- The packet as it arrives. -/
def Fault.deliver (bytes : List UInt8) : Fault → List UInt8
  | none => bytes
  | some (i, b) => bytes.set i b

/-- The packet does not arrive as it was sent. -/
def Fault.Harms (fault : Fault) (bytes : List UInt8) : Prop := fault.deliver bytes ≠ bytes

/-- The buses with the monitors on them, and the faults of the next packets. -/
structure Wires where
  monitors : UInt8 → Option Monitor
  faults : List Fault

namespace Wires

/-- The fault of the next packet. -/
def fault (w : Wires) : Fault := w.faults.headD none

/-- The monitor of a bus changes. -/
def setMonitor (w : Wires) (bus : UInt8) (m : Monitor) : Wires :=
  { w with monitors := Function.update w.monitors bus (some m) }

/-- Every packet arrives as it was sent. -/
def Quiet (w : Wires) : Prop := ∀ fault ∈ w.faults, fault = none

end Wires

/-- A call that needs the monitor of a bus. -/
def onMonitor {α : Type} (error : String) (bus : UInt8) (f : Monitor → Wires → α × Wires) :
    EStateM String Wires α := fun w =>
  match w.monitors bus with
  | none => .error error w
  | some m => .ok (f m w).1 (f m w).2

/-- The buses of a host with monitors that lay out their replies in some way. -/
def wiredBus (layout : ReplyLayout) : I2cBus Wires where
  openDevice bus := onMonitor "No such file or directory (os error 2)" bus fun _ w => ((), w)
  slave _ := pure ()
  write bus bytes := onMonitor "Remote I/O error (os error 121)" bus fun m w =>
    ((), { w with faults := w.faults.tail }.setMonitor bus
      (m.receive layout (w.fault.deliver bytes)))
  read bus := onMonitor "Remote I/O error (os error 121)" bus fun m w =>
    (m.readReply, w.setMonitor bus { m with reply := none })

/-- The monitor replies with the layout that the host expects. -/
def Documented (layout : ReplyLayout) : Prop :=
  ∀ vcpCode value : UInt8, (layout vcpCode value)[0] = ddcDestAddress8Bit ∧
    (layout vcpCode value)[2] = 0x00 ∧ (layout vcpCode value)[3] = vcpCode ∧
    (layout vcpCode value)[4] = 0x00 ∧ (layout vcpCode value)[8] = value

/-- What the host takes for a report of the value, is one. -/
def TruthfulReplies (layout : ReplyLayout) : Prop :=
  ∀ vcpCode value : UInt8, checkReply vcpCode value (layout vcpCode value) = .ok ()

/-! ## Packets -/

section

variable {layout : ReplyLayout} {m : Monitor} {vcpCode value : UInt8} {payload : List UInt8}

lemma checksum_packet : computeDdcChecksum ddcDestAddress8Bit (ddcPacket payload) = 0 :=
  (closes_iff selfInverse_xor).mpr rfl

/-- **A packet with one wrong byte is dropped.** -/
lemma receive_of_harms {fault : Fault} (h : fault.Harms (ddcPacket payload)) :
    m.receive layout (fault.deliver (ddcPacket payload)) = m := by
  cases fault with
  | none => exact absurd rfl h
  | some f =>
      obtain ⟨i, b⟩ := f
      have hi : i < (ddcPacket payload).length := by
        by_contra hlong
        exact h (List.set_eq_of_length_le (Nat.le_of_not_lt hlong))
      have hbyte : b ≠ (ddcPacket payload)[i] := by
        rintro rfl
        exact h (List.set_getElem_self hi)
      rw [Monitor.receive, if_neg]
      intro hzero
      exact hbyte ((checksum_set selfInverse_xor hi).mp (hzero.trans checksum_packet.symm))

lemma receive_setPacket : m.receive layout (setPacket vcpCode value) =
    { m with features := Function.update m.features vcpCode value } := by
  rw [Monitor.receive, setPacket, if_pos checksum_packet]
  simp [ddcPacket, Monitor.obey]

lemma receive_getPacket : m.receive layout (getPacket vcpCode) =
    { m with reply := some (layout vcpCode (m.features vcpCode)) } := by
  rw [Monitor.receive, getPacket, if_pos checksum_packet]
  simp [ddcPacket, Monitor.obey]

/-- A reply with the expected layout is accepted exactly if it has the value. -/
lemma checkReply_documented (h : Documented layout) {current : UInt8} :
    checkReply vcpCode value (layout vcpCode current) = .ok () ↔ current = value := by
  obtain ⟨h0, h2, h3, h4, h8⟩ := h vcpCode current
  simp [checkReply, h0, h2, h3, h4, h8]

lemma truthfulReplies_of_documented (h : Documented layout) : TruthfulReplies layout :=
  fun _ _ => (checkReply_documented h).mpr rfl

/-- Without a reply there is nothing to look at. -/
lemma checkReply_zeros : checkReply vcpCode value (Vector.replicate 16 0) = .ok () := by
  rw [checkReply, if_pos (by decide)]

end

/-! ## An exchange on the wire -/

section

variable {layout : ReplyLayout} {w : Wires} {m : Monitor} {bus vcpCode value : UInt8}

/-- The monitor after the two packets. -/
def Monitor.afterPackets (layout : ReplyLayout) (m : Monitor) (vcpCode value : UInt8)
    (faultSet faultGet : Fault) : Monitor :=
  (m.receive layout (faultSet.deliver (setPacket vcpCode value))).receive layout
    (faultGet.deliver (getPacket vcpCode))

/-- A call to the monitor of a bus. -/
lemma ddcCall_onMonitor {α : Type} {text : String → String} {error : String}
    {f : Monitor → Wires → α × Wires} (hm : w.monitors bus = some m) :
    ddcCall text (onMonitor error bus f) w = .ok (f m w).1 (f m w).2 := by
  simp [ddcCall, EStateM.adaptExcept, onMonitor, hm]

lemma ddcCall_pure {text : String → String} :
    ddcCall text (pure () : EStateM String Wires Unit) w = .ok () w := rfl

/-- **The exchange**: two packets, and a look at what the monitor then replies. -/
lemma send_eq (hm : w.monitors bus = some m) :
    (wiredBus layout).sendDdcSetInput bus vcpCode value w =
      let m' := m.afterPackets layout vcpCode value w.fault (w.faults.tail.headD none)
      fromExcept (checkReply vcpCode value m'.readReply)
        ⟨Function.update w.monitors bus (some { m' with reply := none }), w.faults.tail.tail⟩ := by
  have hself : ∀ (w : Wires) (m : Monitor), (w.setMonitor bus m).monitors bus = some m :=
    fun w m => Function.update_self bus _ _
  simp only [I2cBus.sendDdcSetInput, bind, EStateM.bind, wiredBus, ddcCall_onMonitor hm,
    ddcCall_pure, ddcCall_onMonitor (hself _ _)]
  simp only [Wires.setMonitor, Function.update_idem, Wires.fault]
  rfl

/-- Without a monitor the device cannot be opened. -/
lemma send_without_monitor (hm : w.monitors bus = none) :
    (wiredBus layout).sendDdcSetInput bus vcpCode value w =
      .error (.Peripheral (s!"DDC: failed to open /dev/i2c-{bus}: " ++
        "No such file or directory (os error 2)")) w := by
  simp only [I2cBus.sendDdcSetInput, bind, EStateM.bind, wiredBus, ddcCall, EStateM.adaptExcept,
    onMonitor, hm]
  rfl

/-- **What the monitor has taken**, and what it then replies. -/
lemma afterPackets_cases (hready : m.reply = none) (faultSet faultGet : Fault) :
    let m' := m.afterPackets layout vcpCode value faultSet faultGet
    m'.features = (if faultSet.deliver (setPacket vcpCode value) = setPacket vcpCode value
        then Function.update m.features vcpCode value else m.features) ∧
      m'.readReply = if faultGet.deliver (getPacket vcpCode) = getPacket vcpCode
        then layout vcpCode (m'.features vcpCode) else Vector.replicate 16 0 := by
  have hset : m.receive layout (faultSet.deliver (setPacket vcpCode value)) =
      { m with features :=
          if faultSet.deliver (setPacket vcpCode value) = setPacket vcpCode value
          then Function.update m.features vcpCode value else m.features } := by
    split_ifs with hwhole
    · rw [hwhole, receive_setPacket]
    · exact receive_of_harms hwhole
  rw [Monitor.afterPackets, hset]
  generalize (if faultSet.deliver (setPacket vcpCode value) = setPacket vcpCode value
    then Function.update m.features vcpCode value else m.features) = features
  split_ifs with hwhole
  · rw [hwhole, receive_getPacket]
    exact ⟨rfl, rfl⟩
  · rw [getPacket, receive_of_harms hwhole]
    exact ⟨rfl, by rw [Monitor.readReply, hready]; rfl⟩

end

/-! ## Exchanges with faults -/

/-- `send_ddc_set_input` is called. -/
structure DdcExchange where
  bus : UInt8
  vcpCode : UInt8
  value : UInt8
  deriving DecidableEq, Repr

/-- Whether the exchange returns `Ok`, and what it leaves. -/
def DdcExchange.outcome (layout : ReplyLayout) (w : Wires) (x : DdcExchange) : Bool × Wires :=
  Foundation.outcome ((wiredBus layout).sendDdcSetInput x.bus x.vcpCode x.value) w

/-- The monitor of the bus has the value. -/
def DdcExchange.Arrived (x : DdcExchange) (w : Wires) : Prop :=
  ∃ m, w.monitors x.bus = some m ∧ m.features x.vcpCode = x.value

/-- Neither packet of the exchange arrives whole, and the value is a new one. -/
def DdcExchange.Unheard (w : Wires) (x : DdcExchange) : Prop :=
  w.fault.Harms (setPacket x.vcpCode x.value) ∧
    (w.faults.tail.headD none).Harms (getPacket x.vcpCode) ∧
    ∃ m, w.monitors x.bus = some m ∧ m.features x.vcpCode ≠ x.value

/-- No monitor has a reply that was not read. -/
def Wires.Ready (w : Wires) : Prop := ∀ bus m, w.monitors bus = some m → m.reply = none

/-- What the exchange returns tells whether the monitor has the value. -/
def DdcExchange.Told (layout : ReplyLayout) (w : Wires) (x : DdcExchange) : Prop :=
  (x.outcome layout w).1 = true ↔ x.Arrived (x.outcome layout w).2

/-- Nothing is changed but the feature of the monitor on the bus. -/
def DdcExchange.Confined (layout : ReplyLayout) (w : Wires) (x : DdcExchange) : Prop :=
  ∀ bus, ((x.outcome layout w).2.monitors bus).isSome = (w.monitors bus).isSome ∧
    ∀ m m', w.monitors bus = some m → (x.outcome layout w).2.monitors bus = some m' →
      ∀ vcpCode, bus ≠ x.bus ∨ vcpCode ≠ x.vcpCode → m'.features vcpCode = m.features vcpCode

section

variable {layout : ReplyLayout} {w : Wires} {m : Monitor} {x : DdcExchange}

lemma outcome_without_monitor (hm : w.monitors x.bus = none) : x.outcome layout w = (false, w) := by
  rw [DdcExchange.outcome, Foundation.outcome, send_without_monitor hm]

lemma outcome_of_monitor (hm : w.monitors x.bus = some m) :
    let m' := m.afterPackets layout x.vcpCode x.value w.fault (w.faults.tail.headD none)
    x.outcome layout w = (decide (checkReply x.vcpCode x.value m'.readReply = .ok ()),
      ⟨Function.update w.monitors x.bus (some { m' with reply := none }), w.faults.tail.tail⟩) := by
  intro m'
  have hresult : ∀ (r : Except ChalybsError Unit) (w : Wires),
      Foundation.outcome (fromExcept r) w = (decide (r = .ok ()), w) := by
    rintro (e | u) w
    · rfl
    · rfl
  rw [DdcExchange.outcome, Foundation.outcome, send_eq hm]
  exact hresult _ _

/-- An exchange leaves no reply unread. -/
lemma ready_outcome (hw : w.Ready) : (x.outcome layout w).2.Ready := by
  cases hm : w.monitors x.bus with
  | none =>
      rw [outcome_without_monitor hm]
      exact hw
  | some m =>
      rw [outcome_of_monitor hm]
      intro bus m' hm'
      by_cases hbus : bus = x.bus
      · simp only [hbus, Function.update_self, Option.some.injEq] at hm'
        rw [← hm']
      · exact hw bus m' ((Function.update_of_ne hbus _ _).symm.trans hm')

/-- **An exchange** tells whether the monitor has the value unless it is unheard. -/
lemma told_iff (hlayout : Documented layout) (hw : w.Ready) :
    x.Told layout w ↔ ¬ x.Unheard w := by
  cases hm : w.monitors x.bus with
  | none => simp [DdcExchange.Told, DdcExchange.Arrived, DdcExchange.Unheard, hm,
      outcome_without_monitor hm]
  | some m =>
      obtain ⟨hfeatures, hreply⟩ := @afterPackets_cases layout m x.vcpCode x.value (hw _ m hm)
        w.fault (w.faults.tail.headD none)
      simp only [DdcExchange.Told, DdcExchange.Arrived, DdcExchange.Unheard, outcome_of_monitor hm,
        Function.update_self, Option.some.injEq, exists_eq_left', decide_eq_true_eq, hreply, hm]
      rw [hfeatures]
      simp only [Fault.Harms]
      generalize w.faults.tail.headD none = faultGet
      by_cases hset : w.fault.deliver (setPacket x.vcpCode x.value) = setPacket x.vcpCode x.value
      · -- the value arrives, and any reply has it
        simp only [hset, if_true, Function.update_self]
        split_ifs with hget
        · simp [checkReply_documented hlayout]
        · simp [checkReply_zeros]
      · simp only [hset, if_false]
        split_ifs with hget
        · simp [checkReply_documented hlayout, hget]
        · simp [checkReply_zeros, hget, hset]

/-- **An exchange** changes nothing else. -/
lemma confined (hw : w.Ready) : x.Confined layout w := by
  intro bus
  cases hm : w.monitors x.bus with
  | none =>
      rw [outcome_without_monitor hm]
      refine ⟨rfl, fun m m' hm hm' vcpCode _ => ?_⟩
      rw [Option.some.inj (hm.symm.trans hm')]
  | some m =>
      obtain ⟨hfeatures, -⟩ := @afterPackets_cases layout m x.vcpCode x.value (hw _ m hm)
        w.fault (w.faults.tail.headD none)
      rw [outcome_of_monitor hm]
      by_cases hbus : bus = x.bus
      · subst hbus
        refine ⟨by simp [hm], fun m₁ m' hm₁ hm' vcpCode hother => ?_⟩
        obtain rfl := Option.some.inj (hm.symm.trans hm₁)
        simp only [Function.update_self, Option.some.injEq] at hm'
        rw [← hm']
        dsimp only
        rw [hfeatures]
        split_ifs
        · exact Function.update_of_ne (hother.resolve_left (not_not.mpr rfl)) _ _
        · rfl
      · have hsame := Function.update_of_ne hbus (some { m.afterPackets layout x.vcpCode x.value
          w.fault (w.faults.tail.headD none) with reply := none }) w.monitors
        refine ⟨by simp only [hsame], fun m₁ m' hm₁ hm' vcpCode _ => ?_⟩
        rw [Option.some.inj ((hsame.symm.trans hm').symm.trans hm₁)]

end

/-- **What a switch of the monitor says of it.**  On any buses, with monitors that reply in the
layout that is expected and with any corrupted bytes on the wires, one at most in each packet: the
exchanges of a run return `Ok` exactly when the monitor has the value, as long as none that switches
the monitor has both its packets corrupted; and no exchange changes anything else. -/
theorem exchanges_told_iff (layout : ReplyLayout) (hlayout : Documented layout) (w : Wires)
    (hw : w.Ready) (exchanges : List DdcExchange) :
    let step := fun w (x : DdcExchange) => (x.outcome layout w).2
    (Along step (fun w x => x.Told layout w) w exchanges ↔
        Along step (fun w x => ¬ x.Unheard w) w exchanges) ∧
      Along step (fun w x => x.Confined layout w) w exchanges := by
  intro step
  refine ⟨?_, ?_⟩
  · exact along_iff_along (I := Wires.Ready) (fun _ _ hw _ => ready_outcome hw)
      (fun _ _ hw => told_iff hlayout hw) hw exchanges
  · exact along_of_invariant (C := fun _ _ => True) (I := Wires.Ready)
      (fun _ _ hw _ => ready_outcome hw) (fun _ _ hw _ => confined hw) hw
      fun _ _ _ _ => trivial

/-! ## One monitor -/

/-- The layout that the comments of the source give. -/
def documentedLayout : ReplyLayout := fun vcpCode value =>
  #v[0x6e, 0x88, 0x00, vcpCode, 0x00, 0x00, 0xff, 0x00, value, 0, 0, 0, 0, 0, 0, 0]

lemma documented_documentedLayout : Documented documentedLayout :=
  fun _ _ => ⟨rfl, rfl, rfl, rfl, rfl⟩

/-- A monitor on bus 3 that shows input `0x0f`, and the faults of the next packets. -/
def oneMonitor (faults : List Fault) : Wires where
  monitors := Function.update (fun _ => none) 3 (some ⟨fun _ => 0x0f, none⟩)
  faults

lemma ready_oneMonitor (faults : List Fault) : (oneMonitor faults).Ready := by
  intro bus m hm
  by_cases hbus : bus = 3
  · simp only [oneMonitor, hbus, Function.update_self, Option.some.injEq] at hm
    rw [← hm]
  · simp [oneMonitor, Function.update_of_ne hbus] at hm

/-- The value is corrupted on its way to the monitor, and the exchange tells so. -/
theorem corrupted_value_told :
    Along (fun w (x : DdcExchange) => (x.outcome documentedLayout w).2)
      (fun w x => x.Told documentedLayout w) (oneMonitor [some (5, 0x12)]) [⟨3, 0x60, 0x13⟩] := by
  refine (exchanges_told_iff documentedLayout documented_documentedLayout _
    (ready_oneMonitor [some (5, 0x12)]) _).1.mpr (along_cons.mpr ⟨?_, along_nil _ _⟩)
  rintro ⟨-, hget, -⟩
  exact hget rfl

/-! ## The hooks -/

/-- A call of the hooks that may switch the monitor. -/
inductive MonitorCall
  | ApplyVmUp (rt : VmRuntime)
  | ApplyVmDown (rt : VmRuntime)
  | SwitchToVmInputAfterIrq (cfg : DdcConfig)

namespace MonitorCall

variable {U : Type}

def perform (os : HookCalls (Wires × U)) : MonitorCall → HookM (Wires × U) Unit
  | .ApplyVmUp rt => os.applyVmUp rt
  | .ApplyVmDown rt => os.applyVmDown rt
  | .SwitchToVmInputAfterIrq cfg => HookCalls.onDdc (os.switchToVmInputAfterIrq cfg)

/-- The monitor that the call is about. -/
def ddc : MonitorCall → Option DdcConfig
  | .ApplyVmUp rt | .ApplyVmDown rt => rt.cfg.ddc
  | .SwitchToVmInputAfterIrq cfg => some cfg

end MonitorCall

/-- The input of the last command that was sent on a bus. -/
def lastInput (log : List DdcCommand) (bus : UInt8) : Option UInt8 :=
  ((log.filter fun command => command.bus = bus).getLast?).map DdcCommand.input

/-- Every monitor shows what it was last told, or what it showed at the start; the wires are quiet,
and the same buses have monitors as at the start. -/
structure ShowsLast (start : Wires) (log : List DdcCommand) (w : Wires) : Prop where
  quiet : w.Quiet
  ready : w.Ready
  present : ∀ bus, (w.monitors bus).isSome = (start.monitors bus).isSome
  shows : ∀ bus m₀ m, start.monitors bus = some m₀ → w.monitors bus = some m →
    m.features vcpCodeInputSource =
      (lastInput log bus).getD (m₀.features vcpCodeInputSource)

section

variable {U : Type} {layout : ReplyLayout} {start w : Wires} {log : List DdcCommand}
  {publish : TasmotaConfig → Bool → EStateM ChalybsError U Unit}

lemma lastInput_append {command : DdcCommand} {bus : UInt8} :
    lastInput (log ++ [command]) bus =
      if command.bus = bus then some command.input else lastInput log bus := by
  rw [lastInput, List.filter_append]
  by_cases hbus : command.bus = bus
  · simp [hbus]
  · simp [hbus, lastInput]

lemma quiet_tail (h : w.Quiet) : w.fault = none ∧ w.faults.tail.headD none = none ∧
    ∀ fault ∈ w.faults.tail.tail, fault = none := by
  obtain ⟨monitors, faults⟩ := w
  have hall : ∀ fault ∈ faults, fault = none := h
  match faults with
  | [] => exact ⟨rfl, rfl, fun _ h => absurd h List.not_mem_nil⟩
  | [f] => exact ⟨hall f (by simp), rfl, fun _ h => absurd h List.not_mem_nil⟩
  | f :: g :: rest =>
      exact ⟨hall f (by simp), hall g (by simp), fun fault hmem =>
        hall fault (List.mem_cons_of_mem _ (List.mem_cons_of_mem _ hmem))⟩

/-- **On quiet wires** the monitor of the bus takes the value, and the exchange returns `Ok`. -/
lemma outcome_of_quiet (hlayout : TruthfulReplies layout) (hw : w.Quiet) (hready : w.Ready)
    {x : DdcExchange} {m : Monitor} (hm : w.monitors x.bus = some m) :
    ∃ m', x.outcome layout w = (true, ⟨Function.update w.monitors x.bus (some m'),
        w.faults.tail.tail⟩) ∧ m'.reply = none ∧
      m'.features = Function.update m.features x.vcpCode x.value := by
  obtain ⟨hset, hget, -⟩ := quiet_tail hw
  have hout := @outcome_of_monitor layout w m x hm
  obtain ⟨hfeatures, hreply⟩ := @afterPackets_cases layout m x.vcpCode x.value (hready _ m hm)
    w.fault (w.faults.tail.headD none)
  simp only [hset, hget, Fault.deliver, if_true] at hout hfeatures hreply
  refine ⟨⟨Function.update m.features x.vcpCode x.value, none⟩, ?_, rfl, rfl⟩
  rw [hout, hreply, hfeatures, Function.update_self, hlayout]
  simp

/-- **A command** that is sent on quiet wires: the monitor shows its input; it fails only if there
is no monitor on the bus and errors are fatal. -/
lemma showsLast_setInput (hlayout : TruthfulReplies layout) {t : List DdcCommand × Wires × U}
    (h : ShowsLast start t.1 t.2.1) (cfg : DdcConfig) (input : UInt8) (phase : DdcPhase) :
    Ends ((HookCalls.ofPeripherals publish (wiredBus layout)).setInput cfg input phase) t
      (fun _ t' => ShowsLast start t'.1 t'.2.1)
      fun _ t' => ShowsLast start t'.1 t'.2.1 ∧ cfg.fatalOnError = true ∧
        start.monitors cfg.monitorI2cBus = none := by
  obtain ⟨log, w, u⟩ := t
  obtain ⟨hquiet, hready, hpresent, hshows⟩ := h
  dsimp only at hquiet hready hpresent hshows
  simp only [Ends, HookCalls.setInput, HookCalls.ofPeripherals, zoom]
  cases hm : w.monitors cfg.monitorI2cBus with
  | none =>
      have habsent : start.monitors cfg.monitorI2cBus = none := by
        have hsame := hpresent cfg.monitorI2cBus
        rw [hm] at hsame
        simpa using hsame.symm
      have hkept : ShowsLast start (log ++ [⟨cfg.monitorI2cBus, input, phase⟩]) w := by
        refine ⟨hquiet, hready, hpresent, fun bus m₀ m hm₀ hm => ?_⟩
        rw [lastInput_append, if_neg]
        · exact hshows bus m₀ m hm₀ hm
        · rintro rfl
          rw [habsent] at hm₀
          cases hm₀
      simp only [send_without_monitor hm]
      cases hfatal : cfg.fatalOnError with
      | true => exact ⟨hkept, rfl, habsent⟩
      | false => exact hkept
  | some m =>
      obtain ⟨m', hx, hreply, hfeatures⟩ := outcome_of_quiet hlayout hquiet hready
        (x := ⟨cfg.monitorI2cBus, vcpCodeInputSource, input⟩) hm
      obtain ⟨u', hsend⟩ := outcome_eq_true.mp hx
      simp only [hsend]
      refine ⟨(quiet_tail hquiet).2.2, ?_, fun bus => ?_, fun bus m₀ m₁ hm₀ hm₁ => ?_⟩
      · intro bus m₁ hm₁
        by_cases hbus : bus = cfg.monitorI2cBus
        · simp only [hbus, Function.update_self, Option.some.injEq] at hm₁
          rw [← hm₁, hreply]
        · exact hready bus m₁ ((Function.update_of_ne hbus _ _).symm.trans hm₁)
      · by_cases hbus : bus = cfg.monitorI2cBus
        · rw [← hpresent, hbus, hm]
          simp
        · rw [← hpresent]
          simp [Function.update_of_ne hbus]
      · rw [lastInput_append]
        by_cases hbus : bus = cfg.monitorI2cBus
        · simp only [hbus, Function.update_self, Option.some.injEq] at hm₁
          rw [← hm₁, hfeatures, if_pos hbus.symm]
          simp
        · rw [if_neg (Ne.symm hbus)]
          exact hshows bus m₀ m₁ hm₀ ((Function.update_of_ne hbus _ _).symm.trans hm₁)

/-- The hook of the relay returns, and leaves the commands and the wires as they are. -/
lemma ends_relay_of_peripherals (on : Bool) (text : String) (cfg : Option TasmotaConfig)
    (t : (Bool × List CoreEvent) × List DdcCommand × Wires × U) :
    Ends (cfg.forM ((HookCalls.ofPeripherals publish (wiredBus layout)).tasmotaHook on text)) t
      (fun _ t' => t'.2.1 = t.2.1 ∧ t'.2.2.1 = t.2.2.1) fun _ _ => False := by
  cases cfg with
  | none => exact ⟨rfl, rfl⟩
  | some cfg =>
      show Ends (HookCalls.tasmotaHook _ on text cfg) t _ _
      simp only [Ends, HookCalls.tasmotaHook, HookCalls.ofPeripherals, zoom]
      cases publish cfg on t.2.2.2 with
      | ok a u => exact ⟨rfl, rfl⟩
      | error e u => exact ⟨rfl, rfl⟩

/-- The call may fail: errors are fatal, and there is no monitor on the bus. -/
def MonitorCall.MayFail (start : Wires) (call : MonitorCall) : Prop :=
  ∃ cfg, call.ddc = some cfg ∧ cfg.fatalOnError = true ∧ start.monitors cfg.monitorI2cBus = none

/-- **A call of the hooks** leaves the monitors showing what they were last told. -/
lemma showsLast_perform (hlayout : TruthfulReplies layout) (call : MonitorCall)
    {t : (Bool × List CoreEvent) × List DdcCommand × Wires × U}
    (h : ShowsLast start t.2.1 t.2.2.1) :
    Ends (call.perform (HookCalls.ofPeripherals publish (wiredBus layout))) t
      (fun _ t' => ShowsLast start t'.2.1 t'.2.2.1)
      fun _ t' => ShowsLast start t'.2.1 t'.2.2.1 ∧ call.MayFail start := by
  -- a command, among the hooks
  have hcommand : ∀ (cfg : DdcConfig) (input : UInt8) (phase : DdcPhase)
      (t : (Bool × List CoreEvent) × List DdcCommand × Wires × U), call.ddc = some cfg →
      ShowsLast start t.2.1 t.2.2.1 →
      Ends (HookCalls.onDdc ((HookCalls.ofPeripherals publish (wiredBus layout)).setInput cfg input
          phase)) t (fun _ t' => ShowsLast start t'.2.1 t'.2.2.1)
        fun _ t' => ShowsLast start t'.2.1 t'.2.2.1 ∧ call.MayFail start := by
    intro cfg input phase t hcfg ht
    rw [HookCalls.onDdc, ends_zoom]
    exact (showsLast_setInput hlayout ht cfg input phase).mono (fun _ _ hu => hu)
      fun _ _ hu => ⟨hu.1, cfg, hcfg, hu.2⟩
  cases call with
  | SwitchToVmInputAfterIrq cfg => exact hcommand cfg _ _ t rfl h
  | ApplyVmUp rt =>
      rw [MonitorCall.perform, HookCalls.applyVmUp]
      cases hperipherals : rt.cfg.peripherals with
      | none => exact h
      | some cfg =>
          show Ends (cfg.tasmota.forM _ >>= fun _ => cfg.ddc.forM _) t _ _
          rw [ends_bind]
          refine (ends_relay_of_peripherals true "ON" cfg.tasmota t).mono (fun _ t' ht' => ?_)
            fun _ _ hu => hu.elim
          rw [← ht'.1, ← ht'.2] at h
          cases hddc : cfg.ddc with
          | none => exact h
          | some ddc =>
              show Ends (HookCalls.gatedVmUp _ rt ddc) t' _ _
              rw [HookCalls.gatedVmUp]
              split_ifs
              · exact hcommand ddc _ _ t' (by simp [MonitorCall.ddc, VmConfig.ddc, hperipherals,
                  hddc]) h
              · exact h
  | ApplyVmDown rt =>
      rw [MonitorCall.perform, HookCalls.applyVmDown]
      cases hperipherals : rt.cfg.peripherals with
      | none => exact h
      | some cfg =>
          show Ends (cfg.tasmota.forM _ >>= fun _ => cfg.ddc.forM _) t _ _
          rw [ends_bind]
          refine (ends_relay_of_peripherals false "OFF" cfg.tasmota t).mono (fun _ t' ht' => ?_)
            fun _ _ hu => hu.elim
          rw [← ht'.1, ← ht'.2] at h
          cases hddc : cfg.ddc with
          | none => exact h
          | some ddc =>
              exact hcommand ddc _ _ t' (by simp [MonitorCall.ddc, VmConfig.ddc, hperipherals,
                hddc]) h

end

/-- **The monitors follow.**  On wires that corrupt nothing and carry out every call to a monitor,
with monitors whose replies the host does not take for reports of other values, and whatever the
broker answers: after any calls of the hooks, of any VMs in any order, every monitor shows the input
of the last command that was sent on its bus, and a call fails only if errors are fatal and there is
no monitor on its bus. -/
theorem monitor_follows {U : Type} (layout : ReplyLayout) (hlayout : TruthfulReplies layout)
    (publish : TasmotaConfig → Bool → EStateM ChalybsError U Unit) (start : Wires)
    (hquiet : start.Quiet) (hready : start.Ready) (runtime : Bool × List CoreEvent) (u : U)
    (calls : List MonitorCall) :
    let os := HookCalls.ofPeripherals publish (wiredBus layout)
    let step := fun t (call : MonitorCall) => (Foundation.outcome (call.perform os) t).2
    let t := run step (runtime, [], start, u) calls
    ShowsLast start t.2.1 t.2.2.1 ∧
      Along step (fun t call => (Foundation.outcome (call.perform os) t).1 = true ∨
        call.MayFail start) (runtime, [], start, u) calls := by
  intro os step t
  have hstart : ShowsLast start [] start := by
    refine ⟨hquiet, hready, fun _ => rfl, fun bus m₀ m hm₀ hm => ?_⟩
    rw [Option.some.inj (hm.symm.trans hm₀)]
    rfl
  have hstep : ∀ (t : (Bool × List CoreEvent) × List DdcCommand × Wires × U) (call : MonitorCall),
      ShowsLast start t.2.1 t.2.2.1 → ShowsLast start (step t call).2.1 (step t call).2.2.1 ∧
        ((Foundation.outcome (call.perform os) t).1 = true ∨ call.MayFail start) := by
    intro t call ht
    have hends := @showsLast_perform U layout start publish hlayout call t ht
    simp only [step, Foundation.outcome]
    rw [Ends] at hends
    cases hx : call.perform os t with
    | ok a t' =>
        rw [hx] at hends
        exact ⟨hends, .inl rfl⟩
    | error e t' =>
        rw [hx] at hends
        exact ⟨hends.1, .inr hends.2⟩
  refine ⟨?_, ?_⟩
  · exact run_invariant (I := fun t : (Bool × List CoreEvent) × List DdcCommand × Wires × U =>
      ShowsLast start t.2.1 t.2.2.1) (fun t call ht => (hstep t call ht).1) hstart calls
  · exact along_of_invariant (C := fun _ _ => True)
      (I := fun t : (Bool × List CoreEvent) × List DdcCommand × Wires × U =>
        ShowsLast start t.2.1 t.2.2.1)
      (fun t call ht _ => (hstep t call ht).1) (fun t call ht _ => (hstep t call ht).2) hstart
      fun _ _ _ _ => trivial

/-- A VM with the monitor on bus 3. -/
def monitorConfig : DdcConfig where
  monitorI2cBus := 3
  vmInput := 0x13
  hostInput := 0x0f
  fatalOnError := true

/-- The monitor is switched to the VM, and back when the VM goes down. -/
theorem monitor_follows_there_and_back :
    let cfg : VmConfig := { minimalVmConfig {} {} with
      peripherals := some { ddc := some monitorConfig } }
    let os := HookCalls.ofPeripherals (fun _ _ => pure ()) (wiredBus documentedLayout)
    let step := fun t (call : MonitorCall) => (Foundation.outcome (call.perform os) t).2
    let calls := [.SwitchToVmInputAfterIrq monitorConfig,
      .ApplyVmDown (VmRuntime.new "a" cfg ⟨⟨[]⟩, ⟨[]⟩⟩)]
    let t := run step ((false, []), [], oneMonitor [], ()) calls
    ShowsLast (oneMonitor []) t.2.1 t.2.2.1 ∧
      Along step (fun t call => (Foundation.outcome (call.perform os) t).1 = true ∨
        call.MayFail (oneMonitor [])) ((false, []), [], oneMonitor [], ()) calls := by
  intro cfg os step calls
  exact monitor_follows documentedLayout (truthfulReplies_of_documented documented_documentedLayout)
    _ (oneMonitor []) (fun _ h => absurd h List.not_mem_nil) (ready_oneMonitor []) (false, []) ()
    calls

end Chalybs
