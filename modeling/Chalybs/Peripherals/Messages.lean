import Chalybs.Peripherals.Ddc
import Chalybs.Peripherals.Mqtt
import Chalybs.Peripherals.Relay

/-!
# The messages of a run

The hooks of a VM with a relay are called again and again, and each call is a command to the broker.
Whatever the broker and the network do, a message is handed over only to a connection that was
acknowledged, the messages are those of the hooks in their order, and the flag of the runtime says
whether the last thing that happened was the delivery of an `ON`.

* `Orderly` — every message follows an acknowledgement; `orderly_publishPower` is one command.
* `messages_follow_hooks` — a run of the hooks.
* `url_never_connects` — a run with an address that is a URL.
-/

namespace Chalybs

open Foundation

/-! ## Orderly logs -/

/-- The message of a call. -/
def MqttCall.message : MqttCall → Option MqttMessage
  | .Publish message => some message
  | _ => none

/-- Every message of the log is a command to the relay, and was handed over right after a connection
that was opened for it was acknowledged. -/
def Orderly (os : MqttClient) (cfg : TasmotaConfig) (log : List MqttCall) : Prop :=
  ∀ pre message post, log = pre ++ .Publish message :: post →
    (∃ start, os.Connects cfg start pre) ∧ ∃ on, message = cfg.power on

/-- The log ends with an `ON` that was delivered. -/
def EndsOn (os : MqttClient) (cfg : TasmotaConfig) (log : List MqttCall) : Prop :=
  ∃ before, os.Delivers (cfg.power true) before ∧
    log = before ++ [.Publish (cfg.power true), .Next]

section

variable {os : MqttClient} {cfg : TasmotaConfig} {log before : List MqttCall} {call : MqttCall}

lemma orderly_nil : Orderly os cfg [] := by
  intro pre message post h
  simp at h

lemma not_endsOn_nil : ¬ EndsOn os cfg [] := by
  rintro ⟨before, -, h⟩
  simp at h

/-- One more call. -/
lemma Orderly.concat (h : Orderly os cfg log)
    (hcall : ∀ message, call = .Publish message →
      (∃ start, os.Connects cfg start log) ∧ ∃ on, message = cfg.power on) :
    Orderly os cfg (log ++ [call]) := by
  intro pre message post hsplit
  rcases List.eq_nil_or_concat post with rfl | ⟨post, last, rfl⟩
  · obtain ⟨rfl, hlast⟩ := List.append_inj' hsplit rfl
    exact hcall message (List.singleton_inj.mp hlast)
  · rw [List.concat_eq_append, ← List.cons_append, ← List.append_assoc] at hsplit
    exact h pre message post (List.append_inj' hsplit rfl).1

/-- Calls that hand over nothing. -/
lemma Orderly.append (h : Orderly os cfg log) {calls : List MqttCall}
    (hcalls : ∀ call ∈ calls, call.message = none) : Orderly os cfg (log ++ calls) := by
  induction calls generalizing log with
  | nil => rwa [List.append_nil]
  | cons call calls ih =>
      obtain ⟨hfirst, hrest⟩ := List.forall_mem_cons.mp hcalls
      rw [List.append_cons]
      refine ih (h.concat fun message hmessage => ?_) hrest
      rw [hmessage] at hfirst
      cases hfirst

lemma message_of_mem_polls {options : MqttOptions} {k : ℕ} :
    ∀ call ∈ MqttCall.New options 10 :: List.replicate k .Next, call.message = none := by
  intro call hcall
  rcases List.mem_cons.mp hcall with rfl | hnext
  · rfl
  · rw [List.eq_of_mem_replicate hnext]
    rfl

lemma Orderly.connects (h : Orderly os cfg log) (hconnects : os.Connects cfg log before) :
    Orderly os cfg before := by
  obtain ⟨host, port, -, k, -, -, rfl⟩ := hconnects
  rw [List.append_assoc]
  exact h.append message_of_mem_polls

/-- A message on a connection that was acknowledged. -/
lemma Orderly.publish (h : Orderly os cfg log) (hconnects : os.Connects cfg log before)
    (on : Bool) : Orderly os cfg (before ++ [.Publish (cfg.power on)]) :=
  (h.connects hconnects).concat fun _ hmessage =>
    ⟨⟨log, hconnects⟩, on, (MqttCall.Publish.inj hmessage).symm⟩

lemma append_pair {call' : MqttCall} :
    before ++ [call, call'] = before ++ [call] ++ [call'] := by
  rw [List.append_assoc]
  rfl

lemma Orderly.publish_next (h : Orderly os cfg log) (hconnects : os.Connects cfg log before)
    (on : Bool) : Orderly os cfg (before ++ [.Publish (cfg.power on), .Next]) := by
  rw [append_pair]
  refine (h.publish hconnects on).append fun call hcall => ?_
  rw [List.mem_singleton.mp hcall]
  rfl

lemma filterMap_message_connects (h : os.Connects cfg log before) :
    before.filterMap MqttCall.message = log.filterMap MqttCall.message := by
  obtain ⟨host, port, -, k, -, -, rfl⟩ := h
  have hnone : ([MqttCall.New (cfg.mqttOptions host port) 10] ++
      List.replicate (k + 1) MqttCall.Next).filterMap MqttCall.message = [] :=
    List.filterMap_eq_nil_iff.mpr message_of_mem_polls
  rw [List.append_assoc, List.filterMap_append, hnone, List.append_nil]

/-! ## One command -/

/-- The polls of a connection do not deliver anything. -/
lemma not_endsOn_polls {options : MqttOptions} {k : ℕ} :
    ¬ EndsOn os cfg (log ++ [.New options 10] ++ List.replicate k .Next) := by
  rintro ⟨before, -, h⟩
  have hreverse := congrArg List.reverse h
  simp only [List.reverse_append, List.reverse_replicate, List.reverse_cons, List.reverse_nil,
    List.nil_append, List.cons_append] at hreverse
  match k with
  | 0 => simp at hreverse
  | 1 => simp at hreverse
  | k + 2 => simp [List.replicate_succ] at hreverse

lemma payload_power {on on' : Bool} (h : cfg.power on = cfg.power on') : on = on' := by
  have hpayload := congrArg MqttMessage.payload h
  cases on <;> cases on' <;> simp [TasmotaConfig.power] at hpayload ⊢

/-- A message with the poll after it. -/
lemma endsOn_publish_next {on : Bool} :
    EndsOn os cfg (before ++ [.Publish (cfg.power on), .Next]) ↔
      on = true ∧ os.Delivers (cfg.power true) before := by
  constructor
  · rintro ⟨before', hdelivers, h⟩
    obtain ⟨rfl, hcalls⟩ := List.append_inj' h rfl
    have hpower : cfg.power on = cfg.power true := by simpa using hcalls
    exact ⟨payload_power hpower, hdelivers⟩
  · rintro ⟨rfl, hdelivers⟩
    exact ⟨before, hdelivers, rfl⟩

lemma not_endsOn_publish {message : MqttMessage} :
    ¬ EndsOn os cfg (before ++ [.Publish message]) := by
  rintro ⟨before', -, h⟩
  rw [append_pair] at h
  simpa using List.append_inj' h rfl

/-- Without an address there are no messages. -/
lemma Orderly.not_endsOn (h : Orderly os cfg log) {e : ChalybsError}
    (hhost : cfg.parseMqttHost = .error e) : ¬ EndsOn os cfg log := by
  rintro ⟨before, -, rfl⟩
  obtain ⟨⟨start, host, port, hok, -⟩, -⟩ := h before _ [.Next] rfl
  rw [hhost] at hok
  cases hok

/-- **One command** leaves an orderly log, hands over at most its own message, and switches the flag
on exactly if the log now ends with the delivery of an `ON`. -/
theorem orderly_publishPower (h : Orderly os cfg log) (on : Bool) :
    let t := outcome (os.publishPower cfg on) log
    Orderly os cfg t.2 ∧
      (t.2.filterMap MqttCall.message = log.filterMap MqttCall.message ∨
        t.2.filterMap MqttCall.message = log.filterMap MqttCall.message ++ [cfg.power on]) ∧
      ((if t.1 then on else false) = true ↔ EndsOn os cfg t.2) := by
  intro t
  have hmessages : ∀ {start before : List MqttCall}, os.Connects cfg start before →
      (before ++ [MqttCall.Publish (cfg.power on)]).filterMap MqttCall.message =
          start.filterMap MqttCall.message ++ [cfg.power on] ∧
        (before ++ [MqttCall.Publish (cfg.power on), .Next]).filterMap MqttCall.message =
          start.filterMap MqttCall.message ++ [cfg.power on] := by
    intro start before hconnects
    simp [List.filterMap_append, filterMap_message_connects hconnects, MqttCall.message]
  cases hrun : os.publishPower cfg on log with
  | ok u log' =>
      have ht : t = (true, log') := outcome_of_ok hrun
      obtain ⟨before, hconnects, hdelivers, rfl⟩ := MqttClient.publishPower_eq_ok.mp hrun
      rw [ht, endsOn_publish_next]
      refine ⟨h.publish_next hconnects on, .inr (hmessages hconnects).2, ?_⟩
      cases on with
      | true => simpa using hdelivers
      | false => simp
  | error e log' =>
      have ht : t = (false, log') := outcome_of_error hrun
      rw [ht]
      obtain ⟨hhost, rfl⟩ | ⟨host, port, k, -, rfl⟩ | ⟨before, hconnects, hfails, hlog⟩ :=
        MqttClient.publishPower_of_fails hrun
      · exact ⟨h, .inl rfl, by simpa using h.not_endsOn hhost⟩
      · have hpolls := @message_of_mem_polls (cfg.mqttOptions host port) k
        refine ⟨?_, .inl ?_, by simpa using not_endsOn_polls⟩
        · rw [List.append_assoc]
          exact h.append hpolls
        · rw [List.append_assoc, List.filterMap_append]
          exact (congrArg _ (List.filterMap_eq_nil_iff.mpr hpolls)).trans (List.append_nil _)
      · rcases hlog with rfl | rfl
        · refine ⟨h.publish hconnects on, .inr (hmessages hconnects).1, ?_⟩
          simpa using not_endsOn_publish
        · refine ⟨h.publish_next hconnects on, .inr (hmessages hconnects).2, ?_⟩
          rw [endsOn_publish_next]
          cases on with
          | true => simpa using hfails
          | false => simp

end

/-! ## A call of the hooks -/

section

variable {V : Type}

/-- A hook of a VM, with the client library and the I²C bus. -/
def powerHook (os : MqttClient) (bus : I2cBus V) (up : Bool) : HookOp (V × List MqttCall) :=
  if up then .VmUp (.ofPeripherals os.publishPower bus)
  else .VmDown (.ofPeripherals os.publishPower bus)

/-- The flag, the warnings and the calls of the library. -/
abbrev BrokerView := Bool × List CoreEvent × List MqttCall

def warningsOf (events : List CoreEvent) : List CoreEvent :=
  events.filter fun event => event.kind = .Warning

/-- What a hook of the relay tells when its command fails. -/
def powerFailed (on : Bool) (e : ChalybsError) : CoreEvent :=
  let text := if on then "ON" else "OFF"
  ⟨.Warning, s!"tasmota: MQTT POWER {text} failed: {e.display}"⟩

/-- What a command does to them. -/
def BrokerView.command (os : MqttClient) (cfg : TasmotaConfig) (on : Bool) (view : BrokerView) :
    BrokerView :=
  match os.publishPower cfg on view.2.2 with
  | .ok _ log => (on, view.2.1, log)
  | .error e log => (false, view.2.1 ++ [powerFailed on e], log)

/-- They are seen in the state of a hook, -/
def hookView (t : (Bool × List CoreEvent) × List DdcCommand × Bool × V × List MqttCall) :
    BrokerView :=
  (t.1.1, warningsOf t.1.2, t.2.2.2.2)

/-- and in the state of a run. -/
def RelayState.view (s : RelayState (V × List MqttCall)) : BrokerView :=
  (s.rt.tasmotaPowered, warningsOf s.rt.events, s.rest.2)

variable {os : MqttClient} {bus : I2cBus V} {cfg : TasmotaConfig}

lemma ends_powerCommand (on : Bool)
    (t : (Bool × List CoreEvent) × List DdcCommand × Bool × V × List MqttCall) :
    Ends ((HookCalls.ofPeripherals os.publishPower bus).withRelay.tasmotaHook on
        (if on then "ON" else "OFF") cfg) t
      (fun _ t' => hookView t' = (hookView t).command os cfg on) fun _ _ => False := by
  cases hrun : os.publishPower cfg on t.2.2.2.2 with
  | ok u log =>
      simp [Ends, HookCalls.tasmotaHook, HookCalls.withRelay, HookCalls.ofPeripherals, zoom,
        BrokerView.command, hookView, hrun]
  | error e log =>
      simp [Ends, HookCalls.tasmotaHook, HookCalls.withRelay, HookCalls.ofPeripherals, zoom,
        BrokerView.command, hookView, hrun, warningsOf, powerFailed]

/-- A command to the monitor leaves them as they are. -/
lemma preserves_monitorInput (ddc : DdcConfig) (input : UInt8) (phase : DdcPhase)
    (view : BrokerView) :
    Preserves (fun t => hookView t = view)
      (HookCalls.onDdc ((HookCalls.ofPeripherals os.publishPower bus).withRelay.setInput ddc input
        phase)) := by
  intro t ht
  rw [HookCalls.onDdc, ends_zoom]
  simp only [Ends, HookCalls.setInput, HookCalls.withRelay, HookCalls.ofPeripherals, zoom]
  cases bus.sendDdcSetInput ddc.monitorI2cBus vcpCodeInputSource input t.2.2.2.1 with
  | ok a v => exact ht
  | error e v =>
      simp only
      cases ddc.fatalOnError with
      | true => exact ht
      | false => exact ht

lemma preserves_deferred (rt : VmRuntime) (ddc : DdcConfig) (view : BrokerView) :
    Preserves (fun t => hookView t = view)
      ((HookCalls.ofPeripherals os.publishPower bus).withRelay.gatedVmUp rt ddc) := by
  rw [HookCalls.gatedVmUp]
  split_ifs
  · exact preserves_monitorInput ddc ddc.vmInput .VmUp view
  · refine Preserves.modify fun t ht => ?_
    rw [← ht]
    simp [hookView, warningsOf]

lemma hookView_then {cfg : TasmotaConfig} (on : Bool)
    {next : HookM (Bool × V × List MqttCall) Unit}
    (hnext : ∀ view, Preserves (fun t => hookView t = view) next)
    (t : (Bool × List CoreEvent) × List DdcCommand × Bool × V × List MqttCall) :
    hookView (outcome ((HookCalls.ofPeripherals os.publishPower bus).withRelay.tasmotaHook on
        (if on then "ON" else "OFF") cfg >>= fun _ => next) t).2 =
      (hookView t).command os cfg on := by
  refine Ends.outcome_snd (P := fun t' => hookView t' = (hookView t).command os cfg on) ?_
  rw [ends_bind]
  exact (ends_powerCommand on t).mono (fun _ t' ht' => hnext _ t' ht') fun _ _ h => h.elim

lemma preserves_each {ddc : Option DdcConfig}
    {f : DdcConfig → HookM (Bool × V × List MqttCall) Unit} {view : BrokerView}
    (h : ∀ cfg, Preserves (fun t => hookView t = view) (f cfg)) :
    Preserves (fun t => hookView t = view) (ddc.forM f) := by
  cases ddc with
  | none => exact fun t ht => ht
  | some cfg => exact h cfg

/-- **A call of the hooks** is one command. -/
theorem view_powerHook {s : RelayState (V × List MqttCall)} (hcfg : s.rt.cfg.tasmota = some cfg)
    (up : Bool) : (s.apply (powerHook os bus up)).view = s.view.command os cfg up := by
  let t : (Bool × List CoreEvent) × List DdcCommand × Bool × V × List MqttCall :=
    ((s.rt.tasmotaPowered, []), s.ddc, s.relay, s.rest)
  let t' := (outcome ((powerHook os bus up).hook s.rt) t).2
  have hview : hookView t' = (hookView t).command os cfg up := by
    obtain ⟨peripherals, hperipherals, htasmota⟩ := Option.bind_eq_some_iff.mp hcfg
    cases up with
    | true =>
        show hookView (outcome (HookCalls.applyVmUp _ s.rt) t).2 = _
        rw [HookCalls.applyVmUp, hperipherals]
        simp only [htasmota]
        exact hookView_then true (fun view => preserves_each fun ddc =>
          preserves_deferred s.rt ddc view) t
    | false =>
        show hookView (outcome (HookCalls.applyVmDown _ s.rt) t).2 = _
        rw [HookCalls.applyVmDown, hperipherals]
        simp only [htasmota]
        exact hookView_then false (fun view => preserves_each fun ddc =>
          preserves_monitorInput ddc ddc.hostInput .VmDown view) t
  have happly : (s.apply (powerHook os bus up)).view =
      ((hookView t').1, warningsOf s.rt.events ++ (hookView t').2.1, (hookView t').2.2) :=
    congrArg (fun events => (_, events, _)) (List.filter_append _ _)
  rw [happly, hview]
  simp only [BrokerView.command, hookView, RelayState.view, t]
  cases os.publishPower cfg up s.rest.2 with
  | ok u log => simp [warningsOf]
  | error e log => simp [warningsOf]

/-! ## Runs -/

/-- A call of the hooks in a run. -/
def powerStep (os : MqttClient) (bus : I2cBus V) (s : RelayState (V × List MqttCall)) (up : Bool) :
    RelayState (V × List MqttCall) :=
  s.apply (powerHook os bus up)

lemma command_eq (view : BrokerView) (on : Bool) :
    (view.command os cfg on).1 =
        (if (outcome (os.publishPower cfg on) view.2.2).1 then on else false) ∧
      (view.command os cfg on).2.2 = (outcome (os.publishPower cfg on) view.2.2).2 := by
  rw [BrokerView.command, outcome]
  cases os.publishPower cfg on view.2.2 with
  | ok u log => exact ⟨rfl, rfl⟩
  | error e log => exact ⟨rfl, rfl⟩

/-- The log of the calls after a run that has published these messages at most. -/
structure FollowsHooks (os : MqttClient) (cfg : TasmotaConfig) (s : RelayState (V × List MqttCall))
    (messages : List MqttMessage) : Prop where
  config : s.rt.cfg.tasmota = some cfg
  orderly : Orderly os cfg s.rest.2
  messages : (s.rest.2.filterMap MqttCall.message).Sublist messages
  flag : s.rt.tasmotaPowered = true ↔ EndsOn os cfg s.rest.2

lemma FollowsHooks.step {s : RelayState (V × List MqttCall)} {messages : List MqttMessage}
    (h : FollowsHooks os cfg s messages) (up : Bool) :
    FollowsHooks os cfg (powerStep os bus s up) (messages ++ [cfg.power up]) := by
  have hview : (powerStep os bus s up).view = s.view.command os cfg up :=
    view_powerHook h.config up
  obtain ⟨hflag, hlog⟩ := @command_eq os cfg s.view up
  obtain ⟨horderly, hmessages, hends⟩ := orderly_publishPower h.orderly up
  have hlog' : (powerStep os bus s up).rest.2 = (outcome (os.publishPower cfg up) s.rest.2).2 :=
    (congrArg (fun view : BrokerView => view.2.2) hview).trans hlog
  have hflag' : (powerStep os bus s up).rt.tasmotaPowered =
      if (outcome (os.publishPower cfg up) s.rest.2).1 then up else false :=
    (congrArg (fun view : BrokerView => view.1) hview).trans hflag
  refine ⟨h.config, hlog' ▸ horderly, ?_, ?_⟩
  · rw [hlog']
    rcases hmessages with hsame | hone
    · rw [hsame]
      exact h.messages.trans (List.sublist_append_left _ _)
    · rw [hone]
      exact h.messages.append (List.Sublist.refl _)
  · rw [hflag', hlog']
    exact hends

lemma FollowsHooks.run {s : RelayState (V × List MqttCall)} {messages : List MqttMessage}
    (h : FollowsHooks os cfg s messages) (ups : List Bool) :
    FollowsHooks os cfg (run (powerStep os bus) s ups) (messages ++ ups.map cfg.power) := by
  induction ups generalizing s messages with
  | nil => simpa using h
  | cons up ups ih =>
      rw [run_cons, List.map_cons, List.append_cons]
      exact ih (h.step up)

/-- **Whatever the broker does**, after every run of the hooks of a VM with a relay: a message was
only handed over right after the connection that was opened for it was acknowledged, the messages
are those of the hooks in their order, and the flag is on exactly if the last thing that the library
did was to deliver an `ON`. -/
theorem messages_follow_hooks (os : MqttClient) (bus : I2cBus V) (rt : VmRuntime)
    (cfg : TasmotaConfig) (hcfg : rt.cfg.tasmota = some cfg) (hoff : rt.tasmotaPowered = false)
    (ddc : List DdcCommand) (v : V) (ups : List Bool) :
    let s := Foundation.run (powerStep os bus) ⟨rt, ddc, false, v, []⟩ ups
    Orderly os cfg s.rest.2 ∧
      (s.rest.2.filterMap MqttCall.message).Sublist (ups.map cfg.power) ∧
      (s.rt.tasmotaPowered = true ↔ EndsOn os cfg s.rest.2) := by
  let start : RelayState (V × List MqttCall) := ⟨rt, ddc, false, v, []⟩
  have hstart : FollowsHooks os cfg start [] := by
    refine ⟨hcfg, orderly_nil, List.nil_sublist _, ?_⟩
    show rt.tasmotaPowered = true ↔ EndsOn os cfg []
    simp [hoff, not_endsOn_nil]
  intro s
  have hrun : FollowsHooks os cfg s (ups.map cfg.power) := hstart.run ups
  exact ⟨hrun.orderly, hrun.messages, hrun.flag⟩

/-- A broker that acknowledges a connection at the second poll, and takes every message. -/
def ackingClient : MqttClient where
  next log :=
    match log.getLast? with
    | some .Next => some (.ok .ConnAck)
    | _ => some (.ok .Other)
  publish _ _ := .ok ()

/-- A bus that takes everything. -/
def silentBus : I2cBus Unit where
  openDevice _ := pure ()
  slave _ := pure ()
  write _ _ := pure ()
  read _ := pure (Vector.replicate 16 0)

/-- A VM whose relay has this broker. -/
def brokerVm (mqttHost : String) : VmConfig :=
  { minimalVmConfig {} {} with
    peripherals := some { tasmota := some { mqttHost, deviceId := "plug" } } }

/-- A VM that is switched on and off again. -/
theorem messages_follow_hooks_on_off :
    let cfg : TasmotaConfig := { mqttHost := "broker:1883", deviceId := "plug" }
    let s := Foundation.run (powerStep ackingClient silentBus)
      ⟨.new "a" (brokerVm "broker:1883") ⟨⟨[]⟩, ⟨[]⟩⟩, [], false, (), []⟩ [true, false]
    Orderly ackingClient cfg s.rest.2 ∧
      (s.rest.2.filterMap MqttCall.message).Sublist ([true, false].map cfg.power) ∧
      (s.rt.tasmotaPowered = true ↔ EndsOn ackingClient cfg s.rest.2) :=
  messages_follow_hooks ackingClient silentBus (.new "a" (brokerVm "broker:1883") ⟨⟨[]⟩, ⟨[]⟩⟩)
    { mqttHost := "broker:1883", deviceId := "plug" } rfl rfl [] () [true, false]

/-! ## An address that is refused -/

/-- A run with an address that is refused never calls the library, and every call of the hooks
warns. -/
lemma view_run_refused {s : RelayState (V × List MqttCall)} (hcfg : s.rt.cfg.tasmota = some cfg)
    {e : ChalybsError} (hhost : cfg.parseMqttHost = .error e) (hoff : s.rt.tasmotaPowered = false)
    (ups : List Bool) :
    (Foundation.run (powerStep os bus) s ups).view =
      (false, warningsOf s.rt.events ++ ups.map (powerFailed · e), s.rest.2) := by
  induction ups generalizing s with
  | nil => simp [RelayState.view, hoff]
  | cons up ups ih =>
      have hview : (powerStep os bus s up).view = s.view.command os cfg up :=
        view_powerHook hcfg up
      rw [BrokerView.command, MqttClient.publishPower_of_error hhost] at hview
      obtain ⟨hflag, hrest⟩ := Prod.mk.inj hview
      obtain ⟨hwarnings, hlog⟩ := Prod.mk.inj hrest
      have hcfg' : (powerStep os bus s up).rt.cfg.tasmota = some cfg := hcfg
      rw [run_cons, ih hcfg' hflag, hwarnings, hlog, List.map_cons, List.append_assoc]
      rfl

/-- A URL is refused: what comes after its first colon is no port. -/
lemma parseMqttHost_url {rest : List Char}
    (h : trim cfg.mqttHost.toList = "mqtt://".toList ++ rest) :
    cfg.parseMqttHost = .error (.Peripheral
      s!"tasmota: mqtt_host has invalid port `{String.ofList (trim cfg.mqttHost.toList)}`") := by
  generalize hraw : trim cfg.mqttHost.toList = raw at h
  have hsplit : raw.splitOn ':' = "mqtt".toList :: ('/' :: '/' :: rest).splitOn ':' := by
    have htext : raw = "mqtt".toList ++ ':' :: '/' :: '/' :: rest := h
    rw [htext, List.splitOn_append_cons_self, List.splitOn_eq_singleton (by decide)]
    rfl
  obtain ⟨portStr, more, hport⟩ : ∃ portStr more, ('/' :: '/' :: rest).splitOn ':' =
      ('/' :: portStr) :: more := by
    obtain ⟨first, more, hfirst⟩ := List.exists_cons_of_ne_nil
      (List.splitOn_ne_nil ':' ('/' :: rest))
    refine ⟨first, more, ?_⟩
    rw [List.splitOn_cons_eq_if_modifyHead, if_neg (by decide), hfirst]
    rfl
  have hempty : raw ≠ [] := by simp [h]
  have hname : trim "mqtt".toList ≠ [] := by decide
  have hbad : parseU16 ('/' :: portStr) = .error .InvalidDigit := by
    simp [parseU16, fromStrRadix, parseDigits, toDigit]
  rw [TasmotaConfig.parseMqttHost, hraw]
  simp only [hempty, hsplit, hport, hname, hbad, if_false]

/-- **The documented form of the address**, a URL like `mqtt://host:1883`: no run of the hooks ever
opens a connection, the flag stays off, and every call of the hooks warns. -/
theorem url_never_connects (os : MqttClient) (bus : I2cBus V) (rt : VmRuntime)
    (cfg : TasmotaConfig) (hcfg : rt.cfg.tasmota = some cfg) (hoff : rt.tasmotaPowered = false)
    (hurl : "mqtt://".toList <+: trim cfg.mqttHost.toList) (ddc : List DdcCommand) (v : V)
    (ups : List Bool) :
    let s := Foundation.run (powerStep os bus) ⟨rt, ddc, false, v, []⟩ ups
    let refused := ChalybsError.Peripheral
      s!"tasmota: mqtt_host has invalid port `{String.ofList (trim cfg.mqttHost.toList)}`"
    s.rest.2 = [] ∧ s.rt.tasmotaPowered = false ∧
      warningsOf s.rt.events = warningsOf rt.events ++ ups.map (powerFailed · refused) := by
  intro s refused
  obtain ⟨rest, hrest⟩ := hurl
  let start : RelayState (V × List MqttCall) := ⟨rt, ddc, false, v, []⟩
  have hview : s.view = (false, warningsOf rt.events ++ ups.map (powerFailed · refused), []) :=
    view_run_refused (s := start) hcfg (parseMqttHost_url hrest.symm) hoff ups
  exact ⟨congrArg (fun view : BrokerView => view.2.2) hview,
    congrArg (fun view : BrokerView => view.1) hview,
    congrArg (fun view : BrokerView => view.2.1) hview⟩

/-- The address of the configuration's own example. -/
theorem url_never_connects_example :
    let s := Foundation.run (powerStep ackingClient silentBus)
      ⟨.new "a" (brokerVm "mqtt://homeassistant.local.arpa:1883") ⟨⟨[]⟩, ⟨[]⟩⟩, [], false, (), []⟩
      [true, false]
    let raw := trim "mqtt://homeassistant.local.arpa:1883".toList
    let refused := ChalybsError.Peripheral
      s!"tasmota: mqtt_host has invalid port `{String.ofList raw}`"
    s.rest.2 = [] ∧ s.rt.tasmotaPowered = false ∧
      warningsOf s.rt.events = [] ++ [true, false].map (powerFailed · refused) :=
  url_never_connects ackingClient silentBus
    (.new "a" (brokerVm "mqtt://homeassistant.local.arpa:1883") ⟨⟨[]⟩, ⟨[]⟩⟩)
    { mqttHost := "mqtt://homeassistant.local.arpa:1883", deviceId := "plug" } rfl rfl
    (by decide) [] () [true, false]

end

end Chalybs
