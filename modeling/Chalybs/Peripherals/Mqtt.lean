import Chalybs.Core.Numerals
import Chalybs.Cpu.ListGrammar
import Chalybs.Foundation.Fallible
import Chalybs.Foundation.Lists

/-!
# Publishing to the broker

`publish_power` (`peripherals/tasmota.rs`) opens a connection, polls it until the broker took it,
hands over one message and polls once more.  What the client library answers is a parameter; every
call of it is kept in a log, on which its answers may depend.

* `TasmotaConfig.parseMqttHost` — the address of the broker; `parseMqttHost_eq_ok` says what is
  accepted, and `parseMqttHost_normal` that an accepted address can be written down and read back.
* `MqttClient.publishPower` — one command; `publishPower_eq_ok` says when it succeeds, and
  `publishPower_of_fails` what it has done when it does not.
-/

namespace Chalybs

open Foundation

/-! ## The address -/

/-- `str::parse::<u16>`. -/
def parseU16 (s : List Char) : Except ParseIntError ℕ := fromStrRadix 10 (2 ^ 16) s

/-- `parse_mqtt_host`.  What follows a second colon is not looked at. -/
def TasmotaConfig.parseMqttHost (cfg : TasmotaConfig) : Except ChalybsError (String × ℕ) :=
  let raw := trim cfg.mqttHost.toList
  if raw = [] then .error (.Peripheral "tasmota: mqtt_host is empty")
  else
    match raw.splitOn ':' with
    | [] => .error (.Peripheral s!"tasmota: invalid mqtt_host `{String.ofList raw}`")
    | first :: parts =>
        let host := trim first
        if host = [] then
          .error (.Peripheral s!"tasmota: invalid mqtt_host `{String.ofList raw}`")
        else
          match parts with
          | [] => .error (.Peripheral s!"tasmota: mqtt_host missing port `{String.ofList raw}`")
          | portStr :: _ =>
              match parseU16 portStr with
              | .error _ =>
                  .error (.Peripheral s!"tasmota: mqtt_host has invalid port `{String.ofList raw}`")
              | .ok port => .ok (String.ofList host, port)

/-- The text has the host before its first colon and the port after it. -/
structure Addresses (raw : List Char) (host : String) (port : ℕ) : Prop where
  fields : ∃ first portStr more, raw.splitOn ':' = first :: portStr :: more ∧
    trim first = host.toList ∧
    (Decimal portStr port ∨ ∃ ds, portStr = '+' :: ds ∧ Decimal ds port)
  named : host ≠ ""
  bound : port < 2 ^ 16

section

variable {cfg : TasmotaConfig} {host : String} {port : ℕ}

/-- **What is accepted** as the address of a broker. -/
theorem parseMqttHost_eq_ok :
    cfg.parseMqttHost = .ok (host, port) ↔ Addresses (trim cfg.mqttHost.toList) host port := by
  generalize hraw : trim cfg.mqttHost.toList = raw
  rw [TasmotaConfig.parseMqttHost, hraw]
  constructor
  · intro h
    by_cases hempty : raw = []
    · simp [hempty] at h
    · simp only [hempty, if_false] at h
      cases hparts : raw.splitOn ':' with
      | nil => simp [hparts] at h
      | cons first parts =>
          by_cases hhost : trim first = []
          · simp [hparts, hhost] at h
          · cases parts with
            | nil => simp [hparts, hhost] at h
            | cons portStr more =>
                cases hport : parseU16 portStr with
                | error e => simp [hparts, hhost, hport] at h
                | ok n =>
                    simp only [hparts, hhost, hport, if_false, Except.ok.injEq,
                      Prod.mk.injEq] at h
                    obtain ⟨rfl, rfl⟩ := h
                    obtain ⟨hdigits, hbound⟩ := (fromStrRadix_ten_iff (by decide)).mp hport
                    refine ⟨⟨first, portStr, more, hparts, String.toList_ofList.symm, hdigits⟩,
                      ?_, hbound⟩
                    intro hname
                    exact hhost (by simpa using congrArg String.toList hname)
  · rintro ⟨⟨first, portStr, more, hparts, hhost, hdigits⟩, hname, hbound⟩
    have hempty : raw ≠ [] := by
      rintro rfl
      simp at hparts
    have hfirst : trim first ≠ [] := by
      intro hnil
      exact hname (String.toList_inj.mp (by rw [← hhost, hnil]; rfl))
    have hport : parseU16 portStr = .ok port :=
      (fromStrRadix_ten_iff (by decide)).mpr ⟨hdigits, hbound⟩
    simp only [hempty, hparts, hfirst, hport, if_false]
    rw [hhost, String.ofList_toList]

/-- A host and a port, with a colon between them, are a trimmed text of two fields. -/
lemma addresses_normal {raw : List Char} (h : Addresses raw host port) :
    Addresses (trim (s!"{host}:{port}").toList) host port := by
  obtain ⟨⟨first, portStr, more, hparts, hhost, -⟩, hname, hbound⟩ := h
  have hdigits := decimal_toString port
  have htext : (s!"{host}:{port}").toList = host.toList ++ ':' :: (toString port).toList := by
    rw [String.toList_append, String.toList_append, List.append_assoc]
    rfl
  have htrimmed : trim host.toList = host.toList := by rw [← hhost, trim_trim]
  have hnil : host.toList ≠ [] := fun hnil => hname (String.toList_inj.mp hnil)
  have htrim : trim (s!"{host}:{port}").toList = (s!"{host}:{port}").toList := by
    rw [htext]
    refine trim_eq_self_iff.mpr ⟨fun c hc => ?_, fun c hc => ?_⟩
    · rw [List.head?_append_of_ne_nil _ hnil] at hc
      exact (trim_eq_self_iff.mp htrimmed).1 c hc
    · rw [List.getLast?_append_of_ne_nil _ (List.cons_ne_nil _ _), List.getLast?_cons_of_ne_nil
        hdigits.1] at hc
      exact (trim_eq_self_iff.mp hdigits.trim_eq_self).2 c hc
  have hcolon : ':' ∉ host.toList := by
    intro hmem
    have hfirst : first ∈ raw.splitOn ':' := hparts ▸ List.mem_cons_self
    exact not_mem_of_mem_splitOn hfirst (mem_of_mem_trim (hhost ▸ hmem))
  have hplain : ':' ∉ (toString port).toList := hdigits.not_mem (by decide)
  refine ⟨⟨host.toList, (toString port).toList, [], ?_, htrimmed, .inl hdigits⟩, hname, hbound⟩
  rw [htrim, htext]
  refine (splitOn_eq_iff (List.cons_ne_nil _ _)).mpr ⟨by simp [List.intercalate], ?_⟩
  intro part hpart
  rcases List.mem_pair.mp hpart with rfl | rfl
  · exact hcolon
  · exact hplain

/-- **An accepted address**, written as the log line has it, is accepted as the same. -/
theorem parseMqttHost_normal (h : cfg.parseMqttHost = .ok (host, port)) :
    ({ cfg with mqttHost := s!"{host}:{port}" } : TasmotaConfig).parseMqttHost =
      .ok (host, port) :=
  parseMqttHost_eq_ok.mpr (addresses_normal (parseMqttHost_eq_ok.mp h))

/-- White space around the host, a sign before the port and a third field. -/
theorem parseMqttHost_normal_fields :
    ({ mqttHost := "broker" ++ ":" ++ toString 1883, deviceId := "plug" } :
      TasmotaConfig).parseMqttHost = .ok ("broker", 1883) :=
  @parseMqttHost_normal { mqttHost := " broker :+1883:tls", deviceId := "plug" } "broker" 1883
    (by decide)

end

/-! ## The client library -/

inductive QoS
  | AtMostOnce
  | AtLeastOnce
  | ExactlyOnce
  deriving DecidableEq, Repr

/-- What `publish` is told. -/
structure MqttMessage where
  topic : String
  qos : QoS
  retain : Bool
  payload : String
  deriving DecidableEq, Repr

/-- `MqttOptions`, as far as they are set; the keep-alive is in seconds. -/
structure MqttOptions where
  clientId : String
  host : String
  port : ℕ
  keepAlive : ℕ
  credentials : Option (String × String)
  deriving DecidableEq, Repr

/-- An event of the connection, as far as it is looked at. -/
inductive MqttEvent
  | ConnAck
  | Other
  deriving DecidableEq, Repr

/-- A call of the library. -/
inductive MqttCall
  | New (options : MqttOptions) (capacity : ℕ)
  | Next
  | Publish (message : MqttMessage)
  deriving DecidableEq, Repr

/-- What the library answers after the calls so far: the broker at the other end of the network
may do anything. -/
structure MqttClient where
  /-- `next` of the iterator over the connection, which may be over. -/
  next : List MqttCall → Option (Except String MqttEvent)
  publish : List MqttCall → MqttMessage → Except String Unit

/-- A computation on the calls so far. -/
abbrev MqttM := EStateM ChalybsError (List MqttCall)

/-- The options of a connection. -/
def TasmotaConfig.mqttOptions (cfg : TasmotaConfig) (host : String) (port : ℕ) : MqttOptions where
  clientId := s!"chalybs-{cfg.deviceId}"
  host
  port
  keepAlive := 5
  credentials := cfg.username.map fun user => (user, cfg.password.getD "")

/-- The message for the relay. -/
def TasmotaConfig.power (cfg : TasmotaConfig) (on : Bool) : MqttMessage where
  topic := s!"cmnd/{cfg.deviceId}/POWER"
  qos := .AtLeastOnce
  retain := false
  payload := if on then "ON" else "OFF"

namespace MqttClient

variable (os : MqttClient)

/-- `Client::new`. -/
def create (options : MqttOptions) : MqttM Unit := modify fun log => log ++ [.New options 10]

/-- `iter.next()`. -/
def poll : MqttM (Option (Except String MqttEvent)) := fun log =>
  .ok (os.next log) (log ++ [.Next])

/-- `client.publish`. -/
def send (message : MqttMessage) : MqttM Unit := fun log =>
  match os.publish log message with
  | .ok () => .ok () (log ++ [.Publish message])
  | .error e =>
      .error (.Peripheral s!"tasmota: publish error on `{message.topic}`: {e}")
        (log ++ [.Publish message])

/-- The loop before the publish, with the turns that are left: whether the broker took the
connection. -/
def awaitConnAck : ℕ → MqttM Bool
  | 0 => pure false
  | n + 1 => do
      match ← os.poll with
      | some (.ok .ConnAck) => pure true
      | some (.ok .Other) => awaitConnAck n
      | some (.error e) =>
          throw (.Peripheral s!"tasmota: connection error before publish: {e}")
      | none => pure false

/-- The poll after the publish. -/
def flush : MqttM Unit := do
  match ← os.poll with
  | some (.error e) => throw (.Peripheral s!"tasmota: eventloop error after publish: {e}")
  | _ => pure ()

/-- `publish_power`. -/
def publishPower (cfg : TasmotaConfig) (on : Bool) : MqttM Unit := do
  let (host, port) ← fromExcept cfg.parseMqttHost
  create (cfg.mqttOptions host port)
  let connected ← os.awaitConnAck 20
  if connected then
    os.send (cfg.power on)
    os.flush
  else throw (.Peripheral "tasmota: never received ConnAck before publish")

end MqttClient

/-! ## When a command succeeds -/

namespace MqttClient

/-- So many polls answer with something else than the acknowledgement. -/
def Idles (os : MqttClient) (log : List MqttCall) (k : ℕ) : Prop :=
  ∀ j < k, os.next (log ++ List.replicate j .Next) = some (.ok .Other)

/-- The poll after these is answered with the acknowledgement. -/
def Acknowledges (os : MqttClient) (log : List MqttCall) (k : ℕ) : Prop :=
  os.Idles log k ∧ os.next (log ++ List.replicate k .Next) = some (.ok .ConnAck)

/-- From the first of these logs on, a connection to the broker of the configuration is opened, and
it is acknowledged within twenty polls, the last of which ends the second. -/
def Connects (os : MqttClient) (cfg : TasmotaConfig) (log before : List MqttCall) : Prop :=
  ∃ host port, cfg.parseMqttHost = .ok (host, port) ∧
    ∃ k < 20, os.Acknowledges (log ++ [.New (cfg.mqttOptions host port) 10]) k ∧
      before = log ++ [.New (cfg.mqttOptions host port) 10] ++ List.replicate (k + 1) .Next

/-- The library takes the message, and the poll after it is answered with no error. -/
def Delivers (os : MqttClient) (message : MqttMessage) (before : List MqttCall) : Prop :=
  os.publish before message = .ok () ∧
    ∀ e, os.next (before ++ [.Publish message]) ≠ some (.error e)

section

variable {os : MqttClient} {cfg : TasmotaConfig} {on : Bool} {log log' : List MqttCall} {n k : ℕ}

lemma append_replicate_next (log : List MqttCall) (k : ℕ) :
    log ++ [.Next] ++ List.replicate k .Next = log ++ List.replicate (k + 1) .Next := by
  rw [List.append_assoc, List.replicate_succ]
  rfl

lemma acknowledges_succ :
    os.Acknowledges log (k + 1) ↔
      os.next log = some (.ok .Other) ∧ os.Acknowledges (log ++ [.Next]) k := by
  constructor
  · rintro ⟨hidles, hack⟩
    refine ⟨by simpa using hidles 0 k.succ_pos, fun j hj => ?_, ?_⟩
    · rw [append_replicate_next]
      exact hidles (j + 1) (by omega)
    · rwa [append_replicate_next]
  · rintro ⟨hfirst, hidles, hack⟩
    refine ⟨fun j hj => ?_, by rwa [append_replicate_next] at hack⟩
    cases j with
    | zero => simpa using hfirst
    | succ j =>
        rw [← append_replicate_next]
        exact hidles j (by omega)

/-- One turn of the loop. -/
lemma awaitConnAck_succ : os.awaitConnAck (n + 1) log =
    match os.next log with
    | some (.ok .ConnAck) => .ok true (log ++ [.Next])
    | some (.ok .Other) => os.awaitConnAck n (log ++ [.Next])
    | some (.error e) =>
        .error (.Peripheral s!"tasmota: connection error before publish: {e}") (log ++ [.Next])
    | none => .ok false (log ++ [.Next]) := by
  rw [awaitConnAck]
  show EStateM.bind os.poll _ log = _
  simp only [EStateM.bind, poll]
  cases os.next log with
  | none => rfl
  | some answer =>
      cases answer with
      | error e => rfl
      | ok event => cases event <;> rfl

/-- **The loop finds the acknowledgement** exactly if it comes in time. -/
lemma awaitConnAck_eq_true :
    os.awaitConnAck n log = .ok true log' ↔
      ∃ k < n, os.Acknowledges log k ∧ log' = log ++ List.replicate (k + 1) .Next := by
  induction n generalizing log with
  | zero => simp [awaitConnAck, pure, EStateM.pure]
  | succ n ih =>
      have hzero : os.Acknowledges log 0 ↔ os.next log = some (.ok .ConnAck) := by
        simp [Acknowledges, Idles]
      rw [awaitConnAck_succ, Nat.exists_lt_succ_left, hzero]
      simp only [acknowledges_succ]
      cases hnext : os.next log with
      | none => simp
      | some answer =>
          cases answer with
          | error e => simp
          | ok event =>
              cases event with
              | ConnAck => simp [eq_comm]
              | Other => simp [ih, ← append_replicate_next]

/-- However the loop ends, it did nothing but poll. -/
lemma ends_awaitConnAck (n : ℕ) (log : List MqttCall) :
    Ends (os.awaitConnAck n) log
      (fun _ log' => ∃ k ≤ n, log' = log ++ List.replicate k .Next)
      (fun _ log' => ∃ k ≤ n, log' = log ++ List.replicate k .Next) := by
  induction n generalizing log with
  | zero => exact ⟨0, le_rfl, by simp⟩
  | succ n ih =>
      have hone : ∃ k ≤ n + 1, log ++ [MqttCall.Next] = log ++ List.replicate k .Next :=
        ⟨1, by omega, rfl⟩
      rw [Ends, awaitConnAck_succ]
      cases os.next log with
      | none => exact hone
      | some answer =>
          cases answer with
          | error e => exact hone
          | ok event =>
              cases event with
              | ConnAck => exact hone
              | Other =>
                  have hmore : ∀ log', (∃ k ≤ n, log' = log ++ [.Next] ++ List.replicate k .Next) →
                      ∃ k ≤ n + 1, log' = log ++ List.replicate k .Next := by
                    rintro _ ⟨k, hk, rfl⟩
                    exact ⟨k + 1, by omega, append_replicate_next log k⟩
                  exact (ih (log ++ [.Next])).mono (fun _ => hmore) fun _ => hmore

lemma flush_eq : os.flush log =
    match os.next log with
    | some (.error e) =>
        .error (.Peripheral s!"tasmota: eventloop error after publish: {e}") (log ++ [.Next])
    | _ => .ok () (log ++ [.Next]) := by
  rw [flush]
  show EStateM.bind os.poll _ log = _
  simp only [EStateM.bind, poll]
  cases os.next log with
  | none => rfl
  | some answer => cases answer <;> rfl

/-- The message and the poll after it. -/
def transmit (os : MqttClient) (message : MqttMessage) : MqttM Unit := do
  os.send message
  os.flush

lemma transmit_eq {message : MqttMessage} :
    os.transmit message log =
      match os.publish log message with
      | .error e =>
          .error (.Peripheral s!"tasmota: publish error on `{message.topic}`: {e}")
            (log ++ [.Publish message])
      | .ok () =>
          match os.next (log ++ [.Publish message]) with
          | some (.error e) =>
              .error (.Peripheral s!"tasmota: eventloop error after publish: {e}")
                (log ++ [.Publish message, .Next])
          | _ => .ok () (log ++ [.Publish message, .Next]) := by
  rw [transmit]
  show EStateM.bind (os.send message) _ log = _
  simp only [EStateM.bind, send]
  cases os.publish log message with
  | error e => rfl
  | ok u =>
      show os.flush (log ++ [.Publish message]) = _
      rw [flush_eq, List.append_assoc]
      rfl

lemma publishPower_of_error {e : ChalybsError} (h : cfg.parseMqttHost = .error e) :
    os.publishPower cfg on log = .error e log := by
  simp [publishPower, h, bind, EStateM.bind, fromExcept]

lemma publishPower_of_ok {host : String} {port : ℕ} (h : cfg.parseMqttHost = .ok (host, port)) :
    os.publishPower cfg on log =
      match os.awaitConnAck 20 (log ++ [.New (cfg.mqttOptions host port) 10]) with
      | .ok true before => os.transmit (cfg.power on) before
      | .ok false before =>
          .error (.Peripheral "tasmota: never received ConnAck before publish") before
      | .error e before => .error e before := by
  rw [publishPower, h]
  show EStateM.bind (os.awaitConnAck 20) _ (log ++ [.New (cfg.mqttOptions host port) 10]) = _
  rw [EStateM.bind]
  cases os.awaitConnAck 20 (log ++ [.New (cfg.mqttOptions host port) 10]) with
  | error e before => rfl
  | ok connected before => cases connected <;> rfl

lemma transmit_eq_ok {message : MqttMessage} :
    os.transmit message log = .ok () log' ↔
      os.Delivers message log ∧ log' = log ++ [.Publish message, .Next] := by
  rw [transmit_eq, Delivers]
  cases os.publish log message with
  | error e => simp
  | ok u =>
      cases os.next (log ++ [.Publish message]) with
      | none => simp [eq_comm]
      | some answer =>
          cases answer with
          | error e => simp
          | ok event => simp [eq_comm]

lemma transmit_of_error {message : MqttMessage} {e : ChalybsError}
    (h : os.transmit message log = .error e log') :
    ¬ os.Delivers message log ∧
      (log' = log ++ [.Publish message] ∨ log' = log ++ [.Publish message, .Next]) := by
  refine ⟨fun hdelivers => ?_, ?_⟩
  · have hok := transmit_eq_ok.mpr ⟨hdelivers, rfl⟩
    rw [h] at hok
    cases hok
  · rw [transmit_eq] at h
    split at h
    · exact .inl (EStateM.Result.error.inj h).2.symm
    · split at h
      · exact .inr (EStateM.Result.error.inj h).2.symm
      · cases h

/-- **When a command succeeds**: a connection is opened and acknowledged in time, the library takes
the message, and the poll after it answers with no error. -/
theorem publishPower_eq_ok :
    os.publishPower cfg on log = .ok () log' ↔
      ∃ before, os.Connects cfg log before ∧ os.Delivers (cfg.power on) before ∧
        log' = before ++ [.Publish (cfg.power on), .Next] := by
  constructor
  · intro h
    cases hhost : cfg.parseMqttHost with
    | error e =>
        rw [publishPower_of_error hhost] at h
        cases h
    | ok address =>
        obtain ⟨host, port⟩ := address
        rw [publishPower_of_ok hhost] at h
        split at h
        next before hawait =>
          obtain ⟨k, hk, hack, hbefore⟩ := awaitConnAck_eq_true.mp hawait
          exact ⟨before, ⟨host, port, hhost, k, hk, hack, hbefore⟩, transmit_eq_ok.mp h⟩
        next => cases h
        next => cases h
  · rintro ⟨before, ⟨host, port, hhost, k, hk, hack, hbefore⟩, hdelivers, hlog⟩
    rw [publishPower_of_ok hhost, awaitConnAck_eq_true.mpr ⟨k, hk, hack, hbefore⟩]
    exact transmit_eq_ok.mpr ⟨hdelivers, hlog⟩

/-- **How a command fails**: no address, no acknowledgement, or a message that is not delivered. -/
lemma publishPower_of_fails {e : ChalybsError} (h : os.publishPower cfg on log = .error e log') :
    (cfg.parseMqttHost = .error e ∧ log' = log) ∨
    (∃ host port, ∃ k ≤ 20, log' =
      log ++ [.New (cfg.mqttOptions host port) 10] ++ List.replicate k .Next) ∨
    ∃ before, os.Connects cfg log before ∧ ¬ os.Delivers (cfg.power on) before ∧
      (log' = before ++ [.Publish (cfg.power on)] ∨
        log' = before ++ [.Publish (cfg.power on), .Next]) := by
  cases hhost : cfg.parseMqttHost with
  | error e' =>
      rw [publishPower_of_error hhost] at h
      obtain ⟨rfl, rfl⟩ := EStateM.Result.error.inj h
      exact .inl ⟨rfl, rfl⟩
  | ok address =>
      obtain ⟨host, port⟩ := address
      have hpolls := @ends_awaitConnAck os 20 (log ++ [.New (cfg.mqttOptions host port) 10])
      rw [Ends] at hpolls
      rw [publishPower_of_ok hhost] at h
      split at h
      next before hawait =>
        obtain ⟨k, hk, hack, hbefore⟩ := awaitConnAck_eq_true.mp hawait
        exact .inr (.inr ⟨before, ⟨host, port, hhost, k, hk, hack, hbefore⟩, transmit_of_error h⟩)
      next before hawait =>
        rw [hawait] at hpolls
        obtain ⟨k, hk, hbefore⟩ := hpolls
        exact .inr (.inl ⟨host, port, k, hk, (EStateM.Result.error.inj h).2 ▸ hbefore⟩)
      next e' before hawait =>
        rw [hawait] at hpolls
        obtain ⟨k, hk, hbefore⟩ := hpolls
        exact .inr (.inl ⟨host, port, k, hk, (EStateM.Result.error.inj h).2 ▸ hbefore⟩)

end

end MqttClient

end Chalybs
