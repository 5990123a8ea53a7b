import Chalybs.Tui.App
import Chalybs.Tui.Sending

/-!
# A session with the daemon

What `main` of the TUI does with `App` and `DaemonBackend` (`tui/src/app.rs`): it waits for the
first snapshot, and then polls the socket on every tick and sends commands in between.  Every event
that is pushed comes from somewhere, and an `Origin` says from where.

* `Session.greet`, `Session.connect`, `Session.onTick`, `Session.forward` — the start and the
  steps.
* `Origin.render` — the event that is shown for an origin.
* `tagged_run` — in a session whose connection stays open, every batch is what its origins are shown
  as.
-/

namespace Chalybs.Tui

open Foundation

/-! ## Where events come from -/

/-- Where an event comes from. -/
inductive Origin
  /-- The `events_global` of a snapshot. -/
  | Global (event : IpcEvent)
  /-- The events of a VM in a snapshot. -/
  | Vm (vmName : String) (event : IpcEvent)
  /-- The TUI, about its connection to the daemon. -/
  | Ipc (event : AppEvent)
  /-- The TUI, as the answer to a command that it does not send. -/
  | Command (event : AppEvent)
  deriving DecidableEq, Repr

namespace Origin

/-- The event that is pushed. -/
def render : Origin → AppEvent
  | .Global event => mapEventGlobal event
  | .Vm vmName event => mapEventForVm vmName event
  | .Ipc event => event
  | .Command event => event

/-- Where the events of a decoded line come from. -/
def ofMessage : Except String IpcMessage → List Origin
  | .ok (.Snapshot snapshot) =>
      snapshot.eventsGlobal.map .Global ++
        snapshot.eventsVm.flatMap fun vmEv => vmEv.events.map (.Vm vmEv.vmName)
  | .ok (.ShellCommand _) =>
      [.Ipc ⟨.Warning, "chalybs-tui: unexpected ShellCommand from daemon"⟩]
  | .error err => [.Ipc ⟨.Error, s!"chalybs-tui: failed to decode IPC message: {err}"⟩]

lemma render_ofMessage (backend : DaemonBackend) (message : Except String IpcMessage) :
    (backend.handle message).pendingEvents =
      backend.pendingEvents ++ (ofMessage message).map render := by
  rcases message with err | command | snapshot
  · rfl
  · rfl
  · simp only [DaemonBackend.handle, ofMessage, List.map_append, List.map_map, List.map_flatMap]
    rfl

lemma render_foldl (backend : DaemonBackend) (messages : List (Except String IpcMessage)) :
    (messages.foldl DaemonBackend.handle backend).pendingEvents =
      backend.pendingEvents ++ (messages.flatMap ofMessage).map render := by
  induction messages generalizing backend with
  | nil => exact (List.append_nil _).symm
  | cons message messages ih =>
      rw [List.foldl_cons, ih, render_ofMessage, List.append_assoc, ← List.map_append,
        List.flatMap_cons]

end Origin

/-! ## The backend on a tick -/

namespace DaemonBackend

/-- What `refresh_status` makes of the result of `drain_socket`. -/
def reportDrain (backend : DaemonBackend) : Except String Unit → DaemonBackend
  | .ok () => backend
  | .error err => backend.push .Error s!"chalybs-tui: IPC drain error: {err}"

/-- `refresh_status`, after the socket was drained with that result. -/
def refreshStatus (drained : Except String Unit) (backend : DaemonBackend) (vms : List VmStatus) :
    List VmStatus × DaemonBackend :=
  let backend := backend.reportDrain drained
  if backend.lastSnapshotVms.isEmpty then (vms, backend)
  else if vms.length = backend.lastSnapshotVms.length then (backend.lastSnapshotVms, backend)
  else
    (vms, backend.push .Warning (s!"chalybs-tui: daemon snapshot VM count " ++
      s!"{backend.lastSnapshotVms.length} != local VM count {vms.length} (ignoring)"))

/-- `poll_events`. -/
def pollEvents (backend : DaemonBackend) : List AppEvent × DaemonBackend :=
  (backend.pendingEvents, { backend with pendingEvents := [] })

/-- The events that are added to those of another state of the backend. -/
def added (before after : DaemonBackend) : List AppEvent :=
  after.pendingEvents.drop before.pendingEvents.length

lemma append_added {before after : DaemonBackend} {events : List AppEvent}
    (h : after.pendingEvents = before.pendingEvents ++ events) : added before after = events := by
  rw [added, h, List.drop_left]

lemma refreshStatus_appends (drained : Except String Unit) (backend : DaemonBackend)
    (vms : List VmStatus) : ∃ events, (refreshStatus drained backend vms).2.pendingEvents =
      backend.pendingEvents ++ events := by
  obtain ⟨events, hevents⟩ : ∃ events, (backend.reportDrain drained).pendingEvents =
      backend.pendingEvents ++ events := by
    cases drained with
    | ok _ => exact ⟨[], (List.append_nil _).symm⟩
    | error err => exact ⟨_, rfl⟩
  simp only [refreshStatus]
  split_ifs
  · exact ⟨events, hevents⟩
  · exact ⟨events, hevents⟩
  · exact ⟨events ++ [_], by rw [push, hevents, List.append_assoc]⟩

end DaemonBackend

/-! ## The session -/

/-- The TUI, the receiving end of its connection, and where the events come from that are not yet
shown; nothing reads the last. -/
structure Session where
  app : App
  rx : Rx DaemonBackend
  pending : List Origin
  deriving DecidableEq

/-- What the main loop does. -/
inductive SessionOp
  /-- `on_tick`, with what the reads of the socket return. -/
  | OnTick (reads : List ReadResult)
  /-- `submit_shell_command` with a command that is sent, and the outcomes of its writes. -/
  | SubmitShellCommand (op : SendOp)
  /-- `start_selected_vm`, `stop_selected_vm` and `restart_selected_vm`. -/
  | RequestVm (verb : String) (json newline : WriteAll)
  /-- A key for the view, or a command that `handle_local_command` answers with some events. -/
  | App (op : AppOp)
  deriving DecidableEq, Repr

/-- The connection stays open. -/
def SessionOp.KeepsOpen : SessionOp → Prop
  | .OnTick reads => ∀ read ∈ reads, read.KeepsOpen
  | _ => True

instance (op : SessionOp) : Decidable op.KeepsOpen :=
  match op with
  | .OnTick reads => inferInstanceAs (Decidable (∀ read ∈ reads, read.KeepsOpen))
  | .SubmitShellCommand _ => .isTrue trivial
  | .RequestVm _ _ _ => .isTrue trivial
  | .App _ => .isTrue trivial

namespace Session

variable (codec : JsonCodec)

/-- What a tick does to the backend: the result of `drain_socket`, the end of the connection after
it, and the VMs and the backend after `refresh_status`. -/
def refresh (s : Session) (reads : List ReadResult) :
    Rx DaemonBackend × List VmStatus × DaemonBackend :=
  let drained := DaemonBackend.drainSocket codec s.rx reads
  (drained.2.1, DaemonBackend.refreshStatus drained.1 drained.2.1.state s.app.vms)

/-- `on_tick`. -/
def onTick (s : Session) (reads : List ReadResult) : Session :=
  let (rx, vms, backend) := s.refresh codec reads
  let (newEvents, backend) := backend.pollEvents
  { app := { s.app with vms }.pushEvents newEvents
    rx := { rx with state := backend }
    pending := [] }

/-- Where the events of a tick come from: what was pending, the messages that were received, and
the reports of `refresh_status`. -/
def tickBatch (s : Session) (reads : List ReadResult) : List Origin :=
  let (rx, _, backend) := s.refresh codec reads
  s.pending ++ (rx.decoded.drop s.rx.decoded.length).flatMap Origin.ofMessage ++
    (DaemonBackend.added rx.state backend).map .Ipc

/-- A command is given to the backend, and the events that it returns are pushed. -/
def forward (s : Session) (op : SendOp) : Session :=
  let (newEvents, sender) := Sender.handleShellCommand codec ⟨s.rx.state, []⟩ op
  { app := s.app.pushEvents newEvents
    rx := { s.rx with state := sender.backend }
    pending := s.pending ++ (DaemonBackend.added s.rx.state sender.backend).map .Ipc }

/-- The command for the VM that is selected. -/
def vmCommand (s : Session) (verb : String) (json newline : WriteAll) : Option SendOp :=
  s.app.vms[s.app.selectedVm]?.map fun vm => ⟨s!"vm {verb} {vm.name}", json, newline⟩

def step (s : Session) : SessionOp → Session
  | .OnTick reads => s.onTick codec reads
  | .SubmitShellCommand op =>
      if (commandLine op.command).isNone then s else s.forward codec op
  | .RequestVm verb json newline =>
      match s.vmCommand verb json newline with
      | none => s
      | some op => s.forward codec op
  | .App op => { s with app := s.app.apply op }

/-- The batches that an operation pushes: none or one. -/
def batches (s : Session) : SessionOp → List (List Origin)
  | .OnTick reads => [s.tickBatch codec reads]
  | .SubmitShellCommand op => if (commandLine op.command).isNone then [] else [[]]
  | .RequestVm verb json newline => if (s.vmCommand verb json newline).isNone then [] else [[]]
  | .App (.PushEvents events) => [events.map .Command]
  | .App _ => []

/-- `connect_default`: the calls until there is a snapshot with VMs, or none are left. -/
def connectDefault (rx : Rx DaemonBackend) :
    List (List ReadResult) → Except String (Rx DaemonBackend)
  | [] => .error "timed out waiting for initial daemon snapshot"
  | reads :: calls =>
      let drained := DaemonBackend.drainSocket codec rx reads
      match drained.1 with
      | .error err => .error s!"error while waiting for initial snapshot: {err}"
      | .ok () =>
          if drained.2.1.state.lastSnapshotVms.isEmpty then connectDefault drained.2.1 calls
          else .ok drained.2.1

/-- The session that `create_app_autodetect` makes of a backend that is connected. -/
def greet (rx : Rx DaemonBackend) : Session where
  app := { App.new rx.state.lastSnapshotVms with
      daemonHealth := .Healthy
      daemonHealthCleanRuns := 0 }.pushEvents
    [⟨.System, "chalybs-tui: connected to daemon backend"⟩]
  rx
  pending := rx.decoded.flatMap Origin.ofMessage

/-- `create_app_autodetect`, for a daemon that can be reached. -/
def connect (calls : List (List ReadResult)) : Except String Session :=
  (connectDefault codec ⟨[], [], {}⟩ calls).map greet

/-! ## A connection that stays open -/

/-- The pending events are those of their origins. -/
def Tagged (s : Session) : Prop := s.rx.state.pendingEvents = s.pending.map Origin.render

variable {codec} {s : Session}

/-- A call that drains the socket adds the events of the messages that it decodes. -/
lemma exists_drained (codec : JsonCodec) (rx : Rx DaemonBackend) {reads : List ReadResult}
    (hreads : ∀ read ∈ reads, read.KeepsOpen) :
    ∃ messages, (DaemonBackend.drainSocket codec rx reads).2.1.decoded = rx.decoded ++ messages ∧
      (DaemonBackend.drainSocket codec rx reads).2.1.state.pendingEvents =
        rx.state.pendingEvents ++ (messages.flatMap Origin.ofMessage).map Origin.render := by
  obtain ⟨messages, hdecoded, hstate⟩ :=
    Endpoint.drain_of_open DaemonBackend.endpoint codec rx hreads
  refine ⟨messages, hdecoded, ?_⟩
  rw [DaemonBackend.drainSocket, hstate]
  exact Origin.render_foldl rx.state messages

lemma tagged_connectDefault {calls : List (List ReadResult)} {rx rx' : Rx DaemonBackend}
    (hcalls : ∀ reads ∈ calls, ∀ read ∈ reads, read.KeepsOpen)
    (hrx : rx.state.pendingEvents = (rx.decoded.flatMap Origin.ofMessage).map Origin.render)
    (h : connectDefault codec rx calls = .ok rx') :
    rx'.state.pendingEvents = (rx'.decoded.flatMap Origin.ofMessage).map Origin.render := by
  induction calls generalizing rx with
  | nil => cases h
  | cons reads calls ih =>
      obtain ⟨hreads, hrest⟩ := List.forall_mem_cons.mp hcalls
      obtain ⟨messages, hdecoded, hpending⟩ := exists_drained codec rx hreads
      have hnext : (DaemonBackend.drainSocket codec rx reads).2.1.state.pendingEvents =
          ((DaemonBackend.drainSocket codec rx reads).2.1.decoded.flatMap
            Origin.ofMessage).map Origin.render := by
        rw [hpending, hdecoded, hrx, List.flatMap_append, List.map_append]
      simp only [connectDefault] at h
      split at h
      · cases h
      · split_ifs at h
        · exact ih hrest hnext h
        · obtain rfl := Except.ok.inj h
          exact hnext

/-- A session starts with the events of the messages that were received. -/
lemma tagged_connect {calls : List (List ReadResult)}
    (hcalls : ∀ reads ∈ calls, ∀ read ∈ reads, read.KeepsOpen)
    (h : connect codec calls = .ok s) : s.Tagged := by
  rw [connect] at h
  cases hrx : connectDefault codec ⟨[], [], {}⟩ calls with
  | error err => rw [hrx] at h; cases h
  | ok rx =>
      rw [hrx] at h
      obtain rfl := Except.ok.inj h
      exact tagged_connectDefault hcalls rfl hrx

/-- **The events of a tick** are those of their origins. -/
lemma render_tickBatch (htagged : s.Tagged) {reads : List ReadResult}
    (hreads : ∀ read ∈ reads, read.KeepsOpen) :
    (s.refresh codec reads).2.2.pendingEvents = (s.tickBatch codec reads).map Origin.render := by
  obtain ⟨messages, hdecoded, hpending⟩ := exists_drained codec s.rx hreads
  obtain ⟨events, hevents⟩ := DaemonBackend.refreshStatus_appends
    (DaemonBackend.drainSocket codec s.rx reads).1
    (DaemonBackend.drainSocket codec s.rx reads).2.1.state s.app.vms
  have hipc : (events.map Origin.Ipc).map Origin.render = events := by
    rw [List.map_map]
    exact List.map_id events
  simp only [tickBatch, refresh, DaemonBackend.append_added hevents]
  rw [hevents, hdecoded, hpending, List.drop_left, htagged, List.map_append, List.map_append, hipc]

lemma tagged_forward (htagged : s.Tagged) (op : SendOp) : (s.forward codec op).Tagged := by
  obtain ⟨-, events, hevents⟩ := Sender.handleShellCommand_appends codec ⟨s.rx.state, []⟩ op
  have hipc : (events.map Origin.Ipc).map Origin.render = events := by
    rw [List.map_map]
    exact List.map_id events
  have hadded := DaemonBackend.append_added hevents
  rw [Sender.send] at hevents hadded
  simp only [Tagged, forward, hevents, hadded, List.map_append, hipc]
  rw [htagged]

/-- A snapshot that comes in one read is handled. -/
lemma drainSocket_payload (rx : Rx DaemonBackend) {message : IpcMessage}
    (hbuffer : rx.buffer = []) (hopen : rx.state.connected = true)
    (hfaithful : codec.Faithful message) :
    DaemonBackend.drainSocket codec rx [.Ok (codec.payload message), .WouldBlock] =
      (.ok (), ⟨[], rx.decoded ++ [.ok message], rx.state.handle (.ok message)⟩, []) := by
  have hstream : codec.payload message = toUtf8 (codec.stream [message]) := by
    rw [toUtf8_stream, List.flatMap_singleton]
  obtain ⟨buffer, decoded, backend⟩ := rx
  subst hbuffer
  have hisOpen : DaemonBackend.endpoint.isOpen backend = true := hopen
  rw [DaemonBackend.drainSocket, Endpoint.drain, if_pos hisOpen, Endpoint.drainLoop,
    if_neg (payload_ne_nil codec message), hstream, fromUtf8_toUtf8]
  simp only [receive_stream (List.forall_mem_singleton.mpr hfaithful)]
  rfl

/-- The reads of a call that finds a snapshot on the socket. -/
def readsOf (codec : JsonCodec) (snapshot : Snapshot) : List ReadResult :=
  [.Ok (codec.payload (.Snapshot snapshot)), .WouldBlock]

lemma keepsOpen_readsOf (snapshot : Snapshot) :
    ∀ read ∈ readsOf codec snapshot, read.KeepsOpen := by
  intro read hread
  rcases List.mem_cons.mp hread with rfl | hread
  · exact payload_ne_nil codec _
  · rw [List.mem_singleton.mp hread]
    exact trivial

/-- The session after the first snapshot, if it has VMs. -/
def greeted (snapshot : Snapshot) : Session :=
  greet ⟨[], [.ok (.Snapshot snapshot)], DaemonBackend.handle {} (.ok (.Snapshot snapshot))⟩

lemma connect_snapshot {snapshot : Snapshot} (hfaithful : codec.Faithful (.Snapshot snapshot))
    (hvms : snapshot.vms ≠ []) :
    connect codec [readsOf codec snapshot] = .ok (greeted snapshot) := by
  have hdrained := drainSocket_payload ⟨[], [], {}⟩ rfl rfl hfaithful
  have hnone : (snapshot.vms.map mapVmStatus).isEmpty = false := by simpa using hvms
  simp only [connect, connectDefault, readsOf, hdrained, DaemonBackend.handle, hnone,
    Bool.false_eq_true, if_false, Except.map, List.nil_append]
  rfl

/-- **A tick that finds a snapshot** of the VMs shows its events, after those that were pending. -/
lemma onTick_snapshot {snapshot : Snapshot} (hbuffer : s.rx.buffer = [])
    (hopen : s.rx.state.connected = true) (hfaithful : codec.Faithful (.Snapshot snapshot))
    (hvms : snapshot.vms ≠ []) (hlength : s.app.vms.length = snapshot.vms.length) :
    s.onTick codec (readsOf codec snapshot) =
        { app := { s.app with vms := snapshot.vms.map mapVmStatus }.pushEvents
            (s.rx.state.pendingEvents ++
              (Origin.ofMessage (.ok (.Snapshot snapshot))).map Origin.render)
          rx := ⟨[], s.rx.decoded ++ [.ok (.Snapshot snapshot)],
            { s.rx.state with
              lastSnapshotVms := snapshot.vms.map mapVmStatus
              pendingEvents := [] }⟩
          pending := [] } ∧
      s.tickBatch codec (readsOf codec snapshot) =
        s.pending ++ Origin.ofMessage (.ok (.Snapshot snapshot)) := by
  have hdrained := drainSocket_payload s.rx hbuffer hopen hfaithful
  have hpending := Origin.render_ofMessage s.rx.state (.ok (.Snapshot snapshot))
  have hsame : (snapshot.vms.map mapVmStatus).isEmpty = false := by simpa using hvms
  have hrefresh : s.refresh codec (readsOf codec snapshot) =
      (⟨[], s.rx.decoded ++ [.ok (.Snapshot snapshot)],
          s.rx.state.handle (.ok (.Snapshot snapshot))⟩,
        snapshot.vms.map mapVmStatus, s.rx.state.handle (.ok (.Snapshot snapshot))) := by
    simp only [refresh, readsOf, hdrained, DaemonBackend.refreshStatus, DaemonBackend.reportDrain,
      DaemonBackend.handle, hsame, Bool.false_eq_true, if_false, List.length_map, hlength, if_true]
  constructor
  · simp only [onTick, hrefresh, DaemonBackend.pollEvents, hpending]
    rfl
  · simp only [tickBatch, hrefresh, List.drop_left]
    simp [DaemonBackend.added]

/-- **Every operation** keeps the tags. -/
lemma tagged_step (htagged : s.Tagged) (op : SessionOp) : (s.step codec op).Tagged := by
  cases op with
  | OnTick reads => rfl
  | SubmitShellCommand op =>
      rw [step]
      split_ifs
      · exact htagged
      · exact tagged_forward htagged op
  | RequestVm verb json newline =>
      rw [step]
      split
      · exact htagged
      · exact tagged_forward htagged _
  | App op => exact htagged

end Session

end Chalybs.Tui
