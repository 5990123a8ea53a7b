import Chalybs.Daemon.Wire

/-!
# The daemon as the TUI sees it

`DaemonBackend` (`tui/src/app.rs`) is the other end of the socket.  It keeps the VMs of the last
snapshot and the events that are to be shown.

* `DaemonBackend.handle`, `drainSocket` — what it does with a snapshot, and a call.
* `framing_iff` — when the two ends get the messages that were sent to them.
-/

namespace Chalybs.Tui

open Foundation

/-! ## The view -/

/-- `VmState` of the TUI. -/
inductive VmState
  | Stopped
  | Starting
  | Running
  | ShuttingDown
  deriving DecidableEq, Repr

/-- `VmStatus`. -/
structure VmStatus where
  name : String
  state : VmState
  cpuPinned : Bool
  irqPinned : Bool
  tasmotaOn : Bool
  isolationMode : String
  hugepages : Bool
  cpuLayout : IpcVmCpuLayout
  deriving DecidableEq, Repr

/-- `AppEventKind`. -/
inductive AppEventKind
  | Info
  | Warning
  | Error
  | Shell
  | System
  deriving DecidableEq, Repr

/-- `AppEvent`. -/
structure AppEvent where
  kind : AppEventKind
  message : String
  deriving DecidableEq, Repr

/-- `map_vm_status`. -/
def mapVmStatus (src : IpcVmStatus) : VmStatus where
  name := src.name
  state := match src.state with
    | .Stopped => .Stopped
    | .Starting => .Starting
    | .Running => .Running
    | .ShuttingDown => .ShuttingDown
  cpuPinned := src.cpuPinned
  irqPinned := src.irqPinned
  tasmotaOn := src.tasmotaOn
  isolationMode := src.isolationMode
  hugepages := src.hugepages
  cpuLayout := src.cpuLayout

/-- `map_event_global`. -/
def mapEventGlobal (src : IpcEvent) : AppEvent where
  kind := match src.kind with
    | .Info => .Info
    | .Warning => .Warning
    | .Error => .Error
    | .Shell => .Shell
    | .System => .System
  message := src.message

/-- `map_event_for_vm`. -/
def mapEventForVm (vmName : String) (src : IpcEvent) : AppEvent :=
  let base := mapEventGlobal src
  { base with message := s!"{vmName}: {base.message}" }

/-! ## The backend -/

/-- `DaemonBackend`, without the stream and the buffer. -/
structure DaemonBackend where
  pendingEvents : List AppEvent := []
  lastSnapshotVms : List VmStatus := []
  connected : Bool := true
  deriving DecidableEq, Repr

namespace DaemonBackend

def push (backend : DaemonBackend) (kind : AppEventKind) (message : String) : DaemonBackend :=
  { backend with pendingEvents := backend.pendingEvents ++ [⟨kind, message⟩] }

/-- What the TUI does with a decoded line. -/
def handle (backend : DaemonBackend) : Except String IpcMessage → DaemonBackend
  | .ok (.Snapshot snapshot) =>
      { backend with
        lastSnapshotVms := snapshot.vms.map mapVmStatus
        pendingEvents := backend.pendingEvents ++ (snapshot.eventsGlobal.map mapEventGlobal ++
          snapshot.eventsVm.flatMap fun vmEv => vmEv.events.map (mapEventForVm vmEv.vmName)) }
  | .ok (.ShellCommand _) =>
      backend.push .Warning "chalybs-tui: unexpected ShellCommand from daemon"
  | .error err => backend.push .Error s!"chalybs-tui: failed to decode IPC message: {err}"

/-- The connection is given up after an error of the socket. -/
def ipcError (error : String) (backend : DaemonBackend) : Except String Unit × DaemonBackend :=
  (.ok (), { backend with connected := false }.push .Error
    s!"chalybs-tui: daemon IPC error: {error}")

/-- The TUI, as one end of the connection.  A read that is not text makes the call fail; the next
call goes on with the read after it. -/
def endpoint : Endpoint DaemonBackend (Except String Unit) where
  handle := handle
  isOpen := connected
  idle := .ok ()
  eof backend := (.ok (), { backend with connected := false }.push .System
    "chalybs-tui: daemon closed IPC connection")
  invalidUtf8 err := .error s!"invalid UTF-8 from daemon: {err.display}"
  disconnected := ipcError
  failed := ipcError
  continues _ := true
  isOpen_handle backend message := by
    rcases message with err | command | snapshot <;> rfl
  invalidUtf8_ne err := by simp
  continues_idle := rfl

/-- `drain_socket`. -/
def drainSocket (codec : JsonCodec) :
    Rx DaemonBackend → List ReadResult → Except String Unit × Rx DaemonBackend × List ReadResult :=
  endpoint.drain codec

end DaemonBackend

/-! ## Both ends -/

/-- **Framing.**  For every sequence of commands sent to the daemon and of snapshots sent to the TUI
whose JSON `serde_json` reads back, and every way in which reads of 1 to 4096 bytes in any number of
calls split the stream: the receiving end decodes the messages in order, ends up in the state that
they lead to and has no call fail, exactly when no read ends inside a character. -/
theorem framing_iff (codec : JsonCodec) :
    (∀ (commands : List String) (pending : PendingShell) (calls : List (List (List UInt8))),
      (∀ m ∈ commands.map IpcMessage.ShellCommand, codec.Faithful m) →
      Splits codec calls (commands.map .ShellCommand) →
        (daemonEndpoint.Delivers codec pending calls (commands.map .ShellCommand) ↔
          KeepsCharacters codec calls (commands.map .ShellCommand))) ∧
      ∀ (snapshots : List Snapshot) (backend : DaemonBackend)
        (calls : List (List (List UInt8))), backend.connected = true →
        (∀ m ∈ snapshots.map IpcMessage.Snapshot, codec.Faithful m) →
        Splits codec calls (snapshots.map .Snapshot) →
          (DaemonBackend.endpoint.Delivers codec backend calls (snapshots.map .Snapshot) ↔
            KeepsCharacters codec calls (snapshots.map .Snapshot)) := by
  constructor
  · exact fun commands pending calls hfaithful hsplit =>
      Endpoint.delivers_iff rfl hfaithful hsplit
  · exact fun snapshots backend calls hopen hfaithful hsplit =>
      Endpoint.delivers_iff hopen hfaithful hsplit

/-! ## A character in two reads -/

/-- A command for a VM whose name is not ASCII. -/
def startBuro : IpcMessage := .ShellCommand "vm start büro"

/-- A snapshot with an event of the daemon about the VM. -/
def snapshotBuro : Snapshot where
  vms := []
  eventsGlobal := [⟨.Info, "büro"⟩]
  eventsVm := []

def startJson : String := "\x7b\"ShellCommand\":\x7b\"command\":\"vm start büro\"\x7d\x7d"

def snapshotJson : String :=
  "\x7b\"Snapshot\":\x7b\"vms\":[],\"events_global\":[\x7b\"kind\":\"Info\",\"message\":" ++
    "\"büro\"\x7d],\"events_vm\":[]\x7d\x7d"

/-- What `serde_json` makes of the two messages. -/
def buroCodec : JsonCodec where
  toString message := if message = startBuro then startJson else snapshotJson
  fromStr text :=
    if text = startJson then .ok startBuro
    else if text = snapshotJson then .ok (.Snapshot snapshotBuro)
    else .error "expected value at line 1 column 1"

/-- The message in two reads, the first of which ends so many bytes after the ASCII text before
`ü`. -/
def inTwoReads (message : IpcMessage) (extra : ℕ) : List (List (List UInt8)) :=
  let bytes := buroCodec.payload message
  let ascii := (bytes.takeWhile fun b => decide (b < 0x80)).length
  [[bytes.take (ascii + extra)], [bytes.drop (ascii + extra)]]

lemma faithful_start : buroCodec.Faithful startBuro :=
  ⟨by decide, ⟨(startJson.toList.drop 1).dropLast, by decide⟩, by decide⟩

lemma faithful_snapshot : buroCodec.Faithful (.Snapshot snapshotBuro) :=
  ⟨by decide, ⟨(snapshotJson.toList.drop 1).dropLast, by decide⟩, by decide⟩

lemma splits_inTwoReads (message : IpcMessage) (extra : ℕ)
    (h : ∀ read ∈ (inTwoReads message extra).flatten, 0 < read.length ∧ read.length ≤ 4096) :
    Splits buroCodec (inTwoReads message extra) [message] := by
  refine ⟨h, ?_⟩
  simp [inTwoReads]

/-- Both messages arrive if the first read ends before `ü`. -/
theorem framing_iff_buro :
    daemonEndpoint.Delivers buroCodec ⟨[], []⟩ (inTwoReads startBuro 0) [startBuro] ∧
      DaemonBackend.endpoint.Delivers buroCodec {} (inTwoReads (.Snapshot snapshotBuro) 0)
        [.Snapshot snapshotBuro] := by
  obtain ⟨hdaemon, htui⟩ := framing_iff buroCodec
  constructor
  · refine (hdaemon ["vm start büro"] ⟨[], []⟩ (inTwoReads startBuro 0) ?_ ?_).mpr ?_
    · simpa [startBuro] using faithful_start
    · exact splits_inTwoReads startBuro 0 (by decide)
    · exact ⟨["\x7b\"ShellCommand\":\x7b\"command\":\"vm start b".toList,
        "üro\"\x7d\x7d\n".toList], by decide, by decide⟩
  · refine (htui [snapshotBuro] {} (inTwoReads (.Snapshot snapshotBuro) 0) rfl ?_ ?_).mpr ?_
    · simpa using faithful_snapshot
    · exact splits_inTwoReads (.Snapshot snapshotBuro) 0 (by decide)
    · exact ⟨[(snapshotJson.toList.takeWhile fun c => c != 'ü'),
        (snapshotJson.toList.dropWhile fun c => c != 'ü') ++ ['\n']], by decide, by decide⟩

/-- If the first read ends inside `ü`, neither message arrives: the daemon drops the client, and the
TUI loses both reads. -/
theorem character_in_two_reads :
    (buroCodec.Faithful startBuro ∧ Splits buroCodec (inTwoReads startBuro 1) [startBuro] ∧
      ¬ daemonEndpoint.Delivers buroCodec ⟨[], []⟩ (inTwoReads startBuro 1) [startBuro]) ∧
      buroCodec.Faithful (.Snapshot snapshotBuro) ∧
      Splits buroCodec (inTwoReads (.Snapshot snapshotBuro) 1) [.Snapshot snapshotBuro] ∧
      ¬ DaemonBackend.endpoint.Delivers buroCodec {} (inTwoReads (.Snapshot snapshotBuro) 1)
        [.Snapshot snapshotBuro] := by
  refine ⟨⟨faithful_start, splits_inTwoReads startBuro 1 (by decide), fun h => ?_⟩,
    faithful_snapshot, splits_inTwoReads (.Snapshot snapshotBuro) 1 (by decide), fun h => ?_⟩
  · exact absurd h.decoded (by decide)
  · exact absurd h.decoded (by decide)

end Chalybs.Tui
