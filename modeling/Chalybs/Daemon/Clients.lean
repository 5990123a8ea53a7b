import Chalybs.Daemon.Server
import Chalybs.Daemon.Wire
import Chalybs.Foundation.Sweep

/-!
# The clients of the daemon

One turn of the loop of `run_server` (`daemon/src/server.rs`): new clients are accepted, every
client is read, what they sent is handled, and the snapshot is written to every client that is still
there.  Both loops over the clients remove elements from the vector they walk over, and the commands
of all clients go through one buffer.

* `ServerState`, `serveTick` — the turn, with a log of what it did.
* `append_drain` — reading a client, whatever the others sent before it.
* `Client.commands_eq`, `Client.readable_iff` — what a client sent, by its reads;
  `served_by_reads` — a turn of a run, by the reads of the clients.
* `ServedOnce` — no client is missed or served twice.
* `clients_served` — this holds of every turn of every run.
-/

namespace Chalybs

open Foundation

variable {W : Type}

/-! ## The turn -/

/-- `Client`, with the number of its socket. -/
structure Client where
  stream : ℕ
  rxBuf : List Char := []
  deriving DecidableEq, Repr

/-- What the sockets do in a turn. -/
structure SocketIo where
  /-- `listener.accept`, up to its first error: the sockets, and whether they could be set up. -/
  accepted : List (Except String ℕ)
  /-- What the reads of a socket return. -/
  reads : ℕ → List ReadResult
  /-- `write_all`, whose errors all have the same effect. -/
  writeAll : ℕ → Except String Unit

/-- The variables of `run_server`. -/
structure ServerState (W : Type) where
  daemon : DaemonState
  world : W
  clients : List Client
  pending : PendingShell
  tick : UInt64

/-- What was done in a turn. -/
structure TurnLog where
  /-- The clients that were read. -/
  drained : List ℕ
  /-- The commands that were handled. -/
  handled : List String
  snapshot : Snapshot
  /-- The clients that the snapshot was written to, with the bytes. -/
  offered : List (ℕ × List UInt8)

/-- `drain_client_commands`, in the first loop over the clients. -/
def drainClient (codec : JsonCodec) (io : SocketIo) (client : Client) (s : PendingShell × List ℕ) :
    Bool × Client × PendingShell × List ℕ :=
  let (result, rx, _) :=
    drainClientCommands codec ⟨client.rxBuf, [], s.1⟩ (io.reads client.stream)
  let stays := match result with
    | .Alive => true
    | .DisconnectedGraceful => false
    | .DisconnectedError _ => false
  (stays, { client with rxBuf := rx.buffer }, rx.state, s.2 ++ [client.stream])

/-- A write of the payload, in the second loop. -/
def offerClient (io : SocketIo) (payload : List UInt8) (client : Client)
    (offered : List (ℕ × List UInt8)) : Bool × Client × List (ℕ × List UInt8) :=
  let stays := match io.writeAll client.stream with
    | .ok _ => true
    | .error _ => false
  (stays, client, offered ++ [(client.stream, payload)])

/-- The loop over the commands: the daemon, its answers and what was handled. -/
def handleCommands : List String → DaemonState × List IpcEvent × List String →
    DaemonState × List IpcEvent × List String
  | [], s => s
  | command :: commands, s =>
      let (daemon, events) := s.1.handleShellCommand command
      handleCommands commands (daemon, s.2.1 ++ events, s.2.2 ++ [command])

/-- The clients of a turn, new ones included. -/
def ServerState.connected (s : ServerState W) (io : SocketIo) : List Client :=
  s.clients ++ io.accepted.filterMap fun r => r.toOption.map fun n => ⟨n, []⟩

/-- A turn of the loop.  `serde_json` can write every snapshot, so that no turn is skipped. -/
def serveTick (codec : JsonCodec) (env : TickEnv W) (io : SocketIo) (s : ServerState W) :
    ServerState W × TurnLog :=
  let (clients, pending, drained) :=
    sweep (drainClient codec io) (s.connected io) (s.pending, [])
  let (daemon, semantic, handled) := handleCommands pending.commands (s.daemon, [], [])
  let tick := s.tick + 1
  let (snapshot, daemon, world) := DaemonState.buildSnapshot env tick (daemon, s.world)
  let snapshot :=
    { snapshot with eventsGlobal := snapshot.eventsGlobal ++ pending.events ++ semantic }
  let payload := codec.payload (.Snapshot snapshot)
  let (clients, offered) := sweep (offerClient io payload) clients []
  ({ daemon, world, clients, pending := ⟨[], []⟩, tick }, { drained, handled, snapshot, offered })

/-- The server before its first turn, or with clients that it is given. -/
def ServerState.start (daemon : DaemonState) (world : W) (clients : List Client) : ServerState W :=
  { daemon, world, clients, pending := ⟨[], []⟩, tick := 0 }

/-- The state after a turn. -/
def ServerState.apply (codec : JsonCodec) (s : ServerState W) (op : TickEnv W × SocketIo) :
    ServerState W :=
  (serveTick codec op.1 op.2 s).1

/-! ## What a client sends -/

/-- Reading the client alone: the outcome, the rest of its text, and what it sent. -/
def Client.received (codec : JsonCodec) (io : SocketIo) (client : Client) :
    ClientDrainOutcome × Rx PendingShell × List ReadResult :=
  drainClientCommands codec ⟨client.rxBuf, [], ⟨[], []⟩⟩ (io.reads client.stream)

/-- The commands that the client sent, in the order of their arrival. -/
def Client.commands (codec : JsonCodec) (io : SocketIo) (client : Client) : List String :=
  (client.received codec io).2.1.state.commands

/-- No read of the client finds the end of the stream or an error. -/
def Client.Readable (codec : JsonCodec) (io : SocketIo) (client : Client) : Bool :=
  decide ((client.received codec io).1 = .Alive)

/-- The write to the client succeeds. -/
def Client.Writable (io : SocketIo) (client : Client) : Bool := (io.writeAll client.stream).isOk

/-- The client with what is left of its text. -/
def Client.read (codec : JsonCodec) (io : SocketIo) (client : Client) : Client :=
  { client with rxBuf := (client.received codec io).2.1.buffer }

/-- **Every client is served once**: it is read once; the commands of all clients are handled once,
by client and then by arrival; the snapshot is written once to every client that was read to the
end; and those that could be read and written to are left, in order. -/
structure ServedOnce (codec : JsonCodec) (s : ServerState W) (op : TickEnv W × SocketIo) :
    Prop where
  drained : (serveTick codec op.1 op.2 s).2.drained = (s.connected op.2).map Client.stream
  handled : (serveTick codec op.1 op.2 s).2.handled =
    (s.connected op.2).flatMap fun client => client.commands codec op.2
  offered : (serveTick codec op.1 op.2 s).2.offered =
    ((s.connected op.2).filter fun client => client.Readable codec op.2).map fun client =>
      (client.stream, codec.payload (.Snapshot (serveTick codec op.1 op.2 s).2.snapshot))
  clients : (serveTick codec op.1 op.2 s).1.clients =
    ((s.connected op.2).filter fun client =>
      client.Readable codec op.2 && client.Writable op.2).map fun client => client.read codec op.2

/-! ## Reading -/

/-- What was pending, and then something more. -/
def PendingShell.append (p q : PendingShell) : PendingShell :=
  ⟨p.events ++ q.events, p.commands ++ q.commands⟩

variable {codec : JsonCodec} {p q : PendingShell}

lemma append_handle (m : Except String IpcMessage) :
    (p.append q).handle m = p.append (q.handle m) := by
  rcases m with err | command | snapshot
  · simp [PendingShell.append, PendingShell.handle]
  · simp [PendingShell.append, PendingShell.handle]
  · rfl

lemma append_receive (buffer : List Char) (decoded : List (Except String IpcMessage))
    (chunk : List Char) :
    (⟨buffer, decoded, p.append q⟩ : Rx PendingShell).receive codec PendingShell.handle chunk =
      let rx := (⟨buffer, decoded, q⟩ : Rx PendingShell).receive codec PendingShell.handle chunk
      ⟨rx.buffer, rx.decoded, p.append rx.state⟩ := by
  simp only [Rx.receive, Rx.mk.injEq, true_and]
  generalize (cutLines '\n' (buffer ++ chunk)).1.filterMap codec.decodeLine = messages
  induction messages generalizing q with
  | nil => rfl
  | cons m messages ih => rw [List.foldl_cons, List.foldl_cons, append_handle, ih]

lemma drainClientCommands_eq (rx : Rx PendingShell) (reads : List ReadResult) :
    drainClientCommands codec rx reads = daemonEndpoint.drainLoop codec rx reads := rfl

/-- **Reading a client** does not depend on what is pending, and adds to it. -/
lemma append_drain (buffer : List Char) (decoded : List (Except String IpcMessage))
    (reads : List ReadResult) :
    drainClientCommands codec ⟨buffer, decoded, p.append q⟩ reads =
      let r := drainClientCommands codec ⟨buffer, decoded, q⟩ reads
      (r.1, ⟨r.2.1.buffer, r.2.1.decoded, p.append r.2.1.state⟩, r.2.2) := by
  rw [drainClientCommands_eq, drainClientCommands_eq]
  induction reads generalizing buffer decoded q with
  | nil => rfl
  | cons read reads ih =>
      cases read with
      | Ok bytes =>
          rw [Endpoint.drainLoop, Endpoint.drainLoop]
          split_ifs
          · rfl
          · cases fromUtf8 bytes with
            | ok chunk =>
                simp only
                rw [show daemonEndpoint.handle = PendingShell.handle from rfl, append_receive]
                exact ih _ _
            | error err => rfl
      | WouldBlock => rfl
      | Disconnected error => rfl
      | Failed error => rfl

/-- The text that a read brings. -/
def ReadResult.text : ReadResult → Option (List Char)
  | .Ok bytes => if bytes = [] then none else (fromUtf8 bytes).toOption
  | .WouldBlock | .Disconnected _ | .Failed _ => none

/-- The text that is read before a read brings none. -/
def textRead (reads : List ReadResult) : List Char :=
  (reads.takeWhile fun read => read.text.isSome).flatMap fun read => read.text.getD []

/-- The read that ends a call, if one does. -/
def endingRead (reads : List ReadResult) : Option ReadResult :=
  reads.find? fun read => read.text.isNone

/-- **Reading a client** handles the text up to the read that ends the call, and the client is kept
if that read only found no more data. -/
lemma drain_eq (rx : Rx PendingShell) (reads : List ReadResult) (hbuffer : '\n' ∉ rx.buffer) :
    (drainClientCommands codec rx reads).2.1 =
        rx.receive codec PendingShell.handle (textRead reads) ∧
      ((drainClientCommands codec rx reads).1 = .Alive ↔
        ∀ read ∈ endingRead reads, read = .WouldBlock) := by
  simp only [drainClientCommands_eq]
  induction reads generalizing rx with
  | nil =>
      exact ⟨(receive_nil hbuffer).symm, by simp [endingRead, Endpoint.drainLoop, daemonEndpoint]⟩
  | cons read reads ih =>
      cases htext : read.text with
      | some chunk =>
          have hread : textRead (read :: reads) = chunk ++ textRead reads := by
            simp [textRead, htext]
          have hending : endingRead (read :: reads) = endingRead reads := by
            simp [endingRead, htext]
          have hloop : daemonEndpoint.drainLoop codec rx (read :: reads) = daemonEndpoint.drainLoop
              codec (rx.receive codec PendingShell.handle chunk) reads := by
            cases read with
            | Ok bytes =>
                rw [ReadResult.text] at htext
                split_ifs at htext with hempty
                rw [Endpoint.drainLoop, if_neg hempty, toOption_eq_some.mp htext]
                rfl
            | WouldBlock => cases htext
            | Disconnected error => cases htext
            | Failed error => cases htext
          rw [hread, hending, hloop, ← receive_append]
          exact ih _ (not_mem_buffer_receive chunk)
      | none =>
          have hread : textRead (read :: reads) = [] := by simp [textRead, htext]
          have hending : endingRead (read :: reads) = some read := by simp [endingRead, htext]
          rw [hread, hending, receive_nil hbuffer]
          cases read with
          | Ok bytes =>
              rw [Endpoint.drainLoop]
              by_cases hempty : bytes = []
              · simp [hempty, daemonEndpoint]
              · rw [ReadResult.text, if_neg hempty] at htext
                cases hdecode : fromUtf8 bytes with
                | ok chunk =>
                    rw [hdecode] at htext
                    cases htext
                | error err => simp [hempty, daemonEndpoint]
          | WouldBlock => simp [Endpoint.drainLoop, daemonEndpoint]
          | Disconnected error => simp [Endpoint.drainLoop, daemonEndpoint]
          | Failed error => simp [Endpoint.drainLoop, daemonEndpoint]

/-- The command in a decoded line. -/
def commandOf : Except String IpcMessage → Option String
  | .ok (.ShellCommand command) => some command
  | .ok (.Snapshot _) | .error _ => none

lemma commands_foldl (messages : List (Except String IpcMessage)) (pending : PendingShell) :
    (messages.foldl PendingShell.handle pending).commands =
      pending.commands ++ messages.filterMap commandOf := by
  induction messages generalizing pending with
  | nil => simp
  | cons m messages ih =>
      rw [List.foldl_cons, ih]
      rcases m with err | command | snapshot <;>
        simp [PendingShell.handle, commandOf, List.filterMap_cons]

/-- **What a client sent**: the commands in the lines that are whole with the text that is read. -/
lemma Client.commands_eq {io : SocketIo} {client : Client} (hbuffer : '\n' ∉ client.rxBuf) :
    client.commands codec io =
      ((cutLines '\n' (client.rxBuf ++ textRead (io.reads client.stream))).1.filterMap
        codec.decodeLine).filterMap commandOf := by
  rw [Client.commands, Client.received, (drain_eq _ _ hbuffer).1, Rx.receive, commands_foldl]
  rfl

/-- **A client is kept** by its reads if the one that ends the call found no more data. -/
lemma Client.readable_iff {io : SocketIo} {client : Client} (hbuffer : '\n' ∉ client.rxBuf) :
    client.Readable codec io = true ↔
      ∀ read ∈ endingRead (io.reads client.stream), read = .WouldBlock := by
  rw [Client.Readable, decide_eq_true_iff, Client.received, (drain_eq _ _ hbuffer).2]

/-- No whole line is left in the text of a client. -/
lemma not_mem_rxBuf_read {io : SocketIo} {client : Client} (hbuffer : '\n' ∉ client.rxBuf) :
    '\n' ∉ (client.read codec io).rxBuf := by
  have hread := (@drain_eq codec ⟨client.rxBuf, [], ⟨[], []⟩⟩ (io.reads client.stream) hbuffer).1
  show '\n' ∉ (client.received codec io).2.1.buffer
  rw [Client.received, hread]
  exact not_mem_buffer_receive _

/-- **A turn of the first loop** reads a client as if it were alone. -/
lemma drainClient_eq (io : SocketIo) (client : Client) (s : PendingShell × List ℕ) :
    drainClient codec io client s =
      (client.Readable codec io, client.read codec io,
        s.1.append (client.received codec io).2.1.state, s.2 ++ [client.stream]) := by
  have hpending : s.1 = s.1.append ⟨[], []⟩ := by simp [PendingShell.append]
  rw [drainClient, hpending, append_drain, ← hpending]
  show (_, _) = (decide ((client.received codec io).1 = .Alive), _)
  rw [Client.received]
  cases (drainClientCommands codec ⟨client.rxBuf, [], ⟨[], []⟩⟩ (io.reads client.stream)).1 with
  | Alive => rfl
  | DisconnectedGraceful => rfl
  | DisconnectedError error => rfl

/-- The first loop, over all clients. -/
lemma sweep_drainClient (io : SocketIo) (clients : List Client) (s : PendingShell × List ℕ) :
    sweep (drainClient codec io) clients s =
      ((clients.filter (Client.Readable codec io)).map (Client.read codec io),
        clients.foldl (fun s client =>
          (s.1.append (client.received codec io).2.1.state, s.2 ++ [client.stream])) s) := by
  rw [sweep_eq_retain]
  exact retain_eq (fun client s => drainClient_eq io client s) clients s

lemma foldl_drained (io : SocketIo) (clients : List Client) (s : PendingShell × List ℕ) :
    (clients.foldl (fun s client =>
        (s.1.append (client.received codec io).2.1.state, s.2 ++ [client.stream])) s).2 =
      s.2 ++ clients.map Client.stream ∧
    (clients.foldl (fun s client =>
        (s.1.append (client.received codec io).2.1.state, s.2 ++ [client.stream])) s).1.commands =
      s.1.commands ++ clients.flatMap (Client.commands codec io) := by
  induction clients generalizing s with
  | nil => simp
  | cons client clients ih =>
      rw [List.foldl_cons, (ih _).1, (ih _).2]
      simp [PendingShell.append, Client.commands]

/-! ## Handling and writing -/

lemma handled_handleCommands (commands : List String)
    (s : DaemonState × List IpcEvent × List String) :
    (handleCommands commands s).2.2 = s.2.2 ++ commands := by
  induction commands generalizing s with
  | nil => simp [handleCommands]
  | cons command commands ih =>
      rw [handleCommands, ih]
      simp

/-- The second loop, over all clients. -/
lemma sweep_offerClient (io : SocketIo) (payload : List UInt8) (clients : List Client)
    (offered : List (ℕ × List UInt8)) :
    sweep (offerClient io payload) clients offered =
      (clients.filter (Client.Writable io),
        offered ++ clients.map fun client => (client.stream, payload)) := by
  have hvisit : ∀ client offered, offerClient io payload client offered =
      (client.Writable io, id client, offered ++ [(client.stream, payload)]) := by
    intro client offered
    rw [offerClient, Client.Writable]
    cases io.writeAll client.stream with
    | ok _ => rfl
    | error _ => rfl
  rw [sweep_eq_retain, retain_eq hvisit, List.map_id]
  refine Prod.ext rfl ?_
  induction clients generalizing offered with
  | nil => simp
  | cons client clients ih =>
      rw [List.foldl_cons, ih]
      simp

/-- **A turn serves every client once**, if nothing is pending when it begins. -/
lemma servedOnce {s : ServerState W} (hs : s.pending = ⟨[], []⟩) (op : TickEnv W × SocketIo) :
    ServedOnce codec s op := by
  obtain ⟨env, io⟩ := op
  obtain ⟨hdrained, hcommands⟩ :=
    @foldl_drained codec io (s.connected io) (s.pending, [])
  constructor
  · simp only [serveTick, sweep_drainClient, hdrained, List.nil_append]
  · simp only [serveTick, sweep_drainClient, handled_handleCommands, hcommands, List.nil_append]
    rw [hs]
    rfl
  · simp only [serveTick, sweep_drainClient, sweep_offerClient, List.nil_append, List.map_map]
    rfl
  · simp only [serveTick, sweep_drainClient, sweep_offerClient, List.filter_map]
    rw [List.filter_filter]
    -- what is left of its text has no bearing on the write to a client
    exact congrArg _ (List.filter_congr fun client _ => Bool.and_comm _ _)

/-- The texts of the clients have no whole lines in them. -/
def NoLines (clients : List Client) : Prop := ∀ client ∈ clients, '\n' ∉ client.rxBuf

lemma noLines_connected {s : ServerState W} (hs : NoLines s.clients) (io : SocketIo) :
    NoLines (s.connected io) := by
  intro client hclient
  rcases List.mem_append.mp hclient with hold | hnew
  · exact hs client hold
  · obtain ⟨accepted, -, haccepted⟩ := List.mem_filterMap.mp hnew
    obtain ⟨n, -, rfl⟩ := Option.map_eq_some_iff.mp haccepted
    exact List.not_mem_nil

lemma noLines_serveTick {s : ServerState W} (hs : NoLines s.clients)
    (hpending : s.pending = ⟨[], []⟩) (op : TickEnv W × SocketIo) :
    NoLines (serveTick codec op.1 op.2 s).1.clients := by
  rw [(servedOnce hpending op).clients]
  intro client hclient
  obtain ⟨before, hbefore, rfl⟩ := List.mem_map.mp hclient
  exact not_mem_rxBuf_read (noLines_connected hs op.2 before (List.mem_filter.mp hbefore).1)

/-- **A turn of a run, by the reads of the clients**: for each client, the commands are handled that
are in the lines which are whole with the text that is read, and the client is kept if the read that
ends the call found no more data. -/
theorem served_by_reads (codec : JsonCodec) (daemon : DaemonState) (world : W)
    {clients : List Client} (hclients : NoLines clients) (ops : List (TickEnv W × SocketIo))
    (op : TickEnv W × SocketIo) :
    let s := run (ServerState.apply codec) (.start daemon world clients) ops
    ((serveTick codec op.1 op.2 s).2.handled = (s.connected op.2).flatMap fun client =>
        ((cutLines '\n' (client.rxBuf ++ textRead (op.2.reads client.stream))).1.filterMap
          codec.decodeLine).filterMap commandOf) ∧
      ∀ client ∈ s.connected op.2, (client.Readable codec op.2 = true ↔
        ∀ read ∈ endingRead (op.2.reads client.stream), read = .WouldBlock) := by
  intro s
  have hs : s.pending = ⟨[], []⟩ ∧ NoLines s.clients :=
    run_invariant (I := fun s : ServerState W => s.pending = ⟨[], []⟩ ∧ NoLines s.clients)
      (fun s op h => ⟨rfl, noLines_serveTick h.2 h.1 op⟩) ⟨rfl, hclients⟩ ops
  have hconnected := noLines_connected hs.2 op.2
  refine ⟨?_, fun client hclient => Client.readable_iff (hconnected client hclient)⟩
  rw [(servedOnce hs.1 op).handled]
  exact List.flatMap_congr fun client hclient =>
    Client.commands_eq (hconnected client hclient)

/-- **Every turn of every run serves every client once**, whatever the reads and writes of the
sockets find, which clients come and what the turns before did. -/
theorem clients_served (codec : JsonCodec) (daemon : DaemonState) (world : W)
    (clients : List Client) (ops : List (TickEnv W × SocketIo)) (op : TickEnv W × SocketIo) :
    ServedOnce codec (run (ServerState.apply codec) (.start daemon world clients) ops) op := by
  refine servedOnce ?_ op
  refine run_invariant (I := fun s : ServerState W => s.pending = ⟨[], []⟩) ?_ rfl ops
  exact fun s op _ => rfl

end Chalybs
