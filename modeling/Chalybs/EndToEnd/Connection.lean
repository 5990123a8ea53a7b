import Chalybs.Daemon.Clients
import Chalybs.Daemon.Visible
import Chalybs.Foundation.Transit
import Chalybs.Tui.Sending

/-!
# One connection, at the daemon

What the daemon makes of the messages on the socket of one of its clients, turn by turn, whatever
its other clients do.

* `Carries` — messages on their way; `Carries.drain` says what a call of an endpoint does to them.
* `AtDaemon`, `AtDaemon.turn` — the commands of one client, and what a turn does to them.
* `turn_state`, `turn_snapshot` — a turn as operations of the daemon.
-/

namespace Chalybs

open Foundation

/-! ## Messages on their way -/

/-- The messages are on their way: the receiver has some text of them in its buffer, and has not
read the rest. -/
structure Carries (codec : JsonCodec) (messages : List IpcMessage) (buffer : List Char)
    (unread : List UInt8) : Prop where
  faithful : ∀ m ∈ messages, codec.Faithful m
  noLine : '\n' ∉ buffer
  inTransit : InTransit lineEnd (messages.map fun m => toUtf8 (codec.toString m).toList)
    (toUtf8 buffer) unread

/-- The bytes that some reads return. -/
def bytesRead (reads : List ReadResult) : List (List UInt8) :=
  reads.filterMap fun
    | .Ok bytes => some bytes
    | _ => none

/-- The reads take whole characters from the front of what is on the wire, until there is no more
data for them. -/
structure ReadsFrom (reads : List ReadResult) (wire : List UInt8) : Prop where
  ends : reads = (bytesRead reads).map .Ok ++ [.WouldBlock]
  nonempty : ∀ read ∈ bytesRead reads, read ≠ []
  text : ∀ read ∈ bytesRead reads, IsText read
  front : (bytesRead reads).flatten <+: wire

/-- What is left of the wire after some reads. -/
def restAfter (reads : List ReadResult) (wire : List UInt8) : List UInt8 :=
  wire.drop (bytesRead reads).flatten.length

section

variable {codec : JsonCodec} {messages : List IpcMessage} {buffer : List Char}
  {unread : List UInt8}

lemma carries_nil (codec : JsonCodec) : Carries codec [] [] [] where
  faithful _ h := absurd h List.not_mem_nil
  noLine := List.not_mem_nil
  inTransit := inTransit_nil lineEnd

lemma lineEnd_notMem_json {m : IpcMessage} (h : codec.Faithful m) :
    lineEnd ∉ toUtf8 (codec.toString m).toList :=
  lineEnd_notMem_toUtf8 h.oneLine

/-- A message that is written comes last. -/
lemma Carries.send (h : Carries codec messages buffer unread) {m : IpcMessage}
    (hm : codec.Faithful m) :
    Carries codec (messages ++ [m]) buffer (unread ++ codec.payload m) where
  faithful := List.forall_mem_append.mpr ⟨h.faithful, List.forall_mem_singleton.mpr hm⟩
  noLine := h.noLine
  inTransit := by
    have hsend := h.inTransit.send (toUtf8 (codec.toString m).toList)
    rw [List.map_append, List.map_singleton, JsonCodec.payload, toUtf8_append]
    exact hsend

/-- **Text is received**: what its lines are decoded to are the first messages, and the others are
still on their way. -/
lemma Carries.receive {text : List Char}
    (h : Carries codec messages buffer (toUtf8 text ++ unread)) :
    ∃ front rest, messages = front ++ rest ∧
      (cutLines '\n' (buffer ++ text)).1.filterMap codec.decodeLine = front.map .ok ∧
      Carries codec rest (cutLines '\n' (buffer ++ text)).2 unread := by
  obtain ⟨more, hlines, htransit⟩ := h.inTransit.receive fun line hline => by
    obtain ⟨m, hm, rfl⟩ := List.mem_map.mp hline
    exact lineEnd_notMem_json (h.faithful m hm)
  rw [← toUtf8_append, cutLines_toUtf8] at hlines htransit
  obtain ⟨front, rest, rfl, hfront, rfl⟩ := List.map_eq_append_iff.mp hlines
  obtain ⟨hfaithful, hrest⟩ := List.forall_mem_append.mp h.faithful
  -- a line is the text of its message
  have htexts : (cutLines '\n' (buffer ++ text)).1 =
      front.map fun m => (codec.toString m).toList := by
    refine List.map_injective_iff.mpr toUtf8_injective ?_
    rw [List.map_map]
    exact hfront.symm
  refine ⟨front, rest, rfl, ?_, hrest, not_mem_cutLines_snd _ _, htransit⟩
  rw [htexts, List.filterMap_map]
  have hdecode : ∀ m ∈ front, codec.decodeLine (codec.toString m).toList = some (.ok m) :=
    fun m hm => decodeLine_toString (hfaithful m hm)
  rw [← List.filterMap_eq_map]
  exact List.filterMap_congr hdecode

/-- **Everything has arrived** when nothing is left to read. -/
lemma Carries.arrived (h : Carries codec messages buffer []) : messages = [] := by
  have hnone := h.inTransit.arrived (lineEnd_notMem_toUtf8 h.noLine)
  exact List.map_eq_nil_iff.mp hnone

/-- **A call** of an endpoint takes messages from the front of those that are on their way, and
nothing else. -/
theorem Carries.drain {σ ε : Type} (e : Endpoint σ ε) (rx : Rx σ) {reads : List ReadResult}
    (h : Carries codec messages rx.buffer unread) (hreads : ReadsFrom reads unread)
    (hopen : e.isOpen rx.state = true) :
    ∃ front rest buffer', messages = front ++ rest ∧
      e.drain codec rx reads =
        (e.idle, ⟨buffer', rx.decoded ++ front.map .ok, (front.map .ok).foldl e.handle rx.state⟩,
          []) ∧
      Carries codec rest buffer' (restAfter reads unread) := by
  obtain ⟨text, htext, hloop⟩ := Endpoint.drainLoop_of_text e codec rx hreads.nonempty hreads.text
    h.noLine [.WouldBlock]
  rw [← hreads.ends] at hloop
  have hwire : unread = toUtf8 text ++ restAfter reads unread := by
    obtain ⟨rest, hrest⟩ := hreads.front
    rw [restAfter, htext, ← hrest, List.drop_left]
  rw [hwire] at h
  obtain ⟨front, rest, hmessages, hdecoded, hcarries⟩ := h.receive
  refine ⟨front, rest, _, hmessages, ?_, hcarries⟩
  rw [Endpoint.drain, if_pos hopen, hloop, Endpoint.drainLoop, Rx.receive, hdecoded]

end

/-! ## A turn of the daemon -/

variable {W : Type} {codec : JsonCodec} {socket : ℕ} {s : ServerState W}

/-- The commands that the clients on a socket send in a turn. -/
def commandsFrom (codec : JsonCodec) (socket : ℕ) (io : SocketIo) (s : ServerState W) :
    List String :=
  ((s.connected io).filter fun client => client.stream = socket).flatMap
    (Client.commands codec io)

/-- The daemon has one client on the socket, and nothing is pending; the commands are on their way
to it. -/
structure AtDaemon (codec : JsonCodec) (socket : ℕ) (s : ServerState W) (commands : List String)
    (unread : List UInt8) : Prop where
  pending : s.pending = ⟨[], []⟩
  client : ∃ buffer, (s.clients.filter fun client => client.stream = socket) = [⟨socket, buffer⟩] ∧
    Carries codec (commands.map .ShellCommand) buffer unread

/-- In a turn, the daemon reads from the front of the wire, writes to the socket, and accepts nobody
else on it. -/
structure Reaches (socket : ℕ) (io : SocketIo) (unread : List UInt8) : Prop where
  reads : ReadsFrom (io.reads socket) unread
  writes : io.writeAll socket = .ok ()
  others : .ok socket ∉ io.accepted

/-- A client whose reads are whole has sent the first of the commands on their way. -/
lemma received_carries {io : SocketIo} {buffer : List Char} {commands : List String}
    {unread : List UInt8} (h : Carries codec (commands.map .ShellCommand) buffer unread)
    (hreads : ReadsFrom (io.reads socket) unread) :
    let client : Client := ⟨socket, buffer⟩
    ∃ rest buffer', commands = client.commands codec io ++ rest ∧
      client.Readable codec io = true ∧ client.read codec io = ⟨socket, buffer'⟩ ∧
      Carries codec (rest.map .ShellCommand) buffer' (restAfter (io.reads socket) unread) := by
  intro client
  obtain ⟨front, back, buffer', hsplit, hdrain, hcarries⟩ :=
    Carries.drain daemonEndpoint ⟨buffer, [], ⟨[], []⟩⟩ h hreads rfl
  obtain ⟨taken, rest, rfl, rfl, rfl⟩ := List.map_eq_append_iff.mp hsplit
  have hreceived : client.received codec io = daemonEndpoint.drain codec
      ⟨buffer, [], ⟨[], []⟩⟩ (io.reads socket) := rfl
  have hcommands : client.commands codec io = taken := by
    rw [Client.commands, hreceived, hdrain]
    show (((taken.map IpcMessage.ShellCommand).map Except.ok).foldl PendingShell.handle
      ⟨[], []⟩).commands = taken
    rw [Tui.commands_foldl]
    simp [List.filterMap_map, Function.comp_def, Tui.commandOf]
  refine ⟨rest, buffer', by rw [hcommands], ?_, ?_, hcarries⟩
  · rw [Client.Readable, hreceived, hdrain]
    rfl
  · rw [Client.read, hreceived, hdrain]

/-- The bytes of a command. -/
def commandBytes (codec : JsonCodec) (command : String) : List UInt8 :=
  codec.payload (.ShellCommand command)

/-- A command that is sent is on its way after the others. -/
lemma AtDaemon.send {commands : List String} {unread : List UInt8}
    (h : AtDaemon codec socket s commands unread) {more : List String}
    (hfaithful : ∀ command ∈ more, codec.Faithful (.ShellCommand command)) :
    AtDaemon codec socket s (commands ++ more)
      (unread ++ more.flatMap (commandBytes codec)) := by
  obtain ⟨buffer, hclient, hcarries⟩ := h.client
  refine ⟨h.pending, buffer, hclient, ?_⟩
  induction more using List.reverseRecOn with
  | nil => simpa using hcarries
  | append_singleton more last ih =>
      obtain ⟨hmore, hlast⟩ := List.forall_mem_append.mp hfaithful
      have hone := (ih hmore).send (hlast last (List.mem_singleton_self _))
      simpa [List.flatMap_append, commandBytes] using hone

/-- The client on the socket, among those of a turn. -/
lemma AtDaemon.connected {commands : List String} {unread : List UInt8}
    (h : AtDaemon codec socket s commands unread) {io : SocketIo}
    (hothers : .ok socket ∉ io.accepted) :
    ∃ buffer, ((s.connected io).filter fun client => client.stream = socket) =
        [⟨socket, buffer⟩] ∧
      Carries codec (commands.map .ShellCommand) buffer unread := by
  obtain ⟨buffer, hclient, hcarries⟩ := h.client
  refine ⟨buffer, ?_, hcarries⟩
  have hnone : ((io.accepted.filterMap fun r => r.toOption.map fun n => (⟨n, []⟩ : Client)).filter
      fun client => client.stream = socket) = [] := by
    rw [List.filter_eq_nil_iff]
    intro client hmem
    obtain ⟨accepted, haccepted, hsome⟩ := List.mem_filterMap.mp hmem
    cases accepted with
    | error err => cases hsome
    | ok n =>
        obtain rfl : ⟨n, []⟩ = client := Option.some.inj hsome
        rw [decide_eq_true_eq]
        rintro rfl
        exact hothers haccepted
  rw [ServerState.connected, List.filter_append, hclient, hnone, List.append_nil]

/-- **A turn** handles the commands that it takes from the front of those on their way, writes its
snapshot to the client once, and leaves the other commands on their way. -/
theorem AtDaemon.turn {commands : List String} {unread : List UInt8}
    (h : AtDaemon codec socket s commands unread) (env : TickEnv W) {io : SocketIo}
    (hio : Reaches socket io unread) :
    let t := serveTick codec env io s
    ∃ rest, commands = commandsFrom codec socket io s ++ rest ∧
      commandsFrom codec socket io s <:+: t.2.handled ∧
      (t.2.offered.filter fun offer => offer.1 = socket) =
        [(socket, codec.payload (.Snapshot t.2.snapshot))] ∧
      AtDaemon codec socket t.1 rest (restAfter (io.reads socket) unread) := by
  intro t
  obtain ⟨buffer, hclient, hcarries⟩ := h.connected hio.others
  obtain ⟨rest, buffer', hcommands, hreadable, hread, hrest⟩ := received_carries hcarries hio.reads
  have hserved : ServedOnce codec s (env, io) := servedOnce h.pending (env, io)
  have hfrom : commandsFrom codec socket io s =
      (⟨socket, buffer⟩ : Client).commands codec io := by
    rw [commandsFrom, hclient, List.flatMap_singleton]
  have hwritable : (⟨socket, buffer⟩ : Client).Writable io = true := by
    rw [Client.Writable, hio.writes]
    rfl
  refine ⟨rest, by rw [hfrom, hcommands], ?_, ?_, rfl, buffer', ?_, hrest⟩
  · -- the client is one of those that are read
    have hmem : (⟨socket, buffer⟩ : Client) ∈ s.connected io :=
      List.mem_of_mem_filter (hclient ▸ List.mem_singleton_self _)
    obtain ⟨pre, post, hsplit⟩ := List.append_of_mem hmem
    refine ⟨pre.flatMap (Client.commands codec io), post.flatMap (Client.commands codec io), ?_⟩
    rw [hserved.handled, hsplit, List.flatMap_append, List.flatMap_cons, hfrom, List.append_assoc]
  · have hfilter : ((s.connected io).filter fun client => client.Readable codec io).filter
        (fun client => client.stream = socket) = [⟨socket, buffer⟩] := by
      rw [List.filter_filter, List.filter_congr fun _ _ => Bool.and_comm _ _, ← List.filter_filter,
        hclient, List.filter_singleton, hreadable]
      rfl
    rw [hserved.offered, List.filter_map]
    simp only [Function.comp_def, hfilter]
    rfl
  · rw [hserved.clients, List.filter_map]
    have hfilter : ((s.connected io).filter fun client =>
        client.Readable codec io && client.Writable io).filter
          (fun client => client.stream = socket) = [⟨socket, buffer⟩] := by
      rw [List.filter_filter, List.filter_congr fun _ _ => Bool.and_comm _ _, ← List.filter_filter,
        hclient, List.filter_singleton, hreadable, hwritable]
      rfl
    have hstream : ∀ client : Client, (client.read codec io).stream = client.stream :=
      fun _ => rfl
    simp only [Function.comp_def, hstream, hfilter, List.map_singleton, hread]

/-! ## A turn as operations of the daemon -/

/-- What a turn does to the daemon: it handles commands, and ticks. -/
def turnOps (codec : JsonCodec) (env : TickEnv W) (io : SocketIo) (s : ServerState W) :
    List (DaemonOp W) :=
  (serveTick codec env io s).2.handled.map .Command ++ [.Tick (s.tick + 1) env]

lemma handleCommands_run (commands : List String) (d : DaemonState × List IpcEvent × List String)
    (w : W) :
    ((handleCommands commands d).1, w) =
      run DaemonState.apply (d.1, w) (commands.map .Command) := by
  induction commands generalizing d with
  | nil => rfl
  | cons command commands ih =>
      rw [handleCommands, ih, List.map_cons, run_cons, apply_command]

/-- **A turn** is a run of operations of the daemon, -/
theorem turn_state (env : TickEnv W) (io : SocketIo) (s : ServerState W) :
    ((serveTick codec env io s).1.daemon, (serveTick codec env io s).1.world) =
      run DaemonState.apply (s.daemon, s.world) (turnOps codec env io s) := by
  rw [turnOps, run_append, ← handleCommands_run _ (s.daemon, [], []) s.world]
  simp only [serveTick, handled_handleCommands, List.nil_append]
  rfl

/-- and its snapshot has the VMs of the one that the last of them builds. -/
lemma turn_snapshot (env : TickEnv W) (io : SocketIo) (s : ServerState W) :
    (serveTick codec env io s).2.snapshot.vms =
      (DaemonState.buildSnapshot env (s.tick + 1) (run DaemonState.apply (s.daemon, s.world)
        ((serveTick codec env io s).2.handled.map .Command))).1.vms := by
  rw [← handleCommands_run _ (s.daemon, [], []) s.world]
  simp only [serveTick, handled_handleCommands, List.nil_append]

end Chalybs
