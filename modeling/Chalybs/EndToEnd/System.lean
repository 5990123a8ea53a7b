import Chalybs.EndToEnd.Terminal

/-!
# The daemon and a TUI

The whole system: the daemon with its clients, one of which is a TUI, and the two directions of the
socket between them.  Turns of the daemon and steps of the TUI come in any order, and a read takes
any part of what is on the wire.

* `Link`, `Link.step` — the system.
* `Smooth` — the steps on a socket that works, with reads that end between characters.
* `Linked`, `Linked.step` — what is on its way in both directions, and what a step does to it.
* `commands_arrive`, `view_follows` — nothing is lost, repeated or reordered in either direction,
  and the TUI shows what the daemon has sent.
* `seen_follows` — how the states that the TUI gets to see follow each other.
-/

namespace Chalybs.Tui

open Foundation

variable {W : Type}

/-! ## The system -/

/-- The daemon, the TUI, and what each of them has written and the other has not read. -/
structure Link (W : Type) where
  server : ServerState W
  tui : TuiEnd
  toDaemon : List UInt8
  toTui : List UInt8

/-- The steps of the system. -/
inductive LinkOp (W : Type)
  /-- A turn of the daemon. -/
  | Turn (env : TickEnv W) (io : SocketIo)
  /-- A turn of `connect_default`. -/
  | Poll (reads : List ReadResult)
  /-- An operation of the main loop. -/
  | Ui (op : SessionOp)

section

variable (codec : JsonCodec) (socket : ℕ)

/-- A step.  The TUI is in one of its two loops at a time. -/
def Link.step (s : Link W) : LinkOp W → Link W
  | .Turn env io =>
      let (server, log) := serveTick codec env io s.server
      let offered := log.offered.filter fun offer => offer.1 = socket
      { s with
        server
        toDaemon := restAfter (io.reads socket) s.toDaemon
        toTui := s.toTui ++ offered.flatMap Prod.snd }
  | .Poll reads =>
      match s.tui with
      | .Waiting rx =>
          { s with tui := .poll codec rx reads, toTui := restAfter reads s.toTui }
      | _ => s
  | .Ui op =>
      match s.tui with
      | .Connected session =>
          { s with
            tui := .Connected (session.step codec op)
            toDaemon := s.toDaemon ++ session.written codec op
            toTui := restAfter op.reads s.toTui }
      | _ => s

/-- The command that the user gives in a step. -/
def Link.submitted (s : Link W) : LinkOp W → List String
  | .Ui op =>
      match s.tui with
      | .Connected session => (session.command op).toList
      | _ => []
  | _ => []

/-- The commands that the daemon handles in a step, -/
def Link.handled (s : Link W) : LinkOp W → List String
  | .Turn env io => (serveTick codec env io s.server).2.handled
  | _ => []

/-- and those of them that come from the TUI. -/
def Link.taken (s : Link W) : LinkOp W → List String
  | .Turn _ io => commandsFrom codec socket io s.server
  | _ => []

/-- The snapshot that the daemon builds in a step. -/
def Link.built (s : Link W) : LinkOp W → List Snapshot
  | .Turn env io => [(serveTick codec env io s.server).2.snapshot]
  | _ => []

/-- What a step needs of the socket: it gives its bytes to the reads in order and in whole
characters, its writes succeed, nobody else is accepted on it, and `serde_json` reads back what is
sent in the step. -/
def Smooth (s : Link W) : LinkOp W → Prop
  | .Turn env io =>
      Reaches socket io s.toDaemon ∧
        codec.Faithful (.Snapshot (serveTick codec env io s.server).2.snapshot)
  | .Poll reads => ReadsFrom reads s.toTui
  | .Ui op =>
      match op, s.tui with
      | .OnTick reads, _ => ReadsFrom reads s.toTui
      | op, .Connected session => session.SendsWell codec op
      | _, _ => True

end

/-- The system when the daemon has just accepted the TUI. -/
def Link.start (server : ServerState W) (socket : ℕ) : Link W where
  server := { server with clients := server.clients ++ [⟨socket, []⟩] }
  tui := .Waiting ⟨[], [], {}⟩
  toDaemon := []
  toTui := []

/-! ## Steps of the system -/

/-- The commands are on their way to the daemon, and the snapshots to the TUI. -/
structure Linked (codec : JsonCodec) (socket : ℕ) (s : Link W) (commands : List String)
    (snapshots : List Snapshot) : Prop where
  daemon : AtDaemon codec socket s.server commands s.toDaemon
  tui : AtTui codec (configuredNames s.server.daemon.rootCfg).length s.tui snapshots s.toTui

section

variable {codec : JsonCodec} {socket : ℕ} {s : Link W} {commands : List String}
  {snapshots : List Snapshot}

lemma rootCfg_run (t : DaemonState × W) (ops : List (DaemonOp W)) :
    (run DaemonState.apply t ops).1.rootCfg = t.1.rootCfg := by
  refine run_invariant (I := fun u : DaemonState × W => u.1.rootCfg = t.1.rootCfg) ?_ rfl ops
  intro u op hu
  cases op with
  | Command line => exact (u.1.rootCfg_handleShellCommand line).trans hu
  | Tick tick env =>
      rw [apply_tick]
      exact rootCfg_tick.trans hu

/-- A snapshot has a status for every configured VM. -/
lemma length_vms_buildSnapshot (env : TickEnv W) (tick : UInt64) (t : DaemonState × W) :
    (DaemonState.buildSnapshot env tick t).1.vms.length =
      (configuredNames t.1.rootCfg).length := by
  rw [DaemonState.buildSnapshot]
  cases hcfg : t.1.rootCfg with
  | none => rfl
  | some cfg =>
      have hsorted : ∀ name ∈ cfg.sortedNames, name ∈ cfg.vm := fun name hname =>
        AList.mem_keys.mp ((List.perm_insertionSort _ _).mem_iff.mp hname)
      have hnames : (DaemonState.visitVms env cfg cfg.sortedNames t).1.map IpcVmStatus.name =
          cfg.sortedNames := names_visitVms hsorted t
      have hlength := congrArg List.length hnames
      rw [List.length_map] at hlength
      exact hlength.trans (List.perm_insertionSort _ _).length_eq

lemma rootCfg_turn (env : TickEnv W) (io : SocketIo) (server : ServerState W) :
    (serveTick codec env io server).1.daemon.rootCfg = server.daemon.rootCfg := by
  have hstate := congrArg Prod.fst (@turn_state W codec env io server)
  rw [show (serveTick codec env io server).1.daemon = _ from hstate, rootCfg_run]

lemma length_vms_turn (env : TickEnv W) (io : SocketIo) (server : ServerState W) :
    (serveTick codec env io server).2.snapshot.vms.length =
      (configuredNames server.daemon.rootCfg).length := by
  rw [turn_snapshot, length_vms_buildSnapshot, rootCfg_run]

/-- A snapshot that is sent is on its way after the others. -/
lemma AtTui.send {n : ℕ} {tui : TuiEnd} {unread : List UInt8}
    (h : AtTui codec n tui snapshots unread) {snapshot : Snapshot}
    (hfaithful : codec.Faithful (.Snapshot snapshot)) (hlength : snapshot.vms.length = n) :
    AtTui codec n tui (snapshots ++ [snapshot])
      (unread ++ codec.payload (.Snapshot snapshot)) where
  receives :=
    { h.receives with
      carries := by
        rw [List.map_append]
        exact h.receives.carries.send hfaithful
      counts := by
        rw [← List.append_assoc]
        exact List.forall_mem_append.mpr
          ⟨h.receives.counts, List.forall_mem_singleton.mpr hlength⟩ }
  view := h.view

/-- What a step does to what is on its way: the commands that are submitted come behind, and those
that are taken, which the daemon handles, are the first; the snapshots that are built come behind,
and those that are decoded are the first. -/
structure Moves (codec : JsonCodec) (socket : ℕ) (s : Link W) (op : LinkOp W)
    (commands commands' : List String) (snapshots snapshots' : List Snapshot) : Prop where
  commands : commands ++ s.submitted op = s.taken codec socket op ++ commands'
  handled : s.taken codec socket op <:+: s.handled codec op
  snapshots : snapshotsOf s.tui.rx.decoded ++ snapshots ++ s.built codec op =
    snapshotsOf (s.step codec socket op).tui.rx.decoded ++ snapshots'
  linked : Linked codec socket (s.step codec socket op) commands' snapshots'

/-- A turn writes its snapshot to the TUI. -/
lemma Linked.step_turn (h : Linked codec socket s commands snapshots) {env : TickEnv W}
    {io : SocketIo} (hio : Reaches socket io s.toDaemon) :
    s.step codec socket (.Turn env io) =
      { s with
        server := (serveTick codec env io s.server).1
        toDaemon := restAfter (io.reads socket) s.toDaemon
        toTui := s.toTui ++
          codec.payload (.Snapshot (serveTick codec env io s.server).2.snapshot) } := by
  obtain ⟨-, -, -, hoffered, -⟩ := h.daemon.turn env hio
  simp only [Link.step, hoffered, List.flatMap_singleton]

/-- **A turn of the daemon.** -/
lemma Linked.turn (h : Linked codec socket s commands snapshots) {env : TickEnv W} {io : SocketIo}
    (hop : Smooth codec socket s (.Turn env io)) :
    ∃ commands', Moves codec socket s (.Turn env io) commands commands' snapshots
      (snapshots ++ [(serveTick codec env io s.server).2.snapshot]) := by
  obtain ⟨hreaches, hfaithful⟩ := hop
  obtain ⟨rest, hcommands, hhandled, -, hdaemon⟩ := h.daemon.turn env hreaches
  have htui := h.tui.send hfaithful (length_vms_turn env io s.server)
  refine ⟨rest, ?_, hhandled, (List.append_assoc _ _ _), ?_⟩
  · show commands ++ [] = commandsFrom codec socket io s.server ++ rest
    rw [List.append_nil, hcommands]
  · rw [h.step_turn hreaches]
    refine ⟨hdaemon, ?_⟩
    rw [rootCfg_turn]
    exact htui

/-- A step in which the TUI only reads. -/
lemma Linked.reads (h : Linked codec socket s commands snapshots) {op : LinkOp W} {tui : TuiEnd}
    (reads : List ReadResult) (front : List Snapshot)
    (hstep : s.step codec socket op = { s with tui, toTui := restAfter reads s.toTui })
    (hsubmitted : s.submitted op = []) (htaken : s.taken codec socket op = [])
    (hbuilt : s.built codec op = []) {rest : List Snapshot}
    (hsplit : snapshots = front ++ rest)
    (hdecoded : snapshotsOf tui.rx.decoded = snapshotsOf s.tui.rx.decoded ++ front)
    (htui : AtTui codec (configuredNames s.server.daemon.rootCfg).length tui rest
      (restAfter reads s.toTui)) :
    Moves codec socket s op commands commands snapshots rest where
  commands := by rw [hsubmitted, htaken, List.append_nil, List.nil_append]
  handled := by
    rw [htaken]
    exact List.nil_infix
  snapshots := by
    rw [hbuilt, hstep, List.append_nil, hdecoded, hsplit, List.append_assoc]
  linked := by
    rw [hstep]
    exact ⟨h.daemon, htui⟩

/-- A step of the loop that the TUI is not in. -/
lemma Linked.stays (h : Linked codec socket s commands snapshots) {op : LinkOp W}
    (hstep : s.step codec socket op = s) (hsubmitted : s.submitted op = [])
    (htaken : s.taken codec socket op = []) (hbuilt : s.built codec op = []) :
    Moves codec socket s op commands commands snapshots snapshots :=
  h.reads [] [] hstep hsubmitted htaken hbuilt rfl (List.append_nil _).symm
    h.tui

/-- **A step of the TUI in its main loop.** -/
lemma Linked.ui (h : Linked codec socket s commands snapshots) {op : SessionOp}
    (hop : Smooth codec socket s (.Ui op)) {session : Session}
    (htui : s.tui = .Connected session) :
    ∃ commands' snapshots', Moves codec socket s (.Ui op) commands commands' snapshots
      snapshots' := by
  have hat : AtTui codec (configuredNames s.server.daemon.rootCfg).length (.Connected session)
      snapshots s.toTui := htui ▸ h.tui
  have hstep : s.step codec socket (.Ui op) =
      { s with
        tui := .Connected (session.step codec op)
        toDaemon := s.toDaemon ++ session.written codec op
        toTui := restAfter op.reads s.toTui } := by
    simp only [Link.step, htui]
  have hsubmitted : s.submitted (.Ui op) = (session.command op).toList := by
    simp only [Link.submitted, htui]
  by_cases htick : ∃ reads, op = .OnTick reads
  · obtain ⟨reads, rfl⟩ := htick
    have hreads : ReadsFrom reads s.toTui := hop
    obtain ⟨front, rest, hsplit, hdecoded, hafter⟩ := hat.onTick hreads
    refine ⟨commands, rest, h.reads _ front ?_ hsubmitted rfl rfl hsplit ?_ hafter⟩
    · rw [hstep]
      simp [Session.written, Session.sendOp, SessionOp.reads, Session.step]
    · rw [htui]
      exact hdecoded
  · have hop' : ∀ reads, op ≠ .OnTick reads := fun reads hreads => htick ⟨reads, hreads⟩
    have hsend : session.SendsWell codec op := by
      cases op with
      | OnTick reads => exact absurd rfl (hop' reads)
      | SubmitShellCommand send => simpa only [Smooth, htui] using hop
      | RequestVm verb json newline => simpa only [Smooth, htui] using hop
      | App op => simpa only [Smooth, htui] using hop
    obtain ⟨hwritten, hrx, hafter⟩ := hat.step hop' hsend
    have hreads : op.reads = [] := by
      cases op with
      | OnTick reads => exact absurd rfl (hop' reads)
      | SubmitShellCommand send => rfl
      | RequestVm verb json newline => rfl
      | App op => rfl
    have hfaithful : ∀ command ∈ (session.command op).toList,
        codec.Faithful (.ShellCommand command) := by
      intro command hcommand
      obtain ⟨send, hcall, hline⟩ := Option.bind_eq_some_iff.mp (Option.mem_toList.mp hcommand)
      exact (hsend send hcall).1 command hline
    refine ⟨commands ++ (session.command op).toList, snapshots, ?_, List.nil_infix, ?_, ?_⟩
    · rw [hsubmitted]
      rfl
    · rw [hstep, htui]
      show _ ++ [] = snapshotsOf (session.step codec op).rx.decoded ++ snapshots
      rw [hrx, List.append_nil]
      rfl
    · rw [hstep, hwritten, hreads]
      exact ⟨h.daemon.send hfaithful, hafter⟩

/-- **Every step** moves what is on its way. -/
theorem Linked.step (h : Linked codec socket s commands snapshots) {op : LinkOp W}
    (hop : Smooth codec socket s op) :
    ∃ commands' snapshots', Moves codec socket s op commands commands' snapshots snapshots' := by
  cases op with
  | Turn env io =>
      obtain ⟨commands', hmoves⟩ := h.turn hop
      exact ⟨commands', _, hmoves⟩
  | Poll reads =>
      cases htui : s.tui with
      | Waiting rx =>
          have hat : AtTui codec (configuredNames s.server.daemon.rootCfg).length (.Waiting rx)
              snapshots s.toTui := htui ▸ h.tui
          obtain ⟨front, rest, hsplit, hdecoded, hafter⟩ := hat.poll hop
          refine ⟨commands, rest, h.reads _ front ?_ rfl rfl rfl hsplit ?_ hafter⟩
          · simp only [Link.step, htui]
          · rw [htui]
            exact hdecoded
      | Connected session =>
          exact ⟨_, _, h.stays (by simp only [Link.step, htui]) rfl rfl rfl⟩
      | GaveUp rx => exact ⟨_, _, h.stays (by simp only [Link.step, htui]) rfl rfl rfl⟩
  | Ui op =>
      cases htui : s.tui with
      | Waiting rx =>
          exact ⟨_, _, h.stays (by simp only [Link.step, htui])
            (by simp only [Link.submitted, htui]) rfl rfl⟩
      | Connected session => exact h.ui hop htui
      | GaveUp rx =>
          exact ⟨_, _, h.stays (by simp only [Link.step, htui])
            (by simp only [Link.submitted, htui]) rfl rfl⟩

/-- Nothing is on its way when the TUI has just been accepted. -/
lemma linked_start {server : ServerState W} (hpending : server.pending = ⟨[], []⟩)
    (hfree : ∀ client ∈ server.clients, client.stream ≠ socket) :
    Linked codec socket (Link.start server socket) [] [] := by
  refine ⟨⟨hpending, [], ?_, carries_nil codec⟩, ⟨⟨rfl, carries_nil codec, ?_, rfl, rfl⟩, rfl⟩⟩
  · have hnone : server.clients.filter (fun client => client.stream = socket) = [] := by
      simpa [List.filter_eq_nil_iff] using hfree
    show List.filter (fun client : Client => client.stream = socket)
      (server.clients ++ [⟨socket, []⟩]) = _
    rw [List.filter_append, hnone]
    simp
  · exact fun snapshot h => absurd h List.not_mem_nil

end

/-! ## Runs of the system -/

section

variable {codec : JsonCodec} {socket : ℕ} {s : Link W} {ops : List (LinkOp W)}

/-- **The commands of a run**, and those on their way after it. -/
lemma commands_run {commands : List String} {snapshots : List Snapshot}
    (hs : Linked codec socket s commands snapshots)
    (hops : Along (Link.step codec socket) (Smooth codec socket) s ops) :
    ∃ onTheWay, (∃ snapshots, Linked codec socket (run (Link.step codec socket) s ops) onTheWay
        snapshots) ∧
      commands ++ trace (Link.step codec socket) Link.submitted s ops =
        trace (Link.step codec socket) (Link.taken codec socket) s ops ++ onTheWay := by
  refine conserved_run (I := fun t queue => ∃ snapshots, Linked codec socket t queue snapshots) ?_
    ⟨snapshots, hs⟩ hops
  rintro t op queue hop ⟨snapshots, ht⟩
  obtain ⟨commands', snapshots', hmoves⟩ := ht.step hop
  exact ⟨commands', ⟨snapshots', hmoves.linked⟩, hmoves.commands⟩

/-- **The snapshots of a run**, and those on their way after it. -/
lemma snapshots_run (hs : Linked codec socket s [] []) (hnone : snapshotsOf s.tui.rx.decoded = [])
    (hops : Along (Link.step codec socket) (Smooth codec socket) s ops) :
    ∃ onTheWay, (∃ commands, Linked codec socket (run (Link.step codec socket) s ops) commands
        onTheWay) ∧
      trace (Link.step codec socket) (Link.built codec) s ops =
        snapshotsOf (run (Link.step codec socket) s ops).tui.rx.decoded ++ onTheWay := by
  have hstep : ∀ (t : Link W) (seen : List Snapshot) (op : LinkOp W), Smooth codec socket t op →
      (∃ commands onTheWay, Linked codec socket t commands onTheWay ∧
        seen = snapshotsOf t.tui.rx.decoded ++ onTheWay) →
      ∃ commands onTheWay, Linked codec socket (t.step codec socket op) commands onTheWay ∧
        seen ++ t.built codec op =
          snapshotsOf (t.step codec socket op).tui.rx.decoded ++ onTheWay := by
    rintro t seen op hop ⟨commands, onTheWay, ht, rfl⟩
    obtain ⟨commands', snapshots', hmoves⟩ := ht.step hop
    exact ⟨commands', snapshots', hmoves.linked, hmoves.snapshots⟩
  have hboth := trace_invariant_along hstep ⟨[], [], hs, by rw [hnone]⟩ hops
  obtain ⟨commands, onTheWay, hlinked, hseen⟩ := hboth
  exact ⟨onTheWay, ⟨commands, hlinked⟩, hseen⟩

/-- In every turn, the commands that the daemon takes from the TUI are handled one after the
other. -/
lemma handled_run {commands : List String} {snapshots : List Snapshot}
    (hs : Linked codec socket s commands snapshots)
    (hops : Along (Link.step codec socket) (Smooth codec socket) s ops) :
    Along (Link.step codec socket)
      (fun t op => t.taken codec socket op <:+: t.handled codec op) s ops := by
  refine along_of_invariant (C := Smooth codec socket)
    (I := fun t => ∃ commands snapshots, Linked codec socket t commands snapshots) ?_ ?_
    ⟨commands, snapshots, hs⟩ hops
  · rintro t op ⟨commands, snapshots, ht⟩ hop
    obtain ⟨commands', snapshots', hmoves⟩ := ht.step hop
    exact ⟨commands', snapshots', hmoves.linked⟩
  · rintro t op ⟨commands, snapshots, ht⟩ hop
    obtain ⟨commands', snapshots', hmoves⟩ := ht.step hop
    exact hmoves.handled

/-- Nothing is on its way to the daemon if it has read everything, -/
lemma Linked.no_commands {commands : List String} {snapshots : List Snapshot}
    (h : Linked codec socket s commands snapshots) (hread : s.toDaemon = []) : commands = [] := by
  obtain ⟨buffer, -, hcarries⟩ := h.daemon.client
  rw [hread] at hcarries
  exact List.map_eq_nil_iff.mp hcarries.arrived

/-- nor to the TUI if it has. -/
lemma Linked.no_snapshots {commands : List String} {snapshots : List Snapshot}
    (h : Linked codec socket s commands snapshots) (hread : s.toTui = []) : snapshots = [] := by
  have hcarries := h.tui.receives.carries
  rw [hread] at hcarries
  exact List.map_eq_nil_iff.mp hcarries.arrived

end

/-- The system when the daemon has just accepted the TUI, after some turns. -/
def Link.afterTurns (codec : JsonCodec) (daemon : DaemonState) (world : W) (clients : List Client)
    (turns : List (TickEnv W × SocketIo)) (socket : ℕ) : Link W :=
  .start (run (ServerState.apply codec) (.start daemon world clients) turns) socket

lemma linked_afterTurns {codec : JsonCodec} {daemon : DaemonState} {world : W}
    {clients : List Client} {turns : List (TickEnv W × SocketIo)} {socket : ℕ}
    (hfree : ∀ client ∈ (run (ServerState.apply codec) (.start daemon world clients) turns).clients,
      client.stream ≠ socket) :
    Linked codec socket (.afterTurns codec daemon world clients turns socket) [] [] := by
  refine linked_start ?_ hfree
  refine run_invariant (I := fun s : ServerState W => s.pending = ⟨[], []⟩) ?_ rfl turns
  exact fun s op _ => rfl

/-! ## A TUI starts a VM -/

/-- A daemon with one VM. -/
def linkDaemon : DaemonState :=
  .new (some ⟨AList.singleton "a" (minimalVmConfig {} {})⟩) [] []

/-- What the snapshots say of the VM. -/
def statusA (state : IpcVmState) : IpcVmStatus where
  name := "a"
  state := state
  cpuPinned := false
  irqPinned := false
  tasmotaOn := false
  isolationMode := "disabled"
  hugepages := false
  cpuLayout := ⟨[0, 1, 2, 3], [0, 1]⟩
  hugepagesDetail := {}
  cpuSample := none

def startA : IpcMessage := .ShellCommand "vm start a"

/-- The snapshot of a turn before the VM is started, and of the turn that starts it. -/
def firstSnapshot : Snapshot := ⟨[statusA .Stopped], [], []⟩

def secondSnapshot : Snapshot where
  vms := [statusA .Starting]
  eventsGlobal := [⟨.Shell, "chalybs> vm start a"⟩,
    ⟨.System, "vm a: `start` requested; desired state set to Starting"⟩]
  eventsVm := [⟨"a", [⟨.System, "state=Init"⟩]⟩]

/-- A JSON object with that text in it. -/
def jsonObject (pieces : List String) : String :=
  String.ofList ('{' :: (pieces.flatMap String.toList ++ ['}']))

def startAText : List String := ["\"ShellCommand\":\x7b\"command\":\"vm start a\"\x7d"]

def statusAText (state : String) : List String :=
  ["\"Snapshot\":\x7b\"vms\":[\x7b\"name\":\"a\",\"state\":\"", state,
    "\",\"cpu_pinned\":false,\"irq_pinned\":false,\"tasmota_on\":false,",
    "\"isolation_mode\":\"disabled\",\"hugepages\":false,",
    "\"cpu_layout\":\x7b\"host\":[0,1,2,3],\"vm\":[0,1]\x7d,",
    "\"hugepages_detail\":\x7b\"active\":false,\"node\":null,",
    "\"pages\":0,\"bytes\":0\x7d,\"cpu_sample\":null\x7d],"]

def firstText : List String :=
  statusAText "Stopped" ++ ["\"events_global\":[],", "\"events_vm\":[]\x7d"]

def secondText : List String :=
  statusAText "Starting" ++
    ["\"events_global\":[\x7b\"kind\":\"Shell\",\"message\":\"chalybs> vm start a\"\x7d,",
      "\x7b\"kind\":\"System\",\"message\":\"vm a: `start` requested; ",
      "desired state set to Starting\"\x7d],\"events_vm\":[\x7b\"vm_name\":\"a\",",
      "\"events\":[\x7b\"kind\":\"System\",\"message\":\"state=Init\"\x7d]\x7d]\x7d"]

/-- What `serde_json` makes of the three messages. -/
def linkCodec : JsonCodec where
  toString message :=
    if message = startA then jsonObject startAText
    else if message = .Snapshot firstSnapshot then jsonObject firstText
    else jsonObject secondText
  fromStr text :=
    if text = jsonObject startAText then .ok startA
    else if text = jsonObject firstText then .ok (.Snapshot firstSnapshot)
    else if text = jsonObject secondText then .ok (.Snapshot secondSnapshot)
    else .error "expected value at line 1 column 1"

lemma jsonObject_ne {a b : List String}
    (h : a.flatMap String.toList ≠ b.flatMap String.toList) : jsonObject a ≠ jsonObject b := by
  intro heq
  have hlists := congrArg String.toList heq
  rw [jsonObject, jsonObject, String.toList_ofList, String.toList_ofList] at hlists
  exact h (List.append_cancel_right (List.cons.inj hlists).2)

/-- A text on one line that is read back is what it should be. -/
lemma faithful_of_text {codec : JsonCodec} {message : IpcMessage} (pieces : List String)
    (htext : codec.toString message = jsonObject pieces)
    (hread : codec.fromStr (jsonObject pieces) = .ok message)
    (hline : ∀ piece ∈ pieces, '\n' ∉ piece.toList) : codec.Faithful message where
  roundTrip := by rw [htext, hread]
  object := ⟨pieces.flatMap String.toList, by rw [htext, jsonObject, String.toList_ofList]; rfl⟩
  oneLine := by
    rw [htext, jsonObject, String.toList_ofList]
    simpa using hline

lemma start_ne_first : jsonObject startAText ≠ jsonObject firstText :=
  jsonObject_ne (by decide)

lemma start_ne_second : jsonObject startAText ≠ jsonObject secondText :=
  jsonObject_ne (by decide)

lemma first_ne_second : jsonObject firstText ≠ jsonObject secondText :=
  jsonObject_ne (by decide)

lemma faithful_startA : linkCodec.Faithful startA :=
  faithful_of_text startAText rfl (by simp only [linkCodec, if_true]) (by decide)

lemma faithful_first : linkCodec.Faithful (.Snapshot firstSnapshot) :=
  faithful_of_text firstText rfl
    (by simp only [linkCodec, if_neg (Ne.symm start_ne_first), if_true]) (by decide)

lemma second_ne_first : IpcMessage.Snapshot secondSnapshot ≠ .Snapshot firstSnapshot := by
  intro h
  have hstates := congrArg (fun s => s.vms.map IpcVmStatus.state) (IpcMessage.Snapshot.inj h)
  exact absurd hstates (by decide)

lemma faithful_second : linkCodec.Faithful (.Snapshot secondSnapshot) := by
  have hstart : IpcMessage.Snapshot secondSnapshot ≠ startA := IpcMessage.noConfusion
  have htext : linkCodec.toString (.Snapshot secondSnapshot) = jsonObject secondText := by
    simp only [linkCodec, if_neg hstart, if_neg second_ne_first]
  refine faithful_of_text _ htext ?_ (by decide)
  simp only [linkCodec, if_neg (Ne.symm start_ne_second), if_neg (Ne.symm first_ne_second), if_true]

/-- The sockets in a turn in which the TUI's gives these reads. -/
def linkIo (reads : List ReadResult) : SocketIo where
  accepted := []
  reads _ := reads
  writeAll _ := .ok ()

/-- The system when the daemon has just started and accepted the TUI. -/
def linkStart : Link Unit := .afterTurns linkCodec linkDaemon () [] [] 7

/-- Two reads that the daemon makes of the command. -/
def startAReads : List ReadResult :=
  [.Ok ((linkCodec.payload startA).take 20), .Ok ((linkCodec.payload startA).drop 20), .WouldBlock]

/-- The server after its first turn. -/
def afterFirst : ServerState Unit :=
  (serveTick linkCodec (idleEnv Unit) (linkIo [.WouldBlock]) linkStart.server).1

lemma snapshot_first :
    (serveTick linkCodec (idleEnv Unit) (linkIo [.WouldBlock]) linkStart.server).2.snapshot =
      firstSnapshot := by
  simp only [serveTick, sweep_drainClient, sweep_offerClient]
  decide +kernel

lemma snapshot_second :
    (serveTick linkCodec (idleEnv Unit) (linkIo startAReads) afterFirst).2.snapshot =
      secondSnapshot := by
  simp only [afterFirst, serveTick, sweep_drainClient, sweep_offerClient]
  decide +kernel

lemma readsFrom_readsOf (codec : JsonCodec) (snapshot : Snapshot) :
    ReadsFrom (Session.readsOf codec snapshot) (codec.payload (.Snapshot snapshot)) where
  ends := rfl
  nonempty read hread := by
    rw [List.mem_singleton.mp hread]
    exact payload_ne_nil codec _
  text read hread := by
    rw [List.mem_singleton.mp hread]
    exact ⟨_, rfl⟩
  front := by simp [bytesRead, Session.readsOf]

lemma restAfter_readsOf (codec : JsonCodec) (snapshot : Snapshot) :
    restAfter (Session.readsOf codec snapshot) (codec.payload (.Snapshot snapshot)) = [] := by
  simp [restAfter, bytesRead, Session.readsOf]

lemma readsFrom_startA : ReadsFrom startAReads (linkCodec.payload startA) where
  ends := rfl
  nonempty := by decide +kernel
  text := by decide +kernel
  front := by simp [bytesRead, startAReads]

/-- The session that the first snapshot starts. -/
def linkSession : Session :=
  .greet ⟨[], [decodedAs firstSnapshot], DaemonBackend.handle {} (decodedAs firstSnapshot)⟩

lemma poll_first : TuiEnd.poll linkCodec ⟨[], [], {}⟩ (Session.readsOf linkCodec firstSnapshot) =
    .Connected linkSession := by
  have hdrained := Session.drainSocket_payload ⟨[], [], {}⟩ rfl rfl faithful_first
  rw [TuiEnd.poll, Session.readsOf, hdrained]
  rfl

lemma call_startA : linkSession.sendOp (.RequestVm "start" .Ok .Ok) =
    some ⟨"vm start a", .Ok, .Ok⟩ := by
  decide +kernel

/-- The TUI connects, and starts its VM. -/
def linkOps : List (LinkOp Unit) :=
  [.Turn (idleEnv Unit) (linkIo [.WouldBlock]), .Poll (Session.readsOf linkCodec firstSnapshot),
    .Ui (.RequestVm "start" .Ok .Ok), .Turn (idleEnv Unit) (linkIo startAReads),
    .Ui (.OnTick (Session.readsOf linkCodec secondSnapshot))]

lemma free_linkStart : ∀ client ∈ (run (ServerState.apply linkCodec)
    (.start linkDaemon () []) ([] : List (TickEnv Unit × SocketIo))).clients, client.stream ≠ 7 :=
  nofun

/-- The system after each of the first four steps. -/
def linkWaiting : Link Unit where
  server := afterFirst
  tui := .Waiting ⟨[], [], {}⟩
  toDaemon := []
  toTui := linkCodec.payload (.Snapshot firstSnapshot)

def linkConnected : Link Unit where
  server := afterFirst
  tui := .Connected linkSession
  toDaemon := []
  toTui := []

def linkSent : Link Unit where
  server := afterFirst
  tui := .Connected (linkSession.step linkCodec (.RequestVm "start" .Ok .Ok))
  toDaemon := linkCodec.payload startA
  toTui := []

def linkAnswered : Link Unit where
  server := (serveTick linkCodec (idleEnv Unit) (linkIo startAReads) afterFirst).1
  tui := .Connected (linkSession.step linkCodec (.RequestVm "start" .Ok .Ok))
  toDaemon := []
  toTui := linkCodec.payload (.Snapshot secondSnapshot)

lemma step_first :
    Smooth linkCodec 7 linkStart (.Turn (idleEnv Unit) (linkIo [.WouldBlock])) ∧
      linkStart.step linkCodec 7 (.Turn (idleEnv Unit) (linkIo [.WouldBlock])) = linkWaiting := by
  have hlinked : Linked linkCodec 7 linkStart [] [] := linked_afterTurns free_linkStart
  have hio : Reaches 7 (linkIo [.WouldBlock]) linkStart.toDaemon :=
    ⟨⟨rfl, nofun, nofun, List.nil_prefix⟩, rfl, List.not_mem_nil⟩
  refine ⟨⟨hio, by rw [snapshot_first]; exact faithful_first⟩, ?_⟩
  rw [hlinked.step_turn hio, snapshot_first]
  show (⟨afterFirst, _, [], [] ++ linkCodec.payload (.Snapshot firstSnapshot)⟩ : Link Unit) = _
  rw [List.nil_append]
  rfl

lemma step_poll :
    Smooth linkCodec 7 linkWaiting (.Poll (Session.readsOf linkCodec firstSnapshot)) ∧
      linkWaiting.step linkCodec 7 (.Poll (Session.readsOf linkCodec firstSnapshot)) =
        linkConnected := by
  constructor
  · simp only [Smooth, linkWaiting]
    exact readsFrom_readsOf linkCodec firstSnapshot
  · simp only [Link.step, linkWaiting, poll_first, restAfter_readsOf, linkConnected]

lemma command_startA : commandLine "vm start a" = some "vm start a" := by decide

lemma step_send :
    Smooth linkCodec 7 linkConnected (.Ui (.RequestVm "start" .Ok .Ok)) ∧
      linkConnected.step linkCodec 7 (.Ui (.RequestVm "start" .Ok .Ok)) = linkSent := by
  have hwritten : linkSession.written linkCodec (.RequestVm "start" .Ok .Ok) =
      linkCodec.payload startA := by
    rw [Session.written, call_startA, Option.map_some, Option.getD_some,
      send_ok (by decide +kernel) rfl rfl, command_startA, Option.toList_some,
      List.flatMap_singleton]
    rfl
  constructor
  · simp only [Smooth, linkConnected]
    intro send hsend
    obtain rfl := Option.some.inj (call_startA.symm.trans hsend)
    refine ⟨fun command hcommand => ?_, rfl, rfl⟩
    obtain rfl := Option.some.inj (command_startA.symm.trans hcommand)
    exact faithful_startA
  · simp only [Link.step, linkConnected, hwritten, SessionOp.reads, linkSent, List.nil_append]
    rfl

lemma step_second {commands : List String} {snapshots : List Snapshot}
    (h : Linked linkCodec 7 linkSent commands snapshots) :
    Smooth linkCodec 7 linkSent (.Turn (idleEnv Unit) (linkIo startAReads)) ∧
      linkSent.step linkCodec 7 (.Turn (idleEnv Unit) (linkIo startAReads)) = linkAnswered := by
  -- the fields are rewritten: unfolding them would evaluate the bytes of the messages
  have hserver : linkSent.server = afterFirst := by rw [linkSent]
  have htui : linkSent.tui =
      .Connected (linkSession.step linkCodec (.RequestVm "start" .Ok .Ok)) := by rw [linkSent]
  have htoDaemon : linkSent.toDaemon = linkCodec.payload startA := by rw [linkSent]
  have htoTui : linkSent.toTui = [] := by rw [linkSent]
  have hio : Reaches 7 (linkIo startAReads) linkSent.toDaemon := by
    rw [htoDaemon]
    exact ⟨readsFrom_startA, rfl, List.not_mem_nil⟩
  have hfaithful : linkCodec.Faithful (.Snapshot
      (serveTick linkCodec (idleEnv Unit) (linkIo startAReads) linkSent.server).2.snapshot) := by
    rw [hserver, snapshot_second]
    exact faithful_second
  refine ⟨⟨hio, hfaithful⟩, ?_⟩
  have hreads : (linkIo startAReads).reads 7 = startAReads := rfl
  have hrest : restAfter startAReads (linkCodec.payload startA) = [] := by
    simp [restAfter, bytesRead, startAReads]
  rw [h.step_turn hio, hreads, htoDaemon, hserver, hrest, htoTui, htui, snapshot_second,
    List.nil_append, linkAnswered]

/-- Every step is made on a socket that works. -/
lemma smooth_linkOps : Along (Link.step linkCodec 7) (Smooth linkCodec 7) linkStart linkOps := by
  have hlinked : Linked linkCodec 7 linkStart [] [] := linked_afterTurns free_linkStart
  have hthree : Along (Link.step linkCodec 7) (Smooth linkCodec 7) linkStart (linkOps.take 3) ∧
      run (Link.step linkCodec 7) linkStart (linkOps.take 3) = linkSent := by
    simp only [linkOps, List.take_succ_cons, List.take_zero, along_cons, run_cons, run_nil,
      step_first, step_poll, step_send, true_and, and_true]
    exact along_nil _ _
  obtain ⟨commands, ⟨snapshots, hsent⟩, -⟩ := commands_run hlinked hthree.1
  rw [hthree.2] at hsent
  simp only [linkOps, along_cons, step_first, step_poll, step_send, step_second hsent, true_and]
  refine ⟨?_, along_nil _ _⟩
  simp only [Smooth, linkAnswered]
  exact readsFrom_readsOf linkCodec secondSnapshot

/-! ## Both directions -/

section

variable (codec : JsonCodec) (daemon : DaemonState) (world : W) (clients : List Client)
  (turns : List (TickEnv W × SocketIo)) (socket : ℕ) (ops : List (LinkOp W))

/-- **Commands arrive.**  In every run of the daemon and a TUI on a socket that works, whatever the
other clients do and however the bytes are divided into reads that end between characters: the
daemon handles the commands that the user gives the TUI in their order, each once, and when it has
read everything it has handled all of them. -/
theorem commands_arrive
    (hfree : ∀ client ∈ (run (ServerState.apply codec) (.start daemon world clients) turns).clients,
      client.stream ≠ socket)
    (hops : Along (Link.step codec socket) (Smooth codec socket)
      (.afterTurns codec daemon world clients turns socket) ops) :
    let s : Link W := .afterTurns codec daemon world clients turns socket
    let given := trace (Link.step codec socket) Link.submitted s ops
    let taken := trace (Link.step codec socket) (Link.taken codec socket) s ops
    taken <+: given ∧
      ((run (Link.step codec socket) s ops).toDaemon = [] → taken = given) ∧
      Along (Link.step codec socket)
        (fun t op => t.taken codec socket op <:+: t.handled codec op) s ops := by
  intro s given taken
  have hs := linked_afterTurns hfree
  obtain ⟨onTheWay, ⟨snapshots, hlinked⟩, hgiven⟩ := commands_run hs hops
  refine ⟨⟨onTheWay, hgiven.symm⟩, fun hread => ?_, handled_run hs hops⟩
  have hnone := hlinked.no_commands hread
  rw [hnone, List.append_nil] at hgiven
  exact hgiven.symm

/-- The command of the TUI is handled. -/
theorem commands_arrive_startA :
    let given := trace (Link.step linkCodec 7) Link.submitted linkStart linkOps
    let taken := trace (Link.step linkCodec 7) (Link.taken linkCodec 7) linkStart linkOps
    taken <+: given ∧
      ((run (Link.step linkCodec 7) linkStart linkOps).toDaemon = [] → taken = given) ∧
      Along (Link.step linkCodec 7)
        (fun t op => t.taken linkCodec 7 op <:+: t.handled linkCodec op) linkStart linkOps :=
  commands_arrive linkCodec linkDaemon () [] [] 7 linkOps free_linkStart smooth_linkOps

/-- **The view follows the daemon.**  In every such run, whose reads end between characters, the TUI
decodes the snapshots that the daemon has built since it accepted the TUI in their order, each once,
and shows the VMs of the last one that it has decoded; when it has read everything, that is the last
one that was built. -/
theorem view_follows
    (hfree : ∀ client ∈ (run (ServerState.apply codec) (.start daemon world clients) turns).clients,
      client.stream ≠ socket)
    (hops : Along (Link.step codec socket) (Smooth codec socket)
      (.afterTurns codec daemon world clients turns socket) ops) :
    let s : Link W := .afterTurns codec daemon world clients turns socket
    let t := run (Link.step codec socket) s ops
    let built := trace (Link.step codec socket) (Link.built codec) s ops
    t.tui.rx.decoded <+: built.map decodedAs ∧
      (t.toTui = [] → t.tui.rx.decoded = built.map decodedAs) ∧
      ∀ session, t.tui = .Connected session → ∃ snapshot,
        t.tui.rx.decoded.getLast? = some (decodedAs snapshot) ∧
          session.app.vms = snapshot.vms.map mapVmStatus := by
  intro s t built
  obtain ⟨onTheWay, ⟨commands, hlinked⟩, hbuilt⟩ := snapshots_run (linked_afterTurns hfree) rfl hops
  have hreceives := hlinked.tui.receives
  have hdecoded : built.map decodedAs = t.tui.rx.decoded ++ onTheWay.map decodedAs := by
    rw [hreceives.decoded, ← List.map_append]
    exact congrArg _ hbuilt
  refine ⟨⟨_, hdecoded.symm⟩, fun hread => ?_, fun session hsession => ?_⟩
  · rw [hdecoded, hlinked.no_snapshots hread, List.map_nil, List.append_nil]
  · have hview : t.tui.ShowsLatest := hlinked.tui.view
    have hlatest := hreceives.latest
    rw [hsession] at hview
    obtain ⟨hvms, hsome⟩ := hview
    have hshown : session.app.vms = latestVms (snapshotsOf t.tui.rx.decoded) := by
      rw [hvms, ← hlatest]
      exact congrArg (fun tui : TuiEnd => tui.rx.state.lastSnapshotVms) hsession.symm
    rcases List.eq_nil_or_concat (snapshotsOf t.tui.rx.decoded) with hnone | ⟨pre, last, hlast⟩
    · rw [hshown, hnone] at hsome
      exact absurd rfl hsome
    · refine ⟨last, ?_, ?_⟩
      · rw [hreceives.decoded]
        show ((snapshotsOf t.tui.rx.decoded).map decodedAs).getLast? = _
        rw [hlast]
        simp
      · rw [hshown, hlast]
        simp [latestVms]

end

/-- The TUI shows the VM being started. -/
theorem view_follows_startA :
    let t := run (Link.step linkCodec 7) linkStart linkOps
    let built := trace (Link.step linkCodec 7) (Link.built linkCodec) linkStart linkOps
    t.tui.rx.decoded <+: built.map decodedAs ∧
      (t.toTui = [] → t.tui.rx.decoded = built.map decodedAs) ∧
      ∀ session, t.tui = .Connected session → ∃ snapshot,
        t.tui.rx.decoded.getLast? = some (decodedAs snapshot) ∧
          session.app.vms = snapshot.vms.map mapVmStatus :=
  view_follows linkCodec linkDaemon () [] [] 7 linkOps free_linkStart smooth_linkOps

/-! ## The states that the TUI gets to see -/

section

variable (codec : JsonCodec) (socket : ℕ)

/-- What a step does to the daemon. -/
def Link.daemonOps (codec : JsonCodec) (s : Link W) : LinkOp W → List (DaemonOp W)
  | .Turn env io => turnOps codec env io s.server
  | _ => []

/-- The daemon and its host. -/
def ServerState.daemonState (s : ServerState W) : DaemonState × W := (s.daemon, s.world)

lemma shown_turn (env : TickEnv W) (io : SocketIo) (s : ServerState W) (name : String) :
    trace DaemonState.apply (shows name) (s.daemon, s.world) (turnOps codec env io s) =
      [(serveTick codec env io s).2.snapshot.shown name] := by
  have hquiet : ∀ (commands : List String) (t : DaemonState × W),
      trace DaemonState.apply (shows name) t (commands.map .Command) = [] := by
    intro commands
    induction commands with
    | nil => exact fun _ => rfl
    | cons command commands ih => exact fun t => ih _
  rw [turnOps, trace_append, hquiet, List.nil_append, Snapshot.shown, turn_snapshot]
  rfl

lemma step_daemon (s : Link W) (op : LinkOp W) :
    ServerState.daemonState (s.step codec socket op).server =
      run DaemonState.apply (ServerState.daemonState s.server) (s.daemonOps codec op) := by
  cases op with
  | Turn env io => exact turn_state env io s.server
  | Poll reads =>
      simp only [Link.step]
      split <;> rfl
  | Ui op =>
      simp only [Link.step]
      split <;> rfl

lemma shown_step (s : Link W) (op : LinkOp W) (name : String) :
    trace DaemonState.apply (shows name) (ServerState.daemonState s.server) (s.daemonOps codec op) =
      (s.built codec op).map (Snapshot.shown · name) := by
  cases op with
  | Turn env io => exact shown_turn codec env io s.server name
  | Poll reads => rfl
  | Ui op => rfl

end

/-- **What the user gets to see.**  In every run of the daemon from its start, and of a TUI that it
accepts at some time on a socket that works, with reads that end between characters: the states of a
VM in the snapshots that the TUI decodes follow each other as those that the daemon shows. -/
theorem seen_follows (codec : JsonCodec) (rootCfg : Option RootConfig) (global : List IpcEvent)
    (perVm : List IpcVmEvents) (world : W) (clients : List Client)
    (turns : List (TickEnv W × SocketIo)) (socket : ℕ) (ops : List (LinkOp W)) (name : String)
    (hfree : ∀ client ∈ (run (ServerState.apply codec)
      (.start (.new rootCfg global perVm) world clients) turns).clients, client.stream ≠ socket)
    (hops : Along (Link.step codec socket) (Smooth codec socket)
      (.afterTurns codec (.new rootCfg global perVm) world clients turns socket) ops) :
    let s : Link W := .afterTurns codec (.new rootCfg global perVm) world clients turns socket
    ((snapshotsOf (run (Link.step codec socket) s ops).tui.rx.decoded).map
      (Snapshot.shown · name)).IsChain fun before after => after ∈ before.follows := by
  intro s
  -- the daemon's own run, before and after it accepted the TUI
  let first := trace (ServerState.apply codec) (fun t op => turnOps codec op.1 op.2 t)
    (.start (.new rootCfg global perVm) world clients) turns
  let second := trace (Link.step codec socket) (Link.daemonOps codec) s ops
  have hturn : ∀ (t : ServerState W) (op : TickEnv W × SocketIo),
      ServerState.daemonState (t.apply codec op) =
        run DaemonState.apply (ServerState.daemonState t) (turnOps codec op.1 op.2 t) :=
    fun t op => turn_state op.1 op.2 t
  have hturns : ServerState.daemonState s.server =
      run DaemonState.apply (DaemonState.new rootCfg global perVm, world) first :=
    run_expand _ hturn _ turns
  have hchain := isChain_shows rootCfg global perVm world (first ++ second) name
  have hshown := trace_expand (fun t : Link W => ServerState.daemonState t.server)
    (step_daemon codec socket)
    (fun t op => shown_step codec t op name) s ops
  rw [trace_append, ← hturns, hshown, ← map_trace, ← List.cons_append] at hchain
  obtain ⟨onTheWay, -, hbuilt⟩ := snapshots_run (linked_afterTurns hfree) rfl hops
  have hseen := hchain.right_of_append
  rw [hbuilt, List.map_append] at hseen
  exact hseen.left_of_append

/-- The VM is seen to be stopped, and then to be starting. -/
theorem seen_follows_startA :
    ((snapshotsOf (run (Link.step linkCodec 7) linkStart linkOps).tui.rx.decoded).map
      (Snapshot.shown · "a")).IsChain fun before after => after ∈ before.follows :=
  seen_follows linkCodec _ [] [] () [] [] 7 linkOps "a" free_linkStart smooth_linkOps

end Chalybs.Tui
