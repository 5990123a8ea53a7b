import Chalybs.EndToEnd.Connection
import Chalybs.Tui.Session

/-!
# One connection, at the TUI

What the TUI makes of the snapshots on the socket, from the moment it has connected: it waits for
the first one in `connect_default`, and then shows the last one on every tick.

* `TuiEnd`, `TuiEnd.poll` — the TUI in its two loops.
* `Receives.drain` — what a call that drains the socket does to the snapshots on their way.
* `AtTui`, `AtTui.poll`, `AtTui.onTick`, `AtTui.step` — what each of its steps does.
-/

namespace Chalybs.Tui

open Foundation

/-! ## The TUI -/

/-- The TUI at its end of the connection. -/
inductive TuiEnd
  /-- In `connect_default`. -/
  | Waiting (rx : Rx DaemonBackend)
  /-- In the main loop. -/
  | Connected (session : Session)
  /-- With the mock backend, after an error. -/
  | GaveUp (rx : Rx DaemonBackend)
  deriving DecidableEq

namespace TuiEnd

def rx : TuiEnd → Rx DaemonBackend
  | .Waiting rx | .GaveUp rx => rx
  | .Connected session => session.rx

/-- A turn of the loop of `connect_default` before its deadline, and what comes after its last
one. -/
def poll (codec : JsonCodec) (rx : Rx DaemonBackend) (reads : List ReadResult) : TuiEnd :=
  let drained := DaemonBackend.drainSocket codec rx reads
  match drained.1 with
  | .error _ => .GaveUp drained.2.1
  | .ok () =>
      if drained.2.1.state.lastSnapshotVms.isEmpty then .Waiting drained.2.1
      else .Connected (.greet drained.2.1)

/-- **Connecting** is polling until there is a snapshot with VMs. -/
lemma connect_eq (codec : JsonCodec) {rx : Rx DaemonBackend} {calls : List (List ReadResult)}
    {rx' : Rx DaemonBackend} (h : Session.connectDefault codec rx calls = .ok rx') :
    ∃ pre reads post before, calls = pre ++ reads :: post ∧
      pre.foldl (fun tui reads => poll codec tui.rx reads) (.Waiting rx) = .Waiting before ∧
      poll codec before reads = .Connected (.greet rx') := by
  induction calls generalizing rx with
  | nil => cases h
  | cons reads calls ih =>
      simp only [Session.connectDefault] at h
      cases hdrained : (DaemonBackend.drainSocket codec rx reads).1 with
      | error err =>
          rw [hdrained] at h
          cases h
      | ok _ =>
          rw [hdrained] at h
          dsimp only at h
          split_ifs at h with hnone
          · obtain ⟨pre, last, post, before, rfl, hpre, hlast⟩ := ih h
            have hwaits : poll codec rx reads =
                .Waiting (DaemonBackend.drainSocket codec rx reads).2.1 := by
              simp only [poll, hdrained, hnone, if_true]
            refine ⟨reads :: pre, last, post, before, rfl, ?_, hlast⟩
            show pre.foldl _ (poll codec rx reads) = _
            rw [hwaits]
            exact hpre
          · obtain rfl := Except.ok.inj h
            refine ⟨[], reads, calls, rx, rfl, rfl, ?_⟩
            simp only [poll, hdrained, hnone, Bool.false_eq_true, if_false]

end TuiEnd

namespace Session

/-- The call of the backend that an operation makes. -/
def sendOp (s : Session) : SessionOp → Option SendOp
  | .SubmitShellCommand op => some op
  | .RequestVm verb json newline => s.vmCommand verb json newline
  | _ => none

/-- The command of that call. -/
def command (s : Session) (op : SessionOp) : Option String :=
  (s.sendOp op).bind fun send => commandLine send.command

/-- The bytes that it puts on the wire. -/
def written (codec : JsonCodec) (s : Session) (op : SessionOp) : List UInt8 :=
  ((s.sendOp op).map fun send => (Sender.send codec ⟨s.rx.state, []⟩ send).wire).getD []

/-- The operation makes no call, or its writes succeed and `serde_json` reads its command back. -/
def SendsWell (codec : JsonCodec) (s : Session) (op : SessionOp) : Prop :=
  ∀ send, s.sendOp op = some send →
    Sender.FaithfulOp codec send ∧ send.json = .Ok ∧ send.newline = .Ok

end Session

/-- The reads of an operation. -/
def SessionOp.reads : SessionOp → List ReadResult
  | .OnTick reads => reads
  | _ => []

/-! ## What the TUI makes of the snapshots -/

/-- What the line of a snapshot is decoded to. -/
def decodedAs (snapshot : Snapshot) : Except String IpcMessage := .ok (.Snapshot snapshot)

/-- The snapshots among decoded lines. -/
def snapshotsOf (decoded : List (Except String IpcMessage)) : List Snapshot :=
  decoded.filterMap fun
    | .ok (.Snapshot snapshot) => some snapshot
    | _ => none

/-- The VMs of the last of some snapshots. -/
def latestVms (snapshots : List Snapshot) : List VmStatus :=
  (snapshots.getLast?.map fun snapshot => snapshot.vms.map mapVmStatus).getD []

/-- The TUI has an open connection and the VMs of the last snapshot that it has decoded.  More
snapshots are on their way to it, all of so many VMs. -/
structure Receives (codec : JsonCodec) (n : ℕ) (rx : Rx DaemonBackend)
    (snapshots : List Snapshot) (unread : List UInt8) : Prop where
  isOpen : rx.state.connected = true
  carries : Carries codec (snapshots.map .Snapshot) rx.buffer unread
  counts : ∀ snapshot ∈ snapshotsOf rx.decoded ++ snapshots, snapshot.vms.length = n
  decoded : rx.decoded = (snapshotsOf rx.decoded).map decodedAs
  latest : rx.state.lastSnapshotVms = latestVms (snapshotsOf rx.decoded)

/-- In the main loop, the VMs of the last snapshot are shown; before it, there are none. -/
def TuiEnd.ShowsLatest : TuiEnd → Prop
  | .Waiting rx => rx.state.lastSnapshotVms = []
  | .Connected session =>
      session.app.vms = session.rx.state.lastSnapshotVms ∧ session.app.vms ≠ []
  | .GaveUp _ => False

/-- What holds of the TUI while some snapshots are on their way to it. -/
structure AtTui (codec : JsonCodec) (n : ℕ) (tui : TuiEnd) (snapshots : List Snapshot)
    (unread : List UInt8) : Prop where
  receives : Receives codec n tui.rx snapshots unread
  view : tui.ShowsLatest

section

variable {codec : JsonCodec} {n : ℕ} {rx : Rx DaemonBackend} {snapshots : List Snapshot}
  {unread : List UInt8}

lemma snapshotsOf_append (a b : List (Except String IpcMessage)) :
    snapshotsOf (a ++ b) = snapshotsOf a ++ snapshotsOf b := List.filterMap_append

lemma snapshotsOf_map (snapshots : List Snapshot) :
    snapshotsOf (snapshots.map decodedAs) = snapshots := by
  rw [snapshotsOf, List.filterMap_map]
  exact List.filterMap_some

/-- What the backend makes of some snapshots: it keeps the VMs of the last one. -/
lemma foldl_handle (snapshots : List Snapshot) (backend : DaemonBackend) :
    let after := (snapshots.map decodedAs).foldl DaemonBackend.handle backend
    after.connected = backend.connected ∧
      after.lastSnapshotVms =
        if snapshots = [] then backend.lastSnapshotVms else latestVms snapshots := by
  induction snapshots using List.reverseRecOn with
  | nil => exact ⟨rfl, rfl⟩
  | append_singleton pre last ih =>
      simp only [List.map_append, List.map_singleton, List.foldl_append, List.foldl_cons,
        List.foldl_nil]
      refine ⟨ih.1, ?_⟩
      simp [latestVms, DaemonBackend.handle, decodedAs]

/-- The latest VMs are those of a snapshot, if there is one. -/
lemma latestVms_append (a b : List Snapshot) :
    latestVms (a ++ b) = if b = [] then latestVms a else latestVms b := by
  rcases List.eq_nil_or_concat b with rfl | ⟨pre, last, rfl⟩
  · simp
  · simp [latestVms]

lemma length_latestVms (h : ∀ snapshot ∈ snapshots, snapshot.vms.length = n)
    (hne : snapshots ≠ []) : (latestVms snapshots).length = n := by
  rcases List.eq_nil_or_concat snapshots with rfl | ⟨pre, last, rfl⟩
  · exact absurd rfl hne
  · simpa [latestVms] using h last (by simp)

/-- **A call that drains the socket** decodes the first of the snapshots on their way. -/
lemma Receives.drain (h : Receives codec n rx snapshots unread) {reads : List ReadResult}
    (hreads : ReadsFrom reads unread) :
    ∃ front rest rx', snapshots = front ++ rest ∧
      DaemonBackend.drainSocket codec rx reads = (.ok (), rx', []) ∧
      snapshotsOf rx'.decoded = snapshotsOf rx.decoded ++ front ∧
      Receives codec n rx' rest (restAfter reads unread) := by
  obtain ⟨taken, left, buffer', hsplit, hdrain, hcarries⟩ :=
    h.carries.drain DaemonBackend.endpoint _ hreads h.isOpen
  obtain ⟨front, rest, rfl, rfl, rfl⟩ := List.map_eq_append_iff.mp hsplit
  have hmap : (front.map IpcMessage.Snapshot).map .ok = front.map decodedAs := List.map_map
  rw [hmap] at hdrain
  obtain ⟨hopen, hlatest⟩ := foldl_handle front rx.state
  have hdecoded : snapshotsOf (rx.decoded ++ front.map decodedAs) =
      snapshotsOf rx.decoded ++ front := by
    rw [snapshotsOf_append, snapshotsOf_map]
  refine ⟨front, rest, _, rfl, hdrain, hdecoded, hopen.trans h.isOpen, hcarries, ?_, ?_, ?_⟩
  · simp only [hdecoded, List.append_assoc]
    exact h.counts
  · simp only [hdecoded, List.map_append, ← h.decoded]
  · simp only [hdecoded, latestVms_append, ← h.latest]
    exact hlatest

/-- Only the connection and the VMs of the backend matter. -/
lemma Receives.of_backend (h : Receives codec n rx snapshots unread) {backend : DaemonBackend}
    (hopen : backend.connected = rx.state.connected)
    (hvms : backend.lastSnapshotVms = rx.state.lastSnapshotVms) :
    Receives codec n { rx with state := backend } snapshots unread where
  isOpen := hopen.trans h.isOpen
  carries := h.carries
  counts := h.counts
  decoded := h.decoded
  latest := hvms.trans h.latest

/-- There are VMs once a snapshot with VMs was decoded, and always as many. -/
lemma Receives.length_vms (h : Receives codec n rx snapshots unread)
    (hsome : rx.state.lastSnapshotVms ≠ []) : rx.state.lastSnapshotVms.length = n := by
  rw [h.latest] at hsome ⊢
  refine length_latestVms (fun snapshot hmem => h.counts snapshot (by simp [hmem])) ?_
  intro hnone
  exact hsome (by rw [hnone]; rfl)

lemma vms_pushEvents (app : App) (newEvents : List AppEvent) :
    (app.pushEvents newEvents).vms = app.vms := by
  obtain ⟨health, cleanRuns, hupdate⟩ := app.updateDaemonHealth_eq newEvents
  simp only [App.pushEvents, hupdate]
  split_ifs <;> rfl

lemma vms_apply (app : App) (op : AppOp) : (app.apply op).vms = app.vms := by
  cases op with
  | PushEvents newEvents => exact vms_pushEvents app newEvents
  | LockEventsScroll => rfl
  | UnlockEventsScroll => rfl
  | ScrollEventsUp lines =>
      simp only [App.apply, App.scrollEventsUp]
      split_ifs <;> rfl
  | ScrollEventsDown lines =>
      simp only [App.apply, App.scrollEventsDown]
      split_ifs <;> rfl
  | SelectNextVm =>
      simp only [App.apply, App.selectNextVm]
      split_ifs <;> rfl
  | SelectPreviousVm =>
      simp only [App.apply, App.selectPreviousVm]
      split_ifs <;> rfl

/-- **A poll** decodes the first of the snapshots on their way, and starts the main loop with the
last one. -/
lemma AtTui.poll (h : AtTui codec n (.Waiting rx) snapshots unread) {reads : List ReadResult}
    (hreads : ReadsFrom reads unread) :
    ∃ front rest, snapshots = front ++ rest ∧
      snapshotsOf (TuiEnd.poll codec rx reads).rx.decoded = snapshotsOf rx.decoded ++ front ∧
      AtTui codec n (.poll codec rx reads) rest (restAfter reads unread) := by
  have hrx : Receives codec n rx snapshots unread := h.receives
  obtain ⟨front, rest, rx', hsplit, hdrain, hdecoded, hreceives⟩ := hrx.drain hreads
  refine ⟨front, rest, hsplit, ?_⟩
  rw [TuiEnd.poll, hdrain]
  dsimp only
  split_ifs with hnone
  · exact ⟨hdecoded, hreceives, List.isEmpty_iff.mp hnone⟩
  · refine ⟨hdecoded, hreceives, vms_pushEvents _ _, ?_⟩
    rw [Session.greet, vms_pushEvents]
    exact fun h => hnone (List.isEmpty_iff.mpr h)

/-- **A tick** decodes the first of the snapshots on their way, and shows the last one. -/
lemma AtTui.onTick {session : Session}
    (h : AtTui codec n (.Connected session) snapshots unread) {reads : List ReadResult}
    (hreads : ReadsFrom reads unread) :
    ∃ front rest, snapshots = front ++ rest ∧
      snapshotsOf (session.onTick codec reads).rx.decoded =
        snapshotsOf session.rx.decoded ++ front ∧
      AtTui codec n (.Connected (session.onTick codec reads)) rest (restAfter reads unread) := by
  obtain ⟨hvms, hsome⟩ := h.view
  have hrx : Receives codec n session.rx snapshots unread := h.receives
  obtain ⟨front, rest, rx', hsplit, hdrain, hdecoded, hreceives⟩ := hrx.drain hreads
  -- the VMs that are shown are replaced, since there are as many
  have hold := hrx.length_vms (hvms ▸ hsome)
  have hsome' : rx'.state.lastSnapshotVms ≠ [] := by
    rw [hreceives.latest, hdecoded, latestVms_append]
    split_ifs with hfront
    · rw [← hrx.latest]
      exact hvms ▸ hsome
    · have hcount : (latestVms front).length = n :=
        length_latestVms (fun snapshot hmem => hreceives.counts snapshot (by
          simp [hdecoded, hmem])) hfront
      refine List.ne_nil_of_length_pos ?_
      rw [hcount, ← hold]
      exact List.length_pos_of_ne_nil (hvms ▸ hsome)
  have hnew := hreceives.length_vms hsome'
  have hempty : rx'.state.lastSnapshotVms.isEmpty = false := by simpa using hsome'
  have hrefresh : session.refresh codec reads = (rx', rx'.state.lastSnapshotVms, rx'.state) := by
    simp only [Session.refresh, hdrain, DaemonBackend.refreshStatus, DaemonBackend.reportDrain,
      hempty, Bool.false_eq_true, if_false, hvms, hold, hnew, if_true]
  refine ⟨front, rest, hsplit, ?_⟩
  simp only [Session.onTick, hrefresh, DaemonBackend.pollEvents]
  refine ⟨hdecoded, hreceives.of_backend rfl rfl, vms_pushEvents _ _, ?_⟩
  rw [vms_pushEvents]
  exact hsome'

/-! ## What the TUI sends -/

/-- A call whose writes succeed leaves the backend as it is, and puts the line of its command on the
wire, if it has one. -/
lemma send_ok {backend : DaemonBackend} (hopen : backend.connected = true) {send : SendOp}
    (hjson : send.json = .Ok) (hnewline : send.newline = .Ok) :
    Sender.send codec ⟨backend, []⟩ send =
      ⟨backend, (commandLine send.command).toList.flatMap (commandBytes codec)⟩ := by
  cases hcommand : commandLine send.command with
  | none => exact Sender.send_blank hcommand
  | some command =>
      rw [Sender.send_completes codec hopen hcommand hjson hnewline]
      simp [commandBytes, JsonCodec.payload, commandJson, toUtf8_append]
      rfl

variable {session : Session}

/-- A command that is forwarded changes nothing else of the TUI. -/
lemma AtTui.forward (h : AtTui codec n (.Connected session) snapshots unread) {send : SendOp}
    (hjson : send.json = .Ok) (hnewline : send.newline = .Ok) :
    (session.forward codec send).rx = session.rx ∧
      AtTui codec n (.Connected (session.forward codec send)) snapshots unread := by
  have hrx : Receives codec n session.rx snapshots unread := h.receives
  obtain ⟨hvms, hsome⟩ := h.view
  have hbackend : ((Sender.handleShellCommand codec ⟨session.rx.state, []⟩ send).2).backend =
      session.rx.state := congrArg Sender.backend (send_ok hrx.isOpen hjson hnewline)
  have hsame : (session.forward codec send).rx = session.rx := by
    simp only [Session.forward, hbackend]
  have happ : (session.forward codec send).app.vms = session.app.vms := vms_pushEvents _ _
  refine ⟨hsame, ?_, ?_⟩
  · show Receives codec n (session.forward codec send).rx snapshots unread
    rw [hsame]
    exact hrx
  · show _ = (session.forward codec send).rx.state.lastSnapshotVms ∧ _
    rw [hsame, happ]
    exact ⟨hvms, hsome⟩

/-- **The other operations** decode nothing, and what they write is the command of their call. -/
lemma AtTui.step (h : AtTui codec n (.Connected session) snapshots unread) {op : SessionOp}
    (hop : ∀ reads, op ≠ .OnTick reads) (hsend : session.SendsWell codec op) :
    session.written codec op = (session.command op).toList.flatMap (commandBytes codec) ∧
      (session.step codec op).rx = session.rx ∧
      AtTui codec n (.Connected (session.step codec op)) snapshots unread := by
  have hrx : Receives codec n session.rx snapshots unread := h.receives
  have hwritten : session.written codec op =
      (session.command op).toList.flatMap (commandBytes codec) := by
    cases hcall : session.sendOp op with
    | none => simp [Session.written, Session.command, hcall]
    | some send =>
        obtain ⟨-, hjson, hnewline⟩ := hsend send hcall
        simp [Session.written, Session.command, hcall, send_ok hrx.isOpen hjson hnewline]
  refine ⟨hwritten, ?_⟩
  cases op with
  | OnTick reads => exact absurd rfl (hop reads)
  | SubmitShellCommand send =>
      obtain ⟨-, hjson, hnewline⟩ := hsend send rfl
      rw [Session.step]
      split_ifs
      · exact ⟨rfl, h⟩
      · exact h.forward hjson hnewline
  | RequestVm verb json newline =>
      cases hcall : session.vmCommand verb json newline with
      | none =>
          simp only [Session.step, hcall]
          exact ⟨trivial, h⟩
      | some send =>
          obtain ⟨-, hjson, hnewline⟩ := hsend send hcall
          simp only [Session.step, hcall]
          exact h.forward hjson hnewline
  | App op =>
      obtain ⟨hvms, hsome⟩ := h.view
      have happ : (session.app.apply op).vms = session.app.vms := vms_apply _ op
      exact ⟨rfl, hrx, happ.trans hvms, happ ▸ hsome⟩

end

end Chalybs.Tui
