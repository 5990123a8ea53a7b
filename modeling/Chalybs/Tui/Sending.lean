import Chalybs.Foundation.Lists
import Chalybs.Foundation.Run
import Chalybs.Tui.Backend

/-!
# Commands on the wire

`handle_shell_command` (`tui/src/app.rs`) sends a command in two writes to a socket that does not
block: the JSON, and the end of the line.  A write that fails may have put part of its bytes on the
wire; the connection is used again all the same.

* `Sender.handleShellCommand`, `Sender.send_cases` — one call, and all that it can do.
* `lines_run` — the lines that the calls of a run end, each with what precedes the command in it.
* `unreported_received_iff` — when the daemon receives the commands whose calls record no error.
-/

namespace Chalybs.Tui

open Foundation

/-! ## Sending -/

/-- What `write_all` returns.  One that fails has written so many of the bytes, but never all. -/
inductive WriteAll
  | Ok
  | Err (written : ℕ) (error : String)
  deriving DecidableEq, Repr

/-- The bytes that are put on the wire. -/
def WriteAll.written (bytes : List UInt8) : WriteAll → List UInt8
  | .Ok => bytes
  | .Err n _ => bytes.dropLast.take n

/-- A call, with the outcomes of the two writes that it may make. -/
structure SendOp where
  command : String
  json : WriteAll
  newline : WriteAll
  deriving DecidableEq, Repr

/-- The backend, and what it has put on the wire. -/
structure Sender where
  backend : DaemonBackend
  wire : List UInt8
  deriving DecidableEq, Repr

/-- The command in a command line; a blank line has none. -/
def commandLine (command : String) : Option String :=
  let command := trim command.toList
  if command.isEmpty then none else some (String.ofList command)

/-- The JSON that a command is sent as. -/
def commandJson (codec : JsonCodec) (command : String) : List Char :=
  (codec.toString (.ShellCommand command)).toList

namespace Sender

/-- `handle_shell_command`, with the events that it returns. -/
def handleShellCommand (codec : JsonCodec) (s : Sender) (op : SendOp) : List AppEvent × Sender :=
  match commandLine op.command with
  | none => ([], s)
  | some command =>
      if ¬ s.backend.connected then ([], s)
      else
        let wire := s.wire ++ op.json.written (toUtf8 (commandJson codec command))
        match op.json with
        | .Err _ e =>
            ([], ⟨s.backend.push .Error s!"chalybs-tui: failed to send shell command: {e}", wire⟩)
        | .Ok =>
            let wire := wire ++ op.newline.written [lineEnd]
            match op.newline with
            | .Err _ e =>
                ([], ⟨s.backend.push .Error s!"chalybs-tui: failed to send newline: {e}", wire⟩)
            | .Ok => ([], ⟨s.backend, wire⟩)

/-- What a call leaves. -/
def send (codec : JsonCodec) (s : Sender) (op : SendOp) : Sender :=
  (s.handleShellCommand codec op).2

/-- The command of a call, if the call records no error. -/
def unreported (codec : JsonCodec) (s : Sender) (op : SendOp) : List String :=
  if (s.send codec op).backend.pendingEvents = s.backend.pendingEvents
  then (commandLine op.command).toList
  else []

/-- The last byte on the wire, if there is one, ends a line. -/
def AtLineStart (s : Sender) : Prop := s.wire = [] ∨ s.wire.getLast? = some lineEnd

end Sender

/-- There is a command, and both writes succeed. -/
def SendOp.Completes (op : SendOp) : Prop :=
  commandLine op.command ≠ none ∧ op.json = .Ok ∧ op.newline = .Ok

instance (s : Sender) : Decidable s.AtLineStart :=
  inferInstanceAs (Decidable (s.wire = [] ∨ s.wire.getLast? = some lineEnd))

instance (op : SendOp) : Decidable op.Completes :=
  inferInstanceAs (Decidable (commandLine op.command ≠ none ∧ op.json = .Ok ∧ op.newline = .Ok))

/-- No line ends in the first read that does not consist of whole characters, or after it. -/
def KeepsLines (reads : List (List UInt8)) : Prop :=
  lineEnd ∉ (reads.dropWhile fun read => decide (IsText read)).flatten

instance (reads : List (List UInt8)) : Decidable (KeepsLines reads) :=
  inferInstanceAs (Decidable
    (lineEnd ∉ (reads.dropWhile fun read => decide (IsText read)).flatten))

namespace Sender

variable {codec : JsonCodec} {s : Sender} {op : SendOp} {command : String}

/-! ## One call -/

lemma send_blank (h : commandLine op.command = none) : s.send codec op = s := by
  simp [send, handleShellCommand, h]

lemma send_closed (h : s.backend.connected = false) : s.send codec op = s := by
  cases hcommand : commandLine op.command with
  | none => exact send_blank hcommand
  | some command => simp [send, handleShellCommand, hcommand, h]

/-- A call whose writes succeed puts a line on the wire, -/
lemma send_completes (codec : JsonCodec) (hopen : s.backend.connected = true)
    (hcommand : commandLine op.command = some command) (hjson : op.json = .Ok)
    (hnewline : op.newline = .Ok) :
    s.send codec op = ⟨s.backend, s.wire ++ toUtf8 (commandJson codec command) ++ [lineEnd]⟩ := by
  simp [send, handleShellCommand, hcommand, hopen, hjson, hnewline, WriteAll.written]

/-- and one of whose writes fails puts some of the JSON there and records an error. -/
lemma send_fails (codec : JsonCodec) (hopen : s.backend.connected = true)
    (hcommand : commandLine op.command = some command) (hop : ¬ op.Completes) :
    ∃ part message, part <+: toUtf8 (commandJson codec command) ∧
      s.send codec op = ⟨s.backend.push .Error message, s.wire ++ part⟩ := by
  cases hjson : op.json with
  | Err n e =>
      refine ⟨(WriteAll.Err n e).written (toUtf8 (commandJson codec command)),
        s!"chalybs-tui: failed to send shell command: {e}",
        (List.take_prefix _ _).trans (List.dropLast_prefix _), ?_⟩
      simp only [send, handleShellCommand, hcommand, hopen, hjson, not_true_eq_false, if_false]
  | Ok =>
      cases hnewline : op.newline with
      | Err n e =>
          refine ⟨toUtf8 (commandJson codec command), s!"chalybs-tui: failed to send newline: {e}",
            List.prefix_rfl, ?_⟩
          simp only [send, handleShellCommand, hcommand, hopen, hjson, hnewline, not_true_eq_false,
            if_false, WriteAll.written, List.dropLast_singleton, List.take_nil, List.append_nil]
      | Ok => exact absurd ⟨by simp [hcommand], hjson, hnewline⟩ hop

/-- **All that a call on an open connection can do**: nothing, without a command; a part of the
JSON, with an error; or a whole line. -/
theorem send_cases (codec : JsonCodec) (hopen : s.backend.connected = true) (op : SendOp) :
    (commandLine op.command = none ∧ s.send codec op = s ∧ unreported codec s op = []) ∨
      (∃ command part message, commandLine op.command = some command ∧ ¬ op.Completes ∧
        part <+: toUtf8 (commandJson codec command) ∧
        s.send codec op = ⟨s.backend.push .Error message, s.wire ++ part⟩ ∧
        unreported codec s op = []) ∨
      ∃ command, commandLine op.command = some command ∧ op.Completes ∧
        s.send codec op = ⟨s.backend, s.wire ++ toUtf8 (commandJson codec command) ++ [lineEnd]⟩ ∧
        unreported codec s op = [command] := by
  cases hcommand : commandLine op.command with
  | none => exact .inl ⟨rfl, send_blank hcommand, by simp [unreported, hcommand]⟩
  | some command =>
      by_cases hop : op.Completes
      · have hsend := send_completes codec hopen hcommand hop.2.1 hop.2.2
        exact .inr (.inr ⟨command, rfl, hop, hsend, by simp [unreported, hsend, hcommand]⟩)
      · obtain ⟨part, message, hpart, hsend⟩ := send_fails codec hopen hcommand hop
        refine .inr (.inl ⟨command, part, message, rfl, hop, hpart, hsend, ?_⟩)
        rw [unreported, hsend, if_neg]
        simp [DaemonBackend.push]

/-- A call returns no events, and those that it records come after the others. -/
lemma handleShellCommand_appends (codec : JsonCodec) (s : Sender) (op : SendOp) :
    (s.handleShellCommand codec op).1 = [] ∧
      ∃ events, (s.send codec op).backend.pendingEvents = s.backend.pendingEvents ++ events := by
  constructor
  · rw [handleShellCommand]
    split
    · rfl
    · split_ifs
      · cases op.json with
        | Err n e => rfl
        | Ok =>
            cases op.newline with
            | Err n e => rfl
            | Ok => rfl
      · rfl
  · cases hopen : s.backend.connected with
    | false => exact ⟨[], by rw [send_closed hopen, List.append_nil]⟩
    | true =>
        rcases send_cases codec hopen op with ⟨-, hsend, -⟩ | ⟨_, _, _, -, -, -, hsend, -⟩ |
          ⟨_, -, -, hsend, -⟩
        · exact ⟨[], by rw [hsend, List.append_nil]⟩
        · exact ⟨_, by rw [hsend]; rfl⟩
        · exact ⟨[], by rw [hsend, List.append_nil]⟩

lemma connected_send (hopen : s.backend.connected = true) :
    (s.send codec op).backend.connected = true := by
  rcases send_cases codec hopen op with ⟨-, hsend, -⟩ | ⟨_, _, _, -, -, -, hsend, -⟩ |
    ⟨_, -, -, hsend, -⟩
  all_goals
    rw [hsend]
    exact hopen

/-! ## Without a connection -/

lemma run_closed (h : s.backend.connected = false) (ops : List SendOp) :
    run (send codec) s ops = s := by
  induction ops with
  | nil => rfl
  | cons op ops ih => rw [run_cons, send_closed h, ih]

/-- No error is recorded for any command. -/
lemma trace_closed_eq_nil_iff (h : s.backend.connected = false) (ops : List SendOp) :
    trace (send codec) (unreported codec) s ops = [] ↔
      ∀ op ∈ ops, commandLine op.command = none := by
  induction ops with
  | nil => exact iff_of_true rfl fun _ h => absurd h List.not_mem_nil
  | cons op ops ih =>
      rw [trace, List.append_eq_nil_iff, List.forall_mem_cons, unreported, send_closed h,
        if_pos rfl, ih, Option.toList_eq_nil_iff]

/-! ## The lines on the wire -/

/-- The command of a call that records no error, and what precedes it on its line. -/
def sentLine (codec : JsonCodec) (s : Sender) (op : SendOp) : List (List UInt8 × String) :=
  (unreported codec s op).map fun command => ((cutLines lineEnd s.wire).2, command)

/-- The bytes of such a line. -/
def lineBytes (codec : JsonCodec) (line : List UInt8 × String) : List UInt8 :=
  line.1 ++ toUtf8 (commandJson codec line.2)

/-- It is empty, or begins like an object. -/
def StartsObject (bytes : List UInt8) : Prop := bytes = [] ∨ bytes.head? = some 0x7b

/-- The messages of a call are what `serde_json` is documented to make of them. -/
def FaithfulOp (codec : JsonCodec) (op : SendOp) : Prop :=
  ∀ command, commandLine op.command = some command → codec.Faithful (.ShellCommand command)

lemma startsObject_part {part : List UInt8} (h : codec.Faithful (.ShellCommand command))
    (hpart : part <+: toUtf8 (commandJson codec command)) : StartsObject part := by
  obtain ⟨body, hbody⟩ := h.object
  rw [commandJson, hbody, List.cons_append, toUtf8_cons] at hpart
  rcases List.prefix_cons_iff.mp hpart with rfl | ⟨rest, rfl, -⟩
  · exact .inl rfl
  · exact .inr rfl

lemma StartsObject.append {front part : List UInt8} (hfront : StartsObject front)
    (hpart : StartsObject part) : StartsObject (front ++ part) := by
  rcases hfront with rfl | hfront
  · exact hpart
  · exact .inr (by rw [List.head?_append, hfront, Option.some_or])

/-- **What a call does to the lines on the wire**: it ends one for its command if it records no
error, and it may leave something that begins like an object in the last one. -/
lemma cutLines_send (hopen : s.backend.connected = true) (hfaithful : FaithfulOp codec op)
    (hrest : StartsObject (cutLines lineEnd s.wire).2) :
    (cutLines lineEnd (s.send codec op).wire).1 =
        (cutLines lineEnd s.wire).1 ++ (sentLine codec s op).map (lineBytes codec) ∧
      StartsObject (cutLines lineEnd (s.send codec op).wire).2 := by
  rcases send_cases codec hopen op with ⟨-, hsend, hreport⟩ |
    ⟨command, part, _, hcommand, -, hpart, hsend, hreport⟩ | ⟨command, hcommand, -, hsend, hreport⟩
  · rw [hsend, sentLine, hreport]
    exact ⟨by simp, hrest⟩
  · have hjson : lineEnd ∉ toUtf8 (commandJson codec command) :=
      lineEnd_notMem_toUtf8 (hfaithful command hcommand).oneLine
    have hline : lineEnd ∉ (cutLines lineEnd s.wire).2 ++ part := by
      rw [List.mem_append, not_or]
      exact ⟨not_mem_cutLines_snd _ _, fun h => hjson (hpart.subset h)⟩
    rw [hsend, sentLine, hreport, cutLines_append, cutLines_of_not_mem hline]
    exact ⟨by simp, hrest.append (startsObject_part (hfaithful command hcommand) hpart)⟩
  · have hjson : lineEnd ∉ toUtf8 (commandJson codec command) :=
      lineEnd_notMem_toUtf8 (hfaithful command hcommand).oneLine
    have hline : lineEnd ∉ (cutLines lineEnd s.wire).2 ++ toUtf8 (commandJson codec command) := by
      rw [List.mem_append, not_or]
      exact ⟨not_mem_cutLines_snd _ _, hjson⟩
    rw [hsend, sentLine, hreport, List.append_assoc, cutLines_append, ← List.append_assoc,
      cutLines_line hline]
    exact ⟨rfl, .inl rfl⟩

/-- A call on an open connection is made at a line start, if it must be, exactly when nothing
precedes its command. -/
lemma atLineStart_iff (hopen : s.backend.connected = true) :
    (op.Completes → s.AtLineStart) ↔ ∀ line ∈ sentLine codec s op, line.1 = [] := by
  have hrest : (cutLines lineEnd s.wire).2 = [] ↔ s.wire = [] ∨ s.wire.getLast? = some lineEnd :=
    cutLines_snd_eq_nil_iff
  rcases send_cases codec hopen op with ⟨hcommand, -, hreport⟩ | ⟨_, _, _, -, hop, -, -, hreport⟩ |
    ⟨command, -, hop, -, hreport⟩
  · simp [sentLine, hreport, SendOp.Completes, hcommand]
  · simp [sentLine, hreport, hop]
  · simp [sentLine, hreport, hop, AtLineStart, hrest]

/-- The commands of the lines are those whose calls record no error. -/
lemma map_snd_sentLine (s : Sender) (ops : List SendOp) :
    (trace (send codec) (sentLine codec) s ops).map Prod.snd =
      trace (send codec) (unreported codec) s ops := by
  rw [map_trace]
  simp only [sentLine, List.map_map, Function.comp_def, List.map_id']

/-- **The lines on the wire** after a run are those that its calls end. -/
theorem lines_run (hopen : s.backend.connected = true)
    (hrest : StartsObject (cutLines lineEnd s.wire).2) {ops : List SendOp}
    (hfaithful : ∀ op ∈ ops, FaithfulOp codec op) :
    (cutLines lineEnd (run (send codec) s ops).wire).1 =
      (cutLines lineEnd s.wire).1 ++
        (trace (send codec) (sentLine codec) s ops).map (lineBytes codec) := by
  induction ops generalizing s with
  | nil => exact (List.append_nil _).symm
  | cons op ops ih =>
      obtain ⟨hop, hops⟩ := List.forall_mem_cons.mp hfaithful
      obtain ⟨hlines, hrest'⟩ := cutLines_send hopen hop hrest
      rw [run_cons, ih (connected_send hopen) hrest' hops, hlines, trace, List.map_append,
        List.append_assoc]

/-- The line of a call: its command is that of the call, and what precedes it begins like an
object. -/
lemma of_mem_trace (hopen : s.backend.connected = true)
    (hrest : StartsObject (cutLines lineEnd s.wire).2) {ops : List SendOp}
    (hfaithful : ∀ op ∈ ops, FaithfulOp codec op) {line : List UInt8 × String}
    (hline : line ∈ trace (send codec) (sentLine codec) s ops) :
    StartsObject line.1 ∧ ∃ op ∈ ops, commandLine op.command = some line.2 := by
  induction ops generalizing s with
  | nil => exact absurd hline List.not_mem_nil
  | cons op ops ih =>
      obtain ⟨hop, hops⟩ := List.forall_mem_cons.mp hfaithful
      rw [trace, List.mem_append] at hline
      rcases hline with hline | hline
      · rw [sentLine, List.mem_map] at hline
        obtain ⟨command, hcommand, rfl⟩ := hline
        refine ⟨hrest, op, List.mem_cons_self, ?_⟩
        rw [unreported] at hcommand
        split_ifs at hcommand
        · exact Option.mem_toList.mp hcommand
        · exact absurd hcommand List.not_mem_nil
      · obtain ⟨hstart, op', hop', hcommand⟩ :=
          ih (connected_send hopen) (cutLines_send hopen hop hrest).2 hops hline
        exact ⟨hstart, op', List.mem_cons_of_mem _ hop', hcommand⟩

/-- Nothing precedes a command exactly when every call that must be made at a line start is. -/
lemma along_atLineStart_iff (hopen : s.backend.connected = true) (ops : List SendOp) :
    Along (send codec) (fun s op => op.Completes → s.AtLineStart) s ops ↔
      ∀ line ∈ trace (send codec) (sentLine codec) s ops, line.1 = [] := by
  induction ops generalizing s with
  | nil => exact iff_of_true (along_nil _ s) fun _ h => absurd h List.not_mem_nil
  | cons op ops ih =>
      rw [along_cons, trace, List.forall_mem_append, ih (connected_send hopen),
        ← atLineStart_iff hopen]

end Sender

/-! ## The daemon -/

section

variable {codec : JsonCodec} {command : String}

/-- The command that a line is decoded to. -/
def commandOf : Except String IpcMessage → Option String
  | .ok (.ShellCommand command) => some command
  | _ => none

/-- The command that a line is read as. -/
def lineCommand (codec : JsonCodec) (raw : List Char) : Option String :=
  (codec.decodeLine raw).bind commandOf

lemma commands_foldl (pending : PendingShell) (messages : List (Except String IpcMessage)) :
    (messages.foldl PendingShell.handle pending).commands =
      pending.commands ++ messages.filterMap commandOf := by
  induction messages generalizing pending with
  | nil => exact (List.append_nil _).symm
  | cons message messages ih =>
      rw [List.foldl_cons, ih]
      rcases message with err | command | snapshot
      · rfl
      · rw [List.filterMap_cons_some (f := commandOf) (b := command) rfl]
        simp [PendingShell.handle]
      · rfl

lemma lineCommand_json (h : codec.Faithful (.ShellCommand command)) :
    lineCommand codec (commandJson codec command) = some command := by
  rw [lineCommand, commandJson, decodeLine_toString h]
  rfl

/-- With something before it, the JSON of a command is not read as the command. -/
lemma lineCommand_front (h : codec.Faithful (.ShellCommand command))
    (halone : codec.Alone (.ShellCommand command)) {front : List Char}
    (hfront : front.head? = some '{') :
    lineCommand codec (front ++ commandJson codec command) ≠ some command := by
  have hread := halone front hfront
  obtain ⟨body, hbody⟩ := h.object
  obtain ⟨front, rfl⟩ : ∃ rest, front = '{' :: rest := by
    cases front with
    | nil => cases hfront
    | cons c rest => exact ⟨rest, by rw [Option.some.inj hfront]⟩
  have hline : '{' :: front ++ commandJson codec command =
      '{' :: (front ++ '{' :: body) ++ ['}'] := by
    rw [commandJson, hbody]
    simp
  intro hcommand
  rw [lineCommand, JsonCodec.decodeLine, hline, trim_object, ← hline] at hcommand
  simp only [List.cons_append, List.isEmpty_cons, Bool.false_eq_true, if_false,
    Option.bind_some] at hcommand
  refine hread ?_
  revert hcommand
  rw [commandJson, List.cons_append]
  generalize codec.fromStr _ = message
  rcases message with err | found | snapshot
  · exact fun h => absurd h (by simp [commandOf])
  · exact fun h => by rw [Option.some.inj h]
  · exact fun h => absurd h (by simp [commandOf])

/-- A line is read as its command exactly when nothing precedes it. -/
lemma lineCommand_iff (h : codec.Faithful (.ShellCommand command))
    (halone : codec.Alone (.ShellCommand command)) {before : List UInt8}
    (hbefore : Sender.StartsObject before) {raw : List Char}
    (hraw : toUtf8 raw = Sender.lineBytes codec (before, command)) :
    lineCommand codec raw = some command ↔ before = [] := by
  obtain ⟨body, hbody⟩ := h.object
  have hjson : commandJson codec command = '{' :: (body ++ ['}']) := hbody
  rw [Sender.lineBytes, hjson] at hraw
  obtain ⟨front, rfl, rfl⟩ := exists_text_before (b := 0x7b) (by decide) (by decide) hraw
  rw [← hjson]
  cases front with
  | nil => exact iff_of_true (lineCommand_json h) rfl
  | cons c front =>
      have hne : toUtf8 (c :: front) ≠ [] := by
        intro hnil
        rw [toUtf8_cons, List.append_eq_nil_iff] at hnil
        exact String.utf8EncodeChar_ne_nil hnil.1
      refine iff_of_false (lineCommand_front h halone ?_) hne
      have hhead := hbefore.resolve_left hne
      rw [toUtf8_cons, List.head?_append_of_ne_nil _ String.utf8EncodeChar_ne_nil] at hhead
      have hc := utf8EncodeChar_of_mem (by decide) (List.mem_of_mem_head? hhead)
      have hbrace : String.utf8EncodeChar c = String.utf8EncodeChar '{' := hc.trans (by decide)
      rw [List.head?_cons, utf8EncodeChar_injective hbrace]

/-- The lines that were received are read as the commands of all lines on the wire exactly when they
are all the lines and nothing precedes a command in them. -/
lemma forall₂_lineCommand_iff {lines : List (List UInt8 × String)} {raws : List (List Char)}
    {more : List (List UInt8)}
    (hlines : lines.map (Sender.lineBytes codec) = raws.map toUtf8 ++ more)
    (hline : ∀ line ∈ lines, codec.Faithful (.ShellCommand line.2) ∧
      codec.Alone (.ShellCommand line.2) ∧ Sender.StartsObject line.1) :
    List.Forall₂ (fun raw line => lineCommand codec raw = some line.2) raws lines ↔
      more = [] ∧ ∀ line ∈ lines, line.1 = [] := by
  induction lines generalizing raws with
  | nil =>
      obtain ⟨hraws, hmore⟩ := List.append_eq_nil_iff.mp hlines.symm
      obtain rfl := List.map_eq_nil_iff.mp hraws
      exact iff_of_true .nil ⟨hmore, fun _ h => absurd h List.not_mem_nil⟩
  | cons line lines ih =>
      obtain ⟨⟨hfaithful, halone, hstart⟩, hrest⟩ := List.forall_mem_cons.mp hline
      cases raws with
      | nil =>
          refine iff_of_false (fun h => by cases h) ?_
          rintro ⟨rfl, -⟩
          exact absurd hlines (by simp)
      | cons raw raws =>
          rw [List.map_cons, List.map_cons, List.cons_append, List.cons.injEq] at hlines
          obtain ⟨hraw, hraws⟩ := hlines
          rw [List.forall₂_cons, ih hraws hrest, lineCommand_iff hfaithful halone hstart hraw.symm,
            List.forall_mem_cons, and_left_comm]

/-- So the commands that are received are those of all lines under the same condition. -/
lemma filterMap_lineCommand_iff {lines : List (List UInt8 × String)} {raws : List (List Char)}
    {more : List (List UInt8)}
    (hlines : lines.map (Sender.lineBytes codec) = raws.map toUtf8 ++ more)
    (hline : ∀ line ∈ lines, codec.Faithful (.ShellCommand line.2) ∧
      codec.Alone (.ShellCommand line.2) ∧ Sender.StartsObject line.1) :
    raws.filterMap (lineCommand codec) = lines.map Prod.snd ↔
      more = [] ∧ ∀ line ∈ lines, line.1 = [] := by
  have hlength : raws.length ≤ (lines.map Prod.snd).length := by
    have hsum := congrArg List.length hlines
    simp only [List.length_map, List.length_append] at hsum ⊢
    omega
  rw [filterMap_eq_iff_forall₂ hlength, List.forall₂_map_right_iff]
  exact forall₂_lineCommand_iff hlines hline

/-- The commands that the daemon has received, after reads of what is on the wire. -/
lemma exists_text_served (codec : JsonCodec) (pending : PendingShell)
    {calls : List (List (List UInt8))} (hsize : ∀ read ∈ calls.flatten, 0 < read.length) :
    ∃ text, toUtf8 text = (calls.flatten.takeWhile fun read => decide (IsText read)).flatten ∧
      (daemonEndpoint.serve codec calls.length ⟨[], [], pending⟩
          (schedule calls)).2.1.state.commands =
        pending.commands ++ (cutLines '\n' text).1.filterMap (lineCommand codec) := by
  have hne : ∀ read ∈ calls.flatten, read ≠ [] :=
    fun read hread => List.ne_nil_of_length_pos (hsize read hread)
  obtain ⟨text, htext, hserve⟩ := Endpoint.serve_of_drops daemonEndpoint codec
    (fun _ => rfl) ⟨[], [], pending⟩ hne List.not_mem_nil rfl
  refine ⟨text, htext, ?_⟩
  rw [hserve]
  simp only [Rx.receive, List.nil_append, daemonEndpoint, commands_foldl, List.filterMap_filterMap]
  rfl

/-- **Commands without an error.**  For every sequence of calls and all outcomes of their writes,
and every way in which the daemon reads what is on the wire, 1 to 4096 bytes at a time: it receives
the commands of the calls that record no error, each once and unaltered, exactly when there is a
connection, or no command; every call both of whose writes succeed is made at a line start; and no
line ends in a read that does not consist of whole characters, or after one. -/
theorem unreported_received_iff (codec : JsonCodec) (backend : DaemonBackend) (ops : List SendOp)
    (pending : PendingShell) (calls : List (List (List UInt8)))
    (hfaithful : ∀ op ∈ ops, Sender.FaithfulOp codec op)
    (halone : ∀ op ∈ ops, ∀ command, commandLine op.command = some command →
      codec.Alone (.ShellCommand command))
    (hsize : ∀ read ∈ calls.flatten, 0 < read.length ∧ read.length ≤ 4096)
    (hwire : calls.flatten.flatten = (run (Sender.send codec) ⟨backend, []⟩ ops).wire) :
    (daemonEndpoint.serve codec calls.length ⟨[], [], pending⟩
          (schedule calls)).2.1.state.commands =
        pending.commands ++ trace (Sender.send codec) (Sender.unreported codec) ⟨backend, []⟩ ops ↔
      (backend.connected = true ∨ ∀ op ∈ ops, commandLine op.command = none) ∧
        Along (Sender.send codec) (fun s op => op.Completes → s.AtLineStart) ⟨backend, []⟩ ops ∧
        KeepsLines calls.flatten := by
  obtain ⟨text, htext, hcommands⟩ :=
    exists_text_served codec pending fun read hread => (hsize read hread).1
  rw [hcommands, List.append_cancel_left_eq]
  -- what is on the wire, up to the first read that is not text and after it
  have hsplit : toUtf8 text ++
      (calls.flatten.dropWhile fun read => decide (IsText read)).flatten =
        (run (Sender.send codec) ⟨backend, []⟩ ops).wire := by
    rw [htext, ← List.flatten_append, List.takeWhile_append_dropWhile, hwire]
  cases hopen : backend.connected with
  | false =>
      have hrun : ∀ ops, run (Sender.send codec) ⟨backend, []⟩ ops = ⟨backend, []⟩ :=
        Sender.run_closed hopen
      rw [hrun, List.append_eq_nil_iff] at hsplit
      obtain rfl : text = [] := toUtf8_injective hsplit.1
      rw [eq_comm, cutLines, List.filterMap_nil, Sender.trace_closed_eq_nil_iff hopen, KeepsLines,
        hsplit.2]
      have halong : Along (Sender.send codec) (fun s op => op.Completes → s.AtLineStart)
          ⟨backend, []⟩ ops := by
        rintro pre op post - -
        rw [hrun]
        exact .inl rfl
      simp [halong]
  | true =>
      have hcut : (trace (Sender.send codec) (Sender.sentLine codec) ⟨backend, []⟩ ops).map
          (Sender.lineBytes codec) = (cutLines '\n' text).1.map toUtf8 ++
            (cutLines lineEnd (toUtf8 (cutLines '\n' text).2 ++
              (calls.flatten.dropWhile fun read => decide (IsText read)).flatten)).1 := by
        have hrun := Sender.lines_run (s := ⟨backend, []⟩) hopen (.inl rfl) hfaithful
        rw [← hsplit, cutLines_append, cutLines_toUtf8] at hrun
        exact hrun.symm
      have hrest : lineEnd ∉ toUtf8 (cutLines '\n' text).2 :=
        lineEnd_notMem_toUtf8 (not_mem_cutLines_snd '\n' text)
      rw [← Sender.map_snd_sentLine, filterMap_lineCommand_iff hcut, cutLines_fst_eq_nil_iff,
        List.mem_append, not_or, and_iff_right hrest, Sender.along_atLineStart_iff hopen,
        KeepsLines]
      · simp [and_comm]
      · intro line hline
        obtain ⟨hstart, op, hop, hcommand⟩ :=
          Sender.of_mem_trace (s := ⟨backend, []⟩) hopen (.inl rfl) hfaithful hline
        exact ⟨hfaithful op hop line.2 hcommand, halone op hop line.2 hcommand, hstart⟩

end

/-! ## A write that stops -/

lemma alone_start : buroCodec.Alone startBuro := by
  intro front hfront hread
  have htext : String.ofList (front ++ startJson.toList) = startJson := by
    by_contra hne
    have hjson : buroCodec.toString startBuro = startJson := rfl
    rw [hjson] at hread
    simp only [buroCodec, if_neg hne] at hread
    split_ifs at hread
    exact absurd hread (by decide)
  have hlist := congrArg String.toList htext
  rw [String.toList_ofList] at hlist
  obtain rfl : front = [] := by simpa using hlist
  cases hfront

/-- The JSON of the command is read back, and is read by itself only. -/
lemma faithful_buro {op : SendOp} (h : op.command = "vm start büro") :
    Sender.FaithfulOp buroCodec op ∧ ∀ command, commandLine op.command = some command →
      buroCodec.Alone (.ShellCommand command) := by
  have hcommand : commandLine op.command = some "vm start büro" := by rw [h]; decide
  refine ⟨fun command hsome => ?_, fun command hsome => ?_⟩
  · rw [← Option.some.inj (hcommand.symm.trans hsome)]
    exact faithful_start
  · rw [← Option.some.inj (hcommand.symm.trans hsome)]
    exact alone_start

/-- The command twice; the first time, the socket takes so many bytes of the JSON and is full. -/
def afterFullSocket (written : ℕ) : List SendOp :=
  [⟨"vm start büro", .Err written "Resource temporarily unavailable (os error 11)", .Ok⟩,
    ⟨"vm start büro", .Ok, .Ok⟩]

lemma command_of_mem {written : ℕ} {op : SendOp} (h : op ∈ afterFullSocket written) :
    op.command = "vm start büro" := by
  rcases List.mem_cons.mp h with rfl | h
  · rfl
  · rw [List.mem_singleton.mp h]

/-- The second command arrives if the socket has taken nothing of the first one. -/
theorem unreported_received_iff_buro :
    (daemonEndpoint.serve buroCodec 2 ⟨[], [], ⟨[], []⟩⟩
        (schedule (inTwoReads startBuro 0))).2.1.state.commands = ["vm start büro"] := by
  have h := (unreported_received_iff buroCodec {} (afterFullSocket 0) ⟨[], []⟩
    (inTwoReads startBuro 0) (fun op hop => (faithful_buro (command_of_mem hop)).1)
    (fun op hop => (faithful_buro (command_of_mem hop)).2) (by decide) (by decide)).mpr
    ⟨.inl rfl, by decide, by decide⟩
  exact h.trans (by decide)

/-- What is on the wire after the socket has taken one byte of the first command, in one read. -/
def afterOneByte : List (List (List UInt8)) :=
  [[(run (Sender.send buroCodec) ⟨{}, []⟩ (afterFullSocket 1)).wire]]

/-- If it has taken one byte, the second call records no error, and its command is lost. -/
theorem lost_after_one_byte :
    ((∀ op ∈ afterFullSocket 1, Sender.FaithfulOp buroCodec op) ∧
      (∀ op ∈ afterFullSocket 1, ∀ command, commandLine op.command = some command →
        buroCodec.Alone (.ShellCommand command)) ∧
      ∀ read ∈ afterOneByte.flatten, 0 < read.length ∧ read.length ≤ 4096) ∧
    trace (Sender.send buroCodec) (Sender.unreported buroCodec) ⟨{}, []⟩ (afterFullSocket 1) =
      ["vm start büro"] ∧
    (daemonEndpoint.serve buroCodec 1 ⟨[], [], ⟨[], []⟩⟩ (schedule afterOneByte)).2.1.state =
      ⟨[⟨.Error, "daemon: invalid IPC message: expected value at line 1 column 1"⟩], []⟩ := by
  exact ⟨⟨fun op hop => (faithful_buro (command_of_mem hop)).1,
    fun op hop => (faithful_buro (command_of_mem hop)).2, by decide⟩, by decide, by decide⟩

end Chalybs.Tui
