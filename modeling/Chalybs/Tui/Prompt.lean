import Chalybs.Core.Text
import Chalybs.Foundation.Run
import Chalybs.Tui.Session

/-!
# The keyboard

`run` (`tui/src/main.rs`) is the loop over keys and ticks, with the shell prompt and the commands
that the TUI answers by itself.

* `handleLocalCommand` — the `effects` commands.
* `Terminal.press`, `Terminal.turn` — a key, and a turn of the loop.
* `AtPrompt`, `AtPrompt.turn` — what every turn keeps.
* `prompt_run` — what is in the history after a run, and what the backend was given.
-/

namespace Chalybs.Tui

open Foundation

/-! ## Effects -/

/-- `LogoHaloProfile`. -/
inductive LogoHaloProfile
  | Off
  | C3
  | C3Narrow
  | C3Wide
  | C3ExtraWide
  deriving DecidableEq, Repr

namespace LogoHaloProfile

/-- `from_str_kind`. -/
def fromStrKind (s : String) : Option LogoHaloProfile :=
  let s := String.ofList (s.toList.map Char.toLower)
  if s = "off" ∨ s = "none" then some .Off
  else if s = "c3" then some .C3
  else if s = "c3narrow" ∨ s = "narrow" ∨ s = "c3_narrow" ∨ s = "s1" then some .C3Narrow
  else if s = "c3wide" ∨ s = "wide" ∨ s = "c3_wide" ∨ s = "s2" then some .C3Wide
  else if s = "c3extrawide" ∨ s = "extrawide" ∨ s = "c3_xwide" ∨ s = "c3xwide" ∨ s = "s3" then
    some .C3ExtraWide
  else if s = "basic" then some .C3
  else if s = "c3d" then some .C3ExtraWide
  else none

/-- `as_str`. -/
def asStr : LogoHaloProfile → String
  | .Off => "off"
  | .C3 => "c3"
  | .C3Narrow => "c3narrow"
  | .C3Wide => "c3wide"
  | .C3ExtraWide => "c3extrawide"

end LogoHaloProfile

/-- `VisualEffects`, with the values of `default_enabled`. -/
structure VisualEffects where
  pulse : Bool := true
  scanlines : Bool := true
  matrix : Bool := true
  borderNoise : Bool := true
  badges : Bool := true
  logoReactive : Bool := true
  loadIndex : Bool := true
  logoHalo : LogoHaloProfile := .Off
  deriving DecidableEq, Repr

namespace VisualEffects

/-- `set_all`. -/
def setAll (effects : VisualEffects) (value : Bool) : VisualEffects :=
  { effects with
    pulse := value
    scanlines := value
    matrix := value
    borderNoise := value
    badges := value
    logoReactive := value
    loadIndex := value }

/-- `set_flag`.  A name that is not known sets nothing. -/
def setFlag (effects : VisualEffects) (name : String) (value : Bool) : VisualEffects :=
  if name = "pulse" then { effects with pulse := value }
  else if name = "scanlines" then { effects with scanlines := value }
  else if name = "matrix" then { effects with matrix := value }
  else if name = "border" ∨ name = "border_noise" then { effects with borderNoise := value }
  else if name = "badges" then { effects with badges := value }
  else if name = "logo" ∨ name = "logo_reactive" then { effects with logoReactive := value }
  else if name = "load" ∨ name = "load_index" then { effects with loadIndex := value }
  else effects

/-- The line that `effects status` shows. -/
def status (effects : VisualEffects) : String :=
  let halo := effects.logoHalo.asStr
  s!"effects: pulse={effects.pulse}, scanlines={effects.scanlines}, matrix={effects.matrix}, " ++
    s!"border_noise={effects.borderNoise}, badges={effects.badges}, " ++
    s!"logo_reactive={effects.logoReactive}, load_index={effects.loadIndex}, halo={halo}"

end VisualEffects

/-- The halo branch of `handle_local_command`. -/
def handleHalo (effects : VisualEffects) : List String → VisualEffects × List AppEvent
  | [] => (effects, [⟨.Error, "effects: usage: effects halo <off|c3|c3narrow|c3wide|c3extrawide>"⟩])
  | valueWord :: _ =>
      match LogoHaloProfile.fromStrKind valueWord with
      | some profile =>
          ({ effects with logoHalo := profile }, [⟨.System, s!"effects: halo={profile.asStr}"⟩])
      | none => (effects, [⟨.Error, s!"effects: unknown halo profile `{valueWord}` " ++
          "(expected: off|c3|c3narrow|c3wide|c3extrawide)"⟩])

/-- The last branch of `handle_local_command`, for a single flag. -/
def handleFlag (effects : VisualEffects) (field : String) :
    List String → VisualEffects × List AppEvent
  | [] => (effects, [⟨.Error, "effects: usage: effects <pulse|scanlines|matrix|border|badges|" ++
      "logo|load> <on|off> or effects halo <off|c3|c3narrow|c3wide|c3extrawide>"⟩])
  | valueWord :: _ =>
      if valueWord = "on" then
        (effects.setFlag field true, [⟨.System, s!"effects: {field}=on"⟩])
      else if valueWord = "off" then
        (effects.setFlag field false, [⟨.System, s!"effects: {field}=off"⟩])
      else (effects, [⟨.Error, "effects: expected `on` or `off`"⟩])

/-- `handle_local_command`: nothing for a command that is forwarded. -/
def handleLocalCommand (effects : VisualEffects) (cmd : String) :
    Option (VisualEffects × List AppEvent) :=
  match (splitWhitespace cmd.toList).map String.ofList with
  | [] => none
  | first :: parts =>
      if first ≠ "effects" then none
      else
        match parts with
        | [] => some (effects, [⟨.Info, effects.status⟩])
        | sub :: parts =>
            if sub = "status" then some (effects, [⟨.Info, effects.status⟩])
            else if sub = "on" then some (effects.setAll true, [⟨.System, "effects: all=on"⟩])
            else if sub = "off" then some (effects.setAll false, [⟨.System, "effects: all=off"⟩])
            else if sub = "halo" then some (handleHalo effects parts)
            else some (handleFlag effects sub parts)

/-! ## Keys -/

/-- `KeyCode`, as far as it is looked at. -/
inductive KeyCode
  | Char (c : Char)
  | F (n : ℕ)
  | Up
  | Down
  | PageUp
  | PageDown
  | Backspace
  | Enter
  | Esc
  | Other
  deriving DecidableEq, Repr

/-- `KeyModifiers`: whether CONTROL is among them, and whether any other is. -/
structure KeyModifiers where
  control : Bool := false
  others : Bool := false
  deriving DecidableEq, Repr

def KeyModifiers.isEmpty (m : KeyModifiers) : Bool := !m.control && !m.others

/-- A key, and the outcomes of the writes that it may lead to. -/
structure Press where
  code : KeyCode
  modifiers : KeyModifiers := {}
  json : WriteAll := .Ok
  newline : WriteAll := .Ok
  deriving DecidableEq, Repr

/-- The TUI with its prompt, and the operations of the session so far, which nothing reads. -/
structure Terminal where
  session : Session
  calls : List SessionOp := []
  running : Bool := true
  shellInput : List Char := []
  shellHistory : List String := []
  vmDetailOpen : Bool := false
  effects : VisualEffects := {}

namespace Terminal

variable (codec : JsonCodec)

/-- An operation of the session. -/
def onSession (t : Terminal) (op : SessionOp) : Terminal :=
  { t with session := t.session.step codec op, calls := t.calls ++ [op] }

/-- The command in the input line. -/
def input (t : Terminal) : String := String.ofList (trim t.shellInput)

/-- `submit_shell_command`. -/
def submitShellCommand (t : Terminal) (json newline : WriteAll) : Terminal :=
  let cmd := t.input
  let t := { t with shellInput := [] }
  if cmd = "" then t
  else
    let t := { t with shellHistory := t.shellHistory ++ [cmd] }
    match handleLocalCommand t.effects cmd with
    | some (effects, events) => { t with effects }.onSession codec (.App (.PushEvents events))
    | none => t.onSession codec (.SubmitShellCommand ⟨cmd, json, newline⟩)

/-- The match over keys in `run`; the first arm that fits is taken. -/
def press (t : Terminal) (key : Press) : Terminal :=
  match key.code with
  | .Char c =>
      if c = 'q' ∧ key.modifiers.isEmpty then { t with running := false }
      else if c = 's' ∧ key.modifiers.control then t.onSession codec (.App .LockEventsScroll)
      else if c = 'q' ∧ key.modifiers.control then t.onSession codec (.App .UnlockEventsScroll)
      else if c = 'u' ∧ key.modifiers.control then
        t.onSession codec (.RequestVm "start" key.json key.newline)
      else if c = 'o' ∧ key.modifiers.control then
        t.onSession codec (.RequestVm "stop" key.json key.newline)
      else if c = 'i' ∧ key.modifiers.control then
        t.onSession codec (.RequestVm "restart" key.json key.newline)
      else if key.modifiers.isEmpty then { t with shellInput := t.shellInput ++ [c] }
      else t
  | .F n => if n = 2 then { t with vmDetailOpen := !t.vmDetailOpen } else t
  | .Up => t.onSession codec (.App .SelectPreviousVm)
  | .Down => t.onSession codec (.App .SelectNextVm)
  | .PageUp =>
      (t.onSession codec (.App .LockEventsScroll)).onSession codec (.App (.ScrollEventsUp 3))
  | .PageDown =>
      (t.onSession codec (.App .LockEventsScroll)).onSession codec (.App (.ScrollEventsDown 3))
  | .Backspace =>
      if key.modifiers.isEmpty then { t with shellInput := t.shellInput.dropLast } else t
  | .Enter => t.submitShellCommand codec key.json key.newline
  | .Esc => if t.vmDetailOpen then { t with vmDetailOpen := false } else { t with shellInput := [] }
  | .Other => t

/-- A turn of the loop: the key that was pressed, if any, and the reads of its tick, if it is
time. -/
structure Turn where
  key : Option Press
  tick : Option (List ReadResult)

/-- A turn of the loop; after the last one nothing happens. -/
def turn (t : Terminal) (turn : Turn) : Terminal :=
  if t.running then
    let t := match turn.key with
      | some key => t.press codec key
      | none => t
    match turn.tick with
    | some reads => t.onSession codec (.OnTick reads)
    | none => t
  else t

end Terminal

/-! ## The history -/

/-- The command is answered by the TUI itself. -/
def isLocal (cmd : String) : Bool :=
  ((splitWhitespace cmd.toList).map String.ofList).head? = some "effects"

/-- The command that the prompt gives to the backend. -/
def SessionOp.typed : SessionOp → Option String
  | .SubmitShellCommand op => some op.command
  | _ => none

/-- The session is what its operations made of it, the commands that the backend was given are those
of the history that are not local, and no `q` was typed. -/
structure AtPrompt (codec : JsonCodec) (start : Session) (t : Terminal) : Prop where
  session : t.session = run (Session.step codec) start t.calls
  given : t.calls.filterMap SessionOp.typed = t.shellHistory.filter fun cmd => !isLocal cmd
  input : 'q' ∉ t.shellInput
  history : ∀ cmd ∈ t.shellHistory, commandLine cmd = some cmd ∧ 'q' ∉ cmd.toList

section

variable {codec : JsonCodec} {start : Session} {t : Terminal}

/-- **Local commands** are those that begin with `effects`. -/
lemma handleLocalCommand_eq_none {effects : VisualEffects} {cmd : String} :
    handleLocalCommand effects cmd = none ↔ isLocal cmd = false := by
  rw [handleLocalCommand, isLocal]
  generalize (splitWhitespace cmd.toList).map String.ofList = words
  cases words with
  | nil => simp
  | cons first parts =>
      by_cases hfirst : first = "effects"
      · simp only [hfirst, ne_eq, not_true, if_false, List.head?_cons, decide_true]
        cases parts with
        | nil => simp
        | cons sub parts =>
            simp only
            split_ifs <;> simp
      · simp [hfirst]

/-- An operation that the prompt does not give. -/
lemma AtPrompt.onSession (h : AtPrompt codec start t) {op : SessionOp} (hop : op.typed = none) :
    AtPrompt codec start (t.onSession codec op) where
  session := by
    show t.session.step codec op = run (Session.step codec) start (t.calls ++ [op])
    rw [run_snoc, ← h.session]
  given := by
    show (t.calls ++ [op]).filterMap SessionOp.typed = _
    rw [List.filterMap_append, h.given]
    simp [Terminal.onSession, hop]
  input := h.input
  history := h.history

/-- The input line changes. -/
lemma AtPrompt.edit (h : AtPrompt codec start t) {shellInput : List Char}
    (hinput : 'q' ∉ shellInput) : AtPrompt codec start { t with shellInput } :=
  ⟨h.session, h.given, hinput, h.history⟩

/-- The command in the input line is trimmed. -/
lemma commandLine_input (hinput : t.input ≠ "") : commandLine t.input = some t.input := by
  have htrim : trim t.input.toList = t.input.toList := by
    rw [Terminal.input, String.toList_ofList, trim_trim]
  have hnil : t.input.toList ≠ [] := fun hnil => hinput (String.toList_inj.mp hnil)
  simp [commandLine, htrim, hnil]

/-- A command is submitted and leads to an operation, which gives the backend the command unless it
is local. -/
lemma AtPrompt.submitted (h : AtPrompt codec start t) (hinput : t.input ≠ "")
    (effects : VisualEffects) {op : SessionOp}
    (hop : op.typed.toList = if isLocal t.input then [] else [t.input]) :
    AtPrompt codec start (Terminal.onSession codec { t with
      shellInput := []
      shellHistory := t.shellHistory ++ [t.input]
      effects } op) where
  session := by
    show t.session.step codec op = run (Session.step codec) start (t.calls ++ [op])
    rw [run_snoc, ← h.session]
  given := by
    show (t.calls ++ [op]).filterMap SessionOp.typed =
      (t.shellHistory ++ [t.input]).filter fun cmd => !isLocal cmd
    rw [List.filterMap_append, h.given, List.filter_append, List.append_cancel_left_eq]
    cases hlocal : isLocal t.input with
    | true =>
        rw [hlocal] at hop
        cases htyped : op.typed with
        | none => simp [hlocal, htyped]
        | some cmd => simp [htyped] at hop
    | false =>
        rw [hlocal] at hop
        cases htyped : op.typed with
        | none => simp [htyped] at hop
        | some cmd => simpa [hlocal, htyped] using hop
  input := List.not_mem_nil
  history cmd hcmd := by
    rcases List.mem_append.mp hcmd with hold | hnew
    · exact h.history cmd hold
    · rw [List.mem_singleton.mp hnew]
      refine ⟨commandLine_input hinput, fun hq => h.input ?_⟩
      rw [Terminal.input, String.toList_ofList] at hq
      exact mem_of_mem_trim hq

lemma AtPrompt.submit (h : AtPrompt codec start t) (json newline : WriteAll) :
    AtPrompt codec start (t.submitShellCommand codec json newline) := by
  rw [Terminal.submitShellCommand]
  by_cases hblank : t.input = ""
  · simp only [hblank, if_true]
    exact h.edit List.not_mem_nil
  · simp only [hblank, if_false]
    cases hlocal : handleLocalCommand t.effects t.input with
    | none =>
        refine h.submitted hblank t.effects ?_
        rw [handleLocalCommand_eq_none.mp hlocal]
        rfl
    | some answer =>
        refine h.submitted hblank answer.1 ?_
        have hislocal : isLocal t.input = true := by
          by_contra hother
          rw [handleLocalCommand_eq_none.mpr (Bool.eq_false_of_not_eq_true hother)] at hlocal
          cases hlocal
        rw [hislocal]
        rfl

/-- **A key.** -/
lemma AtPrompt.press (h : AtPrompt codec start t) (key : Press) :
    AtPrompt codec start (t.press codec key) := by
  rw [Terminal.press]
  cases key.code with
  | Char c =>
      simp only
      split_ifs with hquit hlock hunlock hup hdown hrestart hplain
      · exact ⟨h.session, h.given, h.input, h.history⟩
      · exact h.onSession rfl
      · exact h.onSession rfl
      · exact h.onSession rfl
      · exact h.onSession rfl
      · exact h.onSession rfl
      · -- a plain `q` has quit
        refine h.edit fun hq => ?_
        rcases List.mem_append.mp hq with hold | hnew
        · exact h.input hold
        · exact hquit ⟨(List.mem_singleton.mp hnew).symm, hplain⟩
      · exact h
  | F n =>
      simp only
      split_ifs
      · exact ⟨h.session, h.given, h.input, h.history⟩
      · exact h
  | Up => exact h.onSession rfl
  | Down => exact h.onSession rfl
  | PageUp => exact (h.onSession rfl).onSession rfl
  | PageDown => exact (h.onSession rfl).onSession rfl
  | Backspace =>
      simp only
      split_ifs
      · exact h.edit fun hq => h.input (List.mem_of_mem_dropLast hq)
      · exact h
  | Enter => exact h.submit key.json key.newline
  | Esc =>
      simp only
      split_ifs
      · exact ⟨h.session, h.given, h.input, h.history⟩
      · exact h.edit List.not_mem_nil
  | Other => exact h

/-- **A turn of the loop.** -/
lemma AtPrompt.turn (h : AtPrompt codec start t) (turn : Terminal.Turn) :
    AtPrompt codec start (t.turn codec turn) := by
  rw [Terminal.turn]
  split_ifs
  · cases turn.key with
    | none =>
        cases turn.tick with
        | none => exact h
        | some reads => exact h.onSession rfl
    | some key =>
        cases turn.tick with
        | none => exact h.press key
        | some reads => exact (h.press key).onSession rfl
  · exact h

end

/-- **From the keyboard to the backend.**  In every run of the loop over keys and ticks: the session
is what the calls that the loop has made of it, the commands that the prompt has given to the
backend are those of the history that do not begin with `effects`, in their order, and no command of
the history is blank, has white space around it, or has a `q` in it, which quits. -/
theorem prompt_run (codec : JsonCodec) (start : Session) (effects : VisualEffects)
    (turns : List Terminal.Turn) :
    let t := run (Terminal.turn codec) { session := start, effects } turns
    t.session = run (Session.step codec) start t.calls ∧
      t.calls.filterMap SessionOp.typed = t.shellHistory.filter (fun cmd => !isLocal cmd) ∧
      ∀ cmd ∈ t.shellHistory, commandLine cmd = some cmd ∧ 'q' ∉ cmd.toList := by
  intro t
  have hstart : AtPrompt codec start { session := start, effects } :=
    ⟨rfl, rfl, List.not_mem_nil, fun cmd hcmd => absurd hcmd List.not_mem_nil⟩
  have hrun : AtPrompt codec start t :=
    run_invariant (I := AtPrompt codec start) (fun _ turn h => h.turn turn) hstart turns
  exact ⟨hrun.session, hrun.given, hrun.history⟩

end Chalybs.Tui
