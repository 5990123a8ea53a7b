import Chalybs.Core.Text
import Chalybs.Daemon.Visible
import Chalybs.EndToEnd.Terminal

/-!
# The hotkeys

The TUI starts, stops and restarts the selected VM with a command line, which the daemon takes apart
into words.

* `words_hotkey`, `command_hotkey` — the words of that line.
* `hotkeys_ask_iff` — what the daemon is asked for, and when it is what the hotkey stands for.
-/

namespace Chalybs.Tui

lemma not_isWhitespace_of_all {word : List Char}
    (h : (word.all fun c => !isWhitespace c) = true) : ∀ c ∈ word, isWhitespace c = false := by
  simpa using h

/-- The words of the command of a hotkey. -/
lemma words_hotkey {verb : String} (hverb : verb ∈ ["start", "stop", "restart"]) (name : String) :
    splitWhitespace (s!"vm {verb} {name}").toList =
      "vm".toList :: verb.toList :: splitWhitespace name.toList := by
  have htext : (s!"vm {verb} {name}").toList =
      "vm".toList ++ ' ' :: (verb.toList ++ ' ' :: name.toList) := by
    simp [String.toList_append, toString]
  have hvm : ∀ c ∈ "vm".toList, isWhitespace c = false := not_isWhitespace_of_all (by decide)
  have hplain : verb.toList ≠ [] ∧ (verb.toList.all fun c => !isWhitespace c) = true := by
    simp only [List.mem_cons, List.not_mem_nil, or_false] at hverb
    rcases hverb with rfl | rfl | rfl <;> decide
  rw [htext, splitWhitespace_word rfl (by decide) hvm,
    splitWhitespace_word rfl hplain.1 (not_isWhitespace_of_all hplain.2)]

/-- The command of a hotkey, as the backend writes it. -/
lemma command_hotkey {s : Session} {vm : VmStatus} {verb : String}
    (hverb : verb ∈ ["start", "stop", "restart"]) (json newline : WriteAll)
    (hvm : s.app.vms[s.app.selectedVm]? = some vm) :
    ∃ line, s.command (.RequestVm verb json newline) = some line ∧
      splitWhitespace (trim line.toList) =
        "vm".toList :: verb.toList :: splitWhitespace vm.name.toList := by
  have hwords := words_hotkey hverb vm.name
  have hne : trim (s!"vm {verb} {vm.name}").toList ≠ [] := by
    intro hnil
    rw [← splitWhitespace_trim, hnil] at hwords
    cases hwords
  refine ⟨String.ofList (trim (s!"vm {verb} {vm.name}").toList), ?_, ?_⟩
  · rw [Session.command, Session.sendOp, Session.vmCommand, hvm]
    simp only [Option.map_some, Option.bind_some, commandLine]
    rw [if_neg]
    simpa using hne
  · rw [String.toList_ofList, trim_trim, splitWhitespace_trim, hwords]

lemma ofAction_ne_nothing {verb : String} (hverb : verb ∈ ["start", "stop", "restart"]) :
    LifeRequest.ofAction verb ≠ .Nothing := by
  simp only [List.mem_cons, List.not_mem_nil, or_false] at hverb
  rcases hverb with rfl | rfl | rfl <;> decide

/-- A command for a VM asks for it what its verb says, or nothing at all. -/
lemma lifeRequest_eq_iff {verb line : String} {words : List (List Char)} (other : String)
    (hverb : verb ∈ ["start", "stop", "restart"])
    (hline : splitWhitespace (trim line.toList) = "vm".toList :: verb.toList :: words) :
    (lifeRequest other line ≠ .Nothing ↔ words.head? = some other.toList) ∧
      (lifeRequest other line = .ofAction verb ↔ words.head? = some other.toList) := by
  have hsome := ofAction_ne_nothing hverb
  rw [lifeRequest, hline]
  cases words with
  | nil => simpa using hsome.symm
  | cons word words =>
      have hword : String.ofList word = other ↔ word = other.toList := by
        rw [← String.toList_inj, String.toList_ofList]
      simp only [List.map_cons, String.ofList_toList, true_and, List.head?_cons, Option.some.injEq,
        ← hword]
      split_ifs with hother
      · exact ⟨iff_of_true hsome hother, iff_of_true rfl hother⟩
      · exact ⟨iff_of_false (not_not_intro rfl) hother, iff_of_false hsome.symm hother⟩

/-- **What a hotkey asks for.**  The command that it writes asks something for a VM exactly if the
name of that VM is the first word of the name of the selected one; so it does for the selected VM
what it stands for exactly if there is no white space in its name. -/
theorem hotkeys_ask_iff (s : Session) {verb : String} (hverb : verb ∈ ["start", "stop", "restart"])
    (json newline : WriteAll) {vm : VmStatus} (hvm : s.app.vms[s.app.selectedVm]? = some vm) :
    ∃ line, s.command (.RequestVm verb json newline) = some line ∧
      (∀ other, lifeRequest other line ≠ .Nothing ↔
        (splitWhitespace vm.name.toList).head? = some other.toList) ∧
      (lifeRequest vm.name line = .ofAction verb ↔
        vm.name ≠ "" ∧ ∀ c ∈ vm.name.toList, isWhitespace c = false) := by
  obtain ⟨line, hcommand, hline⟩ := command_hotkey hverb json newline hvm
  have hasked (other : String) := lifeRequest_eq_iff other hverb hline
  refine ⟨line, hcommand, fun other => ?_, ?_⟩
  · exact (hasked other).1
  · rw [(hasked vm.name).2, head?_splitWhitespace_self, ← String.toList_inj.ne]
    rfl

/-- A session that shows one VM, with a space in its name. -/
def spacedSession : Session where
  app := .new [⟨"win 11", .Stopped, false, false, false, "", false, ⟨[], []⟩⟩]
  rx := ⟨[], [], {}⟩
  pending := []

/-- The hotkey asks for another VM, and not for the selected one. -/
theorem hotkeys_ask_iff_spaced :
    ∃ line, spacedSession.command (.RequestVm "start" .Ok .Ok) = some line ∧
      lifeRequest "win" line ≠ .Nothing ∧ lifeRequest "win 11" line ≠ .ofAction "start" := by
  have hverb : "start" ∈ ["start", "stop", "restart"] := by decide
  obtain ⟨line, hcommand, hasked, hselected⟩ := hotkeys_ask_iff spacedSession hverb .Ok .Ok rfl
  refine ⟨line, hcommand, (hasked "win").mpr (by decide), fun hstart => ?_⟩
  exact absurd ((hselected.mp hstart).2 ' ' (by decide)) (by decide)

end Chalybs.Tui
