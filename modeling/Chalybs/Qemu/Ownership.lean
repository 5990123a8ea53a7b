import Chalybs.Daemon.Run
import Chalybs.Machine.Frame
import Chalybs.Qemu.Process
import Mathlib.Data.Finset.Card

/-!
# Who owns the QEMU process

Over the whole life of a VM: the handle in the runtime against the processes that are alive.
`launch` records a process only after it was moved into its cpuset, and `shutdown` gives the handle
away before the process is gone, so an error in between leaves a process that nothing refers to.

* `QemuOp`, `applyQemu` — the life of one VM: calls of the state machine, guests that exit, polls,
  and new runtimes.
* `Owned` — every live process is the recorded one.
* `Handled` — no error in between.
* `qemu_owned_iff` — the processes are owned throughout a run exactly when all its operations are
  handled.
-/

namespace Chalybs

open Foundation

variable {V : Type}

/-! ## The state machine on a host with processes -/

section

variable {h : Host V} {os : SystemCalls V} {s : VmStateMachine × QemuWorld V}

/-- The other callees do not touch the process. -/
lemma preserves_other {c : Callee} (hlaunch : c ≠ .LaunchQemu) (hshutdown : c ≠ .ShutdownQemu)
    (handle : Option QemuState) (live : Finset ℕ) :
    Preserves (OnQemu fun q w => q = handle ∧ w.live = live) ((h.withQemu os).invoke c) := by
  rintro t ⟨hq, hlive⟩
  have hcall : (h.withQemu os).call c t.1.rt = zoom (fun t => (t.1, t.2.rest))
      (fun u t => (u.1, { t.2 with rest := u.2 })) (h.call c t.1.rt) := by
    cases c <;> first | rfl | contradiction
  rw [Ends, Host.invoke, hcall, zoom]
  cases h.call c t.1.rt (c.owned t.1.rt, t.2.rest) with
  | ok a u => exact ⟨(store_qemu hlaunch hshutdown _ _).trans hq, hlive⟩
  | error e u => exact ⟨(store_qemu hlaunch hshutdown _ _).trans hq, hlive⟩

/-- **Most operations do not touch the process.** -/
lemma advance_other {op : Op} (hlaunch : .LaunchQemu ∉ op.work s.1.state)
    (hshutdown : .ShutdownQemu ∉ op.work s.1.state) :
    (advance s (op, h.withQemu os)).1.rt.qemu = s.1.rt.qemu ∧
      (advance s (op, h.withQemu os)).2.live = s.2.live :=
  preserves_perform (R := fun q w => q = s.1.rt.qemu ∧ w.live = s.2.live)
    (fun _ hc => preserves_other (fun heq => hlaunch (heq ▸ hc)) (fun heq => hshutdown (heq ▸ hc))
      _ _) ⟨rfl, rfl⟩

/-- The LaunchQemu phase is a call of `launch`. -/
lemma advance_launch (hstate : s.1.state = .LaunchQemu) :
    let s' := advance s (.Step, h.withQemu os)
    let r := outcome (os.launch s.1.rt) (s.1.rt.qemu, s.2)
    s'.1.rt.qemu = r.2.1 ∧ s'.2 = r.2.2 ∧
      s'.1.state = if r.1 then .DetectThreads else .LaunchQemu := by
  have harm : advance s (.Step, h.withQemu os) =
      (outcome (pushSystem "state=LaunchQemu" >>= fun _ => (h.withQemu os).invoke .LaunchQemu >>=
        fun _ => modifyRt VmRuntime.pushLaunched >>= fun _ => setState .DetectThreads) s).2 := by
    rw [advance, outcome_perform, hstate]
    rfl
  have hcall : ∀ m, outcome ((h.withQemu os).call .LaunchQemu (s.1.rt.pushSystem m))
      (Callee.owned (s.1.rt.pushSystem m) .LaunchQemu, s.2) =
        outcome (os.launch s.1.rt) (s.1.rt.qemu, s.2) := fun _ => rfl
  rw [harm, outcome_arm]
  dsimp only
  rw [hcall, hstate]
  generalize outcome (os.launch s.1.rt) (s.1.rt.qemu, s.2) = r
  obtain ⟨ok, handle, w⟩ := r
  cases ok with
  | true => exact ⟨qemu_pushLaunched _, rfl, rfl⟩
  | false => exact ⟨rfl, rfl, rfl⟩

/-- Leaving bring-up or Steady is a call of `shutdown`. -/
lemma advance_shutdown (hstate : ¬ s.1.state.OnShutdownPath) :
    let s' := advance s (.StepShutdown, h.withQemu os)
    let r := outcome (os.shutdown s.1.rt) (s.1.rt.qemu, s.2)
    s'.1.rt.qemu = r.2.1 ∧ s'.2 = r.2.2 ∧
      s'.1.state = if r.1 then .Shutdown else s.1.state := by
  have harm : ∃ m m', advance s (.StepShutdown, h.withQemu os) =
      (outcome (pushSystem m >>= fun _ => (h.withQemu os).invoke .ShutdownQemu >>=
        fun _ => modifyRt (fun rt => rt.pushInfo m') >>= fun _ => setState .Shutdown) s).2 := by
    rw [advance, outcome_perform]
    revert hstate
    cases s.1.state <;> intro hstate <;> first | exact ⟨_, _, rfl⟩ | exact absurd (by decide) hstate
  have hcall : ∀ m, outcome ((h.withQemu os).call .ShutdownQemu (s.1.rt.pushSystem m))
      (Callee.owned (s.1.rt.pushSystem m) .ShutdownQemu, s.2) =
        outcome (os.shutdown s.1.rt) (s.1.rt.qemu, s.2) := fun _ => rfl
  obtain ⟨m, m', harm⟩ := harm
  rw [harm, outcome_arm]
  dsimp only
  rw [hcall]
  generalize outcome (os.shutdown s.1.rt) (s.1.rt.qemu, s.2) = r
  obtain ⟨ok, handle, w⟩ := r
  cases ok with
  | true => exact ⟨rfl, rfl, rfl⟩
  | false => exact ⟨rfl, rfl, rfl⟩

end

/-! ## The life of a VM -/

/-- What can happen to a VM. -/
inductive QemuOp (V : Type)
  /-- A call of the state machine. -/
  | Perform (op : Op) (h : Host V) (os : SystemCalls V)
  /-- A process exits on its own. -/
  | GuestExit (pid : ℕ)
  /-- The daemon polls the process; the poll itself may fail. -/
  | Poll (failure : Option String)
  /-- The VM is started again after it came to Idle. -/
  | Renew (name : String) (cfg : VmConfig) (cpus : VmCpuLayout)

/-- What the poll of a process answers. -/
def QemuWorld.tryWait (w : QemuWorld V) (failure : Option String) (q : QemuState) :
    Except String Bool :=
  match failure with
  | some e => .error e
  | none => .ok (decide (q.pid ∉ w.live))

/-- The state that an event leads to. -/
def applyQemu (s : DaemonVm × QemuWorld V) : QemuOp V → DaemonVm × QemuWorld V
  | .Perform op h os =>
      let t := advance (s.1.sm, s.2) (op, h.withQemu os)
      ({ s.1 with sm := t.1 }, t.2)
  | .GuestExit pid => (s.1, { s.2 with live := s.2.live.erase pid })
  | .Poll failure => (s.1.pollQemu (s.2.tryWait failure), s.2)
  | .Renew name cfg cpus =>
      if s.1.sm.state = .Idle then (DaemonVm.fresh name cfg cpus, s.2) else s

/-- Every spawned process that has not exited is the one recorded in the runtime. -/
def Owned (s : DaemonVm × QemuWorld V) : Prop :=
  ∀ pid ∈ s.2.live, s.1.sm.rt.qemu = some ⟨pid⟩

/-- A launch does not leave its process behind, and a shutdown that finds the recorded process
alive ends it. -/
def Handled (s : DaemonVm × QemuWorld V) : QemuOp V → Prop
  | .Perform .Step _ os => s.1.sm.state = .LaunchQemu →
      ¬ os.LeavesChild s.1.sm.rt (s.1.sm.rt.qemu, s.2)
  | .Perform .StepShutdown _ os => ¬ s.1.sm.state.OnShutdownPath →
      ∀ q, s.1.sm.rt.qemu = some q → q.pid ∈ s.2.live → os.Ended q s.2.rest
  | .GuestExit _ => True
  | .Poll _ => True
  | .Renew _ _ _ => True

/-- The event restores PCI bindings or tears hugepages down. -/
def QemuOp.Restores (s : DaemonVm × QemuWorld V) : QemuOp V → Prop
  | .Perform op h os => ∃ call ∈ (observe (s.1.sm, s.2) (op, h.withQemu os)).calls,
      call.1 = .RestorePci ∨ call.1 = .CleanupHugepages
  | .GuestExit _ => False
  | .Poll _ => False
  | .Renew _ _ _ => False

/-- The invariant: the processes are owned, and there is none before the launch and after the
shutdown. -/
structure Held (s : DaemonVm × QemuWorld V) : Prop where
  owned : Owned s
  before : s.1.sm.state.rank ≤ VmState.LaunchQemu.rank → s.1.sm.rt.qemu = none
  after : s.1.sm.state.OnShutdownPath → s.1.sm.rt.qemu = none

/-! ## What an event does to the invariant -/

section

variable {s s' : DaemonVm × QemuWorld V} (h : Host V) (os : SystemCalls V)

lemma Owned.live_eq_empty (hs : Owned s) (hq : s.1.sm.rt.qemu = none) : s.2.live = ∅ := by
  rw [Finset.eq_empty_iff_forall_notMem]
  intro pid hpid
  rw [hs pid hpid] at hq
  cases hq

/-- No process but the recorded one is alive. -/
lemma Owned.live_subset (hs : Owned s) {q : QemuState} (hq : s.1.sm.rt.qemu = some q) :
    s.2.live ⊆ {q.pid} := by
  intro pid hpid
  have hsame : some (⟨pid⟩ : QemuState) = some q := (hs pid hpid).symm.trans hq
  rw [Finset.mem_singleton, ← Option.some.inj hsame]

/-- If the recorded process has exited, none is alive. -/
lemma Owned.live_eq_empty_of_exited (hs : Owned s) {q : QemuState} (hq : s.1.sm.rt.qemu = some q)
    (hexited : q.pid ∉ s.2.live) : s.2.live = ∅ := by
  rcases Finset.subset_singleton_iff.mp (hs.live_subset hq) with hempty | heq
  · exact hempty
  · rw [heq] at hexited
    exact absurd (Finset.mem_singleton_self q.pid) hexited

lemma Owned.card_le_one (hs : Owned s) : s.2.live.card ≤ 1 := by
  cases hq : s.1.sm.rt.qemu with
  | none => simp [hs.live_eq_empty hq]
  | some q => exact Finset.card_le_card (hs.live_subset hq)

/-- Before the launch and after the shutdown no process is alive. -/
lemma held_of_none (hq : s.1.sm.rt.qemu = none) (hlive : s.2.live = ∅) : Held s where
  owned pid hpid := by
    rw [hlive] at hpid
    exact absurd hpid (Finset.notMem_empty pid)
  before _ := hq
  after _ := hq

/-- The handle stays where it is, and nothing is spawned. -/
lemma Held.quiet (hs : Held s) (hq : s'.1.sm.rt.qemu = s.1.sm.rt.qemu)
    (hlive : s'.2.live ⊆ s.2.live) (hrank : s.1.sm.state.rank ≤ s'.1.sm.state.rank)
    (hpath : s'.1.sm.state.OnShutdownPath → s.1.sm.state.OnShutdownPath) : Held s' where
  owned pid hpid := hq.trans (hs.owned pid (hlive hpid))
  before hbefore := hq.trans (hs.before (hrank.trans hbefore))
  after hafter := hq.trans (hs.after (hpath hafter))

/-- Launching keeps the invariant unless it leaves its process behind. -/
lemma held_launch (hs : Held s) (hstate : s.1.sm.state = .LaunchQemu) :
    let t := applyQemu s (.Perform .Step h os)
    let leaves := os.LeavesChild s.1.sm.rt (s.1.sm.rt.qemu, s.2)
    (¬ leaves → Held t) ∧ (leaves → ¬ Owned t) := by
  have hnone : s.1.sm.rt.qemu = none := hs.before (by rw [hstate])
  have hempty : s.2.live = ∅ := hs.owned.live_eq_empty hnone
  have hadvance : (applyQemu s (.Perform .Step h os)).1.sm.rt.qemu =
        (outcome (os.launch s.1.sm.rt) (s.1.sm.rt.qemu, s.2)).2.1 ∧
      (applyQemu s (.Perform .Step h os)).2 =
        (outcome (os.launch s.1.sm.rt) (s.1.sm.rt.qemu, s.2)).2.2 ∧
      (applyQemu s (.Perform .Step h os)).1.sm.state =
        if (outcome (os.launch s.1.sm.rt) (s.1.sm.rt.qemu, s.2)).1 then .DetectThreads
        else .LaunchQemu := advance_launch hstate
  have hlaunch := (os.launch_handle s.1.sm.rt (s.1.sm.rt.qemu, s.2)).outcome
  dsimp only
  generalize applyQemu s (.Perform .Step h os) = t at hadvance ⊢
  generalize outcome (os.launch s.1.sm.rt) (s.1.sm.rt.qemu, s.2) = r at hadvance hlaunch
  obtain ⟨ok, q, w⟩ := r
  obtain ⟨hq, hw, hmoved⟩ := hadvance
  cases ok with
  | true =>
      obtain ⟨hkept, pid, hrecorded, hlive⟩ := hlaunch
      have hdetect : t.1.sm.state = .DetectThreads := hmoved
      refine ⟨fun _ => ⟨?_, ?_, ?_⟩, fun hleft => absurd hleft hkept⟩
      · intro other hother
        rw [hw, hlive, hempty, Finset.insert_empty, Finset.mem_singleton] at hother
        rw [hother]
        exact hq.trans hrecorded
      · intro hbefore
        rw [hdetect] at hbefore
        exact absurd hbefore (by decide)
      · intro hafter
        rw [hdetect] at hafter
        exact absurd hafter (by decide)
  | false =>
      obtain ⟨hunchanged, ⟨hkept, hlive⟩ | ⟨hleft, pid, hlive⟩⟩ := hlaunch
      · refine ⟨fun _ => ?_, fun hleft => absurd hleft hkept⟩
        exact held_of_none ((hq.trans hunchanged).trans hnone) (by rw [hw, hlive, hempty])
      · refine ⟨fun hkept => absurd hleft hkept, fun _ howned => ?_⟩
        have hrecorded := howned pid (by rw [hw, hlive]; exact Finset.mem_insert_self pid _)
        rw [(hq.trans hunchanged).trans hnone] at hrecorded
        cases hrecorded

/-- Shutting QEMU down keeps the invariant if the system ends the recorded process. -/
lemma held_shutdown (hs : Held s) (hstate : ¬ s.1.sm.state.OnShutdownPath) :
    let t := applyQemu s (.Perform .StepShutdown h os)
    let ends := ∀ q, s.1.sm.rt.qemu = some q → q.pid ∈ s.2.live → os.Ended q s.2.rest
    (ends → Held t) ∧ (¬ ends → ¬ Owned t) := by
  have hadvance : (applyQemu s (.Perform .StepShutdown h os)).1.sm.rt.qemu =
        (outcome (os.shutdown s.1.sm.rt) (s.1.sm.rt.qemu, s.2)).2.1 ∧
      (applyQemu s (.Perform .StepShutdown h os)).2 =
        (outcome (os.shutdown s.1.sm.rt) (s.1.sm.rt.qemu, s.2)).2.2 :=
    ⟨(advance_shutdown hstate).1, (advance_shutdown hstate).2.1⟩
  have hshutdown := (os.shutdown_handle s.1.sm.rt (s.1.sm.rt.qemu, s.2)).outcome
  dsimp only
  generalize applyQemu s (.Perform .StepShutdown h os) = t at hadvance ⊢
  generalize outcome (os.shutdown s.1.sm.rt) (s.1.sm.rt.qemu, s.2) = r at hadvance hshutdown
  obtain ⟨ok, q, w⟩ := r
  obtain ⟨hq, hw⟩ := hadvance
  cases ok with
  | true =>
      obtain ⟨htaken, ⟨hnone, hlive⟩ | ⟨q', hsome, hended, hlive⟩⟩ := hshutdown
      · have hempty := hs.owned.live_eq_empty hnone
        refine ⟨fun _ => held_of_none (hq.trans htaken) (by rw [hw, hlive, hempty]), fun hnot => ?_⟩
        exact absurd (fun q' hsome => absurd (hnone.symm.trans hsome) (by simp)) hnot
      · have hempty : w.live = ∅ := by
          rw [hlive, Finset.erase_eq_empty_iff]
          exact Finset.subset_singleton_iff.mp (hs.owned.live_subset hsome)
        refine ⟨fun _ => held_of_none (hq.trans htaken) (by rw [hw, hempty]), fun hnot => ?_⟩
        refine absurd (fun q'' hsome' _ => ?_) hnot
        rw [← Option.some.inj (hsome.symm.trans hsome')]
        exact hended
  | false =>
      obtain ⟨htaken, hlive, q', hsome, hrefused⟩ := hshutdown
      have hends : (∀ q, s.1.sm.rt.qemu = some q → q.pid ∈ s.2.live → os.Ended q s.2.rest) ↔
          q'.pid ∉ s.2.live := by
        constructor
        · exact fun hends halive => hrefused (hends q' hsome halive)
        · intro hexited q'' hsome' halive
          rw [← Option.some.inj (hsome.symm.trans hsome')] at halive
          exact absurd halive hexited
      rw [hends, not_not]
      constructor
      · intro hexited
        have hempty := hs.owned.live_eq_empty_of_exited hsome hexited
        exact held_of_none (hq.trans htaken) (by rw [hw, hlive, hempty])
      · intro halive howned
        have hrecorded := howned q'.pid (by rw [hw, hlive]; exact halive)
        rw [hq.trans htaken] at hrecorded
        cases hrecorded

/-- The operations that call neither `launch` nor `shutdown` keep the invariant. -/
lemma held_other {op : Op} (hs : Held s) (hlaunch : .LaunchQemu ∉ op.work s.1.sm.state)
    (hshutdown : .ShutdownQemu ∉ op.work s.1.sm.state) :
    Held (applyQemu s (.Perform op h os)) := by
  obtain ⟨hq, hlive⟩ : (applyQemu s (.Perform op h os)).1.sm.rt.qemu = s.1.sm.rt.qemu ∧
      (applyQemu s (.Perform op h os)).2.live = s.2.live := advance_other hlaunch hshutdown
  have hlaw := observe_lawful (s.1.sm, s.2) (op, h.withQemu os)
  refine hs.quiet hq (Finset.subset_of_eq hlive) hlaw.rank_le fun hafter => ?_
  by_contra hbefore
  have hafter' : (observe (s.1.sm, s.2) (op, h.withQemu os)).after.OnShutdownPath := hafter
  rcases hlaw.moves with hstays | hnext
  · rw [hstays] at hafter'
    exact hbefore hafter'
  · have hop : op = .StepShutdown := onShutdownPath_of_next hnext hafter hbefore
    rw [hop, work_stepShutdown hbefore] at hshutdown
    exact hshutdown List.mem_cons_self

/-- An operation of the state machine that is handled keeps the invariant, and one that is not
leaves a process behind. -/
lemma held_perform (hs : Held s) (op : Op) :
    (Handled s (.Perform op h os) → Held (applyQemu s (.Perform op h os))) ∧
      (¬ Handled s (.Perform op h os) → ¬ Owned (applyQemu s (.Perform op h os))) := by
  cases op with
  | Step =>
      by_cases hstate : s.1.sm.state = .LaunchQemu
      · obtain ⟨hheld, hleft⟩ := held_launch h os hs hstate
        exact ⟨fun hhandled => hheld (hhandled hstate),
          fun hnot => hleft (by simpa [Handled, hstate] using hnot)⟩
      · have hheld : Held (applyQemu s (.Perform .Step h os)) := by
          refine held_other h os hs (fun hcall => ?_) fun hcall => ?_
          · exact hstate (Option.some.inj (phase_of_mem_work hcall)).symm
          · exact absurd (phase_of_mem_work hcall) (by simp [Callee.phase])
        exact ⟨fun _ => hheld, fun hnot => absurd (fun h => absurd h hstate) hnot⟩
  | StepShutdown =>
      by_cases hpath : s.1.sm.state.OnShutdownPath
      · have hheld : Held (applyQemu s (.Perform .StepShutdown h os)) := by
          refine held_other h os hs (fun hcall => ?_) (work_of_onShutdownPath hpath)
          exact absurd (phase_of_mem_work hcall) (by simp [Callee.phase])
        exact ⟨fun _ => hheld, fun hnot => absurd (fun h => absurd hpath h) hnot⟩
      · obtain ⟨hheld, hleft⟩ := held_shutdown h os hs hpath
        exact ⟨fun hhandled => hheld (hhandled hpath),
          fun hnot => hleft fun hends => hnot fun _ => hends⟩

/-- **What an event does.**  If it is handled, it keeps the invariant; if not, it leaves a process
that nothing refers to. -/
theorem held_applyQemu (hs : Held s) (event : QemuOp V) :
    (Handled s event → Held (applyQemu s event)) ∧
      (¬ Handled s event → ¬ Owned (applyQemu s event)) := by
  cases event with
  | Perform op h os => exact held_perform h os hs op
  | GuestExit pid =>
      have hheld : Held (applyQemu s (.GuestExit pid)) :=
        hs.quiet rfl (Finset.erase_subset pid s.2.live) le_rfl id
      exact ⟨fun _ => hheld, fun hnot => absurd trivial hnot⟩
  | Poll failure =>
      refine ⟨fun _ => ?_, fun hnot => absurd trivial hnot⟩
      rcases pollQemu_cases (s.2.tryWait failure) s.1 with hpoll | ⟨-, ⟨q, hq, hwait⟩, hpoll⟩
      · rw [applyQemu, hpoll]
        exact hs
      · have hexited : q.pid ∉ s.2.live := by
          cases failure with
          | none => simpa [QemuWorld.tryWait] using hwait
          | some e => cases hwait
        rw [applyQemu, hpoll]
        exact held_of_none rfl (hs.owned.live_eq_empty_of_exited hq hexited)
  | Renew name cfg cpus =>
      refine ⟨fun _ => ?_, fun hnot => absurd trivial hnot⟩
      rw [applyQemu]
      split_ifs with hidle
      · have hnone := hs.after (by rw [hidle]; decide)
        exact held_of_none rfl (hs.owned.live_eq_empty hnone)
      · exact hs

/-- The host is restored when no process is recorded. -/
lemma QemuOp.Restores.qemu_eq_none {event : QemuOp V} (hs : Held s) (h : event.Restores s) :
    s.1.sm.rt.qemu = none := by
  cases event with
  | Perform op h' os =>
      obtain ⟨⟨c, ok⟩, hcall, hc⟩ := h
      have hlaw := observe_lawful (s.1.sm, s.2) (op, h'.withQemu os)
      have hstate : s.1.sm.state = .Shutdown :=
        shutdown_of_mem_work (hlaw.mem_work hcall) (hc.imp_right .inl)
      exact hs.after (by rw [hstate]; decide)
  | GuestExit _ | Poll _ | Renew _ _ _ => exact h.elim

end

/-! ## Runs -/

/-- **Who owns the processes.**  In every state of a run all live processes are the recorded one
exactly when all its events are handled.  Then there is never a second process, and the host is
restored only when there is none. -/
theorem qemu_owned_iff (name : String) (cfg : VmConfig) (cpus : VmCpuLayout) (rest : V)
    (events : List (QemuOp V)) :
    let s : DaemonVm × QemuWorld V := (DaemonVm.fresh name cfg cpus, ⟨∅, rest⟩)
    ((∀ pre, pre <+: events → Owned (run applyQemu s pre)) ↔
        Along applyQemu Handled s events) ∧
      (Along applyQemu Handled s events → ∀ pre, pre <+: events →
        (run applyQemu s pre).2.live.card ≤ 1) ∧
      (Along applyQemu Handled s events → Along applyQemu
        (fun t event => event.Restores t → t.2.live = ∅) s events) := by
  intro s
  have hs : Held s := held_of_none rfl rfl
  have howned := along_iff_forall_prefix (C := Handled) (I := Held) (J := Owned)
    (fun _ h => h.owned)
    (fun t event ht => ⟨fun h => ((held_applyQemu ht event).1 h).owned,
      fun h => not_not.mp fun hnot => (held_applyQemu ht event).2 hnot h⟩)
    (fun t event ht => (held_applyQemu ht event).1) hs events
  refine ⟨howned.symm, ?_, ?_⟩
  · intro hhandled pre hpre
    exact (howned.mp hhandled pre hpre).card_le_one
  · intro hhandled
    refine along_of_invariant (I := Held) (fun t event ht => (held_applyQemu ht event).1) ?_ hs
      hhandled
    intro t event ht _ hrestores
    exact ht.owned.live_eq_empty (hrestores.qemu_eq_none ht)

/-! ## A process left behind -/

/-- The host that makes the cpusets of a VM, and on which every other call does nothing. -/
def reservingHost : Host Unit where
  call
    | .ReserveCpus, _ => fun t => .ok () (some (CgroupPaths.ofRoot "/sys/fs/cgroup"), t.2)
    | _, _ => pure ()
  detectCpuIdentity _ := none
  numaTopology _ := .ok ⟨[]⟩

/-- A system on which process 7 starts, and which refuses to move it into the cpuset. -/
def refusingCalls : SystemCalls Unit where
  createRunDir := pure ()
  prepareLookingGlassShm _ := pure ()
  buildCommand name _ _ := .ok ⟨"qemu-system-x86_64", [], s!"/run/chalybs/{name}.qmp"⟩
  spawn _ _ := .ok 7
  fileExists _ _ := true
  writeFile _ _ := throw "Device or resource busy (os error 16)"
  kill _ _ := .ok ()
  wait _ _ := .ok ()
  cleanupLookingGlassShm _ rest := rest

/-- After the steps of bring-up up to the launch nothing refers to process 7, and it is alive when
the shutdown restores the host. -/
theorem launch_leaves_child :
    let s : DaemonVm × QemuWorld Unit :=
      (DaemonVm.fresh "a" (minimalVmConfig {} {}) ⟨⟨[0]⟩, ⟨[1]⟩⟩, ⟨∅, ()⟩)
    let step : QemuOp Unit := .Perform .Step reservingHost refusingCalls
    let stepShutdown : QemuOp Unit := .Perform .StepShutdown reservingHost refusingCalls
    let launched := run applyQemu s (List.replicate 6 step)
    let stopped := applyQemu launched stepShutdown
    ¬ Owned launched ∧ stopped.2.live = {7} ∧ stepShutdown.Restores stopped := by
  refine ⟨fun howned => ?_, by decide, ?_⟩
  · have hrecorded := howned 7 (by decide)
    cases hrecorded
  · exact ⟨(.RestorePci, true), by decide, .inl rfl⟩

end Chalybs
