import Chalybs.Machine.Calls

/-!
# What holds of every history

The guarantees of the lifecycle over whole runs: any sequence of `step` and `step_shutdown` calls
on a new machine, each on a host of its own, so that every call of every phase may succeed or fail.

* `OrderlyHistory` — the guarantees.
* `lifecycle_orderly` — every history has them.
-/

namespace Chalybs

open Foundation

/-- The order in which a VM goes through its lifecycle. -/
structure OrderlyHistory (es : List Entry) : Prop where
  /-- An operation that fails leaves the state as it was. -/
  failed_stays : ∀ e ∈ es, e.ok = false → e.after = e.before
  /-- An operation that succeeds has made all the calls of its state, and all of them succeeded. -/
  calls_of_ok : ∀ e ∈ es, e.ok = true → e.calls = (e.op.work e.before).map (·, true)
  /-- The functions of a bring-up phase are called by a `step` in the state of the phase only. -/
  calls_of_phase : ∀ e ∈ es, ∀ call ∈ e.calls, ∀ p, call.1.phase = some p → e.Starts p
  /-- A phase starts only after a success of every earlier one. -/
  phases_in_order : ∀ pre e post, es = pre ++ e :: post → ∀ p, p.IsBringUp → e.Starts p →
    ∀ q : VmState, q.rank < p.rank → ∃ e' ∈ pre, e'.Succeeds q
  /-- QEMU is launched only after the four phases that prepare the host. -/
  launch_prepared : ∀ pre e post, es = pre ++ e :: post → ∀ ok, (.LaunchQemu, ok) ∈ e.calls →
    ∀ q ∈ [VmState.Validate, .PrepareHugepages, .PreparePci, .ReserveCpus],
      ∃ e' ∈ pre, e'.Succeeds q
  /-- No bring-up phase succeeds a second time. -/
  succeeds_once : ∀ pre e post, es = pre ++ e :: post → ∀ p, p.IsBringUp → e.Succeeds p →
    ∀ e' ∈ post, ¬ e'.Succeeds p
  /-- From Shutdown on there is no bring-up work, `step` is refused, and the state only advances
  from Shutdown to Cleanup and from Cleanup to Idle. -/
  no_way_back : ∀ pre e post, es = pre ++ e :: post → e.after.OnShutdownPath → ∀ e' ∈ post,
    (∀ call ∈ e'.calls, call.1.phase = none) ∧ (e'.op = .Step → e'.ok = false ∧ e'.calls = []) ∧
      e'.before.OnShutdownPath ∧
      (e'.after = e'.before ∨ e'.before = .Shutdown ∧ e'.after = .Cleanup ∨
        e'.before = .Cleanup ∧ e'.after = .Idle)
  /-- The host is restored only after QEMU has been shut down with success. -/
  restored_after_qemu : ∀ pre e post, es = pre ++ e :: post → ∀ c ok, (c, ok) ∈ e.calls →
    c = .RestorePci ∨ c = .CleanupHugepages ∨ c = .ApplyVmDown →
      ∃ e' ∈ pre, (.ShutdownQemu, true) ∈ e'.calls

lemma Follows.lawful {s t : VmState} {es : List Entry} (h : Follows s es t) {e : Entry}
    (he : e ∈ es) : e.Lawful := by
  obtain ⟨pre, post, rfl⟩ := List.append_of_mem he
  exact h.split.2.1

/-- The histories of the automaton that start in Init are orderly. -/
theorem Follows.orderly {t : VmState} {es : List Entry} (h : Follows .Init es t) :
    OrderlyHistory es where
  failed_stays _ he := (h.lawful he).stays
  calls_of_ok _ he := (h.lawful he).calls_of_ok
  calls_of_phase _ he _ hcall _ hp := (h.lawful he).starts_of_call hcall hp
  phases_in_order := by
    rintro pre e post rfl _ hup ⟨-, rfl⟩ q hq
    have hpath : ¬ e.before.OnShutdownPath := fun hpath => by
      have hgap : VmState.Steady.rank < VmState.Shutdown.rank := by decide
      exact absurd hup (not_lt.mpr (hgap.le.trans hpath))
    exact h.split.1.exists_succeeds (Nat.zero_le _) hq hpath
  launch_prepared := by
    rintro pre e post rfl ok hcall q hq
    obtain ⟨-, hbefore⟩ := h.split.2.1.starts_of_call hcall rfl
    have hrank : q.rank < e.before.rank := by
      rw [hbefore]
      revert q
      decide
    exact h.split.1.exists_succeeds (Nat.zero_le _) hrank (by rw [hbefore]; decide)
  succeeds_once := by
    rintro pre e post rfl p hp he e' he'
    obtain ⟨-, hlaw, hpost⟩ := h.split
    exact Follows.not_succeeds_again (s := e.before) ⟨rfl, hlaw, hpost⟩ hp he he'
  no_way_back := by
    rintro pre e post rfl hpath e' he'
    exact h.split.2.2.shutdown_path hpath he'
  restored_after_qemu := by
    rintro pre e post rfl c ok hcall hc
    have hbefore := shutdown_of_mem_work (h.split.2.1.mem_work hcall) hc
    exact h.split.1.exists_shutdownQemu (by decide) (by rw [hbefore]; decide)

/-- **The lifecycle is kept in order.**  Every history of a new machine is orderly, whatever the
calls do. -/
theorem lifecycle_orderly {W : Type} (rt : VmRuntime) (w : W) (ops : List (Op × Host W)) :
    OrderlyHistory (history (VmStateMachine.new rt, w) ops) :=
  (history_follows (VmStateMachine.new rt, w) ops).orderly

end Chalybs
