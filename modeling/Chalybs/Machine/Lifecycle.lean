import Chalybs.Machine.State

/-!
# The lifecycle of a VM

What the state machine is for, without runtimes, hosts or texts: an automaton on the documented
chain of states, whose operations call functions of the phases and may fail.  A history is the list
of the operations applied so far, each with the calls it made.

* `Op.next`, `Op.work` — where an operation leads when it succeeds, and which functions it calls.
* `Entry.Lawful` — what one operation can do.
* `Follows` — a history whose entries are lawful and fit together.
* `Follows.exists_succeeds`, `Follows.shutdown_path`, `Follows.exists_shutdownQemu` — what every
  history satisfies.
-/

namespace Chalybs

/-! ## The chain -/

/-- The states in the order in which a VM goes through them. -/
def lifecycle : List VmState :=
  [.Init, .Validate, .PrepareHugepages, .PreparePci, .ReserveCpus, .LaunchQemu, .DetectThreads,
    .PinVcpus, .DetectMsi, .PinIrqs, .PeripheralHooks, .Steady, .Shutdown, .Cleanup, .Idle]

/-- The position of a state in the chain. -/
def VmState.rank (s : VmState) : ℕ := lifecycle.idxOf s

/-- The phases that lead to Steady. -/
def VmState.IsBringUp (s : VmState) : Prop := s.rank < VmState.Steady.rank

/-- The states from which bring-up is over for good. -/
def VmState.OnShutdownPath (s : VmState) : Prop := VmState.Shutdown.rank ≤ s.rank

instance (s : VmState) : Decidable s.IsBringUp := inferInstanceAs (Decidable (_ < _))

instance (s : VmState) : Decidable s.OnShutdownPath := inferInstanceAs (Decidable (_ ≤ _))

lemma VmState.rank_inj {s t : VmState} (h : s.rank = t.rank) : s = t := by
  have hs : s ∈ lifecycle := by cases s <;> decide
  exact (List.idxOf_inj hs).mp h

/-- Idle comes last. -/
lemma idle_of_rank_le {s : VmState} (h : VmState.Idle.rank ≤ s.rank) : s = .Idle := by
  revert h
  cases s <;> decide

/-! ## Operations -/

/-- The two operations. -/
inductive Op
  | Step
  | StepShutdown
  deriving DecidableEq, Repr

/-- Where the operation leads when it succeeds; `none` when it is refused. -/
def Op.next : Op → VmState → Option VmState
  | .Step, s =>
      if s = .Steady then some .Steady
      else if s.IsBringUp then lifecycle[s.rank + 1]?
      else none
  | .StepShutdown, s =>
      match s with
      | .Shutdown => some .Cleanup
      | .Cleanup | .Idle => some .Idle
      | _ => some .Shutdown

/-- The functions the operation calls, in order. -/
def Op.work : Op → VmState → List Callee
  | .Step, .Validate => [.CpusetPreflight, .QemuPreflight, .PreflightGpuPolicy]
  | .Step, .PrepareHugepages => [.ProvisionHugepages]
  | .Step, .PreparePci => [.StagePci]
  | .Step, .ReserveCpus => [.ReserveCpus]
  | .Step, .LaunchQemu => [.LaunchQemu]
  | .Step, .DetectThreads => [.WaitForQemuThreads]
  | .Step, .PinVcpus => [.PinVcpus]
  | .Step, .DetectMsi => [.SpawnIrqPinWorker]
  | .Step, .PeripheralHooks => [.ApplyVmUp]
  | .Step, _ => []
  | .StepShutdown, .Shutdown => [.RestorePci, .CleanupCpus, .CleanupHugepages, .ApplyVmDown]
  | .StepShutdown, .Cleanup | .StepShutdown, .Idle => []
  | .StepShutdown, _ => [.ShutdownQemu]

/-- The bring-up phase whose work the function is; the functions of the shutdown sequence have
none. -/
def Callee.phase : Callee → Option VmState
  | .CpusetPreflight | .QemuPreflight | .PreflightGpuPolicy => some .Validate
  | .ProvisionHugepages => some .PrepareHugepages
  | .StagePci => some .PreparePci
  | .ReserveCpus => some .ReserveCpus
  | .LaunchQemu => some .LaunchQemu
  | .WaitForQemuThreads => some .DetectThreads
  | .PinVcpus => some .PinVcpus
  | .SpawnIrqPinWorker => some .DetectMsi
  | .ApplyVmUp => some .PeripheralHooks
  | .ShutdownQemu | .RestorePci | .CleanupCpus | .CleanupHugepages | .ApplyVmDown => none

/-- One operation of a history: the states before and after, whether it succeeded, and the calls it
made with their outcomes. -/
structure Entry where
  op : Op
  before : VmState
  after : VmState
  ok : Bool
  calls : List (Callee × Bool)
  deriving DecidableEq, Repr

/-- The entry starts the work of a bring-up phase. -/
def Entry.Starts (e : Entry) (p : VmState) : Prop := e.op = .Step ∧ e.before = p

/-- The entry is a success of the phase. -/
def Entry.Succeeds (e : Entry) (p : VmState) : Prop := e.Starts p ∧ e.ok = true

/-- **What one operation can do.**  It calls its functions in order and stops at the first that
fails; it succeeds only if all of them do, and moves only if it succeeds. -/
structure Entry.Lawful (e : Entry) : Prop where
  calls_prefix : e.calls.map Prod.fst <+: e.op.work e.before
  calls_of_ok : e.ok = true → e.calls = (e.op.work e.before).map (·, true)
  next_of_ok : e.ok = true → e.op.next e.before = some e.after
  stays : e.ok = false → e.after = e.before

/-- The history leads from one state to another. -/
def Follows : VmState → List Entry → VmState → Prop
  | s, [], t => t = s
  | s, e :: es, t => e.before = s ∧ e.Lawful ∧ Follows e.after es t

section

variable {s t u p q : VmState} {e : Entry} {es es' : List Entry} {c : Callee}

lemma follows_append : Follows s (es ++ es') t ↔ ∃ u, Follows s es u ∧ Follows u es' t := by
  induction es generalizing s with
  | nil => simp [Follows]
  | cons e es ih =>
      simp only [List.cons_append, Follows, ih]
      constructor
      · rintro ⟨hs, he, u, hu, ht⟩
        exact ⟨u, ⟨hs, he, hu⟩, ht⟩
      · rintro ⟨u, ⟨hs, he, hu⟩, ht⟩
        exact ⟨hs, he, u, hu, ht⟩

/-- A history split at one of its entries. -/
lemma Follows.split {pre post : List Entry} (h : Follows s (pre ++ e :: post) t) :
    Follows s pre e.before ∧ e.Lawful ∧ Follows e.after post t := by
  obtain ⟨u, hpre, rfl, he, hpost⟩ := follows_append.mp h
  exact ⟨hpre, he, hpost⟩

/-! ## The finite facts -/

lemma eq_of_onShutdownPath (h : s.OnShutdownPath) : s = .Shutdown ∨ s = .Cleanup ∨ s = .Idle := by
  revert h
  cases s <;> decide

lemma next_step (h : Op.next .Step s = some t) :
    s = .Steady ∧ t = .Steady ∨ s.IsBringUp ∧ t.rank = s.rank + 1 := by
  revert t
  cases s <;> decide

lemma next_stepShutdown (h : Op.next .StepShutdown s = some t) :
    ¬ s.OnShutdownPath ∧ t = .Shutdown ∨
      s.OnShutdownPath ∧ (t.rank = s.rank + 1 ∨ s = .Idle ∧ t = .Idle) := by
  revert t
  cases s <;> decide

lemma rank_lt_of_next_stepShutdown (h : Op.next .StepShutdown s = some t) (hs : s ≠ .Idle) :
    s.rank < t.rank ∧ t.rank ≤ VmState.Idle.rank := by
  revert t
  revert hs
  cases s <;> decide

/-- After Shutdown nothing is called any more. -/
lemma work_of_shutdown_lt {op : Op} (h : VmState.Shutdown.rank < s.rank) : op.work s = [] := by
  revert h
  cases op <;> cases s <;> decide

/-- The way past Shutdown is `step_shutdown` in Shutdown. -/
lemma shutdown_of_next {op : Op} (h : op.next s = some t) (hs : ¬ VmState.Shutdown.rank < s.rank)
    (ht : VmState.Shutdown.rank < t.rank) : op = .StepShutdown ∧ s = .Shutdown := by
  revert t
  revert hs
  cases op <;> cases s <;> decide

lemma rank_le_of_next {op : Op} (h : op.next s = some t) : s.rank ≤ t.rank := by
  revert t
  cases op <;> cases s <;> decide

lemma work_stepShutdown (h : ¬ s.OnShutdownPath) : Op.work .StepShutdown s = [.ShutdownQemu] := by
  revert h
  cases s <;> decide

lemma work_of_onShutdownPath {op : Op} (h : s.OnShutdownPath) : .ShutdownQemu ∉ op.work s := by
  revert h
  cases op <;> cases s <;> decide

lemma onShutdownPath_of_next {op : Op} (h : op.next s = some t) (ht : t.OnShutdownPath)
    (hs : ¬ s.OnShutdownPath) : op = .StepShutdown := by
  revert t
  revert hs
  cases op <;> cases s <;> decide

lemma next_step_of_onShutdownPath (h : s.OnShutdownPath) : Op.next .Step s = none := by
  revert h
  cases s <;> decide

lemma work_step_of_onShutdownPath (h : s.OnShutdownPath) : Op.work .Step s = [] := by
  revert h
  cases s <;> decide

lemma next_of_onShutdownPath (hs : s.OnShutdownPath) (h : Op.next .StepShutdown s = some t) :
    t = s ∨ s = .Shutdown ∧ t = .Cleanup ∨ s = .Cleanup ∧ t = .Idle := by
  revert t
  revert hs
  cases s <;> decide

/-- The functions an operation calls are those of the phase it starts. -/
lemma phase_of_mem_work {op : Op} (h : c ∈ op.work s) :
    c.phase = if op = .Step then some s else none := by
  revert c
  cases op <;> cases s <;> decide

/-- The work of a bring-up phase is done by `step` in that phase. -/
lemma step_of_mem_work {op : Op} (h : c ∈ op.work s) (hp : c.phase = some p) :
    op = .Step ∧ s = p := by
  have hphase := phase_of_mem_work h
  rw [hp] at hphase
  cases op with
  | Step => exact ⟨rfl, (Option.some.inj hphase).symm⟩
  | StepShutdown => cases hphase

/-- The work of the shutdown sequence is done by `step_shutdown`. -/
lemma stepShutdown_of_mem_work {op : Op} (h : c ∈ op.work s) (hp : c.phase = none) :
    op = .StepShutdown := by
  have hphase := phase_of_mem_work h
  rw [hp] at hphase
  cases op with
  | Step => cases hphase
  | StepShutdown => rfl

/-- Undoing the effects of bring-up is the work of the Shutdown state alone. -/
lemma shutdown_of_mem_work {op : Op} (h : c ∈ op.work s)
    (hc : c = .RestorePci ∨ c = .CleanupHugepages ∨ c = .ApplyVmDown) : s = .Shutdown := by
  revert c
  cases op <;> cases s <;> decide

/-! ## Single entries -/

lemma Entry.Lawful.mem_work (h : e.Lawful) {ok : Bool} (hc : (c, ok) ∈ e.calls) :
    c ∈ e.op.work e.before :=
  h.calls_prefix.mem (List.mem_map.mpr ⟨_, hc, rfl⟩)

lemma Entry.Lawful.rank_le (h : e.Lawful) : e.before.rank ≤ e.after.rank := by
  cases hok : e.ok with
  | false => rw [h.stays hok]
  | true => exact rank_le_of_next (h.next_of_ok hok)

/-- An entry stays where it was or goes where its operation leads. -/
lemma Entry.Lawful.moves (h : e.Lawful) :
    e.after = e.before ∨ e.op.next e.before = some e.after := by
  cases hok : e.ok with
  | false => exact .inl (h.stays hok)
  | true => exact .inr (h.next_of_ok hok)

/-- A call of a bring-up function is made by an entry that starts its phase. -/
lemma Entry.Lawful.starts_of_call (h : e.Lawful) {ok : Bool} (hc : (c, ok) ∈ e.calls)
    (hp : c.phase = some p) : e.Starts p := by
  have hphase := phase_of_mem_work (h.mem_work hc)
  rw [hp] at hphase
  split_ifs at hphase with hop
  exact ⟨hop, (Option.some.inj hphase).symm⟩

/-- An entry that leaves the chain of bring-up has shut QEMU down. -/
lemma Entry.Lawful.shutdownQemu (h : e.Lawful) (hbefore : ¬ e.before.OnShutdownPath)
    (hafter : e.after.OnShutdownPath) : (.ShutdownQemu, true) ∈ e.calls := by
  have hok : e.ok = true := by
    by_contra hfail
    rw [h.stays (by simpa using hfail)] at hafter
    exact hbefore hafter
  have hnext := h.next_of_ok hok
  cases hop : e.op with
  | Step =>
      rw [hop] at hnext
      rcases next_step hnext with ⟨-, hsteady⟩ | ⟨hup, hrank⟩
      · rw [hsteady] at hafter
        exact absurd hafter (by decide)
      · have hlt : e.before.rank < VmState.Steady.rank := hup
        have hle : VmState.Shutdown.rank ≤ e.after.rank := hafter
        have hgap : VmState.Shutdown.rank = VmState.Steady.rank + 1 := by decide
        omega
  | StepShutdown =>
      rw [h.calls_of_ok hok, hop, work_stepShutdown hbefore]
      simp

/-! ## Whole histories -/

/-- A history never goes back. -/
lemma Follows.rank_le (h : Follows s es t) : s.rank ≤ t.rank := by
  induction es generalizing s with
  | nil => rw [h]
  | cons e es ih =>
      obtain ⟨rfl, he, htail⟩ := h
      exact he.rank_le.trans (ih htail)

/-- **Phases in order.**  A history that reached a state of the chain has a success of every phase
it went through. -/
theorem Follows.exists_succeeds (h : Follows s es t) (hs : s.rank ≤ q.rank)
    (hqt : q.rank < t.rank) (ht : ¬ t.OnShutdownPath) : ∃ e ∈ es, e.Succeeds q := by
  induction es generalizing s with
  | nil =>
      rw [h] at hqt
      exact absurd hqt (by omega)
  | cons e es ih =>
      obtain ⟨rfl, he, htail⟩ := h
      by_cases hrank : e.after.rank ≤ q.rank
      · obtain ⟨e', he', hq⟩ := ih htail hrank
        exact ⟨e', List.mem_cons_of_mem e he', hq⟩
      · -- this entry went beyond `q`, so it is the success of `q`
        have hok : e.ok = true := by
          by_contra hfail
          rw [he.stays (by simpa using hfail)] at hrank
          exact hrank hs
        have hnext := he.next_of_ok hok
        have hpath : ¬ e.after.OnShutdownPath := fun hp => ht (le_trans hp htail.rank_le)
        cases hop : e.op with
        | Step =>
            rw [hop] at hnext
            rcases next_step hnext with ⟨hb, ha⟩ | ⟨-, ha⟩
            · rw [ha, ← hb] at hrank
              exact absurd hs hrank
            · have heq : e.before = q := VmState.rank_inj (by omega)
              exact ⟨e, List.mem_cons_self, ⟨hop, heq⟩, hok⟩
        | StepShutdown =>
            rw [hop] at hnext
            rcases next_stepShutdown hnext with ⟨-, ha⟩ | ⟨hb, -⟩
            · exact absurd (ha ▸ le_refl _) hpath
            · exact absurd (le_trans hb he.rank_le) hpath

/-- **No way back.**  On the shutdown path no bring-up function is called, `step` is refused, and
the state moves at most one place down the chain. -/
theorem Follows.shutdown_path (h : Follows s es t) (hs : s.OnShutdownPath) (he : e ∈ es) :
    (∀ call ∈ e.calls, call.1.phase = none) ∧ (e.op = .Step → e.ok = false ∧ e.calls = []) ∧
      e.before.OnShutdownPath ∧
      (e.after = e.before ∨ e.before = .Shutdown ∧ e.after = .Cleanup ∨
        e.before = .Cleanup ∧ e.after = .Idle) := by
  induction es generalizing s with
  | nil => exact absurd he List.not_mem_nil
  | cons e' es ih =>
      obtain ⟨rfl, hlaw, htail⟩ := h
      rcases List.mem_cons.mp he with rfl | he
      · have hrefused : e.op = .Step → e.ok = false ∧ e.calls = [] := by
          intro hop
          refine ⟨?_, ?_⟩
          · by_contra hok
            have hnext := hlaw.next_of_ok (by simpa using hok)
            rw [hop, next_step_of_onShutdownPath hs] at hnext
            cases hnext
          · have hprefix := hlaw.calls_prefix
            rw [hop, work_step_of_onShutdownPath hs] at hprefix
            simpa using hprefix
        refine ⟨fun call hcall => ?_, hrefused, hs, ?_⟩
        · cases hop : e.op with
          | Step =>
              rw [(hrefused hop).2] at hcall
              exact absurd hcall List.not_mem_nil
          | StepShutdown => simpa [hop] using phase_of_mem_work (hlaw.mem_work hcall)
        · cases hok : e.ok with
          | false => exact .inl (hlaw.stays hok)
          | true =>
              have hop : e.op = .StepShutdown := by
                cases hop : e.op with
                | Step => rw [(hrefused hop).1] at hok; cases hok
                | StepShutdown => rfl
              have hnext := hlaw.next_of_ok hok
              rw [hop] at hnext
              exact next_of_onShutdownPath hs hnext
      · exact ih htail (le_trans hs hlaw.rank_le) he

/-- **QEMU is shut down first.**  A history that came to the shutdown path has a successful call of
`qemu::shutdown`. -/
theorem Follows.exists_shutdownQemu (h : Follows s es t) (hs : ¬ s.OnShutdownPath)
    (ht : t.OnShutdownPath) : ∃ e ∈ es, (.ShutdownQemu, true) ∈ e.calls := by
  induction es generalizing s with
  | nil =>
      rw [h] at ht
      exact absurd ht hs
  | cons e es ih =>
      obtain ⟨rfl, he, htail⟩ := h
      by_cases hafter : e.after.OnShutdownPath
      · exact ⟨e, List.mem_cons_self, he.shutdownQemu hs hafter⟩
      · obtain ⟨e', he', hc⟩ := ih htail hafter
        exact ⟨e', List.mem_cons_of_mem e he', hc⟩

/-- **No phase succeeds twice.** -/
theorem Follows.not_succeeds_again (h : Follows s (e :: es) t) (hp : p.IsBringUp)
    (he : e.Succeeds p) {e' : Entry} (he' : e' ∈ es) : ¬ e'.Succeeds p := by
  rintro ⟨⟨-, hbefore⟩, -⟩
  obtain ⟨rfl, hlaw, htail⟩ := h
  obtain ⟨⟨hop, rfl⟩, hok⟩ := he
  obtain ⟨pre, post, rfl⟩ := List.append_of_mem he'
  have hnext := hlaw.next_of_ok hok
  have hle := htail.split.1.rank_le
  rw [hop] at hnext
  rcases next_step hnext with ⟨hsteady, -⟩ | ⟨-, hrank⟩
  · rw [hsteady] at hp
    exact absurd hp (by decide)
  · rw [hbefore] at hle
    omega

end

end Chalybs
