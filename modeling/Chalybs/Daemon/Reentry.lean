import Chalybs.Daemon.Run

/-!
# No re-entry

A bring-up phase that failed is not run again on the same runtime: the daemon sets the desired
state to Stopped and shuts the machine down.  A command that starts the VM before the next tick
undoes this, and the phase is run a second time.

* `LifeEvent`, `record` — the journal of a run: which operations were performed on which VM, and
  when a VM got a new runtime.
* `NoReentry` — no bring-up phase after a failed one on the same runtime.
* `noReentry_iff` — when the journal of a run has no re-entry.
-/

namespace Chalybs

open Foundation

variable {W : Type}

/-! ## The journal -/

/-- A VM got a new runtime, or an operation was performed on its machine. -/
inductive LifeEvent
  | Fresh (name : String)
  | Ran (name : String) (op : Op) (before : VmState) (ok : Bool)
  deriving DecidableEq, Repr

def LifeEvent.name : LifeEvent → String
  | .Fresh name => name
  | .Ran name _ _ _ => name

/-- The VMs whose machine is another one than before. -/
def DaemonState.renewed (d d' : DaemonState) : List String :=
  d'.vms.keys.filter fun name =>
    decide ((d'.vms.lookup name).map DaemonVm.sm ≠ (d.vms.lookup name).map DaemonVm.sm)

lemma mem_renewed {d d' : DaemonState} {name : String} {vm : DaemonVm}
    (h : d'.vms.lookup name = some vm) :
    name ∈ d.renewed d' ↔ some vm.sm ≠ (d.vms.lookup name).map DaemonVm.sm := by
  have hmem : name ∈ d'.vms.keys := AList.mem_keys.mp (AList.lookup_isSome.mp (by rw [h]; rfl))
  simp [DaemonState.renewed, h, hmem]

/-- The new machine is in Init, and a machine that there was is in Idle. -/
lemma mem_renewed_of_new {d d' : DaemonState} {name : String} {vmCfg : VmConfig} {vm : DaemonVm}
    (hidle : ∀ old, d.vms.lookup name = some old → old.sm.state = .Idle)
    (hmade : DaemonVm.new name vmCfg = .ok vm)
    (hlook : d'.vms.lookup name = some { vm with desired := .Starting }) :
    name ∈ d.renewed d' := by
  refine (mem_renewed hlook).mpr fun heq => ?_
  obtain ⟨old, hold, hsm⟩ := Option.map_eq_some_iff.mp heq.symm
  have hstate := hidle old hold
  rw [hsm, state_of_new hmade] at hstate
  cases hstate

/-- **A new runtime** is one that `DaemonVm::new` has made from the configuration; a command that
does not make one leaves the machine and the cursor of the VM as they are. -/
theorem renewed_or_kept (d : DaemonState) (line name : String) :
    let d' := (d.handleShellCommand line).1
    (name ∈ d.renewed d' ∧ ∃ vmCfg vm, DaemonVm.new name vmCfg = .ok vm ∧
        d'.vms.lookup name = some { vm with desired := .Starting }) ∨
      name ∉ d.renewed d' ∧
        (d'.vms.lookup name).map (fun vm => (vm.sm, vm.lastSentEventIndex)) =
          (d.vms.lookup name).map fun vm => (vm.sm, vm.lastSentEventIndex) := by
  intro d'
  rcases d.commanded_handleShellCommand line name with
    hlook | ⟨-, hidle, hmade, hlook⟩ | ⟨-, hold, -, hlook⟩ | ⟨hold, hlook⟩
  · right
    refine ⟨fun hmem => ?_, by rw [hlook]⟩
    have hchanged : (d'.vms.lookup name).map DaemonVm.sm ≠ (d.vms.lookup name).map DaemonVm.sm := by
      simpa using (List.mem_filter.mp hmem).2
    exact hchanged (by rw [hlook])
  · left
    exact ⟨mem_renewed_of_new hidle hmade hlook, _, _, hmade, hlook⟩
  · right
    exact ⟨by rw [mem_renewed hlook, hold]; simp, by rw [hlook, hold]; rfl⟩
  · right
    exact ⟨by rw [mem_renewed hlook, hold]; simp, by rw [hlook, hold]; rfl⟩

/-- The operation that a tick performs on the VM of one name. -/
def observeVm (env : TickEnv W) (s : DaemonState × W) (name : String) : List LifeEvent :=
  match s.1.vms.lookup name with
  | none => []
  | some vm =>
      let vm := vm.pollQemu fun q => env.tryWait q s.2
      match vm.desired.due vm.sm.state with
      | none => []
      | some op =>
          [.Ran name op vm.sm.state (outcome (env.host.perform op) (vm.sm, s.2)).1]

/-- What an operation of the daemon adds to the journal. -/
def observeDaemon (s : DaemonState × W) : DaemonOp W → List LifeEvent
  | .Command line => (s.1.renewed (s.1.handleShellCommand line).1).map .Fresh
  | .Tick _ env => trace (DaemonState.tickVm env) (observeVm env) s s.1.visited

/-- An operation of the daemon, with the journal. -/
def record (s : (DaemonState × W) × List LifeEvent) (op : DaemonOp W) :
    (DaemonState × W) × List LifeEvent :=
  (DaemonState.apply s.1 op, s.2 ++ observeDaemon s.1 op)

/-- Whether a bring-up phase has failed on the present runtime of the VM. -/
def failedBringUp (name : String) (journal : List LifeEvent) : Bool :=
  journal.foldl (fun failed event => match event with
    | .Fresh other => if other = name then false else failed
    | .Ran other .Step _ false => if other = name then true else failed
    | _ => failed) false

/-- **No re-entry**: no bring-up phase is run on a runtime on which one has failed. -/
def NoReentry (journal : List LifeEvent) : Prop :=
  ∀ pre name before ok post, journal = pre ++ .Ran name .Step before ok :: post →
    failedBringUp name pre = false

section

variable {name : String} {journal events : List LifeEvent}

lemma failedBringUp_snoc_ran {op : Op} {before : VmState} {ok : Bool} :
    failedBringUp name (journal ++ [.Ran name op before ok]) =
      (decide (op = .Step ∧ ok = false) || failedBringUp name journal) := by
  rw [failedBringUp, List.foldl_append]
  cases op <;> cases ok <;> simp [failedBringUp]

lemma failedBringUp_append_of_ne (h : ∀ event ∈ events, event.name ≠ name) :
    failedBringUp name (journal ++ events) = failedBringUp name journal := by
  induction events generalizing journal with
  | nil => rw [List.append_nil]
  | cons event events ih =>
      rw [List.forall_mem_cons] at h
      rw [List.append_cons, ih h.2, failedBringUp, List.foldl_append]
      have hne := h.1
      cases event with
      | Fresh other => simp [LifeEvent.name] at hne; simp [hne, failedBringUp]
      | Ran other op before ok =>
          simp [LifeEvent.name] at hne
          cases op <;> cases ok <;> simp [hne, failedBringUp]

lemma failedBringUp_fresh (names : List String) :
    failedBringUp name (journal ++ names.map .Fresh) =
      (failedBringUp name journal && decide (name ∉ names)) := by
  induction names generalizing journal with
  | nil => simp
  | cons first names ih =>
      rw [List.map_cons, List.append_cons, ih]
      by_cases hname : first = name
      · simp [failedBringUp, hname]
      · have hne : name ≠ first := fun h => hname h.symm
        simp [failedBringUp, hname, hne]

lemma NoReentry.of_append (h : NoReentry (journal ++ events)) : NoReentry journal := by
  rintro pre name before ok post rfl
  exact h pre name before ok (post ++ events) (by simp)

lemma noReentry_snoc {event : LifeEvent} :
    NoReentry (journal ++ [event]) ↔ NoReentry journal ∧
      ∀ name before ok, event = .Ran name .Step before ok → failedBringUp name journal = false := by
  constructor
  · intro h
    refine ⟨h.of_append, ?_⟩
    rintro name before ok rfl
    exact h journal name before ok [] rfl
  · rintro ⟨h, hlast⟩ pre name before ok post heq
    rcases List.eq_nil_or_concat post with rfl | ⟨post', last, rfl⟩
    · obtain ⟨rfl, hevent⟩ := List.append_inj' heq rfl
      exact hlast name before ok (by simpa using hevent)
    · refine h pre name before ok post' ?_
      have hsplit : journal ++ [event] = (pre ++ .Ran name .Step before ok :: post') ++ [last] := by
        simpa using heq
      exact (List.append_inj' hsplit rfl).1

lemma noReentry_fresh (names : List String) :
    NoReentry (journal ++ names.map .Fresh) ↔ NoReentry journal := by
  induction names generalizing journal with
  | nil => simp
  | cons first names ih =>
      rw [List.map_cons, List.append_cons, ih, noReentry_snoc]
      simp

end

/-! ## One tick -/

/-- A VM that no tick will take into a bring-up phase: it is on the way down, or wanted there. -/
def DaemonVm.Retired (vm : DaemonVm) : Prop :=
  vm.sm.state.OnShutdownPath ∨ ¬ vm.desired.WantsUp

lemma retired_drives {s s' : VmState} {desired desired' : IpcVmState}
    (h : s.OnShutdownPath ∨ ¬ desired.WantsUp) (hd : Drives s desired s' desired') :
    s'.OnShutdownPath ∨ ¬ desired'.WantsUp := by
  rcases hd with hdue | ⟨hdue, hnext⟩ | hdue
  · exact h.imp_right fun hdown hup => hdown (wantsUp_atRest.mp hup)
  · exact h.imp_left fun hpath => le_trans hpath (rank_le_of_next hnext)
  · exact .inr (not_wantsUp_afterFailure hdue)

lemma retired_advance {env : TickEnv W} {vm : DaemonVm} {w : W} (h : vm.Retired) :
    (vm.advance env w).1.Retired := by
  rcases advance_drives env vm w with hd | ⟨-, hd⟩
  · exact retired_drives h hd
  · exact retired_drives (.inr (by decide)) hd

section

variable {env : TickEnv W} {s : DaemonState × W} {name : String} {vm : DaemonVm}
  {journal : List LifeEvent}

/-- **What a tick performs on a VM**: a bring-up phase only if the VM is wanted up, and after a
failure it is not. -/
lemma observeVm_cases (hvm : s.1.vms.lookup name = some vm) :
    observeVm env s name = [] ∨
      ∃ op before ok, observeVm env s name = [.Ran name op before ok] ∧
        (op = .Step → vm.desired.WantsUp ∧ vm.sm.state.IsBringUp) ∧
        (ok = false → ¬ (vm.advance env s.2).1.desired.WantsUp) := by
  rw [observeVm, hvm]
  simp only [DaemonVm.advance]
  cases hdue : (vm.pollQemu fun q => env.tryWait q s.2).desired.due
      (vm.pollQemu fun q => env.tryWait q s.2).sm.state with
  | none => exact .inl rfl
  | some op =>
      refine .inr ⟨op, _, _, rfl, ?_, ?_⟩
      · have hdue' := hdue
        rw [state_pollQemu] at hdue'
        exact (wantsUp_of_due hdue').1
      · intro hfail
        obtain ⟨e, hx⟩ := outcome_eq_false.mp (Prod.ext hfail rfl)
        rw [drive_fails hdue hx]
        exact not_wantsUp_afterFailure hdue

lemma observeVm_of_wantsUp (hvm : s.1.vms.lookup name = some vm) (hup : vm.desired.WantsUp)
    (hstate : vm.sm.state.IsBringUp) :
    ∃ ok, observeVm env s name = [.Ran name .Step vm.sm.state ok] := by
  have hexit : ¬ vm.Exited env s.2 := by
    rintro ⟨hsteady, -⟩
    rw [hsteady] at hstate
    exact absurd hstate (by decide)
  have hdue := due_step_iff.mpr ⟨hup, hstate⟩
  rw [observeVm, hvm]
  simp only [pollQemu_of_not_exited hexit, hdue]
  exact ⟨_, rfl⟩

lemma name_of_mem_observeVm {event : LifeEvent} (h : event ∈ observeVm env s name) :
    event.name = name := by
  cases hvm : s.1.vms.lookup name with
  | none =>
      rw [observeVm, hvm] at h
      exact absurd h List.not_mem_nil
  | some vm =>
      rcases @observeVm_cases _ env _ _ _ hvm with hnil | ⟨op, before, ok, hone, -⟩
      · rw [hnil] at h
        exact absurd h List.not_mem_nil
      · rw [hone, List.mem_singleton] at h
        rw [h]
        rfl

/-- **A visit** re-enters a bring-up phase exactly when it finds the VM to be retried. -/
lemma noReentry_visit (h : NoReentry journal) :
    NoReentry (journal ++ observeVm env s name) ↔
      ∀ vm, s.1.vms.lookup name = some vm → failedBringUp name journal = true →
        ¬ (vm.desired.WantsUp ∧ vm.sm.state.IsBringUp) := by
  constructor
  · rintro hno vm hvm hfailed ⟨hup, hstate⟩
    obtain ⟨ok, hone⟩ := @observeVm_of_wantsUp _ env _ _ _ hvm hup hstate
    rw [hone, noReentry_snoc] at hno
    rw [hno.2 name _ _ rfl] at hfailed
    cases hfailed
  · intro hsafe
    cases hvm : s.1.vms.lookup name with
    | none => simpa [observeVm, hvm] using h
    | some vm =>
        rcases @observeVm_cases _ env _ _ _ hvm with hnil | ⟨op, before, ok, hone, hstep, -⟩
        · rwa [hnil, List.append_nil]
        · rw [hone, noReentry_snoc]
          refine ⟨h, fun name before' ok' hevent => ?_⟩
          obtain ⟨rfl, rfl, -, -⟩ := LifeEvent.Ran.inj hevent
          by_contra hfailed
          exact hsafe vm hvm (by simpa using hfailed) (hstep rfl)

end

/-! ## Whole ticks -/

/-- No visited VM on whose runtime a bring-up phase has failed is still in bring-up and wanted
up. -/
def NoneRetried (s : (DaemonState × W) × List LifeEvent) (names : List String) : Prop :=
  ∀ name ∈ names, ∀ vm, s.1.1.vms.lookup name = some vm → failedBringUp name s.2 = true →
    ¬ (vm.desired.WantsUp ∧ vm.sm.state.IsBringUp)

/-- **A tick** re-enters a bring-up phase exactly when it finds a VM to retry. -/
lemma noReentry_trace {env : TickEnv W} {names : List String} (hnodup : names.Nodup)
    {s : DaemonState × W} {journal : List LifeEvent} (h : NoReentry journal) :
    NoReentry (journal ++ trace (DaemonState.tickVm env) (observeVm env) s names) ↔
      NoneRetried (s, journal) names := by
  induction names generalizing s journal with
  | nil =>
      rw [trace, List.append_nil]
      exact iff_of_true h fun name hname => absurd hname List.not_mem_nil
  | cons first names ih =>
      obtain ⟨hfirst, hnodup⟩ := List.nodup_cons.mp hnodup
      have hrest : NoneRetried (s, journal) names ↔
          NoneRetried (DaemonState.tickVm env s first, journal ++ observeVm env s first) names := by
        refine forall₂_congr fun name hname => ?_
        have hne : name ≠ first := fun heq => hfirst (heq ▸ hname)
        have hsame : failedBringUp name (journal ++ observeVm env s first) =
            failedBringUp name journal :=
          failedBringUp_append_of_ne fun event hevent => by
            rw [name_of_mem_observeVm hevent]
            exact hne.symm
        simp only [lookup_tickVm_ne hne, hsame]
      have hvisit := @noReentry_visit _ env s first journal h
      rw [trace, ← List.append_assoc]
      constructor
      · intro hno name hname
        have hhead := hno.of_append
        rcases List.mem_cons.mp hname with rfl | hname
        · exact hvisit.mp hhead
        · exact hrest.mpr ((ih hnodup hhead).mp hno) name hname
      · intro hsafe
        have hhead := hvisit.mpr (hsafe first List.mem_cons_self)
        exact (ih hnodup hhead).mpr
          (hrest.mp fun name hname => hsafe name (List.mem_cons_of_mem first hname))

/-! ## Runs -/

/-- A tick does not find a VM to retry. -/
def NoRetry (s : (DaemonState × W) × List LifeEvent) : DaemonOp W → Prop
  | .Command _ => True
  | .Tick _ _ => NoneRetried s s.1.1.visited

/-- A command that starts a VM after a bring-up phase of it has failed comes when the VM is on the
shutdown path. -/
def OrderlyStart (s : (DaemonState × W) × List LifeEvent) : DaemonOp W → Prop
  | .Command line => ∀ name vm, s.1.1.vms.lookup name = some vm →
      s.1.1.Starts name (s.1.1.handleShellCommand line).1 → failedBringUp name s.2 = true →
        vm.sm.state.OnShutdownPath
  | .Tick _ _ => True

lemma noReentry_record {s : (DaemonState × W) × List LifeEvent} (h : NoReentry s.2)
    (op : DaemonOp W) : NoReentry (record s op).2 ↔ NoRetry s op := by
  cases op with
  | Command line => exact iff_of_true ((noReentry_fresh _).mpr h) trivial
  | Tick tick env => exact noReentry_trace (nodup_visited s.1.1) h

lemma run_record_journal (s : (DaemonState × W) × List LifeEvent) (ops : List (DaemonOp W)) :
    ∃ events, (run record s ops).2 = s.2 ++ events := by
  induction ops generalizing s with
  | nil => exact ⟨[], (List.append_nil _).symm⟩
  | cons op ops ih =>
      obtain ⟨events, h⟩ := ih (record s op)
      exact ⟨observeDaemon s.1 op ++ events, by rw [run_cons, h, record, List.append_assoc]⟩

lemma noReentry_run {s : (DaemonState × W) × List LifeEvent} (h : NoReentry s.2)
    (ops : List (DaemonOp W)) : NoReentry (run record s ops).2 ↔ Along record NoRetry s ops := by
  induction ops generalizing s with
  | nil => exact iff_of_true h (along_nil NoRetry s)
  | cons op ops ih =>
      rw [run_cons, along_cons]
      constructor
      · intro hno
        obtain ⟨events, hjournal⟩ := run_record_journal (record s op) ops
        have hfirst : NoReentry (record s op).2 := by
          rw [hjournal] at hno
          exact hno.of_append
        exact ⟨(noReentry_record h op).mp hfirst, (ih hfirst).mp hno⟩
      · rintro ⟨hop, hrest⟩
        exact (ih ((noReentry_record h op).mpr hop)).mpr hrest

/-- Every VM on whose runtime a bring-up phase has failed is retired. -/
def FailedRetired (d : DaemonState) (journal : List LifeEvent) : Prop :=
  ∀ name vm, d.vms.lookup name = some vm → failedBringUp name journal = true → vm.Retired

lemma failedRetired_tickVm {env : TickEnv W} {s : DaemonState × W} {journal : List LifeEvent}
    (h : FailedRetired s.1 journal) (name : String) :
    FailedRetired (DaemonState.tickVm env s name).1 (journal ++ observeVm env s name) := by
  intro other vm' hvm' hfailed
  by_cases hname : other = name
  · subst hname
    rw [lookup_tickVm_self] at hvm'
    obtain ⟨vm, hvm, rfl⟩ := Option.map_eq_some_iff.mp hvm'
    rcases @observeVm_cases _ env _ _ _ hvm with hnil | ⟨op, before, ok, hone, -, hfail⟩
    · rw [hnil, List.append_nil] at hfailed
      exact retired_advance (h other vm hvm hfailed)
    · rw [hone, failedBringUp_snoc_ran, Bool.or_eq_true, decide_eq_true_eq] at hfailed
      rcases hfailed with ⟨-, hok⟩ | hfailed
      · exact .inr (hfail hok)
      · exact retired_advance (h other vm hvm hfailed)
  · rw [lookup_tickVm_ne hname] at hvm'
    refine h other vm' hvm' ?_
    rwa [failedBringUp_append_of_ne fun event hevent => ?_] at hfailed
    rw [name_of_mem_observeVm hevent]
    exact fun heq => hname heq.symm

/-- A command leaves the runtimes on which a phase has failed alone. -/
lemma failedRetired_command {d : DaemonState} {journal : List LifeEvent}
    (h : FailedRetired d journal) {line : String}
    (horderly : ∀ name vm, d.vms.lookup name = some vm →
      d.Starts name (d.handleShellCommand line).1 → failedBringUp name journal = true →
        vm.sm.state.OnShutdownPath) :
    FailedRetired (d.handleShellCommand line).1
      (journal ++ (d.renewed (d.handleShellCommand line).1).map .Fresh) := by
  intro name vm' hvm' hfailed
  rw [failedBringUp_fresh, Bool.and_eq_true, decide_eq_true_eq] at hfailed
  obtain ⟨hfailed, hkept⟩ := hfailed
  rcases d.commanded_handleShellCommand line name with
    hlook | ⟨-, hidle, hmade, hlook⟩ | ⟨hstart, hold, -, hlook⟩ | ⟨hold, hlook⟩
  · exact h name vm' (hlook.symm.trans hvm') hfailed
  · exact absurd (mem_renewed_of_new hidle hmade hlook) hkept
  · obtain rfl := Option.some.inj (hlook.symm.trans hvm')
    have hpath := horderly name _ hold hstart hfailed
    exact .inl hpath
  · obtain rfl := Option.some.inj (hlook.symm.trans hvm')
    exact .inr (show ¬ IpcVmState.ShuttingDown.WantsUp by decide)

lemma failedRetired_tick {env : TickEnv W} {s : DaemonState × W} {journal : List LifeEvent}
    (h : FailedRetired s.1 journal) :
    FailedRetired (DaemonState.tick env s).1
      (journal ++ trace (DaemonState.tickVm env) (observeVm env) s s.1.visited) := by
  have hrun : FailedRetired (run (DaemonState.tickVm env) s s.1.visited).1
      (journal ++ trace (DaemonState.tickVm env) (observeVm env) s s.1.visited) :=
    trace_invariant (I := fun (t : DaemonState × W) seen => FailedRetired t.1 seen)
      (fun t seen name ht => failedRetired_tickVm ht name) h s.1.visited
  intro name vm' hvm' hfailed
  have hmapped : (mapVms DaemonVm.markSent
      (run (DaemonState.tickVm env) s s.1.visited).1.vms).lookup name = some vm' := hvm'
  rw [lookup_mapVms] at hmapped
  obtain ⟨vm, hvm, rfl⟩ := Option.map_eq_some_iff.mp hmapped
  have hretired := hrun name vm hvm hfailed
  rwa [DaemonVm.Retired, markSent_sm, markSent_desired]

/-- **A failed VM stays retired** as long as no command starts it out of turn. -/
lemma failedRetired_record {s : (DaemonState × W) × List LifeEvent} {op : DaemonOp W}
    (h : FailedRetired s.1.1 s.2) (hop : OrderlyStart s op) :
    FailedRetired (record s op).1.1 (record s op).2 := by
  cases op with
  | Command line =>
      simp only [record, DaemonState.apply]
      exact failedRetired_command h hop
  | Tick tick env =>
      have htick : (record s (.Tick tick env)).1 = DaemonState.tick env s.1 :=
        apply_tick s.1 tick env
      rw [htick]
      exact failedRetired_tick h

/-- **No re-entry.**  A run of the daemon re-enters no bring-up phase exactly when no tick finds a
VM that is in bring-up and wanted up although a phase has failed on its runtime; and no tick does
if every command that starts such a VM comes when the VM is on the shutdown path. -/
theorem noReentry_iff (rootCfg : Option RootConfig) (global : List IpcEvent)
    (perVm : List IpcVmEvents) (w : W) (ops : List (DaemonOp W)) :
    let s₀ := ((DaemonState.new rootCfg global perVm, w), [])
    (NoReentry (run record s₀ ops).2 ↔ Along record NoRetry s₀ ops) ∧
      (Along record OrderlyStart s₀ ops → NoReentry (run record s₀ ops).2) := by
  intro s₀
  have hnil : NoReentry s₀.2 := by
    intro pre name before ok post heq
    exact absurd heq (by simp [s₀])
  refine ⟨noReentry_run hnil ops, fun horderly => (noReentry_run hnil ops).mpr ?_⟩
  refine along_of_invariant
    (I := fun s : (DaemonState × W) × List LifeEvent => FailedRetired s.1.1 s.2)
    (fun s op hs hop => failedRetired_record hs hop) ?_ ?_ horderly
  · rintro s (line | ⟨tick, env⟩) hs -
    · trivial
    · rintro name - vm hvm hfailed ⟨hup, hstate⟩
      rcases hs name vm hvm hfailed with hpath | hdown
      · exact absurd (lt_of_lt_of_le hstate (le_trans (by decide) hpath)) (lt_irrefl _)
      · exact hdown hup
  · intro name vm hvm
    cases hvm

/-! ## A phase that is run again -/

/-- The host of `idleHost` on which the preflight check of the cpusets fails. -/
def brokenHost : Host Unit where
  call
    | .CpusetPreflight, _ => throw (.Cgroup "/sys/fs/cgroup is not a directory or not mounted")
    | _, _ => pure ()
  detectCpuIdentity _ := none
  numaTopology _ := .ok ⟨[]⟩

/-- The VM is started again between the tick in which its Validate phase failed and the next. -/
def restartAfterFailure : List (DaemonOp Unit) :=
  [.Command "vm start a", .Tick 1 (idleEnv Unit),
    .Tick 2 { idleEnv Unit with host := brokenHost }, .Command "vm start a",
    .Tick 3 (idleEnv Unit)]

theorem restart_reenters :
    ¬ NoReentry (run record ((oneVmDaemon, ()), []) restartAfterFailure).2 := by
  have hjournal : (run record ((oneVmDaemon, ()), []) restartAfterFailure).2 =
      [.Fresh "a", .Ran "a" .Step .Init true, .Ran "a" .Step .Validate false] ++
        .Ran "a" .Step .Validate true :: [] := by decide
  intro hno
  exact absurd (hno _ "a" .Validate true [] hjournal) (by decide)

end Chalybs
