import Chalybs.Daemon.Batches
import Chalybs.Foundation.Refinement

/-!
# What the clients see of a VM

A client knows a VM by its state in the snapshots.  `Lifeline` is what the life of a VM is for a
client, without phases, runtimes and desired states: an abstract model with the requests of the
clients and the states that the snapshots show as its labels.

* `Lifeline`, `LifeStep` — the model.
* `daemon_refines`, `shown_follows` — every run of the daemon is a path of the model, and how the
  shown states follow each other.
* `unwanted_until_started` — a VM that nobody wants up is only taken down, until a command asks for
  it to be started.
* `failure_reported` — an operation that fails is reported in the snapshot of its tick.
-/

namespace Chalybs

open Foundation

variable {W : Type}

/-! ## The model -/

/-- What a command line asks for one VM. -/
inductive LifeRequest
  | Start
  | Stop
  | Nothing
  deriving DecidableEq, Repr

/-- What can be observed of an event of the daemon: what it asks for the VM, or what it shows of
it. -/
inductive LifeLabel
  | Asked (request : LifeRequest)
  | Shown (state : IpcVmState)
  deriving DecidableEq, Repr

/-- The life of a VM. -/
inductive Lifeline
  /-- There is no VM, or it is shut down. -/
  | Down
  /-- It was asked for, and nothing was done yet. -/
  | Fresh
  /-- It was asked for, nothing was done yet, and it is not wanted any more. -/
  | Withdrawn
  /-- It is being started. -/
  | Rising
  /-- It was being started, and is not wanted any more. -/
  | Dropped
  | Up
  /-- It is up, and not wanted any more. -/
  | Leaving
  | Falling
  /-- It is being shut down, and wanted again. -/
  | Stuck
  deriving DecidableEq, Repr

namespace Lifeline

/-- What a snapshot shows of it. -/
def view : Lifeline → IpcVmState
  | .Down => .Stopped
  | .Fresh | .Withdrawn | .Rising | .Dropped => .Starting
  | .Up | .Leaving => .Running
  | .Falling | .Stuck => .ShuttingDown

/-- What a tick may make of it. -/
def successors : Lifeline → List Lifeline
  | .Down => [.Down]
  | .Fresh => [.Rising, .Withdrawn]
  | .Withdrawn => [.Withdrawn, .Falling]
  | .Rising => [.Rising, .Up, .Dropped]
  | .Dropped => [.Dropped, .Falling]
  | .Up => [.Up, .Leaving, .Falling]
  | .Leaving => [.Leaving, .Falling]
  | .Falling => [.Falling, .Down]
  | .Stuck => [.Stuck]

/-- What a request may make of it.  A start may be refused only if the VM is down. -/
def answers : LifeRequest → Lifeline → List Lifeline
  | .Start, .Down => [.Down, .Fresh]
  | .Start, .Fresh | .Start, .Withdrawn => [.Fresh]
  | .Start, .Rising | .Start, .Dropped => [.Rising]
  | .Start, .Up | .Start, .Leaving => [.Up]
  | .Start, .Falling | .Start, .Stuck => [.Stuck]
  | .Stop, .Down => [.Down]
  | .Stop, .Fresh | .Stop, .Withdrawn => [.Withdrawn]
  | .Stop, .Rising | .Stop, .Dropped => [.Dropped]
  | .Stop, .Up | .Stop, .Leaving => [.Leaving]
  | .Stop, .Falling | .Stop, .Stuck => [.Falling]
  | .Nothing, a => [a]

/-- Nobody wants the VM up, or it is down. -/
def Unwanted (a : Lifeline) : Prop :=
  a ∈ [Lifeline.Down, .Withdrawn, .Dropped, .Leaving, .Falling]

instance (a : Lifeline) : Decidable a.Unwanted := inferInstanceAs (Decidable (_ ∈ _))

end Lifeline

/-- What may be shown after a state. -/
def IpcVmState.follows : IpcVmState → List IpcVmState
  | .Stopped => [.Stopped, .Starting, .ShuttingDown]
  | .Starting => [.Starting, .Running, .ShuttingDown]
  | .Running => [.Running, .ShuttingDown]
  | .ShuttingDown => [.ShuttingDown, .Stopped]

/-- What may be shown after a state while nobody wants the VM up. -/
def IpcVmState.falls : IpcVmState → List IpcVmState
  | .Stopped => [.Stopped]
  | .Starting => [.Starting, .ShuttingDown]
  | .Running => [.Running, .ShuttingDown]
  | .ShuttingDown => [.ShuttingDown, .Stopped]

/-- A step of the model. -/
inductive LifeStep : Lifeline → LifeLabel → Lifeline → Prop
  | asked {a b : Lifeline} {request : LifeRequest} : b ∈ a.answers request →
      LifeStep a (.Asked request) b
  | shown {a b : Lifeline} : b ∈ a.successors → LifeStep a (.Shown b.view) b

/-! ## The daemon as the model sees it -/

/-- What an action asks for the VM that it names. -/
def LifeRequest.ofAction (action : String) : LifeRequest :=
  if action = "start" ∨ action = "restart" then .Start
  else if action = "stop" then .Stop
  else .Nothing

/-- What the command line asks for the VM. -/
def lifeRequest (name line : String) : LifeRequest :=
  match (splitWhitespace (trim line.toList)).map String.ofList with
  | first :: action :: other :: _ =>
      if first = "vm" ∧ other = name then LifeRequest.ofAction action else .Nothing
  | _ => .Nothing

/-- The life of a machine that is in one state and wanted in another. -/
def lifelineOf (desired : IpcVmState) (state : VmState) : Lifeline :=
  match mapVmStateToIpc state with
  | .Stopped => .Down
  | .Starting =>
      if state = .Init then if desired.WantsUp then .Fresh else .Withdrawn
      else if desired.WantsUp then .Rising else .Dropped
  | .Running => if desired.WantsUp then .Up else .Leaving
  | .ShuttingDown => if desired.WantsUp then .Stuck else .Falling

/-- The life of the VM of a name. -/
def DaemonState.lifeline (d : DaemonState) (name : String) : Lifeline :=
  match d.vms.lookup name with
  | none => .Down
  | some vm => lifelineOf vm.desired vm.sm.state

/-- The state that the snapshot shows for the VM; one that it does not list is down. -/
def Snapshot.shown (snapshot : Snapshot) (name : String) : IpcVmState :=
  ((snapshot.vms.find? fun status => status.name = name).map IpcVmStatus.state).getD .Stopped

/-- What the operations of the daemon show of the VM. -/
def shows (name : String) (s : DaemonState × W) : DaemonOp W → List IpcVmState
  | .Command _ => []
  | .Tick tick env => [(DaemonState.buildSnapshot env tick s).1.shown name]

/-- What a client observes of an operation of the daemon. -/
def lifeLabel (name : String) (s : DaemonState × W) : DaemonOp W → LifeLabel
  | .Command line => .Asked (lifeRequest name line)
  | .Tick tick env => .Shown ((DaemonState.buildSnapshot env tick s).1.shown name)

/-! ## Ticks -/

lemma successors_of_drives {state state' : VmState} {desired desired' : IpcVmState}
    (h : Drives state desired state' desired') :
    lifelineOf desired' state' ∈ (lifelineOf desired state).successors := by
  rcases h with hdue | ⟨hdue, hnext⟩ | hdue
  · revert hdue
    cases desired <;> cases state <;> decide
  · rename_i op
    revert hnext
    revert state'
    revert hdue
    revert op
    cases desired <;> cases state <;> decide
  · rename_i op
    revert hdue
    revert op
    cases desired <;> cases state <;> decide

/-- **A visit** is a step of the model. -/
lemma successors_of_advance (env : TickEnv W) (vm : DaemonVm) (w : W) :
    lifelineOf (vm.advance env w).1.desired (vm.advance env w).1.sm.state ∈
      (lifelineOf vm.desired vm.sm.state).successors := by
  rcases advance_drives env vm w with hd | ⟨hsteady, hd⟩
  · exact successors_of_drives hd
  · -- the guest has exited, so the VM is taken down like one that is not wanted
    have hleaving : Lifeline.Leaving.successors ⊆
        (lifelineOf vm.desired .Steady).successors := by
      cases vm.desired <;> decide
    rw [hsteady]
    exact hleaving (successors_of_drives hd)

lemma lifeline_tick {env : TickEnv W} {s : DaemonState × W} (hs : EveryVm (fun _ => True) s.1)
    (name : String) :
    (DaemonState.tick env s).1.lifeline name ∈ (s.1.lifeline name).successors := by
  rw [DaemonState.lifeline, DaemonState.lifeline]
  cases hvm : s.1.vms.lookup name with
  | none =>
      have hnone : (DaemonState.tick env s).1.vms.lookup name = none := by
        show (mapVms DaemonVm.markSent (DaemonState.advanced env s)).lookup name = none
        rw [lookup_mapVms]
        rcases lookup_advanced env s name with heq | ⟨w, heq⟩
        · rw [heq, hvm]
          rfl
        · rw [heq, hvm]
          rfl
      rw [hnone]
      decide
  | some vm =>
      obtain ⟨pre, post, hnames⟩ := List.append_of_mem (hs name vm hvm).1
      rw [(lookup_tick hnames hvm).2]
      simp only [markSent_desired, markSent_sm]
      exact successors_of_advance env vm _

/-! ## Commands -/

section

variable {d : DaemonState}

/-- What a command that asks for nothing, for a start or for a stop of the VM does to it. -/
inductive Asks (d : DaemonState) (name : String) (d' : DaemonState) : LifeRequest → Prop
  | nothing : d'.vms.lookup name = d.vms.lookup name → Asks d name d' .Nothing
  | start {cfg : RootConfig} {action : String} : d.rootCfg = some cfg →
      d' = (d.vmStart cfg action name).1 → Asks d name d' .Start
  | stop {cfg : RootConfig} : d.rootCfg = some cfg → d' = (d.vmStop cfg name).1 →
      Asks d name d' .Stop
  | unconfigured {request : LifeRequest} : d.rootCfg = none → d' = d → Asks d name d' request

lemma lookup_vmStart_ne {cfg : RootConfig} {action name other : String} (h : name ≠ other) :
    (d.vmStart cfg action other).1.vms.lookup name = d.vms.lookup name := by
  rw [DaemonState.vmStart]
  cases cfg.vm.lookup other with
  | none => rfl
  | some vmCfg =>
      cases hvm : d.vmToStart other vmCfg with
      | error msg => simp [hvm]
      | ok dvm => simp [hvm, AList.lookup_insert_ne h]

lemma lookup_vmStop_ne {cfg : RootConfig} {name other : String} (h : name ≠ other) :
    (d.vmStop cfg other).1.vms.lookup name = d.vms.lookup name := by
  rw [DaemonState.vmStop]
  split_ifs
  · cases d.vms.lookup other with
    | none => rfl
    | some dvm => simp [AList.lookup_insert_ne h]
  · rfl

lemma asks_handleVmCommand (d : DaemonState) (action other : String) (rest : List String)
    (name : String) :
    Asks d name (d.handleVmCommand (action :: other :: rest)).1
      (if other = name then LifeRequest.ofAction action else .Nothing) := by
  rw [DaemonState.handleVmCommand]
  cases hcfg : d.rootCfg with
  | none => exact .unconfigured hcfg rfl
  | some cfg =>
      dsimp only
      by_cases hname : other = name
      · subst hname
        rw [if_pos rfl, LifeRequest.ofAction]
        split_ifs with hlist hstart hstop hstatus hstart hstop
        · rw [hlist] at hstart
          exact absurd hstart (by decide)
        · rw [hlist] at hstop
          exact absurd hstop (by decide)
        · exact .nothing rfl
        · rw [hstatus] at hstart
          exact absurd hstart (by decide)
        · rw [hstatus] at hstop
          exact absurd hstop (by decide)
        · exact .nothing rfl
        · exact .start hcfg rfl
        · exact .stop hcfg rfl
        · exact .nothing rfl
      · rw [if_neg hname]
        refine .nothing ?_
        split_ifs
        · rfl
        · rfl
        · exact lookup_vmStart_ne (Ne.symm hname)
        · exact lookup_vmStop_ne (Ne.symm hname)
        · rfl

/-- **A command line** does to a VM what it asks for it. -/
lemma asks_handleShellCommand (d : DaemonState) (line name : String) :
    Asks d name (d.handleShellCommand line).1 (lifeRequest name line) := by
  rw [lifeRequest, DaemonState.handleShellCommand]
  generalize (splitWhitespace (trim line.toList)).map String.ofList = words
  rcases words with - | ⟨first, - | ⟨action, - | ⟨other, rest⟩⟩⟩
  · exact .nothing rfl
  · refine .nothing ?_
    dsimp only
    split_ifs <;> rfl
  · refine .nothing ?_
    dsimp only
    split_ifs
    · rfl
    · rw [DaemonState.handleVmCommand]
      cases d.rootCfg with
      | none => rfl
      | some cfg =>
          dsimp only
          split_ifs <;> rfl
    · rfl
  · dsimp only
    by_cases hvm : first = "vm"
    · subst hvm
      simpa using asks_handleVmCommand d action other rest name
    · simp only [hvm, false_and, if_false]
      refine .nothing ?_
      split_ifs <;> rfl

lemma lifelineOf_start {desired : IpcVmState} {state : VmState} (h : state ≠ .Idle) :
    lifelineOf .Starting state ∈ (lifelineOf desired state).answers .Start := by
  revert h
  cases desired <;> cases state <;> decide

lemma lifelineOf_stop (desired : IpcVmState) (state : VmState) :
    lifelineOf .ShuttingDown state ∈ (lifelineOf desired state).answers .Stop := by
  cases desired <;> cases state <;> decide

/-- A managed VM is configured. -/
lemma lookup_of_managed (hd : EveryVm (fun _ => True) d) {cfg : RootConfig}
    (hcfg : d.rootCfg = some cfg) {name : String} {vm : DaemonVm}
    (hvm : d.vms.lookup name = some vm) : name ∈ cfg.vm :=
  (mem_visited hcfg).mp (hd name vm hvm).1

lemma lifeline_vmStart (hd : EveryVm (fun _ => True) d) {cfg : RootConfig}
    (hcfg : d.rootCfg = some cfg) (action name : String) :
    (d.vmStart cfg action name).1.lifeline name ∈ (d.lifeline name).answers .Start := by
  have hrefused : (∀ vm, d.vms.lookup name = some vm → vm.sm.state = .Idle) →
      d.lifeline name = .Down := by
    intro hidle
    rw [DaemonState.lifeline]
    cases hvm : d.vms.lookup name with
    | none => rfl
    | some vm =>
        dsimp only
        rw [hidle vm hvm]
        rfl
  rw [DaemonState.vmStart]
  cases hconf : cfg.vm.lookup name with
  | none =>
      have hdown := hrefused fun vm hvm =>
        absurd (lookup_of_managed hd hcfg hvm) (AList.lookup_eq_none.mp hconf)
      rw [hdown]
      decide
  | some vmCfg =>
      cases hstart : d.vmToStart name vmCfg with
      | error msg =>
          have hdown := hrefused fun vm hvm => by
            by_contra hbusy
            rw [DaemonState.vmToStart, hvm] at hstart
            simp [hbusy] at hstart
          simp only [hstart, hdown]
          decide
      | ok dvm =>
          simp only [hstart, DaemonState.lifeline, AList.lookup_insert]
          rcases DaemonState.vmToStart_cases hstart with ⟨hidle, hmade⟩ | ⟨hvm, hbusy⟩
          · have hdown := hrefused hidle
            rw [DaemonState.lifeline] at hdown
            rw [hdown, state_of_new hmade]
            decide
          · rw [hvm]
            exact lifelineOf_start hbusy

lemma lifeline_vmStop (hd : EveryVm (fun _ => True) d) {cfg : RootConfig}
    (hcfg : d.rootCfg = some cfg) (name : String) :
    (d.vmStop cfg name).1.lifeline name ∈ (d.lifeline name).answers .Stop := by
  have hdown : d.vms.lookup name = none → d.lifeline name = .Down := by
    intro hnone
    rw [DaemonState.lifeline, hnone]
  rw [DaemonState.vmStop]
  cases hvm : d.vms.lookup name with
  | none =>
      split_ifs
      · rw [hdown hvm]
        decide
      · rw [hdown hvm]
        decide
  | some vm =>
      rw [if_pos (lookup_of_managed hd hcfg hvm)]
      simp only [DaemonState.lifeline, AList.lookup_insert, hvm]
      exact lifelineOf_stop vm.desired vm.sm.state

/-- **A command** is a step of the model. -/
lemma lifeline_command (hd : EveryVm (fun _ => True) d) (line name : String) :
    (d.handleShellCommand line).1.lifeline name ∈
      (d.lifeline name).answers (lifeRequest name line) := by
  have hasks := asks_handleShellCommand d line name
  generalize lifeRequest name line = asked at hasks ⊢
  cases hasks with
  | nothing hlook =>
      simp only [DaemonState.lifeline, hlook]
      exact List.mem_singleton.mpr rfl
  | unconfigured hcfg heq =>
      -- nothing is managed without a configuration
      have hdown : d.lifeline name = .Down := by
        rw [DaemonState.lifeline]
        cases hvm : d.vms.lookup name with
        | none => rfl
        | some vm =>
            have hvisited := (hd name vm hvm).1
            rw [DaemonState.visited, hcfg] at hvisited
            exact absurd hvisited List.not_mem_nil
      rw [heq, hdown]
      cases asked <;> decide
  | @start cfg action hcfg heq =>
      rw [heq]
      exact lifeline_vmStart hd hcfg action name
  | stop hcfg heq =>
      rw [heq]
      exact lifeline_vmStop hd hcfg name

end

/-! ## Snapshots -/

section

variable {env : TickEnv W} {cfg : RootConfig} {s : DaemonState × W}

lemma view_lifelineOf (desired : IpcVmState) (state : VmState) :
    (lifelineOf desired state).view = mapVmStateToIpc state := by
  cases desired <;> cases state <;> rfl

/-- The status of a VM shows its state. -/
lemma state_vmStatus {w : W} {name : String} {vmCfg : VmConfig} {d : DaemonState} :
    (vmStatus env w name vmCfg (d.vms.lookup name)).state = (d.lifeline name).view := by
  rw [DaemonState.lifeline]
  cases d.vms.lookup name with
  | none => rfl
  | some vm => exact (view_lifelineOf _ _).symm

/-- The statuses of a name that is visited once: there is one, of the VM as it is in the end. -/
lemma find_visitVms {names : List String} (hnames : ∀ name ∈ names, name ∈ cfg.vm)
    (hnodup : names.Nodup) {name : String} (hname : name ∈ names) :
    ((DaemonState.visitVms env cfg names s).1.find? fun status => status.name = name).map
        IpcVmStatus.state =
      some ((run (DaemonState.tickVm env) s names).1.lifeline name).view := by
  induction names generalizing s with
  | nil => exact absurd hname List.not_mem_nil
  | cons first names ih =>
      obtain ⟨hfirst, hrest⟩ := List.nodup_cons.mp hnodup
      obtain ⟨vmCfg, hvmCfg⟩ := Option.isSome_iff_exists.mp
        (AList.lookup_isSome.mpr (hnames first List.mem_cons_self))
      rw [visitVms_cons, hvmCfg, run_cons, Option.map_some, Option.toList_some,
        List.singleton_append]
      by_cases heq : first = name
      · subst heq
        have hlater : (run (DaemonState.tickVm env) (DaemonState.tickVm env s first)
            names).1.lifeline first = (DaemonState.tickVm env s first).1.lifeline first := by
          simp only [DaemonState.lifeline, lookup_run_tickVm hfirst]
        rw [List.find?_cons_of_pos (by simp [name_vmStatus]), Option.map_some, state_vmStatus,
          hlater]
      · rw [List.find?_cons_of_neg (by simpa [name_vmStatus] using heq)]
        exact ih (fun other h => hnames other (List.mem_cons_of_mem first h)) hrest
          ((List.mem_cons.mp hname).resolve_left (Ne.symm heq))

lemma lifeline_send {d : DaemonState} {name : String} :
    ({ d with vms := mapVms DaemonVm.markSent d.vms } : DaemonState).lifeline name =
      d.lifeline name := by
  simp only [DaemonState.lifeline, lookup_mapVms]
  cases d.vms.lookup name with
  | none => rfl
  | some vm => simp [markSent_desired, markSent_sm]

/-- **A snapshot shows** every VM as it is after the tick. -/
lemma shown_buildSnapshot (hs : EveryVm (fun _ => True) s.1) (tick : UInt64) (name : String) :
    (DaemonState.buildSnapshot env tick s).1.shown name =
      ((DaemonState.tick env s).1.lifeline name).view := by
  have hafter : (DaemonState.tick env s).1.lifeline name =
      (run (DaemonState.tickVm env) s s.1.visited).1.lifeline name := lifeline_send
  rw [hafter, Snapshot.shown, DaemonState.buildSnapshot]
  by_cases hname : name ∈ s.1.visited
  · cases hcfg : s.1.rootCfg with
    | none =>
        rw [DaemonState.visited, hcfg] at hname
        exact absurd hname List.not_mem_nil
    | some cfg =>
        have hvisited : s.1.visited = cfg.sortedNames := by
          rw [DaemonState.visited, hcfg]
          rfl
        have hnodup := nodup_visited s.1
        rw [hvisited] at hname hnodup
        have hall : ∀ other ∈ cfg.sortedNames, other ∈ cfg.vm := fun other hother => by
          rw [← hvisited] at hother
          exact (mem_visited hcfg).mp hother
        dsimp only
        rw [find_visitVms hall hnodup hname, hvisited]
        rfl
  · -- a VM that is not configured is neither listed nor managed
    have hdown : (run (DaemonState.tickVm env) s s.1.visited).1.lifeline name = .Down := by
      rw [DaemonState.lifeline, lookup_run_tickVm hname]
      cases hvm : s.1.vms.lookup name with
      | none => rfl
      | some vm => exact absurd (hs name vm hvm).1 hname
    rw [hdown]
    cases hcfg : s.1.rootCfg with
    | none => rfl
    | some cfg =>
        have hlisted : (DaemonState.visitVms env cfg cfg.sortedNames s).1.find?
            (fun status => status.name = name) = none := by
          rw [List.find?_eq_none]
          intro status hstatus heq
          have hvisited : s.1.visited = cfg.sortedNames := by
            rw [DaemonState.visited, hcfg]
            rfl
          rw [hvisited] at hname
          refine hname ?_
          have hmem := List.mem_map_of_mem (f := IpcVmStatus.name) hstatus
          rw [names_visitVms (fun other hother => (mem_visited hcfg).mp
            (by rw [hvisited]; exact hother))] at hmem
          simpa [← of_decide_eq_true heq] using hmem
        dsimp only
        rw [hlisted]
        rfl

end

/-! ## Runs -/

/-- Every managed VM stays configured. -/
lemma managed_configured {s : DaemonState × W} (hs : EveryVm (fun _ => True) s.1)
    (op : DaemonOp W) : EveryVm (fun _ => True) (DaemonState.apply s op).1 := by
  cases op with
  | Command line =>
      rw [apply_command]
      exact everyVm_command (fun _ _ _ _ => trivial) (fun _ _ => trivial) hs
        fun _ _ _ _ _ _ => trivial
  | Tick tick env =>
      rw [apply_tick]
      exact everyVm_tick (fun _ _ _ => trivial) (fun _ _ => trivial) hs

/-- **The daemon refines the model.** -/
theorem daemon_refines (name : String) :
    Refines DaemonState.apply (lifeLabel name) (fun s : DaemonState × W => s.1.lifeline name)
      (fun s => EveryVm (fun _ => True) s.1) LifeStep where
  keeps s op hs := managed_configured hs op
  step s op hs := by
    cases op with
    | Command line => exact .asked (lifeline_command hs line name)
    | Tick tick env =>
        rw [lifeLabel, shown_buildSnapshot hs, apply_tick]
        exact .shown (lifeline_tick hs name)

/-- The label shows a state. -/
def LifeLabel.shown : LifeLabel → Option IpcVmState
  | .Asked _ => none
  | .Shown state => some state

/-- What is shown along a run is what the labels of its path show. -/
lemma trace_shows (name : String) (s : DaemonState × W) (ops : List (DaemonOp W)) :
    (trace DaemonState.apply (fun s op => [lifeLabel name s op]) s ops).filterMap
        LifeLabel.shown = trace DaemonState.apply (shows name) s ops := by
  induction ops generalizing s with
  | nil => rfl
  | cons op ops ih =>
      rw [trace, trace, List.filterMap_append, ih]
      cases op with
      | Command line => rfl
      | Tick tick env => rfl

/-- The life of the VM since its last snapshot: it shows what was shown then, or it was down and was
asked for since. -/
def Lifeline.Since (shown : IpcVmState) (a : Lifeline) : Prop :=
  a.view = shown ∨ shown = .Stopped ∧ (a = .Fresh ∨ a = .Withdrawn)

instance (shown : IpcVmState) (a : Lifeline) : Decidable (a.Since shown) :=
  inferInstanceAs (Decidable (_ ∨ _))

lemma since_asked {shown : IpcVmState} {a b : Lifeline} {request : LifeRequest}
    (hb : b ∈ a.answers request) (h : a.Since shown) : b.Since shown := by
  revert b
  cases shown <;> cases a <;> cases request <;> revert h <;> decide

lemma since_shown {shown : IpcVmState} {a b : Lifeline} (hb : b ∈ a.successors)
    (h : a.Since shown) : b.view ∈ shown.follows ∧ b.Since b.view := by
  refine ⟨?_, .inl rfl⟩
  revert b
  cases shown <;> cases a <;> revert h <;> decide

lemma unwanted_asked {a b : Lifeline} {request : LifeRequest} (hb : b ∈ a.answers request)
    (hstart : request ≠ .Start) (h : a.Unwanted) : b.Unwanted ∧ b.view = a.view := by
  revert b
  cases request <;> cases a <;> revert h hstart <;> decide

lemma unwanted_shown {a b : Lifeline} (hb : b ∈ a.successors) (h : a.Unwanted) :
    b.Unwanted ∧ b.view ∈ a.view.falls := by
  revert b
  cases a <;> revert h <;> decide

/-- The life of a VM in a run. -/
lemma life_path (rootCfg : Option RootConfig) (global : List IpcEvent) (perVm : List IpcVmEvents)
    (w : W) (ops : List (DaemonOp W)) (name : String) :
    let s₀ := (DaemonState.new rootCfg global perVm, w)
    Path LifeStep .Down (trace DaemonState.apply (fun s op => [lifeLabel name s op]) s₀ ops)
      ((run DaemonState.apply s₀ ops).1.lifeline name) := by
  intro s₀
  exact (daemon_refines name).path (s := s₀) (everyVm_new rootCfg global perVm) ops

/-- The states that the snapshots of a run show of it. -/
lemma isChain_shows (rootCfg : Option RootConfig) (global : List IpcEvent)
    (perVm : List IpcVmEvents) (w : W) (ops : List (DaemonOp W)) (name : String) :
    (IpcVmState.Stopped :: trace DaemonState.apply (shows name)
      (DaemonState.new rootCfg global perVm, w) ops).IsChain
        fun before after => after ∈ before.follows := by
  have hpath := life_path rootCfg global perVm w ops name
  rw [← trace_shows]
  refine hpath.isChain (C := fun _ => True) (fun shown a => a.Since shown) ?_ ?_
    (fun _ _ => trivial) (.inl rfl)
  · rintro shown a l b - (hb | hb) hsilent hsince
    · exact since_asked hb hsince
    · cases hsilent
  · rintro shown a l b state - (hb | hb) hshown hsince
    · cases hshown
    · obtain rfl := Option.some.inj hshown
      exact since_shown hb hsince

/-- **What the clients see.**  In every run of the daemon, whatever its clients send and its phases
and guests do, the life of a VM is a path of the model, and the states that the snapshots show of it
follow each other: it never goes from stopped to running without being shown as starting, nor from
starting or running to stopped without being shown as shutting down, and once it is shut down it is
not shown as running before it was shown as stopped. -/
theorem shown_follows (rootCfg : Option RootConfig) (global : List IpcEvent)
    (perVm : List IpcVmEvents) (w : W) (ops : List (DaemonOp W)) (name : String) :
    let s₀ := (DaemonState.new rootCfg global perVm, w)
    Path LifeStep .Down (trace DaemonState.apply (fun s op => [lifeLabel name s op]) s₀ ops)
        ((run DaemonState.apply s₀ ops).1.lifeline name) ∧
      (IpcVmState.Stopped :: trace DaemonState.apply (shows name) s₀ ops).IsChain
        fun before after => after ∈ before.follows :=
  ⟨life_path rootCfg global perVm w ops name, isChain_shows rootCfg global perVm w ops name⟩

/-! ## A VM that nobody wants up -/

/-- A visit to a VM that is not wanted up performs nothing, or shuts it down further. -/
lemma observeVm_unwanted {env : TickEnv W} {s : DaemonState × W} {name : String}
    (h : (s.1.lifeline name).Unwanted) {event : LifeEvent} (hevent : event ∈ observeVm env s name) :
    ∃ before ok, event = .Ran name .StepShutdown before ok := by
  cases hvm : s.1.vms.lookup name with
  | none =>
      rw [observeVm, hvm] at hevent
      exact absurd hevent List.not_mem_nil
  | some vm =>
      rcases @observeVm_cases _ env _ _ _ hvm with hnil | ⟨op, before, ok, hone, hstep, -⟩
      · rw [hnil] at hevent
        exact absurd hevent List.not_mem_nil
      · rw [hone, List.mem_singleton] at hevent
        cases op with
        | StepShutdown => exact ⟨before, ok, hevent⟩
        | Step =>
            obtain ⟨hup, hbringUp⟩ := hstep rfl
            have hwanted : ∀ desired state, IpcVmState.WantsUp desired → state.IsBringUp →
                ¬ (lifelineOf desired state).Unwanted := by
              intro desired state
              cases desired <;> cases state <;> decide
            rw [DaemonState.lifeline, hvm] at h
            exact absurd h (hwanted _ _ hup hbringUp)

/-- What a tick performs on a VM is what its visit to it performs. -/
lemma observeDaemon_visit {env : TickEnv W} {s : DaemonState × W} {tick : UInt64}
    {name : String} {event : LifeEvent} (hevent : event ∈ observeDaemon s (.Tick tick env))
    (hname : event.name = name) :
    let w := (run (DaemonState.tickVm env) s (s.1.visited.takeWhile (· ≠ name))).2
    event ∈ observeVm env (s.1, w) name ∧
      (DaemonState.advanced env s).lookup name =
        (s.1.vms.lookup name).map fun vm => (vm.advance env w).1 := by
  obtain ⟨pre, visited, post, hnames, hvisit⟩ := mem_trace.mp hevent
  obtain ⟨hbefore, hafter⟩ := @lookup_run_visited _ env _ _ _ _ hnames
  obtain rfl : visited = name := (name_of_mem_observeVm hvisit).symm.trans hname
  rw [takeWhile_visited hnames]
  refine ⟨?_, hafter⟩
  rw [observeVm, hbefore] at hvisit
  exact hvisit

/-- The operation is not a command that asks for the VM to be started. -/
def DaemonOp.LeavesAlone (name : String) : DaemonOp W → Prop
  | .Command line => lifeRequest name line ≠ .Start
  | .Tick _ _ => True

section

variable {s : DaemonState × W} {op : DaemonOp W} {name : String}

/-- **An operation** that does not start the VM keeps it unwanted, and at most shuts it down
further. -/
lemma unwanted_apply (hs : EveryVm (fun _ => True) s.1) (hop : op.LeavesAlone name)
    (h : (s.1.lifeline name).Unwanted) :
    ((DaemonState.apply s op).1.lifeline name).Unwanted ∧
      ∀ event ∈ observeDaemon s op, event.name = name →
        ∃ before ok, event = .Ran name .StepShutdown before ok := by
  cases op with
  | Command line =>
      have hcommand := lifeline_command hs line name
      obtain ⟨hunwanted, -⟩ := unwanted_asked hcommand hop h
      refine ⟨hunwanted, fun event hevent hname => ?_⟩
      -- a new runtime is wanted up
      obtain ⟨other, hnew, rfl⟩ := List.mem_map.mp hevent
      obtain rfl : other = name := hname
      rcases renewed_or_kept s.1 line other with ⟨-, vmCfg, vm, hmade, hlook⟩ | ⟨hkept, -⟩
      · rw [DaemonState.lifeline, hlook] at hunwanted
        dsimp only at hunwanted
        rw [state_of_new hmade] at hunwanted
        exact absurd hunwanted (by decide)
      · exact absurd hnew hkept
  | Tick tick env =>
      have htick := @lifeline_tick _ env _ hs name
      rw [apply_tick]
      refine ⟨(unwanted_shown htick h).1, fun event hevent hname => ?_⟩
      obtain ⟨hvisit, -⟩ := observeDaemon_visit hevent hname
      generalize (run (DaemonState.tickVm env) s (s.1.visited.takeWhile (· ≠ name))).2 = w at hvisit
      exact @observeVm_unwanted _ env (s.1, w) _ h _ hvisit

end

/-- What the clients ask for while they leave the VM alone. -/
lemma label_of_leavesAlone {s : DaemonState × W} {ops : List (DaemonOp W)} {name : String}
    (hops : ∀ op ∈ ops, op.LeavesAlone name) :
    ∀ l ∈ trace DaemonState.apply (fun s op => [lifeLabel name s op]) s ops,
      l ≠ .Asked .Start := by
  intro l hl hstart
  obtain ⟨pre, op, post, rfl, hop⟩ := mem_trace.mp hl
  have hquiet := hops op (by simp)
  rw [List.mem_singleton.mp hop] at hstart
  cases op with
  | Command line => exact hquiet (LifeLabel.Asked.inj hstart)
  | Tick tick env => cases hstart

/-- **A VM that nobody wants up is only taken down.**  From any state that a run of the daemon
reaches in which a VM is down or not wanted up, until a command asks for it to be started: it stays
so, nothing but `step_shutdown` is performed on it, it gets no new runtime, and the snapshots show
it on its way down. -/
theorem unwanted_until_started (rootCfg : Option RootConfig) (global : List IpcEvent)
    (perVm : List IpcVmEvents) (w : W) (before after : List (DaemonOp W)) (name : String)
    (hunwanted : let s := run DaemonState.apply (DaemonState.new rootCfg global perVm, w) before
      (s.1.lifeline name).Unwanted)
    (hafter : ∀ op ∈ after, op.LeavesAlone name) :
    let s := run DaemonState.apply (DaemonState.new rootCfg global perVm, w) before
    ((run DaemonState.apply s after).1.lifeline name).Unwanted ∧
      (∀ event ∈ trace DaemonState.apply observeDaemon s after, event.name = name →
        ∃ before ok, event = .Ran name .StepShutdown before ok) ∧
      ((s.1.lifeline name).view :: trace DaemonState.apply (shows name) s after).IsChain
        fun before after => after ∈ before.falls := by
  intro s
  have hs : EveryVm (fun _ => True) s.1 :=
    run_invariant (I := fun t : DaemonState × W => EveryVm (fun _ => True) t.1)
      (fun t op ht => managed_configured ht op) (everyVm_new _ _ _) before
  have hkept : ∀ ops : List (DaemonOp W), (∀ op ∈ ops, op.LeavesAlone name) →
      EveryVm (fun _ => True) (run DaemonState.apply s ops).1 ∧
        ((run DaemonState.apply s ops).1.lifeline name).Unwanted := by
    intro ops hops
    refine run_invariant_along (C := fun _ op => op.LeavesAlone name)
      (I := fun t : DaemonState × W => EveryVm (fun _ => True) t.1 ∧
        (t.1.lifeline name).Unwanted) ?_ ⟨hs, hunwanted⟩ ?_
    · exact fun t op ht hop => ⟨managed_configured ht.1 op, (unwanted_apply ht.1 hop ht.2).1⟩
    · rintro pre op post rfl
      exact hops op (by simp)
  refine ⟨(hkept after hafter).2, fun event hevent hname => ?_, ?_⟩
  · obtain ⟨pre, op, post, rfl, hop⟩ := mem_trace.mp hevent
    obtain ⟨hmanaged, hdown⟩ := hkept pre fun op hmem => hafter op (List.mem_append_left _ hmem)
    exact (unwanted_apply hmanaged (hafter op (by simp)) hdown).2 event hop hname
  · rw [← trace_shows]
    refine ((daemon_refines name).path hs after).isChain (C := fun l => l ≠ .Asked .Start)
      (fun shown a => a.Unwanted ∧ a.view = shown) ?_ ?_ (label_of_leavesAlone hafter)
      ⟨hunwanted, rfl⟩
    · rintro shown a l b hstart (hb | hb) hsilent ⟨hdown, rfl⟩
      · exact unwanted_asked hb (fun h => hstart (by rw [h])) hdown
      · cases hsilent
    · rintro shown a l b state - (hb | hb) hshown ⟨hdown, rfl⟩
      · cases hshown
      · obtain rfl := Option.some.inj hshown
        obtain ⟨hunwanted', hfalls⟩ := unwanted_shown hb hdown
        exact ⟨hfalls, hunwanted', rfl⟩

/-- The VM is started, and stopped after two of its phases. -/
def stoppedEarly : List (DaemonOp Unit) :=
  [.Command "vm start a", .Tick 1 (idleEnv Unit), .Tick 2 (idleEnv Unit), .Command "vm stop a"]

/-- What may happen then. -/
def leftAlone : List (DaemonOp Unit) :=
  [.Tick 3 (idleEnv Unit), .Command "vm status a", .Command "vm start b", .Tick 4 (idleEnv Unit),
    .Command "vm stop a", .Tick 5 (idleEnv Unit)]

/-- The stopped VM is shut down and stays so. -/
theorem stopped_stays_down :
    let s := run DaemonState.apply (DaemonState.new
      (some ⟨AList.singleton "a" (minimalVmConfig {} {})⟩) [] [], ()) stoppedEarly
    ((run DaemonState.apply s leftAlone).1.lifeline "a").Unwanted ∧
      (∀ event ∈ trace DaemonState.apply observeDaemon s leftAlone, event.name = "a" →
        ∃ before ok, event = .Ran "a" .StepShutdown before ok) ∧
      ((s.1.lifeline "a").view :: trace DaemonState.apply (shows "a") s leftAlone).IsChain
        fun before after => after ∈ before.falls := by
  refine unwanted_until_started _ [] [] () stoppedEarly leftAlone "a" (by decide) ?_
  intro op hop
  simp only [leftAlone, List.mem_cons, List.not_mem_nil, or_false] at hop
  rcases hop with rfl | rfl | rfl | rfl | rfl | rfl <;> simp only [DaemonOp.LeavesAlone]
  all_goals decide

/-! ## Failures -/

lemma lifelineOf_unwanted {desired : IpcVmState} {state : VmState} (h : ¬ desired.WantsUp) :
    (lifelineOf desired state).Unwanted := by
  revert h
  cases desired <;> cases state <;> decide

/-- **An operation that fails** leaves the VM in the phase, wanted up by nobody, with the error at
the end of its log. -/
lemma advance_of_failed {env : TickEnv W} {d : DaemonState} {w : W} {name : String} {op : Op}
    {before : VmState} (hfail : .Ran name op before false ∈ observeVm env (d, w) name) :
    ∃ vm e t, d.vms.lookup name = some vm ∧ before = vm.sm.state ∧
      env.host.perform op ((vm.pollQemu fun q => env.tryWait q w).sm, w) = .error e t ∧
      ¬ (vm.advance env w).1.desired.WantsUp ∧ (vm.advance env w).1.sm.state = before ∧
      (vm.advance env w).1.sm.rt.events =
        t.1.rt.events ++ [⟨.Error, op.errorText e⟩] ∧
      vm.sm.rt.events <+: t.1.rt.events := by
  cases hvm : d.vms.lookup name with
  | none => simp [observeVm, hvm] at hfail
  | some vm =>
      let polled := vm.pollQemu fun q => env.tryWait q w
      have hstate : polled.sm.state = vm.sm.state := state_pollQemu _ vm
      rw [observeVm, hvm] at hfail
      dsimp only at hfail
      cases hdue : polled.desired.due polled.sm.state with
      | none =>
          rw [hdue] at hfail
          exact absurd hfail List.not_mem_nil
      | some due =>
          rw [hdue, List.mem_singleton] at hfail
          obtain ⟨-, rfl, rfl, hok⟩ := LifeEvent.Ran.inj hfail
          obtain ⟨e, hx⟩ := outcome_eq_false.mp (Prod.ext hok.symm rfl)
          have happends := events_advance env.host op (polled.sm, w)
          have hstays := perform_state env.host op (polled.sm, w)
          rw [advance, outcome_of_error hx, events_pollQemu] at happends
          rw [hx] at hstays
          have hdriven : vm.advance env w = driveVmTowardsDesired env.host polled w := rfl
          rw [drive_fails hdue hx] at hdriven
          refine ⟨vm, e, _, rfl, hstate, hx, ?_, ?_, ?_, happends⟩
          · rw [hdriven]
            exact not_wantsUp_afterFailure hdue
          · rw [hdriven]
            exact hstays
          · rw [hdriven]
            rfl

/-- What a tick sends for a VM, its snapshot carries. -/
lemma mem_carried_of_emitted {env : TickEnv W} {tick : UInt64} {s : DaemonState × W}
    {name : String} {event : IpcEvent} (h : event ∈ emitted name s (.Tick tick env)) :
    event ∈ (DaemonState.buildSnapshot env tick s).1.carried name := by
  obtain ⟨batch, hbatch, hevent⟩ := List.mem_flatMap.mp h
  obtain ⟨hmem, hname⟩ := List.mem_filter.mp hbatch
  exact List.mem_flatMap.mpr
    ⟨batch, List.mem_filter.mpr ⟨List.mem_of_mem_drop hmem, hname⟩, hevent⟩

/-- What the snapshot of a tick says of an operation on the VM that failed in it. -/
structure Reported (env : TickEnv W) (s s' : DaemonState × W) (snapshot : Snapshot)
    (name : String) (op : Op) (before : VmState) : Prop where
  /-- The error that the operation returned on the machine of the VM, as it was when the tick came
  to it and had polled its QEMU, is among the events of the VM. -/
  carried :
    let w := (run (DaemonState.tickVm env) s (s.1.visited.takeWhile (· ≠ name))).2
    ∃ vm e t, s.1.vms.lookup name = some vm ∧ vm.sm.state = before ∧
      env.host.perform op ((vm.pollQemu fun q => env.tryWait q w).sm, w) = .error e t ∧
      ⟨.Error, op.errorText e⟩ ∈ snapshot.carried name
  /-- The state that it failed in is shown. -/
  shown : snapshot.shown name = mapVmStateToIpc before
  /-- Nobody wants the VM up. -/
  unwanted : (s'.1.lifeline name).Unwanted

lemma reported_of_failed {startup : List IpcVmEvents} {s : DaemonState × W} {env : TickEnv W}
    {tick : UInt64} {name : String} {op : Op} {before : VmState} (hs : Sending startup s.1)
    (hfail : .Ran name op before false ∈ observeDaemon s (.Tick tick env)) :
    Reported env s (DaemonState.buildSnapshot env tick s).2
      (DaemonState.buildSnapshot env tick s).1 name op before := by
  obtain ⟨hvisit, hadvanced⟩ := @observeDaemon_visit _ env s tick name _ hfail rfl
  generalize hw : (run (DaemonState.tickVm env) s (s.1.visited.takeWhile (· ≠ name))).2 = w
    at hvisit hadvanced
  obtain ⟨vm, e, t, hvm, rfl, hx, hdown, hstays, hevents, happends⟩ := advance_of_failed hvisit
  have hlook : (DaemonState.advanced env s).lookup name = some (vm.advance env w).1 := by
    refine hadvanced.trans ?_
    rw [show s.1.vms.lookup name = some vm from hvm]
    rfl
  have hlife : (DaemonState.tick env s).1.lifeline name =
      lifelineOf (vm.advance env w).1.desired vm.sm.state := by
    refine lifeline_send.trans ?_
    show (match (DaemonState.advanced env s).lookup name with
      | none => Lifeline.Down
      | some vm => lifelineOf vm.desired vm.sm.state) = _
    rw [hlook]
    dsimp only
    rw [hstays]
  refine ⟨⟨vm, e, t, hvm, rfl, hw ▸ hx, ?_⟩, ?_, ?_⟩
  · refine mem_carried_of_emitted ?_
    have hcursor : (vm.advance env w).1.lastSentEventIndex = vm.sm.rt.events.length :=
      (advance_appends env vm w).2.trans (hs.sent name vm hvm)
    rw [emitted_tick, hlook, Option.map_some, Option.getD_some, hcursor, hevents,
      List.drop_append_of_le_length happends.length_le, List.map_append]
    exact List.mem_append_right _ (List.mem_singleton.mpr rfl)
  · rw [shown_buildSnapshot hs.configured, hlife, view_lifelineOf]
  · rw [buildSnapshot_state, hlife]
    exact lifelineOf_unwanted hdown

/-- **Failures are reported.**  In every state that a run of the daemon reaches: when an operation
that a tick performs on a VM fails, the snapshot of that tick carries the error that it returned
among the events of the VM and still shows the state that it failed in, and nobody wants the VM up
any more. -/
theorem failure_reported (rootCfg : Option RootConfig) (global : List IpcEvent)
    (perVm : List IpcVmEvents) (w : W) (ops : List (DaemonOp W)) (tick : UInt64) (env : TickEnv W)
    (name : String) (op : Op) (before : VmState)
    (hfail : let s := run DaemonState.apply (DaemonState.new rootCfg global perVm, w) ops
      LifeEvent.Ran name op before false ∈ observeDaemon s (.Tick tick env)) :
    let s := run DaemonState.apply (DaemonState.new rootCfg global perVm, w) ops
    Reported env s (DaemonState.buildSnapshot env tick s).2
      (DaemonState.buildSnapshot env tick s).1 name op before := by
  intro s
  have hs : Sending perVm s.1 := by
    refine run_invariant (I := fun t : DaemonState × W => Sending perVm t.1)
      (fun _ op ht => ht.apply op) ⟨rfl, ?_, everyVm_new _ _ _⟩ ops
    intro other vm hvm
    cases hvm
  exact reported_of_failed hs hfail

/-- The Validate phase fails. -/
theorem failed_validate_reported :
    let env : TickEnv Unit := { idleEnv Unit with host := brokenHost }
    let s := run DaemonState.apply (DaemonState.new
      (some ⟨AList.singleton "a" (minimalVmConfig {} {})⟩) [] [], ())
      [.Command "vm start a", .Tick 1 (idleEnv Unit)]
    Reported env s (DaemonState.buildSnapshot env 2 s).2 (DaemonState.buildSnapshot env 2 s).1 "a"
      .Step .Validate :=
  failure_reported _ [] [] () [.Command "vm start a", .Tick 1 (idleEnv Unit)] 2
    { idleEnv Unit with host := brokenHost } "a" .Step .Validate (by decide)

end Chalybs
