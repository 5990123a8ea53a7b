import Chalybs.Daemon.Delivery
import Chalybs.Daemon.Snapshot

/-!
# Batches of events

A snapshot carries the events of the VMs in batches, one after the other from the startup
introspection and from the logs of the runtimes.  `DaemonSnapshot::events_for_vm`
(`daemon/src/snapshot.rs`) looks at the first batch of a VM only.

* `complete_iff` — it misses nothing exactly when no VM has two batches.
* `pushes_advance_iff` — a tick pushes events to a VM exactly when something is due for it.
* `single_iff` — which snapshots have one batch for each VM, and `single_first_iff` — whether the
  first one does.
-/

namespace Chalybs

open Foundation

variable {W : Type}

/-! ## Looking up -/

/-- `events_for_vm`. -/
def Snapshot.eventsForVm (snapshot : Snapshot) (name : String) : List IpcEvent :=
  ((snapshot.eventsVm.find? fun batch => batch.vmName = name).map IpcVmEvents.events).getD []

/-- All the events that the snapshot carries for a VM. -/
def Snapshot.carried (snapshot : Snapshot) (name : String) : List IpcEvent :=
  (snapshot.eventsVm.filter fun batch => batch.vmName = name).flatMap IpcVmEvents.events

/-- No VM has two batches. -/
def Snapshot.Single (snapshot : Snapshot) : Prop :=
  (snapshot.eventsVm.map IpcVmEvents.vmName).Nodup

/-- The lookup misses nothing. -/
def Snapshot.Complete (snapshot : Snapshot) : Prop :=
  ∀ name, snapshot.eventsForVm name = snapshot.carried name

/-- **The lookup misses nothing** exactly when no VM has two batches, if no batch is empty. -/
theorem complete_iff {snapshot : Snapshot} (hne : ∀ batch ∈ snapshot.eventsVm, batch.events ≠ []) :
    snapshot.Complete ↔ snapshot.Single := by
  obtain ⟨vms, eventsGlobal, batches⟩ := snapshot
  simp only [Snapshot.Complete, Snapshot.Single, Snapshot.eventsForVm, Snapshot.carried] at hne ⊢
  induction batches with
  | nil => simp
  | cons batch batches ih =>
      obtain ⟨hbatch, hbatches⟩ := List.forall_mem_cons.mp hne
      rw [List.map_cons, List.nodup_cons, ← ih hbatches]
      have hother : ∀ name, batch.vmName ≠ name →
          (((batch :: batches).find? fun batch => batch.vmName = name) =
            batches.find? fun batch => batch.vmName = name) ∧
          ((batch :: batches).filter fun batch => batch.vmName = name) =
            batches.filter fun batch => batch.vmName = name := by
        intro name hname
        simp [hname]
      have hself : ((batch :: batches).find? fun b => b.vmName = batch.vmName) = some batch ∧
          ((batch :: batches).filter fun b => b.vmName = batch.vmName) =
            batch :: batches.filter fun b => b.vmName = batch.vmName := by simp
      have hfilter : batch.vmName ∉ batches.map IpcVmEvents.vmName ↔
          (batches.filter fun b => b.vmName = batch.vmName) = [] := by
        simp [List.filter_eq_nil_iff]
      constructor
      · intro h
        have hfirst := h batch.vmName
        rw [hself.1, hself.2, List.flatMap_cons] at hfirst
        have hrest : (batches.filter fun b => b.vmName = batch.vmName) = [] := by
          have hnil := List.self_eq_append_right.mp hfirst
          rw [List.flatMap_eq_nil_iff] at hnil
          refine List.eq_nil_iff_forall_not_mem.mpr fun b hb => ?_
          exact hbatches b (List.mem_filter.mp hb).1 (hnil b hb)
        refine ⟨hfilter.mpr hrest, fun name => ?_⟩
        by_cases hname : batch.vmName = name
        · subst hname
          have hfind : (batches.find? fun b => b.vmName = batch.vmName) = none := by
            rw [List.find?_eq_none]
            exact fun b hb => List.filter_eq_nil_iff.mp hrest b hb
          rw [hrest, hfind]
          rfl
        · have hsame := h name
          rwa [(hother name hname).1, (hother name hname).2] at hsame
      · rintro ⟨hfirst, h⟩ name
        by_cases hname : batch.vmName = name
        · subst hname
          rw [hself.1, hself.2, hfilter.mp hfirst]
          simp
        · rw [(hother name hname).1, (hother name hname).2]
          exact h name

/-! ## Pushing -/

section

variable {h : Host W} {P : VmRuntime → W → Prop}

/-- An arm that begins with an event keeps what holds once that was pushed. -/
lemma ends_pushSystem_then {m : String} {rest : MachineM W Unit} {s : VmStateMachine × W}
    (hrest : Preserves (OnRuntime P) rest) (hpush : P (s.1.rt.pushSystem m) s.2) :
    Ends (pushSystem m >>= fun _ => rest) s (fun _ => OnRuntime P) fun _ => OnRuntime P := by
  rw [ends_bind, ends_pushSystem]
  exact hrest _ hpush

/-- The log is longer than it was. -/
def LongerThan (log : List CoreEvent) (rt : VmRuntime) (_ : W) : Prop :=
  log.length < rt.events.length

lemma framed_longerThan (log : List CoreEvent) :
    Framed (LongerThan log : VmRuntime → W → Prop) where
  push rt w kind message hrt := by
    simp only [LongerThan, VmRuntime.pushEvent, List.length_append] at hrt ⊢
    omega
  pinnedThreads _ _ hrt := hrt
  pinnedIrqs _ _ hrt := hrt
  cpuPlan _ _ _ hrt := hrt

lemma preserves_invoke_longerThan (log : List CoreEvent) (c : Callee) :
    Preserves (OnRuntime (LongerThan log)) (h.invoke c) := by
  intro t ht
  have hstore := fun part => (events_store c t.1.rt part).length_le
  rw [ends_invoke, Ends]
  cases h.call c t.1.rt (c.owned t.1.rt, t.2) with
  | ok a u => exact Nat.lt_of_lt_of_le ht (hstore _)
  | error e u => exact Nat.lt_of_lt_of_le ht (hstore _)

lemma longerThan_push (rt : VmRuntime) (m : String) (w : W) :
    LongerThan rt.events (rt.pushSystem m) w := by
  simp [LongerThan, VmRuntime.pushSystem, VmRuntime.pushEvent]

/-- **An operation that is due pushes an event**, unless it fails. -/
lemma ends_perform_longer {desired : IpcVmState} {op : Op} {s : VmStateMachine × W}
    (hdue : desired.due s.1.state = some op) :
    Ends (h.perform op) s (fun _ => OnRuntime (LongerThan s.1.rt.events)) fun _ _ => True := by
  have hP := framed_longerThan (W := W) s.1.rt.events
  have hcalls := fun c => preserves_invoke_longerThan (h := h) s.1.rt.events c
  rw [ends_perform]
  obtain ⟨⟨state, rt⟩, w⟩ := s
  have hstart : ∀ m rest, Preserves (OnRuntime (LongerThan rt.events)) rest →
      Ends (pushSystem m >>= fun _ => rest) (⟨state, rt⟩, w)
        (fun _ => OnRuntime (LongerThan rt.events)) fun _ _ => True := fun m rest hrest =>
    (ends_pushSystem_then hrest (longerThan_push rt m w)).mono (fun _ _ h => h) fun _ _ _ => trivial
  -- what follows the first event of an arm
  cases op with
  | Step =>
      have hup : state.IsBringUp := (due_step_iff.mp hdue).2
      revert hup
      cases state <;> intro hup <;> first
        | exact absurd hup (by decide)
        | refine hstart _ _ ?_
          repeat' first
            | refine Preserves.bind ?_ fun _ => ?_
            | exact preserves_modifyRt fun rt w hrt => hP.push rt w _ _ hrt
            | exact preserves_setState
            | exact hcalls _
            | exact preserves_modifyRt hP.pinnedThreads
            | exact preserves_modifyRt hP.pinnedIrqs
            | exact preserves_modifyRt hP.pushLaunched
            | exact preserves_checkCpuPlan hP.toFramedBut h
  | StepShutdown =>
      have hidle : state ≠ .Idle := (due_stepShutdown_iff.mp hdue).2
      revert hidle
      cases state <;> intro hidle <;> first
        | exact absurd rfl hidle
        | exact longerThan_push rt _ w
        | refine hstart _ _ ?_
          repeat' first
            | refine Preserves.bind ?_ fun _ => ?_
            | exact preserves_modifyRt fun rt w hrt => hP.push rt w _ _ hrt
            | exact preserves_setState
            | exact hcalls _

/-- **A tick pushes events to a VM** exactly when something is due for it. -/
theorem pushes_advance_iff (env : TickEnv W) (vm : DaemonVm) (w : W) :
    vm.sm.rt.events.length < (vm.advance env w).1.sm.rt.events.length ↔
      (vm.pollQemu fun q => env.tryWait q w).desired.due vm.sm.state ≠ none := by
  let polled := vm.pollQemu fun q => env.tryWait q w
  have hstate : polled.sm.state = vm.sm.state := state_pollQemu _ vm
  have hevents : polled.sm.rt.events = vm.sm.rt.events := events_pollQemu _ vm
  rw [DaemonVm.advance, ← hevents, ← hstate]
  cases hdue : polled.desired.due polled.sm.state with
  | none =>
      rw [drive_rests hdue]
      simp
  | some op =>
      refine iff_of_true ?_ (by simp)
      cases hx : env.host.perform op (polled.sm, w) with
      | ok a t =>
          have hlonger := ends_perform_longer (h := env.host) (s := (polled.sm, w)) hdue
          rw [Ends, hx] at hlonger
          rw [drive_succeeds hdue hx]
          exact hlonger
      | error e t =>
          have happends := (events_advance env.host op (polled.sm, w)).length_le
          rw [advance, outcome_of_error hx] at happends
          rw [drive_fails hdue hx]
          simp only [DaemonVm.reportError, VmRuntime.pushError, VmRuntime.pushEvent,
            List.length_append, List.length_singleton]
          exact Nat.lt_succ_of_le happends

end

/-! ## The batches of a tick -/

/-- Something is due for the VM when its turn comes in a tick, after those before it. -/
def IsDue (env : TickEnv W) (s : DaemonState × W) (name : String) : Prop :=
  let w := (run (DaemonState.tickVm env) s (s.1.visited.takeWhile (· ≠ name))).2
  ∃ vm, s.1.vms.lookup name = some vm ∧
    (vm.pollQemu fun q => env.tryWait q w).desired.due vm.sm.state ≠ none

/-- A VM that was not advanced yet is due, whatever it is wanted for. -/
lemma isDue_of_init {env : TickEnv W} {s : DaemonState × W} {name : String} {vm : DaemonVm}
    (hvm : s.1.vms.lookup name = some vm) (hinit : vm.sm.state = .Init) : IsDue env s name := by
  refine ⟨vm, hvm, ?_⟩
  rw [pollQemu_of_not_steady (by rw [hinit]; decide), hinit]
  cases vm.desired <;> decide

/-- What holds of the daemon in every run: it has its startup events, all others have been sent, and
its VMs are configured. -/
structure Sending (startup : List IpcVmEvents) (d : DaemonState) : Prop where
  startup : d.startupEventsVm = startup
  sent : EverySent d
  configured : EveryVm (fun _ => True) d

section

variable {startup : List IpcVmEvents} {s : DaemonState × W} {env : TickEnv W}

lemma Sending.apply (hs : Sending startup s.1) (op : DaemonOp W) :
    Sending startup (DaemonState.apply s op).1 := by
  cases op with
  | Command line =>
      rw [apply_command]
      exact ⟨(startup_handleShellCommand s.1 line).trans hs.startup, everySent_command hs.sent line,
        everyVm_command (fun _ _ _ _ => trivial) (fun _ _ => trivial) hs.configured
          fun _ _ _ _ _ _ => trivial⟩
  | Tick tick env =>
      refine ⟨?_, everySent_tick hs.sent tick env, ?_⟩
      · rw [apply_tick]
        exact run_invariant (I := fun t : DaemonState × W => t.1.startupEventsVm = startup)
          (fun _ name ht => startup_tickVm.trans ht) hs.startup _
      · rw [apply_tick]
        exact everyVm_tick (fun _ _ _ => trivial) (fun _ _ => trivial) hs.configured

/-- **A tick has a batch for a VM** exactly when something is due for it. -/
lemma newEvents_advanced_iff (hs : Sending startup s.1) (name : String) :
    (((DaemonState.advanced env s).lookup name).bind (DaemonVm.newEvents name)).isSome ↔
      IsDue env s name := by
  cases hvm : s.1.vms.lookup name with
  | none =>
      have hnone : (DaemonState.advanced env s).lookup name = none := by
        rcases lookup_advanced env s name with heq | ⟨w, heq⟩
        · exact heq.trans hvm
        · rw [heq, hvm]
          rfl
      simp [hnone, IsDue, hvm]
  | some vm =>
      obtain ⟨pre, post, hnames⟩ := List.append_of_mem (hs.configured name vm hvm).1
      obtain ⟨-, hadvanced⟩ := @lookup_run_visited _ env _ _ _ _ hnames
      rw [← takeWhile_visited hnames] at hadvanced
      generalize hw : (run (DaemonState.tickVm env) s (s.1.visited.takeWhile (· ≠ name))).2 = w
        at hadvanced
      have hlook : (DaemonState.advanced env s).lookup name = some (vm.advance env w).1 := by
        rw [DaemonState.advanced, hadvanced, hvm]
        rfl
      have hcursor : (vm.advance env w).1.lastSentEventIndex = vm.sm.rt.events.length :=
        (advance_appends env vm w).2.trans (hs.sent name vm hvm)
      have hbatch : ((vm.advance env w).1.newEvents name).isSome ↔
          vm.sm.rt.events.length < (vm.advance env w).1.sm.rt.events.length := by
        rw [DaemonVm.newEvents, hcursor]
        split_ifs with hle
        · simpa using hle
        · simpa using hle
      rw [hlook, Option.bind_some, hbatch, pushes_advance_iff, IsDue]
      simp only [hw, hvm, Option.some.injEq, exists_eq_left']

/-- Batches that are made of the entries of a map have different names. -/
lemma nodup_batches {β : String → Type} {entries : List (Sigma β)}
    {f : Sigma β → Option IpcVmEvents} (hf : ∀ entry batch, f entry = some batch →
      batch.vmName = entry.1) (hnodup : entries.NodupKeys) :
    ((entries.filterMap f).map IpcVmEvents.vmName).Nodup := by
  have hsub : ((entries.filterMap f).map IpcVmEvents.vmName).Sublist (entries.map Sigma.fst) := by
    clear hnodup
    induction entries with
    | nil => exact List.Sublist.slnil
    | cons entry entries ih =>
        cases hentry : f entry with
        | none =>
            rw [List.filterMap_cons_none hentry]
            exact ih.cons _
        | some batch =>
            rw [List.filterMap_cons_some hentry, List.map_cons, hf entry batch hentry]
            exact ih.cons_cons _
  exact List.Nodup.sublist hsub hnodup

lemma events_of_newEvents {name : String} {vm : DaemonVm} {batch : IpcVmEvents}
    (h : vm.newEvents name = some batch) : batch.events ≠ [] := by
  rw [DaemonVm.newEvents] at h
  split_ifs at h with hle
  rw [← Option.some.inj h]
  simpa using hle

/-- The VMs that have a batch from their runtime are those for which something is due. -/
lemma mem_runtime_iff (hs : Sending startup s.1) (name : String) :
    name ∈ ((DaemonState.advanced env s).entries.filterMap fun entry =>
        entry.2.newEvents entry.1).map IpcVmEvents.vmName ↔ IsDue env s name := by
  rw [← newEvents_advanced_iff hs]
  constructor
  · intro hname
    obtain ⟨batch, hbatch, rfl⟩ := List.mem_map.mp hname
    obtain ⟨⟨key, vm⟩, hentry, hnew⟩ := List.mem_filterMap.mp hbatch
    have hlook : (DaemonState.advanced env s).lookup key = some vm :=
      AList.mem_lookup_iff.mpr hentry
    rw [vmName_of_newEvents hnew, hlook, Option.bind_some, hnew]
    rfl
  · intro hdue
    obtain ⟨batch, hbatch⟩ := Option.isSome_iff_exists.mp hdue
    obtain ⟨vm, hlook, hnew⟩ := Option.bind_eq_some_iff.mp hbatch
    refine List.mem_map.mpr ⟨batch, ?_, vmName_of_newEvents hnew⟩
    exact List.mem_filterMap.mpr ⟨⟨name, vm⟩, AList.mem_lookup_iff.mp hlook, hnew⟩

/-- **One snapshot**, from a state that a run leads to. -/
lemma single_buildSnapshot_iff (hs : Sending startup s.1)
    (hnames : (startup.map IpcVmEvents.vmName).Nodup) (tick : UInt64) (env : TickEnv W) :
    (DaemonState.buildSnapshot env tick s).1.Single ↔
      (tick = 1 → ∀ batch ∈ startup, ¬ IsDue env s batch.vmName) := by
  have hruntime : (((DaemonState.advanced env s).entries.filterMap fun entry =>
      entry.2.newEvents entry.1).map IpcVmEvents.vmName).Nodup :=
    nodup_batches (fun _ _ h => vmName_of_newEvents h) (DaemonState.advanced env s).nodupKeys
  rw [Snapshot.Single, eventsVm_buildSnapshot, hs.startup, List.map_append]
  by_cases htick : tick = 1
  · rw [if_pos htick, List.nodup_append]
    constructor
    · rintro ⟨-, -, hdisjoint⟩ - batch hbatch hdue
      exact hdisjoint _ (List.mem_map_of_mem hbatch) _ ((mem_runtime_iff hs _).mpr hdue) rfl
    · intro h
      refine ⟨hnames, hruntime, ?_⟩
      rintro _ hstartup name hname rfl
      obtain ⟨batch, hbatch, heq⟩ := List.mem_map.mp hstartup
      exact h htick batch hbatch ((mem_runtime_iff hs _).mp (heq ▸ hname))
  · rw [if_neg htick]
    exact iff_of_true hruntime fun h => absurd h htick

/-- No batch of a snapshot is empty. -/
lemma events_of_buildSnapshot (hs : Sending startup s.1)
    (hne : ∀ batch ∈ startup, batch.events ≠ []) (tick : UInt64) (env : TickEnv W) :
    ∀ batch ∈ (DaemonState.buildSnapshot env tick s).1.eventsVm, batch.events ≠ [] := by
  intro batch hbatch
  rw [eventsVm_buildSnapshot, hs.startup, List.mem_append] at hbatch
  rcases hbatch with hbatch | hbatch
  · split_ifs at hbatch
    · exact hne batch hbatch
    · exact absurd hbatch List.not_mem_nil
  · obtain ⟨entry, -, hnew⟩ := List.mem_filterMap.mp hbatch
    exact events_of_newEvents hnew

end

/-! ## Runs -/

section

variable (introspect : String → VmConfig → List IpcEvent) (rootCfg : Option RootConfig)

lemma startup_entry {entry : Sigma fun _ : String => VmConfig} {batch : IpcVmEvents}
    (h : (let events := introspect entry.1 entry.2
      if events.isEmpty then none else some { vmName := entry.1, events }) = some batch) :
    batch.vmName = entry.1 ∧ batch.events ≠ [] := by
  simp only at h
  split_ifs at h with hempty
  rw [← Option.some.inj h]
  exact ⟨rfl, by simpa using hempty⟩

/-- The startup introspection makes one batch for each VM, and no empty ones. -/
lemma startup_batches :
    ((startupEventsVm introspect rootCfg).map IpcVmEvents.vmName).Nodup ∧
      ∀ batch ∈ startupEventsVm introspect rootCfg, batch.events ≠ [] := by
  cases rootCfg with
  | none => exact ⟨List.nodup_nil, fun _ h => absurd h List.not_mem_nil⟩
  | some cfg =>
      refine ⟨nodup_batches (fun entry batch h => (startup_entry introspect h).1) cfg.vm.nodupKeys,
        fun batch hbatch => ?_⟩
      obtain ⟨entry, -, hsome⟩ := List.mem_filterMap.mp hbatch
      exact (startup_entry introspect hsome).2

lemma sending_run (global : List IpcEvent) (w : W) (ops : List (DaemonOp W)) :
    Sending (startupEventsVm introspect rootCfg) (run DaemonState.apply
      (DaemonState.new rootCfg global (startupEventsVm introspect rootCfg), w) ops).1 := by
  refine run_invariant (I := fun t : DaemonState × W =>
    Sending (startupEventsVm introspect rootCfg) t.1) (fun _ op ht => ht.apply op) ?_ ops
  refine ⟨rfl, ?_, everyVm_new _ _ _⟩
  intro name vm hvm
  cases hvm

end

/-- **One batch for each VM.**  In every run of the daemon, a snapshot has at most one batch for
each VM, and `events_for_vm` gives everything that it carries for a VM, exactly when it is not that
of tick 1, or nothing is due in the tick for the VMs that have startup events: none of them was
started before the first tick. -/
theorem single_iff (rootCfg : Option RootConfig) (global : List IpcEvent)
    (introspect : String → VmConfig → List IpcEvent) (w : W) (ops : List (DaemonOp W))
    (tick : UInt64) (env : TickEnv W) :
    let startup := startupEventsVm introspect rootCfg
    let s := run DaemonState.apply (DaemonState.new rootCfg global startup, w) ops
    let snapshot := (DaemonState.buildSnapshot env tick s).1
    (snapshot.Single ↔ (tick = 1 → ∀ batch ∈ startup, ¬ IsDue env s batch.vmName)) ∧
      (snapshot.Complete ↔ (tick = 1 → ∀ batch ∈ startup, ¬ IsDue env s batch.vmName)) := by
  intro startup s snapshot
  have hs : Sending startup s.1 := sending_run introspect rootCfg global w ops
  obtain ⟨hnames, hne⟩ := startup_batches introspect rootCfg
  have hsingle : snapshot.Single ↔ _ := single_buildSnapshot_iff hs hnames tick env
  refine ⟨hsingle, ?_⟩
  rw [← hsingle]
  exact complete_iff (events_of_buildSnapshot hs hne tick env)

/-- Before the first tick every VM is in Init. -/
lemma init_of_commands (rootCfg : Option RootConfig) (global : List IpcEvent)
    (perVm : List IpcVmEvents) (w : W) (lines : List String) :
    EveryVm (fun vm => vm.sm.state = .Init) (run DaemonState.apply
      (DaemonState.new rootCfg global perVm, w) (lines.map .Command)).1 := by
  rw [run, List.foldl_map]
  refine run_invariant (I := fun t : DaemonState × W =>
    EveryVm (fun vm => vm.sm.state = .Init) t.1) (fun t line ht => ?_) (everyVm_new _ _ _) lines
  exact everyVm_command (fun _ _ _ hnew => state_of_new hnew) (fun _ hvm => hvm) ht
    fun _ _ _ _ _ hvm => hvm

/-- **The first tick** has two batches for the VMs with startup events that were started before
it. -/
theorem single_first_iff (rootCfg : Option RootConfig) (global : List IpcEvent)
    (introspect : String → VmConfig → List IpcEvent) (w : W) (lines : List String)
    (env : TickEnv W) :
    let startup := startupEventsVm introspect rootCfg
    let s := run DaemonState.apply (DaemonState.new rootCfg global startup, w)
      (lines.map .Command)
    (DaemonState.buildSnapshot env 1 s).1.Single ↔
      ∀ batch ∈ startup, s.1.vms.lookup batch.vmName = none := by
  intro startup s
  have hinit : EveryVm (fun vm => vm.sm.state = .Init) s.1 :=
    init_of_commands rootCfg global startup w lines
  rw [single_buildSnapshot_iff (sending_run introspect rootCfg global w _)
    (startup_batches introspect rootCfg).1]
  simp only [true_imp_iff]
  refine forall_congr' fun batch => forall_congr' fun _ => ?_
  constructor
  · intro hidle
    cases hvm : s.1.vms.lookup batch.vmName with
    | none => rfl
    | some vm => exact absurd (isDue_of_init hvm (hinit _ vm hvm).2) hidle
  · rintro hnone ⟨vm, hvm, -⟩
    rw [hnone] at hvm
    cases hvm

/-- A VM that a client starts before the first tick: the lookup finds its startup events and not
those of its first step. -/
theorem startup_hides_first_step :
    let cfg : RootConfig := ⟨AList.singleton "a" (minimalVmConfig {} {})⟩
    let startup := startupEventsVm (fun name _ => [⟨.Info, s!"VM {name}: configured"⟩]) (some cfg)
    let s := run DaemonState.apply (DaemonState.new (some cfg) [] startup, ())
      [.Command "vm start a"]
    let snapshot := (DaemonState.buildSnapshot (idleEnv Unit) 1 s).1
    snapshot.eventsForVm "a" = [⟨.Info, "VM a: configured"⟩] ∧
      snapshot.carried "a" = [⟨.Info, "VM a: configured"⟩, ⟨.System, "state=Init"⟩] ∧
      ¬ snapshot.Single ∧ ¬ snapshot.Complete := by
  intro cfg startup s snapshot
  have hbatches : snapshot.eventsVm =
      [⟨"a", [⟨.Info, "VM a: configured"⟩]⟩, ⟨"a", [⟨.System, "state=Init"⟩]⟩] := by
    decide +kernel
  have hfound : snapshot.eventsForVm "a" = [⟨.Info, "VM a: configured"⟩] := by
    rw [Snapshot.eventsForVm, hbatches]
    rfl
  have hcarried : snapshot.carried "a" =
      [⟨.Info, "VM a: configured"⟩, ⟨.System, "state=Init"⟩] := by
    rw [Snapshot.carried, hbatches]
    decide
  refine ⟨hfound, hcarried, ?_, fun h => ?_⟩
  · rw [Snapshot.Single, hbatches]
    decide
  · have heq := h "a"
    rw [hfound, hcarried] at heq
    exact absurd heq (by decide)

end Chalybs
