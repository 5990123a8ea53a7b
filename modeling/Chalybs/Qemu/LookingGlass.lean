import Chalybs.Qemu.Ownership

/-!
# The shared memory of Looking Glass

`prepare_looking_glass_shm` and `cleanup_looking_glass_shm` (`qemu.rs`).  `launch` makes the file
before it spawns QEMU; only `shutdown` removes it, at the end of its one path that has found a
recorded process and has seen it exit.

* `ShmCalls.prepareLookingGlassShm`, `ShmCalls.cleanupLookingGlassShm` — the functions, with a log
  of what they did to the file.
* `ShmOp`, `applyShm` — the life of a VM from its first step on.
* `FindsProcess` — a shutdown that finds the process recorded.
* `removal_attempted_iff` — when the removal of the file is attempted before the VM is in Idle.
-/

namespace Chalybs

open Foundation

variable {V : Type}

/-! ## The file -/

/-- What happens to the file. -/
inductive ShmEvent
  | Created
  | RemovalAttempted
  deriving DecidableEq, Repr

/-- The operations on files that prepare and remove the shared memory. -/
structure ShmCalls (V : Type) where
  /-- The parent directory of a path, if it has one and that does not exist. -/
  missingParent : String → V → Option String
  createDirAll : String → EStateM String V Unit
  /-- `OpenOptions::open`, with `create` and `truncate`. -/
  openFile : String → EStateM String V Unit
  setLen : String → UInt64 → EStateM String V Unit
  /-- The part that gives the file to the desktop user; it never fails. -/
  setOwner : String → V → V
  /-- `remove_file`, whose outcome is only logged. -/
  removeFile : String → V → V

/-- The shared memory that is configured, unless its size is zero. -/
def VmConfig.lookingGlassShm (cfg : VmConfig) : Option LookingGlassConfig :=
  (cfg.peripherals.bind PeripheralConfig.lookingGlass).filter fun lg => decide (lg.memMb ≠ 0)

/-- A computation on the host, with the log of the file. -/
abbrev ShmM (V : Type) := EStateM ChalybsError (V × List ShmEvent)

/-- A computation on the host, apart from the log. -/
def onHost {ε α : Type} : EStateM ε V α → EStateM ε (V × List ShmEvent) α :=
  zoom Prod.fst fun v t => (v, t.2)

/-- The event is added to the log. -/
def note (event : ShmEvent) (t : V × List ShmEvent) : V × List ShmEvent := (t.1, t.2 ++ [event])

namespace ShmCalls

variable (os : ShmCalls V)

/-- The creation of the parent directory. -/
def createMissingParent (path : String) : ShmM V Unit := do
  let t ← get
  match os.missingParent path t.1 with
  | none => pure ()
  | some parent => onHost (EStateM.adaptExcept (fun e => ChalybsError.Qemu
      s!"looking-glass: failed to create parent directory {parent}: {e}") (os.createDirAll parent))

/-- `prepare_looking_glass_shm`. -/
def prepareLookingGlassShm (cfg : VmConfig) : ShmM V Unit :=
  match cfg.lookingGlassShm with
  | none => pure ()
  | some lg => do
      os.createMissingParent lg.shmName
      onHost (EStateM.adaptExcept (fun e => ChalybsError.Qemu
        s!"looking-glass: failed to create shm file {lg.shmName}: {e}") (os.openFile lg.shmName))
      modify (note .Created)
      let memBytes := lg.memMb * 1024 * 1024
      onHost (EStateM.adaptExcept (fun e => ChalybsError.Qemu
        s!"looking-glass: failed to size shm file {lg.shmName} to {memBytes} bytes: {e}")
        (os.setLen lg.shmName memBytes))
      modify fun t => (os.setOwner lg.shmName t.1, t.2)

/-- `cleanup_looking_glass_shm`. -/
def cleanupLookingGlassShm (cfg : VmConfig) (t : V × List ShmEvent) : V × List ShmEvent :=
  match cfg.lookingGlassShm with
  | none => t
  | some lg => note .RemovalAttempted (os.removeFile lg.shmName t.1, t.2)

end ShmCalls

/-- The system on which the shared memory is prepared and removed by `shm`. -/
def SystemCalls.withShm (os : SystemCalls V) (shm : ShmCalls V) :
    SystemCalls (V × List ShmEvent) where
  createRunDir := onHost os.createRunDir
  prepareLookingGlassShm := shm.prepareLookingGlassShm
  buildCommand name cfg t := os.buildCommand name cfg t.1
  spawn cmd t := os.spawn cmd t.1
  fileExists path t := os.fileExists path t.1
  writeFile path text := onHost (os.writeFile path text)
  kill pid t := os.kill pid t.1
  wait pid t := os.wait pid t.1
  cleanupLookingGlassShm := shm.cleanupLookingGlassShm

/-- The host with the log beside it, which its calls leave alone. -/
def Host.besideShm (h : Host V) : Host (V × List ShmEvent) where
  call c rt := zoom (fun t => (t.1, t.2.1)) (fun u t => (u.1, u.2, t.2.2)) (h.call c rt)
  detectCpuIdentity t := h.detectCpuIdentity t.1
  numaTopology t := h.numaTopology t.1

/-! ## The life of a VM -/

/-- What can happen to a VM until it is started anew. -/
inductive ShmOp (V : Type)
  | Perform (op : Op) (h : Host V) (os : SystemCalls V) (shm : ShmCalls V)
  | GuestExit (pid : ℕ)
  | Poll (failure : Option String)

/-- The event, on the host with the log. -/
def ShmOp.toQemuOp : ShmOp V → QemuOp (V × List ShmEvent)
  | .Perform op h os shm => .Perform op h.besideShm (os.withShm shm)
  | .GuestExit pid => .GuestExit pid
  | .Poll failure => .Poll failure

/-- A VM, the processes, the host and the log. -/
abbrev ShmState (V : Type) := DaemonVm × QemuWorld (V × List ShmEvent)

/-- The state that an event leads to. -/
def applyShm (s : ShmState V) (event : ShmOp V) : ShmState V := applyQemu s event.toQemuOp

/-- The log of the file. -/
def ShmState.log (s : ShmState V) : List ShmEvent := s.2.rest.2

/-- If the file was created, its removal has been attempted. -/
def RemovalDone (s : ShmState V) : Prop :=
  .Created ∈ s.log → .RemovalAttempted ∈ s.log

/-- A shutdown that leaves bring-up or Steady after the file was created finds the process
recorded. -/
def FindsProcess (s : ShmState V) : ShmOp V → Prop
  | .Perform .StepShutdown _ _ _ => ¬ s.1.sm.state.OnShutdownPath → .Created ∈ s.log →
      s.1.sm.rt.qemu ≠ none
  | .Perform .Step _ _ _ => True
  | .GuestExit _ => True
  | .Poll _ => True

/-! ## What the functions do to the log -/

section

variable {P : List ShmEvent → Prop} {os : SystemCalls V} {shm : ShmCalls V} {h : Host V}
  {rt : VmRuntime}

lemma preserves_onHost {ε α : Type} {x : EStateM ε V α} :
    Preserves (fun t : V × List ShmEvent => P t.2) (onHost x) :=
  Preserves.zoom (fun t ht s _ => by
    rw [Ends]
    cases x s with
    | ok a v => exact ht
    | error e v => exact ht) fun _ => rfl

lemma preserves_onRest {α : Type} {x : ShmM V α}
    (hx : Preserves (fun t : V × List ShmEvent => P t.2) x) :
    Preserves (fun t : Option QemuState × QemuWorld (V × List ShmEvent) => P t.2.rest.2)
      (onRest x) :=
  Preserves.zoom (fun _ _ => hx) fun _ => rfl

/-- Preparing the shared memory only creates the file, and only if it is configured. -/
lemma preserves_prepare {cfg : VmConfig}
    (hcreate : cfg.lookingGlassShm ≠ none → ∀ log, P log → P (log ++ [.Created])) :
    Preserves (fun t : V × List ShmEvent => P t.2) (shm.prepareLookingGlassShm cfg) := by
  rw [ShmCalls.prepareLookingGlassShm]
  cases hcfg : cfg.lookingGlassShm with
  | none => exact fun _ ht => ht
  | some lg =>
      refine Preserves.bind (Preserves.get.bind fun t => ?_) fun _ => ?_
      · cases shm.missingParent lg.shmName t.1 with
        | none => exact fun _ ht => ht
        | some parent => exact preserves_onHost
      refine preserves_onHost.bind fun _ => ?_
      refine Preserves.bind (Preserves.modify fun t ht => ?_) fun _ => ?_
      · exact hcreate (by rw [hcfg]; simp) _ ht
      refine preserves_onHost.bind fun _ => ?_
      exact Preserves.modify fun t ht => ht

/-- Launching QEMU only creates the file. -/
lemma preserves_launch
    (hcreate : rt.cfg.lookingGlassShm ≠ none → ∀ log, P log → P (log ++ [.Created])) :
    Preserves (fun t : Option QemuState × QemuWorld (V × List ShmEvent) => P t.2.rest.2)
      ((os.withShm shm).launch rt) := by
  have hprepare : Preserves
      (fun t : Option QemuState × QemuWorld (V × List ShmEvent) => P t.2.rest.2)
      ((os.withShm shm).prepareLaunch rt) := by
    refine (preserves_onRest preserves_onHost.adaptExcept).bind fun _ => ?_
    refine (preserves_onRest (preserves_prepare hcreate)).bind fun _ => ?_
    exact Preserves.get.bind fun _ => Preserves.fromExcept
  refine hprepare.bind fun cmd => ?_
  refine Preserves.bind (fun t ht => ?_) fun pid => ?_
  · rw [Ends, SystemCalls.spawnQemu]
    cases (os.withShm shm).spawn cmd t.2.rest with
    | ok pid => exact ht
    | error e => exact ht
  refine Preserves.bind ?_ fun _ => Preserves.modify fun t ht => ht
  rw [SystemCalls.moveToCpuset]
  cases rt.cgroups with
  | none => exact fun _ ht => ht
  | some cg =>
      refine Preserves.get.bind fun t => ?_
      split_ifs
      · exact preserves_onRest preserves_onHost.adaptExcept
      · exact fun _ ht => ht

lemma cleanup_log (cfg : VmConfig) (t : V × List ShmEvent) :
    (shm.cleanupLookingGlassShm cfg t).2 =
      if cfg.lookingGlassShm = none then t.2 else t.2 ++ [.RemovalAttempted] := by
  rw [ShmCalls.cleanupLookingGlassShm]
  cases cfg.lookingGlassShm with
  | none => rfl
  | some lg => rfl

/-- **A shutdown attempts the removal** if it finds the process recorded and sees it exit. -/
lemma shutdown_log (t : Option QemuState × QemuWorld (V × List ShmEvent)) :
    Ends ((os.withShm shm).shutdown rt) t
      (fun _ t' => t.1 = none ∧ t'.2.rest.2 = t.2.rest.2 ∨
        t.1 ≠ none ∧ t'.2.rest.2 = if rt.cfg.lookingGlassShm = none then t.2.rest.2
          else t.2.rest.2 ++ [.RemovalAttempted])
      (fun _ t' => t.1 ≠ none ∧ t'.2.rest.2 = t.2.rest.2) := by
  obtain ⟨handle, w⟩ := t
  cases handle with
  | none => exact .inl ⟨rfl, rfl⟩
  | some q =>
      simp only [Ends, SystemCalls.shutdown]
      cases (os.withShm shm).kill q.pid w.rest with
      | error e => exact ⟨by simp, rfl⟩
      | ok _ =>
          cases (os.withShm shm).wait q.pid w.rest with
          | error e => exact ⟨by simp, rfl⟩
          | ok _ => exact .inr ⟨by simp, cleanup_log rt.cfg w.rest⟩

/-! ## What the operations do to the log -/

/-- A property of the configuration and the log. -/
def OnShm (cfg : VmConfig) (P : List ShmEvent → Prop) (rt : VmRuntime)
    (w : QemuWorld (V × List ShmEvent)) : Prop := rt.cfg = cfg ∧ P w.rest.2

variable {cfg : VmConfig} {s : VmStateMachine × QemuWorld (V × List ShmEvent)}

lemma framed_shm : Framed (OnShm (V := V) cfg P) :=
  ⟨⟨fun _ _ _ _ h => h, fun _ _ h => h, fun _ _ _ h => h⟩, fun _ _ h => h⟩

lemma preserves_invoke_other {c : Callee} (hlaunch : c ≠ .LaunchQemu)
    (hshutdown : c ≠ .ShutdownQemu) :
    Preserves (OnRuntime (OnShm cfg P)) ((h.besideShm.withQemu (os.withShm shm)).invoke c) := by
  rintro t ⟨hcfg, hlog⟩
  have hcall : (h.besideShm.withQemu (os.withShm shm)).call c t.1.rt =
      zoom (fun t => (t.1, t.2.rest)) (fun u t => (u.1, { t.2 with rest := u.2 }))
        (h.besideShm.call c t.1.rt) := by
    cases c <;> first | rfl | contradiction
  have hhost : h.besideShm.call c t.1.rt =
      zoom (fun t => (t.1, t.2.1)) (fun u t => (u.1, u.2, t.2.2)) (h.call c t.1.rt) := rfl
  rw [ends_invoke, hcall, hhost, ends_zoom, ends_zoom, Ends]
  cases h.call c t.1.rt (c.owned t.1.rt, t.2.rest.1) with
  | ok a u => exact ⟨(cfg_store c _ _).trans hcfg, hlog⟩
  | error e u => exact ⟨(cfg_store c _ _).trans hcfg, hlog⟩

lemma preserves_invoke_launch
    (hcreate : cfg.lookingGlassShm ≠ none → ∀ log, P log → P (log ++ [.Created])) :
    Preserves (OnRuntime (OnShm cfg P))
      ((h.besideShm.withQemu (os.withShm shm)).invoke .LaunchQemu) := by
  rintro t ⟨hcfg, hlog⟩
  rw [ends_invoke]
  refine (preserves_launch (P := P) (by rw [hcfg]; exact hcreate) _ hlog).mono ?_ ?_
  · exact fun _ u hu => ⟨hcfg, hu⟩
  · exact fun _ u hu => ⟨hcfg, hu⟩

/-- An operation that does not shut QEMU down keeps what creating the file keeps. -/
lemma onShm_advance {op : Op}
    (hcreate : .LaunchQemu ∈ op.work s.1.state → cfg.lookingGlassShm ≠ none →
      ∀ log, P log → P (log ++ [.Created]))
    (hshutdown : .ShutdownQemu ∉ op.work s.1.state) (hs : OnShm cfg P s.1.rt s.2) :
    OnShm cfg P (advance s (op, h.besideShm.withQemu (os.withShm shm))).1.rt
      (advance s (op, h.besideShm.withQemu (os.withShm shm))).2 := by
  refine framed_shm.perform (s := s) (fun c hc => ?_) hs
  by_cases hlaunch : c = .LaunchQemu
  · subst hlaunch
    exact preserves_invoke_launch (hcreate hc)
  · exact preserves_invoke_other hlaunch fun heq => hshutdown (heq ▸ hc)

end

/-! ## What an event does -/

/-- The invariant: the file is created only where it is configured, its removal is not attempted
before the shutdown, and after that it has been if the file was created. -/
structure ShmInv (cfg : VmConfig) (s : ShmState V) : Prop where
  sameCfg : s.1.sm.rt.cfg = cfg
  configured : .Created ∈ s.log → cfg.lookingGlassShm ≠ none
  before : ¬ s.1.sm.state.OnShutdownPath → .RemovalAttempted ∉ s.log
  after : s.1.sm.state.OnShutdownPath → RemovalDone s

section

variable {cfg : VmConfig} {s s' : ShmState V}

lemma cfg_applyShm (s : ShmState V) (event : ShmOp V) :
    (applyShm s event).1.sm.rt.cfg = s.1.sm.rt.cfg := by
  cases event with
  | Perform op h os shm =>
      exact cfg_advance (h.besideShm.withQemu (os.withShm shm)) op (s.1.sm, s.2)
  | GuestExit pid => rfl
  | Poll failure =>
      show (s.1.pollQemu (s.2.tryWait failure)).sm.rt.cfg = s.1.sm.rt.cfg
      obtain ⟨qemu, desired, hpoll⟩ := exists_pollQemu (s.2.tryWait failure) s.1
      rw [hpoll]

/-- Events that leave the log alone and do not take the VM down. -/
lemma ShmInv.quiet (hs : ShmInv cfg s) {event : ShmOp V} (hlog : (applyShm s event).log = s.log)
    (hpath : (applyShm s event).1.sm.state.OnShutdownPath ↔ s.1.sm.state.OnShutdownPath) :
    ShmInv cfg (applyShm s event) where
  sameCfg := (cfg_applyShm s event).trans hs.sameCfg
  configured := by rw [hlog]; exact hs.configured
  before := by rw [hlog, hpath]; exact hs.before
  after := by rw [RemovalDone, hlog, hpath]; exact hs.after

lemma onShutdownPath_advance {W : Type} (t : VmStateMachine × W) (o : Op × Host W)
    (h : t.1.state.OnShutdownPath) : (advance t o).1.state.OnShutdownPath :=
  le_trans h (observe_lawful t o).rank_le

/-- A step never takes a VM down. -/
lemma not_onShutdownPath_step {W : Type} (t : VmStateMachine × W) (h : Host W)
    (hpath : ¬ t.1.state.OnShutdownPath) : ¬ (advance t (.Step, h)).1.state.OnShutdownPath := by
  intro hafter
  rcases (observe_lawful t (.Step, h)).moves with hstay | hnext
  · have hstay' : (advance t (.Step, h)).1.state = t.1.state := hstay
    exact hpath (hstay' ▸ hafter)
  · cases onShutdownPath_of_next hnext hafter hpath

/-- **On the shutdown path** nothing is done to the file, and a VM stays on it. -/
lemma log_of_onShutdownPath (hpath : s.1.sm.state.OnShutdownPath) (event : ShmOp V) :
    (applyShm s event).log = s.log ∧ (applyShm s event).1.sm.state.OnShutdownPath := by
  cases event with
  | Perform op h os shm =>
      have hlaunch : .LaunchQemu ∉ op.work s.1.sm.state := by
        revert hpath
        cases op <;> cases s.1.sm.state <;> decide
      obtain ⟨-, hlog⟩ : OnShm s.1.sm.rt.cfg (· = s.log)
          (applyShm s (.Perform op h os shm)).1.sm.rt (applyShm s (.Perform op h os shm)).2 :=
        onShm_advance (s := (s.1.sm, s.2)) (fun hwork => absurd hwork hlaunch)
          (work_of_onShutdownPath hpath) ⟨rfl, rfl⟩
      exact ⟨hlog, onShutdownPath_advance (s.1.sm, s.2)
        (op, h.besideShm.withQemu (os.withShm shm)) hpath⟩
  | GuestExit pid => exact ⟨rfl, hpath⟩
  | Poll failure =>
      refine ⟨rfl, ?_⟩
      show (s.1.pollQemu (s.2.tryWait failure)).sm.state.OnShutdownPath
      rwa [state_pollQemu]

lemma ShmInv.step (hs : ShmInv cfg s) (hpath : ¬ s.1.sm.state.OnShutdownPath) (h : Host V)
    (os : SystemCalls V) (shm : ShmCalls V) :
    ShmInv cfg (applyShm s (.Perform .Step h os shm)) := by
  obtain ⟨hcfg, hremoved, hcreated⟩ : OnShm cfg
      (fun log => .RemovalAttempted ∉ log ∧ (.Created ∈ log → cfg.lookingGlassShm ≠ none))
      (applyShm s (.Perform .Step h os shm)).1.sm.rt (applyShm s (.Perform .Step h os shm)).2 := by
    refine onShm_advance (s := (s.1.sm, s.2)) (fun _ hconf log hlog => ?_) ?_
      ⟨hs.sameCfg, hs.before hpath, hs.configured⟩
    · exact ⟨by simpa using hlog.1, fun _ => hconf⟩
    · show .ShutdownQemu ∉ Op.work .Step s.1.sm.state
      cases s.1.sm.state <;> decide
  have hdown := not_onShutdownPath_step (s.1.sm, s.2) (h.besideShm.withQemu (os.withShm shm)) hpath
  exact ⟨hcfg, hcreated, fun _ => hremoved, fun hafter => absurd hafter hdown⟩

/-- A shutdown that leaves bring-up or Steady keeps the invariant unless the file was created and
no process is recorded. -/
lemma ShmInv.shutdown (hs : ShmInv cfg s) (hpath : ¬ s.1.sm.state.OnShutdownPath) (h : Host V)
    (os : SystemCalls V) (shm : ShmCalls V) :
    let t := applyShm s (.Perform .StepShutdown h os shm)
    let finds := .Created ∈ s.log → s.1.sm.rt.qemu ≠ none
    (finds → ShmInv cfg t) ∧ (¬ finds → t.1.sm.state.OnShutdownPath ∧ ¬ RemovalDone t) := by
  intro t finds
  have hcfg : t.1.sm.rt.cfg = s.1.sm.rt.cfg := cfg_applyShm s (.Perform .StepShutdown h os shm)
  obtain ⟨-, hworld, hstate⟩ : t.1.sm.rt.qemu =
        (outcome ((os.withShm shm).shutdown s.1.sm.rt) (s.1.sm.rt.qemu, s.2)).2.1 ∧
      t.2 = (outcome ((os.withShm shm).shutdown s.1.sm.rt) (s.1.sm.rt.qemu, s.2)).2.2 ∧
      t.1.sm.state = if (outcome ((os.withShm shm).shutdown s.1.sm.rt) (s.1.sm.rt.qemu, s.2)).1
        then .Shutdown else s.1.sm.state := advance_shutdown hpath
  have hlog := (@shutdown_log V os shm s.1.sm.rt (s.1.sm.rt.qemu, s.2)).outcome
  generalize outcome ((os.withShm shm).shutdown s.1.sm.rt) (s.1.sm.rt.qemu, s.2) = r
    at hworld hstate hlog
  obtain ⟨ok, q, w⟩ := r
  have hremoved := hs.before hpath
  have hlogs : t.log = w.rest.2 := by rw [ShmState.log, hworld]
  cases ok with
  | true =>
      have hdown : t.1.sm.state.OnShutdownPath := by
        rw [show t.1.sm.state = .Shutdown from hstate]
        decide
      obtain ⟨hnone, hsame⟩ | ⟨hsome, hcleaned⟩ := hlog
      · have hsame' : t.log = s.log := hlogs.trans hsame
        have hdone : RemovalDone t ↔ .Created ∉ s.log := by
          rw [RemovalDone, hsame']
          exact ⟨fun h hmem => hremoved (h hmem), fun h hmem => absurd hmem h⟩
        refine ⟨fun hfinds => ⟨hcfg.trans hs.sameCfg, ?_, fun h => absurd hdown h, fun _ => ?_⟩,
          fun hfinds => ⟨hdown, fun h => ?_⟩⟩
        · rw [hsame']
          exact hs.configured
        · exact hdone.mpr fun hmem => hfinds hmem hnone
        · exact hfinds fun hmem => absurd hmem (hdone.mp h)
      · have hcleaned' : t.log = if cfg.lookingGlassShm = none then s.log
            else s.log ++ [.RemovalAttempted] := by
          rw [hlogs, ← hs.sameCfg]
          exact hcleaned
        have hcreated : .Created ∈ t.log → .Created ∈ s.log := by
          intro hmem
          rw [hcleaned'] at hmem
          split_ifs at hmem
          · exact hmem
          · exact (List.mem_append.mp hmem).resolve_right (by simp)
        refine ⟨fun _ => ⟨hcfg.trans hs.sameCfg, fun hmem => hs.configured (hcreated hmem),
          fun h => absurd hdown h, fun _ hmem => ?_⟩, fun hfinds => absurd (fun _ => hsome) hfinds⟩
        rw [hcleaned', if_neg (hs.configured (hcreated hmem))]
        simp
  | false =>
      obtain ⟨hsome, hsame⟩ := hlog
      have hsame' : t.log = s.log := hlogs.trans hsame
      refine ⟨fun _ => hs.quiet hsame' ?_, fun hfinds => absurd (fun _ => hsome) hfinds⟩
      rw [show t.1.sm.state = s.1.sm.state from hstate]

/-- **What an event does**: it keeps the invariant if a shutdown finds the process, and otherwise it
takes the VM down without an attempt to remove the file. -/
lemma ShmInv.applyShm (hs : ShmInv cfg s) (event : ShmOp V) :
    (FindsProcess s event → ShmInv cfg (applyShm s event)) ∧
      (¬ FindsProcess s event → (Chalybs.applyShm s event).1.sm.state.OnShutdownPath ∧
        ¬ RemovalDone (Chalybs.applyShm s event)) := by
  cases event with
  | Perform op h os shm =>
      by_cases hpath : s.1.sm.state.OnShutdownPath
      · obtain ⟨hlog, hpath'⟩ := log_of_onShutdownPath hpath (.Perform op h os shm)
        refine ⟨fun _ => hs.quiet hlog (iff_of_true hpath' hpath), fun hfinds => ?_⟩
        cases op with
        | Step => exact absurd trivial hfinds
        | StepShutdown => exact absurd (fun hnot => absurd hpath hnot) hfinds
      · cases op with
        | Step => exact ⟨fun _ => hs.step hpath h os shm, fun hfinds => absurd trivial hfinds⟩
        | StepShutdown =>
            obtain ⟨hkeeps, hbreaks⟩ := hs.shutdown hpath h os shm
            exact ⟨fun hfinds => hkeeps (hfinds hpath),
              fun hfinds => hbreaks fun h => hfinds fun _ => h⟩
  | GuestExit pid => exact ⟨fun _ => hs.quiet rfl Iff.rfl, fun hfinds => absurd trivial hfinds⟩
  | Poll failure =>
      refine ⟨fun _ => hs.quiet rfl ?_, fun hfinds => absurd trivial hfinds⟩
      show (s.1.pollQemu (s.2.tryWait failure)).sm.state.OnShutdownPath ↔ _
      rw [state_pollQemu]

end

/-! ## Runs -/

/-- **When the removal of the file is attempted.**  In every run of a VM from its first step on: if
every shutdown that leaves bring-up or Steady after the file was created finds the process recorded,
then whenever the VM is in Idle the removal of a file that was created has been attempted; and a
run that ends in Idle has attempted it exactly then. -/
theorem removal_attempted_iff (name : String) (cfg : VmConfig) (cpus : VmCpuLayout) (rest : V)
    (events : List (ShmOp V)) :
    let s : ShmState V := (DaemonVm.fresh name cfg cpus, ⟨∅, rest, []⟩)
    (Along applyShm FindsProcess s events → ∀ pre, pre <+: events →
        (run applyShm s pre).1.sm.state = .Idle → RemovalDone (run applyShm s pre)) ∧
      ((run applyShm s events).1.sm.state = .Idle →
        (RemovalDone (run applyShm s events) ↔ Along applyShm FindsProcess s events)) := by
  intro s
  have hs : ShmInv cfg s := by
    refine ⟨rfl, fun h => absurd h List.not_mem_nil, fun _ => List.not_mem_nil, fun h => ?_⟩
    exact absurd h (show ¬ VmState.Init.OnShutdownPath by decide)
  have hexact : Along applyShm FindsProcess s events ↔ ∀ pre, pre <+: events →
      (run applyShm s pre).1.sm.state.OnShutdownPath → RemovalDone (run applyShm s pre) := by
    refine along_iff_forall_prefix (C := FindsProcess) (I := ShmInv cfg)
      (J := fun t => t.1.sm.state.OnShutdownPath → RemovalDone t) (fun t ht => ht.after)
      (fun t event ht => ⟨fun h => ((ht.applyShm event).1 h).after, fun h => ?_⟩)
      (fun t event ht => (ht.applyShm event).1) hs events
    by_contra hnot
    obtain ⟨hdown, hleft⟩ := (ht.applyShm event).2 hnot
    exact hleft (h hdown)
  have hidle : VmState.Idle.OnShutdownPath := by decide
  refine ⟨fun halong pre hpre hstate => ?_, fun hstate => ?_⟩
  · exact hexact.mp halong pre hpre (hstate ▸ hidle)
  refine ⟨fun hdone => hexact.mpr ?_,
    fun halong => hexact.mp halong events List.prefix_rfl (hstate ▸ hidle)⟩
  rintro pre ⟨post, rfl⟩ hpath
  -- once on the shutdown path, nothing more is done to the file
  have hfrozen : (run applyShm (run applyShm s pre) post).log = (run applyShm s pre).log ∧
      (run applyShm (run applyShm s pre) post).1.sm.state.OnShutdownPath := by
    refine run_invariant (I := fun t : ShmState V => t.log = (run applyShm s pre).log ∧
      t.1.sm.state.OnShutdownPath) (fun t event ht => ?_) ⟨rfl, hpath⟩ post
    obtain ⟨hlog, hdown⟩ := log_of_onShutdownPath ht.2 event
    exact ⟨hlog.trans ht.1, hdown⟩
  rw [RemovalDone, run_append, hfrozen.1] at hdone
  exact hdone

/-! ## A file left behind -/

/-- A configuration with a shared memory of 128 MiB. -/
def lookingGlassVm : VmConfig :=
  { minimalVmConfig {} {} with
    peripherals := some {
      lookingGlass := some { shmName := "/dev/shm/looking-glass", memMb := 128 } } }

/-- A system on which process 7 starts and everything succeeds. -/
def startingCalls : SystemCalls Unit where
  createRunDir := pure ()
  prepareLookingGlassShm _ := pure ()
  buildCommand name _ _ := .ok ⟨"qemu-system-x86_64", [], s!"/run/chalybs/{name}.qmp"⟩
  spawn _ _ := .ok 7
  fileExists _ _ := true
  writeFile _ _ := pure ()
  kill _ _ := .ok ()
  wait _ _ := .ok ()
  cleanupLookingGlassShm _ rest := rest

/-- Every operation on the file succeeds. -/
def plainShmCalls : ShmCalls Unit where
  missingParent _ _ := none
  createDirAll _ := pure ()
  openFile _ := pure ()
  setLen _ _ := pure ()
  setOwner _ rest := rest
  removeFile _ rest := rest

/-- The guest powers off in Steady, the daemon sees that the process is gone, and the VM is stopped:
it reaches Idle and nothing has tried to remove the file. -/
theorem guest_exit_leaves_shm :
    let s : ShmState Unit := (DaemonVm.fresh "a" lookingGlassVm ⟨⟨[0]⟩, ⟨[1]⟩⟩, ⟨∅, (), []⟩)
    let step : ShmOp Unit := .Perform .Step reservingHost startingCalls plainShmCalls
    let stepShutdown : ShmOp Unit :=
      .Perform .StepShutdown reservingHost startingCalls plainShmCalls
    let stopped := run applyShm s (List.replicate 11 step ++ [.GuestExit 7, .Poll none] ++
      List.replicate 3 stepShutdown)
    stopped.1.sm.state = .Idle ∧ ¬ RemovalDone stopped := by
  refine ⟨by decide, fun hdone => ?_⟩
  have hremoved := hdone (by decide)
  revert hremoved
  decide

end Chalybs
