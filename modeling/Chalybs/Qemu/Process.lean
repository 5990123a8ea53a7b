import Chalybs.Machine.State
import Mathlib.Data.Finset.Basic

/-!
# The QEMU process

`qemu::launch` and `qemu::shutdown` (`qemu.rs`), on a host that knows which of the processes
spawned for the VM have not exited.  What the operating system answers is a parameter, so each of
the calls they make may fail; the Looking Glass file and the command line are parameters as well.

* `SystemCalls.launch`, `SystemCalls.shutdown` — the functions.
* `Host.withQemu` — a host on which the state machine calls them.
* `SystemCalls.LeavesChild` — the process was spawned and cannot be moved into its cpuset.
* `launch_handle`, `shutdown_handle` — the recorded process and the processes that are alive,
  before and after.
-/

namespace Chalybs

open Foundation

/-- What `QemuCommandBuilder` builds. -/
structure QemuCommand where
  binary : String
  args : List String
  qmpPath : String
  deriving DecidableEq, Repr

/-- The spawned processes that have not exited, and the rest of the host. -/
structure QemuWorld (V : Type) where
  live : Finset ℕ
  rest : V

/-- What the operating system and the callees outside this file answer. -/
structure SystemCalls (V : Type) where
  /-- `create_dir_all("/run/chalybs")`. -/
  createRunDir : EStateM String V Unit
  prepareLookingGlassShm : VmConfig → EStateM ChalybsError V Unit
  /-- The phases of `QemuCommandBuilder`. -/
  buildCommand : String → VmConfig → V → Except ChalybsError QemuCommand
  /-- `Command::spawn`: the process id of the child. -/
  spawn : QemuCommand → V → Except String ℕ
  fileExists : String → V → Bool
  writeFile : String → String → EStateM String V Unit
  /-- `kill(pid, SIGTERM)`. -/
  kill : ℕ → V → Except String Unit
  /-- `Child::wait`, which returns once the process has exited. -/
  wait : ℕ → V → Except String Unit
  cleanupLookingGlassShm : VmConfig → V → V

/-- A computation on `rt.qemu` and the host. -/
abbrev QemuM (V : Type) := EStateM ChalybsError (Option QemuState × QemuWorld V)

section

variable {V : Type}

/-- A computation on the rest of the host. -/
def onRest {α : Type} : EStateM ChalybsError V α → QemuM V α :=
  zoom (fun t => t.2.rest) fun rest t => (t.1, { t.2 with rest })

namespace SystemCalls

variable (os : SystemCalls V)

/-! ## Launch -/

/-- The part of `launch` before the process is spawned. -/
def prepareLaunch (rt : VmRuntime) : QemuM V QemuCommand := do
  onRest (EStateM.adaptExcept
    (fun e => ChalybsError.Qemu s!"failed to create /run/chalybs: {e}") os.createRunDir)
  onRest (os.prepareLookingGlassShm rt.cfg)
  let t ← get
  fromExcept (os.buildCommand rt.name rt.cfg t.2.rest)

/-- `cmd.spawn()`. -/
def spawnQemu (cmd : QemuCommand) : QemuM V ℕ := fun t =>
  match os.spawn cmd t.2.rest with
  | .ok pid => .ok pid (t.1, { t.2 with live := insert pid t.2.live })
  | .error e => .error (.Qemu s!"failed to spawn QEMU: {e}") t

/-- The part of `launch` that moves the process into the cpuset of the VM. -/
def moveToCpuset (rt : VmRuntime) (pid : ℕ) : QemuM V Unit :=
  match rt.cgroups with
  | none => pure ()
  | some cg => do
      let path := s!"{cg.vm}/cgroup.procs"
      let t ← get
      if os.fileExists path t.2.rest then
        onRest (EStateM.adaptExcept
          (fun e => ChalybsError.Qemu s!"failed to write QEMU pid to {path}: {e}")
          (os.writeFile path s!"{pid}\n"))
      else pure ()

/-- The part of `launch` from the spawn on.  The process is recorded last. -/
def start (rt : VmRuntime) (cmd : QemuCommand) : QemuM V Unit := do
  let pid ← os.spawnQemu cmd
  os.moveToCpuset rt pid
  modify fun t => (some { pid }, t.2)

/-- `qemu::launch`. -/
def launch (rt : VmRuntime) : QemuM V Unit := do
  let cmd ← os.prepareLaunch rt
  os.start rt cmd

/-! ## Shutdown -/

/-- `qemu::shutdown`.  The handle is taken out of the runtime first. -/
def shutdown (rt : VmRuntime) : QemuM V Unit := fun t =>
  match t.1 with
  | none => .ok () (none, t.2)
  | some q =>
      match os.kill q.pid t.2.rest with
      | .error e => .error (.Qemu s!"failed to send SIGTERM to QEMU {q.pid}: {e}") (none, t.2)
      | .ok _ =>
          match os.wait q.pid t.2.rest with
          | .error e => .error (.Qemu s!"failed to wait for QEMU {q.pid} to exit: {e}") (none, t.2)
          | .ok _ => .ok ()
              (none, ⟨t.2.live.erase q.pid, os.cleanupLookingGlassShm rt.cfg t.2.rest⟩)

end SystemCalls

/-- The host on which `launch` and `shutdown` run over the system calls `os`.  The other callees
are those of `h`; they neither spawn nor wait for QEMU. -/
def Host.withQemu (h : Host V) (os : SystemCalls V) : Host (QemuWorld V) where
  call
    | .LaunchQemu, rt => os.launch rt
    | .ShutdownQemu, rt => os.shutdown rt
    | c, rt => zoom (fun t => (t.1, t.2.rest)) (fun u t => (u.1, { t.2 with rest := u.2 }))
        (h.call c rt)
  detectCpuIdentity w := h.detectCpuIdentity w.rest
  numaTopology w := h.numaTopology w.rest

/-! ## What they do to the process -/

namespace SystemCalls

variable {os : SystemCalls V} {rt : VmRuntime} {handle : Option QemuState} {w : QemuWorld V}

/-- The cpuset of the VM has a `cgroup.procs`, and the system does not let the process in. -/
def RefusesCpuset (os : SystemCalls V) (rt : VmRuntime) (pid : ℕ) (rest : V) : Prop :=
  ∃ cg, rt.cgroups = some cg ∧ os.fileExists s!"{cg.vm}/cgroup.procs" rest = true ∧
    ∃ e rest', os.writeFile s!"{cg.vm}/cgroup.procs" s!"{pid}\n" rest = .error e rest'

/-- The system starts the process that `launch` asks for, and refuses to move it. -/
def LeavesChild (os : SystemCalls V) (rt : VmRuntime) (t : Option QemuState × QemuWorld V) : Prop :=
  ∃ cmd t₁ pid, os.prepareLaunch rt t = .ok cmd t₁ ∧ os.spawn cmd t₁.2.rest = .ok pid ∧
    os.RefusesCpuset rt pid t₁.2.rest

/-- The processes that the recorded handle and the host show are those of `t`. -/
def SameProcesses (t t' : Option QemuState × QemuWorld V) : Prop :=
  t'.1 = t.1 ∧ t'.2.live = t.2.live

lemma onRest_same {α : Type} {x : EStateM ChalybsError V α} (t : Option QemuState × QemuWorld V) :
    Ends (onRest x) t (fun _ => SameProcesses t) (fun _ => SameProcesses t) := by
  rw [onRest, ends_zoom, Ends]
  cases x t.2.rest with
  | ok a v => exact ⟨rfl, rfl⟩
  | error e v => exact ⟨rfl, rfl⟩

lemma prepareLaunch_same (os : SystemCalls V) (rt : VmRuntime)
    (t : Option QemuState × QemuWorld V) :
    Ends (os.prepareLaunch rt) t (fun _ => SameProcesses t) (fun _ => SameProcesses t) := by
  rw [prepareLaunch, ends_bind]
  refine (onRest_same t).mono ?_ fun e t' h => h
  rintro - t₁ ⟨hq, hlive⟩
  rw [ends_bind]
  refine (onRest_same t₁).mono ?_ ?_
  · rintro - t₂ ⟨hq', hlive'⟩
    have hsame : SameProcesses t t₂ := ⟨hq'.trans hq, hlive'.trans hlive⟩
    rw [ends_bind, ends_get, ends_fromExcept]
    cases os.buildCommand rt.name rt.cfg t₂.2.rest with
    | ok cmd => exact hsame
    | error e => exact hsame
  · rintro e t₂ ⟨hq', hlive'⟩
    exact ⟨hq'.trans hq, hlive'.trans hlive⟩

/-- Moving the process fails exactly when the system refuses it. -/
lemma moveToCpuset_same (os : SystemCalls V) (rt : VmRuntime) (pid : ℕ)
    (t : Option QemuState × QemuWorld V) :
    Ends (os.moveToCpuset rt pid) t
      (fun _ t' => SameProcesses t t' ∧ ¬ os.RefusesCpuset rt pid t.2.rest)
      (fun _ t' => SameProcesses t t' ∧ os.RefusesCpuset rt pid t.2.rest) := by
  rw [moveToCpuset]
  cases hcg : rt.cgroups with
  | none => exact ⟨⟨rfl, rfl⟩, by simp [RefusesCpuset, hcg]⟩
  | some cg =>
      simp only [ends_bind, ends_get, RefusesCpuset, hcg, Option.some.injEq, exists_eq_left']
      split_ifs with hexists
      · rw [onRest, ends_zoom, Ends, EStateM.adaptExcept]
        cases os.writeFile s!"{cg.vm}/cgroup.procs" s!"{pid}\n" t.2.rest with
        | ok _ rest => exact ⟨⟨rfl, rfl⟩, by simp⟩
        | error e rest => exact ⟨⟨rfl, rfl⟩, hexists, e, rest, rfl⟩
      · exact ⟨⟨rfl, rfl⟩, by simp [hexists]⟩

/-- A process that was spawned is recorded unless the system refuses to move it. -/
lemma start_handle (os : SystemCalls V) (rt : VmRuntime) (cmd : QemuCommand)
    (t : Option QemuState × QemuWorld V) :
    Ends (os.start rt cmd) t
      (fun _ t' => ∃ pid, os.spawn cmd t.2.rest = .ok pid ∧
        ¬ os.RefusesCpuset rt pid t.2.rest ∧
        t'.1 = some { pid } ∧ t'.2.live = insert pid t.2.live)
      (fun _ t' => t'.1 = t.1 ∧
        ((∃ e, os.spawn cmd t.2.rest = .error e) ∧ t'.2.live = t.2.live ∨
          ∃ pid, os.spawn cmd t.2.rest = .ok pid ∧ os.RefusesCpuset rt pid t.2.rest ∧
            t'.2.live = insert pid t.2.live)) := by
  rw [start, ends_bind, Ends, spawnQemu]
  cases hspawn : os.spawn cmd t.2.rest with
  | error e => exact ⟨rfl, .inl ⟨⟨e, rfl⟩, rfl⟩⟩
  | ok pid =>
      dsimp only
      rw [ends_bind]
      refine (moveToCpuset_same os rt pid _).mono ?_ ?_
      · rintro - t' ⟨⟨-, hlive⟩, hmoved⟩
        exact ⟨pid, rfl, hmoved, rfl, hlive⟩
      · rintro e t' ⟨⟨hq, hlive⟩, hrefused⟩
        exact ⟨hq, .inr ⟨pid, rfl, hrefused, hlive⟩⟩

/-- **Launching**: either QEMU was not spawned, or it was spawned and is recorded, or it was
spawned and left behind. -/
theorem launch_handle (os : SystemCalls V) (rt : VmRuntime) (t : Option QemuState × QemuWorld V) :
    Ends (os.launch rt) t
      (fun _ t' => ¬ os.LeavesChild rt t ∧
        ∃ pid : ℕ, t'.1 = some { pid } ∧ t'.2.live = insert pid t.2.live)
      (fun _ t' => t'.1 = t.1 ∧
        (¬ os.LeavesChild rt t ∧ t'.2.live = t.2.live ∨
          os.LeavesChild rt t ∧ ∃ pid, t'.2.live = insert pid t.2.live)) := by
  show Ends (os.prepareLaunch rt >>= os.start rt) t _ _
  have hprepare := prepareLaunch_same os rt t
  rw [ends_bind]
  rw [Ends] at hprepare ⊢
  cases hprepared : os.prepareLaunch rt t with
  | error e t₁ =>
      rw [hprepared] at hprepare
      exact ⟨hprepare.1, .inl ⟨by simp [LeavesChild, hprepared], hprepare.2⟩⟩
  | ok cmd t₁ =>
      rw [hprepared] at hprepare
      obtain ⟨hq₁, hlive₁⟩ := hprepare
      have hleaves : os.LeavesChild rt t ↔
          ∃ pid, os.spawn cmd t₁.2.rest = .ok pid ∧ os.RefusesCpuset rt pid t₁.2.rest := by
        constructor
        · rintro ⟨cmd', t', pid, hprepared', hspawn, hrefused⟩
          rw [hprepared] at hprepared'
          cases hprepared'
          exact ⟨pid, hspawn, hrefused⟩
        · rintro ⟨pid, hspawn, hrefused⟩
          exact ⟨cmd, t₁, pid, hprepared, hspawn, hrefused⟩
      refine (start_handle os rt cmd t₁).mono ?_ ?_
      · rintro - t₂ ⟨pid, hspawn, hmoved, hq₂, hlive₂⟩
        exact ⟨by simp [hleaves, hspawn, hmoved], pid, hq₂, by rw [hlive₂, hlive₁]⟩
      · rintro e t₂ ⟨hq₂, ⟨⟨e', hspawn⟩, hlive₂⟩ | ⟨pid, hspawn, hrefused, hlive₂⟩⟩
        · exact ⟨hq₂.trans hq₁, .inl ⟨by simp [hleaves, hspawn], hlive₂.trans hlive₁⟩⟩
        · have hleft := hleaves.mpr ⟨pid, hspawn, hrefused⟩
          exact ⟨hq₂.trans hq₁, .inr ⟨hleft, pid, by rw [hlive₂, hlive₁]⟩⟩

/-- The system ends the recorded process when it is asked to. -/
def Ended (os : SystemCalls V) (q : QemuState) (rest : V) : Prop :=
  os.kill q.pid rest = .ok () ∧ os.wait q.pid rest = .ok ()

/-- **Shutting down** takes the handle in any case; the recorded process is gone if the system
ended it, and otherwise the call fails and leaves it as it was. -/
theorem shutdown_handle (os : SystemCalls V) (rt : VmRuntime)
    (t : Option QemuState × QemuWorld V) :
    Ends (os.shutdown rt) t
      (fun _ t' => t'.1 = none ∧
        (t.1 = none ∧ t'.2.live = t.2.live ∨
          ∃ q, t.1 = some q ∧ os.Ended q t.2.rest ∧ t'.2.live = t.2.live.erase q.pid))
      (fun _ t' => t'.1 = none ∧ t'.2.live = t.2.live ∧
        ∃ q, t.1 = some q ∧ ¬ os.Ended q t.2.rest) := by
  obtain ⟨handle, w⟩ := t
  cases handle with
  | none => exact ⟨rfl, .inl ⟨rfl, rfl⟩⟩
  | some q =>
      simp only [Ends, shutdown, Ended]
      cases hkill : os.kill q.pid w.rest with
      | error e => exact ⟨rfl, rfl, q, rfl, by simp [hkill]⟩
      | ok _ =>
          cases hwait : os.wait q.pid w.rest with
          | error e => exact ⟨rfl, rfl, q, rfl, by simp [hwait]⟩
          | ok _ => exact ⟨rfl, .inr ⟨q, rfl, ⟨hkill, hwait⟩, rfl⟩⟩

end SystemCalls

end

end Chalybs
