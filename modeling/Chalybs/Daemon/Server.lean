import Chalybs.Daemon.State

/-!
# Shell commands

`handle_shell_command` (`daemon/src/server.rs`): what a command line that a client sent does to the
daemon, and the events it is answered with.  Only `vm start`, `vm restart` and `vm stop` change the
state, each for the VM it names.

* `DaemonState.handleShellCommand` — the function.
* `handleShellCommand_cases` — everything a command can do to the daemon.
* `commanded_handleShellCommand` — everything it can do to one VM.
-/

namespace Chalybs

namespace DaemonState

/-- `vm list`. -/
def vmList (cfg : RootConfig) : List IpcEvent :=
  if cfg.vm.entries.isEmpty then [⟨.Info, "daemon: no VMs defined in configuration"⟩]
  else
    let joined := joinWith ", " cfg.sortedNames
    [⟨.Info, s!"daemon: configured VMs: {joined}"⟩]

/-- `vm status <name>`. -/
def vmStatusReport (d : DaemonState) (cfg : RootConfig) (name : String) : List IpcEvent :=
  match cfg.vm.lookup name with
  | none => [⟨.Error, s!"vm {name}: not found in configuration"⟩]
  | some vm =>
      let isolationMode := vm.isolation.mode.label
      let gpuCount := (deviceList vm.devices.gpu).length
      let nvmeCount := (deviceList vm.devices.nvme).length
      let nicCount := (deviceList vm.devices.nic).length
      let usbCount := (deviceList vm.devices.usb).length
      let (viewState, desiredState) := match d.vms.lookup name with
        | some dvm => (mapVmStateToIpc dvm.sm.state, dvm.desired)
        | none => (.Stopped, .Stopped)
      [⟨.Info, s!"vm {name}: state={viewState.debug}, desired={desiredState.debug}, " ++
          s!"isolation={isolationMode}, hugepages={vm.qemu.hugepages}"⟩,
        ⟨.Info, s!"vm {name}: devices gpu={gpuCount}, nvme={nvmeCount}, nic={nicCount}, " ++
          s!"usb={usbCount}"⟩]

/-- The VM that `vm start` and `vm restart` continue with: a new one if there is none yet or the
one of the last run is Idle. -/
def vmToStart (d : DaemonState) (name : String) (vmCfg : VmConfig) : Except String DaemonVm :=
  match d.vms.lookup name with
  | none => DaemonVm.new name vmCfg
  | some dvm => if dvm.sm.state = .Idle then DaemonVm.new name vmCfg else .ok dvm

/-- `vm start <name>` and `vm restart <name>`. -/
def vmStart (d : DaemonState) (cfg : RootConfig) (action name : String) :
    DaemonState × List IpcEvent :=
  match cfg.vm.lookup name with
  | none => (d, [⟨.Error, s!"vm {name}: not found in configuration"⟩])
  | some vmCfg =>
      match d.vmToStart name vmCfg with
      | .error msg => (d, [⟨.Error, msg⟩])
      | .ok dvm =>
          ({ d with vms := d.vms.insert name { dvm with desired := .Starting } },
            [⟨.System, s!"vm {name}: `{action}` requested; desired state set to Starting"⟩])

/-- `vm stop <name>`. -/
def vmStop (d : DaemonState) (cfg : RootConfig) (name : String) : DaemonState × List IpcEvent :=
  if name ∈ cfg.vm then
    match d.vms.lookup name with
    | some dvm =>
        ({ d with vms := d.vms.insert name { dvm with desired := .ShuttingDown } },
          [⟨.System, s!"vm {name}: `stop` requested; desired state set to ShuttingDown"⟩])
    | none => (d,
        [⟨.Info, s!"vm {name}: stop requested but VM has no active state machine; ignoring"⟩])
  else (d, [⟨.Error, s!"vm {name}: not found in configuration"⟩])

/-- `handle_vm_command`. -/
def handleVmCommand (d : DaemonState) (args : List String) : DaemonState × List IpcEvent :=
  match args with
  | [] => (d, [⟨.Error, "usage: vm <list|status|start|stop|restart> [name]"⟩])
  | action :: operands =>
      match d.rootCfg with
      | none => (d, [⟨.Error, "daemon: no config loaded; vm commands are unavailable"⟩])
      | some cfg =>
          if action = "list" then (d, vmList cfg)
          else if action = "status" then
            match operands with
            | [] => (d, [⟨.Error, "usage: vm status <name>"⟩])
            | name :: _ => (d, d.vmStatusReport cfg name)
          else if action = "start" ∨ action = "restart" then
            match operands with
            | [] => (d, [⟨.Error, s!"usage: vm {action} <name>"⟩])
            | name :: _ => d.vmStart cfg action name
          else if action = "stop" then
            match operands with
            | [] => (d, [⟨.Error, "usage: vm stop <name>"⟩])
            | name :: _ => d.vmStop cfg name
          else (d, [⟨.Error, s!"daemon: unknown vm subcommand `{action}` " ++
            "(expected list|status|start|stop|restart)"⟩])

/-- `handle_shell_command`. -/
def handleShellCommand (d : DaemonState) (command : String) : DaemonState × List IpcEvent :=
  match (splitWhitespace (trim command.toList)).map String.ofList with
  | [] => (d, [])
  | first :: rest =>
      if first = "help" ∨ first = "h" ∨ first = "?" then
        (d, [⟨.Info, "available commands: help | vm list | vm status <name> | vm start <name> | " ++
            "vm stop <name> | vm restart <name>"⟩,
          ⟨.Info, "note: VM lifecycle is now driven by real state machines; starts/stops will " ++
            "affect actual VMs"⟩])
      else if first = "vm" then d.handleVmCommand rest
      else (d, [⟨.Error, s!"daemon: unknown command `{first}` (try `help`)"⟩])

/-! ## What a command can do -/

/-- The command makes `name` be started: its VM, new where there was none or an Idle one, is now
wanted in Steady. -/
def Starts (d : DaemonState) (name : String) (d' : DaemonState) : Prop :=
  ∃ cfg vmCfg dvm, d.rootCfg = some cfg ∧ cfg.vm.lookup name = some vmCfg ∧
    d.vmToStart name vmCfg = .ok dvm ∧
      d' = { d with vms := d.vms.insert name { dvm with desired := .Starting } }

/-- The command makes `name` be stopped. -/
def Stops (d : DaemonState) (name : String) (d' : DaemonState) : Prop :=
  ∃ dvm, d.vms.lookup name = some dvm ∧
    d' = { d with vms := d.vms.insert name { dvm with desired := .ShuttingDown } }

variable {d : DaemonState}

lemma vmStart_cases (cfg : RootConfig) (hcfg : d.rootCfg = some cfg) (action name : String) :
    (d.vmStart cfg action name).1 = d ∨ d.Starts name (d.vmStart cfg action name).1 := by
  rw [vmStart]
  cases hlook : cfg.vm.lookup name with
  | none => exact .inl rfl
  | some vmCfg =>
      cases hvm : d.vmToStart name vmCfg with
      | error msg => exact .inl (by simp [hvm])
      | ok dvm => exact .inr ⟨cfg, vmCfg, dvm, hcfg, hlook, hvm, by simp [hvm]⟩

lemma vmStop_cases (cfg : RootConfig) (name : String) :
    (d.vmStop cfg name).1 = d ∨ d.Stops name (d.vmStop cfg name).1 := by
  rw [vmStop]
  split_ifs
  · cases hlook : d.vms.lookup name with
    | none => exact .inl rfl
    | some dvm => exact .inr ⟨dvm, hlook, rfl⟩
  · exact .inl rfl

lemma handleVmCommand_cases (args : List String) :
    (d.handleVmCommand args).1 = d ∨
      ∃ name, d.Starts name (d.handleVmCommand args).1 ∨
        d.Stops name (d.handleVmCommand args).1 := by
  cases args with
  | nil => exact .inl rfl
  | cons action operands =>
      rw [handleVmCommand]
      cases hcfg : d.rootCfg with
      | none => exact .inl rfl
      | some cfg =>
          simp only
          split_ifs
          · exact .inl rfl
          · cases operands with
            | nil => exact .inl rfl
            | cons name _ => exact .inl rfl
          · cases operands with
            | nil => exact .inl rfl
            | cons name _ =>
                exact (vmStart_cases cfg hcfg action name).imp_right fun h => ⟨name, .inl h⟩
          · cases operands with
            | nil => exact .inl rfl
            | cons name _ => exact (vmStop_cases cfg name).imp_right fun h => ⟨name, .inr h⟩
          · exact .inl rfl

/-- **A command** starts a VM, stops a VM, or changes nothing. -/
theorem handleShellCommand_cases (command : String) :
    (d.handleShellCommand command).1 = d ∨
      ∃ name, d.Starts name (d.handleShellCommand command).1 ∨
        d.Stops name (d.handleShellCommand command).1 := by
  rw [handleShellCommand]
  split
  · exact .inl rfl
  split_ifs
  · exact .inl rfl
  · exact handleVmCommand_cases _
  · exact .inl rfl

/-- A command changes nothing but the VMs. -/
lemma handleShellCommand_frame (command : String) :
    ∃ vms, (d.handleShellCommand command).1 = { d with vms } := by
  rcases d.handleShellCommand_cases command with heq | ⟨_, hstart | hstop⟩
  · exact ⟨d.vms, heq⟩
  · obtain ⟨_, _, _, -, -, -, hd'⟩ := hstart
    exact ⟨_, hd'⟩
  · obtain ⟨_, -, hd'⟩ := hstop
    exact ⟨_, hd'⟩

lemma rootCfg_handleShellCommand (command : String) :
    (d.handleShellCommand command).1.rootCfg = d.rootCfg := by
  obtain ⟨vms, hframe⟩ := d.handleShellCommand_frame command
  rw [hframe]

/-- What a command does to one VM: nothing, make it, take it as it is and have it started, or have
it stopped. -/
inductive Commanded (d : DaemonState) (name : String) (d' : DaemonState) : Prop
  | unchanged : d'.vms.lookup name = d.vms.lookup name → Commanded d name d'
  | created {vmCfg : VmConfig} {vm : DaemonVm} : d.Starts name d' →
      (∀ old, d.vms.lookup name = some old → old.sm.state = .Idle) →
      DaemonVm.new name vmCfg = .ok vm →
      d'.vms.lookup name = some { vm with desired := .Starting } → Commanded d name d'
  | restarted {vm : DaemonVm} : d.Starts name d' → d.vms.lookup name = some vm →
      vm.sm.state ≠ .Idle →
      d'.vms.lookup name = some { vm with desired := .Starting } → Commanded d name d'
  | stopped {vm : DaemonVm} : d.vms.lookup name = some vm →
      d'.vms.lookup name = some { vm with desired := .ShuttingDown } → Commanded d name d'

/-- A VM that is started is new, or it is the one there was, which is not in Idle. -/
lemma vmToStart_cases {name : String} {vmCfg : VmConfig} {vm : DaemonVm}
    (h : d.vmToStart name vmCfg = .ok vm) :
    (∀ old, d.vms.lookup name = some old → old.sm.state = .Idle) ∧
        DaemonVm.new name vmCfg = .ok vm ∨
      d.vms.lookup name = some vm ∧ vm.sm.state ≠ .Idle := by
  rw [vmToStart] at h
  cases hlook : d.vms.lookup name with
  | none =>
      rw [hlook] at h
      exact .inl ⟨by simp, h⟩
  | some vm' =>
      simp only [hlook] at h
      split_ifs at h with hidle
      · exact .inl ⟨by simpa using hidle, h⟩
      · obtain rfl := Except.ok.inj h
        exact .inr ⟨rfl, hidle⟩

/-- **A command and one VM.** -/
theorem commanded_handleShellCommand (command name : String) :
    d.Commanded name (d.handleShellCommand command).1 := by
  rcases d.handleShellCommand_cases command with heq | ⟨other, hstart | hstop⟩
  · exact .unchanged (by rw [heq])
  · have hstarts := hstart
    obtain ⟨cfg, vmCfg, vm, -, -, hvm, hd'⟩ := hstart
    by_cases hname : name = other
    · subst hname
      have hnew : (d.handleShellCommand command).1.vms.lookup name =
          some { vm with desired := .Starting } := by
        rw [hd']
        exact AList.lookup_insert _
      rcases vmToStart_cases hvm with ⟨hidle, hmade⟩ | ⟨hlook, hidle⟩
      · exact .created hstarts hidle hmade hnew
      · exact .restarted hstarts hlook hidle hnew
    · exact .unchanged (by rw [hd', AList.lookup_insert_ne hname])
  · obtain ⟨vm, hlook, hd'⟩ := hstop
    by_cases hname : name = other
    · subst hname
      exact .stopped hlook (by rw [hd', AList.lookup_insert])
    · exact .unchanged (by rw [hd', AList.lookup_insert_ne hname])

end DaemonState

end Chalybs
