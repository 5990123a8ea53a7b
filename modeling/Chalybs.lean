import Chalybs.Foundation.Run
import Chalybs.Foundation.Parties
import Chalybs.Foundation.Refinement
import Chalybs.Foundation.Grouping
import Chalybs.Foundation.Fallible
import Chalybs.Foundation.Framing
import Chalybs.Core.Basics
import Chalybs.Core.Text
import Chalybs.Core.Numerals
import Chalybs.Core.Config
import Chalybs.Core.Model
import Chalybs.Cpu.Plan
import Chalybs.Cpu.Topology
import Chalybs.Cpu.Reserve
import Chalybs.Cpu.ListGrammar
import Chalybs.Pci.Function
import Chalybs.Pci.Inventory
import Chalybs.Pci.Sysfs
import Chalybs.Pci.Kernels
import Chalybs.Pci.Address
import Chalybs.Vfio.Isolation
import Chalybs.Vfio.Verdict
import Chalybs.Vfio.Plan
import Chalybs.Vfio.Execute
import Chalybs.Vfio.Stage
import Chalybs.Vfio.PartialScan
import Chalybs.Vfio.Restore
import Chalybs.Vfio.RoundTrip
import Chalybs.Vfio.Acceptance
import Chalybs.Vfio.Simulation
import Chalybs.Foundation.Lists
import Chalybs.Foundation.Loop
import Chalybs.Foundation.Sweep
import Chalybs.Foundation.Transit
import Chalybs.Foundation.ArgMax
import Chalybs.Foundation.FirstFit
import Chalybs.Foundation.Overwrite
import Chalybs.Foundation.DoubledSeparator
import Chalybs.Vfio.Numa
import Chalybs.Vfio.RestoreOrder
import Chalybs.Vfio.Veto
import Chalybs.Machine.Teardown
import Chalybs.Machine.State
import Chalybs.Machine.Lifecycle
import Chalybs.Machine.Blocking
import Chalybs.Machine.Calls
import Chalybs.Machine.History
import Chalybs.Machine.Frame
import Chalybs.Qemu.Process
import Chalybs.Daemon.Ipc
import Chalybs.Daemon.State
import Chalybs.Daemon.Server
import Chalybs.Daemon.Wire
import Chalybs.Daemon.Run
import Chalybs.Daemon.Convergence
import Chalybs.Daemon.Reentry
import Chalybs.Daemon.Restart
import Chalybs.Daemon.Delivery
import Chalybs.Qemu.Devices
import Chalybs.Qemu.RootPort
import Chalybs.Qemu.Command
import Chalybs.Qemu.BusSlots
import Chalybs.Qemu.Smbios
import Chalybs.Qemu.MemorySizes
import Chalybs.Cpu.Completeness
import Chalybs.Daemon.Interference
import Chalybs.Daemon.Visible
import Chalybs.Daemon.Startup
import Chalybs.Daemon.Admission
import Chalybs.Vfio.Sharing
import Chalybs.Cpu.Sharing
import Chalybs.Cpu.HostCpus
import Chalybs.Cpu.Atomicity
import Chalybs.Cpu.Barrier
import Chalybs.Qemu.Ownership
import Chalybs.Qemu.LookingGlass
import Chalybs.Peripherals.Hooks
import Chalybs.Peripherals.Relay
import Chalybs.Foundation.Checksum
import Chalybs.Peripherals.Ddc
import Chalybs.Peripherals.Mqtt
import Chalybs.Peripherals.Messages
import Chalybs.Irq.Worker
import Chalybs.Irq.AuxGpu
import Chalybs.Irq.Run
import Chalybs.Irq.Badge
import Chalybs.Irq.HostInput
import Chalybs.Irq.VmInput
import Chalybs.Irq.LateIrqs
import Chalybs.Irq.Steering
import Chalybs.Irq.SlotIdentity
import Chalybs.Hugepages.Pool
import Chalybs.Hugepages.Sharing
import Chalybs.Hugepages.Record
import Chalybs.Hugepages.NodeSelection
import Chalybs.Hugepages.Answers
import Chalybs.Hugepages.Leftovers
import Chalybs.Hugepages.Capacity
import Chalybs.Cpu.Partition
import Chalybs.Daemon.Snapshot
import Chalybs.Daemon.Clients
import Chalybs.Daemon.Batches
import Chalybs.Tui.Backend
import Chalybs.Tui.Sending
import Chalybs.Tui.EventsPanel
import Chalybs.Tui.Session
import Chalybs.Tui.Prompt
import Chalybs.Tui.Health
import Chalybs.Cli.Main
import Chalybs.EndToEnd.Connection
import Chalybs.EndToEnd.Terminal
import Chalybs.EndToEnd.Hotkeys
import Chalybs.EndToEnd.System
