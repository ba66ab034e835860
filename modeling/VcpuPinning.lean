import VcpuPinning.Agent.Dispatcher
import VcpuPinning.Agent.Endpoint
import VcpuPinning.Agent.Inbox
import VcpuPinning.Agent.Link
import VcpuPinning.Agent.Notice
import VcpuPinning.Agent.Reporter
import VcpuPinning.Caller
import VcpuPinning.CommandLine
import VcpuPinning.CommandLine.Arguments
import VcpuPinning.CommandLine.Disk
import VcpuPinning.CommandLine.Help
import VcpuPinning.Conductor.Endpoint
import VcpuPinning.Conductor.Error
import VcpuPinning.Conductor.Mappings
import VcpuPinning.Conductor.Program
import VcpuPinning.Conductor.Remote
import VcpuPinning.Conductor.Reports
import VcpuPinning.Conductor.Statement
import VcpuPinning.CpuSet
import VcpuPinning.CpuSpec
import VcpuPinning.Duration
import VcpuPinning.Host
import VcpuPinning.Http
import VcpuPinning.Http.MediaType
import VcpuPinning.Http.Path
import VcpuPinning.Http.Reason
import VcpuPinning.Http.Uri
import VcpuPinning.Hypervisor
import VcpuPinning.Hypervisor.Simulated
import VcpuPinning.Instance
import VcpuPinning.Json
import VcpuPinning.Json.Reader
import VcpuPinning.Json.Record
import VcpuPinning.LockTable
import VcpuPinning.Main
import VcpuPinning.Mapping
import VcpuPinning.Network
import VcpuPinning.Network.Locator
import VcpuPinning.Pinning
import VcpuPinning.Pinning.Outcome
import VcpuPinning.Proofs.Agent.Affinity
import VcpuPinning.Proofs.Agent.Histories
import VcpuPinning.Proofs.Agent.Passes
import VcpuPinning.Proofs.Agent.Positions
import VcpuPinning.Proofs.Agent.Readings
import VcpuPinning.Proofs.Agent.Triggers
import VcpuPinning.Proofs.Conductor.Batches
import VcpuPinning.Proofs.Conductor.Creation
import VcpuPinning.Proofs.Conductor.Cycles
import VcpuPinning.Proofs.Conductor.Exclusion
import VcpuPinning.Proofs.Conductor.Interleaving
import VcpuPinning.Proofs.Conductor.Inventory
import VcpuPinning.Proofs.Conductor.Latest
import VcpuPinning.Proofs.Conductor.Lifecycle
import VcpuPinning.Proofs.Conductor.Locking
import VcpuPinning.Proofs.Conductor.Operations
import VcpuPinning.Proofs.Conductor.Outcomes
import VcpuPinning.Proofs.Conductor.Placement
import VcpuPinning.Proofs.Conductor.Reports
import VcpuPinning.Proofs.Conductor.Runs
import VcpuPinning.Proofs.Conductor.Serializability
import VcpuPinning.Proofs.CpuSet.Lists
import VcpuPinning.Proofs.CpuSpec.Hosts
import VcpuPinning.Proofs.CpuSpec.Meaning
import VcpuPinning.Proofs.CpuSpec.Refusals
import VcpuPinning.Proofs.Hypervisor.Attempts
import VcpuPinning.Proofs.Hypervisor.Machines
import VcpuPinning.Proofs.Hypervisor.Replay
import VcpuPinning.Proofs.Hypervisor.Simulated
import VcpuPinning.Proofs.Hypervisor.Steps
import VcpuPinning.Proofs.Json.Faithful
import VcpuPinning.Proofs.Json.Records
import VcpuPinning.Proofs.Json.RoundTrip
import VcpuPinning.Proofs.LockTable.Queues
import VcpuPinning.Proofs.LockTable.Slots
import VcpuPinning.Proofs.Pinning.Blocks
import VcpuPinning.Proofs.Pinning.Calls
import VcpuPinning.Proofs.Pinning.Exclusion
import VcpuPinning.Proofs.Pinning.Stages
import VcpuPinning.Proofs.Rpc.Messages
import VcpuPinning.Proofs.Rpc.Refusals
import VcpuPinning.Proofs.Rpc.Targets
import VcpuPinning.Proofs.Rpc.Tokens
import VcpuPinning.Proofs.Rpc.Transparency
import VcpuPinning.Proofs.Settings.Durations
import VcpuPinning.Proofs.Store.Batches
import VcpuPinning.Proofs.Store.Documents
import VcpuPinning.Proofs.Store.Identity
import VcpuPinning.Proofs.Store.Listings
import VcpuPinning.Proofs.Store.Mappings
import VcpuPinning.Proofs.Store.Operations
import VcpuPinning.Proofs.Store.Reports
import VcpuPinning.Proofs.Store.Snapshots
import VcpuPinning.Proofs.Store.Transactions
import VcpuPinning.Proofs.Text.Lines
import VcpuPinning.Proofs.Text.Utf8
import VcpuPinning.Proofs.Virsh.Agreement
import VcpuPinning.Proofs.Virsh.Layouts
import VcpuPinning.Proofs.Virsh.Printer
import VcpuPinning.Proofs.Virsh.Readings
import VcpuPinning.Proofs.Virsh.StandIn
import VcpuPinning.Proofs.Virsh.Tables
import VcpuPinning.Proofs.Virsh.Topologies
import VcpuPinning.Rpc.CallError
import VcpuPinning.Rpc.Client
import VcpuPinning.Rpc.Fault
import VcpuPinning.Rpc.Message
import VcpuPinning.Rpc.Server
import VcpuPinning.Settings
import VcpuPinning.Settings.File
import VcpuPinning.SortedMap
import VcpuPinning.Store
import VcpuPinning.Store.Error
import VcpuPinning.Store.Transaction
import VcpuPinning.Text.Blank
import VcpuPinning.Text.Hidden
import VcpuPinning.Text.Lines
import VcpuPinning.Text.Numeral
import VcpuPinning.Text.Quoted
import VcpuPinning.Text.Utf8
import VcpuPinning.Toml.Quoted
import VcpuPinning.Toml.Reader
import VcpuPinning.Toml.Table
import VcpuPinning.Toml.Word
import VcpuPinning.Virsh
import VcpuPinning.Virsh.Output
