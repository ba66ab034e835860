import VcpuPinning.CpuSpec
import VcpuPinning.Hypervisor

/-!
# What the virsh tool prints

The readers of the output of the tool's commands: host information, lists of domains, domain
information, the capabilities of a host and the pins of a domain.
-/

namespace VcpuPinning.Virsh.Output

/-- The lines of an output. -/
def linesOf (out : String) : List (List Char) :=
  Text.lines out.toList

/-- The value of the first line with a label, which stands before the line's first colon. -/
def fieldIn (label : String) : List (List Char) → Option (List Char)
  | [] => none
  | line :: rest =>
    match Text.cut (· == ':') line with
    | some (key, value) =>
      if Text.trim key = label.toList then some (Text.trim value) else fieldIn label rest
    | none => fieldIn label rest

/-- The value under a label. -/
def field (out label : String) : Option (List Char) :=
  fieldIn label (linesOf out)

/-- A number of 32 bits. -/
def number32? (cs : List Char) : Option UInt32 :=
  (Text.Numeral.unsigned Text.Numeral.max32 cs).map .ofNat

/-- The number of CPUs under the label `CPU(s)`. -/
def cpuCount (what out : String) : Except HypervisorError UInt32 :=
  match (field out "CPU(s)").bind number32? with
  | some n => .ok n
  | none => .error (.parse what "missing CPU(s) line")

/-- The number of CPUs of the host. -/
def nodeinfo (out : String) : Except HypervisorError UInt32 :=
  cpuCount "nodeinfo" out

/-- One name per line that is not blank. -/
def uuidList (out : String) : List String :=
  (((linesOf out).map Text.trim).filter (! ·.isEmpty)).map String.ofList

/-- The code of the run state with the given words. -/
def stateCode (state : String) : Nat :=
  let words := String.ofList (Text.trim state.toList)
  if words = "no state" then 0
  else if words = "running" then 1
  else if words = "idle" ∨ words = "blocked" then 2
  else if words = "paused" then 3
  else if words = "in shutdown" then 4
  else if words = "shut off" then 5
  else if words = "crashed" then 6
  else if words = "pmsuspended" then 7
  else 8

/-- The code of the run state and the number of virtual CPUs of a domain. -/
def dominfo (out : String) : Except HypervisorError (Nat × UInt32) :=
  match field out "State" with
  | none => .error (.parse "dominfo" "missing State line")
  | some state => (cpuCount "dominfo" out).map fun n => (stateCode (String.ofList state), n)

/-! ## Capabilities -/

/-- The value of an attribute in a quote of one kind. An opening quote without a closing one gives
no value, and neither does any other quote then. -/
def quotedAttribute (quote : Char) (name tag : List Char) : Option (Option (List Char)) :=
  (Text.after (' ' :: (name ++ ['=', quote])) tag).map fun rest =>
    (Text.cut (· == quote) rest).map (·.1)

/-- The value of an attribute of a tag: the first in single quotes, or else in double quotes. -/
def attributeValue (name tag : List Char) : Option (List Char) :=
  match quotedAttribute '\'' name tag with
  | some value => value
  | none => (quotedAttribute '"' name tag).join

/-- The number in the attribute `id`. -/
def idNumber (tag : List Char) : Option UInt32 :=
  (attributeValue "id".toList tag).bind number32?

/-- The cell whose lines are being read, and the cells so far. -/
structure CellScan where
  cell : Option UInt32
  topology : Topology

/-- One more line: a cell starts or ends, or has one more CPU. -/
def CellScan.line (s : CellScan) (line : List Char) : CellScan :=
  if "<cell ".toList.isPrefixOf line then
    match idNumber line with
    | some id => ⟨some id, s.topology.insert id ((s.topology.get? id).getD [])⟩
    | none => ⟨none, s.topology⟩
  else if "</cell>".toList.isPrefixOf line then ⟨none, s.topology⟩
  else if "<cpu ".toList.isPrefixOf line then
    match s.cell, idNumber line with
    | some id, some cpu =>
      ⟨s.cell, s.topology.insert id ((s.topology.get? id).getD [] ++ [cpu])⟩
    | _, _ => s
  else s

/-- The CPUs of each NUMA cell, ascending. -/
def capabilities (out : String) : Topology :=
  let scan := ((linesOf out).map Text.trim).foldl CellScan.line ⟨none, .empty⟩
  scan.topology.map fun cpus => cpus.mergeSort fun a b => a ≤ b

/-! ## Pins -/

/-- A row of pins: the number of the virtual CPU, and its specification. The two are separated by
a colon, or by white space in a line without a colon. -/
def pinRow (line : List Char) : Option (UInt32 × List Char) :=
  let cutting := match Text.cut (· == ':') line with
    | some parts => some parts
    | none => Text.cut Text.isBlank line
  cutting.bind fun (vcpu, affinity) =>
    (number32? (Text.trim vcpu)).map fun n => (n, Text.trim affinity)

/-- The sets of rows, up to the first that does not compile for a host with `maxCpu` CPUs. -/
def compileRows (maxCpu : Nat) :
    List (UInt32 × List Char) → Except HypervisorError (List (UInt32 × CpuSet))
  | [] => .ok []
  | (vcpu, affinity) :: rows =>
    match CpuSpec.compile (String.ofList affinity) maxCpu with
    | .error e =>
      .error (.parse "vcpupin"
        ("vcpu " ++ String.ofList (Text.Numeral.text vcpu.toNat) ++ ": " ++ e.message))
    | .ok set =>
      match compileRows maxCpu rows with
      | .error e => .error e
      | .ok sets => .ok ((vcpu, set) :: sets)

/-- The sets of all virtual CPUs, by ascending number; rows with one number keep their order. -/
def vcpupin (out : String) (maxCpu : Nat) : Except HypervisorError (List CpuSet) :=
  (compileRows maxCpu (((linesOf out).map Text.trim).filterMap pinRow)).map fun rows =>
    (rows.mergeSort fun a b => a.1 ≤ b.1).map (·.2)

end VcpuPinning.Virsh.Output
