import VcpuPinning.Json.Record

/-!
# Hosts

A `Host` is what a compute host last reported about itself: its NUMA cells, its number of CPUs and
the address of its pin service. `Host.changes` compares two reports without their times.
-/

namespace VcpuPinning

/-- The CPUs of each NUMA cell. -/
abbrev Topology := SortedMap UInt32 (List UInt32)

/-- A compute host as it last reported itself. -/
structure Host where
  /-- The name of the host, which is also its key. -/
  name : String
  /-- The host CPUs of each NUMA cell. -/
  topology : Topology
  /-- The number of CPUs, and so the width of every set compiled for the host. -/
  maxCpu : UInt32
  /-- Where the pin service of the host accepts calls. -/
  rpcAddress : Option String
  /-- When the report last changed. -/
  updatedAt : UInt64
  deriving DecidableEq

namespace Host

/-- The names of the fields, in order. -/
def fieldNames : List String :=
  ["host_name", "cpu_topology", "maxcpu", "rpc_address", "updated_at"]

/-- The names of the fields in which a report differs from the stored one, the time apart. -/
def changes (new stored : Host) : List String :=
  (if new.topology ≠ stored.topology then ["cpu_topology"] else []) ++
    (if new.maxCpu ≠ stored.maxCpu then ["maxcpu"] else []) ++
    (if new.rpcAddress ≠ stored.rpcAddress then ["rpc_address"] else [])

/-- A topology in a document. -/
def topologyToJson (t : Topology) : Json :=
  Json.ofNumberMap (Json.ofList fun cpu => Json.nat cpu.toNat) t

/-- A host in a document. -/
def toJson (h : Host) : Json :=
  Json.record fieldNames
    [some (Json.text h.name), some (topologyToJson h.topology), some (Json.nat h.maxCpu.toNat),
      some (Json.ofOption Json.text h.rpcAddress), some (Json.nat h.updatedAt.toNat)]

/-- The host that a document denotes. -/
def ofJson? (j : Json) : Option Host := do
  let s ← Json.toSlots? fieldNames j
  return {
    name := ← s.required 0 Json.toString?
    topology := ← s.required 1 (Json.toNumberMap? (Json.toList? Json.toUInt32?))
    maxCpu := ← s.required 2 Json.toUInt32?
    rpcAddress := ← s.optional 3 Json.toString?
    updatedAt := ← s.required 4 Json.toUInt64? }

/-- A report changes nothing exactly when it agrees with the stored one but for the time. -/
theorem changes_eq_nil_iff {new stored : Host} :
    new.changes stored = [] ↔ new.topology = stored.topology ∧ new.maxCpu = stored.maxCpu ∧
      new.rpcAddress = stored.rpcAddress := by
  by_cases ht : new.topology = stored.topology <;> by_cases hm : new.maxCpu = stored.maxCpu <;>
    by_cases hr : new.rpcAddress = stored.rpcAddress <;> simp [changes, ht, hm, hr]

end Host

end VcpuPinning
