import VcpuPinning.CpuSet
import VcpuPinning.Json.Record

/-!
# Instances

An `Instance` is what a host last reported about one of its domains: whether it runs, and on which
CPUs each of its virtual CPUs may run. `PowerState` names the run states of a domain.
-/

namespace VcpuPinning

/-- The run state of a domain. -/
inductive PowerState where
  | noState
  | running
  | blocked
  | paused
  | shutdown
  | shutoff
  | crashed
  | suspended
  /-- Any state beyond the known ones. -/
  | last
  deriving DecidableEq, Repr

namespace PowerState

/-- Every state, by ascending code. -/
def all : List PowerState :=
  [.noState, .running, .blocked, .paused, .shutdown, .shutoff, .crashed, .suspended, .last]

/-- The state with a code; codes beyond the table are `last`. -/
def ofCode : Nat → PowerState
  | 0 => .noState
  | 1 => .running
  | 2 => .blocked
  | 3 => .paused
  | 4 => .shutdown
  | 5 => .shutoff
  | 6 => .crashed
  | 7 => .suspended
  | _ => .last

/-- The word for a state. -/
def word : PowerState → String
  | .noState => "no-state"
  | .running => "running"
  | .blocked => "blocked"
  | .paused => "paused"
  | .shutdown => "shutdown"
  | .shutoff => "shutoff"
  | .crashed => "crashed"
  | .suspended => "suspended"
  | .last => "last"

/-- The state with a word. -/
def ofWord? (w : String) : Option PowerState :=
  all.find? (·.word = w)

/-- The state that a document denotes. -/
def ofJson? : Json → Option PowerState :=
  Json.toTag? ofWord?

@[simp] theorem ofWord?_word (s : PowerState) : ofWord? s.word = some s := by
  cases s <;> decide

end PowerState

namespace CpuSet

/-- A set in a document: one truth value per CPU. -/
def toJson (s : CpuSet) : Json :=
  Json.ofList Json.bool s.bits

/-- The set that a document denotes. -/
def ofJson? (j : Json) : Option CpuSet :=
  (j.toList? Json.toBool?).map CpuSet.mk

end CpuSet

/-- A domain as its host last reported it. -/
structure Instance where
  /-- The identifier of the instance, which is also its key. -/
  uuid : String
  /-- The host it is on. -/
  host : Option String
  /-- Its run state. -/
  status : PowerState
  /-- The host CPUs on which each virtual CPU may run. -/
  cpuMappings : SortedMap UInt32 CpuSet
  /-- When the report last changed. -/
  updatedAt : UInt64
  deriving DecidableEq

namespace Instance

/-- The names of the fields, in order. -/
def fieldNames : List String :=
  ["uuid", "host", "status", "cpu_mappings", "updated_at"]

/-- The names of the fields in which a report differs from the stored one, the time apart. -/
def changes (new stored : Instance) : List String :=
  (if new.host ≠ stored.host then ["host"] else []) ++
    (if new.status ≠ stored.status then ["status"] else []) ++
    (if new.cpuMappings ≠ stored.cpuMappings then ["cpu_mappings"] else [])

/-- An instance in a document. -/
def toJson (i : Instance) : Json :=
  Json.record fieldNames
    [some (Json.text i.uuid), some (Json.ofOption Json.text i.host),
      some (Json.text i.status.word), some (Json.ofNumberMap CpuSet.toJson i.cpuMappings),
      some (Json.nat i.updatedAt.toNat)]

/-- The instance that a document denotes. -/
def ofJson? (j : Json) : Option Instance := do
  let s ← Json.toSlots? fieldNames j
  return {
    uuid := ← s.required 0 Json.toString?
    host := ← s.optional 1 Json.toString?
    status := ← s.required 2 PowerState.ofJson?
    cpuMappings := ← s.required 3 (Json.toNumberMap? CpuSet.ofJson?)
    updatedAt := ← s.required 4 Json.toUInt64? }

/-- A report changes nothing exactly when it agrees with the stored one but for the time. -/
theorem changes_eq_nil_iff {new stored : Instance} :
    new.changes stored = [] ↔ new.host = stored.host ∧ new.status = stored.status ∧
      new.cpuMappings = stored.cpuMappings := by
  by_cases hh : new.host = stored.host <;> by_cases hs : new.status = stored.status <;>
    by_cases hc : new.cpuMappings = stored.cpuMappings <;> simp [changes, hh, hs, hc]

end Instance

end VcpuPinning
