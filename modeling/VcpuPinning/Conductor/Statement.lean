import VcpuPinning.Store

/-!
# Statements on the store

A `Statement` is one transaction of an operation of the conductor: it reads or writes the rows of
one table, and answers with a value of type `Statement.Value` or with an error of the store.
-/

namespace VcpuPinning.Conductor

/-- What the conductor asks its store for, one transaction at a time. -/
inductive Statement where
  | findHost (name : String)
  | listHosts
  | findInstance (uuid : String)
  | listInstances
  | findMapping (uuid : String)
  | listMappings
  /-- Take the report of a host. -/
  | reportHost (host : Host)
  /-- Take the report of an instance. -/
  | reportInstance (inst : Instance)
  /-- Write a new mapping. -/
  | create (draft : Draft)
  /-- Put the mapping of an instance on a host. -/
  | move (uuid host : String)
  /-- Write the end of a cycle, which failed if there is a reason. -/
  | settle (uuid : String) (failure : Option String)
  /-- Remove the mapping of an instance. -/
  | delete (uuid : String)
  deriving DecidableEq

namespace Statement

/-- What a statement answers with if it succeeds. -/
@[reducible] def Value : Statement → Type
  | findHost _ => Option Host
  | listHosts => List Host
  | findInstance _ => Option Instance
  | listInstances => List Instance
  | findMapping _ => Option Mapping
  | listMappings => List Mapping
  | reportHost _ => Upsert
  | reportInstance _ => Upsert
  | create _ => Mapping
  | move _ _ => Mapping
  | settle _ _ => Mapping
  | delete _ => Bool

/-- Carry out a statement at a time. -/
def perform (now : UInt64) (s : Store) : (q : Statement) → Except StoreError q.Value × Store
  | findHost name => s.getHost name
  | listHosts => s.listHosts
  | findInstance uuid => s.getInstance uuid
  | listInstances => s.listInstances
  | findMapping uuid => s.getMapping uuid
  | listMappings => s.listMappings
  | reportHost host => s.upsertHost host
  | reportInstance inst => s.upsertInstance inst
  | create draft => s.createMapping draft now
  | move uuid host => s.updateMapping uuid (·.withHost host) now
  | settle uuid failure => s.updateMapping uuid (·.settled failure.isNone failure) now
  | delete uuid => s.deleteMapping uuid

end Statement

end VcpuPinning.Conductor
