/-!
# Store errors

Why an operation of the store failed. The first seven causes lie in the storage or in the stored
rows and carry a description; the others are refusals of the store itself.
-/

namespace VcpuPinning

/-- Why a store operation failed. -/
inductive StoreError where
  /-- The storage could not be opened. -/
  | opening (detail : String)
  | transaction (detail : String)
  | table (detail : String)
  | read (detail : String)
  | write (detail : String)
  | serialize (detail : String)
  /-- A row is not the written form of a record. -/
  | deserialize (detail : String)
  | notFound (what : String)
  | alreadyExists (what : String)
  /-- The status of a record may not change in this way. -/
  | invalidTransition (key before after : String)
  deriving DecidableEq, Repr

/-- The message of a store error. -/
def StoreError.message : StoreError → String
  | .opening detail => "failed to open database: " ++ detail
  | .transaction detail => "transaction error: " ++ detail
  | .table detail => "table error: " ++ detail
  | .read detail => "read error: " ++ detail
  | .write detail => "write error: " ++ detail
  | .serialize detail => "serialization error: " ++ detail
  | .deserialize detail => "deserialization error: " ++ detail
  | .notFound what => "not found: " ++ what
  | .alreadyExists what => "already exists: " ++ what
  | .invalidTransition key before after =>
      "invalid status transition for " ++ key ++ ": " ++ before ++ " -> " ++ after

end VcpuPinning
