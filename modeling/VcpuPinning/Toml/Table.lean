import VcpuPinning.Json.Record

/-!
# Tables of TOML

A `Table` is built up by definitions, each of which names its place by a path of keys. A table
comes about by a header, by a dotted key, or as part of a longer path; what may be added to it
later depends on that.
-/

namespace VcpuPinning.Toml

/-- What a key stands for. -/
inductive Node where
  /-- A value, which nothing can be added to. -/
  | value (j : Json)
  /-- A table. It is implicit if only paths through it were written, and dotted if those were
  dotted keys. -/
  | table (isImplicit isDotted : Bool) (entries : List (String × Node))
  /-- An array of tables, each given by its entries. -/
  | tables (items : List (List (String × Node)))

/-- A table that is being built. -/
structure Table where
  isImplicit : Bool := false
  isDotted : Bool := false
  entries : List (String × Node) := []

namespace Table

/-- The node under a key. -/
def find? (t : Table) (key : String) : Option Node :=
  t.entries.lookup key

/-- Put a node under a key, in the place of any other. -/
def put (t : Table) (key : String) (node : Node) : Table :=
  { t with entries := t.entries.filter (·.1 ≠ key) ++ [(key, node)] }

/-- Remove a key. -/
def drop (t : Table) (key : String) : Table :=
  { t with entries := t.entries.filter (·.1 ≠ key) }

/-- The table as what a key stands for. -/
def node (t : Table) : Node :=
  .table t.isImplicit t.isDotted t.entries

/-- Change the table at a path. Tables that are missing on the way come about as implicit ones; a
dotted path does not go through a table that has a header of its own; a path through an array of
tables goes through its last table. -/
def change (isDotted : Bool) (f : Table → Option Table) : List String → Table → Option Table
  | [], t => f t
  | key :: path, t =>
    match t.find? key with
    | none => do
      let u ← change isDotted f path ⟨true, isDotted, []⟩
      return t.put key u.node
    | some (.table isImplicit dotted entries) =>
      if isDotted && !isImplicit then none
      else do
        let u ← change isDotted f path ⟨isImplicit, dotted, entries⟩
        return t.put key u.node
    | some (.tables items) => do
      let last ← items.getLast?
      let u ← change isDotted f path ⟨false, false, last⟩
      return t.put key (.tables (items.dropLast ++ [u.entries]))
    | some (.value _) => none

/-- Define a key by a value. A dotted key adds to the tables of dotted keys only, and no key is
defined twice. -/
def define (t : Table) (path : List String) (key : String) (j : Json) : Option Table :=
  change true (fun u =>
    if u.isDotted = path.isEmpty then none
    else if (u.find? key).isSome then none
    else some (u.put key (.value j))) path t

end Table

mutual

/-- The document that a node denotes. -/
def Node.toJson : Node → Json
  | .value j => j
  | .table _ _ entries => .object (entriesToJson entries)
  | .tables items => .array (itemsToJson items)

/-- The members of the object that a table denotes. -/
def Node.entriesToJson : List (String × Node) → List (List Char × Json)
  | [] => []
  | (key, node) :: entries => (Json.escape key.toList, node.toJson) :: entriesToJson entries

/-- The items of the array that an array of tables denotes. -/
def Node.itemsToJson : List (List (String × Node)) → List Json
  | [] => []
  | entries :: items => .object (entriesToJson entries) :: itemsToJson items

end

/-- The document that a table denotes. -/
def Table.toJson (t : Table) : Json :=
  t.node.toJson

/-! ## Sections -/

/-- A document that is being read: what the sections before the current one amount to, the current
one, and its place. -/
structure Draft where
  root : Table := {}
  current : Table := {}
  /-- The place of the current section; the first section has none. -/
  path : List String := []
  /-- The current section is the next table of an array. -/
  inArray : Bool := false

namespace Draft

/-- Put the current section in its place. -/
def close (d : Draft) : Option Table :=
  match d.path.getLast? with
  | none => some d.current
  | some key =>
    Table.change false (fun parent =>
      if d.inArray then
        match parent.find? key with
        | none => some (parent.put key (.tables [d.current.entries]))
        | some (.tables items) => some (parent.put key (.tables (items ++ [d.current.entries])))
        | some _ => none
      else some (parent.put key d.current.node)) d.path.dropLast d.root

/-- Start a section by a header. A table that only has come about by longer paths is taken up; any
other table has its header already. -/
def startTable (d : Draft) (path : List String) : Option Draft := do
  let root ← d.close
  let key ← path.getLast?
  let mut current : Table := {}
  let parent ← descend path.dropLast root
  match parent.find? key with
  | none => pure ()
  | some (.table true false entries) => current := { entries := entries }
  | some _ => none
  return ⟨root, current, path, false⟩
where
  /-- The table at a path, which comes about if it is missing. -/
  descend : List String → Table → Option Table
    | [], t => some t
    | key :: path, t =>
      match t.find? key with
      | none => descend path { isImplicit := true }
      | some (.table isImplicit isDotted entries) => descend path ⟨isImplicit, isDotted, entries⟩
      | some (.tables items) =>
        items.getLast?.bind fun entries => descend path ⟨false, false, entries⟩
      | some (.value _) => none

/-- Start the next table of an array by a header. -/
def startItem (d : Draft) (path : List String) : Option Draft := do
  let root ← d.close
  let key ← path.getLast?
  let parent ← startTable.descend path.dropLast root
  match parent.find? key with
  | none => return ⟨root, {}, path, true⟩
  | some (.tables _) => return ⟨root, {}, path, true⟩
  | some _ => none

/-- Define a key in the current section. -/
def define (d : Draft) (path : List String) (key : String) (j : Json) : Option Draft := do
  return { d with current := ← d.current.define path key j }

end Draft

end VcpuPinning.Toml
