import VcpuPinning.CommandLine

/-!
# A machine known by its files

A `Disk` lists directories and files, and `Disk.system` is the machine that has these and nothing
else: no network and no tools. Directories and files that are made are not kept; what counts is
whether they can be made.
-/

namespace VcpuPinning.CommandLine

/-- Why a path cannot be used. -/
inductive PathError where
  | missing
  | exists
  | notDirectory
  | isDirectory
  | nameTooLong
  /-- Nothing can be written there. -/
  | readOnly
  /-- The path contains the character that ends names. -/
  | nulInName
  deriving DecidableEq, Repr

/-- The message of a path error. -/
def PathError.message : PathError → String
  | .missing => "No such file or directory (os error 2)"
  | .exists => "File exists (os error 17)"
  | .notDirectory => "Not a directory (os error 20)"
  | .isDirectory => "Is a directory (os error 21)"
  | .nameTooLong => "File name too long (os error 36)"
  | .readOnly => "Read-only file system (os error 30)"
  | .nulInName => "file name contained an unexpected NUL byte"

/-- A place in the tree of files: the names on the way from the root. -/
abbrev Place := List (List Char)

/-- The directories and files of a machine. -/
structure Disk where
  directories : List Place
  /-- Directories below which nothing can be made, and what comes of an attempt. -/
  fixed : List (Place × PathError)
  files : List (Place × List UInt8)

namespace Disk

/-- The longest name, in octets. -/
def maxName : Nat := 255

/-- The longest path, in octets. -/
def maxPath : Nat := 4095

/-- The octets of a name. -/
def nameSize (name : List Char) : Nat :=
  (String.ofList name).utf8ByteSize

/-- The place that a name leads to. -/
def step (place : Place) (name : List Char) : Place :=
  if name = [] ∨ name = ['.'] then place
  else if name = ['.', '.'] then place.dropLast
  else place ++ [name]

/-- The names of a path. -/
def names (path : String) : List (List Char) :=
  Text.pieces '/' path.toList

/-- The place of a path from the root. -/
def placeOf (path : String) : Place :=
  (names path).foldl step []

variable (d : Disk)

/-- There is a directory at the place. -/
def hasDirectory (place : Place) : Bool :=
  place.isEmpty || d.directories.contains place

/-- There is a file at the place. -/
def hasFile (place : Place) : Bool :=
  (d.files.lookup place).isSome

/-- Why nothing can be made in a directory, if it is so. -/
def fixedBy? (place : Place) : Option PathError :=
  (d.fixed.find? fun f => f.1.isPrefixOf place).map (·.2)

/-- The place is known. -/
def isKnown (place : Place) : Bool :=
  d.hasDirectory place || d.hasFile place

/-- The place that names lead to. A directory on the way has to be there, unless it is to be
made; then empty names count for nothing. -/
def follow (making : Bool) : Place → List (List Char) → Except PathError Place
  | place, [] => .ok place
  | place, name :: rest =>
    if making && name.isEmpty then follow making place rest
    else if d.hasFile place then .error .notDirectory
    else if !making && !d.hasDirectory place then .error .missing
    else if maxName < nameSize name then .error .nameTooLong
    else
      match d.fixedBy? place with
      | some e =>
        if making && !d.isKnown (step place name) then .error e
        else follow making (step place name) rest
      | none => follow making (step place name) rest

/-- The place of a path that can be handed to the machine. -/
def find (making : Bool) (path : String) : Except PathError Place :=
  if path.toList.contains '\x00' then .error .nulInName
  else if maxPath < path.utf8ByteSize then .error .nameTooLong
  else d.follow making [] (names path)

/-- The octets of a file. -/
def contentOf (path : String) : Except PathError (List UInt8) := do
  let place ← d.find false path
  match d.files.lookup place with
  | some content => return content
  | none => throw (if d.hasDirectory place then .isDirectory else .missing)

/-- Make a directory and those above it. -/
def makeDirs (path : String) : Except PathError Unit := do
  if d.hasFile (← d.find true path) then throw .exists

/-- Open a file below a directory that is there, or that was made. -/
def openFile (path : String) : Except PathError Unit := do
  if d.hasDirectory (← d.find true path) then throw .isDirectory

/-- The machine with these files. -/
def system : System Id where
  contentOf path := (d.contentOf path).mapError PathError.message
  makeDirs path := (d.makeDirs path).mapError PathError.message
  openFile path := (d.openFile path).mapError PathError.message
  listen a := .error a.locator.listenError
  shell _ := return .notStarted PathError.missing.message

/-- A path with a NUL leads nowhere. -/
theorem find_of_nul {making : Bool} {path : String} (h : '\x00' ∈ path.toList) :
    d.find making path = .error .nulInName := by
  rw [find, if_pos (List.contains_iff_mem.2 h)]

end Disk

end VcpuPinning.CommandLine
