import VcpuPinning.CommandLine

/-!
# The program

The command line on a real system. Services stop once they are ready to serve, and the
hypervisor's tool is not run: both need parts of a system that are not used here.
-/

namespace VcpuPinning

/-- The message of an error of the system. -/
def systemMessage : IO.Error → String
  | .noFileOrDirectory _ code detail => detail ++ " (os error " ++ toString code ++ ")"
  | .inappropriateType _ code detail => detail ++ " (os error " ++ toString code ++ ")"
  | .alreadyExists _ code detail => detail ++ " (os error " ++ toString code ++ ")"
  | .permissionDenied _ code detail => detail ++ " (os error " ++ toString code ++ ")"
  | e => toString e

/-- An action of the system with its error as a message. -/
def attempt {α : Type} (action : IO α) : IO (Except String α) :=
  try
    return .ok (← action)
  catch e => return .error (systemMessage e)

/-- The real system. -/
def realSystem : CommandLine.System IO where
  contentOf path := attempt do return (← IO.FS.readBinFile path).toList
  makeDirs path := attempt (IO.FS.createDirAll path)
  openFile path := attempt do discard (IO.FS.Handle.mk path .append)
  listen _ := return .ok ()
  shell _ := return .notStarted "Operation not supported (os error 95)"

end VcpuPinning

open VcpuPinning

/-- Run the command line. -/
def main (args : List String) : IO UInt32 := do
  match ← CommandLine.run realSystem args with
  | .printed text =>
    IO.print text
    return 0
  | .failed f =>
    IO.eprint f.report
    return 1
  | .misused =>
    IO.eprintln "usage: pinwheeld [OPTIONS] <COMMAND>; see --help"
    return 2
  | .serving address =>
    IO.println ("ready to serve " ++ address.host ++ " at port " ++ toString address.port)
    return 0
