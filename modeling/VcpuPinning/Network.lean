import VcpuPinning.Http
import VcpuPinning.Network.Locator

/-!
# The network

Addresses of other machines, and a `Network` that connects to them and carries requests. What is
sent arrives, fails with a description, or comes too late. `Network.unreachable` is the network of
a machine that is connected to nothing, not even to itself.
-/

namespace VcpuPinning

/-- A host and a port. -/
structure Address where
  /-- The host as it is written. -/
  host : String
  locator : Locator
  port : UInt16
  deriving DecidableEq, Repr

namespace Address

/-- Why a text is no address. -/
inductive Error where
  /-- It has no colon. -/
  | form
  /-- What follows the last colon is no port. -/
  | port
  deriving DecidableEq, Repr

/-- The message of an address error. -/
def Error.message : Error → String
  | .form => "invalid socket address"
  | .port => "invalid port value"

/-- The largest port. -/
def maxPort : Nat := UInt16.size - 1

/-- The address that a text denotes; the last colon separates the host from the port. A host in
brackets goes with a port without a sign only. -/
def read (s : String) : Except Error Address :=
  match Text.cutLast (· == ':') s.toList with
  | none => .error .form
  | some (host, port) =>
    match Text.Numeral.unsigned maxPort port with
    | some n =>
      .ok ⟨String.ofList host, Locator.read (port.head? != some '+') host, .ofNat n⟩
    | none => .error .port

end Address

/-- What became of something sent over the network. -/
inductive Delivery (α : Type) where
  | arrived (a : α)
  | failed (detail : String)
  /-- It did not arrive in the time that it was given. -/
  | late
  deriving DecidableEq, Repr

/-- A response as it arrives. -/
structure Received where
  status : Nat
  body : String
  deriving DecidableEq, Repr

/-- A network with state of type `σ`. -/
structure Network (σ : Type) where
  /-- Connect to an address. -/
  dial : Address → StateM σ (Delivery Unit)
  /-- Send a request to an address that one is connected to. -/
  send : Address → Http.Request → StateM σ (Delivery Received)

/-! ## A machine that is connected to nothing -/

/-- The error of a machine without a way to another. -/
def unreachableError : String :=
  "Network is unreachable (os error 101)"

/-- The error of a machine without an address of its own. -/
def unassignableError : String :=
  "Cannot assign requested address (os error 99)"

/-- Why a name is not found, if it is not: only the machine itself has a name. -/
def nameError? (name : String) : Option String :=
  if name.toList.contains '\x00' then some "file name contained an unexpected NUL byte"
  else if name.toList.map Char.toLower == "localhost".toList then none
  else some "failed to lookup address information: Temporary failure in name resolution"

/-- The error of a number that cannot be used as it is. -/
def unusableError : String :=
  "Invalid argument (os error 22)"

/-- The error of a text that can be no name. -/
def noNameError : String :=
  "failed to lookup address information: Name or service not known"

/-- Why nothing is reached by a number of 128 bits. A number that stands for one of 32 bits, or for
many machines, has no way; one within a link needs that link; for all others there is no address
to come from. -/
def longError (words : List Nat) (link : Nat) : String :=
  if words.take 6 == [0, 0, 0, 0, 0, 0xFFFF] || Locator.isMany words then unreachableError
  else if Locator.isWithinLink words && link == 0 then unusableError
  else unassignableError

/-- Why a machine is not reached. -/
def Locator.dialError : Locator → String
  | .short => unreachableError
  | .long words link => longError words link
  | .named name => (nameError? name).getD unreachableError
  | .nothing => noNameError

/-- Why a machine cannot be served. -/
def Locator.listenError : Locator → String
  | .named name => (nameError? name).getD unassignableError
  | .nothing => noNameError
  | .short => unassignableError
  | .long words link =>
    if Locator.isMany words || (Locator.isWithinLink words && link == 0) then unusableError
    else unassignableError

/-- The network of a machine that is connected to nothing. -/
def Network.unreachable {σ : Type} : Network σ where
  dial a := pure (.failed a.locator.dialError)
  send _ _ := pure (.failed unreachableError)

end VcpuPinning
