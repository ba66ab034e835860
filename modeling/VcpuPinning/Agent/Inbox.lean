/-!
# Inboxes

An `Inbox` keeps notices until they are acted on, up to a number of them. It refuses more, and
everything once it is stopped.
-/

namespace VcpuPinning.Agent

/-- Notices that wait. -/
structure Inbox (ν : Type) where
  capacity : Nat
  /-- The notices, in order of arrival. -/
  waiting : List ν := []
  stopped : Bool := false
  deriving DecidableEq, Repr

/-- What became of a notice that was offered. -/
inductive Offer where
  | accepted
  | full
  | stopped
  deriving DecidableEq, Repr

namespace Inbox

variable {ν : Type}

/-- Offer a notice. -/
def offer (b : Inbox ν) (n : ν) : Offer × Inbox ν :=
  if b.stopped then (.stopped, b)
  else if b.waiting.length < b.capacity then
    (.accepted, { b with waiting := b.waiting ++ [n] })
  else (.full, b)

/-- Take out what waits. -/
def drain (b : Inbox ν) : List ν × Inbox ν :=
  (b.waiting, { b with waiting := [] })

/-- Stop: what waits is lost, and nothing more is accepted. -/
def stop (b : Inbox ν) : Inbox ν :=
  { b with waiting := [], stopped := true }

end Inbox

end VcpuPinning.Agent
