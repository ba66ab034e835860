import VcpuPinning.Duration
import VcpuPinning.Rpc.Message

/-!
# Failed calls

Why a call got no answer: it took too long, it did not reach the other side, the other side
answered with a fault, or something in the call or the reply could not be written or read.
-/

namespace VcpuPinning.Rpc

/-- Why a call got no answer. -/
inductive CallError where
  | timeout (route : Route) (after : Duration)
  | transport (route : Route) (detail : String)
  | remote (fault : Fault)
  | codec (route : Route) (detail : String)
  deriving DecidableEq, Repr

/-- The message of a failed call. -/
def CallError.message : CallError → String
  | .timeout route after => route.path ++ " timed out after " ++ after.text
  | .transport route detail => "transport error calling " ++ route.path ++ ": " ++ detail
  | .remote fault => "remote error: " ++ fault.text
  | .codec route detail => "codec error calling " ++ route.path ++ ": " ++ detail

end VcpuPinning.Rpc
