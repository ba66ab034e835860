import VcpuPinning.Http.MediaType
import VcpuPinning.Http.Path
import VcpuPinning.Json.Reader

/-!
# HTTP messages

Requests and responses as far as the service needs them, and the reading of a request's body as a
document. A header value is any text without control characters; it counts as text for the
service if it is printable ASCII.
-/

namespace VcpuPinning.Http

/-- A request. -/
structure Request where
  method : String
  /-- The path, with a query if there is one. -/
  target : String
  /-- The header fields, names in lower case. -/
  headers : List (String × String)
  body : String
  deriving DecidableEq, Repr

/-- What a response carries. -/
inductive Body where
  | nothing
  | text (text : String)
  | document (json : Json)

/-- A response. -/
structure Response where
  status : Nat
  body : Body

/-- The body as it is sent. -/
def Body.toText : Body → String
  | .nothing => ""
  | .text s => s
  | .document j => j.toText

/-- The response with a document. -/
def Response.json (status : Nat) (json : Json) : Response :=
  ⟨status, .document json⟩

/-- The response without a body. -/
def Response.bare (status : Nat) : Response :=
  ⟨status, .nothing⟩

/-- The same response without its body. -/
def Response.withoutBody (r : Response) : Response :=
  { r with body := .nothing }

/-! ## Header values -/

/-- A text that can be the value of a header: no control characters but tabs. -/
def isHeaderValue (s : String) : Bool :=
  s.toList.all fun c => c = '\t' || (0x20 ≤ c.toNat && c.toNat ≠ 0x7F)

/-- A header value that counts as text: printable ASCII and tabs. -/
def isVisible (s : String) : Bool :=
  s.toList.all fun c => c = '\t' || (0x20 ≤ c.toNat && c.toNat < 0x7F)

/-- The value of the first header field with a name, if it counts as text. -/
def Request.header? (r : Request) (name : String) : Option String :=
  (r.headers.lookup name).filter isVisible

/-- The request shows the token that is expected, if one is. -/
def Request.hasToken (r : Request) (header : String) : Option String → Bool
  | none => true
  | some token => r.header? header == some token

/-! ## Bodies of requests -/

/-- Why the body of a request is no value. -/
inductive BodyError where
  /-- The content type is not that of JSON. -/
  | contentType
  /-- The body has more octets than are taken. -/
  | tooLarge
  /-- The body is no JSON document. -/
  | malformed
  /-- The document denotes no value of the type. -/
  | mistyped
  deriving DecidableEq, Repr

/-- The message of a body error. -/
def BodyError.message : BodyError → String
  | .contentType => "Expected request with \x60Content-Type: application/json\x60"
  | .tooLarge => "Failed to buffer the request body: length limit exceeded"
  | .malformed => "Failed to parse the request body as JSON: not a document"
  | .mistyped =>
      "Failed to deserialize the JSON body into the target type: not of the expected form"

/-- The most octets that a body may have: two mebibytes. -/
def maxBodySize : Nat :=
  2097152

/-- The value that the body of a request denotes. -/
def Request.read {α : Type} (r : Request) (value : Json → Option α) : Except BodyError α :=
  if ((r.header? "content-type").map MediaType.isJson).getD false then
    if maxBodySize < r.body.utf8ByteSize then .error .tooLarge
    else
      match Json.parse? r.body with
      | none => .error .malformed
      | some j =>
        match value j with
        | none => .error .mistyped
        | some a => .ok a
  else .error .contentType

theorem isHeaderValue_of_isVisible {s : String} (h : isVisible s) : isHeaderValue s := by
  simp only [isVisible, isHeaderValue, List.all_eq_true] at h ⊢
  intro c hc
  have := h c hc
  simp only [Bool.or_eq_true, decide_eq_true_eq, Bool.and_eq_true] at this ⊢
  exact this.imp_right fun h => ⟨h.1, by omega⟩

/-- A request that expects no token is not refused. -/
@[simp] theorem hasToken_none (r : Request) (header : String) : r.hasToken header none = true := rfl

end VcpuPinning.Http
