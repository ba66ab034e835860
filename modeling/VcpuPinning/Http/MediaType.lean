import VcpuPinning.Text.Lines

/-!
# Media types

A media type names a type and a subtype, such as `application/json`, and may go on with
parameters, each after a semicolon. `isJson` recognises the media types of JSON documents.
-/

namespace VcpuPinning.Http.MediaType

/-! ## Characters -/

/-- A character of a name. -/
def isNameChar (c : Char) : Bool :=
  c.isAlphanum || "!#$%&'*+-.^_\x60|~".toList.contains c

/-- A character that may stand between quotes. -/
def isQuotable (c : Char) : Bool :=
  0x20 ≤ c.toNat && c.toNat ≠ 0x7F

/-! ## Parameters -/

/-- The text after an opening quote and what it opens: one character at least, which may be a
quote itself, up to the next quote. -/
def afterQuoted? : List Char → Option (List Char)
  | [] => none
  | c :: cs =>
    if isQuotable c then
      match cs.dropWhile fun c => isQuotable c && c ≠ '"' with
      | '"' :: r => some r
      | _ => none
    else none

/-- The text after a semicolon, or after the end. -/
def afterSemicolon? : List Char → Option (List Char)
  | [] => some []
  | ';' :: r => some r
  | _ => none

/-- The text after the value of a parameter and the semicolon that follows. Spaces may stand after
a quoted value; only the last value of all may be empty. -/
def afterValue? : List Char → Option (List Char)
  | '"' :: cs => (afterQuoted? cs).bind fun r => afterSemicolon? (r.dropWhile (· == ' '))
  | ';' :: _ => none
  | cs => afterSemicolon? (cs.dropWhile isNameChar)

/-- The text after a parameter and the semicolon that follows. -/
def afterParameter? : List Char → Option (List Char)
  | [] => none
  | c :: cs =>
    if isNameChar c then
      match cs.dropWhile isNameChar with
      | '=' :: r => afterValue? r
      | _ => none
    else none

theorem length_dropWhile_le (p : Char → Bool) (cs : List Char) :
    (cs.dropWhile p).length ≤ cs.length :=
  (List.dropWhile_suffix p).length_le

theorem length_of_afterQuoted? {cs r : List Char} (h : afterQuoted? cs = some r) :
    r.length ≤ cs.length := by
  cases cs with
  | nil => simp [afterQuoted?] at h
  | cons c cs =>
    simp only [afterQuoted?] at h
    split at h
    · split at h
      · rename_i r' hr
        have := length_dropWhile_le (fun c => isQuotable c && c ≠ '"') cs
        rw [hr] at this
        simp only [List.length_cons, Option.some.injEq] at this h ⊢
        rw [← h]
        omega
      · simp at h
    · simp at h

theorem length_of_afterSemicolon? {cs r : List Char} (h : afterSemicolon? cs = some r) :
    r.length ≤ cs.length := by
  unfold afterSemicolon? at h
  split at h <;> simp_all

theorem length_of_afterValue? {cs r : List Char} (h : afterValue? cs = some r) :
    r.length ≤ cs.length := by
  unfold afterValue? at h
  split at h
  · obtain ⟨r', hr, h⟩ := Option.bind_eq_some_iff.1 h
    have h1 := length_of_afterQuoted? hr
    have h2 := length_dropWhile_le (· == ' ') r'
    have h3 := length_of_afterSemicolon? h
    simp only [List.length_cons]
    omega
  · simp at h
  · exact Nat.le_trans (length_of_afterSemicolon? h) (length_dropWhile_le _ _)

/-- What follows a parameter is shorter than what it starts. -/
theorem length_of_afterParameter? {cs r : List Char} (h : afterParameter? cs = some r) :
    r.length < cs.length := by
  cases cs with
  | nil => simp [afterParameter?] at h
  | cons c cs =>
    simp only [afterParameter?] at h
    split at h
    · split at h
      · rename_i r' hr
        have h1 := length_dropWhile_le isNameChar cs
        rw [hr] at h1
        have h2 := length_of_afterValue? h
        simp only [List.length_cons] at h1 ⊢
        omega
      · simp at h
    · simp at h

/-- Parameters that are separated by semicolons. Spaces may stand before each, and after all. -/
def areParameters (cs : List Char) : Bool :=
  match hcs : cs.dropWhile (· == ' ') with
  | [] => true
  | c :: cs' =>
    match h : afterParameter? (c :: cs') with
    | none => false
    | some r =>
      have : r.length < cs.length := by
        have h1 := length_of_afterParameter? h
        have h2 := length_dropWhile_le (· == ' ') cs
        rw [hcs] at h2
        omega
      areParameters r
termination_by cs.length

/-! ## Types -/

/-- The type and the subtype of a media type. -/
def read? (s : String) : Option (List Char × List Char) :=
  match s.toList.span isNameChar with
  | (kind, '/' :: r) =>
    let (subtype, r) := r.span isNameChar
    if kind.isEmpty || subtype.isEmpty then none
    else (afterSemicolon? r).bind fun r =>
      if areParameters r then some (kind, subtype) else none
  | _ => none

/-- Names without regard to case. -/
def sameName (cs : List Char) (name : String) : Bool :=
  cs.map Char.toLower == name.toList

/-- A media type of JSON documents: `application/json`, or any subtype of `application` that is
extended by `+json`. Of a subtype with an extension the part before it counts too. -/
def isJson (s : String) : Bool :=
  match read? s with
  | none => false
  | some (kind, subtype) =>
    sameName kind "application" &&
      match Text.cutLast (· == '+') subtype with
      | some (base, extension) =>
        if base.isEmpty then sameName subtype "json"
        else sameName base "json" || sameName extension "json"
      | none => sameName subtype "json"

end VcpuPinning.Http.MediaType
