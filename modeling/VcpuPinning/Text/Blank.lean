/-!
# White space

`isBlank` holds of the 25 characters that have the property White_Space, and `trim` takes them
off both ends of a text. What remains starts and ends with no blank (`head_trimStart`,
`getLast_trimEnd`), and a text with no blank at its ends is left alone (`trimStart_of_head`,
`trimEnd_of_getLast`).
-/

namespace VcpuPinning.Text

/-- The characters with the property White_Space. -/
def isBlank (c : Char) : Bool :=
  let n := c.toNat
  (0x9 ≤ n && n ≤ 0xD) || n == 0x20 || n == 0x85 || n == 0xA0 || n == 0x1680 ||
    (0x2000 ≤ n && n ≤ 0x200A) || n == 0x2028 || n == 0x2029 || n == 0x202F || n == 0x205F ||
    n == 0x3000

/-- A text without the blanks it starts with. -/
def trimStart (cs : List Char) : List Char :=
  cs.dropWhile isBlank

/-- A text without the blanks it ends with. -/
def trimEnd : List Char → List Char
  | [] => []
  | c :: cs =>
    match trimEnd cs with
    | [] => if isBlank c then [] else [c]
    | d :: ds => c :: d :: ds

/-- A text without the blanks at its ends. -/
def trim (cs : List Char) : List Char :=
  trimEnd (trimStart cs)

/-- Nothing but blanks. -/
def isBlankText (cs : List Char) : Bool :=
  cs.all isBlank

@[simp] theorem trim_nil : trim [] = [] := rfl

theorem trimEnd_eq_nil_iff {cs : List Char} : trimEnd cs = [] ↔ ∀ c ∈ cs, isBlank c := by
  induction cs with
  | nil => simp [trimEnd]
  | cons c cs ih =>
    cases h : trimEnd cs with
    | nil => simp [trimEnd, h, ← ih]
    | cons d ds => simp [trimEnd, h, ← ih]

/-- The last character of a trimmed text is not blank. -/
theorem getLast_trimEnd {cs : List Char} {c : Char} (h : (trimEnd cs).getLast? = some c) :
    isBlank c = false := by
  induction cs with
  | nil => simp [trimEnd] at h
  | cons d cs ih =>
    cases hs : trimEnd cs with
    | nil =>
      by_cases hd : isBlank d
      · simp [trimEnd, hs, hd] at h
      · simp only [trimEnd, hs, hd] at h
        simp at h
        simpa [h] using hd
    | cons e es =>
      rw [hs] at ih
      simp only [trimEnd, hs, List.getLast?_cons_cons] at h
      exact ih h

/-- The first character of a text without leading blanks is not blank. -/
theorem head_trimStart {cs : List Char} {c : Char} (h : (trimStart cs).head? = some c) :
    isBlank c = false := by
  have := List.head?_dropWhile_not isBlank cs
  simp only [trimStart] at h
  rw [h] at this
  simpa using this

theorem trimEnd_of_getLast {cs : List Char} (h : ∀ c, cs.getLast? = some c → isBlank c = false) :
    trimEnd cs = cs := by
  induction cs with
  | nil => rfl
  | cons d cs ih =>
    cases cs with
    | nil => simp [trimEnd, h d rfl]
    | cons e es =>
      have he : trimEnd (e :: es) = e :: es := ih fun c hc => h c (by simpa using hc)
      simp [trimEnd] at he ⊢
      rw [he]

theorem trimStart_of_head {cs : List Char} (h : ∀ c, cs.head? = some c → isBlank c = false) :
    trimStart cs = cs := by
  cases cs with
  | nil => rfl
  | cons d cs => simp [trimStart, h d rfl]

end VcpuPinning.Text
