/-!
# Lines and pieces

A line ends at a line feed, or at a carriage return and a line feed; the last line may lack its
end. `pieces` cuts a text at every occurrence of a character, `cut` at the first that satisfies a
test, `cutLast` at the last; `after` looks for a whole text.
-/

namespace VcpuPinning.Text

/-- The lines of a text, without their ends. -/
def lines : List Char → List (List Char)
  | [] => []
  | '\r' :: '\n' :: cs => [] :: lines cs
  | c :: cs =>
    if c = '\n' then [] :: lines cs
    else
      match lines cs with
      | [] => [[c]]
      | l :: ls => (c :: l) :: ls

/-- The pieces between the separators; one more than there are separators. -/
def pieces (sep : Char) : List Char → List (List Char)
  | [] => [[]]
  | c :: cs =>
    if c = sep then [] :: pieces sep cs
    else
      match pieces sep cs with
      | [] => [[c]]
      | p :: ps => (c :: p) :: ps

/-- The parts before and after the first character that satisfies the test. -/
def cut (p : Char → Bool) : List Char → Option (List Char × List Char)
  | [] => none
  | c :: cs => if p c then some ([], cs) else (cut p cs).map fun (a, b) => (c :: a, b)

/-- The parts before and after the last character that satisfies the test. -/
def cutLast (p : Char → Bool) : List Char → Option (List Char × List Char)
  | [] => none
  | c :: cs =>
    match cutLast p cs with
    | some (a, b) => some (c :: a, b)
    | none => if p c then some ([], cs) else none

/-- What follows the first occurrence of `needle`. -/
def after (needle : List Char) : List Char → Option (List Char)
  | [] => if needle.isEmpty then some [] else none
  | c :: cs =>
    if needle.isPrefixOf (c :: cs) then some ((c :: cs).drop needle.length) else after needle cs

/-- The text without `tail` at its end. -/
def dropTail (tail cs : List Char) : Option (List Char) :=
  if tail.isSuffixOf cs then some (cs.take (cs.length - tail.length)) else none

/-- The text without `front` at its start. -/
def dropFront (front cs : List Char) : Option (List Char) :=
  if front.isPrefixOf cs then some (cs.drop front.length) else none

@[simp] theorem pieces_ne_nil (sep : Char) (cs : List Char) : pieces sep cs ≠ [] := by
  cases cs with
  | nil => simp [pieces]
  | cons c cs =>
    by_cases h : c = sep
    · simp [pieces, h]
    · cases hp : pieces sep cs <;> simp [pieces, h, hp]

theorem cut_eq_none_iff {p : Char → Bool} {cs : List Char} :
    cut p cs = none ↔ ∀ c ∈ cs, p c = false := by
  induction cs with
  | nil => simp [cut]
  | cons c cs ih => by_cases h : p c <;> simp [cut, h, ih]

/-- A cut keeps every character but the one it is made at, which is the first to pass. -/
theorem cut_eq_some_iff {p : Char → Bool} {cs a b : List Char} :
    cut p cs = some (a, b) ↔ (∀ c ∈ a, p c = false) ∧ ∃ c, p c ∧ cs = a ++ c :: b := by
  induction cs generalizing a with
  | nil => simp [cut]
  | cons c cs ih =>
    by_cases h : p c
    · simp only [cut, h, ↓reduceIte, Option.some.injEq, Prod.mk.injEq]
      constructor
      · rintro ⟨rfl, rfl⟩
        exact ⟨by simp, c, h, rfl⟩
      · rintro ⟨ha, d, hd, he⟩
        cases a with
        | nil => simpa using (List.cons.inj (by simpa using he)).2
        | cons e a =>
          simp only [List.cons_append, List.cons.injEq] at he
          have := ha e (by simp)
          simp [← he.1, h] at this
    · simp only [cut, h, Bool.false_eq_true, ↓reduceIte, Option.map_eq_some_iff, Prod.exists,
        Prod.mk.injEq]
      constructor
      · rintro ⟨a', b', hc, rfl, rfl⟩
        obtain ⟨ha, d, hd, rfl⟩ := ih.1 hc
        exact ⟨by simpa [h] using ha, d, hd, rfl⟩
      · rintro ⟨ha, d, hd, he⟩
        cases a with
        | nil =>
          simp only [List.nil_append, List.cons.injEq] at he
          simp [he.1, hd] at h
        | cons e a =>
          simp only [List.cons_append, List.cons.injEq] at he
          refine ⟨a, b, ih.2 ⟨fun x hx => ha x (by simp [hx]), d, hd, he.2⟩, ?_, rfl⟩
          rw [he.1]

end VcpuPinning.Text
