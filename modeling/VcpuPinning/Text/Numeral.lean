/-!
# Decimal numerals

`digits` reads a numeral of ASCII digits as a natural number of any size; `unsigned` also takes a
plus sign and refuses what is above a limit. `text` writes a number, and reading undoes writing
(`digits_text`, `unsigned_text`).
-/

namespace VcpuPinning.Text.Numeral

/-- The largest number of 32 bits. -/
def max32 : Nat := UInt32.size - 1

/-- The largest number of 64 bits. -/
def max64 : Nat := UInt64.size - 1

/-- The value of a numeral of one or more ASCII digits. -/
def digits (cs : List Char) : Option Nat :=
  if cs.isEmpty || !cs.all Char.isDigit then none else some (Nat.ofDigitChars 10 cs 0)

/-- The value of a numeral that may start with a plus sign and is at most `limit`. -/
def unsigned (limit : Nat) (cs : List Char) : Option Nat :=
  let body := match cs with
    | '+' :: ds => ds
    | ds => ds
  (digits body).filter (· ≤ limit)

/-- The decimal digits of a number. -/
def text (n : Nat) : List Char :=
  Nat.toDigits 10 n

theorem isDigit_of_mem_text {n : Nat} {c : Char} (h : c ∈ text n) : c.isDigit :=
  Nat.isDigit_of_mem_toDigits (by decide) (by decide) h

theorem text_ne_nil (n : Nat) : text n ≠ [] :=
  Nat.toDigits_ne_nil

@[simp] theorem digits_text (n : Nat) : digits (text n) = some n := by
  have h : (text n).all Char.isDigit := List.all_eq_true.2 fun _ hc => isDigit_of_mem_text hc
  simp [digits, text_ne_nil, h]
  exact Nat.ofDigitChars_toDigits (by decide) (by decide)

theorem digits_eq_some_iff {cs : List Char} {n : Nat} :
    digits cs = some n ↔
      cs ≠ [] ∧ (∀ c ∈ cs, c.isDigit) ∧ Nat.ofDigitChars 10 cs 0 = n := by
  by_cases h : cs = []
  · simp [digits, h]
  · by_cases hd : ∀ c ∈ cs, c.isDigit
    · simp [digits, h]
    · simp [digits, hd]

theorem unsigned_text {n limit : Nat} (h : n ≤ limit) : unsigned limit (text n) = some n := by
  have hb : (match text n with | '+' :: ds => ds | ds => ds) = text n := by
    split
    · rename_i ds he
      have : ('+' : Char).isDigit := isDigit_of_mem_text (n := n) (by simp [he])
      exact absurd this (by decide)
    · rfl
  simp only [unsigned, hb, digits_text]
  simp [h]

theorem unsigned_eq_some_iff {limit n : Nat} {cs : List Char} :
    unsigned limit cs = some n ↔ n ≤ limit ∧
      ∃ ds, (cs = ds ∨ cs = '+' :: ds) ∧ digits ds = some n := by
  unfold unsigned
  rw [Option.filter_eq_some_iff, decide_eq_true_eq, and_comm]
  refine and_congr_right fun _ => ?_
  constructor
  · intro h
    split at h
    · rename_i ds
      exact ⟨ds, .inr rfl, h⟩
    · exact ⟨cs, .inl rfl, h⟩
  · rintro ⟨ds, rfl | rfl, h⟩
    · split
      · rename_i ds
        obtain ⟨-, hd, -⟩ := digits_eq_some_iff.1 h
        exact absurd (hd '+' List.mem_cons_self) (by decide)
      · exact h
    · exact h

end VcpuPinning.Text.Numeral
