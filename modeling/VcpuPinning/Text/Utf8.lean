/-!
# UTF-8

`units` reads octets as characters. An octet that starts no character, together with the octets
that could still have continued one, is one broken unit. `decode?` refuses text with a broken
unit, and `decodeLossy` shows each as U+FFFD.
-/

namespace VcpuPinning.Text.Utf8

/-- The octet continues a character. -/
def isTail (b : Nat) : Bool :=
  0x80 ≤ b && b ≤ 0xBF

/-- The number of octets after a first octet, and the range of the first of them. -/
def follow (b : Nat) : Option (Nat × Nat × Nat) :=
  if 0xC2 ≤ b ∧ b ≤ 0xDF then some (1, 0x80, 0xBF)
  else if b = 0xE0 then some (2, 0xA0, 0xBF)
  else if b = 0xED then some (2, 0x80, 0x9F)
  else if 0xE1 ≤ b ∧ b ≤ 0xEF then some (2, 0x80, 0xBF)
  else if b = 0xF0 then some (3, 0x90, 0xBF)
  else if 0xF1 ≤ b ∧ b ≤ 0xF3 then some (3, 0x80, 0xBF)
  else if b = 0xF4 then some (3, 0x80, 0x8F)
  else none

/-- Up to `n` tail octets added to the number `k`, and the rest. -/
def tails : Nat → Nat → List UInt8 → Option Nat × List UInt8
  | 0, k, bs => (some k, bs)
  | _ + 1, _, [] => (none, [])
  | n + 1, k, b :: bs =>
    if isTail b.toNat then tails n (k * 64 + b.toNat % 64) bs else (none, b :: bs)

/-- The unit that a first octet starts, and the rest. -/
def unit (b : UInt8) (bs : List UInt8) : Option Char × List UInt8 :=
  if b.toNat < 0x80 then (some (Char.ofNat b.toNat), bs)
  else
    match follow b.toNat, bs with
    | some (n, lo, hi), b' :: bs' =>
      if lo ≤ b'.toNat ∧ b'.toNat ≤ hi then
        let (k, r) := tails (n - 1) (b.toNat % 1 <<< (6 - n) * 64 + b'.toNat % 64) bs'
        (k.map Char.ofNat, r)
      else (none, bs)
    | _, _ => (none, bs)

theorem length_tails (n k : Nat) (bs : List UInt8) : (tails n k bs).2.length ≤ bs.length := by
  induction n generalizing k bs with
  | zero => simp [tails]
  | succ n ih =>
    cases bs with
    | nil => simp [tails]
    | cons b bs =>
      by_cases h : isTail b.toNat
      · have := ih (k * 64 + b.toNat % 64) bs
        simp only [tails, h, ↓reduceIte, List.length_cons]
        omega
      · simp [tails, h]

theorem length_unit (b : UInt8) (bs : List UInt8) : (unit b bs).2.length ≤ bs.length := by
  simp only [unit]
  split
  · simp
  · split
    · rename_i n lo hi b' bs' _
      split
      · have := length_tails (n - 1) (b.toNat % 1 <<< (6 - n) * 64 + b'.toNat % 64) bs'
        simp only [List.length_cons]
        omega
      · simp
    · simp

/-- The units of octets; a broken one is none. -/
def units : List UInt8 → List (Option Char)
  | [] => []
  | b :: bs => (unit b bs).1 :: units (unit b bs).2
termination_by bs => bs.length
decreasing_by
  have := length_unit b bs
  simp only [List.length_cons]
  omega

/-- The text of octets without a broken unit. -/
def decode? (bs : List UInt8) : Option String :=
  let us := units bs
  if us.all (·.isSome) then some (String.ofList (us.filterMap id)) else none

/-- The text of octets, each broken unit shown as U+FFFD. -/
def decodeLossy (bs : List UInt8) : String :=
  String.ofList ((units bs).map (·.getD '\uFFFD'))

end VcpuPinning.Text.Utf8
