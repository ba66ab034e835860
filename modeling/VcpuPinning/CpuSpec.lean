import VcpuPinning.CpuSet
import VcpuPinning.Text.Blank
import VcpuPinning.Text.Lines
import VcpuPinning.Text.Quoted

/-!
# CPU specifications

A specification is a list of clauses separated by commas and read from left to right, each
surrounded by any white space: `n` selects CPU `n`, `a-b` selects the CPUs from `a` to `b`, and
`^n` deselects CPU `n`. `compile` turns a specification into a `CpuSet` for a host of a given
width, starting with no CPU selected; `validate` checks what can be checked without a host.
-/

namespace VcpuPinning

/-- Why a specification is refused. -/
inductive SpecError.Reason where
  /-- An index is no numeral, or the clause has another shape. -/
  | malformed
  /-- An index is not below the host's number of CPUs. -/
  | outOfRange
  /-- The upper bound of a range is below its lower bound. -/
  | reversedRange
  /-- No CPU is selected in the end. -/
  | empty
  deriving DecidableEq, Repr

/-- A refused specification, with the clause at fault. -/
structure SpecError where
  /-- The trimmed clause, or the whole trimmed specification if it selects nothing. -/
  clause : String
  /-- What is wrong with it. -/
  reason : SpecError.Reason
  deriving DecidableEq, Repr

namespace SpecError

/-- The word for a reason. -/
def Reason.word : Reason → String
  | .malformed => "malformed"
  | .outOfRange => "out_of_range"
  | .reversedRange => "reversed_range"
  | .empty => "empty"

/-- Every reason. -/
def Reason.all : List Reason :=
  [.malformed, .outOfRange, .reversedRange, .empty]

/-- The message of a refused specification. -/
def message (e : SpecError) : String :=
  "invalid cpu specification: clause " ++ Text.quoted e.clause ++ " is " ++ e.reason.word

end SpecError

namespace CpuSpec

/-- One clause of a specification. -/
inductive Clause where
  | select (cpu : Nat)
  | range (lo hi : Nat)
  | deselect (cpu : Nat)
  deriving DecidableEq, Repr

/-- A CPU number: a numeral between blanks. Numerals above the largest number of 64 bits count as
that number. -/
def index? (cs : List Char) : Option Nat :=
  (Text.Numeral.digits (Text.trim cs)).map (min Text.Numeral.max64)

/-- The clause that a trimmed text denotes. A range is cut at its first hyphen. -/
def Clause.read (text : List Char) : Option Clause :=
  match text with
  | '^' :: rest => (index? rest).map .deselect
  | _ =>
    match Text.cut (· == '-') text with
    | some (lo, hi) =>
      match index? lo, index? hi with
      | some lo, some hi => some (.range lo hi)
      | _, _ => none
    | none => (index? text).map .select

/-- What keeps a clause from being carried out on a host with `total` CPUs. -/
def Clause.fault (total : Nat) : Clause → Option SpecError.Reason
  | .select cpu => if cpu < total then none else some .outOfRange
  | .deselect cpu => if cpu < total then none else some .outOfRange
  | .range lo hi =>
    if lo < total ∧ hi < total then
      if hi < lo then some .reversedRange else none
    else some .outOfRange

/-- What is wrong with a clause on every host. -/
def Clause.shapeFault : Clause → Option SpecError.Reason
  | .range lo hi => if hi < lo then some .reversedRange else none
  | _ => none

/-- The set after a clause. -/
def Clause.apply (s : CpuSet) : Clause → CpuSet
  | .select cpu => s.assign cpu cpu true
  | .range lo hi => s.assign lo hi true
  | .deselect cpu => s.assign cpu cpu false

/-- The trimmed clauses of a specification. -/
def clauses (spec : String) : List (List Char) :=
  (Text.pieces ',' spec.toList).map Text.trim

/-- Read a clause and judge it by a rule; a refusal names the clause. -/
def judge (rule : Clause → Option SpecError.Reason) (text : List Char) : Except SpecError Clause :=
  match Clause.read text with
  | none => .error ⟨String.ofList text, .malformed⟩
  | some clause =>
    match rule clause with
    | some reason => .error ⟨String.ofList text, reason⟩
    | none => .ok clause

/-- Carry out clauses one after the other, up to the first that is refused. -/
def carryOut (total : Nat) : CpuSet → List (List Char) → Except SpecError CpuSet
  | s, [] => .ok s
  | s, text :: texts =>
    match judge (Clause.fault total) text with
    | .error e => .error e
    | .ok clause => carryOut total (clause.apply s) texts

/-- The first clause that no host can carry out. -/
def checkAll : List (List Char) → Except SpecError Unit
  | [] => .ok ()
  | text :: texts =>
    match judge Clause.shapeFault text with
    | .error e => .error e
    | .ok _ => checkAll texts

/-- Check a specification without knowing the host: every clause can be read and no range is
reversed. -/
def validate (spec : String) : Except SpecError Unit :=
  checkAll (clauses spec)

/-- The set that a specification denotes on a host with `total` CPUs. -/
def compile (spec : String) (total : Nat) : Except SpecError CpuSet :=
  match carryOut total (.cleared total) (clauses spec) with
  | .error e => .error e
  | .ok s =>
    if s.count = 0 then .error ⟨String.ofList (Text.trim spec.toList), .empty⟩ else .ok s

theorem width_apply (s : CpuSet) (clause : Clause) : (clause.apply s).width = s.width := by
  cases clause <;> simp [Clause.apply]

/-- Carrying out clauses keeps the width. -/
theorem width_of_carryOut {total : Nat} {s s' : CpuSet} {texts : List (List Char)}
    (h : carryOut total s texts = .ok s') : s'.width = s.width := by
  induction texts generalizing s with
  | nil => simp [carryOut] at h; rw [h]
  | cons text texts ih =>
    simp only [carryOut] at h
    split at h
    · exact absurd h (by simp)
    · rw [ih h, width_apply]

/-- A compiled set has the host's width and selects a CPU. -/
theorem width_of_compile {spec : String} {total : Nat} {s : CpuSet}
    (h : compile spec total = .ok s) : s.width = total ∧ s.count ≠ 0 := by
  simp only [compile] at h
  split at h
  · exact absurd h (by simp)
  · rename_i s' hs
    split at h
    · exact absurd h (by simp)
    · rename_i hc
      obtain rfl : s' = s := by simpa using h
      exact ⟨by rw [width_of_carryOut hs, CpuSet.width_cleared], hc⟩

end CpuSpec

end VcpuPinning
