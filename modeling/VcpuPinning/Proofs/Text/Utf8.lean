import Mathlib.Data.Nat.Notation
import Mathlib.Tactic.SplitIfs
import VcpuPinning.Text.Utf8

/-!
# Text as octets

`encode` writes a text as octets, and `decodeLossy_encode` reads it back : the octets of a character
are one unit (`unit_append`), whether they are one, two, three or four. The order of texts is that of
their octets (`encode_lt_encode_iff`).
-/

namespace VcpuPinning.Text.Utf8

/-- The octets of a text. -/
def encode (s : String) : List UInt8 :=
  s.toList.flatMap String.utf8EncodeChar

/-! ## Octets of one character -/

/-- The unit that an octet starts which other octets follow. -/
theorem unit_of_follow {b b' n lo hi : ℕ} (hb : 0x80 ≤ b) (hb' : b < 256)
    (hf : follow b = some (n, lo, hi)) (hlo : lo ≤ b') (hhi : b' ≤ hi) (hmax : b' < 256)
    (bs : List UInt8) : unit (.ofNat b) (.ofNat b' :: bs) =
      ((tails (n - 1) (b % 1 <<< (6 - n) * 64 + b' % 64) bs).1.map Char.ofNat,
        (tails (n - 1) (b % 1 <<< (6 - n) * 64 + b' % 64) bs).2) := by
  simp only [unit, UInt8.toNat_ofNat_of_lt' hb', UInt8.toNat_ofNat_of_lt' hmax,
    if_neg (Nat.not_lt.2 hb), hf, hlo, hhi, and_self, ↓reduceIte]

theorem tails_cons {b : ℕ} (h : 0x80 ≤ b) (h' : b ≤ 0xBF) (n k : ℕ) (bs : List UInt8) :
    tails (n + 1) k (.ofNat b :: bs) = tails n (k * 64 + b % 64) bs := by
  have hb : (UInt8.ofNat b).toNat = b :=
    UInt8.toNat_ofNat_of_lt' (Nat.lt_of_le_of_lt h' (by decide))
  rw [tails, if_pos (by simp [isTail, hb, h, h']), hb]

theorem follow_two {v : ℕ} (h : 0x7F < v) (h' : v ≤ 0x7FF) :
    follow (v / 64 % 32 + 192) = some (1, 0x80, 0xBF) := by
  rw [follow, if_pos (by omega)]

/-- The second of three octets lies in a range that depends on the first one, so that no number is
written with more octets than it needs, and none of a pair is written at all. -/
theorem follow_three {v : ℕ} (h : 0x7FF < v) (h' : v ≤ 0xFFFF)
    (single : v < 0xD800 ∨ 0xDFFF < v) : ∃ lo hi, follow (v / 4096 % 16 + 224) = some (2, lo, hi) ∧
      lo ≤ v / 64 % 64 + 128 ∧ v / 64 % 64 + 128 ≤ hi := by
  unfold follow
  split_ifs
  · omega
  · exact ⟨0xA0, 0xBF, rfl, by omega, by omega⟩
  · exact ⟨0x80, 0x9F, rfl, by omega, by omega⟩
  · exact ⟨0x80, 0xBF, rfl, by omega, by omega⟩
  all_goals omega

/-- The second of four octets lies in a range that depends on the first one. -/
theorem follow_four {v : ℕ} (h : 0xFFFF < v) (h' : v < 0x110000) :
    ∃ lo hi, follow (v / 262144 % 8 + 240) = some (3, lo, hi) ∧
      lo ≤ v / 4096 % 64 + 128 ∧ v / 4096 % 64 + 128 ≤ hi := by
  unfold follow
  split_ifs
  any_goals omega
  · exact ⟨0x90, 0xBF, rfl, by omega, by omega⟩
  · exact ⟨0x80, 0xBF, rfl, by omega, by omega⟩
  · exact ⟨0x80, 0x8F, rfl, by omega, by omega⟩

/-- The octets of a character are one unit. -/
theorem unit_append (c : Char) (bs : List UInt8) : ∃ b bs', String.utf8EncodeChar c = b :: bs' ∧
    unit b (bs' ++ bs) = (some c, bs) := by
  obtain ⟨v, hv⟩ : ∃ v, v = c.val.toNat := ⟨_, rfl⟩
  have hc : Char.ofNat v = c := hv ▸ Char.ofNat_toNat c
  have hvalid : v < 0xD800 ∨ 0xDFFF < v ∧ v < 0x110000 := hv ▸ c.valid
  unfold String.utf8EncodeChar
  simp only [← hv]
  split_ifs with h1 h2 h3
  · refine ⟨_, _, rfl, ?_⟩
    have hb : (UInt8.ofNat v).toNat = v :=
      UInt8.toNat_ofNat_of_lt' (Nat.lt_of_le_of_lt h1 (by decide))
    unfold unit
    rw [hb, if_pos (by omega), hc]
    rfl
  · refine ⟨_, _, rfl, ?_⟩
    have hk : (v / 64 % 32 + 192) % 1 <<< (6 - 1) * 64 + (v % 64 + 128) % 64 = v := by simp; omega
    rw [List.cons_append, unit_of_follow (by omega) (by omega) (follow_two (by omega) h2)
      (by omega) (by omega) (by omega), hk, tails, Option.map_some, hc]
    rfl
  · refine ⟨_, _, rfl, ?_⟩
    obtain ⟨lo, hi, hf, hlo, hhi⟩ := follow_three (Nat.lt_of_not_le h2) h3 (by omega)
    have hk : ((v / 4096 % 16 + 224) % 1 <<< (6 - 2) * 64 + (v / 64 % 64 + 128) % 64) * 64 +
        (v % 64 + 128) % 64 = v := by simp; omega
    rw [List.cons_append, List.cons_append, unit_of_follow (by omega) (by omega) hf hlo hhi
      (by omega), tails_cons (by omega) (by omega), hk, tails, Option.map_some, hc]
    rfl
  · refine ⟨_, _, rfl, ?_⟩
    obtain ⟨lo, hi, hf, hlo, hhi⟩ := follow_four (Nat.lt_of_not_le h3) (by omega)
    have hk : (((v / 262144 % 8 + 240) % 1 <<< (6 - 3) * 64 + (v / 4096 % 64 + 128) % 64) * 64 +
        (v / 64 % 64 + 128) % 64) * 64 + (v % 64 + 128) % 64 = v := by simp; omega
    rw [List.cons_append, List.cons_append, List.cons_append,
      unit_of_follow (by omega) (by omega) hf hlo hhi (by omega),
      tails_cons (by omega) (by omega), tails_cons (by omega) (by omega), hk, tails,
      Option.map_some, hc]
    rfl

/-! ## Texts -/

theorem units_append (c : Char) (bs : List UInt8) :
    units (String.utf8EncodeChar c ++ bs) = some c :: units bs := by
  obtain ⟨b, bs', hb, hu⟩ := unit_append c bs
  rw [hb, List.cons_append, units, hu]

theorem units_encode (cs : List Char) :
    units (cs.flatMap String.utf8EncodeChar) = cs.map some := by
  induction cs with
  | nil => rw [List.flatMap_nil, units]; rfl
  | cons c cs ih => rw [List.flatMap_cons, units_append, ih, List.map_cons]

/-- A text is read back from its octets. -/
@[simp] theorem decodeLossy_encode (s : String) : decodeLossy (encode s) = s := by
  rw [decodeLossy, encode, units_encode, List.map_map]
  simp [Function.comp_def]

/-! ## Order -/

theorem ofNat_cons_lt_iff {v w : ℕ} (hv : v < 256) (hw : w < 256) {bs bs' : List UInt8} :
    UInt8.ofNat v :: bs < UInt8.ofNat w :: bs' ↔ v < w ∨ v = w ∧ bs < bs' := by
  rw [List.cons_lt_cons_iff, UInt8.lt_iff_toNat_lt, ← UInt8.toNat_inj,
    UInt8.toNat_ofNat_of_lt' hv, UInt8.toNat_ofNat_of_lt' hw]

/-- The octets of the lower one of two characters come first, whatever follows. -/
theorem utf8EncodeChar_append_lt {c d : Char} (h : c < d) (bs bs' : List UInt8) :
    String.utf8EncodeChar c ++ bs < String.utf8EncodeChar d ++ bs' := by
  obtain ⟨v, hv⟩ : ∃ v, v = c.val.toNat := ⟨_, rfl⟩
  obtain ⟨w, hw⟩ : ∃ w, w = d.val.toNat := ⟨_, rfl⟩
  have hlt : v < w := hv ▸ hw ▸ h
  have hvalid : w < 0xD800 ∨ 0xDFFF < w ∧ w < 0x110000 := hw ▸ d.valid
  unfold String.utf8EncodeChar
  simp only [← hv, ← hw]
  split_ifs <;>
    simp (disch := omega) only [List.cons_append, List.nil_append, ofNat_cons_lt_iff]
  -- unless both have four octets the first octets differ, or the two numbers are small
  any_goals omega
  have hsplit : v / 64 < w / 64 ∨ v / 64 = w / 64 ∧ v % 64 < w % 64 := by omega
  have hv' : v / 262144 = v / 64 / 4096 ∧ v / 4096 = v / 64 / 64 := by omega
  have hw' : w / 262144 = w / 64 / 4096 ∧ w / 4096 = w / 64 / 64 := by omega
  have hmax : w / 64 < 32768 := by omega
  rw [hv'.1, hv'.2, hw'.1, hw'.2]
  generalize v / 64 = x at *
  generalize w / 64 = y at *
  clear hv hw hvalid hlt hv' hw'
  rcases hsplit with hxy | ⟨rfl, hl⟩
  · omega
  · simp [hl]

theorem append_lt_append_iff {bs cs ds : List UInt8} : bs ++ cs < bs ++ ds ↔ cs < ds := by
  induction bs with
  | nil => rfl
  | cons b bs ih => simp [ih]

theorem flatMap_utf8EncodeChar_lt_iff {cs ds : List Char} :
    cs.flatMap String.utf8EncodeChar < ds.flatMap String.utf8EncodeChar ↔ cs < ds := by
  induction cs generalizing ds with
  | nil =>
    cases ds with
    | nil => simp
    | cons d ds =>
      obtain ⟨b, bs, hb, -⟩ := unit_append d []
      simp [hb]
  | cons c cs ih =>
    cases ds with
    | nil => simp
    | cons d ds =>
      rw [List.flatMap_cons, List.flatMap_cons, List.cons_lt_cons_iff]
      rcases Std.lt_trichotomy c d with h | rfl | h
      · exact iff_of_true (utf8EncodeChar_append_lt h _ _) (.inl h)
      · simp [append_lt_append_iff, ih]
      · refine iff_of_false (List.lt_asymm (utf8EncodeChar_append_lt h _ _)) ?_
        rintro (hc | ⟨rfl, -⟩)
        · exact Char.lt_asymm h hc
        · exact Char.lt_asymm h h

/-- Texts are ordered as their octets are. -/
theorem encode_lt_encode_iff {s t : String} : encode s < encode t ↔ s < t := by
  rw [encode, encode, flatMap_utf8EncodeChar_lt_iff, String.lt_iff]

end VcpuPinning.Text.Utf8
