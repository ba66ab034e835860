import VcpuPinning.Proofs.Json.Records

/-!
# Faithful documents

A way to write values and to read them is `Faithful` if every value is read back from its document,
also after the document was sent as text (`Faithful.read_sent`). Numbers, texts, lists, values that
may be missing and maps from numbers are written faithfully, and maps from texts with their members
in any order; a record is if its fields are. The text of a record is at least as long as that of
each field (`length_render_le_record`).
-/

namespace VcpuPinning.Json

variable {α β : Type}

/-- Values are written as documents that have a text, and are read back from them. -/
structure Faithful (write : α → Json) (read : Json → Option α) : Prop where
  spelled : ∀ a, Spelled (write a)
  read_write : ∀ a, read (write a) = some a

namespace Faithful

variable {write : α → Json} {read : Json → Option α}

/-- A value that is sent as text arrives. -/
theorem read_sent (h : Faithful write read) (a : α) :
    (parse? (write a).toText).bind read = some a := by
  rw [parse?_toText (h.spelled a), Option.bind_some, h.read_write]

/-! ## Simple values -/

theorem text : Faithful text toString? :=
  ⟨spelled_text, toString?_text⟩

theorem bool : Faithful Json.bool toBool? :=
  ⟨.bool, fun _ => rfl⟩

theorem uint32 : Faithful (fun n : UInt32 => nat n.toNat) toUInt32? := by
  refine ⟨fun n => spelled_nat _, fun n => ?_⟩
  have h : n.toNat ≤ Text.Numeral.max32 := Nat.le_sub_one_of_lt n.toNat_lt
  simp [toUInt32?, toNat?, nat, h]

/-- Values with words of their own. -/
theorem tag {word : α → String} {ofWord? : String → Option α}
    (h : ∀ a, ofWord? (word a) = some a) :
    Faithful (fun a => Json.text (word a)) (toTag? ofWord?) :=
  ⟨fun _ => spelled_text _, fun a => by rw [toTag?_text, h]⟩

/-! ## Lists and missing values -/

theorem list (h : Faithful write read) : Faithful (ofList write) (toList? read) where
  spelled as := .array fun j hj => by
    obtain ⟨a, -, rfl⟩ := List.mem_map.1 hj
    exact h.spelled a
  read_write as := by
    have hall : all? read (as.map write) = some (as.map id) := all?_map fun a _ => h.read_write a
    rw [ofList, toList?, hall, List.map_id]

/-- A value may be missing if none is written like a missing one. -/
theorem option (h : Faithful write read) (hn : ∀ a, write a ≠ .null) :
    Faithful (ofOption write) (toOption? read) where
  spelled := spelled_ofOption h.spelled
  read_write o := by
    cases o with
    | none => rfl
    | some a =>
      rw [ofOption, toOption?, h.read_write, Option.map_some]
      exact hn a

/-! ## Maps from numbers -/

theorem escapeChar_of_isDigit {c : Char} (h : c.isDigit) : escapeChar c = [c] := by
  have hne (d : Char) (hd : d.isDigit = false) : c ≠ d := by
    rintro rfl
    exact absurd (h.symm.trans hd) (by decide)
  have hn : ¬ c.toNat < 0x20 := by
    simp only [Char.isDigit, Bool.and_eq_true, decide_eq_true_eq] at h
    exact Nat.not_lt.2 (Nat.le_trans (by decide) (UInt32.le_iff_toNat_le.1 h.1))
  rw [escapeChar, if_neg (hne _ rfl), if_neg (hne _ rfl), if_neg (hne _ rfl), if_neg (hne _ rfl),
    if_neg (hne _ rfl), if_neg (hne _ rfl), if_neg (hne _ rfl), if_neg hn]

/-- A numeral is spelled as it is. -/
theorem escape_numeral (n : ℕ) : escape (Text.Numeral.text n) = Text.Numeral.text n := by
  have hm : (Text.Numeral.text n).map escapeChar = (Text.Numeral.text n).map fun c => [c] :=
    List.map_congr_left fun c hc =>
      escapeChar_of_isDigit (Text.Numeral.isDigit_of_mem_text hc)
  rw [escape, List.flatMap_def, hm, ← List.flatMap_def, List.flatMap_singleton']

theorem keyNumber?_numeral (n : UInt32) : keyNumber? (Text.Numeral.text n.toNat) = some n := by
  have h : n.toNat ≤ Text.Numeral.max32 := Nat.le_sub_one_of_lt n.toNat_lt
  have hz : ¬ ((Text.Numeral.text n.toNat).length ≠ 1 ∧
      (Text.Numeral.text n.toNat).head? = some '0') := by
    rintro ⟨hl, hh⟩
    rcases Nat.eq_zero_or_pos n.toNat with h0 | hpos
    · rw [h0] at hl
      exact hl rfl
    · exact head?_text_ne_zero hpos hh
  rw [keyNumber?, if_neg hz, Text.Numeral.digits_text]
  simp [h]

theorem numberMap (h : Faithful write read) : Faithful (ofNumberMap write) (toNumberMap? read) where
  spelled m := by
    refine .object (fun e he => ?_) fun e he => ?_
    · obtain ⟨⟨k, a⟩, -, rfl⟩ := List.mem_map.1 he
      exact ⟨_, (escape_numeral k.toNat).symm⟩
    · obtain ⟨⟨k, a⟩, -, rfl⟩ := List.mem_map.1 he
      exact h.spelled a
  read_write m := by
    have hall : all? (member? keyNumber? read)
        (m.entries.map fun e => (Text.Numeral.text e.1.toNat, write e.2)) =
        some (m.entries.map id) :=
      all?_map fun e _ => by simp [member?, keyNumber?_numeral, h.read_write]
    rw [List.map_id] at hall
    refine (congrArg (Option.map SortedMap.ofList) hall).trans ?_
    rw [Option.map_some, SortedMap.ofList_entries]

/-! ## Maps from texts -/

/-- A map from texts is read back whatever the order of its members. -/
theorem toTextMap?_of_perm (h : Faithful write read) {m : SortedMap String α}
    {es : List (String × α)} (hp : es.Perm m.entries) :
    toTextMap? read (obj (es.map fun e => (e.1, write e.2))) = some m := by
  have hall : all? (member? keyText? read)
      (es.map fun e => (escape e.1.toList, write e.2)) = some (es.map id) :=
    all?_map fun e _ => by simp [member?, keyText?_escape, h.read_write]
  rw [List.map_id] at hall
  rw [obj, List.map_map]
  refine (congrArg (Option.map SortedMap.ofList) hall).trans ?_
  rw [Option.map_some, SortedMap.ofList_of_perm hp]

theorem spelled_members (h : Faithful write read) (es : List (String × α)) :
    Spelled (obj (es.map fun e => (e.1, write e.2))) :=
  spelled_obj fun m hm => by
    obtain ⟨e, -, rfl⟩ := List.mem_map.1 hm
    exact h.spelled e.2

end Faithful

/-! ## Records -/

/-- A record is faithful if each of its fields is found in its place. -/
theorem Faithful.record {names : List String} {fields : α → List (Option Json)}
    {build : Slots → Option α} (nodup : names.Nodup)
    (length : ∀ a, (fields a).length = names.length) (spelled : ∀ a, FieldsSpelled (fields a))
    (built : ∀ a, build ⟨false, fields a⟩ = some a) :
    Faithful (fun a => Json.record names (fields a)) fun j => toSlots? names j >>= build where
  spelled a := (spelled a).record
  read_write a := by
    rw [toSlots?_record nodup (length a)]
    exact built a

theorem record_ne_null (names : List String) (values : List (Option Json)) :
    record names values ≠ .null :=
  nofun

/-- An object with one member is read by its name. -/
theorem toVariant?_obj (variant : String → Json → Option α) (name : String) (j : Json) :
    toVariant? variant (obj [(name, j)]) = variant name j := by
  simp only [toVariant?, obj, List.map_cons, List.map_nil, keyText?_escape, Option.bind_some]

/-! ## Lengths -/

theorem length_le_utf8ByteSize (cs : List Char) :
    cs.length ≤ (String.ofList cs).utf8ByteSize := by
  induction cs with
  | nil => exact Nat.zero_le _
  | cons c cs ih =>
    rw [String.ofList_cons, String.utf8ByteSize_append, String.utf8ByteSize_singleton,
      List.length_cons]
    have hc := c.utf8Size_pos
    omega

theorem length_le_escape (cs : List Char) : cs.length ≤ (escape cs).length := by
  induction cs with
  | nil => exact Nat.zero_le _
  | cons c cs ih =>
    have hc : 0 < (escapeChar c).length := by
      refine List.length_pos_iff.2 ?_
      unfold escapeChar
      split_ifs <;> simp
    rw [escape, List.flatMap_cons, List.length_append, ← escape, List.length_cons]
    omega

/-- A written text is longer than the text, by its quotes at least. -/
theorem length_lt_render_text (s : String) : s.length < (render (text s)).length := by
  have h := length_le_escape s.toList
  rw [String.length_toList] at h
  simp only [text, render, quote, List.length_cons, List.length_append, List.length_nil]
  omega

theorem length_render_le_members {ms : List (List Char × Json)} {m : List Char × Json}
    (h : m ∈ ms) : (render m.2).length ≤ (renderMembers ms).length := by
  induction ms with
  | nil => simp at h
  | cons n ms ih =>
    simp only [renderMembers, List.length_cons, List.length_append]
    rcases List.mem_cons.1 h with rfl | h
    · omega
    · have := ih h
      omega

theorem length_renderMembers_le (ms : List (List Char × Json)) :
    (renderMembers ms).length ≤ (render (.object ms)).length := by
  cases ms with
  | nil => decide
  | cons m ms => simp [renderMembers, render]

/-- A record is at least as long as each of its fields. -/
theorem length_render_le_record {names : List String} {values : List (Option Json)}
    {name : String} {j : Json} (h : (name, some j) ∈ names.zip values) :
    (render j).length ≤ (render (record names values)).length := by
  have hm : (escape name.toList, j) ∈
      (named names values).map fun m : String × Json => (escape m.1.toList, m.2) :=
    List.mem_map.2 ⟨(name, j), List.mem_filterMap.2 ⟨_, h, rfl⟩, rfl⟩
  exact Nat.le_trans (length_render_le_members hm) (length_renderMembers_le _)

end VcpuPinning.Json
