import VcpuPinning.Mapping
import VcpuPinning.Proofs.Json.RoundTrip

/-!
# Records in documents

`Mapping.ofJson?_toJson` : a mapping is read back from the document that it is written as. The law
of a record follows from those of its fields, since `toSlots?_record` finds each field under its
name.
-/

namespace VcpuPinning

namespace Json

variable {α : Type}

/-! ## Simple values -/

theorem spelled_text (s : String) : Spelled (text s) :=
  .string s.toList

theorem spelled_nat (n : ℕ) : Spelled (nat n) :=
  .number n

theorem spelled_ofOption {f : α → Json} (hf : ∀ a, Spelled (f a)) :
    ∀ o : Option α, Spelled (ofOption f o)
  | none => .null
  | some a => hf a

@[simp] theorem toString?_text (s : String) : toString? (text s) = some s := by
  simp [toString?, text]

@[simp] theorem toUInt64?_nat (n : UInt64) : toUInt64? (nat n.toNat) = some n := by
  have h : n.toNat ≤ Text.Numeral.max64 := Nat.le_sub_one_of_lt n.toNat_lt
  simp [toUInt64?, toNat?, nat, h]

@[simp] theorem toTag?_text (tag : String → Option α) (w : String) :
    toTag? tag (text w) = tag w := by
  simp [toTag?, toTagIn?, text, keyText?]

@[simp] theorem toOption?_text (o : Option String) :
    toOption? toString? (ofOption text o) = some o := by
  cases o with
  | none => rfl
  | some s => exact congrArg (Option.map some) (toString?_text s)

/-! ## Records -/

theorem keyText?_escape (s : String) : keyText? (escape s.toList) = some s := by
  simp [keyText?]

theorem spelled_obj {ms : List (String × Json)} (h : ∀ m ∈ ms, Spelled m.2) :
    Spelled (obj ms) := by
  refine .object (fun m hm => ?_) fun m hm => ?_
  · obtain ⟨⟨k, j⟩, -, rfl⟩ := List.mem_map.1 hm
    exact ⟨k.toList, rfl⟩
  · obtain ⟨⟨k, j⟩, hj, rfl⟩ := List.mem_map.1 hm
    exact h _ hj

/-- The fields of a record that are there, each with its name. -/
def named (names : List String) (values : List (Option Json)) : List (String × Json) :=
  (names.zip values).filterMap fun (name, value) => value.map fun j => (name, j)

theorem spelled_record {names : List String} {values : List (Option Json)}
    (h : ∀ v ∈ values, ∀ j ∈ v, Spelled j) : Spelled (record names values) := by
  refine spelled_obj fun m hm => ?_
  obtain ⟨⟨name, value⟩, hz, hv⟩ := List.mem_filterMap.1 hm
  obtain ⟨j, hj, rfl⟩ := Option.map_eq_some_iff.1 hv
  exact h value (List.of_mem_zip hz).2 j hj

/-- The fields that are there have a text. -/
def FieldsSpelled (values : List (Option Json)) : Prop :=
  ∀ v ∈ values, ∀ j ∈ v, Spelled j

namespace FieldsSpelled

variable {j : Json} {values : List (Option Json)}

theorem nil : FieldsSpelled [] :=
  nofun

theorem cons {v : Option Json} (hv : ∀ j ∈ v, Spelled j) (hvs : FieldsSpelled values) :
    FieldsSpelled (v :: values) :=
  List.forall_mem_cons.2 ⟨hv, hvs⟩

theorem field (hj : Spelled j) (hvs : FieldsSpelled values) : FieldsSpelled (some j :: values) :=
  cons (by rintro _ ⟨⟩; exact hj) hvs

theorem record {names : List String} (h : FieldsSpelled values) : Spelled (record names values) :=
  spelled_record h

end FieldsSpelled

theorem named_cons (name : String) (names : List String) (value : Option Json)
    (values : List (Option Json)) :
    named (name :: names) (value :: values) =
      (value.map fun j => (name, j)).toList ++ named names values := by
  cases value <;> rfl

theorem fst_mem_of_mem_named {names : List String} {values : List (Option Json)}
    {m : String × Json} (h : m ∈ named names values) : m.1 ∈ names := by
  obtain ⟨⟨name, value⟩, hz, hv⟩ := List.mem_filterMap.1 h
  obtain ⟨j, -, rfl⟩ := Option.map_eq_some_iff.1 hv
  exact (List.of_mem_zip hz).1

theorem slot?_append_of_ne {ms : List (String × Json)} {name : String}
    (h : ∀ m ∈ ms, m.1 ≠ name) (ms' : List (String × Json)) :
    slot? (ms ++ ms') name = slot? ms' name := by
  have hf : ms.filter (·.1 = name) = [] := by simpa [List.filter_eq_nil_iff] using h
  rw [slot?, slot?, List.filter_append, hf, List.nil_append]

theorem slot?_named_self {name : String} {names : List String} (h : name ∉ names)
    (value : Option Json) (values : List (Option Json)) :
    slot? (named (name :: names) (value :: values)) name = some value := by
  have hf : (named names values).filter (·.1 = name) = [] := by
    refine List.filter_eq_nil_iff.2 fun m hm => ?_
    simp only [decide_eq_true_eq]
    rintro rfl
    exact h (fst_mem_of_mem_named hm)
  rw [slot?, named_cons, List.filter_append, hf]
  cases value <;> simp

theorem all?_congr {β γ : Type} {f g : β → Option γ} {bs : List β} (h : ∀ b ∈ bs, f b = g b) :
    all? f bs = all? g bs := by
  induction bs with
  | nil => rfl
  | cons b bs ih => simp [all?, h b (by simp), ih fun c hc => h c (by simp [hc])]

theorem all?_slot?_named {names : List String} (hn : names.Nodup) :
    ∀ {values : List (Option Json)}, values.length = names.length →
      all? (slot? (named names values)) names = some values := by
  induction names with
  | nil =>
    intro values hl
    rw [List.length_eq_zero_iff.1 hl]
    rfl
  | cons name names ih =>
    rintro (_ | ⟨value, values⟩) hl
    · simp at hl
    obtain ⟨hname, hn⟩ := List.nodup_cons.1 hn
    have hrest : ∀ n ∈ names,
        slot? (named (name :: names) (value :: values)) n = slot? (named names values) n := by
      intro n hm
      rw [named_cons]
      refine slot?_append_of_ne (fun m hv => ?_) _
      obtain ⟨j, -, rfl⟩ := Option.map_eq_some_iff.1 (Option.mem_toList.1 hv)
      rintro rfl
      exact hname hm
    simp [all?, slot?_named_self hname, all?_congr hrest, ih hn (by simpa using hl)]

/-- The fields of a written record are found under their names. -/
theorem toSlots?_record {names : List String} (hn : names.Nodup) {values : List (Option Json)}
    (hl : values.length = names.length) :
    toSlots? names (record names values) = some ⟨false, values⟩ := by
  have hm : all? (member? keyText? some)
      ((named names values).map fun m : String × Json => (escape m.1.toList, m.2)) =
      some ((named names values).map id) :=
    all?_map fun m _ => by simp [member?, keyText?_escape]
  have hs := all?_slot?_named hn hl
  rw [List.map_id] at hm
  rw [toSlots?, record, obj, toSlotsIn?]
  unfold named at hm hs
  simp [hm, hs]

end Json

/-! ## Mappings -/

namespace Mapping

theorem spelled_toJson (m : Mapping) : m.toJson.Spelled := by
  have hoption (o : Option String) : (Json.ofOption Json.text o).Spelled :=
    Json.spelled_ofOption Json.spelled_text o
  exact Json.FieldsSpelled.record <|
    .field (Json.spelled_nat _) <| .field (Json.spelled_text _) <| .field (hoption _) <|
    .field (hoption _) <| .field (hoption _) <| .field (Json.spelled_text _) <|
    .field (Json.spelled_text _) <| .field (hoption _) <| .field (Json.spelled_nat _) <|
    .field (Json.spelled_nat _) .nil

theorem ofJson?_status (s : Status) : Status.ofJson? (Json.text s.word) = some s := by
  simp [Status.ofJson?]

/-- A mapping is read back from its document. -/
theorem ofJson?_toJson (m : Mapping) : ofJson? m.toJson = some m := by
  have hn : fieldNames.Nodup := by decide
  rw [ofJson?, toJson, Json.toSlots?_record hn rfl]
  simp [Json.Slots.required, Json.Slots.optional, Json.Slots.nullable, Json.Slots.defaulted,
    Json.Slots.get, ofJson?_status]

end Mapping

end VcpuPinning
