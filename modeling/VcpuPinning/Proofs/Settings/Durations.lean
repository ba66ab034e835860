import Mathlib.Data.List.Basic
import VcpuPinning.Settings

/-!
# Usable durations

`Denotes` is the grammar of durations: between blanks, a number of 64 bits and a unit or none. A
duration is read exactly from the texts of the grammar (`Duration.read?_eq_some_iff`), where the
suffixes overlap only in texts that end in `ms`. Settings hold four durations, which are checked in
order before the trigger key (`Settings.validate_eq`). The main statement is
`Settings.durations_read_exactly`.
-/

namespace VcpuPinning

namespace Text

theorem dropTail_eq_some_iff {tail cs body : List Char} :
    dropTail tail cs = some body ↔ cs = body ++ tail := by
  unfold dropTail
  constructor
  · intro h
    split at h
    · rename_i hs
      obtain ⟨front, rfl⟩ := List.isSuffixOf_iff_suffix.1 hs
      simpa using h
    · exact nomatch h
  · rintro rfl
    rw [if_pos (List.isSuffixOf_iff_suffix.2 (List.suffix_append body tail))]
    simp

/-- A text that ends in another character does not have the tail. -/
theorem dropTail_concat_of_ne {c d : Char} (h : d ≠ c) (cs : List Char) :
    dropTail [c] (cs ++ [d]) = none := by
  rw [Option.eq_none_iff_forall_ne_some]
  intro body hbody
  have hlast := congrArg List.getLast? (dropTail_eq_some_iff.1 hbody)
  rw [List.getLast?_concat, List.getLast?_concat] at hlast
  exact h (Option.some.inj hlast)

end Text

/-! ## The grammar of durations -/

/-- A number of 64 bits: one or more ASCII digits, after a plus sign or without one. -/
def Number64 (cs : List Char) (n : ℕ) : Prop :=
  n < UInt64.size ∧ ∃ ds, (cs = ds ∨ cs = '+' :: ds) ∧ ds ≠ [] ∧ (∀ c ∈ ds, c.isDigit) ∧
    Nat.ofDigitChars 10 ds 0 = n

theorem number64_iff {cs : List Char} {n : ℕ} :
    Text.Numeral.unsigned Text.Numeral.max64 cs = some n ↔ Number64 cs n := by
  have hlimit : n ≤ Text.Numeral.max64 ↔ n < UInt64.size := Nat.le_sub_one_iff_lt (by decide)
  simp only [Text.Numeral.unsigned_eq_some_iff, Text.Numeral.digits_eq_some_iff, hlimit, Number64]

/-- A number ends in a digit. -/
theorem Number64.exists_concat {cs : List Char} {n : ℕ} (h : Number64 cs n) :
    ∃ front d, cs = front ++ [d] ∧ d.isDigit := by
  obtain ⟨-, ds, hcs, hne, hdigits, -⟩ := h
  have hlast := hdigits _ (List.getLast_mem hne)
  have hds := (List.dropLast_concat_getLast hne).symm
  rcases hcs with rfl | rfl
  · exact ⟨_, _, hds, hlast⟩
  · exact ⟨'+' :: ds.dropLast, _, congrArg ('+' :: ·) hds, hlast⟩

/-- A number does not end in a unit. -/
theorem Number64.dropTail_eq_none {cs : List Char} {n : ℕ} (h : Number64 cs n) {c : Char}
    (hc : c.isDigit = false) : Text.dropTail [c] cs = none := by
  obtain ⟨front, d, rfl, hd⟩ := h.exists_concat
  refine Text.dropTail_concat_of_ne ?_ front
  rintro rfl
  exact Bool.false_ne_true (hc.symm.trans hd)

namespace Duration

/-- The duration of a text: a number and its unit, between blanks. The minutes have to amount to a
number of seconds of 64 bits. -/
inductive Denotes (text : String) : Duration → Prop
  | milliseconds {ds : List Char} {n : ℕ} (trimmed : Text.trim text.toList = ds ++ ['m', 's'])
      (number : Number64 ds n) : Denotes text (.ofMillis n)
  | seconds {ds : List Char} {n : ℕ} (trimmed : Text.trim text.toList = ds ++ ['s'])
      (number : Number64 ds n) : Denotes text (.ofSeconds n)
  | minutes {ds : List Char} {n : ℕ} (trimmed : Text.trim text.toList = ds ++ ['m'])
      (number : Number64 ds n) (fits : n * 60 < UInt64.size) : Denotes text (.ofSeconds (n * 60))
  | bare {n : ℕ} (number : Number64 (Text.trim text.toList) n) : Denotes text (.ofSeconds n)

theorem read?_of_denotes {text : String} {d : Duration} (h : Denotes text d) :
    read? text = some d := by
  cases h with
  | @milliseconds ds n trimmed number =>
    have hs : Text.dropTail ['s'] (Text.trim text.toList) = some (ds ++ ['m']) :=
      Text.dropTail_eq_some_iff.2 (by rw [trimmed, List.append_assoc]; rfl)
    have hm : Text.dropTail ['m'] (ds ++ ['m']) = some ds := Text.dropTail_eq_some_iff.2 rfl
    simp only [read?, hs, hm, number64_iff.2 number, Option.map_some]
  | seconds trimmed number =>
    have hs := Text.dropTail_eq_some_iff.2 trimmed
    have hm := number.dropTail_eq_none (c := 'm') (by decide)
    simp only [read?, hs, hm, number64_iff.2 number, Option.map_some]
  | @minutes ds n trimmed number fits =>
    have hs : Text.dropTail ['s'] (Text.trim text.toList) = none :=
      trimmed ▸ Text.dropTail_concat_of_ne (by decide) ds
    have hm := Text.dropTail_eq_some_iff.2 trimmed
    have hfits : n * 60 ≤ Text.Numeral.max64 := Nat.le_sub_one_of_lt fits
    simp only [read?, hs, hm, number64_iff.2 number, Option.filter_some, hfits, decide_true,
      ↓reduceIte, Option.map_some]
  | bare number =>
    have hs := number.dropTail_eq_none (c := 's') (by decide)
    have hm := number.dropTail_eq_none (c := 'm') (by decide)
    simp only [read?, hs, hm, number64_iff.2 number, Option.map_some]

/-- A duration is read exactly from the texts of the grammar. -/
theorem read?_eq_some_iff {text : String} {d : Duration} :
    read? text = some d ↔ Denotes text d := by
  refine ⟨fun h => ?_, read?_of_denotes⟩
  simp only [read?] at h
  cases hs : Text.dropTail ['s'] (Text.trim text.toList) with
  | some body =>
    have trimmed := Text.dropTail_eq_some_iff.1 hs
    cases hm : Text.dropTail ['m'] body with
    | some ds =>
      simp only [hs, hm, Option.map_eq_some_iff] at h
      obtain ⟨n, hn, rfl⟩ := h
      obtain rfl := Text.dropTail_eq_some_iff.1 hm
      exact .milliseconds (trimmed.trans (List.append_assoc ..)) (number64_iff.1 hn)
    | none =>
      simp only [hs, hm, Option.map_eq_some_iff] at h
      obtain ⟨n, hn, rfl⟩ := h
      exact .seconds trimmed (number64_iff.1 hn)
  | none =>
    cases hm : Text.dropTail ['m'] (Text.trim text.toList) with
    | some ds =>
      simp only [hs, hm, Option.map_eq_some_iff, Option.filter_eq_some_iff,
        decide_eq_true_eq] at h
      obtain ⟨n, ⟨hn, hfits⟩, rfl⟩ := h
      exact .minutes (Text.dropTail_eq_some_iff.1 hm) (number64_iff.1 hn)
        (Nat.lt_of_le_of_lt hfits (by decide))
    | none =>
      simp only [hs, hm, Option.map_eq_some_iff] at h
      obtain ⟨n, hn, rfl⟩ := h
      exact .bare (number64_iff.1 hn)

/-- The text denotes a duration above zero. -/
def Usable (text : String) : Prop :=
  ∃ d, Denotes text d ∧ 0 < d.nanos

end Duration

namespace Settings

open Duration (Usable Denotes)

/-! ## Settings -/

/-- A field that holds a duration. -/
structure DurationField where
  name : String
  value : String

/-- The fields that hold durations, in the order in which they are checked. -/
def durationFields (s : Settings) : List DurationField :=
  [⟨"conductor.rpc_timeout", s.conductor.rpcTimeout⟩, ⟨"agent.rpc_timeout", s.agent.rpcTimeout⟩,
    ⟨"agent.tracker_interval", s.agent.trackerInterval⟩,
    ⟨"agent.virsh_timeout", s.agent.virshTimeout⟩]

/-- The trigger key holds nothing but blanks. -/
def BlankKey (s : Settings) : Prop :=
  ∀ c ∈ s.agent.triggerMetadataKey.toList, Text.isBlank c

/-- What fails first in settings that are refused. -/
inductive FirstFault (s : Settings) : SettingsError → Prop
  | duration {before after : List DurationField} {field : DurationField}
      (fields : s.durationFields = before ++ field :: after)
      (usable : ∀ f ∈ before, Usable f.value) (unusable : ¬ Usable field.value) :
      FirstFault s (.duration field.name field.value)
  | triggerKey (usable : ∀ f ∈ s.durationFields, Usable f.value) (blank : s.BlankKey) :
      FirstFault s (.empty "agent.trigger_metadata_key")

/-- A field is either usable or named as the fault. -/
theorem durationField_cases (field value : String) :
    (∃ d, durationField field value = .ok d ∧ Denotes value d ∧ 0 < d.nanos) ∨
      durationField field value = .error (.duration field value) ∧ ¬ Usable value := by
  unfold durationField
  cases hread : Duration.read? value with
  | none =>
    refine .inr ⟨rfl, fun ⟨d, hd, _⟩ => ?_⟩
    exact nomatch hread.symm.trans (Duration.read?_eq_some_iff.2 hd)
  | some d =>
    have hdenotes := Duration.read?_eq_some_iff.1 hread
    by_cases hzero : d.nanos = 0
    · refine .inr ⟨if_pos hzero, fun ⟨d', hd', hpos⟩ => ?_⟩
      obtain rfl := Option.some.inj (hread.symm.trans (Duration.read?_eq_some_iff.2 hd'))
      exact absurd hzero (Nat.ne_of_gt hpos)
    · exact .inl ⟨d, if_neg hzero, hdenotes, Nat.pos_of_ne_zero hzero⟩

/-- Check fields one after the other, up to the first that holds no usable duration. -/
def checkFields : List DurationField → Except SettingsError Unit
  | [] => .ok ()
  | f :: fs =>
    match durationField f.name f.value with
    | .error e => .error e
    | .ok _ => checkFields fs

theorem checkFields_eq_ok_iff {fs : List DurationField} :
    checkFields fs = .ok () ↔ ∀ f ∈ fs, Usable f.value := by
  induction fs with
  | nil => simp [checkFields]
  | cons f fs ih =>
    rw [List.forall_mem_cons, checkFields]
    rcases durationField_cases f.name f.value with ⟨d, hok, hd⟩ | ⟨herror, hnot⟩
    · simp only [hok, ih]
      exact (and_iff_right ⟨d, hd⟩).symm
    · simp [herror, hnot]

theorem checkFields_eq_error_iff {fs : List DurationField} {e : SettingsError} :
    checkFields fs = .error e ↔ ∃ before field after, fs = before ++ field :: after ∧
      (∀ f ∈ before, Usable f.value) ∧ ¬ Usable field.value ∧
      e = .duration field.name field.value := by
  induction fs with
  | nil => simp [checkFields]
  | cons f fs ih =>
    rw [checkFields]
    rcases durationField_cases f.name f.value with ⟨d, hok, hd⟩ | ⟨herror, hnot⟩
    · simp only [hok, ih]
      constructor
      · rintro ⟨before, field, after, rfl, husable, hfield⟩
        exact ⟨f :: before, field, after, rfl, List.forall_mem_cons.2 ⟨⟨d, hd⟩, husable⟩, hfield⟩
      · rintro ⟨before, field, after, hfs, husable, hfield⟩
        cases before with
        | nil =>
          obtain ⟨rfl, -⟩ := List.cons.inj hfs
          exact absurd ⟨d, hd⟩ hfield.1
        | cons b before =>
          obtain ⟨-, rfl⟩ := List.cons.inj hfs
          exact ⟨before, field, after, rfl, (List.forall_mem_cons.1 husable).2, hfield⟩
    · simp only [herror, Except.error.injEq]
      constructor
      · rintro rfl
        exact ⟨[], f, fs, rfl, fun _ h => absurd h List.not_mem_nil, hnot, rfl⟩
      · rintro ⟨before, field, after, hfs, husable, -, rfl⟩
        cases before with
        | nil =>
          obtain ⟨rfl, -⟩ := List.cons.inj hfs
          rfl
        | cons b before =>
          obtain ⟨rfl, -⟩ := List.cons.inj hfs
          exact absurd (husable f List.mem_cons_self) hnot

/-- The durations are checked before the trigger key. -/
theorem validate_eq (s : Settings) : s.validate =
    match checkFields s.durationFields with
    | .error e => .error e
    | .ok _ =>
      if Text.isBlankText s.agent.triggerMetadataKey.toList then
        .error (.empty "agent.trigger_metadata_key")
      else .ok () := by
  unfold validate conductorRpcTimeout agentRpcTimeout trackerInterval virshTimeout durationFields
  simp only [checkFields]
  cases durationField "conductor.rpc_timeout" s.conductor.rpcTimeout with
  | error e => rfl
  | ok d =>
  cases durationField "agent.rpc_timeout" s.agent.rpcTimeout with
  | error e => rfl
  | ok d =>
  cases durationField "agent.tracker_interval" s.agent.trackerInterval with
  | error e => rfl
  | ok d =>
  cases durationField "agent.virsh_timeout" s.agent.virshTimeout with
  | error e => rfl
  | ok d => cases Text.isBlankText s.agent.triggerMetadataKey.toList <;> rfl

theorem isBlankText_iff (s : Settings) :
    Text.isBlankText s.agent.triggerMetadataKey.toList ↔ s.BlankKey :=
  List.all_eq_true

/-- Settings pass if all four durations are usable and the trigger key is not blank. -/
theorem validate_eq_ok_iff {s : Settings} :
    s.validate = .ok () ↔ (∀ f ∈ s.durationFields, Usable f.value) ∧ ¬ s.BlankKey := by
  rw [validate_eq, ← checkFields_eq_ok_iff, ← isBlankText_iff]
  cases checkFields s.durationFields with
  | error e => simp
  | ok u => simp

theorem validate_eq_error_iff {s : Settings} {e : SettingsError} :
    s.validate = .error e ↔ FirstFault s e := by
  have hstages : s.validate = .error e ↔ checkFields s.durationFields = .error e ∨
      checkFields s.durationFields = .ok () ∧ s.BlankKey ∧
        e = .empty "agent.trigger_metadata_key" := by
    rw [validate_eq, ← isBlankText_iff]
    cases checkFields s.durationFields with
    | error e' => simp
    | ok u => cases Text.isBlankText s.agent.triggerMetadataKey.toList <;> simp [eq_comm]
  rw [hstages, checkFields_eq_error_iff, checkFields_eq_ok_iff]
  constructor
  · rintro (⟨before, field, after, hfields, husable, hnot, rfl⟩ | ⟨husable, hblank, rfl⟩)
    · exact .duration hfields husable hnot
    · exact .triggerKey husable hblank
  · rintro (⟨hfields, husable, hnot⟩ | ⟨husable, hblank⟩)
    · exact .inl ⟨_, _, _, hfields, husable, hnot, rfl⟩
    · exact .inr ⟨husable, hblank, rfl⟩

theorem exists_durationField (field : String) {value : String} (h : Usable value) :
    ∃ d, durationField field value = .ok d ∧ Denotes value d ∧ 0 < d.nanos := by
  rcases durationField_cases field value with hok | ⟨-, hnot⟩
  · exact hok
  · exact absurd h hnot

/-- Durations are read exactly from the texts of the grammar. Settings pass exactly if the texts of
all four fields denote durations above zero and the trigger key is not blank, and are refused for
what fails first in that order. So the durations of settings that pass can be read, and none of them
is zero. -/
theorem durations_read_exactly :
    (∀ text d, Duration.read? text = some d ↔ Denotes text d) ∧
    ∀ s : Settings,
      (s.validate = .ok () ↔ (∀ f ∈ s.durationFields, Usable f.value) ∧ ¬ s.BlankKey) ∧
      (∀ e, s.validate = .error e ↔ FirstFault s e) ∧
      (s.validate = .ok () →
        (∃ d, s.conductorRpcTimeout = .ok d ∧ Denotes s.conductor.rpcTimeout d ∧ 0 < d.nanos) ∧
        (∃ d, s.agentRpcTimeout = .ok d ∧ Denotes s.agent.rpcTimeout d ∧ 0 < d.nanos) ∧
        (∃ d, s.trackerInterval = .ok d ∧ Denotes s.agent.trackerInterval d ∧ 0 < d.nanos) ∧
        ∃ d, s.virshTimeout = .ok d ∧ Denotes s.agent.virshTimeout d ∧ 0 < d.nanos) := by
  refine ⟨fun text d => Duration.read?_eq_some_iff, fun s => ⟨validate_eq_ok_iff,
    fun e => validate_eq_error_iff, fun h => ?_⟩⟩
  have husable := (validate_eq_ok_iff.1 h).1
  simp only [durationFields, List.forall_mem_cons] at husable
  obtain ⟨hconductor, hagent, htracker, hvirsh, -⟩ := husable
  exact ⟨exists_durationField _ hconductor, exists_durationField _ hagent,
    exists_durationField _ htracker, exists_durationField _ hvirsh⟩

-- the longest suffix counts, and minutes are bounded by the seconds that they amount to
example : Duration.read? " +500ms" = some (.ofMillis 500) ∧
    Duration.read? "307445734561825861m" = none := by
  decide +kernel

end Settings

end VcpuPinning
