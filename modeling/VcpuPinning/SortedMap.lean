/-!
# Finite maps in key order

A `SortedMap` is a list of entries with strictly ascending keys. Inserting and erasing change the
value at one key only (`get?_insert`, `get?_erase`), and two maps with the same values at every
key are equal (`SortedMap.ext_get?`).
-/

namespace VcpuPinning

universe u v w

/-- A finite map whose entries are listed by ascending key. -/
structure SortedMap (κ : Type u) (α : Type v) [Ord κ] where
  /-- The entries, by ascending key. -/
  entries : List (κ × α)
  /-- Each key is below the keys after it. -/
  sorted : entries.Pairwise fun a b => compare a.1 b.1 = .lt

namespace SortedMap

variable {κ : Type u} {α : Type v} {β : Type w} [Ord κ]

/-! ## Entries -/

/-- The value of the entry with a key. -/
def find (k : κ) : List (κ × α) → Option α
  | [] => none
  | e :: es => if compare k e.1 = .eq then some e.2 else find k es

/-- Put an entry in its place, in the stead of one with the same key. -/
def put (k : κ) (a : α) : List (κ × α) → List (κ × α)
  | [] => [(k, a)]
  | e :: es =>
    match compare k e.1 with
    | .lt => (k, a) :: e :: es
    | .eq => (k, a) :: es
    | .gt => e :: put k a es

/-- The entries with other keys. -/
def without (k : κ) (es : List (κ × α)) : List (κ × α) :=
  es.filter fun e => compare k e.1 != .eq

theorem mem_of_mem_put {k : κ} {a : α} {es : List (κ × α)} {e : κ × α} (h : e ∈ put k a es) :
    e = (k, a) ∨ e ∈ es := by
  induction es with
  | nil => simpa [put] using h
  | cons d es ih =>
    simp only [put] at h
    split at h
    · simpa using h
    · simp only [List.mem_cons] at h ⊢
      rcases h with h | h
      · exact Or.inl h
      · exact Or.inr (Or.inr h)
    · simp only [List.mem_cons] at h ⊢
      rcases h with h | h
      · exact Or.inr (Or.inl h)
      · rcases ih h with h | h
        · exact Or.inl h
        · exact Or.inr (Or.inr h)

theorem sorted_put [Std.TransOrd κ] [Std.LawfulEqOrd κ] {k : κ} {a : α} {es : List (κ × α)}
    (h : es.Pairwise fun a b => compare a.1 b.1 = .lt) :
    (put k a es).Pairwise fun a b => compare a.1 b.1 = .lt := by
  induction es with
  | nil => simp [put]
  | cons d es ih =>
    rw [List.pairwise_cons] at h
    simp only [put]
    split
    · rename_i hk
      refine List.pairwise_cons.2 ⟨fun e he => ?_, List.pairwise_cons.2 h⟩
      rcases List.mem_cons.1 he with rfl | he
      · exact hk
      · exact Std.TransCmp.lt_trans hk (h.1 e he)
    · rename_i hk
      refine List.pairwise_cons.2 ⟨fun e he => ?_, h.2⟩
      obtain rfl : k = d.1 := Std.LawfulEqCmp.eq_of_compare hk
      exact h.1 e he
    · rename_i hk
      refine List.pairwise_cons.2 ⟨fun e he => ?_, ih h.2⟩
      rcases mem_of_mem_put he with rfl | he
      · exact Std.OrientedCmp.gt_iff_lt.1 hk
      · exact h.1 e he

theorem find_put [Std.TransOrd κ] [Std.LawfulEqOrd κ] (k j : κ) (a : α) (es : List (κ × α)) :
    find j (put k a es) = if compare j k = .eq then some a else find j es := by
  induction es with
  | nil => simp [put, find]
  | cons d es ih =>
    simp only [put]
    split
    · simp [find]
    · rename_i hk
      obtain rfl : k = d.1 := Std.LawfulEqCmp.eq_of_compare hk
      by_cases hj : compare j d.1 = .eq <;> simp [find, hj]
    · rename_i hk
      by_cases hj : compare j d.1 = .eq
      · obtain rfl : j = d.1 := Std.LawfulEqCmp.eq_of_compare hj
        have : compare d.1 k ≠ .eq := by
          rw [Std.OrientedCmp.gt_iff_lt.1 hk]; decide
        simp [find, this]
      · simp [find, hj, ih]

theorem find_without [Std.LawfulEqOrd κ] (k j : κ) (es : List (κ × α)) :
    find j (without k es) = if compare j k = .eq then none else find j es := by
  induction es with
  | nil => simp [without, find]
  | cons d es ih =>
    by_cases hk : compare k d.1 = .eq
    · have hw : without k (d :: es) = without k es := by simp [without, hk]
      rw [hw, ih]
      obtain rfl : k = d.1 := Std.LawfulEqCmp.eq_of_compare hk
      by_cases hj : compare j d.1 = .eq <;> simp [find, hj]
    · have hw : without k (d :: es) = d :: without k es := by simp [without, hk]
      rw [hw]
      by_cases hj : compare j d.1 = .eq
      · obtain rfl : j = d.1 := Std.LawfulEqCmp.eq_of_compare hj
        have : compare d.1 k ≠ .eq := by
          intro h
          obtain h' : d.1 = k := Std.LawfulEqCmp.eq_of_compare h
          exact hk (by rw [← h']; exact h' ▸ h)
        simp [find, this]
      · simp [find, hj, ih]

theorem find_eq_some_iff [Std.TransOrd κ] [Std.LawfulEqOrd κ] {k : κ} {a : α} {es : List (κ × α)}
    (h : es.Pairwise fun a b => a.1 ≠ b.1) : find k es = some a ↔ (k, a) ∈ es := by
  induction es with
  | nil => simp [find]
  | cons d es ih =>
    rw [List.pairwise_cons] at h
    by_cases hk : compare k d.1 = .eq
    · obtain rfl : k = d.1 := Std.LawfulEqCmp.eq_of_compare hk
      simp only [find, hk, ↓reduceIte, Option.some.injEq, List.mem_cons]
      constructor
      · rintro rfl
        exact Or.inl rfl
      · rintro (he | hm)
        · exact (congrArg Prod.snd he).symm
        · exact absurd rfl (h.1 (d.1, a) hm)
    · simp only [find, hk, ↓reduceIte, ih h.2, List.mem_cons]
      constructor
      · exact Or.inr
      · rintro (rfl | hm)
        · exact absurd Std.ReflCmp.compare_self hk
        · exact hm

/-! ## Maps -/

/-- The map without entries. -/
def empty : SortedMap κ α :=
  ⟨[], .nil⟩

instance : Inhabited (SortedMap κ α) :=
  ⟨empty⟩

/-- The value at a key. -/
def get? (m : SortedMap κ α) (k : κ) : Option α :=
  find k m.entries

/-- Whether a key has a value. -/
def contains (m : SortedMap κ α) (k : κ) : Bool :=
  (m.get? k).isSome

/-- The keys, ascending. -/
def keys (m : SortedMap κ α) : List κ :=
  m.entries.map (·.1)

/-- The values, by ascending key. -/
def values (m : SortedMap κ α) : List α :=
  m.entries.map (·.2)

/-- The map with one more value, or another value at a key. -/
def insert [Std.TransOrd κ] [Std.LawfulEqOrd κ] (m : SortedMap κ α) (k : κ) (a : α) :
    SortedMap κ α :=
  ⟨put k a m.entries, sorted_put m.sorted⟩

/-- The map without a value at a key. -/
def erase (m : SortedMap κ α) (k : κ) : SortedMap κ α :=
  ⟨without k m.entries, m.sorted.filter _⟩

/-- The map of a list of entries; later ones win. -/
def ofList [Std.TransOrd κ] [Std.LawfulEqOrd κ] (es : List (κ × α)) : SortedMap κ α :=
  es.foldl (fun m e => m.insert e.1 e.2) empty

/-- The map with every value changed. -/
def map (f : α → β) (m : SortedMap κ α) : SortedMap κ β :=
  ⟨m.entries.map fun e => (e.1, f e.2), by
    rw [List.pairwise_map]
    exact m.sorted⟩

instance [DecidableEq κ] [DecidableEq α] : DecidableEq (SortedMap κ α) := fun m n =>
  decidable_of_iff (m.entries = n.entries) ⟨fun h => by
    cases m; cases n; cases h; rfl, fun h => h ▸ rfl⟩

@[simp] theorem get?_empty (k : κ) : (empty : SortedMap κ α).get? k = none := rfl

theorem get?_insert [Std.TransOrd κ] [Std.LawfulEqOrd κ] (m : SortedMap κ α) (k j : κ) (a : α) :
    (m.insert k a).get? j = if compare j k = .eq then some a else m.get? j :=
  find_put k j a m.entries

theorem get?_erase [Std.LawfulEqOrd κ] (m : SortedMap κ α) (k j : κ) :
    (m.erase k).get? j = if compare j k = .eq then none else m.get? j :=
  find_without k j m.entries

@[simp] theorem get?_insert_self [Std.TransOrd κ] [Std.LawfulEqOrd κ] (m : SortedMap κ α) (k : κ)
    (a : α) : (m.insert k a).get? k = some a := by
  simp [get?_insert]

theorem get?_insert_of_ne [Std.TransOrd κ] [Std.LawfulEqOrd κ] {m : SortedMap κ α} {k j : κ}
    (h : j ≠ k) (a : α) : (m.insert k a).get? j = m.get? j := by
  rw [get?_insert, if_neg fun hc => h (Std.LawfulEqCmp.eq_of_compare hc)]

@[simp] theorem get?_erase_self [Std.LawfulEqOrd κ] (m : SortedMap κ α) (k : κ) :
    (m.erase k).get? k = none := by
  simp [get?_erase]

theorem get?_erase_of_ne [Std.LawfulEqOrd κ] {m : SortedMap κ α} {k j : κ} (h : j ≠ k) :
    (m.erase k).get? j = m.get? j := by
  rw [get?_erase, if_neg fun hc => h (Std.LawfulEqCmp.eq_of_compare hc)]

theorem distinct_entries [Std.TransOrd κ] (m : SortedMap κ α) :
    m.entries.Pairwise fun a b => a.1 ≠ b.1 :=
  m.sorted.imp fun {a b} h he => by
    rw [he] at h
    simp at h

theorem mem_entries_iff [Std.TransOrd κ] [Std.LawfulEqOrd κ] {m : SortedMap κ α} {k : κ} {a : α} :
    (k, a) ∈ m.entries ↔ m.get? k = some a :=
  (find_eq_some_iff m.distinct_entries).symm

theorem nodup_entries [Std.TransOrd κ] (m : SortedMap κ α) : m.entries.Nodup :=
  m.distinct_entries.imp fun h he => h (congrArg Prod.fst he)

/-- Maps with the same values at every key are equal. -/
theorem ext_get? [Std.TransOrd κ] [Std.LawfulEqOrd κ] {m n : SortedMap κ α}
    (h : ∀ k, m.get? k = n.get? k) : m = n := by
  have he : m.entries = n.entries := by
    refine List.Perm.eq_of_pairwise (fun a b _ _ hab hba => ?_) m.sorted n.sorted ?_
    · have hgt : compare b.1 a.1 = .gt := Std.OrientedCmp.gt_iff_lt.2 hab
      exact absurd (hgt.symm.trans hba) (by decide)
    refine (List.perm_ext_iff_of_nodup m.nodup_entries n.nodup_entries).2 fun e => ?_
    rw [show e = (e.1, e.2) from rfl, mem_entries_iff, mem_entries_iff, h]
  cases m
  cases n
  cases he
  rfl

/-- Of two values put at one key the later one counts. -/
theorem insert_insert [Std.TransOrd κ] [Std.LawfulEqOrd κ] (m : SortedMap κ α) (k : κ) (a b : α) :
    (m.insert k a).insert k b = m.insert k b := by
  refine ext_get? fun j => ?_
  simp only [get?_insert]
  split <;> rfl

theorem get?_map (f : α → β) (m : SortedMap κ α) (k : κ) :
    (m.map f).get? k = (m.get? k).map f := by
  have hfind (es : List (κ × α)) :
      find k (es.map fun e => (e.1, f e.2)) = (find k es).map f := by
    induction es with
    | nil => rfl
    | cons e es ih =>
      simp only [List.map_cons, find, ih]
      split <;> rfl
  exact hfind m.entries

theorem map_insert [Std.TransOrd κ] [Std.LawfulEqOrd κ] (f : α → β) (m : SortedMap κ α) (k : κ)
    (a : α) : (m.insert k a).map f = (m.map f).insert k (f a) := by
  refine ext_get? fun j => ?_
  simp only [get?_map, get?_insert]
  split <;> rfl

theorem map_ofList [Std.TransOrd κ] [Std.LawfulEqOrd κ] (f : α → β) (es : List (κ × α)) :
    (ofList es).map f = ofList (es.map fun e => (e.1, f e.2)) := by
  have hfold (m : SortedMap κ α) : (es.foldl (fun m e => m.insert e.1 e.2) m).map f =
      (es.map fun e => (e.1, f e.2)).foldl (fun m e => m.insert e.1 e.2) (m.map f) := by
    induction es generalizing m with
    | nil => rfl
    | cons e es ih => rw [List.foldl_cons, ih, map_insert, List.map_cons, List.foldl_cons]
  exact hfold empty

/-- The entries of a list with different keys, put into a map one after the other. -/
theorem get?_foldl_insert [Std.TransOrd κ] [Std.LawfulEqOrd κ] {es : List (κ × α)}
    (hs : es.Pairwise fun a b => a.1 ≠ b.1) (m : SortedMap κ α) (k : κ) :
    (es.foldl (fun m e => m.insert e.1 e.2) m).get? k = (find k es).or (m.get? k) := by
  induction es generalizing m with
  | nil => rfl
  | cons e es ih =>
    obtain ⟨he, hs⟩ := List.pairwise_cons.1 hs
    rw [List.foldl_cons, ih hs, get?_insert, find]
    by_cases hk : compare k e.1 = .eq
    · obtain rfl := Std.LawfulEqCmp.eq_of_compare hk
      have hnone : find e.1 es = none := by
        refine Option.eq_none_iff_forall_ne_some.2 fun a ha => ?_
        exact absurd rfl (he (e.1, a) ((find_eq_some_iff hs).1 ha))
      simp [hnone]
    · simp [hk]

/-- Every entry comes from the list. -/
theorem mem_of_mem_ofList [Std.TransOrd κ] [Std.LawfulEqOrd κ] {es : List (κ × α)} {e : κ × α}
    (h : e ∈ (ofList es).entries) : e ∈ es := by
  have hfold (es : List (κ × α)) (m : SortedMap κ α)
      (h : e ∈ (es.foldl (fun m e => m.insert e.1 e.2) m).entries) : e ∈ es ∨ e ∈ m.entries := by
    induction es generalizing m with
    | nil => exact .inr h
    | cons d es ih =>
      rcases ih _ h with h | h
      · exact .inl (List.mem_cons_of_mem _ h)
      rcases mem_of_mem_put h with rfl | h
      · exact .inl List.mem_cons_self
      · exact .inr h
  exact (hfold es empty h).resolve_right List.not_mem_nil

/-- A map is the map of its entries in any order. -/
theorem ofList_of_perm [Std.TransOrd κ] [Std.LawfulEqOrd κ] {m : SortedMap κ α}
    {es : List (κ × α)} (h : es.Perm m.entries) : ofList es = m := by
  have hs : es.Pairwise fun a b => a.1 ≠ b.1 :=
    (h.pairwise_iff fun hne => Ne.symm hne).2 m.distinct_entries
  refine ext_get? fun k => Option.ext fun a => ?_
  rw [ofList, get?_foldl_insert hs, get?_empty, Option.or_none, find_eq_some_iff hs, h.mem_iff,
    mem_entries_iff]

/-- A map is the map of its entries. -/
@[simp] theorem ofList_entries [Std.TransOrd κ] [Std.LawfulEqOrd κ] (m : SortedMap κ α) :
    ofList m.entries = m :=
  ofList_of_perm (.refl _)

end SortedMap

end VcpuPinning
