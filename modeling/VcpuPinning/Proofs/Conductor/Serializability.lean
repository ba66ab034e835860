import Mathlib.Data.List.Pairwise
import VcpuPinning.Proofs.Conductor.Exclusion

/-!
# Serializability

`serializable` : operations on the mapping of one instance that run at the same time, with reports
in between, have the results and leave the mapping that they have one at a time, in the order in
which they got the lock. `Recounted` says what the readings of a run tell, and each step keeps it
together with `Exclusive`.
-/

namespace VcpuPinning.Conductor

open LockTable Program

variable {ι : Type} [DecidableEq ι]

/-! ## What the readings of a run tell -/

/-- The operations that read or wrote mappings in a run, in order. -/
def touchers (labels : List (Label ι)) : List ι :=
  labels.filterMap Label.toucher?

omit [DecidableEq ι] in
theorem lockOrder_concat (labels : List (Label ι)) (label : Label ι) :
    lockOrder (labels ++ [label]) = lockOrder labels ++ label.grantee?.toList := by
  unfold lockOrder
  rw [List.filterMap_append]
  cases h : label.grantee? <;> simp [h]

omit [DecidableEq ι] in
theorem lockOrder_concat_of_none (labels : List (Label ι)) {label : Label ι}
    (h : label.grantee? = none) : lockOrder (labels ++ [label]) = lockOrder labels := by
  rw [lockOrder_concat, h]
  exact List.append_nil _

omit [DecidableEq ι] in
theorem touchers_concat (labels : List (Label ι)) (label : Label ι) :
    touchers (labels ++ [label]) = touchers labels ++ label.toucher?.toList := by
  unfold touchers
  rw [List.filterMap_append]
  cases h : label.toucher? <;> simp [h]

omit [DecidableEq ι] in
theorem touchers_concat_of_none (labels : List (Label ι)) {label : Label ι}
    (h : label.toucher? = none) : touchers (labels ++ [label]) = touchers labels := by
  rw [touchers_concat, h]
  exact List.append_nil _

theorem readings_concat (labels : List (Label ι)) (label : Label ι) (i : ι) :
    readings (labels ++ [label]) i = readings labels i ++ (label.reading? i).toList := by
  unfold readings
  rw [List.filterMap_append]
  cases h : label.reading? i <;> simp [h]

/-- An operation learns something by its own step. -/
theorem readings_concat_self (labels : List (Label ι)) {label : Label ι} {i : ι} {r : Reading}
    (h : ∀ j, label.reading? j = if i = j then some r else none) :
    readings (labels ++ [label]) i = readings labels i ++ [r] := by
  rw [readings_concat, h, if_pos rfl]
  rfl

/-- No operation learns anything by a step of another one. -/
theorem readings_concat_of_ne (labels : List (Label ι)) {label : Label ι} {i j : ι} {r : Reading}
    (h : ∀ j, label.reading? j = if i = j then some r else none) (hj : j ≠ i) :
    readings (labels ++ [label]) j = readings labels j := by
  rw [readings_concat, h, if_neg hj.symm]
  exact List.append_nil _

/-- What the readings of a run tell : the operations that got the lock did what they do one at a
time, and the others did nothing to the mappings. -/
structure Recounted (ops : ι → Operation) (s : Store) (labels : List (Label ι)) (sys : System ι)
    (holder : Option ι) : Prop where
  nodup : (lockOrder labels).Nodup
  past : ∀ i ∈ lockOrder labels, holder ≠ some i → ∃ a, sys.rest i = done a
  last : ∀ i, holder = some i → ∃ earlier, lockOrder labels = earlier ++ [i]
  free : ∀ i ∉ lockOrder labels, ∀ s₁, ∃ s₂,
    (ops i).program.run.replay (readings labels i) s₁ = some (sys.rest i, s₂) ∧
      SameMappings s₁ s₂
  serial : ∃ s₁, Serial ops (readings labels) sys.rest s (lockOrder labels) s₁ ∧
    SameMappings s₁ sys.store
  ordered : (touchers labels).Pairwise fun i j =>
    (lockOrder labels).idxOf i ≤ (lockOrder labels).idxOf j
  touched : ∀ i ∈ touchers labels, i ∈ lockOrder labels

namespace Recounted

variable {ops : ι → Operation} {s : Store} {labels : List (Label ι)} {sys sys' : System ι}
  {holder : Option ι} {label : Label ι}

theorem start (ops : ι → Operation) (s : Store) :
    Recounted ops s [] ⟨s, .empty, fun i => (ops i).program.run, []⟩ none where
  nodup := List.nodup_nil
  past _ hi := nomatch hi
  last _ hi := nomatch hi
  free _ _ s₁ := ⟨s₁, rfl, .refl s₁⟩
  serial := ⟨s, .nil, .refl s⟩
  ordered := List.Pairwise.nil
  touched _ hi := nomatch hi

/-- A step from which no operation learns anything. -/
theorem silent (h : Recounted ops s labels sys holder) (hr : ∀ i, label.reading? i = none)
    (hg : label.grantee? = none) (ht : label.toucher? = none) (hp : sys'.rest = sys.rest)
    (hs : SameMappings sys.store sys'.store) :
    Recounted ops s (labels ++ [label]) sys' holder := by
  have horder := lockOrder_concat_of_none labels hg
  have htouch := touchers_concat_of_none labels ht
  have hread : readings (labels ++ [label]) = readings labels := by
    funext i
    rw [readings_concat, hr i]
    exact List.append_nil _
  obtain ⟨s₁, hserial, hsame⟩ := h.serial
  constructor
  · exact horder ▸ h.nodup
  · exact horder ▸ hp ▸ h.past
  · exact horder ▸ h.last
  · exact horder ▸ hread ▸ hp ▸ h.free
  · rw [horder, hread, hp]
    exact ⟨s₁, hserial, hsame.trans hs⟩
  · rw [horder, htouch]
    exact h.ordered
  · rw [horder, htouch]
    exact h.touched

variable {i : ι} {r : Reading} {p : Program (Except ConductorError Answer)}

/-- A step of the operation that has the lock. It is the last one in the order. -/
theorem own (h : Recounted ops s labels sys (some i))
    (hl : ∀ j, label.reading? j = if i = j then some r else none) (hg : label.grantee? = none)
    (ht : ∀ j, label.toucher? = some j → j = i) (hp : sys'.rest = Function.update sys.rest i p)
    (ha : ∀ s₁, SameMappings s₁ sys.store → ∃ s₂,
      (sys.rest i).advance r s₁ = some (p, s₂) ∧ SameMappings s₂ sys'.store)
    (hh : holder = some i ∨ holder = none ∧ ∃ a, p = done a) :
    Recounted ops s (labels ++ [label]) sys' holder := by
  obtain ⟨earlier, he⟩ := h.last i rfl
  have horder := lockOrder_concat_of_none labels hg
  have hread : ∀ j ≠ i, readings (labels ++ [label]) j = readings labels j :=
    fun _ => readings_concat_of_ne labels hl
  have hnot : i ∉ earlier := by
    have hn := he ▸ h.nodup
    exact fun hin => (List.nodup_append.1 hn).2.2 i hin i (List.mem_singleton_self i) rfl
  have hin : i ∈ lockOrder labels := by simp [he]
  constructor
  · exact horder ▸ h.nodup
  · intro j hj hne
    rw [hp]
    by_cases hji : j = i
    · subst hji
      rw [Function.update_self]
      rcases hh with rfl | ⟨-, hd⟩
      · exact absurd rfl hne
      · exact hd
    · rw [Function.update_of_ne hji]
      exact h.past j (horder ▸ hj) fun hs => hji (Option.some.inj hs).symm
  · intro j hj
    rcases hh with rfl | ⟨rfl, -⟩
    · obtain rfl := Option.some.inj hj
      exact ⟨earlier, horder ▸ he⟩
    · exact nomatch hj
  · intro j hj
    have hji : j ≠ i := fun hji => hj (hji ▸ horder ▸ hin)
    rw [hread j hji, hp, Function.update_of_ne hji]
    exact h.free j (horder ▸ hj)
  · obtain ⟨s₁, hserial, hsame⟩ := h.serial
    rw [he] at hserial
    obtain ⟨s₀, hearlier, hreplay⟩ := hserial.of_concat
    obtain ⟨s₂, hadvance, hsame₂⟩ := ha s₁ hsame
    refine ⟨s₂, ?_, hsame₂⟩
    rw [horder, he]
    have hne : ∀ j ∈ earlier, j ≠ i := fun j hj hji => hnot (hji ▸ hj)
    refine .snoc (hearlier.congr (fun j hj => hread j (hne j hj)) fun j hj => ?_) ?_
    · rw [hp, Function.update_of_ne (hne j hj)]
    · rw [readings_concat_self labels hl, hp, Function.update_self]
      exact (replay_append_singleton hreplay r).trans hadvance
  · rw [horder, touchers_concat, List.pairwise_append]
    refine ⟨h.ordered, by cases label.toucher? <;> simp, fun j hj k hk => ?_⟩
    obtain rfl := ht k (Option.mem_toList.1 hk)
    have hlt := List.idxOf_lt_length_iff.2 (h.touched j hj)
    rw [he, List.idxOf_append_of_notMem hnot]
    rw [he, List.length_append] at hlt
    simp at hlt ⊢
    omega
  · intro j hj
    rw [horder]
    rw [touchers_concat] at hj
    rcases List.mem_append.1 hj with hj | hj
    · exact h.touched j hj
    · exact ht j (Option.mem_toList.1 hj) ▸ hin

/-- A reading of an operation that has not had the lock. -/
theorem reads (h : Recounted ops s labels sys holder) (hfree : i ∉ lockOrder labels)
    (hl : ∀ j, label.reading? j = if i = j then some r else none)
    (hg : label.grantee? = none) (ht : label.toucher? = none)
    (hp : sys'.rest = Function.update sys.rest i p) (hs : SameMappings sys.store sys'.store)
    (ha : ∀ s₁, ∃ s₂, (sys.rest i).advance r s₁ = some (p, s₂) ∧ SameMappings s₁ s₂) :
    Recounted ops s (labels ++ [label]) sys' holder := by
  have horder := lockOrder_concat_of_none labels hg
  have htouch := touchers_concat_of_none labels ht
  have hread : ∀ j ≠ i, readings (labels ++ [label]) j = readings labels j :=
    fun _ => readings_concat_of_ne labels hl
  have hne : ∀ j ∈ lockOrder labels, j ≠ i := fun j hj hji => hfree (hji ▸ hj)
  constructor
  · exact horder ▸ h.nodup
  · intro j hj
    rw [horder] at hj
    rw [hp, Function.update_of_ne (hne j hj)]
    exact h.past j hj
  · exact horder ▸ h.last
  · intro j hj s₁
    by_cases hji : j = i
    · subst hji
      obtain ⟨s₂, hreplay, hsame⟩ := h.free j hfree s₁
      obtain ⟨s₃, hadvance, hsame'⟩ := ha s₂
      refine ⟨s₃, ?_, hsame.trans hsame'⟩
      rw [readings_concat_self labels hl, hp, Function.update_self]
      exact (replay_append_singleton hreplay r).trans hadvance
    · rw [hread j hji, hp, Function.update_of_ne hji]
      exact h.free j (horder ▸ hj) s₁
  · obtain ⟨s₁, hserial, hsame⟩ := h.serial
    rw [horder]
    refine ⟨s₁, hserial.congr (fun j hj => hread j (hne j hj)) fun j hj => ?_, hsame.trans hs⟩
    rw [hp, Function.update_of_ne (hne j hj)]
  · rw [horder, htouch]
    exact h.ordered
  · rw [horder, htouch]
    exact h.touched

/-- An operation gets the lock. -/
theorem grant (h : Recounted ops s labels sys none) {uuid : String}
    (hi : sys.rest i = acquire uuid p) (hp : sys'.rest = Function.update sys.rest i p)
    (hs : sys'.store = sys.store) : Recounted ops s (labels ++ [.granted i]) sys' (some i) := by
  have hfree : i ∉ lockOrder labels := by
    intro hin
    obtain ⟨a, ha⟩ := h.past i hin nofun
    exact nomatch hi.symm.trans ha
  have horder : lockOrder (labels ++ [.granted i]) = lockOrder labels ++ [i] :=
    lockOrder_concat labels _
  have htouch : touchers (labels ++ [.granted i]) = touchers labels :=
    touchers_concat_of_none labels rfl
  have hl : ∀ j, (Label.granted i).reading? j = if i = j then some .granted else none :=
    fun _ => rfl
  have hread : ∀ j ≠ i, readings (labels ++ [.granted i]) j = readings labels j :=
    fun _ => readings_concat_of_ne labels hl
  have hne : ∀ j ∈ lockOrder labels, j ≠ i := fun j hj hji => hfree (hji ▸ hj)
  constructor
  · rw [horder]
    exact List.concat_eq_append ▸ h.nodup.concat hfree
  · intro j hj hji
    have hne' : j ≠ i := fun hji' => hji (congrArg some hji'.symm)
    rw [horder] at hj
    have hj : j ∈ lockOrder labels := by simpa [hne'] using hj
    obtain ⟨a, ha⟩ := h.past j hj nofun
    exact ⟨a, by rw [hp, Function.update_of_ne hne', ha]⟩
  · rintro j ⟨⟩
    exact ⟨lockOrder labels, horder⟩
  · intro j hj
    rw [horder] at hj
    have hji : j ≠ i := fun hji => hj (by simp [hji])
    rw [hread j hji, hp, Function.update_of_ne hji]
    exact h.free j fun hin => hj (List.mem_append_left _ hin)
  · obtain ⟨s₁, hserial, hsame⟩ := h.serial
    obtain ⟨s₂, hreplay, hsame'⟩ := h.free i hfree s₁
    rw [horder]
    refine ⟨s₂, .snoc (hserial.congr (fun j hj => hread j (hne j hj)) fun j hj => ?_) ?_, ?_⟩
    · rw [hp, Function.update_of_ne (hne j hj)]
    · rw [readings_concat_self labels hl, hp, Function.update_self]
      refine (replay_append_singleton hreplay .granted).trans ?_
      rw [hi]
      rfl
    · rw [hs]
      exact ⟨hsame.mappings.trans hsame'.mappings.symm,
        hsame.sequences.trans hsame'.sequences.symm⟩
  · rw [horder, htouch]
    refine h.ordered.imp_of_mem fun {j k} hj hk hle => ?_
    rwa [List.idxOf_append_of_mem (h.touched j hj), List.idxOf_append_of_mem (h.touched k hk)]
  · intro j hj
    rw [htouch] at hj
    exact horder ▸ List.mem_append_left _ (h.touched j hj)

end Recounted

/-! ## Steps and runs -/

section Steps

variable {uuid : String} {ops : ι → Operation} {s : Store} {labels : List (Label ι)}
  {sys sys' : System ι} {holder : Option ι} {label : Label ι} {i : ι}

/-- The operation that stands at a step has not had the lock, unless it has it now. -/
theorem Recounted.not_mem_lockOrder (h : Recounted ops s labels sys holder)
    (hi : holder ≠ some i) (hp : ∀ a, sys.rest i ≠ done a) : i ∉ lockOrder labels := by
  intro hin
  obtain ⟨a, ha⟩ := h.past i hin hi
  exact hp a ha

/-- Both invariants hold, for one holder. -/
def Separated (uuid : String) (ops : ι → Operation) (s : Store) (labels : List (Label ι))
    (sys : System ι) : Prop :=
  ∃ holder, Exclusive uuid sys holder ∧ Recounted ops s labels sys holder

theorem separated_statement (he : Exclusive uuid sys holder)
    (hr : Recounted ops s labels sys holder) {q : Statement}
    {next : Except StoreError q.Value → Program _} (hi : sys.rest i = access q next)
    (now : UInt64) :
    Separated uuid ops s (labels ++ [.stated i q now sys.store.hosts sys.store.instances])
      { sys with
        store := (q.perform now sys.store).2
        rest := Function.update sys.rest i (next (q.perform now sys.store).1) } := by
  by_cases hh : holder = some i
  · subst hh
    have hin := he.inside i rfl
    rw [hi] at hin
    obtain ⟨hs', hp⟩ := hin.perform he.kept now
    have hc : sys.calling = [] := he.calling_eq_nil fun _ _ _ _ hc => nomatch hi.symm.trans hc
    refine ⟨some i, ?_, hr.own (fun _ => rfl) rfl ?_ rfl (fun s₁ hsame => ?_) (Or.inl rfl)⟩
    · rw [hc]
      exact he.own hs' hp
    · intro j hj
      simp only [Label.toucher?, Option.ite_none_right_eq_some] at hj
      exact (Option.some.inj hj.2).symm
    · refine ⟨(q.perform now sys.store).2, ?_, .refl _⟩
      rw [hi, advance, hsame.eq]
  · have hout := he.outside i hh
    rw [hi] at hout
    obtain ⟨u, rfl⟩ := hout.perform
    have hst : (Statement.perform now sys.store (.findInstance u)).2 = sys.store :=
      Store.getInstance_snd sys.store u
    have hfree := hr.not_mem_lockOrder hh fun a ha => nomatch hi.symm.trans ha
    refine ⟨holder, ?_, hr.reads hfree (fun _ => rfl) rfl rfl rfl ?_ fun s₁ => ?_⟩
    · rw [hst]
      exact he.reads hh (hout _)
    · rw [hst]
      exact .refl _
    · let s₂ : Store :=
        { s₁ with hosts := sys.store.hosts, instances := sys.store.instances }
      have hfst : (s₂.getInstance u).1 = (sys.store.getInstance u).1 :=
        Store.getInstance_congr (by rfl) u
      have hfind : Statement.perform now s₂ (.findInstance u) =
          ((Statement.perform now sys.store (.findInstance u)).1, s₂) :=
        Prod.ext hfst (Store.getInstance_snd s₂ u)
      refine ⟨s₂, ?_, ⟨rfl, rfl⟩⟩
      rw [hi, advance, hfind]

theorem separated_asked (he : Exclusive uuid sys holder) (hr : Recounted ops s labels sys holder)
    {u : String} {next : Program _} (hi : sys.rest i = acquire u next) :
    Separated uuid ops s (labels ++ [.asked i]) { sys with locks := sys.locks.ask i u } := by
  have hh : holder ≠ some i := he.holder_ne fun hin => (hi ▸ hin).ne_acquire u next rfl
  obtain ⟨rfl, -⟩ := (hi ▸ he.outside i hh).inside sys.store
  exact ⟨holder, he.ask hh, hr.silent (fun _ => rfl) rfl rfl rfl (.refl _)⟩

theorem separated_granted (he : Exclusive uuid sys holder)
    (hr : Recounted ops s labels sys holder) {u : String} {next : Program _}
    (hi : sys.rest i = acquire u next) (hl : sys.locks.holdsLock i) :
    Separated uuid ops s (labels ++ [.granted i])
      { sys with rest := Function.update sys.rest i next } := by
  have hh : holder ≠ some i := he.holder_ne fun hin => (hi ▸ hin).ne_acquire u next rfl
  obtain ⟨rfl, hin⟩ := (hi ▸ he.outside i hh).inside sys.store
  cases holder with
  | none => exact ⟨some i, he.grant hl hin, hr.grant hi rfl rfl⟩
  | some j =>
    -- the holder is first in the queue, and so nobody else can be
    obtain ⟨key, hk⟩ := (holdsLock_iff he.sound).1 hl
    by_cases hu : key = u
    · rw [hu, he.first j rfl] at hk
      exact absurd hk hh
    · rw [he.others key hu] at hk
      exact nomatch hk

theorem separated_called (he : Exclusive uuid sys holder)
    (hr : Recounted ops s labels sys holder) {caller : Caller} {host : Host} {mapping : Mapping}
    {next : Except ConductorError Rpc.Applied → Program _}
    (hi : sys.rest i = call caller host mapping next) (hn : i ∉ sys.calling) :
    Separated uuid ops s (labels ++ [.called i]) { sys with calling := i :: sys.calling } := by
  obtain rfl := he.holder_eq (i := i) (by rw [hi]; exact id)
  exact ⟨some i, he.call hi hn, hr.silent (fun _ => rfl) rfl rfl rfl (.refl _)⟩

theorem separated_answered (he : Exclusive uuid sys holder)
    (hr : Recounted ops s labels sys holder) {caller : Caller} {host : Host} {mapping : Mapping}
    {next : Except ConductorError Rpc.Applied → Program _}
    (hi : sys.rest i = call caller host mapping next) (answer : Except ConductorError Rpc.Applied) :
    Separated uuid ops s (labels ++ [.answered i answer]) { sys with
      rest := Function.update sys.rest i (next answer)
      calling := sys.calling.erase i } := by
  obtain rfl := he.holder_eq (i := i) (by rw [hi]; exact id)
  have hin := he.inside i rfl
  rw [hi] at hin
  have hc : sys.calling.erase i = [] := by
    refine List.eq_nil_iff_forall_not_mem.2 fun j hj => ?_
    obtain ⟨hne, hj⟩ := he.nodup.mem_erase_iff.1 hj
    exact hne (Option.some.inj (he.calling j hj).1).symm
  refine ⟨some i, ?_, hr.own (fun _ => rfl) rfl (fun j hj => nomatch hj) rfl
    (fun s₁ hsame => ⟨s₁, ?_, hsame⟩) (Or.inl rfl)⟩
  · rw [hc]
    exact he.own he.kept (hin.answer answer).2
  · rw [hi, advance]

theorem separated_released (he : Exclusive uuid sys holder)
    (hr : Recounted ops s labels sys holder) {u : String} {next : Program _}
    (hi : sys.rest i = release u next) :
    Separated uuid ops s (labels ++ [.released i]) { sys with
      locks := sys.locks.giveBack i
      rest := Function.update sys.rest i next } := by
  obtain rfl := he.holder_eq (i := i) (by rw [hi]; exact id)
  have hin := he.inside i rfl
  rw [hi] at hin
  obtain ⟨rfl, a, rfl⟩ := hin.release
  have hc : sys.calling = [] := he.calling_eq_nil fun _ _ _ _ hc => nomatch hi.symm.trans hc
  refine ⟨none, he.release hc a, hr.own (fun _ => rfl) rfl (fun j hj => nomatch hj) rfl
    (fun s₁ hsame => ⟨s₁, ?_, hsame⟩) (Or.inr ⟨rfl, a, rfl⟩)⟩
  rw [hi, advance]

/-- Every step keeps operations apart. -/
theorem Separated.step (h : Separated uuid ops s labels sys) (hs : Step sys label sys') :
    Separated uuid ops s (labels ++ [label]) sys' := by
  obtain ⟨holder, he, hr⟩ := h
  cases hs with
  | reported now report =>
    have hsame := SameMappings.report report now sys.store
    exact ⟨holder, he.report hsame, hr.silent (fun _ => rfl) rfl rfl rfl hsame⟩
  | stated now rest => exact separated_statement he hr rest now
  | asked rest new => exact separated_asked he hr rest
  | granted rest holds => exact separated_granted he hr rest holds
  | called rest new => exact separated_called he hr rest new
  | answered answer rest calling => exact separated_answered he hr rest answer
  | released rest => exact separated_released he hr rest

theorem Run.separated (hops : ∀ i, (ops i).About uuid) (hs : s.MappingsKept)
    (h : Run ops s labels sys) : Separated uuid ops s labels sys := by
  induction h with
  | start => exact ⟨none, .start hops hs, .start ops s⟩
  | step _ hstep ih => exact ih.step hstep

end Steps

/-- Between two steps of one operation that touch mappings, no other operation touches them. -/
theorem toucher?_between {labels : List (Label ι)} {order : List ι}
    (ho : (touchers labels).Pairwise fun i j => order.idxOf i ≤ order.idxOf j)
    (ht : ∀ i ∈ touchers labels, i ∈ order) {before between after : List (Label ι)}
    {first last : Label ι} {i : ι} (hl : labels = before ++ first :: between ++ last :: after)
    (hfirst : first.toucher? = some i) (hlast : last.toucher? = some i) {label : Label ι}
    (hb : label ∈ between) {j : ι} (hj : label.toucher? = some j) : j = i := by
  have heq : touchers labels =
      touchers before ++ (i :: touchers between) ++ (i :: touchers after) := by
    simp [hl, touchers, List.filterMap_append, hfirst, hlast]
  have hmem : j ∈ touchers between := List.mem_filterMap.2 ⟨label, hb, hj⟩
  rw [heq] at ho ht
  obtain ⟨ho', -, hafter⟩ := List.pairwise_append.1 ho
  obtain ⟨-, hbetween, -⟩ := List.pairwise_append.1 ho'
  have hij := (List.pairwise_cons.1 hbetween).1 j hmem
  have hji := hafter j (by simp [hmem]) i List.mem_cons_self
  exact (List.idxOf_inj (ht j (by simp [hmem]))).1 (Nat.le_antisymm hji hij)

/-- Operations on the mapping of one instance are serializable. Whatever their steps and the
reports in between :

* one call of a host is under way at most, and it is about this mapping;
* no other operation reads or writes mappings from the first time that one does to the last;
* a cycle always finds the mapping that it is to end;
* in the order in which they got the lock, the operations have the same results one at a time and
  leave the same mappings;
* those that have not had the lock have the same results at any time, and change no mapping. -/
theorem serializable {uuid : String} {ops : ι → Operation} {s : Store}
    {labels : List (Label ι)} {sys : System ι} (hs : Reached s) (hops : ∀ i, (ops i).About uuid)
    (hr : Run ops s labels sys) :
    (sys.calling.length ≤ 1 ∧ ∀ i ∈ sys.calling, ∃ caller host mapping next,
      sys.rest i = .call caller host mapping next ∧ mapping.instanceUuid = uuid) ∧
    (∀ before between after first last i,
      labels = before ++ first :: between ++ last :: after → first.toucher? = some i →
      last.toucher? = some i → ∀ label ∈ between, ∀ j, label.toucher? = some j → j = i) ∧
    (∀ i u failure next, sys.rest i = .access (.settle u failure) next →
      ∀ now, ∃ m, ((Statement.settle u failure).perform now sys.store).1 = .ok m) ∧
    ((lockOrder labels).Nodup ∧ ∃ s',
      Serial ops (readings labels) sys.rest s (lockOrder labels) s' ∧
      SameMappings s' sys.store) ∧
    ∀ i ∉ lockOrder labels, ∀ s₁, ∃ s₂,
      (ops i).program.run.replay (readings labels i) s₁ = some (sys.rest i, s₂) ∧
      SameMappings s₁ s₂ := by
  obtain ⟨holder, he, hrec⟩ := hr.separated hops hs.mappingsKept
  refine ⟨⟨?_, fun i hi => ?_⟩, ?_, ?_, ⟨hrec.nodup, hrec.serial⟩, hrec.free⟩
  · exact he.length_calling_le_one
  · obtain ⟨hh, caller, host, mapping, next, hc⟩ := he.calling i hi
    exact ⟨caller, host, mapping, next, hc, ((hc ▸ he.inside i hh).answer (.error .unauthorized)).1⟩
  · intro before between after first last i hl hfirst hlast label hb j hj
    exact toucher?_between hrec.ordered hrec.touched hl hfirst hlast hb hj
  · intro i u failure next hi now
    have hh := he.holder_eq (i := i) (by rw [hi]; exact id)
    obtain ⟨rfl, hk⟩ := (hi ▸ he.inside i hh).settle
    obtain ⟨m, hm⟩ := Option.isSome_iff_exists.1 hk
    have hp : (Statement.settle u failure).perform now sys.store = _ :=
      Store.updateMapping_of_some he.kept hm (Mapping.canBecome_settled m failure) now
    exact ⟨_, congrArg Prod.fst hp⟩

/-- One instance, a request to apply its mapping, and one to remove it. -/
def reconcileAndDelete : Bool → Operation
  | true => .reconcile ⟨"r", none, none, true⟩ "vm-a" "host-a"
  | false => .delete "vm-a"

/-- The request to apply gets the lock, finds the mapping and moves it. Its host reports, is called
and answers, and the mapping is settled, all while the request to remove waits. -/
theorem exists_run_of_waiting_delete {s s₁ s₂ s₃ s₄ : Store} {m m₁ m₂ : Mapping}
    {report host : Host} (hfind : s.getMapping "vm-a" = (.ok (some m), s))
    (hmove : (Statement.move "vm-a" "host-a").perform 8 s = (.ok m₁, s₁))
    (hreport : ((Statement.reportHost report).perform 9 s₁).2 = s₂)
    (hhost : s₂.getHost "host-a" = (.ok (some host), s₂))
    (hsettle : (Statement.settle m₁.instanceUuid none).perform 11 s₂ = (.ok m₂, s₃))
    (hdelete : (Statement.delete "vm-a").perform 12 s₃ = (.ok true, s₄)) :
    ∃ (labels : List (Label Bool)) (sys : System Bool),
      Run reconcileAndDelete s labels sys ∧ lockOrder labels = [true, false] ∧
      touchers labels = [true, true, true, false] ∧ .reported ∈ labels ∧ .called true ∈ labels ∧
      sys.rest true = .done (.ok (.mapping (some m₂))) ∧ sys.rest false = .done (.ok .deleted) ∧
      sys.store = s₄ := by
  let locks : LockTable Bool := .empty
  have hnew₁ : true ∉ locks.tickets.map Prod.fst := List.not_mem_nil
  have hheld₁ : (locks.ask true "vm-a").holdsLock true := by decide
  have hnew₂ : false ∉ (locks.ask true "vm-a").tickets.map Prod.fst := by decide
  have hheld₂ : (((locks.ask true "vm-a").ask false "vm-a").giveBack true).holdsLock false := by
    decide
  have h₀ : Run reconcileAndDelete s [] _ := .start
  have h₁ := h₀.step (.asked (i := true) rfl hnew₁)
  have h₂ := h₁.step (.granted (i := true) rfl hheld₁)
  have h₃ := h₂.step (.asked (i := false) rfl hnew₂)
  have h₄ := h₃.step (.stated_of_eq (i := true) 8 rfl hfind)
  have h₅ := h₄.step (.stated_of_eq (i := true) 8 rfl hmove)
  have h₆ := h₅.step (.reported (q := .reportHost report) 9 trivial)
  rw [hreport] at h₆
  have h₇ := h₆.step (.stated_of_eq (i := true) 10 rfl hhost)
  have h₈ := h₇.step (.called (i := true) rfl List.not_mem_nil)
  have h₉ := h₈.step (.answered (i := true) (.ok ⟨true, [true]⟩) rfl List.mem_cons_self)
  have h₁₀ := h₉.step (.stated_of_eq (i := true) 11 rfl hsettle)
  have h₁₁ := h₁₀.step (.released (i := true) rfl)
  have h₁₂ := h₁₁.step (.granted (i := false) rfl hheld₂)
  have h₁₃ := h₁₂.step (.stated_of_eq (i := false) 12 rfl hdelete)
  have h₁₄ := h₁₃.step (.released (i := false) rfl)
  exact ⟨_, _, h₁₄, rfl, rfl, by simp, by simp, rfl, rfl, rfl⟩

/-- The report of a host with some CPUs. -/
def reportOfCpus (cpus : UInt32) : Host :=
  ⟨"host-a", .empty, cpus, some "host-a:7421", 1⟩

/-- A host has reported, and a mapping waits to be applied. -/
def pendingStore : Store :=
  let around : Surroundings Unit := ⟨fun c => (7, c), fun _ _ _ c => (.error .unauthorized, c)⟩
  let ops : List Operation := [.reportHost (reportOfCpus 1),
    .create ⟨"r", none, none, true⟩ ⟨"vm-a", "0", true, none⟩]
  (Operation.after around ops (.empty, ())).1

/-- The mapping is applied on the host, which reports anew before it is called, and then removed. One
at a time the two have these results as well. -/
theorem serializable_of_reconcile_and_delete :
    ∃ (labels : List (Label Bool)) (sys : System Bool),
      Run reconcileAndDelete pendingStore labels sys ∧ lockOrder labels = [true, false] ∧
      touchers labels = [true, true, true, false] ∧ .reported ∈ labels ∧ .called true ∈ labels ∧
      sys.rest true = .done (.ok (.mapping
        (some ⟨1, "vm-a", none, none, some "host-a", "0", .succeed, none, 7, 11⟩))) ∧
      sys.rest false = .done (.ok .deleted) ∧ sys.store.mapping? "vm-a" = none ∧
      ∃ s', Serial reconcileAndDelete (readings labels) sys.rest pendingStore [true, false] s' ∧
        SameMappings s' sys.store := by
  have hs : Reached pendingStore := ⟨Unit, _, _, (), rfl⟩
  have hops : ∀ i, (reconcileAndDelete i).About "vm-a"
    | true => rfl
    | false => rfl
  let m : Mapping := ⟨1, "vm-a", none, none, none, "0", .pending, none, 7, 7⟩
  let m₁ := m.afterMove "host-a" 8
  let m₂ := m₁.afterCycle none 11
  have hfound : pendingStore.mapping? "vm-a" = some m := by decide +kernel
  have hm : pendingStore.Holds m := hfound
  obtain ⟨s₁, hs₁⟩ : ∃ s₁, s₁ = pendingStore.withMapping m₁ := ⟨_, rfl⟩
  obtain ⟨s₂, hs₂⟩ : ∃ s₂, s₂ = ((Statement.reportHost (reportOfCpus 2)).perform 9 s₁).2 :=
    ⟨_, rfl⟩
  have hmove : (Statement.move "vm-a" "host-a").perform 8 pendingStore = (.ok m₁, s₁) :=
    hs₁ ▸ Store.updateMapping_of_holds hm (Mapping.canBecome_withHost m "host-a") 8
  have hhost : s₂.getHost "host-a" = (.ok (some (reportOfCpus 2)), s₂) := by
    refine Prod.ext ?_ (Store.getHost_snd s₂ _)
    rw [hs₂, hs₁]
    decide +kernel
  have hreport : (Statement.reportHost (reportOfCpus 2)).IsReport := trivial
  have hsame : SameMappings s₁ s₂ := hs₂ ▸ .report hreport 9 s₁
  have hmoved : s₂.Holds m₁ := by
    rw [Store.Holds, Store.mapping?_congr hsame.mappings, hs₁]
    exact Store.holds_withMapping pendingStore m₁
  have hsettle : (Statement.settle m₁.instanceUuid none).perform 11 s₂ =
      (.ok m₂, s₂.withMapping m₂) :=
    Store.updateMapping_of_holds hmoved (Mapping.canBecome_settled m₁ none) 11
  have hkept : (s₂.withMapping m₂).MappingsKept := by
    have hkept₁ : s₁.MappingsKept := hs₁ ▸ hs.mappingsKept.withMapping m₁
    exact (hkept₁.congr hsame.mappings).withMapping m₂
  have hdelete : (Statement.delete "vm-a").perform 12 (s₂.withMapping m₂) =
      (.ok true, (s₂.withMapping m₂).dropRow .mappings "vm-a") := by
    have hsome : ((s₂.withMapping m₂).mapping? "vm-a").isSome = true :=
      Store.isSome_mapping?_withMapping s₂ m₂
    exact hsome ▸ Store.deleteMapping_eq hkept "vm-a"
  obtain ⟨labels, sys, hrun, horder, htouch, hreported, hcalled, htrue, hfalse, hstore⟩ :=
    exists_run_of_waiting_delete (Store.getMapping_of_some hfound) hmove hs₂.symm hhost hsettle
      hdelete
  obtain ⟨-, -, -, ⟨-, hserial⟩, -⟩ := serializable hs hops hrun
  refine ⟨labels, sys, hrun, horder, htouch, hreported, hcalled, htrue, hfalse, ?_,
    horder ▸ hserial⟩
  rw [hstore]
  exact Store.mapping?_dropRow_self _ _

end VcpuPinning.Conductor
