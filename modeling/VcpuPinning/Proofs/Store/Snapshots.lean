import Mathlib.Data.List.Induction
import VcpuPinning.Proofs.Store.Reports

/-!
# The last change

A stored report is dated by its last change: it is the first of the last run of reports under its
key that agree in all but the time (`OpensLastRun`). `follows_after` is the induction over the
operations on an empty store, and `upserts_keep_last_change` adds what each report is answered with.
-/

namespace VcpuPinning.Store

variable {α : Type}

/-! ## Runs of equal reports -/

/-- A report is the first of the last run of reports that agree with it but for the time. -/
def OpensLastRun (undated : α → α) (a : α) (reports : List α) : Prop :=
  ∃ before run, reports = before ++ a :: run ∧ (∀ b ∈ run, undated b = undated a) ∧
    ∀ b ∈ before.getLast?, undated b ≠ undated a

namespace OpensLastRun

variable {undated : α → α} {a b : α} {reports : List α}

theorem not_nil : ¬ OpensLastRun undated a [] := by
  rintro ⟨before, run, h, -⟩
  simp at h

/-- The last report agrees with the one that opens the run. -/
theorem getLast? (h : OpensLastRun undated a reports) :
    ∃ b ∈ reports.getLast?, undated b = undated a := by
  obtain ⟨before, run, rfl, hrun, -⟩ := h
  cases run using List.reverseRecOn with
  | nil => exact ⟨a, by simp, rfl⟩
  | append_singleton run b =>
    have hlast : (before ++ a :: (run ++ [b])).getLast? = some b := by
      rw [← List.cons_append, ← List.append_assoc, List.getLast?_concat]
    exact ⟨b, hlast, hrun b (by simp)⟩

/-- One more report goes on with the run, or it opens another. -/
theorem concat_iff : OpensLastRun undated a (reports ++ [b]) ↔
    OpensLastRun undated a reports ∧ undated b = undated a ∨
      b = a ∧ ∀ c ∈ reports.getLast?, undated c ≠ undated a := by
  constructor
  · rintro ⟨before, run, h, hrun, hbefore⟩
    cases run using List.reverseRecOn with
    | nil =>
      obtain ⟨rfl, hb⟩ := List.append_inj' h rfl
      exact .inr ⟨List.singleton_inj.1 hb, hbefore⟩
    | append_singleton run c =>
      have h' : reports ++ [b] = (before ++ a :: run) ++ [c] := by simpa using h
      obtain ⟨rfl, hb⟩ := List.append_inj' h' rfl
      obtain rfl := List.singleton_inj.1 hb
      exact .inl ⟨⟨before, run, rfl, fun d hd => hrun d (by simp [hd]), hbefore⟩,
        hrun b (by simp)⟩
  · rintro (⟨⟨before, run, rfl, hrun, hbefore⟩, hb⟩ | ⟨rfl, hb⟩)
    · refine ⟨before, run ++ [b], by simp, fun c hc => ?_, hbefore⟩
      rcases List.mem_append.1 hc with hc | hc
      · exact hrun c hc
      · rwa [List.mem_singleton.1 hc]
    · exact ⟨reports, [], rfl, by simp, hb⟩

/-- A report that agrees with the one that opens the last run leaves it the opening one. -/
theorem concat_iff_of_eq {c : α} (hc : OpensLastRun undated c reports)
    (hb : undated b = undated c) :
    OpensLastRun undated a (reports ++ [b]) ↔ OpensLastRun undated a reports := by
  obtain ⟨last, hlast, hl⟩ := hc.getLast?
  rw [concat_iff]
  constructor
  · rintro (⟨ha, -⟩ | ⟨rfl, ha⟩)
    · exact ha
    · exact absurd (hl.trans hb.symm) (ha last hlast)
  · intro ha
    obtain ⟨last', hlast', hl'⟩ := ha.getLast?
    obtain rfl := Option.mem_unique hlast hlast'
    exact .inl ⟨ha, hb.trans (hl.symm.trans hl')⟩

/-- A report that differs from it opens a run of its own. -/
theorem concat_iff_of_ne {c : α} (hc : OpensLastRun undated c reports)
    (hb : undated b ≠ undated c) : OpensLastRun undated a (reports ++ [b]) ↔ b = a := by
  obtain ⟨last, hlast, hl⟩ := hc.getLast?
  rw [concat_iff]
  constructor
  · rintro (⟨ha, hba⟩ | ⟨rfl, -⟩)
    · obtain ⟨last', hlast', hl'⟩ := ha.getLast?
      obtain rfl := Option.mem_unique hlast hlast'
      exact absurd (hba.trans (hl'.symm.trans hl)) hb
    · rfl
  · rintro rfl
    refine .inr ⟨rfl, fun d hd hdb => hb ?_⟩
    obtain rfl := Option.mem_unique hlast hd
    exact hdb.symm.trans hl

end OpensLastRun

/-- Of reports there is one that opens the last run. -/
theorem exists_opensLastRun (undated : α → α) {reports : List α} (h : reports ≠ []) :
    ∃ a, OpensLastRun undated a reports := by
  induction reports using List.reverseRecOn with
  | nil => exact absurd rfl h
  | append_singleton reports b ih =>
    rcases reports.eq_nil_or_concat with rfl | ⟨_, _, he⟩
    · exact ⟨b, OpensLastRun.concat_iff.2 (.inr ⟨rfl, by simp⟩)⟩
    · obtain ⟨c, hc⟩ := ih (by simp [he])
      by_cases hb : undated b = undated c
      · exact ⟨c, (hc.concat_iff_of_eq hb).2 hc⟩
      · exact ⟨b, (hc.concat_iff_of_ne hb).2 rfl⟩

/-! ## What is stored -/

namespace ReportKind

variable (k : ReportKind α) {s : Store} {rs : List α}

/-- The reports of a kind that steps take, in order. -/
def reports (steps : List Step) : List α :=
  steps.filterMap fun step => k.reported? step.operation

/-- The reports under a key. -/
def under (key : String) (rs : List α) : List α :=
  rs.filter (k.key · = key)

/-- Each stored report opens the last run of those under its key. -/
def Follows (s : Store) (rs : List α) : Prop :=
  ∀ key a, k.stored? s key = some a ↔ OpensLastRun k.undated a (k.under key rs)

variable {k}

theorem Follows.stored?_eq_none_iff (h : k.Follows s rs) {key : String} :
    k.stored? s key = none ↔ k.under key rs = [] := by
  constructor
  · intro hn
    by_contra hne
    obtain ⟨a, ha⟩ := exists_opensLastRun k.undated hne
    rw [(h key a).2 ha] at hn
    exact nomatch hn
  · intro hn
    refine Option.eq_none_iff_forall_ne_some.2 fun a ha => ?_
    have hopens := (h key a).1 ha
    rw [hn] at hopens
    exact OpensLastRun.not_nil hopens

/-- One report settles what is stored under its key as one more in the sequence. -/
theorem Follows.take [DecidableEq α] (h : k.Follows s rs) (hk : k.Kept s) (b : α) :
    k.Follows (k.take b s).2 (rs ++ [b]) := by
  intro key a
  rw [stored?_take hk]
  by_cases hkey : key = k.key b
  · subst hkey
    have hunder : k.under (k.key b) (rs ++ [b]) = k.under (k.key b) rs ++ [b] := by
      simp [under]
    rw [Function.update_self, hunder]
    cases hs : k.stored? s (k.key b) with
    | none =>
      rw [h.stored?_eq_none_iff.1 hs, OpensLastRun.concat_iff]
      simp [OpensLastRun.not_nil]
    | some c =>
      have hc := (h _ c).1 hs
      rw [settled_some]
      by_cases hu : k.undated b = k.undated c
      · rw [if_pos hu, hc.concat_iff_of_eq hu, ← h, hs]
      · rw [if_neg hu, hc.concat_iff_of_ne hu, Option.some_inj]
  · have hunder : k.under key (rs ++ [b]) = k.under key rs := by
      simp [under, Ne.symm hkey]
    rw [Function.update_of_ne hkey, hunder, h]

/-- Operations on an empty store leave, under each key, the report that opens the last run. -/
theorem follows_after [DecidableEq α] (k : ReportKind α) (steps : List Step) :
    k.Follows (after .empty steps) (k.reports steps) := by
  induction steps using List.reverseRecOn with
  | nil =>
    intro key a
    have hn : k.stored? .empty key = none := by
      cases ht : k.table <;> simp [stored?, row?, rows, Store.empty, ht]
    change k.stored? .empty key = some a ↔ OpensLastRun k.undated a []
    simp [hn, OpensLastRun.not_nil]
  | append_singleton steps step ih =>
    have hk : k.Kept (after .empty steps) := .after .empty steps
    rw [after_append, after, after, Step.next]
    rcases k.perform_cases step.now (after .empty steps) step.operation with
      ⟨a, hr, hp⟩ | ⟨hr, hp⟩
    · have hreports : k.reports (steps ++ [step]) = k.reports steps ++ [a] := by
        simp [reports, hr]
      rw [hp, hreports]
      exact ih.take hk a
    · have hreports : k.reports (steps ++ [step]) = k.reports steps := by
        simp [reports, hr]
      intro key a
      rw [k.stored?_congr hp, hreports]
      exact ih key a

end ReportKind

/-! ## Answers -/

/-- After reports of a kind, `get` finds under each key the one that opens the last run, and `take`
tells of one more whether it is the first under its key, agrees with the stored one, or differs from
it and in which fields. -/
structure KeepsLastChange (k : ReportKind α)
    (get : String → Store → Except StoreError (Option α) × Store)
    (take : α → Store → Except StoreError Upsert × Store) (reports : List α) (s : Store) :
    Prop where
  found : ∀ key, ∃ found?, (get key s).1 = .ok found? ∧
    (found? = none ↔ ∀ a ∈ reports, k.key a ≠ key) ∧
    ∀ a, found? = some a ↔ OpensLastRun k.undated a (reports.filter (k.key · = key))
  answered : ∀ a, ∃ outcome, (take a s).1 = .ok outcome ∧
    (outcome = .created ↔ ∀ b ∈ reports, k.key b ≠ k.key a) ∧
    (outcome = .unchanged ↔
      ∃ b, (get (k.key a) s).1 = .ok (some b) ∧ k.undated a = k.undated b) ∧
    ∀ fields, outcome = .updated fields → fields ≠ [] ∧ fields.Sublist k.fieldNames ∧
      ∃ b, (get (k.key a) s).1 = .ok (some b) ∧ k.undated a ≠ k.undated b ∧
        ∀ field, field ∈ fields ↔ k.DiffersIn a b field

theorem ReportKind.under_eq_nil_iff {k : ReportKind α} {key : String} {reports : List α} :
    k.under key reports = [] ↔ ∀ a ∈ reports, k.key a ≠ key := by
  simp [under]

/-- Reports of one kind, among any other operations. -/
theorem ReportKind.keepsLastChange [DecidableEq α] (k : ReportKind α) (steps : List Step) :
    KeepsLastChange k (find k.table k.ofJson?) k.take (k.reports steps)
      (after .empty steps) := by
  have hk : k.Kept (after .empty steps) := .after .empty steps
  have hf := k.follows_after steps
  refine ⟨fun key => ?_, fun a => ?_⟩
  · refine ⟨_, by rw [hk.find_eq], ?_, hf key⟩
    rw [hf.stored?_eq_none_iff, under_eq_nil_iff]
  · have hfirst : k.stored? (after .empty steps) (k.key a) = none ↔
        ∀ b ∈ k.reports steps, k.key b ≠ k.key a := hf.stored?_eq_none_iff.trans under_eq_nil_iff
    rw [hk.find_eq, take_eq hk]
    cases hs : k.stored? (after .empty steps) (k.key a) with
    | none =>
      refine ⟨.created, rfl, ?_, ?_, ?_⟩
      · exact iff_of_true rfl (hfirst.1 hs)
      · simp
      · simp
    | some b =>
      have hnot : ¬ ∀ b ∈ k.reports steps, k.key b ≠ k.key a := by
        rw [← hfirst, hs]
        exact nofun
      have hkey : k.key a = k.key b := (hk.key_of_stored? hs).symm
      dsimp only
      by_cases hu : k.undated a = k.undated b
      · rw [if_pos hu]
        refine ⟨.unchanged, rfl, ?_, ?_, ?_⟩
        · exact iff_of_false (by simp) hnot
        · exact iff_of_true rfl ⟨b, rfl, hu⟩
        · simp
      · rw [if_neg hu]
        refine ⟨.updated (k.changes a b), rfl, ?_, ?_, ?_⟩
        · exact iff_of_false (by simp) hnot
        · refine iff_of_false (by simp) ?_
          rintro ⟨c, hc, hac⟩
          obtain rfl : b = c := by simpa using hc
          exact hu hac
        · rintro fields ⟨⟩
          exact ⟨changes_ne_nil hkey hu, k.changes_sublist a b, b, rfl, hu,
            fun field => k.mem_changes_iff⟩

/-- Operations on an empty store, one after the other. Under each key the store has the report that
opened the last run of equal ones, with the time of that report. The next report is the first under
its key exactly if it is answered as created; it agrees with the stored one in all but the time
exactly if it is answered as unchanged; and otherwise the answer names the fields in which it
differs, of which there is one at least, in the order of the fields. -/
theorem upserts_keep_last_change (steps : List Step) :
    KeepsLastChange hostReports getHost upsertHost (hostReports.reports steps)
        (after .empty steps) ∧
      KeepsLastChange instanceReports getInstance upsertInstance (instanceReports.reports steps)
        (after .empty steps) :=
  ⟨hostReports.keepsLastChange steps, instanceReports.keepsLastChange steps⟩

end VcpuPinning.Store
