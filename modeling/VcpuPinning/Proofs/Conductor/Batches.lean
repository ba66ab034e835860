import VcpuPinning.Proofs.Conductor.Reports
import VcpuPinning.Proofs.Store.Batches

/-!
# Batches of instances

`batch_in_any_order` : a host reports its instances, each once, to any store, also one with rows
that cannot be read. The summary and the store that is left (`BatchTaken`) are the same for every
order of the records, and the same report once more, at any time, changes nothing.
-/

namespace VcpuPinning

/-- The row of an instance can be read, or there is none. -/
def Store.readable (s : Store) (uuid : String) : Bool :=
  (s.getInstance uuid).1.isOk

namespace Conductor

/-- The report of a batch is answered with a summary and leaves a store, whatever there is around
the service. -/
def Takes (hostName : String) (batch : List Instance) (s : Store) (summary : Rpc.Summary)
    (s' : Store) : Prop :=
  ∀ (σ : Type) (around : Surroundings σ) (c : σ),
    ∃ c', (Operation.reportInstances hostName batch).perform around (s, c) =
      (.ok (.instances summary), (s', c'))

/-- A batch was reported for a host, with a summary. -/
structure BatchTaken (hostName : String) (batch : List Instance) (s s' : Store)
    (summary : Rpc.Summary) : Prop where
  total : summary.created + summary.updated + summary.unchanged + summary.failed =
    .ofNat batch.length
  /-- The counters do not run over. -/
  total_toNat : batch.length < UInt64.size → summary.created.toNat + summary.updated.toNat +
    summary.unchanged.toNat + summary.failed.toNat = batch.length
  failed : summary.failed = .ofNat (batch.countP fun i => !s.readable i.uuid)
  /-- A row that cannot be read stays. -/
  unreadable : ∀ i ∈ batch, s.readable i.uuid = false →
    s'.row? .instances i.uuid = s.row? .instances i.uuid
  /-- Every other record is stored, on the host that reports it. -/
  stored : ∀ i ∈ batch, s.readable i.uuid = true → ∃ j, (s'.getInstance i.uuid).1 = .ok (some j) ∧
    j.host = some hostName ∧ j.status = i.status ∧ j.cpuMappings = i.cpuMappings
  others : ∀ t key, (t = .instances → ∀ i ∈ batch, i.uuid ≠ key) → s'.row? t key = s.row? t key
  sequences : s'.sequences = s.sequences

/-! ## Summaries -/

/-- The summary of reports. -/
def summaryOfResults (results : List (Except StoreError Upsert)) : Rpc.Summary :=
  results.foldl tally {}

theorem summaryOfResults_eq (results : List (Except StoreError Upsert)) :
    summaryOfResults results = ⟨.ofNat (results.count (.ok .created)),
      .ofNat (results.countP isUpdated), .ofNat (results.count (.ok .unchanged)),
      .ofNat (results.countP isFailed)⟩ := by
  simp [summaryOfResults, foldl_tally_results]

theorem summaryOfResults_of_perm {results results' : List (Except StoreError Upsert)}
    (h : results'.Perm results) : summaryOfResults results' = summaryOfResults results := by
  simp only [summaryOfResults_eq, h.count_eq, h.countP_eq]

theorem total_summaryOfResults (results : List (Except StoreError Upsert)) :
    (summaryOfResults results).created + (summaryOfResults results).updated +
      (summaryOfResults results).unchanged + (summaryOfResults results).failed =
        .ofNat results.length := by
  rw [summaryOfResults_eq, ← count_results results]
  simp only [UInt64.ofNat_add]

theorem total_toNat_summaryOfResults {results : List (Except StoreError Upsert)}
    (h : results.length < UInt64.size) : (summaryOfResults results).created.toNat +
      (summaryOfResults results).updated.toNat + (summaryOfResults results).unchanged.toNat +
      (summaryOfResults results).failed.toNat = results.length := by
  have hc := count_results results
  rw [summaryOfResults_eq]
  dsimp only
  rw [UInt64.toNat_ofNat_of_lt' (by omega), UInt64.toNat_ofNat_of_lt' (by omega),
    UInt64.toNat_ofNat_of_lt' (by omega), UInt64.toNat_ofNat_of_lt' (by omega), hc]

theorem isFailed_eq (result : Except StoreError Upsert) : isFailed result = !result.isOk := by
  cases result <;> rfl

/-- Reports that are unchanged unless they fail. -/
theorem summaryOfResults_map_unchanged (results : List (Except StoreError Upsert)) :
    summaryOfResults (results.map (Except.map fun _ => Upsert.unchanged)) =
      ⟨0, 0, .ofNat (results.countP (·.isOk)), .ofNat (results.countP isFailed)⟩ := by
  have hcreated : (results.map (Except.map fun _ => Upsert.unchanged)).count (.ok .created) =
      0 := by
    refine List.count_eq_zero.2 fun h => ?_
    obtain ⟨result, -, hr⟩ := List.mem_map.1 h
    cases result <;> exact nomatch hr
  have hupdated : (results.map (Except.map fun _ => Upsert.unchanged)).countP isUpdated = 0 := by
    rw [List.countP_map, List.countP_eq_zero]
    rintro (e | outcome) - <;> exact Bool.false_ne_true
  have hunchanged : (results.map (Except.map fun _ => Upsert.unchanged)).count (.ok .unchanged) =
      results.countP (·.isOk) := by
    rw [List.count, List.countP_map]
    refine List.countP_congr fun result _ => ?_
    cases result <;> simp [Except.map, Except.isOk, Except.toBool]
  have hfailed : (results.map (Except.map fun _ => Upsert.unchanged)).countP isFailed =
      results.countP isFailed := by
    rw [List.countP_map]
    refine List.countP_congr fun result _ => ?_
    cases result <;> rfl
  rw [summaryOfResults_eq, hcreated, hupdated, hunchanged, hfailed]
  rfl

/-! ## Batches -/

open Store (instanceReports)

section Batch

variable (hostName : String) (batch : List Instance) (s : Store)

/-- The records of a batch as they are stored. -/
def recordsOf : List Instance :=
  batch.map (reportedOn hostName)

theorem takes_batch :
    Takes hostName batch s
      (summaryOfResults (instanceReports.takeEach (recordsOf hostName batch) s).1)
      (instanceReports.takeEach (recordsOf hostName batch) s).2 := by
  refine fun σ around c => ⟨(fun c => (around.clock.run c).2)^[batch.length] c, ?_⟩
  rw [perform_reportInstances, reconcileInstances, run_reconcileEach]
  rfl

theorem length_answers_recordsOf :
    (instanceReports.answers (recordsOf hostName batch) s).length = batch.length := by
  rw [Store.ReportKind.length_answers, recordsOf, List.length_map]

variable {batch s}

theorem nodup_keys_recordsOf (hn : (batch.map (·.uuid)).Nodup) :
    ((recordsOf hostName batch).map instanceReports.key).Nodup := by
  rwa [recordsOf, List.map_map]

/-- A record is taken unless its row cannot be read. -/
theorem isOk_answer_reportedOn (i : Instance) :
    (instanceReports.answer (reportedOn hostName i) (s.row? .instances i.uuid)).isOk =
      s.readable i.uuid :=
  instanceReports.isOk_answer _ s i.uuid

variable {hostName}

/-- Counting what records are answered is counting rows that can be read. -/
theorem countP_answers_recordsOf {p : Except StoreError Upsert → Bool} {q : Bool → Bool}
    (h : ∀ result, p result = q result.isOk) :
    (instanceReports.answers (recordsOf hostName batch) s).countP p =
      batch.countP fun i => q (s.readable i.uuid) := by
  rw [Store.ReportKind.answers, recordsOf, List.map_map, List.countP_map]
  refine List.countP_congr fun i _ => ?_
  rw [← isOk_answer_reportedOn hostName, ← h]
  rfl

/-- The row of each record, by the one that is there before. -/
theorem row?_takeEach_recordsOf (hn : (batch.map (·.uuid)).Nodup) {i : Instance} (hi : i ∈ batch) :
    (instanceReports.takeEach (recordsOf hostName batch) s).2.row? .instances i.uuid =
      some (instanceReports.rowAfter (reportedOn hostName i) (s.row? .instances i.uuid)) :=
  Store.ReportKind.row?_takeEach_self (nodup_keys_recordsOf hostName hn)
    (List.mem_map_of_mem (f := reportedOn hostName) hi) s

/-- What the report of a batch makes of a store. -/
theorem batchTaken (hn : (batch.map (·.uuid)).Nodup) :
    BatchTaken hostName batch s (instanceReports.takeEach (recordsOf hostName batch) s).2
      (summaryOfResults (instanceReports.answers (recordsOf hostName batch) s)) where
  total := by rw [total_summaryOfResults, length_answers_recordsOf]
  total_toNat hmax := by
    rw [← length_answers_recordsOf hostName batch s] at hmax ⊢
    exact total_toNat_summaryOfResults hmax
  failed := by rw [summaryOfResults_eq, countP_answers_recordsOf isFailed_eq]
  unreadable i hi hu := by
    rw [row?_takeEach_recordsOf hn hi]
    rw [← isOk_answer_reportedOn hostName] at hu
    cases ha : instanceReports.answer (reportedOn hostName i) (s.row? .instances i.uuid) with
    | ok outcome => rw [ha] at hu; exact nomatch hu
    | error e => exact Store.ReportKind.rowAfter_of_error ha
  stored i hi hu := by
    rw [← isOk_answer_reportedOn hostName] at hu
    obtain ⟨j, hj, hc⟩ := Store.ReportKind.exists_decode_rowAfter hu
    obtain ⟨hhost, hstatus, hmap⟩ := Instance.changes_eq_nil_iff.1 hc
    refine ⟨j, ?_, hhost.symm, hstatus.symm, hmap.symm⟩
    rw [Store.getInstance, Store.find_eq, row?_takeEach_recordsOf hn hi, Option.elim_some]
    exact congrArg (Except.map some) hj
  others t key h := by
    refine Store.ReportKind.row?_takeEach_other (fun ht a ha => ?_) s
    obtain ⟨i, hi, rfl⟩ := List.mem_map.1 ha
    exact h ht i hi
  sequences := instanceReports.sequences_takeEach _ s

/-- Records that agree with others change the same. -/
theorem changes_reportedOn {i i' : Instance} (h : i'.undated = i.undated) :
    (reportedOn hostName i').changes = (reportedOn hostName i).changes := by
  obtain ⟨uuid, host, status, cpuMappings, updatedAt⟩ := i
  obtain ⟨uuid', host', status', cpuMappings', updatedAt'⟩ := i'
  obtain ⟨rfl, rfl, rfl, rfl⟩ : uuid' = uuid ∧ host' = host ∧ status' = status ∧
    cpuMappings' = cpuMappings := by simpa [Instance.undated] using h
  rfl

section Again

variable {again : List Instance}
  (h : (again.map Instance.undated).Perm (batch.map Instance.undated))
include h

theorem perm_map_uuid_again : (again.map (·.uuid)).Perm (batch.map (·.uuid)) := by
  have hu := h.map Instance.uuid
  rwa [List.map_map, List.map_map] at hu

theorem countP_uuid_again (p : String → Bool) :
    again.countP (fun i => p i.uuid) = batch.countP fun i => p i.uuid := by
  have hc := (perm_map_uuid_again h).countP_eq p
  rwa [List.countP_map, List.countP_map] at hc

theorem exists_recordsOf_agreeing : ∀ a' ∈ recordsOf hostName again,
    ∃ a ∈ recordsOf hostName batch, instanceReports.key a' = instanceReports.key a ∧
      instanceReports.changes a' = instanceReports.changes a := by
  intro a' ha'
  obtain ⟨i', hi', rfl⟩ := List.mem_map.1 ha'
  obtain ⟨i, hi, hu⟩ := List.mem_map.1 (h.mem_iff.1 (List.mem_map_of_mem hi'))
  exact ⟨reportedOn hostName i, List.mem_map_of_mem hi, (congrArg Instance.uuid hu).symm,
    changes_reportedOn hu.symm⟩

end Again

end Batch

/-- A batch of instances, each in it once, is taken in the same way in every order, and taken once
more it changes nothing. -/
theorem batch_in_any_order (s : Store) (hostName : String) {batch : List Instance}
    (hn : (batch.map (·.uuid)).Nodup) :
    ∃ summary s', BatchTaken hostName batch s s' summary ∧
      (∀ batch' : List Instance, batch'.Perm batch → Takes hostName batch' s summary s') ∧
      ∀ again : List Instance, (again.map Instance.undated).Perm (batch.map Instance.undated) →
        Takes hostName again s'
          ⟨0, 0, .ofNat (batch.countP fun i => s.readable i.uuid), summary.failed⟩ s' := by
  refine ⟨_, _, batchTaken hn, fun batch' hp => ?_, fun again ha => ?_⟩
  · have hn' : (batch'.map (·.uuid)).Nodup := (hp.map _).nodup_iff.2 hn
    have hrecords : (recordsOf hostName batch').Perm (recordsOf hostName batch) := hp.map _
    have ht := takes_batch hostName batch' s
    rwa [Store.ReportKind.fst_takeEach (nodup_keys_recordsOf hostName hn'),
      summaryOfResults_of_perm (Store.ReportKind.answers_perm hrecords s),
      Store.ReportKind.snd_takeEach_of_perm (nodup_keys_recordsOf hostName hn) hrecords] at ht
  · have hu := perm_map_uuid_again ha
    have hk := nodup_keys_recordsOf hostName hn
    have hk' := nodup_keys_recordsOf hostName (hu.nodup_iff.2 hn)
    have ht := takes_batch hostName again (instanceReports.takeEach (recordsOf hostName batch) s).2
    rw [Store.ReportKind.snd_takeEach_again hk hk' (exists_recordsOf_agreeing ha),
      Store.ReportKind.fst_takeEach_again hk hk' (exists_recordsOf_agreeing ha),
      summaryOfResults_map_unchanged, countP_answers_recordsOf isFailed_eq,
      countP_answers_recordsOf (p := (·.isOk)) (q := (·)) fun _ => rfl,
      countP_uuid_again ha s.readable, countP_uuid_again ha fun uuid => !s.readable uuid] at ht
    rwa [(batchTaken hn).failed]

/-- One of two rows cannot be read : it fails in both orders, and once more later, and the other
record is created and then unchanged. -/
theorem batch_in_any_order_of_unreadable_row :
    let s := Store.empty.putRow .instances "vm-b" "no record"
    let a : Instance := ⟨"vm-a", none, .running, .empty, 3⟩
    let b : Instance := ⟨"vm-b", none, .paused, .empty, 3⟩
    ∃ s', Takes "sim-1" [a, b] s ⟨1, 0, 0, 1⟩ s' ∧ Takes "sim-1" [b, a] s ⟨1, 0, 0, 1⟩ s' ∧
      Takes "sim-1" [b, { a with updatedAt := 9 }] s' ⟨0, 0, 1, 1⟩ s' := by
  intro s a b
  obtain ⟨summary, s', -, hp, ha⟩ := batch_in_any_order s "sim-1"
    (by decide : ([a, b].map (·.uuid)).Nodup)
  have hs : summary = ⟨1, 0, 0, 1⟩ := by
    let around : Surroundings Unit := ⟨fun c => (7, c), fun _ _ _ => pure (.error .unauthorized)⟩
    obtain ⟨c', hr⟩ := hp [a, b] (.refl _) Unit around ()
    have hd : ((Operation.reportInstances "sim-1" [a, b]).perform around (s, ())).1 =
        .ok (.instances ⟨1, 0, 0, 1⟩) := by decide +kernel
    rw [hr] at hd
    exact Answer.instances.inj (Except.ok.inj hd)
  subst hs
  have hc : [a, b].countP (fun i => s.readable i.uuid) = 1 := by decide +kernel
  have hagain := ha [b, { a with updatedAt := 9 }] (.swap _ _ _)
  rw [hc] at hagain
  exact ⟨s', hp _ (.refl _), hp _ (.swap _ _ _), hagain⟩

end Conductor

end VcpuPinning
