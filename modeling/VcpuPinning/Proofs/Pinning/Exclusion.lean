import Mathlib.Data.List.Nodup
import VcpuPinning.Proofs.LockTable.Queues
import VcpuPinning.Proofs.Pinning.Stages

/-!
# One apply at a time

Of the applies to one domain one at most has the lock, and it is the last that got it
(`Run.exclusive`). So the attempts on a domain are those of the applies that got its lock, one after
the other (`Run.inTurns`), whatever the applies to other domains do in between.
-/

namespace VcpuPinning.Pinning

open LockTable

variable {σ ι : Type}

/-! ## Stages -/

namespace Stage

variable {p : Pinner σ} {r : Request} {stage stage' : Stage} {st st' : σ}

theorem Inside.queued (h : stage.Inside) : stage.Queued := by
  cases stage <;> first | exact h | trivial

theorem Inside.granted (h : stage.Inside) : stage.Granted := by
  cases stage <;> first | exact h | trivial

/-- Only an apply that has the lock works on the host. -/
theorem inside_of_next (h : stage.next p r st = some (stage', st')) : stage.Inside := by
  cases stage with
  | reading => trivial
  | pinning set left results => trivial
  | _ => exact nomatch h

/-- It still has the lock then. -/
theorem inside_next (h : stage.next p r st = some (stage', st')) : stage'.Inside := by
  cases stage with
  | reading =>
    simp only [next] at h
    split at h
    · cases h
      trivial
    · split at h
      · cases h
        trivial
      · cases h
        trivial
  | pinning set left results =>
    cases left with
    | nil => cases h
    | cons v left =>
      cases h
      trivial
  | _ => cases h

theorem inside_of_result? {result : Except PinError PinOutcome}
    (h : stage.result? = some result) : stage.Inside := by
  cases stage with
  | pinning set left results => trivial
  | failed e => trivial
  | _ => exact nomatch h

end Stage

/-! ## Exclusion -/

variable [DecidableEq ι]

/-- The queue of each domain holds applies to it, of which the first one may be inside, and who is
inside is the last that got the lock of its domain. -/
structure Exclusive (req : ι → Request) (labels : List (Label ι)) (locks : LockTable ι)
    (stage : ι → Stage) : Prop where
  sound : locks.Sound
  queued : ∀ uuid, ∀ i ∈ locks.queueOf uuid, (req i).uuid = uuid ∧ (stage i).Queued
  first : ∀ i, (stage i).Inside → (locks.queueOf (req i).uuid).head? = some i
  nodup : (lockOrder labels).Nodup
  granted : ∀ i, i ∈ lockOrder labels ↔ (stage i).Granted
  last : ∀ i, (stage i).Inside → (turns req labels (req i).uuid).getLast? = some i

theorem filterMap_concat {α β : Type} (f : α → Option β) (as : List α) (a : α) :
    (as ++ [a]).filterMap f = as.filterMap f ++ (f a).toList := by
  rw [List.filterMap_append, List.filterMap_cons]
  cases f a <;> rfl

omit [DecidableEq ι] in
theorem lockOrder_concat (labels : List (Label ι)) (label : Label ι) :
    lockOrder (labels ++ [label]) = lockOrder labels ++ label.grantee?.toList :=
  filterMap_concat ..

omit [DecidableEq ι] in
/-- The turns of a domain depend on the lock order only. -/
theorem turns_eq {labels labels' : List (Label ι)} (h : lockOrder labels' = lockOrder labels)
    (req : ι → Request) : turns req labels' = turns req labels := by
  unfold turns
  rw [h]

namespace Exclusive

variable {req : ι → Request} {labels : List (Label ι)} {locks : LockTable ι} {stage : ι → Stage}
  {i : ι}

omit [DecidableEq ι] in
theorem start (req : ι → Request) : Exclusive req [] .empty fun _ => .idle where
  sound := .empty
  queued _ _ hi := nomatch hi
  first _ hi := hi.elim
  nodup := List.nodup_nil
  granted _ := iff_of_false nofun id
  last _ hi := hi.elim

omit [DecidableEq ι] in
/-- Of the applies to a domain one at most is inside. -/
theorem inside_unique (h : Exclusive req labels locks stage) {j : ι} (hi : (stage i).Inside)
    (hj : (stage j).Inside) (hu : (req j).uuid = (req i).uuid) : j = i := by
  have hfirst := h.first j hj
  rw [hu, h.first i hi] at hfirst
  exact (Option.some.inj hfirst).symm

omit [DecidableEq ι] in
theorem not_mem_queueOf (h : Exclusive req labels locks stage) (hi : ¬ (stage i).Queued)
    (uuid : String) : i ∉ locks.queueOf uuid :=
  fun hm => hi (h.queued uuid i hm).2

/-- Who asks for the lock queues behind the others. -/
theorem ask (h : Exclusive req labels locks stage) (hi : stage i = .idle) :
    Exclusive req (labels ++ [.asked i]) (locks.ask i (req i).uuid)
      (Function.update stage i .waiting) := by
  have hnot : ∀ uuid, i ∉ locks.queueOf uuid := h.not_mem_queueOf (by rw [hi]; exact id)
  have hqueue : (locks.ask i (req i).uuid).queueOf =
      Queues.join locks.queueOf i (req i).uuid := by
    have hq := queueOf_onTable h.sound (.ask i (req i).uuid)
    have hleave : Queues.leave locks.queueOf i = locks.queueOf :=
      funext fun uuid => Queues.leave_of_not_mem (hnot uuid)
    rwa [Move.onTable, Queues.after, hleave] at hq
  have horder : lockOrder (labels ++ [.asked i]) = lockOrder labels :=
    (lockOrder_concat labels (.asked i)).trans (List.append_nil _)
  refine ⟨h.sound.onTable (.ask i (req i).uuid), fun uuid => ?_, ?_, horder ▸ h.nodup, ?_, ?_⟩
  · refine (Function.forall_update_iff stage fun j s =>
      j ∈ _ → (req j).uuid = uuid ∧ s.Queued).2 ⟨fun hj => ?_, fun j hji hj => ?_⟩
    · rw [hqueue] at hj
      by_cases hu : uuid = (req i).uuid
      · exact ⟨hu.symm, trivial⟩
      · rw [Queues.join_of_ne _ _ hu] at hj
        exact absurd hj (hnot uuid)
    · rw [hqueue] at hj
      by_cases hu : uuid = (req i).uuid
      · subst hu
        rw [Queues.join_self] at hj
        exact h.queued _ j ((List.mem_append.1 hj).resolve_right (by simpa using hji))
      · rw [Queues.join_of_ne _ _ hu] at hj
        exact h.queued uuid j hj
  · refine (Function.forall_update_iff stage fun j s => s.Inside → _).2
      ⟨False.elim, fun j hji hj => ?_⟩
    have hfirst := h.first j hj
    rw [hqueue]
    by_cases hu : (req j).uuid = (req i).uuid
    · rw [hu] at hfirst ⊢
      obtain ⟨js, hjs⟩ := List.head?_eq_some_iff.1 hfirst
      rw [Queues.join_self, hjs]
      rfl
    · rw [Queues.join_of_ne _ _ hu]
      exact hfirst
  · rw [horder]
    refine (Function.forall_update_iff stage fun j s => j ∈ _ ↔ s.Granted).2
      ⟨?_, fun j _ => h.granted j⟩
    rw [h.granted, hi]
    exact Iff.rfl
  · rw [turns_eq horder]
    exact (Function.forall_update_iff stage fun j s => s.Inside → _).2
      ⟨False.elim, fun j _ hj => h.last j hj⟩

/-- The first of the queue gets the lock, and nobody else of the domain is inside. -/
theorem grant (h : Exclusive req labels locks stage) (hi : stage i = .waiting)
    (holds : locks.holdsLock i) :
    Exclusive req (labels ++ [.granted i]) locks (Function.update stage i .reading) := by
  have hhead : (locks.queueOf (req i).uuid).head? = some i := by
    obtain ⟨uuid, hu⟩ := (holdsLock_iff h.sound).1 holds
    rwa [(h.queued uuid i (List.mem_of_head? hu)).1]
  have horder : lockOrder (labels ++ [.granted i]) = lockOrder labels ++ [i] :=
    lockOrder_concat labels (.granted i)
  have hnot : i ∉ lockOrder labels := by
    rw [h.granted, hi]
    exact id
  refine ⟨h.sound, fun uuid => ?_, ?_, ?_, ?_, ?_⟩
  · exact (Function.forall_update_iff stage fun j s =>
      j ∈ _ → (req j).uuid = uuid ∧ s.Queued).2
        ⟨fun hj => ⟨(h.queued uuid i hj).1, trivial⟩, fun j _ => h.queued uuid j⟩
  · exact (Function.forall_update_iff stage fun j s => s.Inside → _).2
      ⟨fun _ => hhead, fun j _ => h.first j⟩
  · rw [horder]
    exact h.nodup.append (List.nodup_singleton i) (by simpa using hnot)
  · rw [horder]
    refine (Function.forall_update_iff stage fun j s => j ∈ _ ↔ s.Granted).2
      ⟨iff_of_true (by simp) trivial, fun j hji => ?_⟩
    rw [List.mem_append, List.mem_singleton, h.granted]
    simp [hji]
  · unfold turns
    rw [horder]
    refine (Function.forall_update_iff stage fun j s => s.Inside → _).2
      ⟨fun _ => ?_, fun j hji hj => ?_⟩
    · rw [List.filter_append, List.filter_cons_of_pos (by simp), List.filter_nil,
        List.getLast?_concat]
    · -- another apply inside is the first in its own queue, so its domain is another
      have hu : (req i).uuid ≠ (req j).uuid := by
        intro hu
        have hfirst := h.first j hj
        rw [← hu, hhead] at hfirst
        exact hji (Option.some.inj hfirst).symm
      rw [List.filter_append, List.filter_cons_of_neg (by simpa using hu), List.filter_nil,
        List.append_nil]
      exact h.last j hj

/-- Who is inside works on. -/
theorem work (h : Exclusive req labels locks stage) {s : Stage} (hi : (stage i).Inside)
    (hs : s.Inside) (a : Option (UInt32 × CpuSet)) :
    Exclusive req (labels ++ [.worked i a]) locks (Function.update stage i s) := by
  have horder : lockOrder (labels ++ [.worked i a]) = lockOrder labels :=
    (lockOrder_concat labels (.worked i a)).trans (List.append_nil _)
  refine ⟨h.sound, fun uuid => ?_, ?_, horder ▸ h.nodup, ?_, ?_⟩
  · exact (Function.forall_update_iff stage fun j s =>
      j ∈ _ → (req j).uuid = uuid ∧ s.Queued).2
        ⟨fun hj => ⟨(h.queued uuid i hj).1, hs.queued⟩, fun j _ => h.queued uuid j⟩
  · exact (Function.forall_update_iff stage fun j s => s.Inside → _).2
      ⟨fun _ => h.first i hi, fun j _ => h.first j⟩
  · rw [horder]
    exact (Function.forall_update_iff stage fun j s => j ∈ _ ↔ s.Granted).2
      ⟨iff_of_true ((h.granted i).2 hi.granted) hs.granted, fun j _ => h.granted j⟩
  · rw [turns_eq horder]
    exact (Function.forall_update_iff stage fun j s => s.Inside → _).2
      ⟨fun _ => h.last i hi, fun j _ => h.last j⟩

/-- Who is inside gives the lock back. -/
theorem release (h : Exclusive req labels locks stage) (hi : (stage i).Inside)
    (result : Except PinError PinOutcome) :
    Exclusive req (labels ++ [.released i]) (locks.giveBack i)
      (Function.update stage i (.ended result)) := by
  have horder : lockOrder (labels ++ [.released i]) = lockOrder labels :=
    (lockOrder_concat labels (.released i)).trans (List.append_nil _)
  refine ⟨h.sound.giveBack i, fun uuid => ?_, ?_, horder ▸ h.nodup, ?_, ?_⟩
  · rw [queueOf_giveBack, Queues.leave]
    refine (Function.forall_update_iff stage fun j s =>
      j ∈ _ → (req j).uuid = uuid ∧ s.Queued).2 ⟨fun hj => ?_, fun j _ hj => ?_⟩
    · simp at hj
    · exact h.queued uuid j (List.mem_of_mem_filter hj)
  · refine (Function.forall_update_iff stage fun j s => s.Inside → _).2
      ⟨False.elim, fun j hji hj => ?_⟩
    have hnot : i ∉ locks.queueOf (req j).uuid := fun hm =>
      hji (h.inside_unique hi hj (h.queued _ i hm).1.symm)
    rw [queueOf_giveBack, Queues.leave_of_not_mem hnot]
    exact h.first j hj
  · rw [horder]
    exact (Function.forall_update_iff stage fun j s => j ∈ _ ↔ s.Granted).2
      ⟨iff_of_true ((h.granted i).2 hi.granted) trivial, fun j _ => h.granted j⟩
  · rw [turns_eq horder]
    exact (Function.forall_update_iff stage fun j s => s.Inside → _).2
      ⟨False.elim, fun j _ => h.last j⟩

/-- Every step keeps the applies apart. -/
theorem step {p : Pinner σ} {sys sys' : System σ ι} {label : Label ι}
    (h : Exclusive req labels sys.locks sys.stage) (hs : Step p req sys label sys') :
    Exclusive req (labels ++ [label]) sys'.locks sys'.stage := by
  cases hs with
  | asked stage => exact h.ask stage
  | granted stage holds => exact h.grant stage holds
  | worked next => exact h.work (Stage.inside_of_next next) (Stage.inside_next next) _
  | released done => exact h.release (Stage.inside_of_result? done) _

end Exclusive

theorem Run.exclusive {p : Pinner σ} {req : ι → Request} {host : σ} {labels : List (Label ι)}
    {sys : System σ ι} (run : Run p req host labels sys) :
    Exclusive req labels sys.locks sys.stage := by
  induction run with
  | start => exact .start req
  | step _ step ih => exact ih.step step

/-! ## The attempts of a run -/

section Attempts

variable {req : ι → Request} {labels : List (Label ι)} {i : ι}

theorem attemptsOf_concat (labels : List (Label ι)) (label : Label ι) (i : ι) :
    attemptsOf (labels ++ [label]) i = attemptsOf labels i ++ (label.attemptOf? i).toList :=
  filterMap_concat ..

omit [DecidableEq ι] in
theorem attemptsOn_concat (req : ι → Request) (labels : List (Label ι)) (label : Label ι)
    (uuid : String) : attemptsOn req (labels ++ [label]) uuid =
      attemptsOn req labels uuid ++ (label.attemptOn? req uuid).toList :=
  filterMap_concat ..

/-- The attempts on each domain are those of its turns, one after the other. -/
structure InTurns (req : ι → Request) (labels : List (Label ι)) : Prop where
  attempts : ∀ uuid, attemptsOn req labels uuid =
    (turns req labels uuid).flatMap (attemptsOf labels)
  none : ∀ i ∉ lockOrder labels, attemptsOf labels i = []

namespace InTurns

/-- A step by which nobody gets a lock or works adds nothing. -/
theorem idle (h : InTurns req labels) {label : Label ι} (hg : label.grantee? = Option.none)
    (hof : ∀ i, label.attemptOf? i = Option.none)
    (hon : ∀ uuid, label.attemptOn? req uuid = Option.none) :
    InTurns req (labels ++ [label]) := by
  have horder : lockOrder (labels ++ [label]) = lockOrder labels := by
    rw [lockOrder_concat, hg, Option.toList_none, List.append_nil]
  have hattempts : attemptsOf (labels ++ [label]) = attemptsOf labels := by
    funext i
    rw [attemptsOf_concat, hof, Option.toList_none, List.append_nil]
  refine ⟨fun uuid => ?_, fun i hi => ?_⟩
  · rw [turns_eq horder, hattempts, attemptsOn_concat, hon, Option.toList_none, List.append_nil,
      h.attempts]
  · rw [horder] at hi
    rw [hattempts, h.none i hi]

/-- Who gets the lock has made no attempt before. -/
theorem grant (h : InTurns req labels) (hi : i ∉ lockOrder labels) :
    InTurns req (labels ++ [.granted i]) := by
  have horder : lockOrder (labels ++ [.granted i]) = lockOrder labels ++ [i] :=
    lockOrder_concat labels (.granted i)
  have hattempts : attemptsOf (labels ++ [.granted i]) = attemptsOf labels := by
    funext j
    exact (attemptsOf_concat labels (.granted i) j).trans (List.append_nil _)
  refine ⟨fun uuid => ?_, fun j hj => ?_⟩
  · have hon : attemptsOn req (labels ++ [.granted i]) uuid = attemptsOn req labels uuid :=
      (attemptsOn_concat req labels (.granted i) uuid).trans (List.append_nil _)
    have hturn : ([i].filter fun j => (req j).uuid = uuid).flatMap (attemptsOf labels) = [] := by
      refine List.flatMap_eq_nil_iff.2 fun j hj => ?_
      rw [List.mem_singleton.1 (List.mem_of_mem_filter hj), h.none i hi]
    rw [hattempts, hon, h.attempts, turns, turns, horder, List.filter_append, List.flatMap_append,
      hturn, List.append_nil]
  · rw [horder, List.mem_append, not_or] at hj
    rw [hattempts, h.none j hj.1]

/-- Who is inside has the last turn, so that its attempt comes last. -/
theorem work (h : InTurns req labels) (hi : i ∈ lockOrder labels)
    (hnodup : (lockOrder labels).Nodup)
    (hlast : (turns req labels (req i).uuid).getLast? = some i) (a : Option (UInt32 × CpuSet)) :
    InTurns req (labels ++ [.worked i a]) := by
  have horder : lockOrder (labels ++ [.worked i a]) = lockOrder labels :=
    (lockOrder_concat labels (.worked i a)).trans (List.append_nil _)
  have hself : attemptsOf (labels ++ [.worked i a]) i = attemptsOf labels i ++ a.toList := by
    rw [attemptsOf_concat, Label.attemptOf?, if_pos rfl]
  have hother : ∀ j ≠ i, attemptsOf (labels ++ [.worked i a]) j = attemptsOf labels j := by
    intro j hj
    rw [attemptsOf_concat, Label.attemptOf?, if_neg hj.symm, Option.toList_none, List.append_nil]
  refine ⟨fun uuid => ?_, fun j hj => ?_⟩
  · rw [turns_eq horder, attemptsOn_concat, Label.attemptOn?]
    by_cases hu : (req i).uuid = uuid
    · subst hu
      obtain ⟨js, hjs⟩ := List.getLast?_eq_some_iff.1 hlast
      have hnot : i ∉ js := by
        have hn : (turns req labels (req i).uuid).Nodup := hnodup.filter _
        rw [hjs] at hn
        exact fun hm => List.disjoint_of_nodup_append hn hm (List.mem_singleton_self i)
      rw [if_pos rfl, h.attempts, hjs, List.flatMap_append, List.flatMap_append,
        List.flatMap_singleton, List.flatMap_singleton, hself, List.append_assoc]
      congr 1
      exact List.flatMap_congr fun j hj => (hother j fun he => hnot (he ▸ hj)).symm
    · rw [if_neg hu, Option.toList_none, List.append_nil, h.attempts]
      refine List.flatMap_congr fun j hj => (hother j ?_).symm
      rintro rfl
      exact hu (by simpa using (List.mem_filter.1 hj).2)
  · rw [horder] at hj
    rw [hother j fun he => hj (he ▸ hi), h.none j hj]

end InTurns

theorem Run.inTurns {p : Pinner σ} {host : σ} {sys : System σ ι}
    (run : Run p req host labels sys) : InTurns req labels := by
  induction run with
  | start => exact ⟨fun _ => rfl, fun _ _ => rfl⟩
  | @step labels sys _ _ run step ih =>
    have h := run.exclusive
    cases step with
    | asked => exact ih.idle rfl (fun _ => rfl) fun _ => rfl
    | @granted i stage =>
      refine ih.grant fun hm => ?_
      have hg := (h.granted i).1 hm
      rw [stage] at hg
      exact hg
    | @worked i _ _ next =>
      have hi := Stage.inside_of_next next
      exact ih.work ((h.granted i).2 hi.granted) h.nodup (h.last i hi) _
    | released => exact ih.idle rfl (fun _ => rfl) fun _ => rfl

end Attempts

end VcpuPinning.Pinning
