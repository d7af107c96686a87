import Ubb.Retention.Prune

set_option autoImplicit false

-- A run in batches does what one deletion of the oldest rows would.
namespace Ubb.Retention

open Ubb.Library

section

variable (store : Store) (cutoff now : Int) (distinct : (store.measurements.map PostingMeasurement.id).Nodup)

def oldest (count : Nat) : List PostingMeasurement := (queue store cutoff now).take count

def afterPrune (count : Nat) : Store :=
  ⟨store.postings, without PostingMeasurement.id ((oldest store cutoff now count).map PostingMeasurement.id) store.measurements⟩

def walkAt (count : Nat) : Walk where
  store := afterPrune store cutoff now count
  released := (oldest store cutoff now count).countP (fun row => row.prunableAt.isNone)
  deleted := (oldest store cutoff now count).length
  last := (oldest store cutoff now count).getLast?

theorem walk_at_start : walkAt store cutoff now 0 = ⟨store, 0, 0, none⟩ := by
  rw [walkAt, afterPrune, oldest, List.take_zero, List.map_nil, without_nothing]
  rfl

theorem after_prune_mem (count : Nat) (row : PostingMeasurement) :
    row ∈ (afterPrune store cutoff now count).measurements ↔
      row ∈ store.measurements ∧ row.id ∉ (oldest store cutoff now count).map PostingMeasurement.id := by
  rw [afterPrune, without, List.mem_filter, decide_eq_true_iff]

theorem after_prune_released (released : ReleasedBy store now) (count : Nat) :
    ReleasedBy (afterPrune store cutoff now count) now :=
  fun row listed => released row ((after_prune_mem store cutoff now count row).mp listed).1

include distinct

theorem queue_after (count : Nat) : queue (afterPrune store cutoff now count) cutoff now = (queue store cutoff now).drop count := by
  have same : eligible (afterPrune store cutoff now count) cutoff now = eligible store cutoff now := rfl
  have ids : ((store.measurements.filter (eligible store cutoff now)).map PostingMeasurement.id).Nodup :=
    distinct.sublist (List.filter_sublist.map PostingMeasurement.id)
  rw [queue, same, afterPrune, without_filter]
  exact oldest_first_without_head PostingMeasurement.place PostingMeasurement.id _ (place_distinct _ ids) ids count

theorem after_prune_distinct (count : Nat) :
    ((afterPrune store cutoff now count).measurements.map PostingMeasurement.id).Nodup :=
  distinct.sublist (List.filter_sublist.map PostingMeasurement.id)

theorem walk_on (count more : Nat) (moment : Int) (released : ReleasedBy store now) (later : now ≤ moment) :
    ∃ done, releaseAndDelete (afterPrune store cutoff now count)
        ((((queue store cutoff now).drop count).take more).map PostingMeasurement.id) moment = .ok done ∧
      done.store = afterPrune store cutoff now (count + more) ∧
      (oldest store cutoff now count).length + done.deleted = (oldest store cutoff now (count + more)).length ∧
      (oldest store cutoff now count).countP (fun row => row.prunableAt.isNone) + done.released =
        (oldest store cutoff now (count + more)).countP (fun row => row.prunableAt.isNone) := by
  have split : oldest store cutoff now (count + more) =
      oldest store cutoff now count ++ ((queue store cutoff now).drop count).take more := List.take_add
  have inside : ∀ row ∈ ((queue store cutoff now).drop count).take more,
      row ∈ (afterPrune store cutoff now count).measurements ∧
        eligible (afterPrune store cutoff now count) cutoff moment row = true := by
    intro row listed
    have queued := List.mem_of_mem_take listed
    rw [← queue_after store cutoff now distinct count,
      ← queue_later _ cutoff now moment (after_prune_released store cutoff now released count) later] at queued
    exact (mem_queue _ cutoff moment row).mp queued
  have once : ((((queue store cutoff now).drop count).take more).map PostingMeasurement.id).Nodup :=
    (queue_ids store cutoff now distinct).sublist
      (((List.take_sublist _ _).trans (List.drop_sublist _ _)).map PostingMeasurement.id)
  obtain ⟨done, unrefused, left, deleted, freed⟩ := release_and_delete_ok (afterPrune store cutoff now count) cutoff moment
    (((queue store cutoff now).drop count).take more) inside (after_prune_distinct store cutoff now distinct count) once
  refine ⟨done, unrefused, ?_, ?_, ?_⟩
  · rw [left, afterPrune, afterPrune, without_append, split, List.map_append]
  · rw [split, List.length_append, deleted]
  · rw [split, List.countP_append, freed]

-- The induction is on the turns left; what the walk has taken so far is a head
-- of the one queue.
theorem batches_walk (clock : Nat → Int) (batchSize runCap : Nat) (someBatch : 0 < batchSize) (released : ReleasedBy store now)
    (ticks : ∀ turn, now ≤ clock turn) (turns count : Nat) (within : count ≤ (queue store cutoff now).length)
    (capped : count ≤ runCap) (enough : (queue store cutoff now).length - count < turns) :
    pruneBatches cutoff clock batchSize runCap turns (walkAt store cutoff now count) =
      some (.ok (walkAt store cutoff now (min runCap (queue store cutoff now).length),
        decide (runCap ≤ (queue store cutoff now).length))) := by
  induction turns generalizing count with
  | zero => exact absurd enough (Nat.not_lt_zero _)
  | succ turns ih =>
    have deleted : (walkAt store cutoff now count).deleted = count := by
      show ((queue store cutoff now).take count).length = count
      rw [List.length_take, Nat.min_eq_left within]
    have left : queue (walkAt store cutoff now count).store cutoff (clock turns) = (queue store cutoff now).drop count :=
      (queue_later _ cutoff now (clock turns) (after_prune_released store cutoff now released count) (ticks turns)).trans
        (queue_after store cutoff now distinct count)
    rw [pruneBatches, deleted, left]
    by_cases short : count < runCap
    · rw [if_pos short]
      generalize sizeEq : min (min batchSize (runCap - count)) ((queue store cutoff now).length - count) = size
      have batch : ((queue store cutoff now).drop count).take (min batchSize (runCap - count)) =
          ((queue store cutoff now).drop count).take size := by
        rw [List.take_eq_take_min, List.length_drop, sizeEq]
      dsimp only
      rw [batch]
      cases last : (((queue store cutoff now).drop count).take size).getLast? with
      | none =>
        rw [List.getLast?_eq_none_iff] at last
        have empty := congrArg List.length last
        rw [List.length_take, List.length_drop, List.length_nil] at empty
        have ended : (queue store cutoff now).length = count := by omega
        rw [ended, Nat.min_eq_right capped, decide_eq_false (by omega)]
      | some row =>
        obtain ⟨done, unrefused, store', deletedToo, freed⟩ :=
          walk_on store cutoff now distinct count size (clock turns) released (ticks turns)
        have some_taken : 0 < size := by
          by_contra none_taken
          rw [Nat.eq_zero_of_not_pos none_taken, List.take_zero] at last
          cases last
        have lastToo : (oldest store cutoff now (count + size)).getLast? = some row := by
          rw [oldest, List.take_add, List.getLast?_append, last]
          rfl
        have onward : (⟨done.store, (walkAt store cutoff now count).released + done.released, count + done.deleted, some row⟩ : Walk) =
            walkAt store cutoff now (count + size) := by
          have taken : (oldest store cutoff now count).length = count := deleted
          show Walk.mk done.store ((oldest store cutoff now count).countP (fun row => row.prunableAt.isNone) + done.released)
            (count + done.deleted) (some row) = Walk.mk _ _ _ _
          rw [store', freed, ← lastToo]
          rw [taken] at deletedToo
          rw [deletedToo]
        have unrefused' : releaseAndDelete (walkAt store cutoff now count).store
            ((((queue store cutoff now).drop count).take size).map PostingMeasurement.id) (clock turns) = .ok done := unrefused
        rw [unrefused']
        dsimp only
        rw [onward]
        exact ih (count + size) (by omega) (by omega) (by omega)
    · rw [if_neg short]
      have same : runCap = count := by omega
      rw [same, Nat.min_eq_left within, decide_eq_true within]

theorem left_behind (count : Nat) (row last : PostingMeasurement) (listed : row ∈ (queue store cutoff now).drop count)
    (ends : (oldest store cutoff now count).getLast? = some last) : ¬row.place ≤ last.place := by
  have sorted : (queue store cutoff now).Pairwise (fun first second => first.place ≤ second.place) :=
    oldest_first_sorted PostingMeasurement.place _
  have ids := queue_ids store cutoff now distinct
  have taken : last ∈ (queue store cutoff now).take count := List.mem_of_getLast? ends
  rw [← List.take_append_drop count (queue store cutoff now)] at sorted ids
  rw [List.map_append, List.nodup_append] at ids
  have ahead := (List.pairwise_append.mp sorted).2.2 last taken row listed
  intro behind
  have same : row.place = last.place := le_antisymm behind ahead
  have sameId : row.id = last.id := congrArg (fun place => (ofLex place).2) same
  exact ids.2.2 last.id (List.mem_map_of_mem taken) row.id (List.mem_map_of_mem listed) sameId.symm

end

theorem mem_passed_over (store : Store) (cutoff : Int) (through : Option PostingMeasurement) (row : PostingMeasurement) :
    row ∈ passedOver store cutoff through ↔
      row ∈ store.measurements ∧ row.recordedAt < cutoff ∧ ∀ last ∈ through, row.place ≤ last.place := by
  have range : ∀ last : PostingMeasurement, (decide (row.recordedAt ≤ last.recordedAt) &&
      !(decide (row.recordedAt = last.recordedAt) && decide (last.id < row.id))) = true ↔ row.place ≤ last.place := by
    intro last
    rw [PostingMeasurement.place, PostingMeasurement.place, Prod.Lex.toLex_le_toLex]
    simp only [Bool.and_eq_true, Bool.not_eq_true', Bool.and_eq_false_iff, decide_eq_true_eq, decide_eq_false_iff_not]
    omega
  rw [passedOver, List.mem_filter, Bool.and_eq_true, decide_eq_true_iff]
  cases through with
  | none => simp
  | some last => simp [← range]

-- An eligible row the walk left is in the queue still, and so out of the range it went over.
theorem passed_is_ineligible (store : Store) (cutoff now : Int) (runCap : Nat) (row : PostingMeasurement)
    (distinct : (store.measurements.map PostingMeasurement.id).Nodup) (someRun : 0 < runCap)
    (listed : row ∈ (afterPrune store cutoff now runCap).measurements)
    (range : runCap ≤ (queue store cutoff now).length →
      ∀ last ∈ (oldest store cutoff now runCap).getLast?, row.place ≤ last.place) : eligible store cutoff now row = false := by
  obtain ⟨inside, stays⟩ := (after_prune_mem store cutoff now runCap row).mp listed
  by_contra goes
  rw [Bool.not_eq_false] at goes
  have queued : row ∈ (queue store cutoff now).drop runCap := by
    have held := (mem_queue store cutoff now row).mpr ⟨inside, goes⟩
    rw [← List.take_append_drop runCap (queue store cutoff now), List.mem_append] at held
    exact held.resolve_left (fun taken => stays (List.mem_map_of_mem taken))
  have further := List.length_pos_of_mem queued
  rw [List.length_drop] at further
  cases ends : (oldest store cutoff now runCap).getLast? with
  | none =>
    rw [List.getLast?_eq_none_iff, oldest, List.take_eq_nil_iff] at ends
    rcases ends with none_taken | empty
    · omega
    · rw [empty] at further
      exact absurd further (by simp)
  | some last => exact left_behind store cutoff now distinct runCap row last queued ends (range (by omega) last ends)

theorem prune_takes_the_oldest (store : Store) (cutoff now : Int) (clock : Nat → Int) (batchSize runCap turns : Nat)
    (distinct : (store.measurements.map PostingMeasurement.id).Nodup) (released : ReleasedBy store now)
    (ticks : ∀ turn, now ≤ clock turn) (someBatch : 0 < batchSize) (someRun : 0 < runCap)
    (enough : store.measurements.length < turns) :
    ∃ result, pruneMeasurements turns cutoff now clock batchSize runCap store =
        some (.ok (result, afterPrune store cutoff now runCap)) ∧
      result.deleted = min runCap (queue store cutoff now).length ∧
      result.released = (oldest store cutoff now runCap).countP (fun row => row.prunableAt.isNone) ∧
      result.oldestRemainingEligible = ((queue store cutoff now).drop runCap).head?.map PostingMeasurement.recordedAt ∧
      result.capped = decide (runCap ≤ (queue store cutoff now).length) ∧
      ∃ passed : List PostingMeasurement, result.skipped = passed.length ∧ passed.Nodup ∧
        ∀ row, row ∈ passed ↔ row ∈ (afterPrune store cutoff now runCap).measurements ∧ row.recordedAt < cutoff ∧
          eligible store cutoff now row = false ∧
          (result.capped = true → ∀ last ∈ (oldest store cutoff now runCap).getLast?, row.place ≤ last.place) := by
  have fits : (queue store cutoff now).length ≤ store.measurements.length := by
    rw [queue, (oldest_first_perm PostingMeasurement.place _).length_eq]
    exact List.length_filter_le _ _
  have walked := batches_walk store cutoff now distinct clock batchSize runCap someBatch released ticks turns 0 (Nat.zero_le _)
    (Nat.zero_le _) (by omega)
  have toEnd : oldest store cutoff now (min runCap (queue store cutoff now).length) = oldest store cutoff now runCap :=
    List.take_eq_take_min.symm
  have same : walkAt store cutoff now (min runCap (queue store cutoff now).length) = walkAt store cutoff now runCap := by
    rw [walkAt, walkAt, afterPrune, afterPrune, toEnd]
  rw [walk_at_start, same] at walked
  refine ⟨theResult cutoff now (walkAt store cutoff now runCap) (decide (runCap ≤ (queue store cutoff now).length)), ?_, ?_, rfl,
    ?_, rfl, _, rfl, ?_, ?_⟩
  · rw [pruneMeasurements, walked]
    rfl
  · exact List.length_take
  · show (if decide (runCap ≤ (queue store cutoff now).length) = true then _ else none) = _
    have left : queue (walkAt store cutoff now runCap).store cutoff now = (queue store cutoff now).drop runCap :=
      queue_after store cutoff now distinct runCap
    rw [left]
    split
    · rfl
    · rename_i short
      rw [decide_eq_true_iff] at short
      rw [List.drop_eq_nil_of_le (by omega)]
      rfl
  · have apart := List.Nodup.of_map _ (after_prune_distinct store cutoff now distinct runCap)
    exact apart.filter _
  · intro row
    show row ∈ passedOver (afterPrune store cutoff now runCap) cutoff
      (if decide (runCap ≤ (queue store cutoff now).length) = true then (oldest store cutoff now runCap).getLast? else none) ↔ _
    rw [mem_passed_over]
    constructor
    · rintro ⟨listed, old, range⟩
      have within : runCap ≤ (queue store cutoff now).length →
          ∀ last ∈ (oldest store cutoff now runCap).getLast?, row.place ≤ last.place := by
        intro stopped
        rw [if_pos (decide_eq_true stopped)] at range
        exact range
      have spared := passed_is_ineligible store cutoff now runCap row distinct someRun listed within
      exact ⟨listed, old, spared, fun capped => within (of_decide_eq_true capped)⟩
    · rintro ⟨listed, old, _, range⟩
      refine ⟨listed, old, ?_⟩
      split
      · rename_i stopped
        exact range stopped
      · intro last none_there
        cases none_there

-- The oldest row's price is not known yet: the cap of one goes to the next.
def agedStore : Store where
  postings := [⟨0, 10, .known, .unknown, false⟩, ⟨1, 20, .known, .known, false⟩, ⟨2, 30, .known, .waived, false⟩]
  measurements := [⟨0, 0, 10, none⟩, ⟨1, 1, 20, none⟩, ⟨2, 2, 30, none⟩]

theorem aged_store_released : ReleasedBy agedStore 200 := by
  intro row listed released held
  fin_cases listed <;> cases held

theorem unknown_price_starves_no_one : ∃ result, pruneMeasurements 4 100 200 (fun _ => 300) 5 1 agedStore =
    some (.ok (result, afterPrune agedStore 100 200 1)) ∧ result.deleted = 1 ∧ result.oldestRemainingEligible = some 30 := by
  obtain ⟨result, ran, deleted, _, backlog, _⟩ := prune_takes_the_oldest agedStore 100 200 (fun _ => 300) 5 1 4 (by decide)
    aged_store_released (fun _ => by decide) (by decide) (by decide) (by decide)
  exact ⟨result, ran, deleted, backlog⟩

end Ubb.Retention
