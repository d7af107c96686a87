import Ubb.Library.Queues
import Ubb.Work.Model

set_option autoImplicit false

-- apps/metering/usage/pruning.py: the daily job that lets go of the measurement
-- records the horizon no longer covers.
namespace Ubb.Retention

open Ubb.Library
open Ubb.Work (CostingStatus PricingStatus)

structure Posting where
  id : Nat
  effectiveAt : Int
  costingStatus : CostingStatus
  pricingStatus : PricingStatus
  sandbox : Bool
deriving DecidableEq, Repr

structure PostingMeasurement where
  id : Nat
  posting : Nat
  recordedAt : Int
  prunableAt : Option Int
deriving DecidableEq, Repr

structure Store where
  postings : List Posting
  measurements : List PostingMeasurement

def Store.posting (store : Store) (id : Nat) : Option Posting := store.postings.find? (fun posting => decide (posting.id = id))

-- A resolution run still needs the quantities.
def Posting.protects (posting : Posting) : Bool :=
  decide (posting.costingStatus = .unresolved) || decide (posting.pricingStatus = .unknown)

def isReleasedBy (now : Int) (prunableAt : Option Int) : Bool := prunableAt.any (fun released => decide (released ≤ now))

def eligible (store : Store) (cutoff now : Int) (row : PostingMeasurement) : Bool :=
  decide (row.recordedAt < cutoff) &&
    (store.posting row.posting).any (fun posting => decide (posting.effectiveAt < cutoff) && !posting.protects) &&
      (row.prunableAt.isNone || isReleasedBy now row.prunableAt)

def PostingMeasurement.place (row : PostingMeasurement) : Int ×ₗ Nat := toLex (row.recordedAt, row.id)

def queue (store : Store) (cutoff now : Int) : List PostingMeasurement :=
  oldestFirst PostingMeasurement.place (store.measurements.filter (eligible store cutoff now))

def PostingMeasurement.release (ids : List Nat) (now : Int) (row : PostingMeasurement) : PostingMeasurement :=
  if row.id ∈ ids ∧ row.prunableAt = none then { row with prunableAt := some now } else row

inductive DatabaseRefusal where
  | notReleased
  | stillNeeded
deriving DecidableEq, Repr

-- trg_posting_measurement_pruning, on each row a delete names.
def pruningRefuses (store : Store) (now : Int) (row : PostingMeasurement) : Option DatabaseRefusal :=
  match store.posting row.posting with
  | none => none
  | some posting =>
      if posting.sandbox then none
      else if !isReleasedBy now row.prunableAt then some .notReleased
      else if posting.protects then some .stillNeeded
      else none

structure Removed where
  released : Nat
  deleted : Nat
  store : Store

-- One atomic unit at the transaction's own instant: a refused delete takes the
-- release back with it.
def releaseAndDelete (store : Store) (ids : List Nat) (now : Int) : Except DatabaseRefusal Removed :=
  let touched := store.measurements.map (PostingMeasurement.release ids now)
  let named := touched.filter (fun row => decide (row.id ∈ ids))
  match (named.filterMap (pruningRefuses store now)).head? with
  | some refusal => .error refusal
  | none => .ok
      { released := store.measurements.countP (fun row => decide (row.id ∈ ids) && row.prunableAt.isNone)
        deleted := named.length
        store := { store with measurements := without PostingMeasurement.id ids touched } }

structure Walk where
  store : Store
  released : Nat
  deleted : Nat
  last : Option PostingMeasurement

-- Each batch reads the clock of its own. The loop ends on an empty batch, or
-- by its condition at the run cap.
def pruneBatches (cutoff : Int) (clock : Nat → Int) (batchSize runCap : Nat) : Nat → Walk → Option (Except DatabaseRefusal (Walk × Bool))
  | 0, _ => none
  | turns + 1, walk =>
      if walk.deleted < runCap then
        let batch := (queue walk.store cutoff (clock turns)).take (min batchSize (runCap - walk.deleted))
        match batch.getLast? with
        | none => some (.ok (walk, false))
        | some last =>
            match releaseAndDelete walk.store (batch.map PostingMeasurement.id) (clock turns) with
            | .error refusal => some (.error refusal)
            | .ok done => pruneBatches cutoff clock batchSize runCap turns
                ⟨done.store, walk.released + done.released, walk.deleted + done.deleted, some last⟩
      else some (.ok (walk, true))

-- Off the walk's own range, with no look at the posting.
def passedOver (store : Store) (cutoff : Int) (through : Option PostingMeasurement) : List PostingMeasurement :=
  store.measurements.filter (fun row => decide (row.recordedAt < cutoff) &&
    through.all (fun last => decide (row.recordedAt ≤ last.recordedAt) &&
      !(decide (row.recordedAt = last.recordedAt) && decide (last.id < row.id))))

structure PruneResult where
  released : Nat
  deleted : Nat
  skipped : Nat
  capped : Bool
  oldestRemainingEligible : Option Int
deriving DecidableEq, Repr

def theResult (cutoff now : Int) (walk : Walk) (capped : Bool) : PruneResult where
  released := walk.released
  deleted := walk.deleted
  skipped := (passedOver walk.store cutoff (if capped then walk.last else none)).length
  capped := capped
  oldestRemainingEligible := if capped then (queue walk.store cutoff now).head?.map PostingMeasurement.recordedAt else none

def pruneMeasurements (turns : Nat) (cutoff now : Int) (clock : Nat → Int) (batchSize runCap : Nat) (store : Store) :
    Option (Except DatabaseRefusal (PruneResult × Store)) :=
  (pruneBatches cutoff clock batchSize runCap turns ⟨store, 0, 0, none⟩).map
    (fun finished => finished.map (fun ended => (theResult cutoff now ended.1 ended.2, ended.1.store)))

def ReleasedBy (store : Store) (instant : Int) : Prop :=
  ∀ row ∈ store.measurements, ∀ released ∈ row.prunableAt, released ≤ instant

theorem place_distinct (rows : List PostingMeasurement) (distinct : (rows.map PostingMeasurement.id).Nodup) :
    (rows.map PostingMeasurement.place).Nodup := by
  have view : rows.map PostingMeasurement.id = (rows.map PostingMeasurement.place).map (fun place => (ofLex place).2) := by
    rw [List.map_map]
    rfl
  rw [view] at distinct
  exact distinct.of_map _

theorem eligible_later (store : Store) (cutoff earlier later : Int) (row : PostingMeasurement)
    (released : ∀ at_ ∈ row.prunableAt, at_ ≤ earlier) (ordered : earlier ≤ later) :
    eligible store cutoff later row = eligible store cutoff earlier row := by
  have same : isReleasedBy later row.prunableAt = isReleasedBy earlier row.prunableAt := by
    cases held : row.prunableAt with
    | none => rfl
    | some moment =>
      have past := released moment held
      rw [isReleasedBy, isReleasedBy, Option.any_some, Option.any_some, decide_eq_true past,
        decide_eq_true (past.trans ordered)]
  rw [eligible, eligible, same]

theorem queue_later (store : Store) (cutoff earlier later : Int) (released : ReleasedBy store earlier) (ordered : earlier ≤ later) :
    queue store cutoff later = queue store cutoff earlier := by
  rw [queue, queue]
  congr 1
  apply List.filter_congr
  intro row inside
  exact eligible_later store cutoff earlier later row (released row inside) ordered

theorem mem_queue (store : Store) (cutoff now : Int) (row : PostingMeasurement) :
    row ∈ queue store cutoff now ↔ row ∈ store.measurements ∧ eligible store cutoff now row = true := by
  rw [queue, mem_oldest_first, List.mem_filter]

theorem queue_ids (store : Store) (cutoff now : Int) (distinct : (store.measurements.map PostingMeasurement.id).Nodup) :
    ((queue store cutoff now).map PostingMeasurement.id).Nodup :=
  ((oldest_first_perm PostingMeasurement.place _).map PostingMeasurement.id).nodup_iff.mpr
    (distinct.sublist (List.filter_sublist.map PostingMeasurement.id))

theorem without_released (rows : List PostingMeasurement) (ids : List Nat) (now : Int) :
    without PostingMeasurement.id ids (rows.map (PostingMeasurement.release ids now)) = without PostingMeasurement.id ids rows := by
  induction rows with
  | nil => rfl
  | cons row rest ih =>
    rw [without, without, List.map_cons] at *
    by_cases named : row.id ∈ ids
    · have still : (row.release ids now).id ∈ ids := by
        rw [PostingMeasurement.release]
        split <;> exact named
      rw [List.filter_cons_of_neg (by simpa using still), List.filter_cons_of_neg (by simpa using named), ih]
    · have same : row.release ids now = row := if_neg (fun both => named both.1)
      rw [same, List.filter_cons_of_pos (by simpa using named), List.filter_cons_of_pos (by simpa using named), ih]

theorem release_keeps (ids : List Nat) (now : Int) (row : PostingMeasurement) :
    (row.release ids now).id = row.id ∧ (row.release ids now).posting = row.posting := by
  rw [PostingMeasurement.release]
  split <;> exact ⟨rfl, rfl⟩

theorem release_and_delete_ok (store : Store) (cutoff now : Int) (gone : List PostingMeasurement)
    (inside : ∀ row ∈ gone, row ∈ store.measurements ∧ eligible store cutoff now row = true)
    (distinct : (store.measurements.map PostingMeasurement.id).Nodup) (once : (gone.map PostingMeasurement.id).Nodup) :
    ∃ done, releaseAndDelete store (gone.map PostingMeasurement.id) now = .ok done ∧
      done.store = { store with measurements := without PostingMeasurement.id (gone.map PostingMeasurement.id) store.measurements } ∧
      done.deleted = gone.length ∧ done.released = gone.countP (fun row => row.prunableAt.isNone) := by
  have same : ∀ row ∈ store.measurements, row.id ∈ gone.map PostingMeasurement.id → row ∈ gone := by
    intro row listed named
    obtain ⟨held, heldInside, sameId⟩ := List.mem_map.mp named
    exact List.inj_on_of_nodup_map distinct (inside held heldInside).1 listed sameId ▸ heldInside
  have passes : ∀ row ∈ store.measurements, row.id ∈ gone.map PostingMeasurement.id →
      pruningRefuses store now (row.release (gone.map PostingMeasurement.id) now) = none := by
    intro row listed named
    have goes := (inside row (same row listed named)).2
    rw [eligible, Bool.and_eq_true, Bool.and_eq_true, Option.any_eq_true] at goes
    obtain ⟨⟨_, posting, found, free⟩, released⟩ := goes
    rw [Bool.and_eq_true, Bool.not_eq_true'] at free
    have past : isReleasedBy now (row.release (gone.map PostingMeasurement.id) now).prunableAt = true := by
      rw [PostingMeasurement.release]
      split
      · exact decide_eq_true le_rfl
      · rename_i unreleased
        rcases Bool.or_eq_true_iff.mp released with none_yet | already
        · exact absurd ⟨named, Option.isNone_iff_eq_none.mp none_yet⟩ unreleased
        · exact already
    rw [pruningRefuses, (release_keeps _ now row).2, found]
    dsimp only
    rw [past, free.2]
    split <;> rfl
  have selected : (store.measurements.filter (fun row => decide (row.id ∈ gone.map PostingMeasurement.id))).Perm gone := by
    apply (List.perm_ext_iff_of_nodup _ _).mpr
    · intro row
      rw [List.mem_filter, decide_eq_true_iff]
      exact ⟨fun held => same row held.1 held.2, fun listed => ⟨(inside row listed).1, List.mem_map_of_mem listed⟩⟩
    · exact List.Nodup.filter _ (List.Nodup.of_map _ distinct)
    · exact List.Nodup.of_map _ once
  have touched : (store.measurements.map (PostingMeasurement.release (gone.map PostingMeasurement.id) now)).filter
      (fun row => decide (row.id ∈ gone.map PostingMeasurement.id)) =
        (store.measurements.filter (fun row => decide (row.id ∈ gone.map PostingMeasurement.id))).map
          (PostingMeasurement.release (gone.map PostingMeasurement.id) now) := by
    rw [List.filter_map]
    congr 1
    apply List.filter_congr
    intro row _
    rw [Function.comp_apply, (release_keeps _ now row).1]
  have unrefused : ((store.measurements.map (PostingMeasurement.release (gone.map PostingMeasurement.id) now)).filter
      (fun row => decide (row.id ∈ gone.map PostingMeasurement.id))).filterMap (pruningRefuses store now) = [] := by
    rw [List.filterMap_eq_nil_iff, touched]
    intro row listed
    obtain ⟨held, heldListed, rfl⟩ := List.mem_map.mp listed
    rw [List.mem_filter, decide_eq_true_iff] at heldListed
    exact passes held heldListed.1 heldListed.2
  simp only [releaseAndDelete, unrefused]
  refine ⟨_, rfl, ?_, ?_, ?_⟩
  · show ({ store with measurements := _ } : Store) = _
    rw [without_released]
  · show List.length _ = _
    rw [touched, List.length_map]
    exact selected.length_eq
  · show store.measurements.countP _ = _
    rw [← selected.countP_eq, List.countP_filter]
    apply List.countP_congr
    intro row _
    rw [Bool.and_comm]

end Ubb.Retention
