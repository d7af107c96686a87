import Ubb.Library.KeyedRows
import Ubb.Library.Runs
import Ubb.Retention.Batches
import Ubb.Retention.Horizons

set_option autoImplicit false

-- The published edge: what the platform says is available has not been pruned,
-- however recordings, settlements and batches of the prune interleave.
namespace Ubb.Retention

open Ubb.Library
open Ubb.Months

def utcDayStart (day : Day) : Int := day.ordinal * dayMicros

structure World where
  store : Store
  recorded : List PostingMeasurement
  today : Day

-- A batch is an event of its own, for a run may stop between any two.
inductive Event where
  | record (posting : Posting) (measurement : Nat) (recordedAt : Int)
  | settleCost (posting : Nat)
  | settlePrice (posting : Nat)
  | batch (today : Day) (now : Int) (size : Nat)

-- trg_posting_declared_transitions: the one move a cost makes.
def Posting.costKnown (posting : Posting) : Posting :=
  if posting.costingStatus = .unresolved then { posting with costingStatus := .known } else posting

-- trg_posting_price_transitions: the one move a price makes.
def Posting.priceKnown (posting : Posting) : Posting :=
  if posting.pricingStatus = .unknown then { posting with pricingStatus := .known } else posting

def Store.settle (store : Store) (posting : Nat) (write : Posting → Posting) : Store :=
  { store with postings := updateRow Posting.id posting write store.postings }

-- A metered recording writes its posting and its measurement together.
def recordUsage (world : World) (posting : Posting) (measurement : PostingMeasurement) : World :=
  if world.store.posting posting.id = none ∧ ∀ row ∈ world.recorded, row.id ≠ measurement.id then
    { world with
      store := ⟨world.store.postings ++ [posting], world.store.measurements ++ [measurement]⟩
      recorded := world.recorded ++ [measurement] }
  else world

section

variable (measurementRetentionDays : Option Int)

def pruneBatch (world : World) (today : Day) (now : Int) (size : Nat) : World :=
  match retentionHorizons measurementRetentionDays today with
  | .error _ => world
  | .ok horizons =>
      match releaseAndDelete world.store
          ((oldest world.store (utcDayStart horizons.measurement) now size).map PostingMeasurement.id) now with
      | .error _ => { world with today := today }
      | .ok done => { world with store := done.store, today := today }

def step (world : World) : Event → World
  | .record posting measurement recordedAt => recordUsage world posting ⟨measurement, posting.id, recordedAt, none⟩
  | .settleCost posting => { world with store := world.store.settle posting Posting.costKnown }
  | .settlePrice posting => { world with store := world.store.settle posting Posting.priceKnown }
  | .batch today now size => pruneBatch measurementRetentionDays world today now size

def Forward (world : World) : Event → Prop
  | .batch today _ _ => world.today ≤ today
  | _ => True

instance decidableForward (world : World) (event : Event) : Decidable (Forward world event) := by
  cases event <;> (unfold Forward; infer_instance)

def LetGo (world : World) (row : PostingMeasurement) : Prop :=
  ∃ horizons posting, retentionHorizons measurementRetentionDays world.today = .ok horizons ∧
    world.store.posting row.posting = some posting ∧ row.recordedAt < utcDayStart horizons.measurement ∧
    posting.effectiveAt < utcDayStart horizons.measurement ∧ posting.protects = false

structure Kept (world : World) : Prop where
  distinct : (world.store.measurements.map PostingMeasurement.id).Nodup
  known : ∀ row ∈ world.store.measurements, row ∈ world.recorded
  postings : ∀ row ∈ world.recorded, (world.store.posting row.posting).isSome
  remains : ∀ row ∈ world.recorded, row ∈ world.store.measurements ∨ LetGo measurementRetentionDays world row

theorem day_start_mono (early late : Day) (ordered : early ≤ late) : utcDayStart early ≤ utcDayStart late := by
  rw [utcDayStart, utcDayStart]
  have days := ordinal_mono early late ordered
  have micros : (0 : Int) ≤ dayMicros := Int.natCast_nonneg _
  exact Int.mul_le_mul_of_nonneg_right (by exact_mod_cast days) micros

theorem let_go_later (world : World) (today : Day) (store : Store) (later : world.today ≤ today) (horizons : RetentionHorizons)
    (answered : retentionHorizons measurementRetentionDays today = .ok horizons)
    (same : store.postings = world.store.postings) (row : PostingMeasurement) (gone : LetGo measurementRetentionDays world row) :
    LetGo measurementRetentionDays ⟨store, world.recorded, today⟩ row := by
  obtain ⟨before, posting, beforeAnswered, found, recorded, effective, free⟩ := gone
  have ordered := day_start_mono _ _
    (horizons_mono measurementRetentionDays world.today today before horizons later beforeAnswered answered).2
  refine ⟨horizons, posting, answered, ?_, lt_of_lt_of_le recorded ordered, lt_of_lt_of_le effective ordered, free⟩
  rw [Store.posting, same]
  exact found

theorem settle_posting (store : Store) (id wanted : Nat) (write : Posting → Posting) (keeps : ∀ posting, (write posting).id = posting.id) :
    (store.settle id write).posting wanted =
      if wanted = id then (store.posting wanted).map write else store.posting wanted := by
  have sameId : ∀ posting : Posting, posting.id = id → (write posting).id = id := fun posting hit => (keeps posting).trans hit
  by_cases hit : wanted = id
  · subst hit
    rw [if_pos rfl]
    exact find_update_row_hit Posting.id wanted write store.postings sameId
  · rw [if_neg hit]
    exact find_update_row_other Posting.id id wanted write store.postings sameId hit

theorem kept_settle (world : World) (kept : Kept measurementRetentionDays world) (id : Nat) (write : Posting → Posting)
    (keeps : ∀ posting, (write posting).id = posting.id) (instant : ∀ posting, (write posting).effectiveAt = posting.effectiveAt)
    (frees : ∀ posting, posting.protects = false → (write posting).protects = false) :
    Kept measurementRetentionDays { world with store := world.store.settle id write } := by
  have found := fun wanted => settle_posting world.store id wanted write keeps
  refine ⟨kept.distinct, kept.known, ?_, ?_⟩
  · intro row listed
    rw [found]
    split
    · rw [Option.isSome_map]
      exact kept.postings row listed
    · exact kept.postings row listed
  · intro row listed
    rcases kept.remains row listed with stays | ⟨horizons, posting, answered, held, recorded, effective, free⟩
    · exact .inl stays
    · by_cases hit : row.posting = id
      · refine .inr ⟨horizons, write posting, answered, ?_, recorded, ?_, frees posting free⟩
        · rw [found, if_pos hit, held, Option.map_some]
        · rw [instant]
          exact effective
      · refine .inr ⟨horizons, posting, answered, ?_, recorded, effective, free⟩
        rw [found, if_neg hit]
        exact held

theorem kept_record (world : World) (kept : Kept measurementRetentionDays world) (posting : Posting)
    (measurement : PostingMeasurement) (linked : measurement.posting = posting.id) :
    Kept measurementRetentionDays (recordUsage world posting measurement) := by
  rw [recordUsage]
  split
  · rename_i fresh
    have found : ∀ id, (Store.mk (world.store.postings ++ [posting]) (world.store.measurements ++ [measurement])).posting id =
        (world.store.posting id).or (if posting.id = id then some posting else none) := by
      intro id
      show (world.store.postings ++ [posting]).find? _ = _
      rw [List.find?_append, List.find?_singleton]
      simp only [decide_eq_true_eq]
      rfl
    refine ⟨?_, ?_, ?_, ?_⟩
    · exact nodup_add_row PostingMeasurement.id world.store.measurements measurement kept.distinct
        (fun other listed => fresh.2 other (kept.known other listed))
    · intro row listed
      rcases List.mem_append.mp listed with old | new
      · exact List.mem_append_left _ (kept.known row old)
      · exact List.mem_append_right _ new
    · intro row listed
      rw [found]
      rcases List.mem_append.mp listed with old | new
      · obtain ⟨held, there⟩ := Option.isSome_iff_exists.mp (kept.postings row old)
        rw [there]
        rfl
      · rw [List.mem_singleton.mp new, linked, fresh.1, Option.none_or, if_pos rfl]
        rfl
    · intro row listed
      rcases List.mem_append.mp listed with old | new
      · rcases kept.remains row old with stays | ⟨horizons, held, answered, there, recorded, effective, free⟩
        · exact .inl (List.mem_append_left _ stays)
        · refine .inr ⟨horizons, held, answered, ?_, recorded, effective, free⟩
          rw [found, there]
          rfl
      · exact .inl (List.mem_append_right _ new)
  · exact kept

theorem kept_batch (world : World) (kept : Kept measurementRetentionDays world) (today : Day) (now : Int) (size : Nat)
    (forward : world.today ≤ today) : Kept measurementRetentionDays (pruneBatch measurementRetentionDays world today now size) := by
  rw [pruneBatch]
  split
  · exact kept
  · rename_i horizons answered
    generalize cutoffEq : utcDayStart horizons.measurement = cutoff
    have inside : ∀ row ∈ oldest world.store cutoff now size,
        row ∈ world.store.measurements ∧ eligible world.store cutoff now row = true :=
      fun row listed => (mem_queue world.store cutoff now row).mp (List.mem_of_mem_take listed)
    have once : ((oldest world.store cutoff now size).map PostingMeasurement.id).Nodup :=
      (queue_ids world.store cutoff now kept.distinct).sublist ((List.take_sublist _ _).map PostingMeasurement.id)
    obtain ⟨done, unrefused, left, _⟩ := release_and_delete_ok world.store cutoff now _ inside kept.distinct once
    rw [unrefused]
    dsimp only
    rw [left]
    refine ⟨?_, ?_, ?_, ?_⟩
    · exact kept.distinct.sublist (List.filter_sublist.map PostingMeasurement.id)
    · intro row listed
      exact kept.known row (List.mem_of_mem_filter listed)
    · exact kept.postings
    · intro row listed
      rcases kept.remains row listed with stays | gone
      · by_cases taken : row.id ∈ (oldest world.store cutoff now size).map PostingMeasurement.id
        · obtain ⟨held, heldListed, sameId⟩ := List.mem_map.mp taken
          obtain ⟨heldInside, goes⟩ := inside held heldListed
          have same := List.inj_on_of_nodup_map kept.distinct heldInside stays sameId
          subst same
          rw [eligible, Bool.and_eq_true, Bool.and_eq_true, decide_eq_true_iff, Option.any_eq_true] at goes
          obtain ⟨⟨recorded, posting, found, free⟩, _⟩ := goes
          rw [Bool.and_eq_true, decide_eq_true_iff, Bool.not_eq_true'] at free
          refine .inr ⟨horizons, posting, answered, found, ?_, ?_, free.2⟩
          · rw [cutoffEq]
            exact recorded
          · rw [cutoffEq]
            exact free.1
        · exact .inl (List.mem_filter.mpr ⟨stays, decide_eq_true taken⟩)
      · exact .inr (let_go_later measurementRetentionDays world today _ forward horizons answered rfl row gone)

theorem cost_known_frees (posting : Posting) :
    posting.costKnown.id = posting.id ∧ posting.costKnown.effectiveAt = posting.effectiveAt ∧
      (posting.protects = false → posting.costKnown.protects = false) := by
  rw [Posting.costKnown]
  split
  · rename_i unresolved
    refine ⟨rfl, rfl, ?_⟩
    intro free
    rw [Posting.protects, unresolved] at free
    cases free
  · exact ⟨rfl, rfl, id⟩

theorem price_known_frees (posting : Posting) :
    posting.priceKnown.id = posting.id ∧ posting.priceKnown.effectiveAt = posting.effectiveAt ∧
      (posting.protects = false → posting.priceKnown.protects = false) := by
  rw [Posting.priceKnown]
  split
  · rename_i unknown
    refine ⟨rfl, rfl, ?_⟩
    intro free
    rw [Posting.protects, unknown, decide_eq_true rfl, Bool.or_true] at free
    cases free
  · exact ⟨rfl, rfl, id⟩

theorem kept_step (world : World) (kept : Kept measurementRetentionDays world) (event : Event) (forward : Forward world event) :
    Kept measurementRetentionDays (step measurementRetentionDays world event) := by
  cases event with
  | record posting measurement recordedAt => exact kept_record measurementRetentionDays world kept posting _ rfl
  | settleCost posting =>
    exact kept_settle measurementRetentionDays world kept posting Posting.costKnown (fun row => (cost_known_frees row).1)
      (fun row => (cost_known_frees row).2.1) (fun row => (cost_known_frees row).2.2)
  | settlePrice posting =>
    exact kept_settle measurementRetentionDays world kept posting Posting.priceKnown (fun row => (price_known_frees row).1)
      (fun row => (price_known_frees row).2.1) (fun row => (price_known_frees row).2.2)
  | batch today now size => exact kept_batch measurementRetentionDays world kept today now size forward

def nothingRecorded (opening : Day) : World := ⟨⟨[], []⟩, [], opening⟩

theorem nothing_recorded_kept (opening : Day) : Kept measurementRetentionDays (nothingRecorded opening) where
  distinct := List.nodup_nil
  known := by simp [nothingRecorded]
  postings := by simp [nothingRecorded]
  remains := by simp [nothingRecorded]

theorem published_detail_is_there (opening day : Day) (events : List Event) (horizons : RetentionHorizons)
    (forward : Along (step measurementRetentionDays) Forward (nothingRecorded opening) events)
    (reached : (run (step measurementRetentionDays) (nothingRecorded opening) events).today ≤ day)
    (published : retentionHorizons measurementRetentionDays day = .ok horizons) :
    ∀ row ∈ (run (step measurementRetentionDays) (nothingRecorded opening) events).recorded,
      ∀ posting, (run (step measurementRetentionDays) (nothingRecorded opening) events).store.posting row.posting = some posting →
        (utcDayStart horizons.measurement ≤ posting.effectiveAt ∨ utcDayStart horizons.measurement ≤ row.recordedAt ∨
          posting.protects = true) →
        row ∈ (run (step measurementRetentionDays) (nothingRecorded opening) events).store.measurements := by
  have kept := along_invariant (step measurementRetentionDays) (Kept measurementRetentionDays) Forward
    (fun world event kept here => kept_step measurementRetentionDays world kept event here) (nothingRecorded opening) events
    (nothing_recorded_kept measurementRetentionDays opening) forward
  generalize run (step measurementRetentionDays) (nothingRecorded opening) events = world at kept reached
  intro row listed posting found claimed
  rcases kept.remains row listed with stays | ⟨before, held, answered, heldFound, recorded, effective, free⟩
  · exact stays
  · cases heldFound.symm.trans found
    have ordered := day_start_mono _ _
      (horizons_mono measurementRetentionDays world.today day before horizons reached answered published).2
    rcases claimed with event | detail | unsettled
    · exact absurd (lt_of_lt_of_le effective ordered) (not_lt_of_ge event)
    · exact absurd (lt_of_lt_of_le recorded ordered) (not_lt_of_ge detail)
    · rw [free] at unsettled
      cases unsettled

end

theorem new_year_valid : Ubb.Calendar.ValidDate 2026 1 1 := by decide

def newYear : Day := ⟨2026, 1, 1, new_year_valid⟩

-- Two events of the year before, one on either side of the edge.
def lastYearsEvents : List Event :=
  [.record ⟨0, utcDayStart newYear - 1000 * dayMicros, .known, .known, false⟩ 0 (utcDayStart newYear - 1000 * dayMicros),
    .record ⟨1, utcDayStart newYear - 10 * dayMicros, .known, .known, false⟩ 1 (utcDayStart newYear - 10 * dayMicros),
    .batch newYear (utcDayStart newYear) 1000]

set_option maxRecDepth 4000 in
theorem last_years_events_stay : ⟨1, 1, utcDayStart newYear - 10 * dayMicros, none⟩ ∈
    (run (step (some 400)) (nothingRecorded newYear) lastYearsEvents).store.measurements := by
  refine published_detail_is_there (some 400) newYear newYear lastYearsEvents
    ⟨⟨2020, 1, 1, by decide⟩, ⟨2024, 11, 27, by decide⟩⟩ (by decide) (by decide) rfl _ (List.mem_cons_of_mem _ List.mem_cons_self)
    ⟨1, utcDayStart newYear - 10 * dayMicros, .known, .known, false⟩ rfl (.inl (by decide))

end Ubb.Retention
