import Mathlib.Tactic
import Ubb.Library.TaggedText
import Ubb.Work.Endings
import Ubb.Work.Totals

set_option autoImplicit false

namespace Ubb.Work

open Ubb.Library

def isCharge (posting : Posting) : Bool := decide (posting.kind = .taskCharge)

def isOriginal (charge : Charge) : Bool := decide (charge.compensates = none)

def chargeViews (state : State) : List (Option TaskId × Costing) :=
  (state.postings.filter isCharge).map (fun posting => (posting.task, posting.costing))

-- Original charges and charge postings are written in pairs, and only for
-- whole work that was delivered at its agreed price.
structure Charged (state : State) : Prop where
  mirrored : chargeViews state =
    (state.charges.filter isOriginal).map (fun charge => (some charge.task, projectedCosting charge.amountMicros))
  once : ((state.charges.filter isOriginal).map Charge.task).Nodup
  earned : ∀ charge ∈ state.charges, ∃ task, state.taskWith charge.task = some task ∧
    task.ending.status = .completed ∧ task.parent = none ∧
    (charge.compensates = none → task.agreedPriceMicros = some charge.amountMicros)
  keys : ∀ charge ∈ state.charges, ∃ correction, charge.idempotencyKey = derivedKey charge.task correction

theorem no_work_charged : Charged noWork :=
  ⟨rfl, List.nodup_nil, by simp [noWork], by simp [noWork]⟩

theorem projected_owes_nothing (amount : Int) (side : Side) : (projectedCosting amount).owes side = false := by
  cases side <;> simp [projectedCosting, Costing.owes]

theorem charge_posting_projected (state : State) (charged : Charged state) (posting : Posting)
    (member : posting ∈ state.postings) (charges : isCharge posting = true) :
    ∃ charge ∈ state.charges, charge.compensates = none ∧ posting.task = some charge.task ∧
      posting.costing = projectedCosting charge.amountMicros := by
  have viewed : (posting.task, posting.costing) ∈ chargeViews state :=
    List.mem_map.mpr ⟨posting, List.mem_filter.mpr ⟨member, charges⟩, rfl⟩
  rw [charged.mirrored] at viewed
  obtain ⟨charge, chargeMember, same⟩ := List.mem_map.mp viewed
  rw [List.mem_filter, isOriginal, decide_eq_true_eq] at chargeMember
  rw [Prod.mk.injEq] at same
  exact ⟨charge, chargeMember.1, chargeMember.2, same.1.symm, same.2.symm⟩

-- A door never completes a charge posting: its amounts are known from the start.
theorem charge_views_completed (state : State) (charged : Charged state) (folded : Folded state) (side : Side)
    (posting : Posting) (amount : Int) (found : state.postingWith posting.id = some posting)
    (owes : posting.costing.owes side = true) :
    chargeViews (completedOn state side posting.id amount) = chargeViews state := by
  have member : posting ∈ state.postings := List.mem_of_find?_eq_some found
  have apart : ∀ row ∈ state.postings, row.id = posting.id → isCharge row = false := by
    intro row rowMember sameId
    have samePosting : row = posting := List.inj_on_of_nodup_map folded.ids rowMember member sameId
    rw [← Bool.not_eq_true]
    intro charges
    obtain ⟨charge, _, _, _, costing⟩ := charge_posting_projected state charged row rowMember charges
    rw [← samePosting, costing, projected_owes_nothing] at owes
    cases owes
  rw [chargeViews, completedOn,
    filter_update_row Posting.id posting.id (completePosting side amount) isCharge state.postings (fun _ => rfl) apart]
  rfl

inductive ChargeMove (state next : State) : Prop
  | none (charges : next.charges = state.charges) (views : chargeViews next = chargeViews state)
  | original (task ended : Task) (price : Int) (ends : Ends state task ended)
      (pinned : ended.agreedPriceMicros = some price) (whole : ended.parent = .none)
      (completed : ∃ row, next.taskWith ended.id = some row ∧ SameUnit task row ∧ row.ending.status = .completed)
      (free : ChargeFree state (originalCharge state ended price))
      (charges : next.charges = state.charges ++ [originalCharge state ended price])
      (views : chargeViews next = chargeViews state ++ [(some ended.id, projectedCosting price)])
  | correction (original correction : Charge) (found : original ∈ state.charges)
      (unit : correction.task = original.task) (corrects : correction.compensates ≠ .none)
      (key : ∃ ordinal, correction.idempotencyKey = derivedKey original.task (some ordinal))
      (charges : next.charges = state.charges ++ [correction]) (views : chargeViews next = chargeViews state)

theorem write_both_charges (state : State) (task : Task) (write : Totals → Totals) :
    (writeBoth state task write).charges = state.charges := by
  unfold writeBoth
  cases task.parent <;> rfl

theorem move_charges (state next : State) (event : Event) (sound : Sound state) (charged : Charged state)
    (folded : Folded state) (moved : Move state event next) : ChargeMove state next := by
  cases moved with
  | same _ => exact .none rfl rfl
  | started request parent fresh containing named admitted => exact .none rfl rfl
  | recorded report free outside => exact .none rfl (by simp [chargeViews, posted, isCharge, Report.posting])
  | recordedInto report task free named found =>
      refine .none (write_both_charges _ task _) ?_
      rw [chargeViews, write_both_postings]
      simp [chargeViews, posted, isCharge, Report.posting]
  | completed _ side posting amount found owes outside =>
      exact .none rfl (charge_views_completed state charged folded side posting amount found owes)
  | completedInto _ side posting amount task found owes named unit =>
      refine .none (write_both_charges _ task _) ?_
      rw [chargeViews, write_both_postings]
      exact charge_views_completed state charged folded side posting amount found owes
  | ended _ task ended stopReason record now ends withdraws delivered silent =>
      exact .none (by simp) (by simp [chargeViews])
  | charged request task ended price now ends delivered completed pinned whole chargeFree postingFree =>
      have flipped := enter_terminal_rows state task ended none withdrawnByAClose now ends sound.ids
      have credited := rows_end_write state _ ended withdrawnByAClose (withTotals (addCharge price)) flipped
        (fun row => ⟨rfl, rfl⟩)
      obtain ⟨row, rowFound, same, status⟩ := credited.self task ((ends_row state task ended ends).1 ▸ ends.found)
      refine .original task ended price ends pinned whole ⟨row, rowFound, same, status.trans completed⟩ chargeFree ?_ ?_
      · simp [chargedOn, posted, State.writeTask, originalCharge]
      · simp [chargeViews, chargedOn, posted, State.writeTask, isCharge, chargePosting]
  | stopped request now task ended record announced named ends withdraws incomplete =>
      refine .none ?_ ?_
      · simp [stoppedOn, announce, State.writeTask]
      · simp [chargeViews, stoppedOn, announce, State.writeTask]
  | reminted task stamp announced found stamped dead terminal => exact .none rfl rfl
  | relayed outboxId status => exact .none rfl rfl
  | compensated charge original correction found unit corrects key =>
      exact .correction original correction found unit corrects key rfl rfl

theorem charged_step (state : State) (event : Event) (sound : Sound state) (folded : Folded state)
    (charged : Charged state) : Charged (step state event) := by
  have stillEarned : ∀ charge ∈ state.charges, ∃ task, (step state event).taskWith charge.task = some task ∧
      task.ending.status = .completed ∧ task.parent = none ∧
      (charge.compensates = none → task.agreedPriceMicros = some charge.amountMicros) := by
    intro charge member
    obtain ⟨task, found, completed, whole, price⟩ := charged.earned charge member
    obtain ⟨row, rowFound, same, ending⟩ :=
      terminal_run state [event] sound charge.task task found (by rw [completed]; rfl)
    exact ⟨row, rowFound, ending ▸ completed, same.parent.trans whole, fun first => same.agreed.1.trans (price first)⟩
  cases move_charges state _ event sound charged folded (step_moves state event) with
  | none charges views =>
      refine ⟨?_, charges ▸ charged.once, ?_, ?_⟩
      · rw [views, charges, charged.mirrored]
      · rw [charges]
        exact stillEarned
      · rw [charges]
        exact charged.keys
  | original task ended price ends pinned whole completed free charges views =>
      obtain ⟨row, rowFound, same, rowCompleted⟩ := completed
      obtain ⟨_, endedParent, _, _, endedPrice⟩ := ends_row state task ended ends
      refine ⟨?_, ?_, ?_, ?_⟩
      · rw [views, charges, charged.mirrored, List.filter_append, List.map_append]
        rfl
      · rw [charges, List.filter_append]
        apply nodup_add_row _ (state.charges.filter isOriginal) _ charged.once
        intro charge chargeMember chargeUnit
        rw [List.mem_filter, isOriginal, decide_eq_true_eq] at chargeMember
        exact free.original rfl charge chargeMember.1 chargeUnit chargeMember.2
      · rw [charges]
        intro charge member
        rw [List.mem_append, List.mem_singleton] at member
        rcases member with old | rfl
        · exact stillEarned charge old
        · refine ⟨row, rowFound, rowCompleted, ?_, fun _ => ?_⟩
          · rw [same.parent, ← endedParent, whole]
          · rw [same.agreed.1, ← endedPrice, pinned]
            rfl
      · rw [charges]
        intro charge member
        rw [List.mem_append, List.mem_singleton] at member
        rcases member with old | rfl
        · exact charged.keys charge old
        · exact ⟨none, rfl⟩
  | correction original correction found unit corrects key charges views =>
      have notOriginal : [correction].filter isOriginal = [] := by
        simp [isOriginal, corrects]
      refine ⟨?_, ?_, ?_, ?_⟩
      · rw [views, charges, charged.mirrored, List.filter_append, notOriginal, List.append_nil]
      · rw [charges, List.filter_append, notOriginal, List.append_nil]
        exact charged.once
      · rw [charges]
        intro charge member
        rw [List.mem_append, List.mem_singleton] at member
        rcases member with old | rfl
        · exact stillEarned charge old
        · obtain ⟨task, taskFound, completed, whole, _⟩ := stillEarned original found
          exact ⟨task, unit ▸ taskFound, completed, whole, fun first => absurd first corrects⟩
      · rw [charges]
        intro charge member
        rw [List.mem_append, List.mem_singleton] at member
        rcases member with old | rfl
        · exact charged.keys charge old
        · obtain ⟨ordinal, keyEq⟩ := key
          exact ⟨some ordinal, unit ▸ keyEq⟩

structure Booked (state : State) : Prop where
  sound : Sound state
  folded : Folded state
  charged : Charged state

theorem no_work_booked : Booked noWork := by
  refine ⟨no_work_sound, ⟨List.nodup_nil, by simp [noWork], ?_⟩, no_work_charged⟩
  intro id task column found
  cases found

theorem booked_run (events : List Event) : Booked (run step noWork events) := by
  apply run_invariant step Booked (fun _ => True)
  · intro state event booked _
    exact ⟨sound_step state event booked.sound,
      folded_move state _ event booked.sound booked.folded (step_moves state event),
      charged_step state event booked.sound booked.folded booked.charged⟩
  · exact no_work_booked
  · simp

def unitPostings (state : State) (id : TaskId) : List Posting := state.postings.filter (inUnit state id)

def knownCost (posting : Posting) : Int := posting.costing.providerCostMicros.getD 0

def knownUsagePrice (posting : Posting) : Int :=
  match posting.kind with
  | .meteredUsage => posting.costing.billedCostMicros.getD 0
  | .taskCharge => 0

def chargeOf (state : State) (id : TaskId) : Option Charge :=
  state.charges.find? (fun charge => decide (charge.task = id ∧ charge.compensates = none))

-- Contained work earns no charge, so the charge postings that stand in a unit
-- are those that name it.
theorem charge_postings_sum (state : State) (charged : Charged state) (id : TaskId) :
    ((unitPostings state id).map (fun posting => if isCharge posting then posting.costing.billedCostMicros.getD 0 else 0)).sum =
      ((chargeOf state id).map Charge.amountMicros).getD 0 := by
  let inside : Option TaskId × Costing → Int := fun view =>
    if view.1 = some id then view.2.billedCostMicros.getD 0 else 0
  have byView : ((unitPostings state id).map
      (fun posting => if isCharge posting then posting.costing.billedCostMicros.getD 0 else 0)).sum =
        ((chargeViews state).map inside).sum := by
    rw [unitPostings, sum_filter_eq, chargeViews, List.map_map, sum_filter_eq]
    congr 1
    apply List.map_congr_left
    intro posting member
    cases charges : isCharge posting with
    | false => simp
    | true =>
        obtain ⟨charge, chargeMember, _, named, _⟩ := charge_posting_projected state charged posting member charges
        obtain ⟨task, found, _, whole, _⟩ := charged.earned charge chargeMember
        simp [inUnit, named, found, whole, inside]
  have byCharge : ((chargeViews state).map inside).sum =
      (((state.charges.filter isOriginal).filter (fun charge => decide (charge.task = id))).map Charge.amountMicros).sum := by
    rw [charged.mirrored, List.map_map]
    conv_rhs => rw [sum_filter_eq]
    congr 1
    apply List.map_congr_left
    intro charge _
    simp [inside, projectedCosting]
  rw [byView, byCharge, sum_at_key Charge.task id Charge.amountMicros _ charged.once, chargeOf, List.find?_filter]
  congr 3
  funext charge
  simp [isOriginal, and_comm]

theorem unit_totals_are_the_fold_of_its_postings (events : List Event) (id : TaskId) (task : Task)
    (found : (run step noWork events).taskWith id = some task) :
    task.totals.totalProviderCostMicros = ((unitPostings (run step noWork events) id).map knownCost).sum ∧
    task.totals.unresolvedEventCount = (unitPostings (run step noWork events) id).countP
      (fun posting => decide (posting.costing.costingStatus = .unresolved)) ∧
    task.totals.totalBilledCostMicros = ((unitPostings (run step noWork events) id).map knownUsagePrice).sum +
      ((chargeOf (run step noWork events) id).map Charge.amountMicros).getD 0 ∧
    task.totals.unpricedEventCount = (unitPostings (run step noWork events) id).countP
      (fun posting => decide (posting.costing.pricingStatus = .unknown)) ∧
    0 ≤ task.totals.unresolvedEventCount ∧ 0 ≤ task.totals.unpricedEventCount := by
  have booked := booked_run events
  have folds := fun column => booked.folded.folds id task column found
  have unresolved : task.totals.unresolvedEventCount = (unitPostings (run step noWork events) id).countP
      (fun posting => decide (posting.costing.costingStatus = .unresolved)) :=
    (folds .unresolved).trans (sum_indicator _ _)
  have unpriced : task.totals.unpricedEventCount = (unitPostings (run step noWork events) id).countP
      (fun posting => decide (posting.costing.pricingStatus = .unknown)) :=
    (folds .unpriced).trans (sum_indicator _ _)
  refine ⟨folds .provider, unresolved, ?_, unpriced, by omega, by omega⟩
  rw [← charge_postings_sum _ booked.charged id, ← List.sum_map_add]
  refine (folds .billed).trans ?_
  rw [unitSum, ← unitPostings]
  congr 1
  apply List.map_congr_left
  intro posting _
  cases kind : posting.kind <;> simp [Costing.column, knownUsagePrice, isCharge, kind]

def containedUnit : StartRequest :=
  { oneUnit with id := ⟨"b", rfl⟩, parentTaskId := some oneUnit.id }

def owingReport : Report :=
  { tenant := ⟨"t"⟩, customer := ⟨"c"⟩, idempotencyKey := "k", postingId := ⟨"p"⟩, task := some containedUnit.id
    costing := { providerCostMicros := none, costingStatus := .unresolved, billedCostMicros := none
                 pricingStatus := .unknown, costAgrees := unresolved_cost_agrees, priceAgrees := unknown_price_agrees } }

theorem contained_posting_settled_into_both_units :
    (3 : Int) = ((unitPostings (run step noWork [.start oneUnit, .start containedUnit, .record owingReport,
      .settle ⟨"p"⟩ 3, .resolve ⟨"p"⟩ 8, .resolve ⟨"p"⟩ 9]) oneUnit.id).map knownCost).sum :=
  (unit_totals_are_the_fold_of_its_postings [.start oneUnit, .start containedUnit, .record owingReport,
    .settle ⟨"p"⟩ 3, .resolve ⟨"p"⟩ 8, .resolve ⟨"p"⟩ 9] oneUnit.id
    { newTask oneUnit none with totals :=
        { totalBilledCostMicros := 8, unpricedEventCount := 0, totalProviderCostMicros := 3
          unresolvedEventCount := 0, recordedEvents := 1 } } (by decide)).1

end Ubb.Work
