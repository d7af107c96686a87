import Mathlib.Tactic
import Ubb.Work.Charges

set_option autoImplicit false

namespace Ubb.Work

open Ubb.Library

theorem uuid_has_no_colon (id : TaskId) : ':' ∉ id.text.toList := by
  intro member
  have admitted := List.all_eq_true.mp id.canonical ':' member
  revert admitted
  decide

-- A derived key names its unit: a correction's key holds a colon where a unit's
-- id cannot.
theorem derived_key_original (left right : TaskId) (correction : Option Nat)
    (same : derivedKey left correction = derivedKey right none) : left = right := by
  cases correction with
  | none =>
      have texts := tagged_inj "task:" left.text right.text same
      cases left
      cases right
      simp_all
  | some ordinal =>
      have texts : left.text ++ ":correction:" ++ toString ordinal = right.text := by
        apply tagged_inj "task:"
        simpa [derivedKey, String.append_assoc] using same
      have colon : ':' ∈ right.text.toList := by
        rw [← texts, String.toList_append, String.toList_append]
        simp
      exact absurd colon (uuid_has_no_colon right)

theorem declared_delivered : CloseDeclaration.declared "delivered" none none =
    .ok { outcome := .delivered, outcomeReason := none, reasonDetail := "" } := rfl

def deliveredRow (task : Task) (now : Int) : Task :=
  { task with ending := { task.ending with
      status := .completed, completedAt := some now, outcomeReason := none, reasonDetail := "" } }

theorem delivered_row_ends (state : State) (task : Task) (now : Int) (found : state.taskWith task.id = some task)
    (active : task.ending.status = .active) : Ends state task (deliveredRow task now) :=
  ⟨found, active, rfl, rfl⟩

theorem active_unit_uncharged (state : State) (charged : Charged state) (task : Task)
    (found : state.taskWith task.id = some task) (active : task.ending.status = .active) :
    (∀ charge ∈ state.charges, charge.task ≠ task.id ∧ charge.idempotencyKey ≠ derivedKey task.id none) ∧
      ∀ posting ∈ state.postings, isCharge posting = true → posting.task ≠ some task.id := by
  have notNamed : ∀ charge ∈ state.charges, charge.task ≠ task.id := by
    intro charge member named
    obtain ⟨row, rowFound, completed, _⟩ := charged.earned charge member
    rw [named, found, Option.some.injEq] at rowFound
    rw [← rowFound, active] at completed
    cases completed
  refine ⟨?_, ?_⟩
  · intro charge member
    refine ⟨notNamed charge member, ?_⟩
    intro sameKey
    obtain ⟨correction, key⟩ := charged.keys charge member
    exact notNamed charge member (derived_key_original charge.task task.id correction (key.symm.trans sameKey))
  · intro posting member charges named
    obtain ⟨charge, chargeMember, _, chargeNamed, _⟩ := charge_posting_projected state charged posting member charges
    exact notNamed charge chargeMember (Option.some.inj (chargeNamed.symm.trans named))

theorem close_task_active (state : State) (task : Task) (now : Int) (found : state.taskWith task.id = some task)
    (active : task.ending.status = .active) :
    closeTask state task.id { outcome := .delivered, outcomeReason := none, reasonDetail := "" } now =
      .ok (enterTerminal state (deliveredRow task now) none withdrawnByAClose now, deliveredRow task now, true) := by
  have running : task.ending.status.terminal = false := by rw [active]; rfl
  simp only [closeTask, flip, found]
  rw [refuse_if_false _ _ (by simp)]
  simp only [running, Bool.false_eq_true, if_false]
  rfl

theorem locked_task_found (state : State) (id : TaskId) (task : Task) (found : state.taskWith id = some task) :
    lockedTask state none id = .ok task := by
  simp only [lockedTask, found]
  rw [refuse_if_false _ _ (by simp)]
  rfl

theorem insert_charge_free (state : State) (charge : Charge)
    (original : ∀ other ∈ state.charges, other.task ≠ charge.task)
    (key : ∀ other ∈ state.charges, other.idempotencyKey ≠ charge.idempotencyKey) (positive : 0 ≤ charge.amountMicros) :
    insertCharge state charge = .ok { state with charges := state.charges ++ [charge] } := by
  unfold insertCharge
  rw [refuse_if_false _ _ (by rintro ⟨_, other, member, sameTask, _⟩; exact original other member sameTask),
    refuse_if_false _ _ (by rintro ⟨other, member, _, sameKey⟩; exact key other member sameKey),
    refuse_if_false _ _ (by rintro ⟨_, negative⟩; omega)]
  rfl

theorem take_up_a_charge_whole (state : State) (id : TaskId) (task : Task) (amount : Int)
    (found : state.taskWith id = some task) (whole : task.parent = none) :
    takeUpACharge state id amount = .ok (state.writeTask id (withTotals (addCharge amount))) := by
  unfold takeUpACharge
  rw [locked_task_found state id task found, ok_bind, refuse_if_false _ _ (by simp [whole]), ok_bind]
  rfl

theorem insert_posting_by_key (state : State) (posting : Posting) (fresh : state.postingWith posting.id = none) :
    insertPosting state posting =
      if state.postingUnder posting.tenant posting.customer posting.idempotencyKey = none
      then .ok (posted state posting) else .error .postingExists := by
  unfold insertPosting
  rw [refuse_if_false _ _ (by simp [fresh])]
  by_cases free : state.postingUnder posting.tenant posting.customer posting.idempotencyKey = none
  · rw [refuse_if_false _ _ (by simp [free]), if_pos free]
    rfl
  · rw [refuseIf, if_pos free, if_neg free]
    rfl

theorem close_delivered (state : State) (booked : Booked state) (task : Task) (price : Int) (request : CloseRequest)
    (found : state.taskWith task.id = some task) (active : task.ending.status = .active)
    (pinned : task.agreedPriceMicros = some price) (named : request.task = task.id)
    (tenant : request.tenant = task.tenant)
    (delivers : request.outcome = "delivered" ∧ request.outcomeReason = none ∧ request.reasonDetail = none)
    (fresh : state.postingWith request.postingId = none) :
    close state request =
      if state.postingUnder task.tenant task.customer (derivedKey task.id none) = none
      then .ok (chargedOn (enterTerminal state (deliveredRow task request.now) none withdrawnByAClose request.now)
        (deliveredRow task request.now) price request.postingId)
      else .error .postingExists := by
  let row := deliveredRow task request.now
  let closed := enterTerminal state row none withdrawnByAClose request.now
  obtain ⟨uncharged, _⟩ := active_unit_uncharged state booked.charged task found active
  have admitted := booked.sound.priced task.id task found
  simp only [agreedPriceAdmitted, pinned, Bool.and_eq_true, decide_eq_true_eq] at admitted
  obtain ⟨⟨_, whole⟩, positive⟩ := admitted
  have closedFound : closed.taskWith task.id = some (flipRow row withdrawnByAClose request.now task) := by
    rw [enter_terminal_task, found, Option.map_some]
  have closedParent : (flipRow row withdrawnByAClose request.now task).parent = none := by
    rw [flip_row_keeps, whole]
  have closedCustomer : (flipRow row withdrawnByAClose request.now task).customer = task.customer := by
    rw [flip_row_keeps]
  have inserted : insertCharge closed (originalCharge closed row price) =
      .ok { closed with charges := closed.charges ++ [originalCharge closed row price] } := by
    apply insert_charge_free
    · intro other member
      exact (uncharged other (by simpa [closed] using member)).1
    · intro other member
      exact (uncharged other (by simpa [closed] using member)).2
    · exact positive
  have charging : chargeForDeliveredWork closed row request.postingId =
      if state.postingUnder task.tenant task.customer (derivedKey task.id none) = none
      then .ok (chargedOn closed row price request.postingId) else .error .postingExists := by
    have rowPrice : row.agreedPriceMicros = some price := pinned
    have rowStatus : row.ending.status = .completed := rfl
    simp only [chargeForDeliveredWork, rowStatus, ne_eq, not_true_eq_false, if_false, rowPrice]
    have insertedFound : { closed with charges := closed.charges ++ [originalCharge closed row price] }.taskWith
        (originalCharge closed row price).task = some (flipRow row withdrawnByAClose request.now task) := closedFound
    rw [inserted, ok_bind, projectTheCharge, refuse_if_false _ _ (by simp [originalCharge]), ok_bind,
      locked_task_found _ _ _ insertedFound, ok_bind, take_up_a_charge_whole _ _ _ _ insertedFound closedParent, ok_bind]
    rw [closedCustomer, insert_posting_by_key]
    · have sameKeys : ∀ written : State, written.postings = closed.postings → ∀ key,
          written.postingUnder task.tenant task.customer key = state.postingUnder task.tenant task.customer key := by
        intro written same key
        rw [State.postingUnder, same, enter_terminal_postings, State.postingUnder]
      have sameKey := sameKeys (({ closed with charges := closed.charges ++ [originalCharge closed row price] }).writeTask
        task.id (withTotals (addCharge price))) rfl (derivedKey task.id none)
      rw [← sameKey]
      rfl
    · simpa [State.postingWith, State.writeTask, closed] using fresh
  unfold close
  rw [delivers.1, delivers.2.1, delivers.2.2, declared_delivered, ok_bind, named]
  simp only [found]
  rw [refuse_if_false _ _ (by simp [tenant]), ok_bind, close_task_active state task request.now found active, ok_bind]
  exact charging

def ChargedOnce (state : State) (request : CloseRequest) (id : TaskId) (price : Int) : Prop :=
  ∃ next, close state request = .ok next ∧
    (∃ row, next.taskWith id = some row ∧ row.ending.status = .completed) ∧
    (next.charges.filter (fun charge => decide (charge.task = id ∧ charge.compensates = none))).map
      Charge.amountMicros = [price] ∧
    (next.postings.filter (fun posting => decide (posting.task = some id ∧ posting.kind = .taskCharge))).map
      (fun posting => posting.costing.billedCostMicros) = [some price]

theorem charged_on_once (state : State) (booked : Booked state) (task : Task) (price now : Int) (postingId : Uuid)
    (found : state.taskWith task.id = some task) (active : task.ending.status = .active) :
    let next := chargedOn (enterTerminal state (deliveredRow task now) none withdrawnByAClose now) (deliveredRow task now)
      price postingId
    (∃ row, next.taskWith task.id = some row ∧ row.ending.status = .completed) ∧
      (next.charges.filter (fun charge => decide (charge.task = task.id ∧ charge.compensates = none))).map
        Charge.amountMicros = [price] ∧
      (next.postings.filter (fun posting => decide (posting.task = some task.id ∧ posting.kind = .taskCharge))).map
        (fun posting => posting.costing.billedCostMicros) = [some price] := by
  intro next
  obtain ⟨uncharged, unposted⟩ := active_unit_uncharged state booked.charged task found active
  refine ⟨?_, ?_, ?_⟩
  · have flipped := enter_terminal_rows state task (deliveredRow task now) none withdrawnByAClose now
      (delivered_row_ends state task now found active) booked.sound.ids
    have credited := rows_end_write state _ (deliveredRow task now) withdrawnByAClose (withTotals (addCharge price))
      flipped (fun row => ⟨rfl, rfl⟩)
    obtain ⟨row, rowFound, _, status⟩ := credited.self task found
    exact ⟨row, rowFound, status⟩
  · have charges : next.charges = state.charges ++ [originalCharge state (deliveredRow task now) price] := by
      simp [next, chargedOn, posted, State.writeTask, originalCharge]
    have none_before : state.charges.filter (fun charge => decide (charge.task = task.id ∧ charge.compensates = none)) = [] := by
      rw [List.filter_eq_nil_iff]
      intro charge member
      simp [(uncharged charge member).1]
    rw [charges, List.filter_append, none_before]
    simp [originalCharge, deliveredRow]
  · have postings : next.postings = state.postings ++ [chargePosting (deliveredRow task now) price postingId] := by
      simp [next, chargedOn, posted, State.writeTask]
    have none_before : state.postings.filter
        (fun posting => decide (posting.task = some task.id ∧ posting.kind = .taskCharge)) = [] := by
      rw [List.filter_eq_nil_iff]
      intro posting member hit
      rw [decide_eq_true_eq] at hit
      exact unposted posting member (decide_eq_true hit.2) hit.1
    rw [postings, List.filter_append, none_before]
    simp [chargePosting, deliveredRow, projectedCosting]

theorem posting_under_none (state : State) (tenant customer : Uuid) (key : String) :
    state.postingUnder tenant customer key = none ↔
      ∀ posting ∈ state.postings,
        ¬(posting.tenant = tenant ∧ posting.customer = customer ∧ posting.idempotencyKey = key) := by
  simp [State.postingUnder, List.find?_eq_none]

theorem delivered_work_charged_iff_key_free (events : List Event) (task : Task) (price : Int) (request : CloseRequest)
    (found : (run step noWork events).taskWith task.id = some task) (active : task.ending.status = .active)
    (pinned : task.agreedPriceMicros = some price) (named : request.task = task.id)
    (tenant : request.tenant = task.tenant)
    (delivers : request.outcome = "delivered" ∧ request.outcomeReason = none ∧ request.reasonDetail = none)
    (fresh : (run step noWork events).postingWith request.postingId = none) :
    ChargedOnce (run step noWork events) request task.id price ↔
      ∀ posting ∈ (run step noWork events).postings, ¬(posting.tenant = task.tenant ∧
        posting.customer = task.customer ∧ posting.idempotencyKey = "task:" ++ task.id.text) := by
  have booked := booked_run events
  have closes := close_delivered _ booked task price request found active pinned named tenant delivers fresh
  have condition := posting_under_none (run step noWork events) task.tenant task.customer (derivedKey task.id none)
  rw [show "task:" ++ task.id.text = derivedKey task.id none from rfl, ← condition]
  by_cases free : (run step noWork events).postingUnder task.tenant task.customer (derivedKey task.id none) = none
  · rw [if_pos free] at closes
    refine ⟨fun _ => free, fun _ => ⟨_, closes, ?_⟩⟩
    exact charged_on_once _ booked task price request.now request.postingId found active
  · rw [if_neg free] at closes
    refine ⟨?_, fun held => absurd held free⟩
    rintro ⟨next, answered, _⟩
    rw [closes] at answered
    cases answered

def pricedUnit : StartRequest :=
  { tenant := ⟨"t"⟩, customer := ⟨"c"⟩, id := oneUnit.id, idempotencyKey := none, parentTaskId := none
    pricingMode := .fixed, agreedPriceMicros := some 500, taskCogsCeilingMicros := none }

def reportUnder (key : String) : Report :=
  { tenant := ⟨"t"⟩, customer := ⟨"c"⟩, idempotencyKey := key, postingId := ⟨"q"⟩, task := none
    costing := { providerCostMicros := none, costingStatus := .notApplicable, billedCostMicros := none
                 pricingStatus := .notApplicable, costAgrees := absent_cost_agrees, priceAgrees := absent_price_agrees } }

theorem priced_unit_charged_after_report :
    ChargedOnce (run step noWork [.start pricedUnit, .record (reportUnder "k")]) deliverOneUnit pricedUnit.id 500 :=
  (delivered_work_charged_iff_key_free [.start pricedUnit, .record (reportUnder "k")] (newTask pricedUnit none) 500
    deliverOneUnit (by decide) rfl rfl rfl rfl ⟨rfl, rfl, rfl⟩ (by decide)).mpr (by decide)

theorem report_under_the_derived_key_blocks_the_close :
    ¬∀ (events : List Event) (task : Task) (price : Int) (request : CloseRequest),
      (run step noWork events).taskWith task.id = some task → task.ending.status = .active →
      task.agreedPriceMicros = some price → request.task = task.id → request.tenant = task.tenant →
      request.outcome = "delivered" ∧ request.outcomeReason = none ∧ request.reasonDetail = none →
      (run step noWork events).postingWith request.postingId = none →
        ChargedOnce (run step noWork events) request task.id price := by
  intro alwaysCharged
  obtain ⟨next, answered, _⟩ := alwaysCharged [.start pricedUnit, .record (reportUnder "task:a")]
    (newTask pricedUnit none) 500 deliverOneUnit (by decide) rfl rfl rfl rfl ⟨rfl, rfl, rfl⟩ (by decide)
  have refused : close (run step noWork [.start pricedUnit, .record (reportUnder "task:a")]) deliverOneUnit =
      .error .postingExists := by rfl
  rw [refused] at answered
  cases answered

end Ubb.Work
