import Ubb.Webhooks.Deliveries

set_option autoImplicit false

-- How often an event's effect lands, and which answers are final.
namespace Ubb.Webhooks

open Ubb.Library

-- The effect landed and its row does not say so: the worker stopped between the
-- two, or the save itself raised.
def Stage.unrecorded : Stage → Bool
  | .unsaved | .died (some .returned) => true
  | _ => false

def Stage.inHand (stage : Stage) : Bool := decide (stage = .ran .returned)

theorem effected_parts (stage : Stage) :
    stage.effected = ((stage.reportedSuccess || stage.inHand) || stage.unrecorded) := by
  cases stage with
  | ran result => cases result <;> rfl
  | answered outcome => cases outcome <;> rfl
  | died result =>
    cases result with
    | none => rfl
    | some result => cases result <;> rfl
  | _ => rfl

theorem tally_effected (state : State) (key : EventKey) :
    tally state key Stage.effected = tally state key Stage.reportedSuccess + tally state key Stage.inHand +
      tally state key Stage.unrecorded := by
  have parts : (fun (delivery : Delivery) stage => decide (delivery.key = key) && Stage.effected stage) =
      fun delivery stage => ((decide (delivery.key = key) && Stage.reportedSuccess stage) ||
        (decide (delivery.key = key) && Stage.inHand stage)) || (decide (delivery.key = key) && Stage.unrecorded stage) := by
    funext delivery stage
    rw [effected_parts, Bool.and_or_distrib_left, Bool.and_or_distrib_left]
  rw [tally, parts, counting_or, counting_or]
  · rfl
  · intro delivery stage first
    rw [Bool.and_eq_true, Stage.reportedSuccess, decide_eq_true_iff, decide_eq_true_iff] at first
    rw [first.2]
    exact Bool.and_false _
  · intro delivery stage first
    rw [← Bool.and_or_distrib_left, Bool.and_eq_true] at first
    have recorded : stage.unrecorded = false := by
      rcases Bool.or_eq_true_iff.mp first.2 with reported | inHand
      · rw [of_decide_eq_true reported]
        rfl
      · rw [of_decide_eq_true inHand]
        rfl
    rw [recorded, Bool.and_false]

theorem in_hand_holds (state : State) (key : EventKey) : tally state key Stage.inHand ≤ tally state key Stage.holding := by
  apply List.countP_mono_left
  intro worker _ here
  rw [Bool.and_eq_true] at here ⊢
  exact ⟨here.1, by rw [of_decide_eq_true here.2]; rfl⟩

theorem recorded_or_in_hand (state : State) (sound : Sound state) (key : EventKey) :
    tally state key Stage.reportedSuccess + tally state key Stage.inHand ≤ 1 := by
  have recorded := sound.recorded key
  have inHand := in_hand_holds state key
  have single := sound.single key
  cases held : state.row key with
  | none =>
    rw [held, Option.any_none, Bool.toNat_false] at recorded
    omega
  | some row =>
    rw [held, Option.any_some] at recorded
    by_cases free : tally state key Stage.holding = 0
    · have most := Bool.toNat_le (succeededRow row)
      omega
    · have processing := sound.held key row held (Nat.pos_of_ne_zero free)
      rw [succeededRow, processing] at recorded
      have none_yet : tally state key Stage.reportedSuccess = 0 := recorded
      omega

section

variable (dispatch : Receiver → Dispatch)

theorem run_sound (events : List Event) (spared : Along (step dispatch) SparesLiveClaims noEvents events) :
    Sound (run (step dispatch) noEvents events) :=
  along_invariant (step dispatch) Sound SparesLiveClaims (fun state event sound here => sound_step dispatch state sound event here)
    noEvents events no_events_sound spared

theorem effect_lands_once_unless_unrecorded (events : List Event)
    (spared : Along (step dispatch) SparesLiveClaims noEvents events) (key : EventKey) :
    (run (step dispatch) noEvents events).applied.count key =
        (((run (step dispatch) noEvents events).row key).any succeededRow).toNat +
          tally (run (step dispatch) noEvents events) key Stage.inHand +
          tally (run (step dispatch) noEvents events) key Stage.unrecorded ∧
      (((run (step dispatch) noEvents events).row key).any succeededRow).toNat +
        tally (run (step dispatch) noEvents events) key Stage.inHand ≤ 1 := by
  have sound := run_sound dispatch events spared
  generalize run (step dispatch) noEvents events = reached at sound
  rw [sound.counted key, tally_effected, sound.recorded key]
  refine ⟨rfl, ?_⟩
  rw [← sound.recorded key]
  exact recorded_or_in_hand reached sound key

def paidDispatch (_ : Receiver) : Dispatch := ⟨["invoice.paid"], true⟩

def paidDelivery : Delivery := ⟨⟨.billing, "evt_1"⟩, "invoice.paid"⟩

-- The first worker stops with its effect landed; half an hour later a
-- redelivery takes its claim and lands it again.
def stoppedAfterReturning : List Event :=
  [.deliver paidDelivery 0, .dispatch 0 .returned 1, .die 0, .deliver paidDelivery 1800000001, .decide 1 1800000001,
    .dispatch 1 .returned 1800000002, .record 1 1800000003]

theorem stopped_after_returning_lands_twice :
    Along (step paidDispatch) SparesLiveClaims noEvents stoppedAfterReturning ∧
      (run (step paidDispatch) noEvents stoppedAfterReturning).applied.count paidDelivery.key = 1 + 0 + 1 := by
  have spared : Along (step paidDispatch) SparesLiveClaims noEvents stoppedAfterReturning := by decide
  exact ⟨spared, (effect_lands_once_unless_unrecorded paidDispatch stoppedAfterReturning spared paidDelivery.key).1⟩

def StripeWebhookEvent.refusedForGood (row : StripeWebhookEvent) : Bool := decide (row.status = .failed) && !row.retryable

def StripeWebhookEvent.settled (row : StripeWebhookEvent) : Bool :=
  decide (row.status = .succeeded) || decide (row.status = .skipped) || row.refusedForGood

def StripeWebhookEvent.verdict (row : StripeWebhookEvent) : EventStatus × Option FailureReason × Option Int :=
  (row.status, row.failureReason, row.processedAt)

theorem settled_unheld (state : State) (sound : Sound state) (key : EventKey) (row : StripeWebhookEvent)
    (held : state.row key = some row) (settled : row.settled = true) : tally state key Stage.holding = 0 := by
  by_contra busy
  have processing := sound.held key row held (Nat.pos_of_ne_zero busy)
  rw [StripeWebhookEvent.settled, StripeWebhookEvent.refusedForGood, processing] at settled
  cases settled

-- Two writes of one row never read one instant of the clock.
def Ticks (state : State) : Event → Prop
  | .collide delivery now => ∀ row ∈ state.row delivery.key, row.updatedAt < now
  | .decide id now | .dispatch id _ now | .record id now | .saveRaises id _ now =>
      ∀ mover ∈ agentNamed state.workers id, ∀ row ∈ state.row mover.work.key, row.updatedAt < now
  | _ => True

instance decidableBefore (held : Option StripeWebhookEvent) (now : Int) : Decidable (∀ row ∈ held, row.updatedAt < now) :=
  @Option.decidableForallMem _ _ (fun row => Int.decLt row.updatedAt now) held

instance decidableMoverBefore (state : State) (id : Nat) (now : Int) :
    Decidable (∀ mover ∈ agentNamed state.workers id, ∀ row ∈ state.row mover.work.key, row.updatedAt < now) :=
  @Option.decidableForallMem _ _ (fun mover => decidableBefore (state.row mover.work.key) now) (agentNamed state.workers id)

instance decidableTicks (state : State) : (event : Event) → Decidable (Ticks state event)
  | .deliver _ _ => isTrue trivial
  | .reprocess _ _ => isTrue trivial
  | .collide delivery now => decidableBefore (state.row delivery.key) now
  | .decide id now => decidableMoverBefore state id now
  | .dispatch id _ now => decidableMoverBefore state id now
  | .record id now => decidableMoverBefore state id now
  | .saveRaises id _ now => decidableMoverBefore state id now
  | .die _ => isTrue trivial

-- A row last written when a worker read it is as the worker read it.
def Unrepeated (state : State) : Prop :=
  ∀ worker ∈ state.workers, ∀ snapshot, worker.stage = .read snapshot → ∀ row, state.row worker.work.key = some row →
    snapshot.updatedAt ≤ row.updatedAt ∧ (row.updatedAt = snapshot.updatedAt → row = snapshot)

-- Only a worker that holds the row, or may take it, saves anything but a count.
theorem settled_turn (state : State) (sound : Sound state) (event : Event) (mover : Agent Delivery Stage)
    (row : StripeWebhookEvent) (stage : Stage) (save : StripeWebhookEvent → StripeWebhookEvent) (effects : Nat)
    (named : agentNamed state.workers mover.id = some mover) (held : state.row mover.work.key = some row)
    (settled : row.settled = true) (fresh : row.status = .failed → Unrepeated state)
    (turn : Turn dispatch row mover event stage save effects) : (save row).verdict = row.verdict ∧ effects = 0 := by
  have inside := (named_mem state.workers mover.id mover named).1
  have free := settled_unheld state sound mover.work.key row held settled
  have unheld : mover.stage.holding = true → False := by
    intro holds
    rw [mover_holds state sound mover inside holds] at free
    cases free
  cases turn with
  | took now snapshot reads may sameStatus sameWrite =>
    rcases may with retryable | stale
    · have failed : snapshot.status = .failed := by
        rw [StripeWebhookEvent.retryable, Bool.and_eq_true, decide_eq_true_iff] at retryable
        exact retryable.1
      have same := (fresh (sameStatus.trans failed) mover inside snapshot reads row held).2 sameWrite
      rw [StripeWebhookEvent.settled, StripeWebhookEvent.refusedForGood, same, failed, retryable] at settled
      cases settled
    · rw [StripeWebhookEvent.stale, Bool.and_eq_true, decide_eq_true_iff] at stale
      rw [StripeWebhookEvent.settled, StripeWebhookEvent.refusedForGood, sameStatus, stale.1] at settled
      cases settled
  | skipped result now claimed => exact (unheld (by rw [claimed]; rfl)).elim
  | ran result now claimed => exact (unheld (by rw [claimed]; rfl)).elim
  | recorded now result outcome save ran concludes => exact (unheld (by rw [ran]; rfl)).elim
  | unsaved raised now ran => exact (unheld (by rw [ran]; rfl)).elim
  | _ => exact ⟨rfl, rfl⟩

theorem settled_step (state : State) (sound : Sound state) (event : Event) (key : EventKey) (row : StripeWebhookEvent)
    (held : state.row key = some row) (settled : row.settled = true) (unrepeated : row.status = .failed → Unrepeated state) :
    ((step dispatch state event).row key).map StripeWebhookEvent.verdict = some row.verdict ∧
      (step dispatch state event).applied.count key = state.applied.count key := by
  have move := step_moves dispatch state sound.toTabled event
  generalize step dispatch state event = next at move
  have kept : (state.row key).map StripeWebhookEvent.verdict = some row.verdict := by rw [held, Option.map_some]
  cases move with
  | idle => exact ⟨kept, rfl⟩
  | opened delivery now fresh =>
    have other : key ≠ delivery.key := by
      intro same
      rw [same, fresh] at held
      cases held
    rw [row_create state delivery now fresh, if_neg other]
    exact ⟨kept, rfl⟩
  | found delivery read there => exact ⟨kept, rfl⟩
  | collided delivery read now there =>
    refine ⟨?_, rfl⟩
    show ((state.write delivery.key (StripeWebhookEvent.seenAgain now)).row key).map _ = _
    rw [row_write state delivery.key key (StripeWebhookEvent.seenAgain now) (fun _ => rfl)]
    split
    · rename_i same
      rw [← same, held]
      rfl
    · exact kept
  | turned mover read stage save effects named there turn =>
    have keeps := turn_keeps_key dispatch read mover event stage save effects turn
    show ((state.write mover.work.key save).row key).map _ = _ ∧
      (state.applied ++ List.replicate effects mover.work.key).count key = _
    rw [row_write state mover.work.key key save keeps, List.count_append, List.count_replicate]
    by_cases here : key = mover.work.key
    · subst here
      cases held.symm.trans there
      obtain ⟨same, none_left⟩ := settled_turn dispatch state sound event mover row stage save effects named there settled unrepeated turn
      rw [if_pos rfl, there, Option.map_some, Option.map_some, same, none_left]
      exact ⟨rfl, by split <;> rfl⟩
    · have unlike : (mover.work.key == key) = false := beq_eq_false_iff_ne.mpr (Ne.symm here)
      rw [if_neg here, unlike]
      exact ⟨kept, Nat.add_zero _⟩

end

end Ubb.Webhooks
