import Ubb.Referrals.Agreement

set_option autoImplicit false

-- A flat fee: the handlers pay it once, a reconciliation once a posting.
namespace Ubb.Referrals

open Ubb.Library

section

variable (terms : SnapshotTerms)

structure Flat : Prop where
  kind : terms.rewardType = .flatFee
  positive : 0 < terms.rewardValue.toInt

def Full (start : Int) : Prop := ∃ most, terms.maxRewardMicros = some most ∧ most - start ≤ 0

theorem flat_reward (flat : Flat terms) (event : UsageRecorded) : rewardOf terms event = terms.rewardValue.toInt := by
  simp only [rewardOf, calculateReward, flat.kind, Option.getD_some]

theorem full_stays (start offered : Int) (full : Full terms start) (nonneg : 0 ≤ offered) :
    filledUpTo terms start offered = start := by
  obtain ⟨most, cap, room⟩ := full
  rw [filledUpTo, cap]
  show start + min offered (max 0 (most - start)) = start
  omega

theorem credited_paid (flat : Flat terms) (world : World) (costMicros rewardMicros : Int) :
    (world.credited terms costMicros rewardMicros).referral.flatFeePaid = true ∨
      Full terms world.earned ∧ (world.credited terms costMicros rewardMicros).referral = world.referral := by
  rw [world_earned, World.credited]
  split
  · rename_i accumulator done
    refine .inr ⟨?_, rfl⟩
    rw [accumulate] at done
    cases cap : terms.maxRewardMicros with
    | none =>
      rw [cap] at done
      cases done
    | some most =>
      rw [cap] at done
      dsimp only at done
      split at done
      · rename_i room
        exact ⟨most, cap, room⟩
      · cases done
  · rw [if_pos flat.kind]
    exact .inl rfl

def OneHandlerAtATime (world : World) : Event → Prop
  | .takeUp _ => ∀ agent ∈ world.handlers, agent.stage.done = true
  | _ => True

instance decidableOneHandler (world : World) : (event : Event) → Decidable (OneHandlerAtATime world event)
  | .takeUp _ => List.decidableBAll (fun agent : Agent UsageRecorded HandlerStage => agent.stage.done = true) world.handlers
  | .finishHandler _ _ | .reconcile _ _ _ | .advance _ | .expire _ | .revoke | .emitPayout => isTrue trivial

def feeOnce (handled : List UsageRecorded) : Int := if handled = [] then 0 else terms.rewardValue.toInt

structure FeePaid (start : Int) (world : World) : Prop where
  alone : ∀ first ∈ world.handlers, ∀ second ∈ world.handlers,
    first.stage.done = false → second.stage.done = false → first = second
  fresh : ∀ agent ∈ world.handlers, ∀ referral, agent.stage = .read referral →
    referral.flatFeePaid = world.referral.flatFeePaid
  earned : world.earned = filledUpTo terms start (feeOnce terms world.handled)
  paid : world.referral.flatFeePaid = true → world.handled ≠ []
  unpaid : world.referral.flatFeePaid = false → world.handled ≠ [] → Full terms start

theorem finished_handled (handlers : List (Agent UsageRecorded HandlerStage)) (world : World) (id : Nat)
    (mover : Agent UsageRecorded HandlerStage) (found : agentNamed handlers id = some mover)
    (same : world.handlers = moved handlers id .finished) : world.handled ≠ [] := by
  obtain ⟨inside, named⟩ := named_mem handlers id mover found
  have listed : mover.to .finished ∈ world.handlers := by
    rw [same]
    exact List.mem_map.mpr ⟨mover, inside, if_pos named⟩
  intro empty
  rw [World.handled, List.map_eq_nil_iff, List.filter_eq_nil_iff] at empty
  exact empty _ listed rfl

theorem all_done_after (handlers : List (Agent UsageRecorded HandlerStage)) (numbered : Numbered handlers)
    (alone : ∀ first ∈ handlers, ∀ second ∈ handlers, first.stage.done = false → second.stage.done = false → first = second)
    (id : Nat) (mover : Agent UsageRecorded HandlerStage) (found : agentNamed handlers id = some mover)
    (busy : mover.stage.done = false) (agent : Agent UsageRecorded HandlerStage) (listed : agent ∈ moved handlers id .finished) :
    agent.stage.done = true := by
  rcases mem_moved handlers numbered id mover found .finished agent listed with ⟨old, other⟩ | rfl
  · by_contra undone
    rw [Bool.not_eq_true] at undone
    obtain ⟨inside, named⟩ := named_mem handlers id mover found
    exact other (by rw [alone agent old mover inside undone busy, named])
  · rfl

theorem fee_once_nonneg (flat : Flat terms) (handled : List UsageRecorded) : 0 ≤ feeOnce terms handled := by
  rw [feeOnce]
  split
  · exact le_rfl
  · exact flat.positive.le

theorem handle_pays_once (flat : Flat terms) (rewardWindowEndsAt : Option Int) (start : Int) (world : World)
    (paid : FeePaid terms start world) (referral : Referral) (stands : Standing terms rewardWindowEndsAt referral)
    (fresh : referral.flatFeePaid = world.referral.flatFeePaid) (event : UsageRecorded) (now : Int)
    (inWindow : rewardWindowEndsAt.any (fun endsAt => decide (endsAt < now)) = false) :
    (world.handle referral event now).earned = filledUpTo terms start terms.rewardValue.toInt ∧
      ((world.handle referral event now).referral.flatFeePaid = false → Full terms start) := by
  have open_window : ¬referral.windowPassed now = true := by
    rw [Referral.windowPassed, stands.window, inWindow]
    exact Bool.false_ne_true
  have earned := paid.earned
  rw [World.handle, if_neg open_window]
  cases flag : world.referral.flatFeePaid with
  | true =>
    rw [flag] at fresh
    rw [if_pos ⟨by rw [stands.snapshot]; exact flat.kind, fresh⟩]
    rw [feeOnce, if_neg (paid.paid flag)] at earned
    exact ⟨earned, fun unset => absurd (flag.symm.trans unset) (by simp)⟩
  | false =>
    rw [flag] at fresh
    have answered : calculateReward terms (event.costMicros.getD 0) event.providerCostMicros = some terms.rewardValue.toInt := by
      simp only [calculateReward, flat.kind]
    rw [if_neg (by rw [fresh]; simp), stands.snapshot]
    dsimp only
    rw [answered]
    dsimp only
    rw [if_neg (not_le.mpr flat.positive)]
    have fills := credited_fills terms world start _ (event.costMicros.getD 0) _ earned (fee_once_nonneg terms flat world.handled)
      flat.positive.le
    have flagged := credited_paid terms flat world (event.costMicros.getD 0) terms.rewardValue.toInt
    by_cases first : world.handled = []
    · rw [feeOnce, if_pos first, zero_add] at fills
      refine ⟨fills, fun unset => ?_⟩
      rcases flagged with set | ⟨full, _⟩
      · exact absurd (set.symm.trans unset) (by simp)
      · rw [earned, feeOnce, if_pos first, filled_up_to_nothing] at full
        exact full
    · have full := paid.unpaid flag first
      refine ⟨?_, fun _ => full⟩
      rw [fills, full_stays terms start _ full flat.positive.le,
        full_stays terms start _ full (add_nonneg (fee_once_nonneg terms flat world.handled) flat.positive.le)]

theorem fee_paid_step (flat : Flat terms) (rewardWindowEndsAt : Option Int) (ledger : List RewardLedgerEntry) (start : Int)
    (world : World) (handling : Handling terms rewardWindowEndsAt ledger world) (paid : FeePaid terms start world) (event : Event)
    (handles : event.handles rewardWindowEndsAt) (one : OneHandlerAtATime world event) :
    FeePaid terms start (step world event) := by
  cases event with
  | takeUp event =>
    rw [step, World.takeUp]
    split
    · have handled : { world with handlers := joined world.handlers event (.read world.referral) }.handled = world.handled := by
        rw [World.handled, joined, List.filter_append, List.map_append]
        exact List.append_nil _
      constructor
      · intro first firstListed second secondListed firstBusy secondBusy
        rcases mem_joined _ _ _ _ firstListed with old | rfl
        · exact absurd (firstBusy.symm.trans (one first old)) Bool.false_ne_true
        · rcases mem_joined _ _ _ _ secondListed with old | rfl
          · exact absurd (secondBusy.symm.trans (one second old)) Bool.false_ne_true
          · rfl
      · intro agent listed referral reads
        rcases mem_joined _ _ _ _ listed with old | rfl
        · exact paid.fresh agent old referral reads
        · cases reads
          rfl
      · rw [handled]
        exact paid.earned
      · rw [handled]
        exact paid.paid
      · rw [handled]
        exact paid.unpaid
    · exact paid
  | finishHandler id now =>
    rw [step, World.finishHandler]
    split
    · rename_i named event referral found
      have inside := (named_mem world.handlers id _ found).1
      have stands := handling.read _ inside referral rfl
      obtain ⟨earned, full⟩ := handle_pays_once terms flat rewardWindowEndsAt start world paid referral stands
        (paid.fresh _ inside referral rfl) event now handles
      have done := all_done_after world.handlers handling.numbered paid.alone id _ found rfl
      have some_handled := finished_handled world.handlers
        { world.handle referral event now with handlers := moved world.handlers id .finished } id _ found rfl
      constructor
      · intro first listed _ _ busy
        exact absurd (busy.symm.trans (done first listed)) Bool.false_ne_true
      · intro agent listed other reads
        have finished := done agent listed
        rw [reads] at finished
        cases finished
      · rw [feeOnce, if_neg some_handled]
        exact earned
      · exact fun _ => some_handled
      · exact fun unset _ => full unset
    · exact paid
  | reconcile periodStart periodEnd events => exact handles.elim
  | advance id => exact handles.elim
  | expire now => exact handles.elim
  | revoke => exact handles.elim
  | emitPayout => exact handles.elim

end

theorem some_priced (terms : SnapshotTerms) (ledger : List RewardLedgerEntry) (periodStart periodEnd : Int)
    (postings : List PostingCost) (entry : RewardLedgerEntry)
    (ordinary : ∀ posting ∈ postings, 0 ≤ posting.billedCostMicros.getD 0)
    (computed : periodEntry terms ledger periodStart periodEnd postings = some entry) :
    (postings.map PostingCost.event).filter UsageRecorded.priced ≠ [] := by
  obtain ⟨totals, summed, spent, _⟩ := period_entry_some terms ledger periodStart periodEnd postings entry computed
  intro unpriced
  apply spent
  rw [(totals_summed terms postings _ totals summed).2, zero_add]
  apply List.sum_eq_zero
  intro amount listed
  obtain ⟨posting, inside, rfl⟩ := List.mem_map.mp listed
  have free := List.filter_eq_nil_iff.mp unpriced posting.event (List.mem_map_of_mem inside)
  rw [UsageRecorded.priced, decide_eq_true_iff] at free
  exact le_antisymm (not_lt.mp free) (ordinary posting inside)

theorem fees_same_iff (terms : SnapshotTerms) (flat : Flat terms) (start : Int) (count : Nat) (some_fee : 0 < count) :
    filledUpTo terms start (count * terms.rewardValue.toInt) = filledUpTo terms start terms.rewardValue.toInt ↔
      count = 1 ∨ ∃ most, terms.maxRewardMicros = some most ∧ most - start ≤ terms.rewardValue.toInt := by
  have positive := flat.positive
  generalize terms.rewardValue.toInt = fee at positive ⊢
  have more : count = 1 ∨ fee < count * fee := by
    rcases Nat.lt_or_ge 1 count with several | single
    · right
      have twice : (1 : Int) < count := by exact_mod_cast several
      nlinarith
    · exact .inl (le_antisymm single some_fee)
  rw [filledUpTo, filledUpTo]
  rcases more with rfl | grows
  · simp
  · have several : count ≠ 1 := by
      rintro rfl
      simp at grows
    cases terms.maxRewardMicros with
    | none =>
      simp only [several, false_or, reduceCtorEq, false_and, exists_false, iff_false]
      omega
    | some most =>
      simp only [several, false_or, Option.some.injEq, exists_eq_left', filled]
      omega

theorem flat_fee_booked_once_iff (world : World) (events : List Event) (periodStart periodEnd : Int)
    (postings : List PostingCost) (entry : RewardLedgerEntry) (flat : Flat world.referral.snapshot)
    (unpaid : world.referral.flatFeePaid = false) (idle : world.handlers = [])
    (start : world.earned = otherEarned world.ledger periodStart)
    (distinct : (world.ledger.map RewardLedgerEntry.periodStart).Nodup)
    (ordinary : ∀ posting ∈ postings, 0 ≤ posting.billedCostMicros.getD 0)
    (handles : ∀ event ∈ events, event.handles world.referral.rewardWindowEndsAt)
    (one : Along step OneHandlerAtATime world events)
    (once : HandledOnce (run step world events) postings)
    (computed : periodEntry world.referral.snapshot (run step world events).ledger periodStart periodEnd postings = some entry) :
    (run step world events).earned =
        filledUpTo world.referral.snapshot world.earned world.referral.snapshot.rewardValue.toInt ∧
      totalEarned (updateOrCreate (run step world events).ledger entry) =
        filledUpTo world.referral.snapshot world.earned (postings.length * world.referral.snapshot.rewardValue.toInt) ∧
      (totalEarned (updateOrCreate (run step world events).ledger entry) = (run step world events).earned ↔
        postings.length = 1 ∨
          ∃ most, world.referral.snapshot.maxRewardMicros = some most ∧
            most - world.earned ≤ world.referral.snapshot.rewardValue.toInt) := by
  have handled_none : world.handled = [] := by rw [World.handled, idle]; rfl
  have opening : Handling world.referral.snapshot world.referral.rewardWindowEndsAt world.ledger world ∧
      FeePaid world.referral.snapshot world.earned world := by
    refine ⟨⟨⟨rfl, rfl⟩, by simp [idle], by rw [idle]; rfl, rfl⟩, by simp [idle], by simp [idle], ?_, ?_, ?_⟩
    · rw [feeOnce, if_pos handled_none, filled_up_to_nothing]
    · exact fun set => absurd (unpaid.symm.trans set) (by simp)
    · exact fun _ handled => absurd handled_none handled
  obtain ⟨handling, paid⟩ := along_invariant step
    (fun now => Handling world.referral.snapshot world.referral.rewardWindowEndsAt world.ledger now ∧
      FeePaid world.referral.snapshot world.earned now)
    (fun now event => event.handles world.referral.rewardWindowEndsAt ∧ OneHandlerAtATime now event)
    (fun now event held here => ⟨handling_step _ _ _ now held.1 event here.1,
      fee_paid_step _ flat _ _ _ now held.1 held.2 event here.1 here.2⟩) world events opening
    (along_admitted step _ _ world events handles one)
  rw [handling.booked] at computed ⊢
  have priced := some_priced _ world.ledger periodStart periodEnd postings entry ordinary computed
  have handled_some : (run step world events).handled ≠ [] := by
    intro none_handled
    rw [HandledOnce, none_handled, List.map_nil] at once
    exact priced (List.map_eq_nil_iff.mp once.symm.eq_nil)
  have fees : (postings.map (fun posting => rewardOf world.referral.snapshot posting.event)).sum =
      postings.length * world.referral.snapshot.rewardValue.toInt := by
    simp only [flat_reward _ flat, List.map_const', List.sum_replicate, nsmul_eq_mul]
  have one_fee := paid.earned
  rw [feeOnce, if_neg handled_some] at one_fee
  have booked := booked_after _ world.ledger periodStart periodEnd postings entry distinct computed
  rw [fees, ← start] at booked
  refine ⟨one_fee, booked, ?_⟩
  rw [one_fee, booked]
  apply fees_same_iff _ flat
  rw [List.length_pos_iff]
  rintro rfl
  exact priced rfl

-- One dollar for the referral, and a month of three postings: one has no price,
-- and the supplier cost of another came after its handler.
def oneDollar : SnapshotTerms := ⟨.flatFee, ⟨1000000000000, -6⟩, none, none⟩

def oneAfterTheOther : List Event :=
  [.takeUp ⟨some 2000000, none⟩, .finishHandler 0 5, .takeUp ⟨some 1000000, none⟩, .finishHandler 1 7]

theorem three_postings_booked_three_fees :
    ∃ entry, periodEntry oneDollar (run step (attributed oneDollar none) oneAfterTheOther).ledger 0 31 threePostings = some entry ∧
      entry.rewardMicros = 3000000 ∧ (run step (attributed oneDollar none) oneAfterTheOther).earned = 1000000 ∧
      totalEarned (updateOrCreate (run step (attributed oneDollar none) oneAfterTheOther).ledger entry) ≠
        (run step (attributed oneDollar none) oneAfterTheOther).earned := by
  refine ⟨⟨0, 31, 3000000, 500000, 2, 1, 3000000, .actualCost⟩, by decide, rfl, by decide, ?_⟩
  intro same
  have only := (flat_fee_booked_once_iff (attributed oneDollar none) oneAfterTheOther 0 31 threePostings _ ⟨rfl, by decide⟩ rfl rfl
    rfl List.nodup_nil (by decide) (by simp [oneAfterTheOther, Event.handles, attributed]) (by decide) (by decide) (by decide)).2.2.mp same
  simp [threePostings, attributed, oneDollar] at only

end Ubb.Referrals
