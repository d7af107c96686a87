import Ubb.Library.Capped
import Ubb.Referrals.Rewards

set_option autoImplicit false

-- However handlers, reconciliations and payouts interleave, a referral earns,
-- books and is paid no more than its cap.
namespace Ubb.Referrals

open Ubb.Library

theorem other_earned_le (terms : SnapshotTerms) (ledger : List RewardLedgerEntry)
    (signed : ∀ entry ∈ ledger, Signed terms entry.rewardMicros) (periodStart : Int) :
    otherEarned ledger periodStart ≤ max (totalEarned ledger) 0 := by
  by_cases pays : paysBack terms
  · apply le_max_of_le_right
    rw [← smul_zero (List.length _), otherEarned]
    apply List.sum_le_card_nsmul
    intro amount listed
    obtain ⟨entry, inside, rfl⟩ := List.mem_map.mp listed
    exact (signed entry (List.mem_of_mem_filter inside)).2 pays
  · apply le_max_of_le_left
    apply List.Sublist.sum_le_sum (List.filter_sublist.map _)
    intro amount listed
    obtain ⟨entry, inside, rfl⟩ := List.mem_map.mp listed
    exact (signed entry inside).1 pays

theorem update_or_create_mem (ledger : List RewardLedgerEntry) (entry other : RewardLedgerEntry)
    (listed : other ∈ updateOrCreate ledger entry) : other ∈ ledger ∨ other = entry := by
  rw [updateOrCreate] at listed
  split at listed
  · rcases mem_update_row RewardLedgerEntry.periodStart _ _ _ _ listed with ⟨old, _⟩ | ⟨_, _, _, same⟩
    · exact .inl old
    · exact .inr same
  · rcases List.mem_append.mp listed with old | new
    · exact .inl old
    · exact .inr (List.mem_singleton.mp new)

theorem update_or_create_periods (ledger : List RewardLedgerEntry) (entry : RewardLedgerEntry)
    (distinct : (ledger.map RewardLedgerEntry.periodStart).Nodup) :
    ((updateOrCreate ledger entry).map RewardLedgerEntry.periodStart).Nodup := by
  rw [updateOrCreate]
  split
  · rw [update_row_keys RewardLedgerEntry.periodStart _ _ _ (fun _ _ => rfl)]
    exact distinct
  · rename_i missing
    apply nodup_add_row RewardLedgerEntry.periodStart ledger entry distinct
    intro other inside same
    exact missing (List.any_eq_true.mpr ⟨other, inside, decide_eq_true same⟩)

theorem update_or_create_others (ledger : List RewardLedgerEntry) (entry : RewardLedgerEntry) :
    otherEarned (updateOrCreate ledger entry) entry.periodStart = otherEarned ledger entry.periodStart := by
  rw [otherEarned, otherEarned, updateOrCreate]
  split
  · rw [others_update_row RewardLedgerEntry.periodStart _ _ _ (fun _ _ => rfl)]
  · rw [List.filter_append, List.filter_cons_of_neg (by simp), List.filter_nil, List.append_nil]

theorem update_or_create_found (ledger : List RewardLedgerEntry) (entry : RewardLedgerEntry)
    (distinct : (ledger.map RewardLedgerEntry.periodStart).Nodup) :
    (updateOrCreate ledger entry).filter (fun other => decide (other.periodStart = entry.periodStart)) = [entry] := by
  rw [filter_at_key RewardLedgerEntry.periodStart _ _ (update_or_create_periods ledger entry distinct)]
  rw [updateOrCreate]
  split
  · rename_i present
    obtain ⟨held, inside, same⟩ := List.any_eq_true.mp present
    rw [find_update_row_hit RewardLedgerEntry.periodStart _ _ _ (fun _ _ => rfl),
      ← of_decide_eq_true same, find_key_of_mem RewardLedgerEntry.periodStart ledger distinct held inside]
    rfl
  · rename_i missing
    have none_yet : ledger.find? (fun other => decide (other.periodStart = entry.periodStart)) = none := by
      rw [List.find?_eq_none]
      intro other inside same
      exact missing (List.any_eq_true.mpr ⟨other, inside, same⟩)
    rw [List.find?_append, none_yet, Option.none_or, List.find?_cons_of_pos (by simp)]
    rfl

theorem update_or_create_earned (ledger : List RewardLedgerEntry) (entry : RewardLedgerEntry)
    (distinct : (ledger.map RewardLedgerEntry.periodStart).Nodup) :
    totalEarned (updateOrCreate ledger entry) = otherEarned ledger entry.periodStart + entry.rewardMicros := by
  rw [totalEarned, sum_by_key RewardLedgerEntry.periodStart entry.periodStart, update_or_create_found ledger entry distinct,
    ← update_or_create_others ledger entry, otherEarned, List.map_singleton, List.sum_singleton, add_comm]

def ReconcileStage.pending : ReconcileStage → Bool
  | .computed _ => true
  | _ => false

def OnePeriodAtATime (world : World) : Event → Prop
  | .reconcile periodStart _ _ => ∀ agent ∈ world.reconciliations, agent.stage.pending = true → agent.work = periodStart
  | _ => True

instance decidableOnePeriod (world : World) (event : Event) : Decidable (OnePeriodAtATime world event) := by
  cases event <;> (unfold OnePeriodAtATime; infer_instance)

structure Capped (terms : SnapshotTerms) (most : Int) (world : World) : Prop where
  snapshot : world.referral.snapshot = terms
  read : ∀ agent ∈ world.handlers, ∀ referral, agent.stage = .read referral → referral.snapshot = terms
  numberedHandlers : Numbered world.handlers
  numbered : Numbered world.reconciliations
  periods : (world.ledger.map RewardLedgerEntry.periodStart).Nodup
  signed : ∀ entry ∈ world.ledger, Signed terms entry.rewardMicros
  booked : totalEarned world.ledger ≤ max most 0
  computed : ∀ agent ∈ world.reconciliations, ∀ entry, agent.stage = .computed entry →
    entry.periodStart = agent.work ∧ Signed terms entry.rewardMicros ∧
      entry.rewardMicros ≤ max 0 (most - otherEarned world.ledger agent.work)
  together : ∀ first ∈ world.reconciliations, ∀ second ∈ world.reconciliations,
    first.stage.pending = true → second.stage.pending = true → first.work = second.work
  summed : ∀ agent ∈ world.reconciliations, ∀ total,
    (agent.stage = .earned total ∨ ∃ spend, agent.stage = .summed total spend) → total ≤ max most 0
  earned : world.earned ≤ max most 0
  paid : world.lastPayout ≤ max most 0

section

variable (terms : SnapshotTerms) (most : Int)

theorem accumulate_fills (held : Option RewardAccumulator) (costMicros rewardMicros : Int)
    (cap : terms.maxRewardMicros = some most) :
    (accumulate terms held costMicros rewardMicros).1.totalEarnedMicros =
      fill most (held.getD newAccumulator).totalEarnedMicros rewardMicros := by
  simp only [accumulate, cap, fill]
  split <;> rfl

theorem accumulate_last_payout (held : Option RewardAccumulator) (costMicros rewardMicros : Int) :
    (accumulate terms held costMicros rewardMicros).1.lastPayoutAmountMicros =
      (held.map RewardAccumulator.lastPayoutAmountMicros).getD 0 := by
  have same : (held.getD newAccumulator).lastPayoutAmountMicros =
      (held.map RewardAccumulator.lastPayoutAmountMicros).getD 0 := by
    cases held <;> rfl
  rw [← same, accumulate]
  cases terms.maxRewardMicros with
  | none => rfl
  | some most =>
    dsimp only
    split <;> rfl

theorem world_earned (world : World) :
    world.earned = (world.accumulator.getD newAccumulator).totalEarnedMicros := by
  rw [World.earned]
  cases world.accumulator <;> rfl

theorem attributed_capped (terms : SnapshotTerms) (most : Int) (rewardWindowEndsAt : Option Int) :
    Capped terms most (attributed terms rewardWindowEndsAt) where
  snapshot := rfl
  read := by simp [attributed]
  numberedHandlers := rfl
  numbered := rfl
  periods := List.nodup_nil
  signed := by simp [attributed]
  booked := le_max_right _ _
  computed := by simp [attributed]
  together := by simp [attributed]
  summed := by simp [attributed]
  earned := le_max_right _ _
  paid := le_max_right _ _

theorem set_status_capped (world : World) (capped : Capped terms most world) (status : ReferralStatus) :
    Capped terms most (world.setStatus status) :=
  { capped with snapshot := capped.snapshot }

theorem credited_capped (world : World) (capped : Capped terms most world) (cap : terms.maxRewardMicros = some most)
    (costMicros rewardMicros : Int) : Capped terms most (world.credited terms costMicros rewardMicros) := by
  have earned : (accumulate terms world.accumulator costMicros rewardMicros).1.totalEarnedMicros ≤ max most 0 := by
    rw [accumulate_fills terms most _ _ _ cap]
    apply fill_bounded _ _ _ _ (le_max_left _ _)
    rw [← world_earned]
    exact capped.earned
  have paid : (accumulate terms world.accumulator costMicros rewardMicros).1.lastPayoutAmountMicros ≤ max most 0 := by
    rw [accumulate_last_payout]
    exact capped.paid
  rw [World.credited]
  split
  · rename_i accumulator done
    rw [done] at earned paid
    exact { capped with earned := earned, paid := paid }
  · rename_i accumulator granted done
    rw [done] at earned paid
    refine { capped with snapshot := ?_, earned := earned, paid := paid }
    dsimp only
    split
    · exact capped.snapshot
    · exact capped.snapshot

theorem handle_capped (world : World) (capped : Capped terms most world) (cap : terms.maxRewardMicros = some most)
    (referral : Referral) (same : referral.snapshot = terms) (event : UsageRecorded) (now : Int) :
    Capped terms most (world.handle referral event now) := by
  rw [World.handle]
  split
  · exact set_status_capped terms most world capped .expired
  · split
    · exact capped
    · dsimp only
      split
      · exact capped
      · split
        · exact capped
        · rw [same]
          exact credited_capped terms most world capped cap _ _

theorem take_up_capped (world : World) (capped : Capped terms most world) (event : UsageRecorded) :
    Capped terms most (world.takeUp event) := by
  rw [World.takeUp]
  split
  · refine { capped with read := ?_, numberedHandlers := joined_numbered _ _ _ capped.numberedHandlers }
    intro agent listed referral reads
    rcases mem_joined _ _ _ _ listed with old | rfl
    · exact capped.read agent old referral reads
    · cases reads
      exact capped.snapshot
  · exact capped

theorem finish_handler_capped (world : World) (capped : Capped terms most world) (cap : terms.maxRewardMicros = some most)
    (id : Nat) (now : Int) : Capped terms most (world.finishHandler id now) := by
  rw [World.finishHandler]
  split
  · rename_i named event referral found
    obtain ⟨inside, _⟩ := named_mem world.handlers id _ found
    have handled := handle_capped terms most world capped cap referral (capped.read _ inside referral rfl) event now
    refine { handled with read := ?_, numberedHandlers := moved_numbered _ _ _ capped.numberedHandlers }
    intro agent listed other reads
    rcases mem_moved _ capped.numberedHandlers id _ found .finished agent listed with ⟨old, _⟩ | rfl
    · exact capped.read agent old other reads
    · cases reads
  · exact capped

theorem reconcile_capped (world : World) (capped : Capped terms most world) (cap : terms.maxRewardMicros = some most)
    (periodStart periodEnd : Int) (events : List PostingCost)
    (one : OnePeriodAtATime world (.reconcile periodStart periodEnd events)) :
    Capped terms most (world.reconcile periodStart periodEnd events) := by
  rw [World.reconcile]
  split
  · rename_i entry computed
    rw [capped.snapshot] at computed
    obtain ⟨totals, summed, _, period, reward⟩ := period_entry_some terms world.ledger periodStart periodEnd events entry computed
    have signed := totals_signed terms events _ totals ⟨fun _ => le_rfl, fun _ => le_rfl⟩ summed
    have bounded : entry.rewardMicros ≤ max 0 (most - otherEarned world.ledger periodStart) := by
      rw [reward, cappedReward, cap]
      exact min_le_right _ _
    refine { capped with numbered := joined_numbered _ _ _ capped.numbered, computed := ?_, together := ?_, summed := ?_ }
    · intro agent listed other stage
      rcases mem_joined _ _ _ _ listed with old | rfl
      · exact capped.computed agent old other stage
      · cases stage
        refine ⟨period, ?_, bounded⟩
        rw [reward]
        exact capped_reward_signed terms world.ledger periodStart _ signed
    · intro first firstListed second secondListed firstPending secondPending
      rcases mem_joined _ _ _ _ firstListed with firstOld | rfl
      · rcases mem_joined _ _ _ _ secondListed with secondOld | rfl
        · exact capped.together first firstOld second secondOld firstPending secondPending
        · exact one first firstOld firstPending
      · rcases mem_joined _ _ _ _ secondListed with secondOld | rfl
        · exact (one second secondOld secondPending).symm
        · rfl
    · intro agent listed total stage
      rcases mem_joined _ _ _ _ listed with old | rfl
      · exact capped.summed agent old total stage
      · rcases stage with stage | ⟨_, stage⟩ <;> cases stage
  · exact capped

theorem go_on_capped (world : World) (capped : Capped terms most world) (id : Nat) (mover : Agent Int ReconcileStage)
    (found : agentNamed world.reconciliations id = some mover) (stage : ReconcileStage) (wrote : stage.pending = false)
    (bounded : ∀ total, (stage = .earned total ∨ ∃ spend, stage = .summed total spend) → total ≤ max most 0) :
    Capped terms most (world.goOn id stage) := by
  have moves := fun agent listed => mem_moved world.reconciliations capped.numbered id mover found stage agent listed
  refine { capped with numbered := moved_numbered _ _ _ capped.numbered, computed := ?_, together := ?_, summed := ?_ }
  · intro agent listed entry computed
    rcases moves agent listed with ⟨old, _⟩ | rfl
    · exact capped.computed agent old entry computed
    · have same : stage = .computed entry := computed
      rw [same] at wrote
      cases wrote
  · intro first firstListed second secondListed firstPending secondPending
    rcases moves first firstListed with ⟨firstOld, _⟩ | rfl
    · rcases moves second secondListed with ⟨secondOld, _⟩ | rfl
      · exact capped.together first firstOld second secondOld firstPending secondPending
      · exact absurd (wrote.symm.trans secondPending) Bool.false_ne_true
    · exact absurd (wrote.symm.trans firstPending) Bool.false_ne_true
  · intro agent listed total holds
    rcases moves agent listed with ⟨old, _⟩ | rfl
    · exact capped.summed agent old total holds
    · exact bounded total holds

-- Only reconciliations of the same period are waiting to write, and what the
-- other periods have earned is what they have read.
theorem written_capped (world : World) (capped : Capped terms most world) (agent : Agent Int ReconcileStage)
    (inside : agent ∈ world.reconciliations) (entry : RewardLedgerEntry) (stage : agent.stage = .computed entry) :
    Capped terms most { world with ledger := updateOrCreate world.ledger entry } := by
  obtain ⟨period, signed, bounded⟩ := capped.computed agent inside entry stage
  have others : otherEarned world.ledger agent.work ≤ max most 0 :=
    (other_earned_le terms world.ledger capped.signed agent.work).trans (max_le capped.booked (le_max_right _ _))
  refine { capped with periods := ?_, signed := ?_, booked := ?_, computed := ?_ }
  · exact update_or_create_periods world.ledger entry capped.periods
  · intro other listed
    rcases update_or_create_mem world.ledger entry other listed with old | rfl
    · exact capped.signed other old
    · exact signed
  · show totalEarned (updateOrCreate world.ledger entry) ≤ max most 0
    rw [update_or_create_earned world.ledger entry capped.periods, period]
    omega
  · intro other listed waiting computed
    obtain ⟨otherPeriod, otherSigned, otherBounded⟩ := capped.computed other listed waiting computed
    refine ⟨otherPeriod, otherSigned, ?_⟩
    have same : other.work = agent.work :=
      capped.together other listed agent inside (by rw [computed]; rfl) (by rw [stage]; rfl)
    show waiting.rewardMicros ≤ max 0 (most - otherEarned (updateOrCreate world.ledger entry) other.work)
    rw [same, ← period, update_or_create_others, period, ← same]
    exact otherBounded

theorem advance_capped (world : World) (capped : Capped terms most world) (id : Nat) :
    Capped terms most (world.advance id) := by
  rw [World.advance]
  split
  · rename_i named period entry found
    have wrote := written_capped terms most world capped _ (named_mem world.reconciliations id _ found).1 entry rfl
    exact go_on_capped terms most _ wrote id _ found .written rfl (by simp)
  · rename_i named period found
    apply go_on_capped terms most world capped id _ found _ rfl
    intro total stage
    rcases stage with stage | ⟨_, stage⟩
    · cases stage
      exact capped.booked
    · cases stage
  · rename_i named period total found
    apply go_on_capped terms most world capped id _ found _ rfl
    intro other stage
    rcases stage with stage | ⟨_, stage⟩
    · cases stage
    · cases stage
      exact capped.summed _ (named_mem world.reconciliations id _ found).1 total (.inl rfl)
  · rename_i named period total spend found
    have bounded := capped.summed _ (named_mem world.reconciliations id _ found).1 total (.inr ⟨spend, rfl⟩)
    have corrected : Capped terms most
        { world with accumulator := world.accumulator.map (RewardAccumulator.correct total spend) } := by
      refine { capped with earned := ?_, paid := ?_ }
      · rw [World.earned, Option.map_map]
        cases world.accumulator with
        | none => exact le_max_right _ _
        | some held => exact bounded
      · have paid := capped.paid
        rw [World.lastPayout] at paid ⊢
        rw [Option.map_map]
        exact paid
    exact go_on_capped terms most _ corrected id _ found .finished rfl (by simp)
  · exact capped

theorem emit_payout_capped (world : World) (capped : Capped terms most world) : Capped terms most world.emitPayout := by
  rw [World.emitPayout]
  split
  · rename_i locked held
    dsimp only
    split
    · exact capped
    · have earned := capped.earned
      rw [World.earned, held] at earned
      exact { capped with earned := earned, paid := earned }
  · exact capped

theorem capped_step (cap : terms.maxRewardMicros = some most) (world : World) (capped : Capped terms most world) (event : Event)
    (one : OnePeriodAtATime world event) : Capped terms most (step world event) := by
  cases event with
  | takeUp event => exact take_up_capped terms most world capped event
  | finishHandler id now => exact finish_handler_capped terms most world capped cap id now
  | reconcile periodStart periodEnd events => exact reconcile_capped terms most world capped cap periodStart periodEnd events one
  | advance id => exact advance_capped terms most world capped id
  | expire now =>
    rw [step, World.expire]
    split
    · exact { set_status_capped terms most world capped .expired with }
    · exact capped
  | revoke =>
    rw [step, World.revoke]
    split
    · exact capped
    · exact set_status_capped terms most world capped .revoked
  | emitPayout => exact emit_payout_capped terms most world capped

end

structure Settled (world : World) : Prop where
  settled : world.payouts.sum = world.lastPayout
  worthwhile : ∀ payout ∈ world.payouts, minPayoutMicros ≤ payout

theorem settled_kept (world after : World) (settled : Settled world) (payouts : after.payouts = world.payouts)
    (last : after.lastPayout = world.lastPayout) : Settled after := by
  constructor
  · rw [payouts, last]
    exact settled.settled
  · rw [payouts]
    exact settled.worthwhile

theorem credited_pays_nothing (world : World) (terms : SnapshotTerms) (costMicros rewardMicros : Int) :
    (world.credited terms costMicros rewardMicros).payouts = world.payouts ∧
      (world.credited terms costMicros rewardMicros).lastPayout = world.lastPayout := by
  have last := accumulate_last_payout terms world.accumulator costMicros rewardMicros
  rw [World.credited]
  split
  · rename_i accumulator done
    rw [done] at last
    exact ⟨rfl, last⟩
  · rename_i accumulator granted done
    rw [done] at last
    refine ⟨?_, last⟩
    rw [World.payouts, World.payouts, List.filterMap_append]
    exact List.append_nil _

theorem handle_pays_nothing (world : World) (referral : Referral) (event : UsageRecorded) (now : Int) :
    (world.handle referral event now).payouts = world.payouts ∧
      (world.handle referral event now).lastPayout = world.lastPayout := by
  rw [World.handle]
  split
  · exact ⟨rfl, rfl⟩
  · split
    · exact ⟨rfl, rfl⟩
    · dsimp only
      split
      · exact ⟨rfl, rfl⟩
      · split
        · exact ⟨rfl, rfl⟩
        · exact credited_pays_nothing world referral.snapshot _ _

theorem advance_pays_nothing (world : World) (id : Nat) :
    (world.advance id).payouts = world.payouts ∧ (world.advance id).lastPayout = world.lastPayout := by
  rw [World.advance]
  split
  · exact ⟨rfl, rfl⟩
  · exact ⟨rfl, rfl⟩
  · exact ⟨rfl, rfl⟩
  · refine ⟨rfl, ?_⟩
    show ((world.accumulator.map _).map RewardAccumulator.lastPayoutAmountMicros).getD 0 = _
    rw [Option.map_map]
    rfl
  · exact ⟨rfl, rfl⟩

theorem emit_payout_settled (world : World) (settled : Settled world) : Settled world.emitPayout := by
  rw [World.emitPayout]
  split
  · rename_i locked held
    dsimp only
    split
    · exact settled
    · rename_i worth
      have before := settled.settled
      rw [World.lastPayout, held] at before
      have payouts : { world with
          accumulator := some { locked with lastPayoutAmountMicros := locked.totalEarnedMicros }
          announced := world.announced ++
            [Announcement.payoutDue (locked.totalEarnedMicros - locked.lastPayoutAmountMicros)] }.payouts =
          world.payouts ++ [locked.totalEarnedMicros - locked.lastPayoutAmountMicros] := by
        rw [World.payouts, List.filterMap_append]
        rfl
      constructor
      · rw [payouts, List.sum_append, List.sum_singleton, before]
        show locked.lastPayoutAmountMicros + (locked.totalEarnedMicros - locked.lastPayoutAmountMicros) = locked.totalEarnedMicros
        omega
      · rw [payouts]
        intro payout listed
        rcases List.mem_append.mp listed with old | new
        · exact settled.worthwhile payout old
        · rw [List.mem_singleton.mp new]
          omega
  · exact settled

theorem settled_step (world : World) (settled : Settled world) (event : Event) : Settled (step world event) := by
  cases event with
  | takeUp event =>
    rw [step, World.takeUp]
    split
    · exact settled_kept world _ settled rfl rfl
    · exact settled
  | finishHandler id now =>
    rw [step, World.finishHandler]
    split
    · rename_i named event referral found
      obtain ⟨payouts, last⟩ := handle_pays_nothing world referral event now
      exact settled_kept world _ settled payouts last
    · exact settled
  | reconcile periodStart periodEnd events =>
    rw [step, World.reconcile]
    split
    · exact settled_kept world _ settled rfl rfl
    · exact settled
  | advance id =>
    obtain ⟨payouts, last⟩ := advance_pays_nothing world id
    exact settled_kept world _ settled payouts last
  | expire now =>
    rw [step, World.expire]
    split
    · refine settled_kept world _ settled ?_ rfl
      rw [World.payouts, World.payouts, List.filterMap_append]
      exact List.append_nil _
    · exact settled
  | revoke =>
    rw [step, World.revoke]
    split
    · exact settled
    · exact settled_kept world _ settled rfl rfl
  | emitPayout => exact emit_payout_settled world settled

theorem nothing_past_the_cap (terms : SnapshotTerms) (rewardWindowEndsAt : Option Int) (most : Int)
    (cap : terms.maxRewardMicros = some most) (events : List Event)
    (one : Along step OnePeriodAtATime (attributed terms rewardWindowEndsAt) events) :
    let reached := run step (attributed terms rewardWindowEndsAt) events
    reached.earned ≤ max most 0 ∧ totalEarned reached.ledger ≤ max most 0 ∧ reached.payouts.sum ≤ max most 0 ∧
      reached.payouts.sum = reached.lastPayout ∧ ∀ payout ∈ reached.payouts, minPayoutMicros ≤ payout := by
  intro reached
  have capped : Capped terms most reached :=
    along_invariant step (Capped terms most) OnePeriodAtATime
      (fun world event capped one => capped_step terms most cap world capped event one) _ events
      (attributed_capped terms most rewardWindowEndsAt) one
  have settled : Settled reached :=
    run_invariant step Settled (fun _ => True) (fun world event settled _ => settled_step world settled event) _ events
      ⟨rfl, by simp [attributed, World.payouts]⟩ (by simp)
  refine ⟨capped.earned, capped.booked, ?_, settled.settled, settled.worthwhile⟩
  rw [settled.settled]
  exact capped.paid

-- Half of the spend, two dollars at the most: two handlers that both read an
-- open referral share what is left, and a reconciliation books the same.
def halfShare : SnapshotTerms := ⟨.revenueShare, ⟨500000, -6⟩, some 2000000, none⟩

def threeDollars : UsageRecorded := ⟨some 3000000, none⟩

def twoHandlersAndAReconciliation : List Event :=
  [.takeUp threeDollars, .takeUp threeDollars, .finishHandler 1 10, .finishHandler 0 11,
    .reconcile 0 31 [⟨some 3000000, .known, none, .notApplicable⟩, ⟨some 3000000, .known, none, .notApplicable⟩],
    .advance 0, .advance 0, .advance 0, .emitPayout, .advance 0, .emitPayout]

theorem two_handlers_stay_within_the_cap :
    let reached := run step (attributed halfShare none) twoHandlersAndAReconciliation
    reached.payouts.sum ≤ 2000000 ∧ reached.payouts = [2000000] ∧ totalEarned reached.ledger = 2000000 :=
  ⟨(nothing_past_the_cap halfShare none 2000000 rfl twoHandlersAndAReconciliation (by decide)).2.2.1, by decide, by decide⟩

end Ubb.Referrals
