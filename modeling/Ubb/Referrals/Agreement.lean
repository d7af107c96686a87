import Ubb.Referrals.Cap

set_option autoImplicit false

-- The running total against the month's reconciliation: both count the same
-- postings, one by one as they come and all together afterwards.
namespace Ubb.Referrals

open Ubb.Library
open Ubb.Pricing (nearestMicro)
open Ubb.TenantBilling (Decimal roundContext)

def HandlerStage.done : HandlerStage → Bool
  | .finished => true
  | .read _ => false

def World.handled (world : World) : List UsageRecorded :=
  (world.handlers.filter (fun agent => agent.stage.done)).map Agent.work

def PostingCost.event (posting : PostingCost) : UsageRecorded := ⟨posting.billedCostMicros, posting.providerCostMicros⟩

def UsageRecorded.priced (event : UsageRecorded) : Bool := decide (0 < event.costMicros.getD 0)

def rewardOf (terms : SnapshotTerms) (event : UsageRecorded) : Int :=
  (calculateReward terms (event.costMicros.getD 0) event.providerCostMicros).getD 0

-- What of an event a reward depends on: its supplier cost only for a share of
-- the profit.
def UsageRecorded.readBy (terms : SnapshotTerms) (event : UsageRecorded) : UsageRecorded :=
  if terms.rewardType = .profitShare then event else { event with providerCostMicros := none }

theorem reward_of_read (terms : SnapshotTerms) (event : UsageRecorded) : rewardOf terms (event.readBy terms) = rewardOf terms event := by
  rw [UsageRecorded.readBy, rewardOf, rewardOf]
  cases kind : terms.rewardType <;> simp [calculateReward, kind]

def filledUpTo (terms : SnapshotTerms) (start offered : Int) : Int :=
  match terms.maxRewardMicros with
  | some most => filled most start offered
  | none => start + offered

def offered (terms : SnapshotTerms) (handlers : List (Agent UsageRecorded HandlerStage)) : Int :=
  (handlers.map (fun agent => if agent.stage.done then rewardOf terms agent.work else 0)).sum

theorem filled_up_to_nothing (terms : SnapshotTerms) (start : Int) : filledUpTo terms start 0 = start := by
  rw [filledUpTo]
  cases terms.maxRewardMicros with
  | none => exact add_zero start
  | some most => exact filled_nothing most start

theorem capped_reward_fills (terms : SnapshotTerms) (ledger : List RewardLedgerEntry) (periodStart totalReward : Int) :
    otherEarned ledger periodStart + cappedReward terms ledger periodStart totalReward =
      filledUpTo terms (otherEarned ledger periodStart) totalReward := by
  rw [cappedReward, filledUpTo]
  cases terms.maxRewardMicros <;> rfl

theorem credited_fills (terms : SnapshotTerms) (world : World) (start before costMicros rewardMicros : Int)
    (stands : world.earned = filledUpTo terms start before) (nonneg : 0 ≤ before) (positive : 0 ≤ rewardMicros) :
    (world.credited terms costMicros rewardMicros).earned = filledUpTo terms start (before + rewardMicros) := by
  have total : (accumulate terms world.accumulator costMicros rewardMicros).1.totalEarnedMicros =
      filledUpTo terms start (before + rewardMicros) := by
    cases cap : terms.maxRewardMicros with
    | none =>
      rw [world_earned, filledUpTo, cap] at stands
      rw [filledUpTo, accumulate, cap]
      show _ + rewardMicros = _
      rw [stands, add_assoc]
    | some most =>
      rw [filledUpTo, cap] at stands
      rw [accumulate_fills terms most _ _ _ cap, ← world_earned, stands, filledUpTo, cap]
      exact fill_filled most start before rewardMicros nonneg positive
  rw [World.credited]
  split
  · rename_i accumulator done
    rw [done] at total
    exact total
  · rename_i accumulator granted done
    rw [done] at total
    exact total

def Shares (terms : SnapshotTerms) : Prop := terms.rewardType ≠ .flatFee

theorem shares_nonneg (terms : SnapshotTerms) (shares : Shares terms) (event : UsageRecorded) : 0 ≤ rewardOf terms event := by
  rw [rewardOf]
  cases answered : calculateReward terms (event.costMicros.getD 0) event.providerCostMicros with
  | none => exact le_rfl
  | some reward => exact (reward_signed terms _ _ reward answered).1 (fun pays => shares pays.1)

theorem offered_nonneg (terms : SnapshotTerms) (shares : Shares terms) (handlers : List (Agent UsageRecorded HandlerStage)) :
    0 ≤ offered terms handlers := by
  apply sum_nonneg_of
  intro agent _
  split
  · exact shares_nonneg terms shares agent.work
  · exact le_rfl

theorem round_nothing (exponent : Int) : roundContext ⟨0, exponent⟩ = ⟨0, exponent⟩ := by
  rw [roundContext]
  simp

theorem quantize_nothing (exponent : Int) : quantizeHalfUp ⟨0, exponent⟩ = some 0 := by
  have whole : (if 0 ≤ exponent then 0 * 10 ^ exponent.toNat else nearestMicro 0 (10 ^ (-exponent).toNat)) = 0 := by
    split
    · exact zero_mul _
    · have unit : (0 : Int) < 10 ^ (-exponent).toNat := by positivity
      rw [nearestMicro, if_neg (lt_irrefl 0)]
      exact Int.ediv_eq_zero_of_lt (by simp; omega) (by simp; omega)
  rw [quantizeHalfUp]
  dsimp only
  rw [whole, if_pos (by decide)]

theorem nothing_times (value : Decimal) : (Decimal.mk 0 0).times value = ⟨0, value.exponent⟩ := by
  rw [Decimal.times, zero_mul, zero_add, round_nothing]

theorem nothing_of_nothing (terms : SnapshotTerms) (shares : Shares terms) (rawCostMicros : Option Int)
    (nonneg : terms.rewardType = .profitShare → 0 ≤ rawCostMicros.getD 0) : calculateReward terms 0 rawCostMicros = some 0 := by
  cases kind : terms.rewardType with
  | flatFee => exact absurd kind shares
  | revenueShare =>
    simp only [calculateReward, kind]
    rw [share, nothing_times, quantize_nothing]
    rfl
  | profitShare =>
    simp only [calculateReward, kind]
    cases raw : rawCostMicros with
    | some cost =>
      have costs := nonneg kind
      rw [raw] at costs
      exact if_pos (by simpa using costs)
    | none =>
      cases percentage : terms.estimatedCostPercentage with
      | none => rfl
      | some part =>
        dsimp only
        rw [estimatedProfit, nothing_times, minus]
        simp only [zero_mul, sub_zero]
        rw [round_nothing, quantize_nothing]
        rfl

theorem totals_summed (terms : SnapshotTerms) (postings : List PostingCost) :
    ∀ start totals, postings.foldlM (PeriodTotals.take terms) start = some totals →
      totals.totalReward = start.totalReward + (postings.map (fun posting => rewardOf terms posting.event)).sum ∧
      totals.totalSpend = start.totalSpend + (postings.map (fun posting => posting.billedCostMicros.getD 0)).sum := by
  induction postings with
  | nil =>
    intro start totals answered
    cases answered
    exact ⟨(add_zero _).symm, (add_zero _).symm⟩
  | cons posting rest ih =>
    intro start totals answered
    rw [List.foldlM_cons] at answered
    obtain ⟨next, taken, later⟩ := Option.bind_eq_some_iff.mp answered
    obtain ⟨reward, rewarded, grown, spent⟩ := take_some terms start next posting taken
    obtain ⟨rewards, spend⟩ := ih next totals later
    have here : rewardOf terms posting.event = reward := by
      rw [rewardOf]
      exact congrArg (Option.getD · 0) rewarded
    constructor
    · rw [rewards, grown, List.map_cons, List.sum_cons, here, add_assoc]
    · rw [spend, spent, List.map_cons, List.sum_cons, add_assoc]

theorem priced_rewards (terms : SnapshotTerms) (shares : Shares terms) (postings : List PostingCost)
    (ordinary : ∀ posting ∈ postings, 0 ≤ posting.billedCostMicros.getD 0 ∧
      (terms.rewardType = .profitShare → 0 ≤ posting.providerCostMicros.getD 0)) :
    (postings.map (fun posting => rewardOf terms posting.event)).sum =
      (((postings.map PostingCost.event).filter UsageRecorded.priced).map (rewardOf terms)).sum := by
  rw [sum_filter_eq, List.map_map]
  apply congrArg List.sum
  apply List.map_congr_left
  intro posting inside
  obtain ⟨price, cost⟩ := ordinary posting inside
  by_cases priced : posting.event.priced = true
  · rw [Function.comp_apply, if_pos priced]
  · have free : posting.event.costMicros.getD 0 = 0 := by
      rw [UsageRecorded.priced, decide_eq_true_iff] at priced
      exact le_antisymm (not_lt.mp priced) price
    rw [Function.comp_apply, if_neg priced, rewardOf, free, nothing_of_nothing terms shares posting.event.providerCostMicros cost]
    rfl

def Event.handles (rewardWindowEndsAt : Option Int) : Event → Prop
  | .takeUp _ => True
  | .finishHandler _ now => rewardWindowEndsAt.any (fun endsAt => decide (endsAt < now)) = false
  | _ => False

structure Standing (terms : SnapshotTerms) (rewardWindowEndsAt : Option Int) (referral : Referral) : Prop where
  snapshot : referral.snapshot = terms
  window : referral.rewardWindowEndsAt = rewardWindowEndsAt

structure Handling (terms : SnapshotTerms) (rewardWindowEndsAt : Option Int) (ledger : List RewardLedgerEntry) (world : World) :
    Prop where
  stands : Standing terms rewardWindowEndsAt world.referral
  read : ∀ agent ∈ world.handlers, ∀ referral, agent.stage = .read referral → Standing terms rewardWindowEndsAt referral
  numbered : Numbered world.handlers
  booked : world.ledger = ledger

section

variable (terms : SnapshotTerms) (rewardWindowEndsAt : Option Int) (ledger : List RewardLedgerEntry)

theorem credited_handling (world : World) (handling : Handling terms rewardWindowEndsAt ledger world) (costMicros rewardMicros : Int) :
    Handling terms rewardWindowEndsAt ledger (world.credited terms costMicros rewardMicros) := by
  rw [World.credited]
  split
  · exact { handling with }
  · refine { handling with stands := ?_ }
    dsimp only
    split
    · exact ⟨handling.stands.snapshot, handling.stands.window⟩
    · exact handling.stands

theorem handle_handling (world : World) (handling : Handling terms rewardWindowEndsAt ledger world) (referral : Referral)
    (stands : Standing terms rewardWindowEndsAt referral) (event : UsageRecorded) (now : Int) :
    Handling terms rewardWindowEndsAt ledger (world.handle referral event now) := by
  rw [World.handle]
  split
  · exact { handling with stands := ⟨handling.stands.snapshot, handling.stands.window⟩ }
  · split
    · exact handling
    · dsimp only
      split
      · exact handling
      · split
        · exact handling
        · rw [stands.snapshot]
          exact credited_handling terms rewardWindowEndsAt ledger world handling _ _

theorem handling_step (world : World) (handling : Handling terms rewardWindowEndsAt ledger world) (event : Event)
    (handles : event.handles rewardWindowEndsAt) : Handling terms rewardWindowEndsAt ledger (step world event) := by
  cases event with
  | takeUp event =>
    rw [step, World.takeUp]
    split
    · refine { handling with read := ?_, numbered := joined_numbered _ _ _ handling.numbered }
      intro agent listed referral reads
      rcases mem_joined _ _ _ _ listed with old | rfl
      · exact handling.read agent old referral reads
      · cases reads
        exact handling.stands
    · exact handling
  | finishHandler id now =>
    rw [step, World.finishHandler]
    split
    · rename_i named event referral found
      have stands := handling.read _ (named_mem world.handlers id _ found).1 referral rfl
      have handled := handle_handling terms rewardWindowEndsAt ledger world handling referral stands event now
      refine { handled with read := ?_, numbered := moved_numbered _ _ _ handling.numbered }
      intro agent listed other reads
      rcases mem_moved _ handling.numbered id _ found .finished agent listed with ⟨old, _⟩ | rfl
      · exact handling.read agent old other reads
      · cases reads
    · exact handling
  | reconcile periodStart periodEnd events => exact handles.elim
  | advance id => exact handles.elim
  | expire now => exact handles.elim
  | revoke => exact handles.elim
  | emitPayout => exact handles.elim

theorem offered_joined (handlers : List (Agent UsageRecorded HandlerStage)) (event : UsageRecorded) (referral : Referral) :
    offered terms (joined handlers event (.read referral)) = offered terms handlers := by
  rw [offered, joined, List.map_append, List.sum_append]
  exact add_zero _

theorem offered_moved (handlers : List (Agent UsageRecorded HandlerStage)) (numbered : Numbered handlers) (id : Nat)
    (event : UsageRecorded) (referral : Referral) (named : Nat) (found : agentNamed handlers id = some ⟨named, event, .read referral⟩) :
    offered terms (moved handlers id .finished) = offered terms handlers + rewardOf terms event := by
  obtain ⟨inside, same⟩ := named_mem handlers id _ found
  rw [offered, moved, sum_update_row Agent.id id (Agent.to .finished) _ handlers _ (numbered_distinct handlers numbered) inside same]
  show offered terms handlers - 0 + rewardOf terms event = _
  rw [sub_zero]

theorem handle_fills (shares : Shares terms) (world : World) (start before : Int)
    (earned : world.earned = filledUpTo terms start before) (nonneg : 0 ≤ before) (referral : Referral)
    (stands : Standing terms rewardWindowEndsAt referral) (event : UsageRecorded) (now : Int)
    (inWindow : rewardWindowEndsAt.any (fun endsAt => decide (endsAt < now)) = false) :
    (world.handle referral event now).earned = filledUpTo terms start (before + rewardOf terms event) := by
  have open_window : ¬referral.windowPassed now = true := by
    rw [Referral.windowPassed, stands.window, inWindow]
    exact Bool.false_ne_true
  have shared : ¬(referral.snapshot.rewardType = .flatFee ∧ referral.flatFeePaid = true) := by
    rw [stands.snapshot]
    exact fun flat => shares flat.1
  rw [World.handle, if_neg open_window, if_neg shared, stands.snapshot, rewardOf]
  dsimp only
  have reward_nonneg := shares_nonneg terms shares event
  rw [rewardOf] at reward_nonneg
  split
  · rename_i raised
    rw [raised, Option.getD_none, add_zero]
    exact earned
  · rename_i reward answered
    rw [answered, Option.getD_some] at reward_nonneg ⊢
    split
    · rename_i none_due
      rw [le_antisymm none_due reward_nonneg, add_zero]
      exact earned
    · exact credited_fills terms world start before _ reward earned nonneg reward_nonneg

theorem shares_step (shares : Shares terms) (start : Int) (world : World)
    (handling : Handling terms rewardWindowEndsAt ledger world)
    (earned : world.earned = filledUpTo terms start (offered terms world.handlers)) (event : Event)
    (handles : event.handles rewardWindowEndsAt) :
    (step world event).earned = filledUpTo terms start (offered terms (step world event).handlers) := by
  cases event with
  | takeUp event =>
    rw [step, World.takeUp]
    split
    · show world.earned = filledUpTo terms start (offered terms (joined world.handlers event (.read world.referral)))
      rw [offered_joined]
      exact earned
    · exact earned
  | finishHandler id now =>
    rw [step, World.finishHandler]
    split
    · rename_i named event referral found
      have stands := handling.read _ (named_mem world.handlers id _ found).1 referral rfl
      show (world.handle referral event now).earned = filledUpTo terms start (offered terms (moved world.handlers id .finished))
      rw [offered_moved terms world.handlers handling.numbered id event referral named found]
      exact handle_fills terms rewardWindowEndsAt shares world start _ earned (offered_nonneg terms shares world.handlers) referral
        stands event now handles
    · exact earned
  | reconcile periodStart periodEnd events => exact handles.elim
  | advance id => exact handles.elim
  | expire now => exact handles.elim
  | revoke => exact handles.elim
  | emitPayout => exact handles.elim

end

theorem offered_handled (terms : SnapshotTerms) (world : World) :
    offered terms world.handlers = (world.handled.map (rewardOf terms)).sum := by
  rw [World.handled, List.map_map, ← Function.comp_def, sum_filter_eq]
  rfl

theorem booked_after (terms : SnapshotTerms) (ledger : List RewardLedgerEntry) (periodStart periodEnd : Int)
    (postings : List PostingCost) (entry : RewardLedgerEntry) (distinct : (ledger.map RewardLedgerEntry.periodStart).Nodup)
    (computed : periodEntry terms ledger periodStart periodEnd postings = some entry) :
    totalEarned (updateOrCreate ledger entry) = filledUpTo terms (otherEarned ledger periodStart)
      (postings.map (fun posting => rewardOf terms posting.event)).sum := by
  obtain ⟨totals, summed, _, period, reward⟩ := period_entry_some terms ledger periodStart periodEnd postings entry computed
  have sum := (totals_summed terms postings _ totals summed).1
  rw [zero_add] at sum
  rw [update_or_create_earned ledger entry distinct, period, reward, capped_reward_fills, sum]

-- Every priced posting of a period was handled, once, on what its row still
-- says when the period is reconciled.
def HandledOnce (world : World) (postings : List PostingCost) : Prop :=
  (world.handled.map (UsageRecorded.readBy world.referral.snapshot)).Perm
    (((postings.map PostingCost.event).filter UsageRecorded.priced).map (UsageRecorded.readBy world.referral.snapshot))

instance decidableHandledOnce (world : World) (postings : List PostingCost) : Decidable (HandledOnce world postings) :=
  List.decidablePerm _ _

theorem handled_once_rewards (terms : SnapshotTerms) (world : World) (stands : world.referral.snapshot = terms)
    (postings : List PostingCost) (once : HandledOnce world postings) :
    (world.handled.map (rewardOf terms)).sum =
      (((postings.map PostingCost.event).filter UsageRecorded.priced).map (rewardOf terms)).sum := by
  have sums := (once.map (rewardOf terms)).sum_eq
  rw [stands, List.map_map, List.map_map] at sums
  have same : rewardOf terms ∘ UsageRecorded.readBy terms = rewardOf terms := funext (reward_of_read terms)
  rwa [same] at sums

theorem reconciliation_corrects_nothing (world : World) (events : List Event) (periodStart periodEnd : Int)
    (postings : List PostingCost) (entry : RewardLedgerEntry) (shares : Shares world.referral.snapshot)
    (idle : world.handlers = []) (start : world.earned = otherEarned world.ledger periodStart)
    (distinct : (world.ledger.map RewardLedgerEntry.periodStart).Nodup)
    (ordinary : ∀ posting ∈ postings, 0 ≤ posting.billedCostMicros.getD 0 ∧
      (world.referral.snapshot.rewardType = .profitShare → 0 ≤ posting.providerCostMicros.getD 0))
    (handles : ∀ event ∈ events, event.handles world.referral.rewardWindowEndsAt)
    (once : HandledOnce (run step world events) postings)
    (computed : periodEntry world.referral.snapshot (run step world events).ledger periodStart periodEnd postings = some entry) :
    totalEarned (updateOrCreate (run step world events).ledger entry) = (run step world events).earned := by
  have opening : Handling world.referral.snapshot world.referral.rewardWindowEndsAt world.ledger world ∧
      world.earned = filledUpTo world.referral.snapshot world.earned (offered world.referral.snapshot world.handlers) := by
    refine ⟨⟨⟨rfl, rfl⟩, by simp [idle], by rw [idle]; rfl, rfl⟩, ?_⟩
    rw [idle]
    exact (filled_up_to_nothing _ _).symm
  obtain ⟨handling, earned⟩ := run_invariant step
    (fun now => Handling world.referral.snapshot world.referral.rewardWindowEndsAt world.ledger now ∧
      now.earned = filledUpTo world.referral.snapshot world.earned (offered world.referral.snapshot now.handlers))
    (Event.handles world.referral.rewardWindowEndsAt)
    (fun now event held handles => ⟨handling_step _ _ _ now held.1 event handles,
      shares_step _ _ _ shares _ now held.1 held.2 event handles⟩) world events opening handles
  rw [handling.booked] at computed ⊢
  rw [booked_after _ world.ledger periodStart periodEnd postings entry distinct computed, earned, start, offered_handled,
    handled_once_rewards _ _ handling.stands.snapshot postings once, priced_rewards _ shares postings ordinary]

-- Two thirds of a profit that is estimated for one posting and known for the
-- other, and a third posting whose price is not known: the handlers commit in
-- another order than they read.
def thirdsOfProfit : SnapshotTerms := ⟨.profitShare, ⟨666667, -6⟩, some 1500000, some ⟨2000, -4⟩⟩

def threePostings : List PostingCost :=
  [⟨some 2000000, .known, some 500000, .known⟩, ⟨none, .unknown, none, .unresolved⟩, ⟨some 1000000, .known, none, .unresolved⟩]

def threeHandlers : List Event :=
  [.takeUp ⟨some 2000000, some 500000⟩, .takeUp ⟨none, none⟩, .takeUp ⟨some 1000000, none⟩, .finishHandler 1 5, .finishHandler 0 7]

theorem three_postings_booked_alike :
    ∃ entry, periodEntry thirdsOfProfit (run step (attributed thirdsOfProfit none) threeHandlers).ledger 0 31 threePostings =
        some entry ∧
      totalEarned (updateOrCreate (run step (attributed thirdsOfProfit none) threeHandlers).ledger entry) =
        (run step (attributed thirdsOfProfit none) threeHandlers).earned :=
  ⟨⟨0, 31, 3000000, 500000, 2, 1, 1500000, .actualCost⟩, by decide,
    reconciliation_corrects_nothing (attributed thirdsOfProfit none) threeHandlers 0 31 threePostings _
      (show RewardType.profitShare ≠ .flatFee by decide) rfl rfl
      List.nodup_nil (by decide) (by simp [threeHandlers, Event.handles, attributed]) (by decide) (by decide)⟩

end Ubb.Referrals
