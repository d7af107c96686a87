import Ubb.Referrals.Model

set_option autoImplicit false

-- What a posting and a period are rewarded with.
namespace Ubb.Referrals

open Ubb.Library

theorem share_nonneg (terms : SnapshotTerms) (amountMicros reward : Int) (answered : share terms amountMicros = some reward) :
    0 ≤ reward := by
  obtain ⟨_, _, rfl⟩ := Option.map_eq_some_iff.mp answered
  exact le_max_left 0 _

theorem profit_reward_nonneg (terms : SnapshotTerms) (profit reward : Int) (answered : profitReward terms profit = some reward) :
    0 ≤ reward := by
  rw [profitReward] at answered
  split at answered
  · cases answered
    exact le_rfl
  · exact share_nonneg terms profit reward answered

-- Only a fee that is negative itself makes a reward negative, and then every
-- reward is that fee.
def paysBack (terms : SnapshotTerms) : Prop := terms.rewardType = .flatFee ∧ terms.rewardValue.toInt < 0

def Signed (terms : SnapshotTerms) (amount : Int) : Prop := (¬paysBack terms → 0 ≤ amount) ∧ (paysBack terms → amount ≤ 0)

theorem reward_signed (terms : SnapshotTerms) (costMicros : Int) (rawCostMicros : Option Int) (reward : Int)
    (answered : calculateReward terms costMicros rawCostMicros = some reward) : Signed terms reward := by
  cases kind : terms.rewardType with
  | flatFee =>
    simp only [calculateReward, kind, Option.some.injEq] at answered
    subst answered
    exact ⟨fun keeps => not_lt.mp (fun below => keeps ⟨kind, below⟩), fun pays => pays.2.le⟩
  | revenueShare =>
    simp only [calculateReward, kind] at answered
    exact ⟨fun _ => share_nonneg terms costMicros reward answered, fun pays => absurd (kind.symm.trans pays.1) (by simp)⟩
  | profitShare =>
    simp only [calculateReward, kind] at answered
    refine ⟨fun _ => ?_, fun pays => absurd (kind.symm.trans pays.1) (by simp)⟩
    cases raw : rawCostMicros with
    | some cost =>
      rw [raw] at answered
      exact profit_reward_nonneg terms _ reward answered
    | none =>
      cases percentage : terms.estimatedCostPercentage with
      | none =>
        rw [raw, percentage] at answered
        cases answered
        exact le_rfl
      | some part =>
        rw [raw, percentage] at answered
        obtain ⟨profit, _, rewarded⟩ := Option.bind_eq_some_iff.mp answered
        exact profit_reward_nonneg terms profit reward rewarded

theorem take_some (terms : SnapshotTerms) (totals next : PeriodTotals) (event : PostingCost)
    (taken : totals.take terms event = some next) :
    ∃ reward, calculateReward terms (event.billedCostMicros.getD 0) event.providerCostMicros = some reward ∧
      next.totalReward = totals.totalReward + reward ∧
      next.totalSpend = totals.totalSpend + event.billedCostMicros.getD 0 := by
  obtain ⟨reward, rewarded, same⟩ := Option.bind_eq_some_iff.mp taken
  cases same
  exact ⟨reward, rewarded, rfl, rfl⟩

theorem totals_signed (terms : SnapshotTerms) (events : List PostingCost) :
    ∀ start totals, Signed terms start.totalReward → events.foldlM (PeriodTotals.take terms) start = some totals →
      Signed terms totals.totalReward := by
  induction events with
  | nil =>
    intro start totals signed answered
    cases answered
    exact signed
  | cons event rest ih =>
    intro start totals signed answered
    rw [List.foldlM_cons] at answered
    obtain ⟨next, taken, later⟩ := Option.bind_eq_some_iff.mp answered
    obtain ⟨reward, rewarded, grown, _⟩ := take_some terms start next event taken
    refine ih next totals ?_ later
    rw [grown]
    exact ⟨fun keeps => add_nonneg (signed.1 keeps) ((reward_signed terms _ _ reward rewarded).1 keeps),
      fun pays => add_nonpos (signed.2 pays) ((reward_signed terms _ _ reward rewarded).2 pays)⟩

theorem period_entry_some (terms : SnapshotTerms) (ledger : List RewardLedgerEntry) (periodStart periodEnd : Int)
    (events : List PostingCost) (entry : RewardLedgerEntry)
    (computed : periodEntry terms ledger periodStart periodEnd events = some entry) :
    ∃ totals, periodTotals terms events = some totals ∧ totals.totalSpend ≠ 0 ∧ entry.periodStart = periodStart ∧
      entry.rewardMicros = cappedReward terms ledger periodStart totals.totalReward := by
  obtain ⟨totals, summed, rest⟩ := Option.bind_eq_some_iff.mp computed
  refine ⟨totals, summed, ?_⟩
  split at rest
  · cases rest
  · rename_i spent
    cases rest
    exact ⟨spent, rfl, rfl⟩

theorem capped_reward_signed (terms : SnapshotTerms) (ledger : List RewardLedgerEntry) (periodStart totalReward : Int)
    (signed : Signed terms totalReward) : Signed terms (cappedReward terms ledger periodStart totalReward) := by
  rw [cappedReward]
  cases terms.maxRewardMicros with
  | none => exact signed
  | some most =>
    exact ⟨fun keeps => le_min (signed.1 keeps) (le_max_left _ _), fun pays => (min_le_left _ _).trans (signed.2 pays)⟩

end Ubb.Referrals
