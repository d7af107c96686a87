import Ubb.Economics.Accrual

set_option autoImplicit false

-- A margin over a window against the margins over the parts of it.
namespace Ubb.Economics

open Ubb.Library
open Ubb.Months

theorem day_le_iff (first second : Day) : first ≤ second ↔ first.number ≤ second.number := by
  rw [Day.number, Day.number, Int.ofNat_le]
  constructor
  · intro ordered
    by_contra later
    have before := lt_of_ordinal second first (Nat.lt_of_not_le later)
    rw [Day.lt_def] at before
    rw [Day.le_def] at ordered
    omega
  · intro ordered
    rw [Day.le_def]
    by_contra later
    have before := ordinal_lt second first (Nat.lt_of_not_le later)
    omega

theorem day_lt_iff (first second : Day) : first < second ↔ first.number < second.number := by
  rw [Day.number, Day.number, Int.ofNat_lt]
  exact ⟨ordinal_lt first second, lt_of_ordinal first second⟩

namespace TenantSuppliedRevenue

def cutBy (record : TenantSuppliedRevenue) (basis : RevenueBasis) (cut : Day) : Bool :=
  record.isDistributed basis &&
    record.periodEnd.any (fun closes => cutInside record.periodStart.number closes.number cut.number)

theorem distributed_span (record : TenantSuppliedRevenue) (basis : RevenueBasis) (distributed : record.isDistributed basis = true) :
    ∃ closes, record.periodEnd = some closes ∧ 0 < closes.number - record.periodStart.number := by
  have spread : record.recognitionMethod = .straightLine := by
    rw [isDistributed, Bool.and_eq_true] at distributed
    cases held : record.recognitionMethod with
    | straightLine => rfl
    | onReceipt =>
      rw [held] at distributed
      cases distributed.2
  obtain ⟨closes, held⟩ := Option.isSome_iff_exists.mp (record.hasSpan spread)
  have before := (day_lt_iff _ _).mp (record.opensFirst closes held)
  exact ⟨closes, held, by omega⟩

theorem attributed_spread (record : TenantSuppliedRevenue) (basis : RevenueBasis) (distributed : record.isDistributed basis = true)
    (closes : Day) (held : record.periodEnd = some closes) (startDate endDate : Day) :
    record.attributedMicros startDate endDate basis =
      record.amountMicros * overlap record.periodStart.number closes.number startDate.number endDate.number /
        (closes.number - record.periodStart.number) := by
  have days : record.overlapDays startDate endDate =
      overlap record.periodStart.number closes.number startDate.number endDate.number := by
    rw [overlapDays, held]
  have span : record.spanDays.getD 0 = closes.number - record.periodStart.number := by
    rw [spanDays, held]
    rfl
  rw [attributedMicros, contributes, if_pos distributed, days, span, distributed]
  by_cases touched : 0 < overlap record.periodStart.number closes.number startDate.number endDate.number
  · simp [touched]
  · have none_inside := le_antisymm (not_lt.mp touched) (overlap_nonneg record.periodStart.number closes.number startDate.number
      endDate.number)
    simp [none_inside]

theorem attributed_whole (record : TenantSuppliedRevenue) (basis : RevenueBasis) (whole : record.isDistributed basis = false)
    (startDate endDate : Day) :
    record.attributedMicros startDate endDate basis =
      if startDate.number ≤ record.periodStart.number ∧ record.periodStart.number < endDate.number then record.amountMicros
      else 0 := by
  rw [attributedMicros, contributes, whole]
  simp only [Bool.false_eq_true, if_false, Bool.not_false, if_true, Bool.not_eq_true', Bool.and_eq_false_iff,
    decide_eq_false_iff_not, day_le_iff, day_lt_iff]
  split <;> split <;> first | rfl | omega

theorem attributed_split (record : TenantSuppliedRevenue) (basis : RevenueBasis) (startDate cut endDate : Day)
    (before : startDate.number ≤ cut.number) (after : cut.number ≤ endDate.number) :
    record.attributedMicros startDate cut basis + record.attributedMicros cut endDate basis ≤
        record.attributedMicros startDate endDate basis ∧
      record.attributedMicros startDate endDate basis ≤
        record.attributedMicros startDate cut basis + record.attributedMicros cut endDate basis +
          (record.cutBy basis cut).toNat := by
  cases spread : record.isDistributed basis with
  | true =>
    obtain ⟨closes, held, positive⟩ := record.distributed_span basis spread
    rw [record.attributed_spread basis spread closes held, record.attributed_spread basis spread closes held,
      record.attributed_spread basis spread closes held, cutBy, spread, held]
    exact prorated_split record.amountMicros _ _ _ _ _ _ positive before after
  | false =>
    rw [record.attributed_whole basis spread, record.attributed_whole basis spread, record.attributed_whole basis spread, cutBy,
      spread]
    simp only [Bool.false_and, Bool.toNat_false]
    split <;> split <;> split <;> omega

theorem attributed_empty (record : TenantSuppliedRevenue) (basis : RevenueBasis) (date : Day) :
    record.attributedMicros date date basis = 0 := by
  cases spread : record.isDistributed basis with
  | true =>
    obtain ⟨closes, held, _⟩ := record.distributed_span basis spread
    have nothing : overlap record.periodStart.number closes.number date.number date.number = 0 := by
      rw [overlap]
      omega
    rw [record.attributed_spread basis spread closes held, nothing, mul_zero, Int.zero_ediv]
  | false =>
    rw [record.attributed_whole basis spread, if_neg]
    omega

theorem untouched_gives_nothing (record : TenantSuppliedRevenue) (basis : RevenueBasis) (startDate endDate : Day)
    (left : (record.touches startDate endDate && record.contributes startDate endDate basis) = false) :
    record.attributedMicros startDate endDate basis = 0 := by
  rw [Bool.and_eq_false_iff] at left
  rcases left with untouched | silent
  · cases spread : record.isDistributed basis with
    | true =>
      obtain ⟨closes, held, positive⟩ := record.distributed_span basis spread
      have nothing : overlap record.periodStart.number closes.number startDate.number endDate.number = 0 := by
        rw [touches, held, Bool.and_eq_false_iff] at untouched
        simp only [Option.all_some, decide_eq_false_iff_not, day_lt_iff] at untouched
        rw [overlap]
        omega
      rw [record.attributed_spread basis spread closes held, nothing, mul_zero, Int.zero_ediv]
    | false =>
      rw [record.attributed_whole basis spread, if_neg]
      rintro ⟨opens, ends⟩
      rw [touches, Bool.and_eq_false_iff, decide_eq_false_iff_not, day_lt_iff] at untouched
      rcases untouched with late | past
      · exact late ends
      · cases held : record.periodEnd with
        | none =>
          rw [held] at past
          cases past
        | some closes =>
          have spans := (day_lt_iff _ _).mp (record.opensFirst closes held)
          rw [held, Option.all_some, decide_eq_false_iff_not, day_lt_iff] at past
          omega
  · rw [attributedMicros, silent]
    rfl

end TenantSuppliedRevenue

theorem attributed_total (records : List TenantSuppliedRevenue) (startDate endDate : Day) (basis : RevenueBasis) :
    attributedTotal records startDate endDate basis =
      (records.map (fun record => record.attributedMicros startDate endDate basis)).sum := by
  rw [attributedTotal]
  induction records with
  | nil => rfl
  | cons record rest ih =>
    rw [List.map_cons, List.sum_cons, ← ih, List.filter_cons]
    split
    · rw [List.map_cons, List.sum_cons]
    · rename_i left
      rw [record.untouched_gives_nothing basis startDate endDate (Bool.eq_false_iff.mpr left), zero_add]

theorem attributed_total_split (records : List TenantSuppliedRevenue) (basis : RevenueBasis) (startDate cut endDate : Day)
    (before : startDate.number ≤ cut.number) (after : cut.number ≤ endDate.number) :
    attributedTotal records startDate cut basis + attributedTotal records cut endDate basis ≤
        attributedTotal records startDate endDate basis ∧
      attributedTotal records startDate endDate basis ≤ attributedTotal records startDate cut basis +
        attributedTotal records cut endDate basis + records.countP (fun record => record.cutBy basis cut) := by
  rw [attributed_total, attributed_total, attributed_total]
  induction records with
  | nil => simp
  | cons record rest ih =>
    have parts := record.attributed_split basis startDate cut endDate before after
    rw [List.map_cons, List.map_cons, List.map_cons, List.sum_cons, List.sum_cons, List.sum_cons, List.countP_cons]
    cases cuts : record.cutBy basis cut <;> rw [cuts] at parts <;> simp at parts ⊢ <;> omega

def recordedOn (posting : Posting) : Int := posting.effectiveAt / dayMicros

def coveredAt (records : List TenantSuppliedRevenue) (day : Int) : Bool :=
  records.any (fun record => record.periodEnd.any (fun closes => within day (record.periodStart.number, closes.number)))

theorem within_days (posting : Posting) (opens closes : Int) :
    within posting.effectiveAt (utcDayStart opens, utcDayStart closes) = within (recordedOn posting) (opens, closes) := by
  have positive : (0 : Int) < dayMicros := by decide
  rw [Bool.eq_iff_iff, within_iff, within_iff, utcDayStart, utcDayStart, recordedOn, Int.le_ediv_iff_mul_le positive,
    Int.ediv_lt_iff_lt_mul positive]

theorem mem_covered_spans (records : List TenantSuppliedRevenue) (startDate endDate : Day) (span : Int × Int) :
    span ∈ coveredSpans records startDate endDate ↔
      ∃ record ∈ records, ∃ closes, record.periodEnd = some closes ∧ record.periodStart.number < endDate.number ∧
        startDate.number < closes.number ∧
        span = (max record.periodStart.number startDate.number, min closes.number endDate.number) := by
  rw [coveredSpans, List.mem_filterMap]
  constructor
  · rintro ⟨record, listed, made⟩
    obtain ⟨closes, held, clipped⟩ := Option.bind_eq_some_iff.mp made
    split at clipped
    · rename_i touching
      cases clipped
      exact ⟨record, listed, closes, held, (day_lt_iff _ _).mp touching.1, (day_lt_iff _ _).mp touching.2, rfl⟩
    · cases clipped
  · rintro ⟨record, listed, closes, held, opens, ends, rfl⟩
    refine ⟨record, listed, Option.bind_eq_some_iff.mpr ⟨closes, held, ?_⟩⟩
    rw [if_pos ⟨(day_lt_iff _ _).mpr opens, (day_lt_iff _ _).mpr ends⟩]

theorem covered_spans_proper (records : List TenantSuppliedRevenue) (startDate endDate : Day)
    (ordered : startDate.number ≤ endDate.number) (span : Int × Int) (listed : span ∈ coveredSpans records startDate endDate) :
    span.1 ≤ span.2 ∧ span.1 ≤ endDate.number := by
  obtain ⟨record, _, closes, held, opens, ends, rfl⟩ := (mem_covered_spans records startDate endDate span).mp listed
  have spans := (day_lt_iff _ _).mp (record.opensFirst closes held)
  dsimp only
  omega

theorem uncovered_days (records : List TenantSuppliedRevenue) (startDate endDate : Day) (spans : List (Int × Int))
    (perm : spans.Perm (coveredSpans records startDate endDate)) (day : Int) :
    uncovered startDate.number endDate.number spans day =
      (within day (startDate.number, endDate.number) && !coveredAt records day) := by
  rw [uncovered]
  cases inside : within day (startDate.number, endDate.number) with
  | false => rfl
  | true =>
    rw [within_iff] at inside
    rw [Bool.true_and, Bool.true_and, Bool.eq_iff_iff, List.all_eq_true, Bool.not_eq_true', coveredAt, List.any_eq_false]
    constructor
    · intro free record listed covered
      obtain ⟨closes, held, here⟩ := (Option.any_eq_true _ _).mp covered
      rw [within_iff] at here
      have span := free (max record.periodStart.number startDate.number, min closes.number endDate.number)
        (perm.mem_iff.mpr ((mem_covered_spans records startDate endDate _).mpr
          ⟨record, listed, closes, held, by omega, by omega, rfl⟩))
      rw [Bool.not_eq_true', Bool.eq_false_iff, Ne, within_iff] at span
      apply span
      dsimp only at inside here ⊢
      omega
    · intro free span listed
      obtain ⟨record, held_record, closes, held, opens, ends, rfl⟩ :=
        (mem_covered_spans records startDate endDate span).mp (perm.mem_iff.mp listed)
      have outside := free record held_record
      rw [held, Option.any_some, within_iff] at outside
      rw [Bool.not_eq_true', Bool.eq_false_iff, Ne, within_iff]
      dsimp only at inside outside ⊢
      omega

def uncoveredUsage (records : List TenantSuppliedRevenue) (postings : List Posting) (startDate endDate : Day) : Int :=
  ((postings.filter (fun posting => within (recordedOn posting) (startDate.number, endDate.number) &&
    !coveredAt records (recordedOn posting))).map (fun posting => posting.billedCostMicros.getD 0)).sum

theorem billed_window_sum (postings : List Posting) (opens closes : Int) :
    (customerCostTotals postings opens closes).billedCostMicros =
      windowSum recordedOn (fun posting => posting.billedCostMicros.getD 0) postings (opens, closes) := by
  rw [customerCostTotals, windowSum]
  dsimp only
  simp only [within_days]

theorem usage_outside_cover (records : List TenantSuppliedRevenue) (postings : List Posting) (startDate endDate : Day)
    (ordered : startDate ≤ endDate) :
    usageRevenueOutsideCover records postings startDate endDate
        (customerCostTotals postings startDate.number endDate.number).billedCostMicros =
      uncoveredUsage records postings startDate endDate := by
  have numbers := (day_le_iff _ _).mp ordered
  have perm := oldest_first_perm (fun span : Int × Int => toLex span) (coveredSpans records startDate endDate)
  have sorted := oldest_first_sorted (fun span : Int × Int => toLex span) (coveredSpans records startDate endDate)
  have days := fun day => uncovered_days records startDate endDate _ perm day
  rw [usageRevenueOutsideCover]
  generalize oldestFirst (fun span : Int × Int => toLex span) (coveredSpans records startDate endDate) = spans at perm sorted days
  have swept := gaps_sum recordedOn (fun posting => posting.billedCostMicros.getD 0) postings startDate.number endDate.number spans
    (sorted.imp (fun {first second} before => by
      rcases Prod.Lex.toLex_le_toLex.mp before with less | ⟨same, _⟩
      · exact less.le
      · exact same.le))
    (fun span listed => covered_spans_proper records startDate endDate numbers span (perm.mem_iff.mp listed))
  simp only [days] at swept
  rw [uncoveredUsage, ← swept]
  split
  · rename_i none_covered
    rw [none_covered, gapsFrom]
    split
    · rw [List.map_singleton, List.sum_singleton]
      exact billed_window_sum postings startDate.number endDate.number
    · rename_i empty
      rw [billed_window_sum, windowSum, List.map_nil, List.sum_nil, List.filter_eq_nil_iff.mpr]
      · rfl
      · intro posting _ inside
        rw [within_iff] at inside
        exact empty (inside.1.trans_lt inside.2)
  · congr 1
    exact List.map_congr_left (fun gap _ => billed_window_sum postings gap.1 gap.2)

theorem uncovered_window_sum (records : List TenantSuppliedRevenue) (postings : List Posting) (startDate endDate : Day) :
    uncoveredUsage records postings startDate endDate =
      windowSum recordedOn (fun posting => posting.billedCostMicros.getD 0)
        (postings.filter (fun posting => !coveredAt records (recordedOn posting))) (startDate.number, endDate.number) := by
  rw [uncoveredUsage, windowSum, List.filter_filter]

theorem cost_totals_summed (postings : List Posting) (opens closes : Int) :
    customerCostTotals postings opens closes = {
      providerCostMicros := windowSum recordedOn (fun posting => posting.providerCostMicros.getD 0) postings (opens, closes)
      unresolvedEventCount := windowSum recordedOn
        (fun posting => ((decide (posting.costingStatus = .unresolved)).toNat : Int)) postings (opens, closes)
      billedCostMicros := windowSum recordedOn (fun posting => posting.billedCostMicros.getD 0) postings (opens, closes)
      unpricedEventCount := windowSum recordedOn
        (fun posting => ((decide (posting.pricingStatus = .unknown)).toNat : Int)) postings (opens, closes)
      postingCount := windowSum recordedOn (fun _ => ((true).toNat : Int)) postings (opens, closes) } := by
  rw [customerCostTotals]
  simp only [within_days, windowSum, sum_counted, List.countP_true]

def marginOf (books : Books) (startDate endDate : Day) : Margin :=
  let costs := customerCostTotals books.postings startDate.number endDate.number
  let suppliedRevenue := attributedTotal books.supplied startDate endDate .recognised
  let usageRevenue := uncoveredUsage books.supplied books.postings startDate endDate
  let totalRevenue := accruedTotal books.subscriptions startDate endDate + suppliedRevenue + usageRevenue
  { foreignCurrencySubscriptionCount := (foreignCurrency books.subscriptions).length
    subscriptionRevenueMicros := accruedTotal books.subscriptions startDate endDate
    suppliedRevenueMicros := suppliedRevenue
    usageBilledMicros := costs.billedCostMicros
    usageRevenueMicros := usageRevenue
    providerCostMicros := costs.providerCostMicros
    unresolvedEventCount := costs.unresolvedEventCount
    unpricedEventCount := costs.unpricedEventCount
    totalRevenueMicros := totalRevenue
    grossMarginMicros := totalRevenue - costs.providerCostMicros
    postingCount := costs.postingCount }

theorem compute_live_answers (books : Books) (startDate endDate : Day) (ordered : startDate ≤ endDate)
    (reaches : accruing books.subscriptions = [] ∨ Reaches endDate) :
    computeLive books startDate endDate = .ok (marginOf books startDate endDate) := by
  rw [computeLive, revenue_answers books.subscriptions startDate endDate reaches,
    usage_outside_cover books.supplied books.postings startDate endDate ordered]
  rfl

theorem compute_live_reaches (books : Books) (startDate endDate : Day) (margin : Margin)
    (answered : computeLive books startDate endDate = .ok margin) : accruing books.subscriptions = [] ∨ Reaches endDate := by
  rw [computeLive] at answered
  obtain ⟨revenue, accrues, _⟩ := (bind_eq_ok _ _ _).mp answered
  exact (revenue_accrues books.subscriptions startDate endDate revenue accrues).2

-- What a cut can lose: a micro for each subscription whose month it is in, and
-- one for each spread figure whose span it is in.
def lostAt (books : Books) (cut : Day) : Int :=
  (accruing books.subscriptions).length * (insideAMonth cut).toNat +
    books.supplied.countP (fun record => record.cutBy .recognised cut)

theorem margin_split (books : Books) (startDate cut endDate : Day) (before : startDate.number ≤ cut.number)
    (after : cut.number ≤ endDate.number) :
    (marginOf books startDate cut).grossMarginMicros + (marginOf books cut endDate).grossMarginMicros ≤
        (marginOf books startDate endDate).grossMarginMicros ∧
      (marginOf books startDate endDate).grossMarginMicros ≤
        (marginOf books startDate cut).grossMarginMicros + (marginOf books cut endDate).grossMarginMicros + lostAt books cut := by
  have subscriptions := accrued_total_split books.subscriptions startDate cut endDate before after
  have supplied := attributed_total_split books.supplied .recognised startDate cut endDate before after
  have usage := window_sum_split recordedOn (fun posting => posting.billedCostMicros.getD 0)
    (books.postings.filter (fun posting => !coveredAt books.supplied (recordedOn posting))) _ _ _ before after
  have costs := window_sum_split recordedOn (fun posting => posting.providerCostMicros.getD 0) books.postings _ _ _ before after
  simp only [marginOf, cost_totals_summed, uncovered_window_sum, lostAt]
  omega

theorem margin_empty (books : Books) (date : Day) : (marginOf books date date).grossMarginMicros = 0 := by
  have nothing : attributedTotal books.supplied date date .recognised = 0 ∧ accruedTotal books.subscriptions date date = 0 := by
    rw [attributed_total, accruedTotal]
    simp only [TenantSuppliedRevenue.attributed_empty, accrued_empty, List.map_const', List.sum_replicate, smul_zero, and_self]
  simp only [marginOf, cost_totals_summed, uncovered_window_sum, window_sum_empty, nothing]
  rfl

theorem windows_in_order (cuts : List Day) : ∀ start, InOrder Day.number start cuts → ∀ window ∈ windowsFrom start cuts,
    window.1 ≤ window.2 ∧ window.2.number ≤ (lastCut start cuts).number := by
  induction cuts with
  | nil =>
    intro start _ window listed
    cases listed
  | cons cut rest ih =>
    intro start ordered window listed
    rw [InOrder, List.isChain_cons_cons] at ordered
    have last : lastCut start (cut :: rest) = lastCut cut rest := List.getLastD_cons ..
    rw [last]
    rcases List.mem_cons.mp listed with rfl | later
    · exact ⟨(day_le_iff _ _).mpr ordered.1, last_cut_ge Day.number rest cut ordered.2⟩
    · exact ih cut ordered.2 window later

theorem margins_add_up (books : Books) (start : Day) (cuts : List Day) (ordered : InOrder Day.number start cuts) (margin : Margin)
    (whole : computeLive books start (lastCut start cuts) = .ok margin) :
    ∃ parts, (windowsFrom start cuts).mapM (fun window => computeLive books window.1 window.2) = .ok parts ∧
      (parts.map Margin.usageRevenueMicros).sum = margin.usageRevenueMicros ∧
      (parts.map Margin.providerCostMicros).sum = margin.providerCostMicros ∧
      (parts.map Margin.unresolvedEventCount).sum = margin.unresolvedEventCount ∧
      (parts.map Margin.unpricedEventCount).sum = margin.unpricedEventCount ∧
      (parts.map Margin.postingCount).sum = margin.postingCount ∧
      (parts.map Margin.grossMarginMicros).sum ≤ margin.grossMarginMicros ∧
      margin.grossMarginMicros ≤ (parts.map Margin.grossMarginMicros).sum + (cuts.dropLast.map (lostAt books)).sum := by
  have reaches := compute_live_reaches books start _ margin whole
  have spans := (day_le_iff _ _).mpr (last_cut_ge Day.number cuts start ordered)
  rw [compute_live_answers books start _ spans reaches] at whole
  cases whole
  have each : ∀ window ∈ windowsFrom start cuts, ∃ part, computeLive books window.1 window.2 = .ok part ∧
      id part = marginOf books window.1 window.2 := by
    intro window listed
    obtain ⟨proper, within_whole⟩ := windows_in_order cuts start ordered window listed
    exact ⟨_, compute_live_answers books window.1 window.2 proper (reaches.imp id (reaches_earlier _ _ within_whole)), rfl⟩
  obtain ⟨parts, answered, same⟩ := map_m_view (fun window : Day × Day => computeLive books window.1 window.2) id
    (fun window => marginOf books window.1 window.2) (windowsFrom start cuts) each
  rw [List.map_id] at same
  subst same
  have exact_sum : ∀ (measure : Posting → Int) (postings : List Posting),
      ((windowsFrom start cuts).map (fun window =>
        windowSum recordedOn measure postings (window.1.number, window.2.number))).sum =
        windowSum recordedOn measure postings (start.number, (lastCut start cuts).number) := fun measure postings =>
    windows_sum Day.number (fun first last => windowSum recordedOn measure postings (first.number, last.number))
      (fun date => window_sum_empty recordedOn measure postings date.number)
      (fun _ _ _ before after => window_sum_split recordedOn measure postings _ _ _ before after) cuts start ordered
  have gross := windows_add_up Day.number (fun first last => (marginOf books first last).grossMarginMicros) (lostAt books)
    (margin_empty books) (fun _ _ _ before after => margin_split books _ _ _ before after) cuts start ordered
  refine ⟨_, answered, ?_, ?_, ?_, ?_, ?_, ?_⟩
  · rw [List.map_map]
    simp only [Function.comp_def, marginOf, uncovered_window_sum]
    exact exact_sum _ _
  · rw [List.map_map]
    simp only [Function.comp_def, marginOf, cost_totals_summed]
    exact exact_sum _ _
  · rw [List.map_map]
    simp only [Function.comp_def, marginOf, cost_totals_summed]
    exact exact_sum _ _
  · rw [List.map_map]
    simp only [Function.comp_def, marginOf, cost_totals_summed]
    exact exact_sum _ _
  · rw [List.map_map]
    simp only [Function.comp_def, marginOf, cost_totals_summed]
    exact exact_sum _ _
  · rw [List.map_map]
    exact gross

theorem january_opens_valid : Ubb.Calendar.ValidDate 2026 1 1 := by decide

theorem mid_january_valid : Ubb.Calendar.ValidDate 2026 1 14 := by decide

theorem february_opens_valid : Ubb.Calendar.ValidDate 2026 2 1 := by decide

theorem march_opens_valid : Ubb.Calendar.ValidDate 2026 3 1 := by decide

def januaryOpens : Day := ⟨2026, 1, 1, january_opens_valid⟩

def midJanuary : Day := ⟨2026, 1, 14, mid_january_valid⟩

def februaryOpens : Day := ⟨2026, 2, 1, february_opens_valid⟩

def marchOpens : Day := ⟨2026, 3, 1, march_opens_valid⟩

theorem month_opens_first (closes : Day) (held : some februaryOpens = some closes) : januaryOpens < closes := by
  cases held
  decide

-- A hundred micros a month and a hundred supplied for January, cut at the
-- fourteenth: either loses one. The posting of the tenth is inside the month
-- that the supplied figure covers, and the one of February is not.
def januaryBooks : Books where
  subscriptions := [⟨1, .active, some 100, "usd", "month", rfl⟩]
  supplied := [⟨1, 100, januaryOpens, some februaryOpens, .straightLine, "INV-1", month_opens_first, fun _ => rfl⟩]
  postings := [⟨1, utcDayStart (midJanuary.number - 4), some 70, .known, some 30, .known⟩,
    ⟨1, utcDayStart (februaryOpens.number + 4), some 50, .known, some 20, .known⟩]

theorem february_is_outside_the_cover :
    usageRevenueOutsideCover januaryBooks.supplied januaryBooks.postings januaryOpens marchOpens
      (customerCostTotals januaryBooks.postings januaryOpens.number marchOpens.number).billedCostMicros = 50 := by
  rw [usage_outside_cover januaryBooks.supplied januaryBooks.postings januaryOpens marchOpens (by decide)]
  decide +kernel

theorem january_in_two_parts : ∃ parts,
    (windowsFrom januaryOpens [midJanuary, februaryOpens]).mapM (fun window => computeLive januaryBooks window.1 window.2) = .ok parts ∧
      (parts.map Margin.grossMarginMicros).sum = 168 ∧
      170 ≤ (parts.map Margin.grossMarginMicros).sum + ([midJanuary].map (lostAt januaryBooks)).sum := by
  have whole : computeLive januaryBooks januaryOpens februaryOpens = .ok ⟨0, 100, 100, 70, 0, 30, 0, 0, 200, 170, 1⟩ := by decide +kernel
  have ordered : InOrder Day.number januaryOpens [midJanuary, februaryOpens] := by
    refine .cons_cons (by decide) (.cons_cons (by decide) (.singleton _))
  obtain ⟨parts, answered, _, _, _, _, _, _, high⟩ := margins_add_up januaryBooks januaryOpens [midJanuary, februaryOpens] ordered _ whole
  refine ⟨parts, answered, ?_, high⟩
  have read : (windowsFrom januaryOpens [midJanuary, februaryOpens]).mapM
      (fun window => computeLive januaryBooks window.1 window.2) =
      .ok [⟨0, 41, 41, 70, 0, 30, 0, 0, 82, 52, 1⟩, ⟨0, 58, 58, 0, 0, 0, 0, 0, 116, 116, 0⟩] := by decide +kernel
  rw [answered] at read
  cases read
  rfl

end Ubb.Economics
