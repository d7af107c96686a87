import Ubb.Resolving.TwoRuns

set_option autoImplicit false

-- The sections a run does not move, and a projection in closed form.
namespace Ubb.Resolving

open Library Pricing
open Work (CostingStatus PricingStatus PricingMode)

def costHeld (posting : Posting) :
    CostingStatus × Option Int × Option UnresolvedReason × CostingSection × Option Int :=
  (posting.costingStatus, posting.providerCostMicros, posting.unresolvedReason, posting.pricingReceipt.costing,
    posting.pricingReceipt.providerCostMicros)

def priceHeld (posting : Posting) :
    PricingStatus × Option Int × Option NotApplicableReason × Option PricingStatusReason × PricingSection ×
      Option Int :=
  (posting.pricingStatus, posting.billedCostMicros, posting.notApplicableReason, posting.pricingStatusReason,
    posting.pricingReceipt.pricing, posting.pricingReceipt.billedCostMicros)

theorem completed_cost_held (posting : Posting) (evaluation : Evaluation) (author : Author)
    (unsettled : settles evaluation = false) : costHeld (completed posting evaluation author) = costHeld posting := by
  unfold completed
  cases prices evaluation with
  | false => simp [unsettled]
  | true => simp [unsettled, costHeld, priceCompleted, withPrice]

theorem completed_price_held (posting : Posting) (evaluation : Evaluation) (author : Author)
    (unpriced : prices evaluation = false) :
    priceHeld (completed posting evaluation author) = priceHeld posting := by
  unfold completed
  cases settles evaluation with
  | false => simp [unpriced]
  | true => simp [unpriced, priceHeld, costCompleted, withCost]

theorem completed_idle (posting : Posting) (evaluation : Evaluation) (author : Author)
    (idle : (settles evaluation || prices evaluation) = false) : completed posting evaluation author = posting := by
  simp only [Bool.or_eq_false_iff] at idle
  unfold completed
  simp [idle.1, idle.2]

theorem settles_unresolved (posting : Posting) (evaluation : Evaluation) (known : Evaluated posting evaluation)
    (settled : settles evaluation = true) : posting.costingStatus = .unresolved := by
  simp only [settles, Bool.and_eq_true, decide_eq_true_eq, known.costing, costingCompletable] at settled
  exact settled.1

theorem prices_unknown (posting : Posting) (evaluation : Evaluation) (known : Evaluated posting evaluation)
    (priced : prices evaluation = true) : posting.pricingStatus = .unknown := by
  simp only [prices, Bool.and_eq_true, decide_eq_true_eq, known.pricing, pricingCompletable] at priced
  exact priced.1

structure Untouched (posting row : Posting) : Prop where
  cost : posting.costingStatus ≠ .unresolved → costHeld row = costHeld posting
  price : posting.pricingStatus ≠ .unknown → priceHeld row = priceHeld posting

theorem cost_status_of_held {posting row : Posting} (same : costHeld row = costHeld posting) :
    row.costingStatus = posting.costingStatus := congrArg Prod.fst same

theorem price_status_of_held {posting row : Posting} (same : priceHeld row = priceHeld posting) :
    row.pricingStatus = posting.pricingStatus := congrArg Prod.fst same

theorem untouched_completed (posting row : Posting) (untouched : Untouched posting row) (evaluation : Evaluation)
    (known : Evaluated row evaluation) (author : Author) :
    Untouched posting (completed row evaluation author) := by
  refine ⟨?_, ?_⟩
  · intro settled
    have held := untouched.cost settled
    have unsettled : settles evaluation = false := by
      by_contra writes
      apply settled
      rw [← cost_status_of_held held]
      exact settles_unresolved row evaluation known (by simpa using writes)
    rw [completed_cost_held row evaluation author unsettled, held]
  · intro settled
    have held := untouched.price settled
    have unpriced : prices evaluation = false := by
      by_contra writes
      apply settled
      rw [← price_status_of_held held]
      exact prices_unknown row evaluation known (by simpa using writes)
    rw [completed_price_held row evaluation author unpriced, held]

theorem moves_untouched {Writer : Author → Prop} (before after : State) (tabled : Tabled before)
    (moves : Moves Writer before after) (posting : Posting) (mem : posting ∈ before.postings) :
    ∃ row ∈ after.postings, row.id = posting.id ∧ Untouched posting row := by
  obtain ⟨⟨write, rows, later⟩, _, _, _⟩ := moves
  have held := later_invariant (Untouched posting) ?_ posting (write posting) (tabled.kept posting mem)
    ⟨fun _ => rfl, fun _ => rfl⟩ (later posting mem)
  · exact ⟨write posting, by rw [rows]; exact List.mem_map_of_mem mem, held.2⟩
  · rintro row next kept untouched ⟨config, heldNames, author, completion, _, answered⟩
    rcases complete_posting_ok _ _ _ _ _ _ kept answered with ⟨_, rfl, _⟩ | ⟨evaluation, asked, rfl, _⟩
    · exact untouched
    · exact untouched_completed posting row untouched evaluation (evaluated _ _ _ _ asked).1 author

def NoneAnswerable (state : State) (tenant : Nat) (selector : RunSelector) : Prop :=
  ∀ held ∈ undecidedNames state tenant (eventTypeKeyOf selector), theDeclarationFor state.config held = none

theorem answers_idle (names : List HeldName) (state : State)
    (unanswerable : ∀ held ∈ names, theDeclarationFor state.config held = none) :
    names.foldl answerOne state = state := by
  induction names with
  | nil => rfl
  | cons held rest ih =>
    have idle : answerOne state held = state := by
      unfold answerOne
      rw [unanswerable held List.mem_cons_self]
    rw [List.foldl_cons, idle]
    exact ih (fun other mem => unanswerable other (List.mem_cons_of_mem _ mem))

theorem selects_at_once (state : State) (tenant : Nat) (selector : RunSelector)
    (unanswerable : NoneAnswerable state tenant selector) :
    whenItSelects state tenant selector = { state with nextId := state.nextId + 1 } :=
  answers_idle _ { state with nextId := state.nextId + 1 } unanswerable

theorem taken_at_once (state : State) (tenant : Nat) (selector : RunSelector)
    (unanswerable : NoneAnswerable state tenant selector) :
    taken state tenant selector = (candidates state.postings tenant selector).take maximumPostingsPerRun := by
  unfold taken selected
  rw [selects_at_once state tenant selector unanswerable]

def projectedPrice (state : State) (posting : Posting) : Option (Nat × Int) :=
  match whatThePriceWouldBecome state.config state.heldNames posting with
  | .ok (some amount, _) => some (posting.id, amount)
  | _ => none

theorem price_would_become_ok (state : State) (posting : Posting) :
    (∃ became, whatThePriceWouldBecome state.config state.heldNames posting = .ok became) ↔
      ∃ outcome, evaluationIn state posting = .ok outcome := by
  unfold whatThePriceWouldBecome evaluationIn
  constructor
  · rintro ⟨became, answered⟩
    obtain ⟨outcome, asked, _⟩ := (bind_eq_ok _ _ _).mp answered
    exact ⟨outcome, asked⟩
  · rintro ⟨outcome, asked⟩
    rw [asked, ok_bind]
    cases outcome with
    | none => exact ⟨_, rfl⟩
    | some evaluation =>
      dsimp only
      split
      · exact ⟨_, rfl⟩
      · split
        · exact ⟨_, rfl⟩
        · exact ⟨_, rfl⟩

theorem projected_price_none (state : State) (posting : Posting) (asked : evaluationIn state posting = .ok none) :
    projectedPrice state posting = none := by
  unfold evaluationIn at asked
  unfold projectedPrice whatThePriceWouldBecome
  rw [asked]
  rfl

theorem projected_price_some (state : State) (posting : Posting) (evaluation : Evaluation)
    (asked : evaluationIn state posting = .ok (some evaluation)) :
    projectedPrice state posting =
      if prices evaluation = true then evaluation.resolved.billedCostMicros.map (fun amount => (posting.id, amount))
      else none := by
  unfold evaluationIn at asked
  unfold projectedPrice whatThePriceWouldBecome
  rw [asked, ok_bind]
  unfold prices
  cases completable : evaluation.pricing with
  | false => simp [completable]
  | true =>
    by_cases known : evaluation.resolved.pricing.status = .known
    · cases amount : evaluation.resolved.billedCostMicros with
      | none => simp [completable, known, amount]
      | some billed =>
        simp only [completable, known, amount]
        rfl
    · simp [completable, known]

theorem project_each_weighs {Weight : Type} [AddCommMonoid Weight] [IsCancelAdd Weight]
    (weigh : PerCustomer → Weight) (gain : Nat × Int → Weight) (nothing : weigh noProjection = 0) (state : State)
    (grows : ∀ row posting became, weigh (row.adding posting became) =
      weigh row + ((became.1.map (fun amount => gain (posting.id, amount))).getD 0))
    (postings : List Posting) (rows final : ProjectionRows) (distinct : (keysOf rows).Nodup)
    (answered : projectEach state.config state.heldNames postings rows = .ok final) :
    (final.map (fun entry => weigh entry.2)).sum =
      (rows.map (fun entry => weigh entry.2)).sum + ((postings.filterMap (projectedPrice state)).map gain).sum := by
  induction postings generalizing rows with
  | nil =>
    cases answered
    simp
  | cons posting rest ih =>
    unfold projectEach at answered
    obtain ⟨became, asked, more⟩ := (bind_eq_ok _ _ _).mp answered
    dsimp only at more
    have later := ih _ (assign_distinct _ _ _ distinct) more
    have stored := sum_assign weigh rows distinct (posting.customer, posting.currency)
      (((rows.lookup (posting.customer, posting.currency)).getD noProjection).adding posting became) noProjection nothing
    rw [grows, add_left_comm, add_comm] at stored
    have moved := add_left_cancel stored
    rw [later, moved, add_assoc]
    congr 1
    have listed : projectedPrice state posting = became.1.map (fun amount => (posting.id, amount)) := by
      unfold projectedPrice
      rw [asked]
      obtain ⟨amount, status⟩ := became
      cases amount with
      | none => rfl
      | some amount => rfl
    rw [List.filterMap_cons, listed]
    cases became.1 with
    | none => simp
    | some amount => simp

theorem project_each_ok (state : State) (postings : List Posting) (rows : ProjectionRows) :
    (∃ final, projectEach state.config state.heldNames postings rows = .ok final) ↔
      ∀ posting ∈ postings, ∃ outcome, evaluationIn state posting = .ok outcome := by
  induction postings generalizing rows with
  | nil => exact ⟨by simp, fun _ => ⟨rows, rfl⟩⟩
  | cons posting rest ih =>
    rw [List.forall_mem_cons, ← price_would_become_ok]
    unfold projectEach
    constructor
    · rintro ⟨final, answered⟩
      obtain ⟨became, asked, more⟩ := (bind_eq_ok _ _ _).mp answered
      exact ⟨⟨became, asked⟩, (ih _).mp ⟨final, more⟩⟩
    · rintro ⟨⟨became, asked⟩, others⟩
      obtain ⟨final, more⟩ := (ih _).mpr others
      exact ⟨final, (bind_eq_ok _ _ _).mpr ⟨became, asked, more⟩⟩

def Projection.listed (projection : Projection) : List Nat := projection.rows.flatMap ProjectedRow.usageEventIds

def Projection.total (projection : Projection) : Int :=
  (projection.rows.map ProjectedRow.projectedBilledCostMicros).sum

theorem sum_of_ids (rows : ProjectionRows) :
    (rows.map (fun entry => (↑entry.2.usageEventIds : Multiset Nat))).sum =
      ↑((rows.map projectedRow).flatMap ProjectedRow.usageEventIds) := by
  induction rows with
  | nil => rfl
  | cons entry rest ih =>
    rw [List.map_cons, List.sum_cons, ih, List.map_cons, List.flatMap_cons, Multiset.coe_add]
    rfl

theorem project_lists (state : State) (tenant : Nat) (selector : RunSelector) (projection : Projection)
    (answered : project state tenant selector = .ok projection) :
    projection.listed.Perm ((((candidates state.postings tenant selector).take maximumPostingsPerRun).filterMap
        (projectedPrice state)).map Prod.fst) ∧
      projection.total = ((((candidates state.postings tenant selector).take maximumPostingsPerRun).filterMap
        (projectedPrice state)).map Prod.snd).sum := by
  unfold project at answered
  obtain ⟨rows, asked, same⟩ := (bind_eq_ok _ _ _).mp answered
  cases same
  refine ⟨?_, ?_⟩
  · have ids := project_each_weighs (fun row => (↑row.usageEventIds : Multiset Nat)) (fun listed => {listed.1}) rfl
      state ?_ _ [] rows List.nodup_nil asked
    · rw [sum_of_ids] at ids
      rw [← Multiset.coe_eq_coe]
      refine ids.trans ?_
      simp only [List.map_nil, List.sum_nil, zero_add]
      induction (candidates state.postings tenant selector).take maximumPostingsPerRun |>.filterMap
          (projectedPrice state) with
      | nil => rfl
      | cons first rest ih =>
        rw [List.map_cons, List.sum_cons, ih, List.map_cons]
        rfl
    · rintro row posting ⟨amount, status⟩
      cases amount with
      | none =>
        unfold PerCustomer.adding
        dsimp only
        split
        · simp
        · simp
      | some amount => simp [PerCustomer.adding, ← Multiset.coe_singleton]
  · have amounts := project_each_weighs (fun row => row.recoverableMicros.getD 0) Prod.snd rfl state ?_ _ [] rows
      List.nodup_nil asked
    · simpa [Projection.total, projectedRow, Function.comp_def] using amounts
    · rintro row posting ⟨amount, status⟩
      cases amount with
      | none =>
        unfold PerCustomer.adding
        dsimp only
        split
        · simp
        · simp
      | some amount => simp [PerCustomer.adding]

end Ubb.Resolving
