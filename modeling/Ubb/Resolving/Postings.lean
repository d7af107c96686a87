import Ubb.Resolving.Machine

set_option autoImplicit false

-- One posting's completion in closed form: which section moves, what the record
-- becomes, and the one thing that refuses it.
namespace Ubb.Resolving

open Library Pricing
open Work (CostingStatus PricingStatus PricingMode)

structure Sound (stored : Receipt) : Prop where
  shaped : Shaped stored
  metered : stored.subject.subjectType = .usageEvent
  uncosted : ∀ entry ∈ stored.costing.detail.uncostedQuantities, isCanonical entry.2 = true
  undeclared : ∀ entry ∈ stored.costing.detail.undeclaredQuantities, isCanonical entry.2 = true

theorem resolve_price_ok (config : Configuration) (subject : PricingSubject) (asOf : Int) (answer : Receipt)
    (answered : resolvePrice config subject asOf = .ok answer) :
    ∃ bag, canonicalQuantities subject.measurements = .ok bag ∧
      compute (questionOf config subject asOf bag) = .ok answer := by
  unfold resolvePrice at answered
  exact (bind_eq_ok _ _ _).mp answered

theorem cost_quantities_mem (asked : Question) (cost : CostSide) (answered : asked.cost = .ok cost)
    (entry : String × String) (mem : entry ∈ cost.uncosted ∨ entry ∈ cost.undeclared) :
    entry ∈ asked.measurements := by
  by_cases bagged : asked.costsItsBag
  · rw [cost_of_bag asked bagged] at answered
    obtain ⟨_, undeclared, uncosted, _, _⟩ := calculated_cost_law _ _ _ _ answered
    rw [undeclared, uncosted] at mem
    rcases mem with mem | mem
    · exact List.mem_of_mem_filter mem
    · exact List.mem_of_mem_filter mem
  · obtain ⟨_, _, undeclared, uncosted⟩ := cost_outside_bag asked cost answered bagged
    rw [undeclared] at mem
    exact uncosted entry (mem.resolve_right (by simp))

theorem resolve_price_sound (config : Configuration) (subject : PricingSubject) (asOf : Int) (answer : Receipt)
    (metered : subject.receiptSubject.subjectType = .usageEvent)
    (answered : resolvePrice config subject asOf = .ok answer) : Sound answer := by
  obtain ⟨bag, read, computed⟩ := resolve_price_ok config subject asOf answer answered
  obtain ⟨_, canonicalForm⟩ := canonical_quantities_ok _ bag read
  obtain ⟨cost, price, costed, _, shaped, costing, _, _, _, _, _, same, _⟩ := compute_ok _ answer computed
  have kept : ∀ entry, entry ∈ cost.uncosted ∨ entry ∈ cost.undeclared → isCanonical entry.2 = true :=
    fun entry mem => canonicalForm entry (cost_quantities_mem _ cost costed entry mem)
  refine ⟨shaped, by rw [same]; exact metered, ?_, ?_⟩
  · intro entry mem
    rw [costing] at mem
    exact kept entry (Or.inl mem)
  · intro entry mem
    rw [costing] at mem
    exact kept entry (Or.inr mem)

def contradicts (stored : Receipt) (author : Author) : Bool :=
  (stored.provenance.lookup author.1).any (· ≠ author.2)

def withCost (stored answer : Receipt) (author : Author) : Receipt :=
  { stored with
    costing := answer.costing
    providerCostMicros := answer.providerCostMicros
    provenance := assign stored.provenance author.1 author.2 }

def withPrice (stored answer : Receipt) (author : Author) : Receipt :=
  { stored with
    pricing := answer.pricing
    billedCostMicros := answer.billedCostMicros
    provenance := assign stored.provenance author.1 author.2 }

theorem author_added (stored : Receipt) (author : Author) :
    addProvenance stored.provenance [author] =
      if contradicts stored author = true then .error (.provenanceChanged author.1) else .ok () :=
  add_provenance_one stored.provenance author.1 author.2

theorem a_receipt_ok (stored : Receipt) (sound : Sound stored) : aReceipt stored = .ok () := by
  unfold aReceipt
  exact refuse_if_false _ _ (not_not.mpr sound.shaped.version)

theorem with_cost_sound (stored answer : Receipt) (author : Author) (storedSound : Sound stored)
    (answerSound : Sound answer) : Sound (withCost stored answer author) where
  shaped := by
    have kept := storedSound.shaped
    have derived := answerSound.shaped.costing
    rw [answerSound.metered] at derived
    refine ⟨kept.version, kept.engine, kept.currency, ?_, kept.pricing, kept.markup, kept.regime⟩
    show SectionShaped _ _ _ _ (derivesItsAmounts stored.subject.subjectType)
    rw [storedSound.metered]
    exact derived
  metered := storedSound.metered
  uncosted := answerSound.uncosted
  undeclared := answerSound.undeclared

theorem with_price_sound (stored answer : Receipt) (author : Author) (storedSound : Sound stored)
    (answerSound : Sound answer) : Sound (withPrice stored answer author) where
  shaped := by
    have kept := storedSound.shaped
    have derived := answerSound.shaped.pricing
    rw [answerSound.metered] at derived
    refine ⟨kept.version, kept.engine, kept.currency, kept.costing, ?_, answerSound.shaped.markup, ?_⟩
    · show SectionShaped _ _ _ _ (derivesItsAmounts stored.subject.subjectType)
      rw [storedSound.metered]
      exact derived
    · intro charge
      cases storedSound.metered.symm.trans charge
  metered := storedSound.metered
  uncosted := storedSound.uncosted
  undeclared := storedSound.undeclared

theorem completed_cost (stored answer : Receipt) (author : Author) (storedSound : Sound stored)
    (answerSound : Sound answer) (was : stored.costing.status = .unresolved)
    (settled : answer.costing.status = .known) :
    completedReceipt stored (some (costingOf answer)) none [author] =
      if contradicts stored author = true then .error (.provenanceChanged author.1)
      else .ok (withCost stored answer author) := by
  have named := answerSound.shaped.costing.settledNames (by rw [answerSound.metered]; rfl) settled
  have amount := answerSound.shaped.costing.amountAgrees.mp settled
  unfold completedReceipt
  rw [a_receipt_ok stored storedSound, ok_bind,
    complete_section_ok costingRules stored.costing stored.providerCostMicros (costingOf answer) was settled named
      amount, ok_bind]
  dsimp only
  rw [complete_section_none, ok_bind, author_added]
  by_cases changed : contradicts stored author = true
  · rw [if_pos changed, if_pos changed]
    rfl
  · rw [if_neg changed, if_neg changed, ok_bind]
    have valid := (validate_receipt_ok _).mpr (with_cost_sound stored answer author storedSound answerSound).shaped
    exact (bind_eq_ok _ _ _).mpr ⟨(), valid, rfl⟩

theorem completed_price (stored answer : Receipt) (author : Author) (storedSound : Sound stored)
    (answerSound : Sound answer) (was : stored.pricing.status = .unknown)
    (settled : answer.pricing.status = .known) :
    completedReceipt stored none (some (pricingOf answer)) [author] =
      if contradicts stored author = true then .error (.provenanceChanged author.1)
      else .ok (withPrice stored answer author) := by
  have named := answerSound.shaped.pricing.settledNames (by rw [answerSound.metered]; rfl) settled
  have amount := answerSound.shaped.pricing.amountAgrees.mp settled
  unfold completedReceipt
  rw [a_receipt_ok stored storedSound, ok_bind, complete_section_none, ok_bind]
  dsimp only
  rw [complete_section_ok pricingRules stored.pricing stored.billedCostMicros (pricingOf answer) was settled named
    amount, ok_bind, author_added]
  by_cases changed : contradicts stored author = true
  · rw [if_pos changed, if_pos changed]
    rfl
  · rw [if_neg changed, if_neg changed, ok_bind]
    have valid := (validate_receipt_ok _).mpr (with_price_sound stored answer author storedSound answerSound).shaped
    exact (bind_eq_ok _ _ _).mpr ⟨(), valid, rfl⟩

structure Kept (posting : Posting) : Prop where
  sound : Sound posting.pricingReceipt
  costingStatus : posting.costingStatus = posting.pricingReceipt.costing.status
  providerCost : posting.providerCostMicros = posting.pricingReceipt.providerCostMicros
  pricingStatus : posting.pricingStatus = posting.pricingReceipt.pricing.status
  billedCost : posting.billedCostMicros = posting.pricingReceipt.billedCostMicros

def settles (evaluation : Evaluation) : Bool :=
  evaluation.costing && decide (evaluation.resolved.costing.status = .known)

def prices (evaluation : Evaluation) : Bool :=
  evaluation.pricing && decide (evaluation.resolved.pricing.status = .known)

def costCompleted (posting : Posting) (answer : Receipt) (author : Author) : Posting :=
  { posting with
    providerCostMicros := answer.providerCostMicros
    costingStatus := .known
    unresolvedReason := none
    pricingReceipt := withCost posting.pricingReceipt answer author }

def priceCompleted (posting : Posting) (answer : Receipt) (author : Author) : Posting :=
  { posting with
    billedCostMicros := answer.billedCostMicros
    pricingStatus := .known
    pricingStatusReason := none
    pricingReceipt := withPrice posting.pricingReceipt answer author }

theorem cost_completed_kept (posting : Posting) (answer : Receipt) (author : Author) (kept : Kept posting)
    (answerSound : Sound answer) (settled : answer.costing.status = .known) :
    Kept (costCompleted posting answer author) where
  sound := with_cost_sound _ _ _ kept.sound answerSound
  costingStatus := settled.symm
  providerCost := rfl
  pricingStatus := kept.pricingStatus
  billedCost := kept.billedCost

theorem price_completed_kept (posting : Posting) (answer : Receipt) (author : Author) (kept : Kept posting)
    (answerSound : Sound answer) (settled : answer.pricing.status = .known) :
    Kept (priceCompleted posting answer author) where
  sound := with_price_sound _ _ _ kept.sound answerSound
  costingStatus := kept.costingStatus
  providerCost := kept.providerCost
  pricingStatus := settled.symm
  billedCost := rfl

theorem settle_the_cost_eq (posting : Posting) (answer : Receipt) (author : Author) (kept : Kept posting)
    (answerSound : Sound answer) (unresolved : posting.costingStatus = .unresolved) :
    settleTheCost posting answer author =
      if answer.costing.status = .known then
        if contradicts posting.pricingReceipt author = true then .error (.receipt (.provenanceChanged author.1))
        else .ok (costCompleted posting answer author, true)
      else .ok (posting, false) := by
  have was : posting.pricingReceipt.costing.status = .unresolved := kept.costingStatus.symm.trans unresolved
  have empty : posting.providerCostMicros = none := by
    rw [kept.providerCost, ← Option.not_isSome_iff_eq_none]
    intro present
    have known := kept.sound.shaped.costing.amountAgrees.mpr present
    rw [was] at known
    cases known
  unfold settleTheCost
  by_cases settled : answer.costing.status = .known
  · rw [if_neg (not_not.mpr settled), if_pos settled,
      completed_cost posting.pricingReceipt answer author kept.sound answerSound was settled]
    obtain ⟨amount, present⟩ := Option.isSome_iff_exists.mp (answerSound.shaped.costing.amountAgrees.mp settled)
    by_cases changed : contradicts posting.pricingReceipt author = true
    · rw [if_pos changed, if_pos changed]
      rfl
    · rw [if_neg changed, if_neg changed, liftReceipt, Except.mapError, ok_bind, present]
      unfold settleProviderCost costCompleted
      dsimp only
      rw [if_pos ⟨empty, unresolved⟩, present]
      rfl
  · rw [if_pos settled, if_neg settled]
    rfl

theorem resolve_the_price_eq (posting : Posting) (answer : Receipt) (author : Author) (kept : Kept posting)
    (answerSound : Sound answer) (unknown : posting.pricingStatus = .unknown) :
    resolveThePrice posting answer author =
      if answer.pricing.status = .known then
        if contradicts posting.pricingReceipt author = true then .error (.receipt (.provenanceChanged author.1))
        else .ok (priceCompleted posting answer author, true)
      else .ok (posting, false) := by
  have was : posting.pricingReceipt.pricing.status = .unknown := kept.pricingStatus.symm.trans unknown
  have empty : posting.billedCostMicros = none := by
    rw [kept.billedCost, ← Option.not_isSome_iff_eq_none]
    intro present
    have known := kept.sound.shaped.pricing.amountAgrees.mpr present
    rw [was] at known
    cases known
  unfold resolveThePrice
  by_cases settled : answer.pricing.status = .known
  · rw [if_neg (not_not.mpr settled), if_pos settled,
      completed_price posting.pricingReceipt answer author kept.sound answerSound was settled]
    obtain ⟨amount, present⟩ := Option.isSome_iff_exists.mp (answerSound.shaped.pricing.amountAgrees.mp settled)
    by_cases changed : contradicts posting.pricingReceipt author = true
    · rw [if_pos changed, if_pos changed]
      rfl
    · rw [if_neg changed, if_neg changed, liftReceipt, Except.mapError, ok_bind, present]
      unfold resolveCustomerPrice priceCompleted
      dsimp only
      rw [if_pos ⟨empty, unknown⟩, present]
      rfl
  · rw [if_pos settled, if_neg settled]
    rfl

def completed (posting : Posting) (evaluation : Evaluation) (author : Author) : Posting :=
  let costed := if settles evaluation = true then costCompleted posting evaluation.resolved author else posting
  if prices evaluation = true then priceCompleted costed evaluation.resolved author else costed

structure Evaluated (posting : Posting) (evaluation : Evaluation) : Prop where
  costing : evaluation.costing = costingCompletable posting
  pricing : evaluation.pricing = pricingCompletable posting
  sound : Sound evaluation.resolved

theorem with_cost_consents (stored answer : Receipt) (author : Author) :
    contradicts (withCost stored answer author) author = false := by
  unfold contradicts withCost
  rw [lookup_assign_same]
  simp

theorem cost_step_eq (posting : Posting) (evaluation : Evaluation) (author : Author) (kept : Kept posting)
    (evaluated : Evaluated posting evaluation) :
    costStep posting evaluation author =
      if settles evaluation = true then
        if contradicts posting.pricingReceipt author = true then .error (.receipt (.provenanceChanged author.1))
        else .ok (costCompleted posting evaluation.resolved author, true)
      else .ok (posting, false) := by
  unfold costStep settles
  by_cases completable : evaluation.costing = true
  · have unresolved : posting.costingStatus = .unresolved := by
      rw [evaluated.costing] at completable
      exact of_decide_eq_true completable
    rw [if_pos completable, settle_the_cost_eq posting _ author kept evaluated.sound unresolved]
    simp [completable]
  · rw [if_neg completable]
    simp only [Bool.not_eq_true] at completable
    simp only [completable, Bool.false_and, Bool.false_eq_true, if_false]
    rfl

theorem price_step_eq (posting costed : Posting) (evaluation : Evaluation) (author : Author) (kept : Kept costed)
    (evaluated : Evaluated posting evaluation) (sameStatus : costed.pricingStatus = posting.pricingStatus) :
    priceStep costed evaluation author =
      if prices evaluation = true then
        if contradicts costed.pricingReceipt author = true then .error (.receipt (.provenanceChanged author.1))
        else .ok (priceCompleted costed evaluation.resolved author, true)
      else .ok (costed, false) := by
  unfold priceStep prices
  by_cases completable : evaluation.pricing = true
  · have unknown : costed.pricingStatus = .unknown := by
      rw [evaluated.pricing] at completable
      exact sameStatus.trans (of_decide_eq_true completable)
    rw [if_pos completable, resolve_the_price_eq costed _ author kept evaluated.sound unknown]
    simp [completable]
  · rw [if_neg completable]
    simp only [Bool.not_eq_true] at completable
    simp only [completable, Bool.false_and, Bool.false_eq_true, if_false]
    rfl

theorem completed_posting_eq (posting : Posting) (evaluation : Evaluation) (author : Author)
    (kept : Kept posting) (evaluated : Evaluated posting evaluation) :
    completedPosting posting evaluation author =
      if (settles evaluation || prices evaluation) = true ∧ contradicts posting.pricingReceipt author = true then
        .error (.receipt (.provenanceChanged author.1))
      else .ok (completed posting evaluation author,
        ⟨settles evaluation, prices evaluation, some evaluation⟩) := by
  unfold completedPosting
  rw [cost_step_eq posting evaluation author kept evaluated]
  cases settled : settles evaluation with
  | false =>
    simp only [Bool.false_eq_true, if_false, ok_bind, Bool.false_or]
    rw [price_step_eq posting posting evaluation author kept evaluated rfl]
    cases priced : prices evaluation with
    | false =>
      simp only [Bool.false_eq_true, if_false, false_and, ok_bind, completed, settled, priced]
      rfl
    | true =>
      by_cases changed : contradicts posting.pricingReceipt author = true
      · rw [if_pos rfl, if_pos changed, if_pos ⟨rfl, changed⟩]
        rfl
      · rw [if_pos rfl, if_neg changed, if_neg (fun both => changed both.2), ok_bind]
        simp only [completed, settled, priced, Bool.false_eq_true, if_false, if_true]
        rfl
  | true =>
    by_cases changed : contradicts posting.pricingReceipt author = true
    · rw [if_pos rfl, if_pos changed, if_pos ⟨rfl, changed⟩]
      rfl
    · have known : evaluation.resolved.costing.status = .known := by
        simp only [settles, Bool.and_eq_true, decide_eq_true_eq] at settled
        exact settled.2
      have consents : contradicts (costCompleted posting evaluation.resolved author).pricingReceipt author = false :=
        with_cost_consents _ _ _
      rw [if_pos rfl, if_neg changed, if_neg (fun both => changed both.2), ok_bind]
      dsimp only
      rw [price_step_eq posting _ evaluation author (cost_completed_kept _ _ _ kept evaluated.sound known)
        evaluated rfl, consents]
      cases priced : prices evaluation with
      | false =>
        simp only [Bool.false_eq_true, if_false, ok_bind, completed, settled, priced, if_true]
        rfl
      | true =>
        simp only [Bool.false_eq_true, if_false, ok_bind, completed, settled, priced, if_true]
        rfl

theorem completed_kept (posting : Posting) (evaluation : Evaluation) (author : Author) (kept : Kept posting)
    (evaluated : Evaluated posting evaluation) : Kept (completed posting evaluation author) := by
  have costed : Kept (if settles evaluation = true then costCompleted posting evaluation.resolved author
      else posting) := by
    split
    · next settled =>
      simp only [settles, Bool.and_eq_true, decide_eq_true_eq] at settled
      exact cost_completed_kept _ _ _ kept evaluated.sound settled.2
    · exact kept
  unfold completed
  dsimp only
  split
  · next priced =>
    simp only [prices, Bool.and_eq_true, decide_eq_true_eq] at priced
    exact price_completed_kept _ _ _ costed evaluated.sound priced.2
  · exact costed

theorem evaluated (config : Configuration) (heldNames : List HeldName) (posting : Posting)
    (evaluation : Evaluation)
    (answered : whatARunWouldComplete config heldNames posting = .ok (some evaluation)) :
    Evaluated posting evaluation ∧ ∃ subject, subjectOf config posting (answersFor heldNames posting) = .ok subject ∧
      resolvePrice config subject posting.effectiveAt = .ok evaluation.resolved := by
  unfold whatARunWouldComplete at answered
  split at answered
  · cases answered
  · obtain ⟨unaccountable, _, rest⟩ := (bind_eq_ok _ _ _).mp answered
    dsimp only at rest
    split at rest
    · cases rest
    · obtain ⟨subject, asked, more⟩ := (bind_eq_ok _ _ _).mp rest
      obtain ⟨resolved, priced, same⟩ := (bind_eq_ok _ _ _).mp more
      cases same
      rw [map_error_eq_ok] at priced
      have metered : subject.receiptSubject.subjectType = .usageEvent := by
        unfold subjectOf at asked
        obtain ⟨was, _, next⟩ := (bind_eq_ok _ _ _).mp asked
        obtain ⟨mode, _, sameSubject⟩ := (bind_eq_ok _ _ _).mp next
        cases sameSubject
        rfl
      exact ⟨⟨rfl, rfl, resolve_price_sound config subject _ resolved metered priced⟩, subject, asked, priced⟩

end Ubb.Resolving
