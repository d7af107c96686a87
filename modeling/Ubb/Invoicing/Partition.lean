import Ubb.Invoicing.Owners

set_option autoImplicit false

namespace Ubb.Invoicing.Owners

open Ubb.Library

-- What the routes keep of a tenant's roster and of the pins.
structure BooksSound (books : Books) : Prop where
  ids : (books.customers.map Customer.id).Nodup
  parents : ∀ customer ∈ books.customers, ∀ id, customer.parent = some id →
    ∃ parent ∈ books.customers, parent.id = id ∧ parent.accountType = .business
  postingIds : (books.postings.map Posting.id).Nodup
  pins : ∀ posting ∈ books.postings, ∃ customer ∈ books.customers, customer.id = posting.customerId ∧
    posting.billingOwnerId = resolveBillingOwner books.customers customer

theorem find_customer_of_mem (customers : List Customer) (distinct : (customers.map Customer.id).Nodup)
    (customer : Customer) (member : customer ∈ customers) : findCustomer customer.id customers = some customer := by
  rw [findCustomer]
  exact find_key_of_mem Customer.id customers distinct customer member

theorem find_customer_some (customers : List Customer) (id : Uuid) (customer : Customer)
    (found : findCustomer id customers = some customer) : customer ∈ customers ∧ customer.id = id :=
  find_key_some Customer.id id customers customer found

theorem resolve_cases (customers : List Customer) (customer : Customer) :
    resolveBillingOwner customers customer = customer.id ∨
      ∃ parent, customer.parent = some parent.id ∧ findCustomer parent.id customers = some parent ∧
        customer.accountType = .seat ∧ parent.billingTopology = .pooled ∧
        resolveBillingOwner customers customer = parent.id := by
  unfold resolveBillingOwner
  split
  · rename_i parent isSeat found
    obtain ⟨id, isParent, stored⟩ := Option.bind_eq_some_iff.mp found
    have named := (find_customer_some _ _ _ stored).2
    subst named
    by_cases pooled : parent.billingTopology = .pooled
    · exact Or.inr ⟨parent, isParent, stored, isSeat, pooled, if_pos pooled⟩
    · exact Or.inl (if_neg pooled)
  · exact Or.inl rfl

theorem resolve_business (customers : List Customer) (customer : Customer) (business : customer.accountType = .business) :
    resolveBillingOwner customers customer = customer.id := by
  rcases resolve_cases customers customer with own | ⟨_, _, _, isSeat, _⟩
  · exact own
  · rw [business] at isSeat
    cases isSeat

-- Topology is read from rows that never change it, so a pin stays right.
theorem resolve_kept (before after : List Customer) (customer : Customer)
    (kept : ∀ id, customer.parent = some id → (findCustomer id before).map (fun parent => (parent.id, parent.billingTopology)) =
      (findCustomer id after).map (fun parent => (parent.id, parent.billingTopology))) :
    resolveBillingOwner after customer = resolveBillingOwner before customer := by
  unfold resolveBillingOwner
  cases isParent : customer.parent with
  | none => rfl
  | some id =>
    have same := kept id isParent
    simp only [Option.bind_some]
    cases found : findCustomer id before with
    | none =>
      rw [found] at same
      cases later : findCustomer id after with
      | none => rfl
      | some parent => simp [later] at same
    | some parent =>
      rw [found] at same
      cases later : findCustomer id after with
      | none => simp [later] at same
      | some other =>
        rw [later] at same
        simp only [Option.map_some, Option.some.injEq, Prod.mk.injEq] at same
        cases customer.accountType <;> simp [same.1, same.2]

theorem find_customer_append (customers : List Customer) (created : Customer) (parent : Customer) (id : Uuid)
    (found : findCustomer id customers = some parent) : findCustomer id (customers ++ [created]) = some parent := by
  unfold findCustomer at found ⊢
  rw [List.find?_append, found]
  rfl

theorem find_customer_deleted (customers : List Customer) (target id : Uuid) :
    (findCustomer id (updateRow Customer.id target deleteRow customers)).map (fun parent =>
        (parent.id, parent.billingTopology)) =
      (findCustomer id customers).map (fun parent => (parent.id, parent.billingTopology)) := by
  unfold findCustomer updateRow
  rw [List.find?_map, Option.map_map]
  congr 1
  · funext customer
    by_cases hit : customer.id = target <;> simp [hit, deleteRow]
  · congr 1
    funext customer
    by_cases hit : customer.id = target <;> simp [hit, deleteRow]

theorem resolve_columns (customers : List Customer) (left right : Customer) (sameId : left.id = right.id)
    (sameType : left.accountType = right.accountType) (sameParent : left.parent = right.parent) :
    resolveBillingOwner customers left = resolveBillingOwner customers right := by
  unfold resolveBillingOwner
  rw [sameId, sameType, sameParent]

theorem create_customer_cases (request : CreateCustomer) (customers : List Customer) (created : Customer)
    (done : createCustomer request customers = some created) :
    created.id ∉ customers.map Customer.id ∧
      ∀ id, created.parent = some id → ∃ parent ∈ customers, parent.id = id ∧ parent.accountType = .business := by
  unfold createCustomer at done
  simp only at done
  split at done
  · cases done
  · rename_i unused
    have fresh : ∀ customer ∈ customers, customer.id ≠ request.id := by
      intro customer member same
      exact unused (List.any_eq_true.mpr ⟨customer, member, by simp [same]⟩)
    have absent : request.id ∉ customers.map Customer.id := by
      intro listed
      obtain ⟨customer, member, same⟩ := List.mem_map.mp listed
      exact fresh customer member same
    cases asked : request.accountType with
    | none =>
      rw [asked] at done
      cases done
    | some accountType =>
      rw [asked] at done
      cases accountType with
      | individual =>
        cases done
        exact ⟨absent, by simp⟩
      | business =>
        simp only at done
        split at done
        · cases done
        · cases done
          exact ⟨absent, by simp⟩
      | seat =>
        simp only at done
        split at done
        · cases done
        · obtain ⟨parent, found, rfl⟩ := Option.map_eq_some_iff.mp done
          refine ⟨absent, ?_⟩
          intro id named
          cases named
          have matched := List.find?_some found
          rw [decide_eq_true_eq] at matched
          exact ⟨parent, List.mem_of_find?_eq_some found, rfl, matched.2.1⟩

theorem step_sound (books : Books) (event : Event) (sound : BooksSound books) : BooksSound (step books event) := by
  cases event with
  | create request =>
    rw [step]
    cases done : createCustomer request books.customers with
    | none => exact sound
    | some created =>
      obtain ⟨fresh, itsParent⟩ := create_customer_cases request books.customers created done
      refine ⟨?_, ?_, sound.postingIds, ?_⟩
      · apply nodup_add_row Customer.id books.customers created sound.ids
        intro customer member same
        exact fresh (List.mem_map.mpr ⟨customer, member, same⟩)
      · intro customer member id named
        have stored : ∃ parent ∈ books.customers, parent.id = id ∧ parent.accountType = .business := by
          rcases List.mem_append.mp member with old | new
          · exact sound.parents customer old id named
          · cases List.mem_singleton.mp new
            exact itsParent id named
        obtain ⟨parent, inside, same, business⟩ := stored
        exact ⟨parent, List.mem_append_left _ inside, same, business⟩
      · intro posting member
        obtain ⟨customer, inside, same, pinned⟩ := sound.pins posting member
        refine ⟨customer, List.mem_append_left _ inside, same, ?_⟩
        rw [pinned]
        refine (resolve_kept books.customers (books.customers ++ [created]) customer ?_).symm
        intro id named
        obtain ⟨parent, stored, rfl, _⟩ := sound.parents customer inside id named
        have found := find_customer_of_mem books.customers sound.ids parent stored
        rw [found, find_customer_append books.customers created parent parent.id found]
  | softDelete customerId =>
    have kept : ∀ customer ∈ books.customers, ∃ later ∈ updateRow Customer.id customerId deleteRow books.customers,
        later.id = customer.id ∧ later.accountType = customer.accountType ∧ later.parent = customer.parent := by
      intro customer member
      by_cases target : customer.id = customerId
      · exact ⟨deleteRow customer, List.mem_map.mpr ⟨customer, member, if_pos target⟩, rfl, rfl, rfl⟩
      · exact ⟨customer, update_row_other Customer.id customerId deleteRow books.customers customer member target, rfl, rfl, rfl⟩
    refine ⟨?_, ?_, sound.postingIds, ?_⟩
    · show ((updateRow Customer.id customerId deleteRow books.customers).map Customer.id).Nodup
      rw [update_row_map Customer.id customerId deleteRow books.customers Customer.id (fun _ => rfl)]
      exact sound.ids
    · intro customer member id named
      have old : ∃ before ∈ books.customers, before.parent = some id := by
        obtain ⟨before, inside, same⟩ := List.mem_map.mp member
        refine ⟨before, inside, ?_⟩
        rw [← same] at named
        split at named
        · exact named
        · exact named
      obtain ⟨before, inside, beforeNamed⟩ := old
      obtain ⟨parent, stored, same, business⟩ := sound.parents before inside id beforeNamed
      obtain ⟨later, laterStored, laterSame, laterType, _⟩ := kept parent stored
      exact ⟨later, laterStored, laterSame.trans same, laterType.trans business⟩
    · intro posting member
      obtain ⟨customer, inside, same, pinned⟩ := sound.pins posting member
      obtain ⟨later, stored, laterSame, laterType, laterParent⟩ := kept customer inside
      refine ⟨later, stored, laterSame.trans same, ?_⟩
      have resolved := resolve_kept books.customers (updateRow Customer.id customerId deleteRow books.customers) customer
        (fun id _ => (find_customer_deleted books.customers customerId id).symm)
      rw [pinned, ← resolved]
      exact resolve_columns _ customer later laterSame.symm laterType.symm laterParent.symm
  | record draft =>
    rw [step]
    cases found : findCustomer draft.customerId books.customers with
    | none => exact sound
    | some customer =>
      obtain ⟨stored, named⟩ := find_customer_some _ _ _ found
      by_cases taken : books.postings.any (fun posting => posting.id = draft.id) = true
      · simp only [if_pos taken]
        exact sound
      · simp only [if_neg taken]
        refine ⟨sound.ids, sound.parents, ?_, ?_⟩
        · apply nodup_add_row Posting.id books.postings _ sound.postingIds
          intro posting member same
          exact taken (List.any_eq_true.mpr ⟨posting, member, decide_eq_true same⟩)
        · intro posting member
          rcases List.mem_append.mp member with old | new
          · exact sound.pins posting old
          · cases List.mem_singleton.mp new
            exact ⟨customer, stored, named, rfl⟩

theorem books_after_sound (events : List Event) : BooksSound (booksAfter events) :=
  run_invariant step BooksSound (fun _ => True) (fun books event sound _ => step_sound books event sound) emptyBooks events
    ⟨by simp [emptyBooks], by simp [emptyBooks], by simp [emptyBooks], by simp [emptyBooks]⟩ (by simp)

theorem group_totals_billed {Key : Type} [DecidableEq Key] (key : Posting → Key) (postings : List Posting) :
    ((groupTotals key postings).map (fun group => group.2.billedCostMicros)).sum = (costTotal postings).billedCostMicros := by
  unfold groupTotals
  rw [List.map_map]
  apply sum_over_labels key (fun posting => posting.price.billed)
  · exact List.nodup_dedup _
  · intro posting member
    exact List.mem_dedup.mpr (List.mem_map.mpr ⟨posting, member, rfl⟩)

theorem merge_totals_billed {Key : Type} (label : Key → String) (groups : List (Key × CostTotal)) :
    ((mergeTotals label groups).map (fun group => group.2.billedCostMicros)).sum =
      (groups.map (fun group => group.2.billedCostMicros)).sum := by
  unfold mergeTotals
  rw [List.map_map]
  apply sum_over_labels (fun group : Key × CostTotal => label group.1) (fun group => group.2.billedCostMicros)
  · exact List.nodup_dedup _
  · intro group member
    exact List.mem_dedup.mpr (List.mem_map.mpr ⟨group, member, rfl⟩)

theorem sorted_lines_total {Key : Type} (label : Key → String) (groups : List (Key × CostTotal)) :
    lineTotal (sortedLines label groups) = (groups.map (fun group => group.2.billedCostMicros)).sum := by
  rw [← merge_totals_billed label groups]
  unfold sortedLines lineTotal
  rw [((List.perm_insertionSort linePrecedes _).map _).sum_eq, List.map_map]
  rfl

-- A posting without a liability bills nothing, so its line is all it loses.
theorem carrying_liability_billed (postings : List Posting) :
    (costTotal (carryingCustomerLiability postings)).billedCostMicros = (costTotal postings).billedCostMicros := by
  show ((carryingCustomerLiability postings).map _).sum = (postings.map _).sum
  unfold carryingCustomerLiability
  rw [sum_filter_eq]
  congr 1
  apply List.map_congr_left
  intro posting _
  cases price : posting.price <;> simp [CustomerPrice.billed]

theorem recorded_by_pinned (books : Books) (sound : BooksSound books) (owner : Customer) (member : owner ∈ books.customers)
    (own : resolveBillingOwner books.customers owner = owner.id) (notBusiness : owner.accountType ≠ .business)
    (posting : Posting) (recorded : posting ∈ books.postings) :
    posting.customerId = owner.id ↔ posting.billingOwnerId = owner.id := by
  obtain ⟨customer, inside, named, pinned⟩ := sound.pins posting recorded
  constructor
  · intro its
    have same := List.inj_on_of_nodup_map sound.ids inside member (named.trans its)
    rw [pinned, same, own]
  · intro pays
    rw [pinned] at pays
    rcases resolve_cases books.customers customer with itself | ⟨parent, isParent, stored, _, _, pooled⟩
    · rw [← named, ← itself, pays]
    · obtain ⟨other, otherStored, sameId, business⟩ := sound.parents customer inside parent.id isParent
      have same := List.inj_on_of_nodup_map sound.ids otherStored member (by rw [sameId, ← pooled, pays])
      rw [same] at business
      exact absurd business notBusiness

def pinnedTotal (owner : Uuid) (month : Nat) (postings : List Posting) : Int :=
  (costTotal (pinnedTo owner month postings)).billedCostMicros

theorem recorded_by_eq_pinned_to (books : Books) (sound : BooksSound books) (owner : Customer)
    (member : owner ∈ books.customers) (own : resolveBillingOwner books.customers owner = owner.id)
    (notBusiness : owner.accountType ≠ .business) (month : Nat) :
    recordedBy owner.id month books.postings = pinnedTo owner.id month books.postings := by
  unfold recordedBy pinnedTo
  apply List.filter_congr
  intro posting recorded
  simp only [recorded_by_pinned books sound owner member own notBusiness posting recorded]

theorem mem_billing_owners (books : Books) (owner : Customer) :
    owner ∈ billingOwners books ↔ owner ∈ books.customers ∧ resolveBillingOwner books.customers owner = owner.id := by
  rw [billingOwners, List.mem_filter, decide_eq_true_eq]

theorem owner_aggregated (books : Books) (sound : BooksSound books) (owner : Customer) (isOwner : owner ∈ billingOwners books)
    (config : LineConfig) (published : config.Published) (month : Nat) :
    ∃ result, aggregateLines config month books owner = .ok result ∧ result.totalMicros = lineTotal result.lines ∧
      result.totalMicros = pinnedTotal owner.id month books.postings := by
  obtain ⟨member, own⟩ := (mem_billing_owners books owner).mp isOwner
  unfold aggregateLines
  by_cases business : owner.accountType = .business
  · have billed : ((getBilledTotalsByCustomer owner.id month books.postings).map
        (fun group => group.2.billedCostMicros)).sum = pinnedTotal owner.id month books.postings := by
      unfold getBilledTotalsByCustomer pinnedTotal
      rw [group_totals_billed, carrying_liability_billed]
    rw [if_pos business]
    by_cases nothing : getBilledTotalsByCustomer owner.id month books.postings = []
    · simp only [if_pos nothing]
      rw [nothing] at billed
      exact ⟨_, rfl, rfl, billed⟩
    · simp only [if_neg nothing]
      exact ⟨_, rfl, rfl, (sorted_lines_total _ _).trans billed⟩
  · have recorded := recorded_by_eq_pinned_to books sound owner member own business month
    rw [if_neg business]
    cases asked : config.invoiceLineGrouping with
    | none =>
      refine ⟨_, rfl, ?_, ?_⟩
      · by_cases nothing : (getCustomerCostTotals owner.id month books.postings).billedCostMicros = 0
        · simp [nothing, lineTotal]
        · simp [nothing, lineTotal]
      · show (costTotal (recordedBy owner.id month books.postings)).billedCostMicros = _
        rw [recorded]
        rfl
    | some word =>
      obtain ⟨plan, found⟩ := Option.isSome_iff_exists.mp (published word asked)
      simp only [getCustomerBilledBreakdown, found]
      refine ⟨_, rfl, rfl, ?_⟩
      show lineTotal (sortedLines id _) = _
      rw [sorted_lines_total, merge_totals_billed, group_totals_billed, carrying_liability_billed, recorded]
      rfl

theorem aggregate_ignores (books : Books) (sound : BooksSound books) (owner : Customer) (isOwner : owner ∈ billingOwners books)
    (config : LineConfig) (month : Nat) (posting : Posting) (recorded : posting ∈ books.postings)
    (elsewhere : posting.billingOwnerId ≠ owner.id) :
    aggregateLines config month { books with postings := books.postings.filter (fun other => other.id ≠ posting.id) } owner =
      aggregateLines config month books owner := by
  obtain ⟨member, own⟩ := (mem_billing_owners books owner).mp isOwner
  have only : ∀ other ∈ books.postings, other.id = posting.id → other = posting :=
    fun other inside same => List.inj_on_of_nodup_map sound.postingIds inside recorded same
  have pinned : pinnedTo owner.id month (books.postings.filter (fun other => other.id ≠ posting.id)) =
      pinnedTo owner.id month books.postings := by
    unfold pinnedTo
    rw [List.filter_filter]
    apply List.filter_congr
    intro other inside
    by_cases same : other.id = posting.id
    · rw [only other inside same]
      simp [elsewhere]
    · simp [same]
  unfold aggregateLines
  by_cases business : owner.accountType = .business
  · have totals : getBilledTotalsByCustomer owner.id month (books.postings.filter (fun other => other.id ≠ posting.id)) =
        getBilledTotalsByCustomer owner.id month books.postings := by rw [getBilledTotalsByCustomer, pinned]; rfl
    rw [if_pos business, if_pos business, totals]
  · have recordedSame : recordedBy owner.id month (books.postings.filter (fun other => other.id ≠ posting.id)) =
        recordedBy owner.id month books.postings := by
      have notIts : posting.customerId ≠ owner.id := by
        intro its
        exact elsewhere ((recorded_by_pinned books sound owner member own business posting recorded).mp its)
      unfold recordedBy
      rw [List.filter_filter]
      apply List.filter_congr
      intro other inside
      by_cases same : other.id = posting.id
      · rw [only other inside same]
        simp [notIts]
      · simp [same]
    have totals : getCustomerCostTotals owner.id month (books.postings.filter (fun other => other.id ≠ posting.id)) =
        getCustomerCostTotals owner.id month books.postings := by rw [getCustomerCostTotals, recordedSame]; rfl
    have breakdowns : ∀ word, getCustomerBilledBreakdown config word owner.id month
        (books.postings.filter (fun other => other.id ≠ posting.id)) =
          getCustomerBilledBreakdown config word owner.id month books.postings := by
      intro word
      rw [getCustomerBilledBreakdown, recordedSame]
      rfl
    simp only [if_neg business, totals, breakdowns]

def monthPrices (month : Nat) (postings : List Posting) : Int :=
  (costTotal (postings.filter (Posting.inMonth month))).billedCostMicros

theorem pinned_totals_sum (month : Nat) (postings : List Posting) (owners : List Uuid) (distinct : owners.Nodup)
    (covers : ∀ posting ∈ postings, posting.inMonth month = true → posting.billingOwnerId ∈ owners) :
    (owners.map (fun owner => pinnedTotal owner month postings)).sum = monthPrices month postings := by
  have grouped := sum_over_labels Posting.billingOwnerId (fun posting => posting.price.billed)
    (postings.filter (Posting.inMonth month)) owners distinct (by
      intro posting member
      obtain ⟨recorded, inside⟩ := List.mem_filter.mp member
      exact covers posting recorded inside)
  unfold monthPrices costTotal
  rw [← grouped]
  congr 1
  apply List.map_congr_left
  intro owner _
  unfold pinnedTotal costTotal pinnedTo
  rw [List.filter_filter]
  simp only [Bool.decide_and, Bool.decide_eq_true]

theorem owner_of_posting (books : Books) (sound : BooksSound books) (posting : Posting) (recorded : posting ∈ books.postings) :
    ∃ owner ∈ billingOwners books, owner.id = posting.billingOwnerId := by
  obtain ⟨customer, inside, _, pinned⟩ := sound.pins posting recorded
  rcases resolve_cases books.customers customer with own | ⟨parent, isParent, stored, _, _, pooled⟩
  · exact ⟨customer, (mem_billing_owners books customer).mpr ⟨inside, own⟩, by rw [pinned, own]⟩
  · obtain ⟨other, otherStored, sameId, business⟩ := sound.parents customer inside parent.id isParent
    have same := List.inj_on_of_nodup_map sound.ids otherStored (find_customer_some _ _ _ stored).1 sameId
    rw [same] at business
    exact ⟨parent, (mem_billing_owners books parent).mpr
      ⟨(find_customer_some _ _ _ stored).1, resolve_business _ parent business⟩, by rw [pinned, pooled]⟩

theorem mem_close_targets (month : Nat) (books : Books) (target : Customer) :
    target ∈ closeTargets month books ↔ target ∈ books.customers ∧ ∃ customer ∈ books.customers,
      (∃ posting ∈ books.postings, posting.customerId = customer.id ∧ posting.inMonth month = true) ∧
        resolveBillingOwner books.customers customer = target.id := by
  unfold closeTargets
  simp only [List.mem_filter, List.contains_eq_mem, List.mem_map, decide_eq_true_eq, List.any_eq_true, Bool.and_eq_true]
  constructor
  · rintro ⟨member, customer, ⟨inside, posting, recorded, its, inMonth⟩, resolved⟩
    exact ⟨member, customer, inside, ⟨posting, recorded, its, inMonth⟩, resolved⟩
  · rintro ⟨member, customer, inside, ⟨posting, recorded, its, inMonth⟩, resolved⟩
    exact ⟨member, customer, ⟨inside, posting, recorded, its, inMonth⟩, resolved⟩

theorem close_targets_own (month : Nat) (books : Books) (sound : BooksSound books) :
    (∀ target ∈ closeTargets month books, target ∈ billingOwners books) ∧
      ∀ posting ∈ books.postings, posting.inMonth month = true →
        ∃ target ∈ closeTargets month books, target.id = posting.billingOwnerId := by
  constructor
  · intro target listed
    obtain ⟨member, customer, inside, ⟨posting, recorded, its, _⟩, resolved⟩ := (mem_close_targets month books target).mp listed
    obtain ⟨recorder, recorderInside, named, pinned⟩ := sound.pins posting recorded
    have same := List.inj_on_of_nodup_map sound.ids recorderInside inside (named.trans its)
    obtain ⟨owner, isOwner, sameId⟩ := owner_of_posting books sound posting recorded
    have isTarget := List.inj_on_of_nodup_map sound.ids ((mem_billing_owners books owner).mp isOwner).1 member (by
      rw [sameId, pinned, same, resolved])
    rw [← isTarget]
    exact isOwner
  · intro posting recorded inMonth
    obtain ⟨customer, inside, named, pinned⟩ := sound.pins posting recorded
    obtain ⟨owner, isOwner, sameId⟩ := owner_of_posting books sound posting recorded
    refine ⟨owner, (mem_close_targets month books owner).mpr ⟨((mem_billing_owners books owner).mp isOwner).1, customer, inside,
      ⟨posting, recorded, named.symm, inMonth⟩, ?_⟩, sameId⟩
    rw [← pinned, sameId]

structure PartitionsMonth (month : Nat) (books : Books) : Prop where
  pinned : ∀ posting ∈ books.postings, ∃ owner ∈ billingOwners books, owner.id = posting.billingOwnerId
  each : ∀ owner ∈ billingOwners books, ∃ total, ∀ config : LineConfig, config.Published →
    ∃ result, aggregateLines config month books owner = .ok result ∧ result.totalMicros = total ∧
      lineTotal result.lines = total
  whole : ∀ config : LineConfig, config.Published → ∃ results,
    (billingOwners books).mapM (aggregateLines config month books) = .ok results ∧
      (results.map Aggregated.totalMicros).sum = monthPrices month books.postings
  closed : ∀ config : LineConfig, config.Published → ∃ results,
    (closeTargets month books).mapM (aggregateLines config month books) = .ok results ∧
      (results.map Aggregated.totalMicros).sum = monthPrices month books.postings
  elsewhere : ∀ posting ∈ books.postings, ∀ owner ∈ billingOwners books, posting.billingOwnerId ≠ owner.id →
    ∀ config : LineConfig, aggregateLines config month
      { books with postings := books.postings.filter (fun other => other.id ≠ posting.id) } owner =
        aggregateLines config month books owner

theorem owners_sum (month : Nat) (books : Books) (sound : BooksSound books) (config : LineConfig)
    (published : config.Published) (owners : List Customer) (distinct : (owners.map Customer.id).Nodup)
    (all : ∀ owner ∈ owners, owner ∈ billingOwners books)
    (covers : ∀ posting ∈ books.postings, posting.inMonth month = true → ∃ owner ∈ owners, owner.id = posting.billingOwnerId) :
    ∃ results, owners.mapM (aggregateLines config month books) = .ok results ∧
      (results.map Aggregated.totalMicros).sum = monthPrices month books.postings := by
  obtain ⟨results, done, totals⟩ := map_m_view (aggregateLines config month books) Aggregated.totalMicros
    (fun owner => pinnedTotal owner.id month books.postings) owners (by
      intro owner member
      obtain ⟨result, answered, _, total⟩ := owner_aggregated books sound owner (all owner member) config published month
      exact ⟨result, answered, total⟩)
  refine ⟨results, done, ?_⟩
  rw [totals, ← pinned_totals_sum month books.postings (owners.map Customer.id) distinct, List.map_map]
  · rfl
  · intro posting recorded inMonth
    obtain ⟨owner, member, same⟩ := covers posting recorded inMonth
    exact List.mem_map.mpr ⟨owner, member, same⟩

theorem owed_prices_partitioned (events : List Event) (month : Nat) : PartitionsMonth month (booksAfter events) := by
  have sound := books_after_sound events
  refine ⟨owner_of_posting _ sound, ?_, ?_, ?_, ?_⟩
  · intro owner isOwner
    refine ⟨pinnedTotal owner.id month (booksAfter events).postings, ?_⟩
    intro config published
    obtain ⟨result, answered, lines, total⟩ := owner_aggregated _ sound owner isOwner config published month
    exact ⟨result, answered, total, by rw [← lines, total]⟩
  · intro config published
    apply owners_sum month _ sound config published (billingOwners (booksAfter events))
    · exact List.Nodup.sublist (List.Sublist.map _ List.filter_sublist) sound.ids
    · exact fun owner member => member
    · exact fun posting recorded _ => owner_of_posting _ sound posting recorded
  · intro config published
    obtain ⟨own, covers⟩ := close_targets_own month (booksAfter events) sound
    apply owners_sum month _ sound config published (closeTargets month (booksAfter events))
    · exact List.Nodup.sublist (List.Sublist.map _ List.filter_sublist) sound.ids
    · exact own
    · exact covers
  · intro posting recorded owner isOwner apart config
    exact aggregate_ignores _ sound owner isOwner config month posting recorded apart

def acme : CreateCustomer := ⟨⟨"acme"⟩, "acme", some .business, "", .pooled⟩

def mixedTopologies : List Event :=
  [.create acme, .create ⟨⟨"ann"⟩, "ann", some .seat, "acme", .unset⟩, .create ⟨⟨"bob"⟩, "bob", some .individual, "", .unset⟩,
    .record ⟨⟨"p1"⟩, ⟨"ann"⟩, 0, .known 300, [("product", "api")]⟩, .record ⟨⟨"p2"⟩, ⟨"acme"⟩, 0, .unknown, []⟩,
    .record ⟨⟨"p3"⟩, ⟨"bob"⟩, 0, .known 70, []⟩, .record ⟨⟨"p4"⟩, ⟨"bob"⟩, 0, .noLiability, [("product", "api")]⟩]

example : (billingOwners (booksAfter mixedTopologies)).map (fun owner =>
    (aggregateLines ⟨some "field:product", [("field:product", ⟨"product", none⟩)]⟩ (monthOf 0) (booksAfter mixedTopologies)
      owner).toOption) =
    [some ⟨300, [⟨"ann", 300⟩, ⟨"acme", 0⟩], 1⟩, some ⟨70, [⟨"(other)", 70⟩], 0⟩] := by decide +kernel

end Ubb.Invoicing.Owners
