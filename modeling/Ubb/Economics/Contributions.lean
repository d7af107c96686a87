import Ubb.Economics.Margins

set_option autoImplicit false

-- The two reads of a customer's revenue: the rows the economic query is handed
-- for all customers and windows at once, and the margin service's own sums.
namespace Ubb.Economics

open Ubb.Library
open Ubb.Months

def ofCustomer (customer : Nat) (rows : List Contribution) : Int :=
  ((rows.filter (fun row => decide (row.customer = customer))).map Contribution.amountMicros).sum

theorem of_customer_append (customer : Nat) (first second : List Contribution) :
    ofCustomer customer (first ++ second) = ofCustomer customer first + ofCustomer customer second := by
  rw [ofCustomer, List.filter_append, List.map_append, List.sum_append, ofCustomer, ofCustomer]

theorem sum_of_kept {Row : Type} (keep : Row → Bool) (measure : Row → Int) (rows : List Row)
    (nothing : ∀ row ∈ rows, keep row = false → measure row = 0) : ((rows.filter keep).map measure).sum = (rows.map measure).sum := by
  rw [sum_filter_eq]
  apply congrArg List.sum
  apply List.map_congr_left
  intro row listed
  cases kept : keep row with
  | true => rfl
  | false => exact (nothing row listed kept).symm

theorem supplied_of_customer (records : List TenantSuppliedRevenue) (basis : RevenueBasis) (window : Day × Day) (customer : Nat) :
    ofCustomer customer (suppliedContributions records basis window) =
      ((records.filter (fun record => decide (record.customer = customer))).map
        (fun record => record.attributedMicros window.1 window.2 basis)).sum := by
  have silent : ∀ record ∈ records.filter (fun record => decide (record.customer = customer)),
      record.contributes window.1 window.2 basis = false → record.attributedMicros window.1 window.2 basis = 0 :=
    fun record _ nothing => record.untouched_gives_nothing basis window.1 window.2 (by rw [nothing, Bool.and_false])
  rw [← sum_of_kept _ _ _ silent, ofCustomer, suppliedContributions, List.filter_map, List.map_map, List.filter_filter,
    List.filter_filter]
  simp only [Function.comp_def, Bool.and_comm]

theorem accrued_rows (subscriptions : List StripeSubscription) (window : Day × Day) (rows : List Contribution)
    (answered : subscriptionContributions subscriptions window = .ok rows) :
    rows = (subscriptions.map (fun subscription => (⟨window, subscription.customer, .subscription,
      accrued (monthlyMicros subscription) window.1 window.2⟩ : Contribution))).filter (fun row => decide (row.amountMicros ≠ 0)) := by
  obtain ⟨made, each, same⟩ := (bind_eq_ok _ _ _).mp answered
  cases same
  congr 1
  rw [map_m_ok] at each
  clear answered
  induction each with
  | nil => rfl
  | cons first _ ih =>
    obtain ⟨nominal, accrues, same⟩ := (bind_eq_ok _ _ _).mp first
    cases same
    rw [List.map_cons, ← ih, nominal_accrues _ _ _ _ accrues]

theorem subscriptions_of_customer (subscriptions : List StripeSubscription) (window : Day × Day) (rows : List Contribution)
    (answered : subscriptionContributions subscriptions window = .ok rows) (customer : Nat) :
    ofCustomer customer rows =
      ((subscriptions.filter (fun subscription => decide (subscription.customer = customer))).map
        (fun subscription => accrued (monthlyMicros subscription) window.1 window.2)).sum := by
  rw [accrued_rows subscriptions window rows answered, ofCustomer, List.filter_comm,
    sum_of_kept _ _ _ (fun row _ nothing => by simpa using nothing), List.filter_map, List.map_map]
  rfl

theorem read_once (windows : List (Day × Day)) (basis : RevenueBasis) (window : Day × Day)
    (listed : window ∈ windows) (record : TenantSuppliedRevenue)
    (left : (windows.any (fun window => decide (record.periodStart < window.2)) &&
      record.periodEnd.all (fun closes => windows.any (fun window => decide (window.1 < closes)))) = false) :
    record.attributedMicros window.1 window.2 basis = 0 := by
  apply record.untouched_gives_nothing
  rw [Bool.and_eq_false_iff]
  left
  rw [TenantSuppliedRevenue.touches, Bool.and_eq_false_iff]
  rw [Bool.and_eq_false_iff] at left
  rcases left with late | past
  · left
    exact (List.any_eq_false.mp late window listed) |> Bool.eq_false_iff.mpr
  · right
    cases held : record.periodEnd with
    | none =>
      rw [held] at past
      cases past
    | some closes =>
      rw [held, Option.all_some] at past
      exact (List.any_eq_false.mp past window listed) |> Bool.eq_false_iff.mpr

theorem accruing_of_customer (books : Books) (customer : Nat) :
    accruing (books.of customer).subscriptions =
      (accruing books.subscriptions).filter (fun subscription => decide (subscription.customer = customer)) := by
  rw [accruing, accruing, inAccruingStatus, inAccruingStatus, Books.of]
  simp only [List.filter_filter]
  congr 1
  funext subscription
  cases decide (subscription.currency = "usd") <;> cases decide (subscription.status ∈ accruingSubscriptionStatuses) <;>
    cases decide (subscription.customer = customer) <;> rfl

theorem contributions_reach (subscriptions : List StripeSubscription) (window : Day × Day) (rows : List Contribution)
    (answered : subscriptionContributions subscriptions window = .ok rows) (subscription : StripeSubscription)
    (listed : subscription ∈ subscriptions) : Reaches window.2 := by
  obtain ⟨made, each, _⟩ := (bind_eq_ok _ _ _).mp answered
  rw [map_m_ok] at each
  obtain ⟨_, _, first⟩ := forall₂_of_mem_left each subscription listed
  obtain ⟨nominal, accrues, _⟩ := (bind_eq_ok _ _ _).mp first
  exact nominal_reaches subscription window.1 window.2 nominal accrues

section

variable (books : Books) (windows : List (Day × Day)) (basis : RevenueBasis) (customerIds : Option (List Nat))

def wantedCustomer (customer : Nat) : Bool := customerIds.all (fun customers => decide (customer ∈ customers))

def suppliedRead : List TenantSuppliedRevenue :=
  books.supplied.filter (fun record => wantedCustomer customerIds record.customer &&
    windows.any (fun window => decide (record.periodStart < window.2)) &&
    record.periodEnd.all (fun closes => windows.any (fun window => decide (window.1 < closes))))

def subscriptionsRead : List StripeSubscription :=
  (accruing books.subscriptions).filter (fun subscription => wantedCustomer customerIds subscription.customer)

theorem supplied_read_total (customer : Nat) (wanted : wantedCustomer customerIds customer = true) (window : Day × Day)
    (listed : window ∈ windows) :
    (((suppliedRead books windows customerIds).filter (fun record => decide (record.customer = customer))).map
        (fun record => record.attributedMicros window.1 window.2 basis)).sum =
      attributedTotal (books.of customer).supplied window.1 window.2 basis := by
  rw [attributed_total, suppliedRead, List.filter_comm, Books.of]
  apply sum_of_kept
  intro record inside left
  have same := of_decide_eq_true (List.mem_filter.mp inside).2
  rw [same, wanted, Bool.true_and] at left
  exact read_once windows basis window listed record left

theorem subscriptions_read (customer : Nat) (wanted : wantedCustomer customerIds customer = true) :
    (subscriptionsRead books customerIds).filter (fun subscription => decide (subscription.customer = customer)) =
      accruing (books.of customer).subscriptions := by
  rw [accruing_of_customer, subscriptionsRead, List.filter_filter]
  apply List.filter_congr
  intro subscription _
  by_cases same : subscription.customer = customer
  · simp [same, wanted]
  · simp [same]

theorem window_of_customer (customer : Nat) (wanted : wantedCustomer customerIds customer = true) (window : Day × Day)
    (listed : window ∈ windows) (accruedRows : List Contribution)
    (accrues : subscriptionContributions (subscriptionsRead books customerIds) window = .ok accruedRows) :
    accruedSubscriptionRevenue (books.of customer).subscriptions window.1 window.2 =
        .ok (accruedTotal (books.of customer).subscriptions window.1 window.2) ∧
      ofCustomer customer (suppliedContributions (suppliedRead books windows customerIds) basis window ++ accruedRows) =
        accruedTotal (books.of customer).subscriptions window.1 window.2 +
          attributedTotal (books.of customer).supplied window.1 window.2 basis := by
  constructor
  · apply revenue_answers
    cases held : accruing (books.of customer).subscriptions with
    | nil => exact .inl rfl
    | cons subscription rest =>
      have inside : subscription ∈ subscriptionsRead books customerIds := by
        have narrowed := subscriptions_read books customerIds customer wanted
        rw [held] at narrowed
        exact List.mem_of_mem_filter (narrowed ▸ List.mem_cons_self)
      exact .inr (contributions_reach _ window accruedRows accrues subscription inside)
  · rw [of_customer_append, supplied_of_customer, supplied_read_total books windows basis customerIds customer wanted window listed,
      subscriptions_of_customer _ window accruedRows accrues, subscriptions_read books customerIds customer wanted, accruedTotal,
      add_comm]

theorem the_two_reads_agree (rows : List Contribution)
    (answered : revenueContributions books windows basis customerIds = .ok rows) (customer : Nat)
    (wanted : customerIds.all (fun customers => decide (customer ∈ customers)) = true) :
    ∃ nominals, windows.mapM (fun window =>
        accruedSubscriptionRevenue (books.of customer).subscriptions window.1 window.2) = .ok nominals ∧
      ofCustomer customer rows = nominals.sum +
        (windows.map (fun window => attributedTotal (books.of customer).supplied window.1 window.2 basis)).sum := by
  obtain ⟨made, each, same⟩ := (bind_eq_ok _ _ _).mp answered
  cases same
  rw [map_m_ok] at each
  have read : ∀ asked made, List.Forall₂ (fun window out =>
        (subscriptionContributions (subscriptionsRead books customerIds) window >>= fun accrued =>
          pure (suppliedContributions (suppliedRead books windows customerIds) basis window ++ accrued)) =
            (.ok out : Except DateError (List Contribution))) asked made →
      (∀ window ∈ asked, window ∈ windows) →
      asked.mapM (fun window => accruedSubscriptionRevenue (books.of customer).subscriptions window.1 window.2) =
          .ok (asked.map (fun window => accruedTotal (books.of customer).subscriptions window.1 window.2)) ∧
        ofCustomer customer made.flatten =
          (asked.map (fun window => accruedTotal (books.of customer).subscriptions window.1 window.2)).sum +
            (asked.map (fun window => attributedTotal (books.of customer).supplied window.1 window.2 basis)).sum := by
    intro asked made pairs
    induction pairs with
    | nil => exact fun _ => ⟨rfl, rfl⟩
    | @cons window out later rest first _ ih =>
      intro inside
      obtain ⟨accruedRows, accrues, same⟩ := (bind_eq_ok _ _ _).mp first
      cases same
      obtain ⟨answers, sums⟩ := window_of_customer books windows basis customerIds customer wanted window
        (inside window List.mem_cons_self) accruedRows accrues
      obtain ⟨laterAnswers, laterSums⟩ := ih (fun other listed => inside other (List.mem_cons_of_mem window listed))
      constructor
      · rw [List.mapM_cons, answers, laterAnswers]
        rfl
      · rw [List.flatten_cons, of_customer_append, sums, laterSums, List.map_cons, List.map_cons, List.sum_cons, List.sum_cons]
        omega
  obtain ⟨answers, sums⟩ := read windows made each (fun _ listed => listed)
  exact ⟨_, answers, sums⟩

end

theorem january_read_for_all : ∃ nominals,
    (windowsFrom januaryOpens [midJanuary, februaryOpens]).mapM (fun window =>
        accruedSubscriptionRevenue (januaryBooks.of 1).subscriptions window.1 window.2) = .ok nominals ∧
      198 = nominals.sum + ((windowsFrom januaryOpens [midJanuary, februaryOpens]).map (fun window =>
        attributedTotal (januaryBooks.of 1).supplied window.1 window.2 .recognised)).sum := by
  have answered : revenueContributions januaryBooks (windowsFrom januaryOpens [midJanuary, februaryOpens]) .recognised (some [1]) =
      .ok [⟨(januaryOpens, midJanuary), 1, .tenantSupplied, 41⟩, ⟨(januaryOpens, midJanuary), 1, .subscription, 41⟩,
        ⟨(midJanuary, februaryOpens), 1, .tenantSupplied, 58⟩, ⟨(midJanuary, februaryOpens), 1, .subscription, 58⟩] := by
    decide +kernel
  exact the_two_reads_agree januaryBooks _ .recognised (some [1]) _ answered 1 (by decide)

end Ubb.Economics
