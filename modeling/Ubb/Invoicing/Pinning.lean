import Ubb.Invoicing.Routes

set_option autoImplicit false

namespace Ubb.Invoicing

open Ubb.Library

theorem create_invoice_items (stripe : Stripe) (id : InvoiceId) : (stripe.createInvoice id).items = stripe.items := by
  rw [Stripe.createInvoice]
  by_cases known : stripe.known id = true
  · rw [if_pos known]
  · rw [if_neg known]

theorem create_invoice_lookup (stripe : Stripe) (id other : InvoiceId) :
    (stripe.createInvoice id).invoice other =
      if other = id then some ((stripe.invoice id).getD { id := id, finalized := false }) else stripe.invoice other := by
  rw [Stripe.createInvoice, Stripe.known]
  cases found : stripe.invoice id with
  | some invoice =>
      by_cases same : other = id
      · simp [same, found]
      · simp [same]
  | none =>
      have appended : ({ stripe with invoices := stripe.invoices ++ [{ id := id, finalized := false }] } : Stripe).invoice other =
          (stripe.invoice other).or ([({ id := id, finalized := false } : StripeInvoice)].find?
            (fun invoice => decide (invoice.id = other))) := List.find?_append
      rw [Option.isSome_none, if_neg (by simp), appended]
      by_cases same : other = id
      · simp [same, found]
      · simp [same, Ne.symm same]

theorem create_invoice_finalized (stripe : Stripe) (id other : InvoiceId) :
    (stripe.createInvoice id).finalized other = stripe.finalized other := by
  rw [Stripe.finalized, create_invoice_lookup, Stripe.finalized]
  by_cases same : other = id
  · rw [if_pos same, same]
    cases stripe.invoice id with
    | none => rfl
    | some invoice => rfl
  · rw [if_neg same]

theorem create_invoice_known (stripe : Stripe) (id other : InvoiceId) (different : other ≠ id) :
    (stripe.createInvoice id).known other = stripe.known other := by
  rw [Stripe.known, create_invoice_lookup, if_neg different, Stripe.known]

theorem create_invoice_grows (stripe : Stripe) (id : InvoiceId) : Grows stripe (stripe.createInvoice id) := by
  refine ⟨?_, ?_, ?_⟩
  · intro item member
    rw [create_invoice_items]
    exact member
  · intro other done
    rw [create_invoice_finalized]
    exact done
  · intro item member _
    rw [create_invoice_items] at member
    exact member

theorem finish_lookup (stripe : Stripe) (id other : InvoiceId) :
    (stripe.finish id).invoice other =
      if other = id then (stripe.invoice other).map (fun invoice => { invoice with finalized := true })
      else stripe.invoice other := by
  by_cases same : other = id
  · subst same
    rw [if_pos rfl]
    exact find_update_row_hit (fun invoice : StripeInvoice => invoice.id) other _ stripe.invoices (fun _ hit => hit)
  · rw [if_neg same]
    exact find_update_row_other (fun invoice : StripeInvoice => invoice.id) id other _ stripe.invoices (fun _ hit => hit) same

theorem finish_finalized (stripe : Stripe) (id other : InvoiceId) (different : other ≠ id) :
    (stripe.finish id).finalized other = stripe.finalized other := by
  rw [Stripe.finalized, finish_lookup, if_neg different, Stripe.finalized]

theorem finish_known (stripe : Stripe) (id other : InvoiceId) : (stripe.finish id).known other = stripe.known other := by
  rw [Stripe.known, finish_lookup, Stripe.known]
  by_cases same : other = id
  · rw [if_pos same, Option.isSome_map]
  · rw [if_neg same]

theorem finish_grows (stripe : Stripe) (id : InvoiceId) : Grows stripe (stripe.finish id) := by
  refine ⟨fun _ member => member, ?_, fun _ member _ => member⟩
  intro other done
  rw [Stripe.finalized, finish_lookup]
  by_cases same : other = id
  · rw [if_pos same]
    rw [Stripe.finalized] at done
    cases found : stripe.invoice other with
    | none => simp [found] at done
    | some invoice => rfl
  · rw [if_neg same]
    exact done

theorem create_item_cases (stripe next : Stripe) (family : KeyFamily) (target : InvoiceId) (line : CentLine)
    (created : stripe.createItem family target line = some next) :
    (next = stripe ∧ OnInvoice stripe target line.index) ∨
      (stripe.finalized target = false ∧ (∀ item ∈ stripe.items, item.key ≠ (family, line.index)) ∧
        next = { stripe with
          items := stripe.items ++ [{ family := family, index := line.index, invoice := target, cents := line.cents }] }) := by
  rw [Stripe.createItem] at created
  cases found : stripe.itemAt family line.index with
  | some item =>
      obtain ⟨stored, keyed⟩ := find_key_some InvoiceItem.key _ stripe.items item found
      rw [InvoiceItem.key, Prod.mk.injEq] at keyed
      rw [found] at created
      simp only at created
      by_cases same : item.invoice = target ∧ item.cents = line.cents
      · rw [if_pos same, Option.some.injEq] at created
        exact .inl ⟨created.symm, item, stored, same.1, keyed.2⟩
      · rw [if_neg same] at created
        cases created
  | none =>
      rw [found] at created
      simp only at created
      by_cases draft : stripe.known target = true ∧ stripe.finalized target = false
      · rw [if_pos draft, Option.some.injEq] at created
        exact .inr ⟨draft.2, find_key_none InvoiceItem.key _ stripe.items found, created.symm⟩
      · rw [if_neg draft] at created
        cases created

theorem append_item_grows (stripe : Stripe) (item : InvoiceItem) (draft : stripe.finalized item.invoice = false) :
    Grows stripe { stripe with items := stripe.items ++ [item] } := by
  refine ⟨fun _ member => List.mem_append_left _ member, fun _ done => done, ?_⟩
  intro other member done
  rcases List.mem_append.mp member with old | new
  · exact old
  · rw [List.mem_singleton.mp new] at done
    rw [draft] at done
    cases done

theorem finalize_invoice_cases (stripe next : Stripe) (family : KeyFamily) (target : InvoiceId)
    (done : stripe.finalizeInvoice family target = some next) :
    next = stripe ∨ next = { stripe.finish target with finalizeKeys := (family, target) :: stripe.finalizeKeys } := by
  rw [Stripe.finalizeInvoice] at done
  split at done
  · split at done
    · exact .inl (Option.some.inj done).symm
    · cases done
  · split at done
    · exact .inr (Option.some.inj done).symm
    · cases done

structure StripeOk (mode : Mode) (lines : List CentLine) (stripe : Stripe) : Prop where
  keys : (stripe.items.map InvoiceItem.key).Nodup
  routed : ∀ item ∈ stripe.items,
    Route mode stripe item.family item.invoice ∧ ¬ ServedBefore stripe item.family item.index
  closed : ∀ id, id.minted = true → stripe.finalized id = true →
    mode ≠ .undecided ∧ ∀ line ∈ lines, Billed stripe line.index
  fresh : mode = .undecided → ∀ renewal, stripe.known (.remainder renewal) = false

-- The two families that may serve one index exclude each other: a remainder
-- takes only what the renewal lacks.
theorem one_item_an_index (mode : Mode) (lines : List CentLine) (stripe : Stripe) (ok : StripeOk mode lines stripe)
    (first second : InvoiceItem) (firstIn : first ∈ stripe.items) (secondIn : second ∈ stripe.items)
    (same : first.index = second.index) : first.family = second.family := by
  obtain ⟨firstRoute, firstAbsent⟩ := ok.routed first firstIn
  obtain ⟨secondRoute, secondAbsent⟩ := ok.routed second secondIn
  cases mode with
  | undecided => exact firstRoute.elim
  | own =>
      cases firstFamily : first.family with
      | standalone =>
          cases secondFamily : second.family with
          | standalone => rfl
          | consolidated other => rw [secondFamily] at secondRoute; exact secondRoute.elim
          | remainder other => rw [secondFamily] at secondRoute; exact secondRoute.elim
      | consolidated other => rw [firstFamily] at firstRoute; exact firstRoute.elim
      | remainder other => rw [firstFamily] at firstRoute; exact firstRoute.elim
  | joined renewal =>
      cases firstFamily : first.family with
      | standalone => rw [firstFamily] at firstRoute; exact firstRoute.elim
      | consolidated firstOther =>
          rw [firstFamily] at firstRoute
          cases secondFamily : second.family with
          | standalone => rw [secondFamily] at secondRoute; exact secondRoute.elim
          | consolidated secondOther =>
              rw [secondFamily] at secondRoute
              rw [firstRoute.1, secondRoute.1]
          | remainder secondOther =>
              rw [secondFamily] at secondRoute secondAbsent
              rw [secondRoute.1] at secondAbsent
              exact absurd ⟨first, firstIn, firstRoute.2, same⟩ secondAbsent
      | remainder firstOther =>
          rw [firstFamily] at firstRoute firstAbsent
          cases secondFamily : second.family with
          | standalone => rw [secondFamily] at secondRoute; exact secondRoute.elim
          | consolidated secondOther =>
              rw [secondFamily] at secondRoute
              rw [firstRoute.1] at firstAbsent
              exact absurd ⟨second, secondIn, secondRoute.2, same.symm⟩ firstAbsent
          | remainder secondOther =>
              rw [secondFamily] at secondRoute
              rw [firstRoute.1, secondRoute.1]

def billedTimes (stripe : Stripe) (index : Nat) : Nat := stripe.items.countP (fun item => decide (item.index = index))

theorem billed_at_most_once (mode : Mode) (lines : List CentLine) (stripe : Stripe) (ok : StripeOk mode lines stripe)
    (index : Nat) : billedTimes stripe index ≤ 1 := by
  have indexes : (stripe.items.map (fun item => item.index)).Nodup := by
    have distinct := ok.keys
    rw [List.Nodup, List.pairwise_map] at distinct ⊢
    apply distinct.imp_of_mem
    intro first second firstIn secondIn differs same
    apply differs
    rw [InvoiceItem.key, InvoiceItem.key, one_item_an_index mode lines stripe ok first second firstIn secondIn same, same]
  have counted := List.nodup_iff_count_le_one.mp indexes index
  rw [List.count, List.countP_map] at counted
  exact counted

theorem billed_once (mode : Mode) (lines : List CentLine) (stripe : Stripe) (ok : StripeOk mode lines stripe)
    (index : Nat) (billed : Billed stripe index) : billedTimes stripe index = 1 := by
  obtain ⟨item, member, same⟩ := billed
  have positive : 0 < billedTimes stripe index := List.countP_pos_iff.mpr ⟨item, member, by simp [same]⟩
  have bounded := billed_at_most_once mode lines stripe ok index
  omega

end Ubb.Invoicing
