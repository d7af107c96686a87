import Ubb.Invoicing.Pinning

set_option autoImplicit false

namespace Ubb.Invoicing

open Ubb.Library

def frozenCentLines (row : UsageInvoice) : List CentLine :=
  (floorLines 0 row.lineSnapshot (row.carryInMicros.getD 0)).1

def Holds (row : UsageInvoice) (pusher : Pusher) : Prop :=
  row.lineSnapshot ≠ [] ∧ pusher.lines = row.lineSnapshot ∧ row.carryInMicros = some pusher.carryIn

theorem holds_cent_lines (row : UsageInvoice) (pusher : Pusher) (holds : Holds row pusher) :
    pusher.centLines = frozenCentLines row := by
  rw [Pusher.centLines, frozenCentLines, holds.2.1, holds.2.2]
  rfl

def PointerOk (mode : Mode) (row : UsageInvoice) : Prop :=
  match mode with
  | .undecided => row.stripeInvoiceId = none ∧ row.status ≠ .pushed
  | .own => row.stripeInvoiceId = some .standalone
  | .joined renewal =>
      row.status = .pushed ∨ (row.stripeInvoiceId = some (.renewal renewal) ∧ row.invoiceKind = .consolidated)

structure RowOk (mode : Mode) (stripe : Stripe) (row : UsageInvoice) : Prop where
  pointer : PointerOk mode row
  complete : row.status = .pushed → ∀ line ∈ frozenCentLines row, Billed stripe line.index
  started : mode ≠ .undecided → row.lineSnapshot ≠ []
  pinned : row.lineSnapshot ≠ [] → row.carryInMicros ≠ none

structure BillingOk (mode : Mode) (billing : Billing) : Prop where
  stripe : StripeOk mode (frozenCentLines billing.row) billing.stripe
  row : RowOk mode billing.stripe billing.row
  pushers : ∀ pusher ∈ billing.pushers,
    Holds billing.row pusher ∧ StageOk mode (frozenCentLines billing.row) billing.stripe pusher.stage

theorem start_ok (month : Nat) : BillingOk .undecided (Billing.start month) := by
  refine ⟨⟨List.nodup_nil, by simp [Billing.start], ?_, by simp [Billing.start, Stripe.known, Stripe.invoice]⟩,
    ⟨⟨rfl, by simp [Billing.start, UsageInvoice.new]⟩, by simp [Billing.start, UsageInvoice.new], by simp,
      by simp [Billing.start, UsageInvoice.new]⟩, by simp [Billing.start]⟩
  simp [Billing.start, Stripe.finalized, Stripe.invoice]

structure RowKept (before after : UsageInvoice) : Prop where
  lines : after.lineSnapshot = before.lineSnapshot
  carry : after.carryInMicros = before.carryInMicros
  pointer : after.stripeInvoiceId = before.stripeInvoiceId
  kind : after.invoiceKind = before.invoiceKind
  pushed : after.status = .pushed ↔ before.status = .pushed

theorem RowKept.refl (row : UsageInvoice) : RowKept row row := ⟨rfl, rfl, rfl, rfl, Iff.rfl⟩

theorem while_pushing_kept (write : UsageInvoice → UsageInvoice) (row : UsageInvoice)
    (columns : (write row).lineSnapshot = row.lineSnapshot ∧ (write row).carryInMicros = row.carryInMicros ∧
      (write row).stripeInvoiceId = row.stripeInvoiceId ∧ (write row).invoiceKind = row.invoiceKind)
    (open_after : row.status = .pushing → (write row).status ≠ .pushed) : RowKept row (whilePushing write row) := by
  rw [whilePushing]
  by_cases pushing : row.status = .pushing
  · rw [if_pos pushing]
    refine ⟨columns.1, columns.2.1, columns.2.2.1, columns.2.2.2, ?_⟩
    simp [pushing, open_after pushing]
  · rw [if_neg pushing]
    exact RowKept.refl row

theorem fail_push_kept (row : UsageInvoice) : RowKept row (failPush row) :=
  while_pushing_kept _ row ⟨rfl, rfl, rfl, rfl⟩ (fun _ => by simp)

theorem park_push_kept (row : UsageInvoice) : RowKept row (parkPush row) :=
  while_pushing_kept _ row ⟨rfl, rfl, rfl, rfl⟩ (fun _ => by simp)

theorem reclaim_stale_kept (row : UsageInvoice) : RowKept row (reclaimStale row) :=
  while_pushing_kept _ row ⟨rfl, rfl, rfl, rfl⟩ (fun _ => by simp)

theorem note_phase_kept (phase : PushPhase) (row : UsageInvoice) : RowKept row (notePhase phase row) :=
  while_pushing_kept _ row ⟨rfl, rfl, rfl, rfl⟩ (fun pushing => by simp [pushing])

theorem count_raised_kept (now : Int) (row : UsageInvoice) : RowKept row (countRaisedClaim now row) := by
  rw [countRaisedClaim]
  by_cases counted : row.status = .pending ∨ row.status = .failed
  · rw [if_pos counted]
    refine ⟨rfl, rfl, rfl, rfl, ?_⟩
    rcases counted with pending | failed
    · simp [pending]
    · simp [failed]
  · rw [if_neg counted]
    exact RowKept.refl row

theorem kept_lines (before after : UsageInvoice) (kept : RowKept before after) :
    frozenCentLines after = frozenCentLines before := by
  rw [frozenCentLines, frozenCentLines, kept.lines, kept.carry]

theorem kept_holds (before after : UsageInvoice) (pusher : Pusher) (kept : RowKept before after)
    (holds : Holds before pusher) : Holds after pusher := by
  rw [Holds, kept.lines, kept.carry]
  exact holds

theorem kept_row_ok (mode : Mode) (stripe : Stripe) (before after : UsageInvoice) (kept : RowKept before after)
    (ok : RowOk mode stripe before) : RowOk mode stripe after := by
  refine ⟨?_, ?_, ?_, ?_⟩
  · have pointer := ok.pointer
    cases mode with
    | undecided => exact ⟨kept.pointer.trans pointer.1, fun pushed => pointer.2 (kept.pushed.mp pushed)⟩
    | own => exact kept.pointer.trans pointer
    | joined renewal =>
        rcases pointer with pushed | ⟨same, kind⟩
        · exact .inl (kept.pushed.mpr pushed)
        · exact .inr ⟨kept.pointer.trans same, kept.kind.trans kind⟩
  · intro pushed
    rw [kept_lines before after kept]
    exact ok.complete (kept.pushed.mp pushed)
  · rw [kept.lines]
    exact ok.started
  · rw [kept.lines, kept.carry]
    exact ok.pinned

theorem kept_ok (mode : Mode) (billing : Billing) (next : UsageInvoice) (pushers : List Pusher)
    (kept : RowKept billing.row next) (fewer : ∀ pusher ∈ pushers, pusher ∈ billing.pushers)
    (ok : BillingOk mode billing) : BillingOk mode { billing with row := next, pushers := pushers } := by
  refine ⟨?_, kept_row_ok mode billing.stripe billing.row next kept ok.row, ?_⟩
  · show StripeOk mode (frozenCentLines next) billing.stripe
    rw [kept_lines billing.row next kept]
    exact ok.stripe
  · intro pusher member
    obtain ⟨holds, stage⟩ := ok.pushers pusher (fewer pusher member)
    refine ⟨kept_holds billing.row next pusher kept holds, ?_⟩
    show StageOk mode (frozenCentLines next) billing.stripe pusher.stage
    rw [kept_lines billing.row next kept]
    exact stage

theorem stripe_ok_grows (mode : Mode) (lines : List CentLine) (before after : Stripe) (grows : Grows before after)
    (same : after.items = before.items)
    (closed : ∀ id, id.minted = true → after.finalized id = true → before.finalized id = true ∨
      (mode ≠ .undecided ∧ ∀ line ∈ lines, Billed before line.index))
    (fresh : mode = .undecided → ∀ renewal, after.known (.remainder renewal) = before.known (.remainder renewal))
    (ok : StripeOk mode lines before) : StripeOk mode lines after := by
  refine ⟨?_, ?_, ?_, ?_⟩
  · rw [same]
    exact ok.keys
  · intro item member
    rw [same] at member
    obtain ⟨route, absent⟩ := ok.routed item member
    exact ⟨route_grows mode before after item.family item.invoice grows route,
      not_served_grows mode before after item.family item.invoice item.index grows route absent⟩
  · intro id minted done
    have earlier : mode ≠ .undecided ∧ ∀ line ∈ lines, Billed before line.index := by
      rcases closed id minted done with already | now
      · exact ok.closed id minted already
      · exact now
    exact ⟨earlier.1, fun line member => billed_grows before after line.index grows (earlier.2 line member)⟩
  · intro undecided renewal
    rw [fresh undecided]
    exact ok.fresh undecided renewal

theorem stripe_ok_pinned (mode : Mode) (lines : List CentLine) (stripe : Stripe) (item : InvoiceItem)
    (draft : stripe.finalized item.invoice = false) (unused : ∀ other ∈ stripe.items, other.key ≠ item.key)
    (route : Route mode stripe item.family item.invoice) (absent : ¬ ServedBefore stripe item.family item.index)
    (ok : StripeOk mode lines stripe) : StripeOk mode lines { stripe with items := stripe.items ++ [item] } := by
  have grows := append_item_grows stripe item draft
  refine ⟨?_, ?_, ?_, ok.fresh⟩
  · exact nodup_add_row InvoiceItem.key stripe.items item ok.keys unused
  · intro other member
    have earlier : Route mode stripe other.family other.invoice ∧ ¬ ServedBefore stripe other.family other.index := by
      rcases List.mem_append.mp member with old | new
      · exact ok.routed other old
      · rw [List.mem_singleton.mp new]
        exact ⟨route, absent⟩
    exact ⟨route_grows mode _ _ other.family other.invoice grows earlier.1,
      not_served_grows mode _ _ other.family other.invoice other.index grows earlier.1 earlier.2⟩
  · intro id minted done
    obtain ⟨decided, billed⟩ := ok.closed id minted done
    exact ⟨decided, fun line member => billed_grows _ _ line.index grows (billed line member)⟩

theorem stripe_ok_decided (mode : Mode) (lines : List CentLine) (stripe : Stripe) (ok : StripeOk .undecided lines stripe)
    (decided : mode ≠ .undecided) : StripeOk mode lines stripe :=
  { keys := ok.keys
    routed := fun item member => (ok.routed item member).1.elim
    closed := fun id minted done => absurd rfl (ok.closed id minted done).1
    fresh := fun undecided => absurd undecided decided }

theorem create_invoice_ok (mode : Mode) (lines : List CentLine) (stripe : Stripe) (id : InvoiceId)
    (allowed : mode = .undecided → ∀ renewal, InvoiceId.remainder renewal ≠ id) (ok : StripeOk mode lines stripe) :
    StripeOk mode lines (stripe.createInvoice id) := by
  apply stripe_ok_grows mode lines stripe _ (create_invoice_grows stripe id) (create_invoice_items stripe id) _ _ ok
  · intro other _ done
    rw [create_invoice_finalized] at done
    exact .inl done
  · intro undecided renewal
    exact create_invoice_known stripe id _ (allowed undecided renewal)

theorem finish_ok (mode : Mode) (lines : List CentLine) (stripe : Stripe) (id : InvoiceId)
    (billed : id.minted = true → mode ≠ .undecided ∧ ∀ line ∈ lines, Billed stripe line.index)
    (ok : StripeOk mode lines stripe) : StripeOk mode lines (stripe.finish id) := by
  apply stripe_ok_grows mode lines stripe _ (finish_grows stripe id) rfl _ _ ok
  · intro other minted done
    by_cases same : other = id
    · rw [same] at minted
      exact .inr (billed minted)
    · rw [finish_finalized stripe id other same] at done
      exact .inl done
  · intro _ renewal
    exact finish_known stripe id _

theorem stripe_moves_ok (mode : Mode) (billing : Billing) (next : Stripe) (grows : Grows billing.stripe next)
    (stripe : StripeOk mode (frozenCentLines billing.row) next) (ok : BillingOk mode billing) :
    BillingOk mode { billing with stripe := next } := by
  refine ⟨stripe, ⟨ok.row.pointer, ?_, ok.row.started, ok.row.pinned⟩, ?_⟩
  · intro pushed line member
    exact billed_grows billing.stripe next line.index grows (ok.row.complete pushed line member)
  · intro pusher member
    obtain ⟨holds, stage⟩ := ok.pushers pusher member
    exact ⟨holds, stage_ok_grows mode _ billing.stripe next pusher.stage grows stage⟩

theorem join_ok (mode : Mode) (billing : Billing) (pusher : Pusher) (holds : Holds billing.row pusher)
    (stage : StageOk mode (frozenCentLines billing.row) billing.stripe pusher.stage) (ok : BillingOk mode billing) :
    BillingOk mode { billing with pushers := pusher :: billing.pushers } := by
  refine ⟨ok.stripe, ok.row, ?_⟩
  intro other member
  rcases List.mem_cons.mp member with here | earlier
  · rw [here]
    exact ⟨holds, stage⟩
  · exact ok.pushers other earlier

theorem lookup_ok (mode : Mode) (row : UsageInvoice) (lines : List CentLine) (stripe : Stripe) (pointer : PointerOk mode row)
    (unpushed : row.status ≠ .pushed) : StageOk mode lines stripe (.lookup row.stripeInvoiceId row.invoiceKind) := by
  cases mode with
  | undecided => exact .inl pointer.1
  | own => exact .inr (.inl ⟨rfl, pointer⟩)
  | joined renewal =>
      rcases pointer with pushed | ⟨same, kind⟩
      · exact absurd pushed unpushed
      · exact .inr (.inr ⟨renewal, rfl, same, kind⟩)

-- A first claim finds no push in flight and nothing of the row's in Stripe, so
-- the lines it freezes are free to be anything.
theorem first_claim_ok (billing : Billing) (next : UsageInvoice) (mode : Mode) (fresh : billing.row.lineSnapshot = [])
    (pointer : next.stripeInvoiceId = billing.row.stripeInvoiceId) (unpushed : next.status ≠ .pushed)
    (pinned : next.carryInMicros ≠ none) (ok : BillingOk mode billing) :
    BillingOk mode { billing with row := next } := by
  have undecided : mode = .undecided := by
    by_contra decided
    exact ok.row.started decided fresh
  subst undecided
  refine ⟨⟨ok.stripe.keys, ok.stripe.routed, ?_, ok.stripe.fresh⟩, ⟨?_, ?_, by simp, fun _ => pinned⟩, ?_⟩
  · intro id minted done
    exact absurd rfl (ok.stripe.closed id minted done).1
  · exact ⟨pointer.trans ok.row.pointer.1, unpushed⟩
  · intro pushed
    exact absurd pushed unpushed
  · intro pusher member
    exact absurd fresh (ok.pushers pusher member).1.1

theorem taken_ok (mode : Mode) (billing : Billing) (next : UsageInvoice) (read : ClaimRead) (ledgerMicros : Int)
    (some_line : claimLines read billing.row ≠ []) (unpushed : billing.row.status ≠ .pushed)
    (lines : next.lineSnapshot = claimLines read billing.row) (pushing : next.status = .pushing)
    (carry : next.carryInMicros = some (billing.row.carryInMicros.getD ledgerMicros))
    (pointer : next.stripeInvoiceId = billing.row.stripeInvoiceId) (kind : next.invoiceKind = billing.row.invoiceKind)
    (ok : BillingOk mode billing) :
    BillingOk mode
      { billing with
        row := next
        pushers :=
          { lines := next.lineSnapshot, carryIn := next.carryInMicros.getD 0
            stage := .lookup next.stripeInvoiceId next.invoiceKind } :: billing.pushers } := by
  have claimed : BillingOk mode { billing with row := next } := by
    by_cases fresh : billing.row.lineSnapshot = []
    · exact first_claim_ok billing next mode fresh pointer (by simp [pushing]) (by simp [carry]) ok
    · obtain ⟨held, pinned⟩ := Option.ne_none_iff_exists'.mp (ok.row.pinned fresh)
      have sameLines : next.lineSnapshot = billing.row.lineSnapshot := by rw [lines, claimLines, if_neg fresh]
      have sameCarry : next.carryInMicros = billing.row.carryInMicros := by rw [carry, pinned, Option.getD_some]
      exact kept_ok mode billing next billing.pushers
        ⟨sameLines, sameCarry, pointer, kind, by simp [pushing, unpushed]⟩ (fun _ member => member) ok
  refine join_ok mode { billing with row := next } _ ?_ ?_ claimed
  · exact ⟨by rw [lines]; exact some_line, rfl, by rw [carry]; rfl⟩
  · exact lookup_ok mode next _ _ claimed.row.pointer (by simp [pushing])

theorem claim_ok (mode : Mode) (billing : Billing) (ledgerMicros : Int) (read : ClaimRead) (ok : BillingOk mode billing) :
    BillingOk mode (billingStep billing (.claim ledgerMicros read)) := by
  have returns : ∀ next, claimPeriod read ledgerMicros billing.row = .returned next → RowKept billing.row next →
      BillingOk mode (billingStep billing (.claim ledgerMicros read)) := by
    intro next returned kept
    simp only [billingStep, returned]
    exact kept_ok mode billing next billing.pushers kept (fun _ member => member) ok
  rcases claim_cases read ledgerMicros billing.row with
    returned | ⟨unpushed, _, _, _, ⟨_, returned⟩ | ⟨reason, _, returned⟩ | ⟨goes, taken⟩⟩
  · exact returns _ returned (RowKept.refl billing.row)
  · exact returns _ returned ⟨rfl, rfl, rfl, rfl, by simp [unpushed]⟩
  · exact returns _ returned ⟨rfl, rfl, rfl, rfl, by simp [unpushed]⟩
  · simp only [billingStep, taken]
    exact taken_ok mode billing _ read ledgerMicros (unskipped_lines read _ goes) unpushed rfl rfl rfl rfl rfl ok

end Ubb.Invoicing
