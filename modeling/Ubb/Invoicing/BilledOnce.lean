import Ubb.Invoicing.Billing

set_option autoImplicit false

namespace Ubb.Invoicing

open Ubb.Library

def Stage.persists : Stage → Option InvoiceId
  | .persistOwn target _ _ => some target
  | .persistConsolidated renewal _ => some (.renewal renewal)
  | _ => none

-- The guard of the pointer write asks only whether the row reads `pushing`. A
-- push whose claim was taken over passes it again once the row is reclaimed, and
-- then moves the pointer from the invoice its successor chose to its own.
def RepointsRow (billing : Billing) : BillingEvent → Prop
  | .advance pusher _ =>
      pusher ∈ billing.pushers ∧ billing.row.status = .pushing ∧ pusher.stage.persists ≠ none ∧
        billing.row.stripeInvoiceId ≠ none ∧ billing.row.stripeInvoiceId ≠ pusher.stage.persists
  | _ => False

instance (billing : Billing) : (event : BillingEvent) → Decidable (RepointsRow billing event)
  | .advance _ _ => inferInstanceAs (Decidable (_ ∧ _))
  | .renewalAppears _ => isFalse id
  | .renewalFinalizes _ => isFalse id
  | .claim _ _ => isFalse id
  | .raiseClaim _ => isFalse id
  | .fail _ => isFalse id
  | .park _ => isFalse id
  | .reclaim => isFalse id

theorem pointer_kept (billing : Billing) (pusher : Pusher) (answer : Option InvoiceId) (target : InvoiceId)
    (member : pusher ∈ billing.pushers) (persists : pusher.stage.persists = some target)
    (kept : ¬ RepointsRow billing (.advance pusher answer)) (pushing : billing.row.status = .pushing) :
    billing.row.stripeInvoiceId = none ∨ billing.row.stripeInvoiceId = some target := by
  by_cases absent : billing.row.stripeInvoiceId = none
  · exact .inl absent
  · right
    by_contra different
    exact kept ⟨member, pushing, by simp [persists], absent, by rw [persists]; exact different⟩

theorem advance_leads (mode : Mode) (billing : Billing) (pusher : Pusher) (answer : Option InvoiceId) (moved : Moved)
    (ok : BillingOk mode billing) (member : pusher ∈ billing.pushers)
    (kept : ¬ RepointsRow billing (.advance pusher answer))
    (advanced : advance billing.row billing.stripe pusher answer = some moved) : ∃ next, Leads mode next billing moved := by
  obtain ⟨holds, stage⟩ := ok.pushers pusher member
  cases here : pusher.stage with
  | lookup pointer kind =>
      rw [here] at stage
      exact ⟨mode, lookup_leads mode billing pusher answer moved ok holds advanced pointer kind here stage⟩
  | resolve => exact ⟨mode, resolve_leads mode billing pusher answer moved ok advanced here⟩
  | create => exact ⟨mode, create_leads mode billing pusher answer moved ok advanced here⟩
  | persistOwn target finalized created =>
      rw [here] at stage
      exact persist_own_leads mode billing pusher answer moved ok holds advanced target finalized created here stage
        (pointer_kept billing pusher answer target member (by rw [here]; rfl) kept)
  | persistConsolidated renewal finalized =>
      rw [here] at stage
      exact persist_consolidated_leads mode billing pusher answer moved ok holds advanced renewal finalized here stage
        (pointer_kept billing pusher answer (.renewal renewal) member (by rw [here]; rfl) kept)
  | list family target todo =>
      rw [here] at stage
      exact ⟨mode, list_leads mode billing pusher answer moved ok advanced family target todo here stage⟩
  | pin family target existing todo =>
      rw [here] at stage
      cases todo with
      | nil => exact ⟨mode, pinned_leads mode billing pusher answer moved ok advanced family target existing here stage⟩
      | cons line rest =>
          exact ⟨mode, pin_leads mode billing pusher answer moved ok advanced family target existing line rest here stage⟩
  | finalize family target =>
      rw [here] at stage
      exact ⟨mode, finalize_leads mode billing pusher answer moved ok advanced family target here stage⟩
  | recheck renewal =>
      rw [here] at stage
      exact ⟨mode, recheck_leads mode billing pusher answer moved ok advanced renewal here stage⟩
  | diff renewal =>
      rw [here] at stage
      exact ⟨mode, diff_leads mode billing pusher answer moved ok holds advanced renewal here stage⟩
  | findRemainder renewal missing =>
      rw [here] at stage
      exact ⟨mode, find_remainder_leads mode billing pusher answer moved ok advanced renewal missing here stage⟩
  | createRemainder renewal missing =>
      rw [here] at stage
      exact ⟨mode, create_remainder_leads mode billing pusher answer moved ok advanced renewal missing here stage⟩
  | note target =>
      rw [here] at stage
      exact ⟨mode, note_leads mode billing pusher answer moved ok advanced target here stage⟩
  | record invoice =>
      rw [here] at stage
      exact ⟨mode, record_leads mode billing pusher answer moved ok advanced invoice here stage⟩
  | raised => simp [advance, here] at advanced

theorem billing_step_ok (billing : Billing) (event : BillingEvent) (ok : ∃ mode, BillingOk mode billing)
    (kept : ¬ RepointsRow billing event) : ∃ mode, BillingOk mode (billingStep billing event) := by
  obtain ⟨mode, ok⟩ := ok
  cases event with
  | renewalAppears renewal =>
      refine ⟨mode, stripe_moves_ok mode billing _ (create_invoice_grows billing.stripe _) ?_ ok⟩
      apply create_invoice_ok mode _ billing.stripe (.renewal renewal) _ ok.stripe
      intro _ other impossible
      cases impossible
  | renewalFinalizes renewal =>
      refine ⟨mode, stripe_moves_ok mode billing _ (finish_grows billing.stripe _) ?_ ok⟩
      apply finish_ok mode _ billing.stripe (.renewal renewal) _ ok.stripe
      intro impossible
      cases impossible
  | claim ledgerMicros read => exact ⟨mode, claim_ok mode billing ledgerMicros read ok⟩
  | raiseClaim now =>
      exact ⟨mode, kept_ok mode billing _ billing.pushers (count_raised_kept now billing.row) (fun _ member => member) ok⟩
  | advance pusher answer =>
      by_cases member : pusher ∈ billing.pushers
      · rw [billingStep, if_pos member]
        cases advanced : Ubb.Invoicing.advance billing.row billing.stripe pusher answer with
        | none => exact ⟨mode, ok⟩
        | some moved =>
            obtain ⟨next, leads⟩ := advance_leads mode billing pusher answer moved ok member kept advanced
            exact ⟨next, leads_ok mode next billing pusher moved ok member leads⟩
      · rw [billingStep, if_neg member]
        exact ⟨mode, ok⟩
  | fail pusher =>
      by_cases member : pusher ∈ billing.pushers
      · rw [billingStep, if_pos member]
        exact ⟨mode, kept_ok mode billing _ _ (fail_push_kept billing.row) (fun _ inside => List.mem_of_mem_erase inside) ok⟩
      · rw [billingStep, if_neg member]
        exact ⟨mode, ok⟩
  | park pusher =>
      by_cases member : pusher ∈ billing.pushers
      · rw [billingStep, if_pos member]
        exact ⟨mode, kept_ok mode billing _ _ (park_push_kept billing.row) (fun _ inside => List.mem_of_mem_erase inside) ok⟩
      · rw [billingStep, if_neg member]
        exact ⟨mode, ok⟩
  | reclaim =>
      exact ⟨mode, kept_ok mode billing _ billing.pushers (reclaim_stale_kept billing.row) (fun _ member => member) ok⟩

theorem lines_billed_once_unless_repointed (month : Nat) (events reached : List BillingEvent)
    (kept : Along billingStep (fun billing event => ¬ RepointsRow billing event) (Billing.start month) events)
    (stage : reached <+: events) :
    ∀ line ∈ frozenCentLines (run billingStep (Billing.start month) reached).row,
      billedTimes (run billingStep (Billing.start month) reached).stripe line.index ≤ 1 ∧
      ((run billingStep (Billing.start month) reached).row.status = .pushed →
        billedTimes (run billingStep (Billing.start month) reached).stripe line.index = 1) := by
  obtain ⟨mode, ok⟩ := along_invariant_throughout billingStep (fun billing => ∃ mode, BillingOk mode billing) _
    billing_step_ok (Billing.start month) events reached ⟨.undecided, start_ok month⟩ kept stage
  intro line member
  refine ⟨billed_at_most_once mode _ _ ok.stripe line.index, ?_⟩
  intro pushed
  exact billed_once mode _ _ ok.stripe line.index (ok.row.complete pushed line member)

-- A renewal that Stripe finalizes between the two pins: the second line goes to
-- a remainder, and each is billed once.
def splitLines : List Line := [⟨"api", 15000⟩, ⟨"storage", 12000⟩]

def splitRead : ClaimRead :=
  { lines := splitLines, recordedAnything := true, hasStripeCustomer := true, chargeReady := true, railOpen := true
    now := 0, maxAttempts := 8, maxAgeSeconds := 72000 }

def splitPush (stage : Stage) (answer : Option InvoiceId) : BillingEvent :=
  .advance { lines := splitLines, carryIn := 0, stage := stage } answer

def apiLine : CentLine := { index := 0, label := "api", cents := 1, amountMicros := 15000 }

def storageLine : CentLine := { index := 1, label := "storage", cents := 1, amountMicros := 12000 }

def splitRun : List BillingEvent :=
  [.renewalAppears 7, .claim 0 splitRead, splitPush (.lookup none .standalone) none,
    splitPush .resolve (some (.renewal 7)), splitPush (.persistConsolidated 7 false) none,
    splitPush (.list (.consolidated 7) (.renewal 7) [apiLine, storageLine]) none,
    splitPush (.pin (.consolidated 7) (.renewal 7) [] [apiLine, storageLine]) none, .renewalFinalizes 7,
    splitPush (.pin (.consolidated 7) (.renewal 7) [] [storageLine]) none, splitPush (.recheck 7) none,
    splitPush (.diff 7) none, splitPush (.findRemainder 7 [storageLine]) none,
    splitPush (.createRemainder 7 [storageLine]) none,
    splitPush (.pin (.remainder 7) (.remainder 7) [] [storageLine]) none,
    splitPush (.pin (.remainder 7) (.remainder 7) [] []) none, splitPush (.finalize (.remainder 7) (.remainder 7)) none,
    splitPush (.note (.remainder 7)) none, splitPush (.record (some (.remainder 7))) none]

theorem split_lines_billed_once :
    frozenCentLines (run billingStep (Billing.start 1) splitRun).row = [apiLine, storageLine] ∧
      ∀ line ∈ frozenCentLines (run billingStep (Billing.start 1) splitRun).row,
        billedTimes (run billingStep (Billing.start 1) splitRun).stripe line.index = 1 := by
  refine ⟨by decide, ?_⟩
  intro line member
  exact (lines_billed_once_unless_repointed 1 splitRun splitRun (by decide) (List.prefix_refl _) line member).2 (by decide)

-- The first push resolves a renewal draft and stalls before its pointer write;
-- the row is reclaimed, and the second push finds the window missed, mints its
-- own invoice and pins the line there. The first push wakes up: the row reads
-- `pushing` again, its write lands, and it pins the line on the renewal as well.
def stalledRead : ClaimRead := { splitRead with lines := [⟨"api", 15000⟩] }

def stalledPush (stage : Stage) (answer : Option InvoiceId) : BillingEvent :=
  .advance { lines := [⟨"api", 15000⟩], carryIn := 0, stage := stage } answer

def stalledRun : List BillingEvent :=
  [.renewalAppears 7, .claim 0 stalledRead, stalledPush (.lookup none .standalone) none,
    stalledPush .resolve (some (.renewal 7)), .reclaim, .claim 0 stalledRead,
    stalledPush (.lookup none .standalone) none, stalledPush .resolve none, stalledPush .create none,
    stalledPush (.persistOwn .standalone false true) none,
    stalledPush (.pin .standalone .standalone [] [apiLine]) none, stalledPush (.persistConsolidated 7 false) none,
    stalledPush (.list (.consolidated 7) (.renewal 7) [apiLine]) none,
    stalledPush (.pin (.consolidated 7) (.renewal 7) [] [apiLine]) none]

theorem stalled_push_bills_the_line_twice :
    ¬ ∀ line ∈ frozenCentLines (run billingStep (Billing.start 1) stalledRun).row,
      billedTimes (run billingStep (Billing.start 1) stalledRun).stripe line.index ≤ 1 := by
  decide

end Ubb.Invoicing
