import Ubb.Invoicing.Carry
import Ubb.Library.Runs

set_option autoImplicit false

namespace Ubb.Invoicing

open Ubb.Library

-- The families of idempotency keys of one row: the plain ones, those of items
-- pinned on a renewal, and those of the remainder a renewal left behind.
inductive KeyFamily where
  | standalone
  | consolidated (renewal : Nat)
  | remainder (renewal : Nat)
deriving DecidableEq, Repr

-- The invoices that carry the row's metadata, which is what the lookup matches.
def InvoiceId.minted : InvoiceId → Bool
  | .standalone => true
  | .remainder _ => true
  | .renewal _ => false

structure StripeInvoice where
  id : InvoiceId
  finalized : Bool
deriving DecidableEq, Repr

-- An item remembers the key it was created under.
structure InvoiceItem where
  family : KeyFamily
  index : Nat
  invoice : InvoiceId
  cents : Int
deriving DecidableEq, Repr

def InvoiceItem.key (item : InvoiceItem) : KeyFamily × Nat := (item.family, item.index)

structure Stripe where
  invoices : List StripeInvoice
  items : List InvoiceItem
  finalizeKeys : List (KeyFamily × InvoiceId)
deriving DecidableEq, Repr

def Stripe.invoice (stripe : Stripe) (id : InvoiceId) : Option StripeInvoice :=
  stripe.invoices.find? (fun invoice => decide (invoice.id = id))

def Stripe.known (stripe : Stripe) (id : InvoiceId) : Bool := (stripe.invoice id).isSome

def Stripe.finalized (stripe : Stripe) (id : InvoiceId) : Bool := (stripe.invoice id).any StripeInvoice.finalized

-- Creating under a key that made an invoice already answers with that invoice.
def Stripe.createInvoice (stripe : Stripe) (id : InvoiceId) : Stripe :=
  if stripe.known id then stripe else { stripe with invoices := stripe.invoices ++ [{ id := id, finalized := false }] }

def Stripe.finish (stripe : Stripe) (id : InvoiceId) : Stripe :=
  { stripe with
    invoices := updateRow (fun invoice => invoice.id) id (fun invoice => { invoice with finalized := true }) stripe.invoices }

def Stripe.itemAt (stripe : Stripe) (family : KeyFamily) (index : Nat) : Option InvoiceItem :=
  stripe.items.find? (fun item => decide (item.key = (family, index)))

-- A used key replays its item for the same request and refuses any other; a
-- fresh one needs a draft. A refusal is fatal to the caller.
def Stripe.createItem (stripe : Stripe) (family : KeyFamily) (target : InvoiceId) (line : CentLine) : Option Stripe :=
  match stripe.itemAt family line.index with
  | some item => if item.invoice = target ∧ item.cents = line.cents then some stripe else none
  | none =>
      if stripe.known target = true ∧ stripe.finalized target = false then
        some { stripe with
          items := stripe.items ++ [{ family := family, index := line.index, invoice := target, cents := line.cents }] }
      else none

def Stripe.finalizeInvoice (stripe : Stripe) (family : KeyFamily) (target : InvoiceId) : Option Stripe :=
  match stripe.finalizeKeys.find? (fun used => decide (used.1 = family)) with
  | some used => if used.2 = target then some stripe else none
  | none =>
      if stripe.known target = true ∧ stripe.finalized target = false then
        some { stripe.finish target with finalizeKeys := (family, target) :: stripe.finalizeKeys }
      else none

def Stripe.indexesOn (stripe : Stripe) (target : InvoiceId) : List Nat :=
  (stripe.items.filter (fun item => decide (item.invoice = target))).map (fun item => item.index)

-- Where a push stands between its claim and its record. Each stage is one call
-- to Stripe or one write to the row, with what the push remembers from before.
inductive Stage where
  | lookup (pointer : Option InvoiceId) (kind : InvoiceKind)
  | resolve
  | create
  | persistOwn (target : InvoiceId) (finalized created : Bool)
  | persistConsolidated (renewal : Nat) (finalized : Bool)
  | list (family : KeyFamily) (target : InvoiceId) (lines : List CentLine)
  | pin (family : KeyFamily) (target : InvoiceId) (existing : List Nat) (lines : List CentLine)
  | finalize (family : KeyFamily) (target : InvoiceId)
  | recheck (renewal : Nat)
  | diff (renewal : Nat)
  | findRemainder (renewal : Nat) (missing : List CentLine)
  | createRemainder (renewal : Nat) (missing : List CentLine)
  | note (target : InvoiceId)
  | record (invoice : Option InvoiceId)
  | raised
deriving DecidableEq, Repr

structure Pusher where
  lines : List Line
  carryIn : Int
  stage : Stage
deriving DecidableEq, Repr

def Pusher.centLines (pusher : Pusher) : List CentLine := (floorLines 0 pusher.lines pusher.carryIn).1

structure Moved where
  row : UsageInvoice
  stripe : Stripe
  stage : Option Stage
deriving DecidableEq, Repr

-- The answer of the two listings. Which of the row's own invoices comes first,
-- and whether a renewal draft is still young enough, is Stripe's to say; that an
-- invoice of ours exists and is not answered is not.
def foundOwn (stripe : Stripe) (answer : Option InvoiceId) : Prop :=
  match answer with
  | some id => id.minted = true ∧ stripe.known id = true
  | none => ∀ invoice ∈ stripe.invoices, invoice.id.minted = false

instance (stripe : Stripe) : (answer : Option InvoiceId) → Decidable (foundOwn stripe answer)
  | some _ => inferInstanceAs (Decidable (_ ∧ _))
  | none => inferInstanceAs (Decidable (∀ invoice ∈ _, _))

def advance (row : UsageInvoice) (stripe : Stripe) (pusher : Pusher) (answer : Option InvoiceId) : Option Moved :=
  let goes (stage : Stage) : Option Moved := some { row := row, stripe := stripe, stage := some stage }
  match pusher.stage with
  | .lookup pointer kind =>
      if pusher.centLines = [] then goes (.record none)
      else
        match pointer with
        | some id =>
            if stripe.known id = false then goes .raised
            else
              match id, kind with
              | .renewal number, .consolidated => goes (.persistConsolidated number (stripe.finalized id))
              | _, _ => goes (.persistOwn id (stripe.finalized id) false)
        | none =>
            if foundOwn stripe answer then
              match answer with
              | some id => goes (.persistOwn id (stripe.finalized id) false)
              | none => goes .resolve
            else none
  | .resolve =>
      match answer with
      | none => goes .create
      | some (.renewal number) =>
          if stripe.known (.renewal number) = true ∧ stripe.finalized (.renewal number) = false then
            goes (.persistConsolidated number false)
          else none
      | some _ => none
  | .create =>
      some { row := row, stripe := stripe.createInvoice .standalone, stage := some (.persistOwn .standalone false true) }
  | .persistOwn target finalized created =>
      if row.status = .pushing then
        some { row := persistTarget target .standalone row, stripe := stripe
               stage := some
                (if created then .pin .standalone target [] pusher.centLines
                 else if finalized then .note target
                 else .list .standalone target pusher.centLines) }
      else goes .raised
  | .persistConsolidated renewal finalized =>
      if row.status = .pushing then
        some { row := persistTarget (.renewal renewal) .consolidated row, stripe := stripe
               stage := some
                (if finalized then .diff renewal
                 else .list (.consolidated renewal) (.renewal renewal) pusher.centLines) }
      else goes .raised
  | .list family target lines => goes (.pin family target (stripe.indexesOn target) lines)
  | .pin family target existing (line :: rest) =>
      if line.index ∈ existing then goes (.pin family target existing rest)
      else
        match stripe.createItem family target line with
        | some next => some { row := row, stripe := next, stage := some (.pin family target existing rest) }
        | none =>
            match family with
            | .consolidated renewal => goes (.recheck renewal)
            | _ => goes .raised
  | .pin family target _ [] =>
      match family with
      | .standalone => some { row := notePhase .itemsPinned row, stripe := stripe, stage := some (.finalize family target) }
      | .consolidated _ => some { row := notePhase .itemsPinned row, stripe := stripe, stage := some (.record (some target)) }
      | .remainder _ => goes (.finalize family target)
  | .finalize family target =>
      match stripe.finalizeInvoice family target with
      | some next => some { row := row, stripe := next, stage := some (.note target) }
      | none => goes .raised
  | .recheck renewal => if stripe.finalized (.renewal renewal) then goes (.diff renewal) else goes .raised
  | .diff renewal =>
      let missing := pusher.centLines.filter (fun line => decide (line.index ∉ stripe.indexesOn (.renewal renewal)))
      if missing = [] then goes (.note (.renewal renewal)) else goes (.findRemainder renewal missing)
  | .findRemainder renewal missing =>
      if foundOwn stripe answer then
        match answer with
        | some id => if stripe.finalized id then goes (.note id) else goes (.list (.remainder renewal) id missing)
        | none => goes (.createRemainder renewal missing)
      else none
  | .createRemainder renewal missing =>
      some { row := row, stripe := stripe.createInvoice (.remainder renewal)
             stage := some (.pin (.remainder renewal) (.remainder renewal) [] missing) }
  | .note target => some { row := notePhase .finalized row, stripe := stripe, stage := some (.record (some target)) }
  | .record invoice =>
      let floored := floorLines 0 pusher.lines pusher.carryIn
      some { row := whilePushing (recordPush invoice (centTotal floored.1) floored.2) row, stripe := stripe, stage := none }
  | .raised => none

structure Billing where
  row : UsageInvoice
  stripe : Stripe
  pushers : List Pusher
deriving DecidableEq, Repr

def Billing.start (month : Nat) : Billing :=
  { row := UsageInvoice.new month, stripe := { invoices := [], items := [], finalizeKeys := [] }, pushers := [] }

inductive BillingEvent where
  | renewalAppears (renewal : Nat)
  | renewalFinalizes (renewal : Nat)
  | claim (ledgerMicros : Int) (read : ClaimRead)
  | raiseClaim (now : Int)
  | advance (pusher : Pusher) (answer : Option InvoiceId)
  | fail (pusher : Pusher)
  | park (pusher : Pusher)
  | reclaim
deriving DecidableEq, Repr

def billingStep (billing : Billing) : BillingEvent → Billing
  | .renewalAppears renewal => { billing with stripe := billing.stripe.createInvoice (.renewal renewal) }
  | .renewalFinalizes renewal => { billing with stripe := billing.stripe.finish (.renewal renewal) }
  | .claim ledgerMicros read =>
      match claimPeriod read ledgerMicros billing.row with
      | .returned next => { billing with row := next }
      | .taken next _ =>
          { billing with
            row := next
            pushers :=
              { lines := next.lineSnapshot, carryIn := next.carryInMicros.getD 0
                stage := .lookup next.stripeInvoiceId next.invoiceKind } :: billing.pushers }
  | .raiseClaim now => { billing with row := countRaisedClaim now billing.row }
  | .advance pusher answer =>
      if pusher ∈ billing.pushers then
        match advance billing.row billing.stripe pusher answer with
        | none => billing
        | some moved =>
            { row := moved.row, stripe := moved.stripe
              pushers :=
                (moved.stage.map (fun stage => { pusher with stage := stage })).toList ++ billing.pushers.erase pusher }
      else billing
  | .fail pusher =>
      if pusher ∈ billing.pushers then
        { billing with row := failPush billing.row, pushers := billing.pushers.erase pusher }
      else billing
  | .park pusher =>
      if pusher ∈ billing.pushers then
        { billing with row := parkPush billing.row, pushers := billing.pushers.erase pusher }
      else billing
  | .reclaim => { billing with row := reclaimStale billing.row }

end Ubb.Invoicing
