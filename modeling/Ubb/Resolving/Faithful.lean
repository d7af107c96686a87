import Ubb.Resolving.Bags

set_option autoImplicit false

-- A run's answer beside the answer the event's own call would now get.
namespace Ubb.Resolving

open Library Pricing
open Work (CostingStatus PricingStatus PricingMode)

def asAnswered (config : Configuration) (given : TenantsAnswers) (subject : PricingSubject) : PricingSubject :=
  { subject with
    selectors :=
      match given.eventTypeKey with
      | none => subject.selectors
      | some key => fun name =>
        match name with
        | .eventType => key
        | .provider =>
          ((costDeclaration config subject.tenant key).map CostDeclaration.providerKey).getD
            (subject.selectors .provider)
        | other => subject.selectors other
    measurements := subject.measurements.map (fun entry => (declaredName given entry.1, entry.2)) }

def theRecordedCall (event : RecordedEvent) (posting : Posting) : PricingSubject :=
  { event.subject posting.id with
    callerProviderCost :=
      if posting.costingStatus = .unresolved then event.callerProviderCost else theCostTheRecordHolds posting }

-- Every answer the tenant has given about the event is applied, every time.
def theOriginalCall (config : Configuration) (heldNames : List HeldName) (event : RecordedEvent) (posting : Posting) :
    PricingSubject :=
  asAnswered config (theTenantsAnswers heldNames posting.tenant posting.id) (theRecordedCall event posting)

theorem the_original_call_as_sent (config : Configuration) (heldNames : List HeldName) (event : RecordedEvent)
    (posting : Posting) (unnamed : heldOn heldNames posting.tenant posting.id = [])
    (unresolved : posting.costingStatus = .unresolved) :
    theOriginalCall config heldNames event posting = event.subject posting.id := by
  have unanswered : theTenantsAnswers heldNames posting.tenant posting.id = noAnswers := by
    rw [theTenantsAnswers, unnamed]
    rfl
  rw [theOriginalCall, unanswered, theRecordedCall, if_pos unresolved]
  simp [asAnswered, noAnswers, declaredName, RecordedEvent.subject]

structure Carried (bag : List (String × String)) (posting : Posting) : Prop where
  unheld : posting.unresolvedReason.bind priceReasonOfAHeldName = none
  views : ViewsOf bag posting.pricingReceipt
  whole : ∀ entry ∈ bag, entry ∈ quantitiesOf posting.pricingReceipt.costing.detail.components ∨
    entry ∈ posting.pricingReceipt.costing.detail.uncostedQuantities ∨
      entry ∈ posting.pricingReceipt.costing.detail.undeclaredQuantities

section

variable {Holds : Posting → Prop} (postingId : Nat)
  (keeps : ∀ posting row, Kept posting → Holds posting → CompletedTo (fun _ => True) posting row → Holds row)

include keeps

end

end Ubb.Resolving
