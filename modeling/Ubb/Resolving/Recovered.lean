import Ubb.Resolving.Faithful

set_option autoImplicit false

-- What a run completes of one recorded event, whatever happened in between.
namespace Ubb.Resolving

open Library Pricing
open Work (CostingStatus PricingStatus PricingMode)

def meteredCall (eventType : String) (statedCost : Option Int) : RecordedEvent where
  tenant := 1
  customer := 1
  effectiveAt := 0
  currency := "usd"
  selectors := fun name =>
    match name with
    | .eventType => eventType
    | _ => ""
  measurements := [("tokens", .text "12")]
  callerProviderCost := statedCost
  reportedCostSourceKind := none
  pricingMode := .eventPriced
  distinct := List.nodup_singleton _

end Ubb.Resolving
