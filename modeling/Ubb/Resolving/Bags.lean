import Ubb.Pricing.Reordered
import Ubb.Resolving.ProjectedRuns

set_option autoImplicit false

-- The bag a record holds, and the bag an event carried.
namespace Ubb.Resolving

open Library Pricing
open Work (CostingStatus PricingStatus PricingMode)

def pricedViews (record : Receipt) : List (String × String) :=
  quantitiesOf record.costing.detail.components ++ quantitiesOf record.pricing.detail.components

structure ViewsOf (bag : List (String × String)) (record : Receipt) : Prop where
  priced : ∀ entry ∈ pricedViews record, entry ∈ bag
  uncosted : ∀ entry ∈ record.costing.detail.uncostedQuantities, entry ∈ bag
  undeclared : ∀ entry ∈ record.costing.detail.undeclaredQuantities, entry ∈ bag

def declaredName (answers : TenantsAnswers) (name : String) : String :=
  (answers.measurementKeys.lookup name).getD name

end Ubb.Resolving
