import Ubb.Pricing.Resolver

set_option autoImplicit false

-- One bag in two orders: what the spine answers is a fact of the quantities and
-- not of the order they arrive in.
namespace Ubb.Pricing

open Library
open Work (CostingStatus PricingStatus PricingMode)

end Ubb.Pricing
