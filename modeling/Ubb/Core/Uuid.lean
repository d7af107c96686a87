import Mathlib.Tactic

set_option autoImplicit false

namespace Ubb

-- A UUID is kept as its canonical text: every idempotency key is rendered
-- from that text, and PostgreSQL orders uuid values as the text is ordered.
structure Uuid where
  text : String
deriving DecidableEq, Repr

end Ubb
