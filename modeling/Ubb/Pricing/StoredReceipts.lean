import Ubb.Library.Outcomes
import Ubb.Library.PlainValues
import Ubb.Pricing.ExactDecimals

set_option autoImplicit false

-- pricing/receipts.py over the record as it is stored: plain values under any
-- keys, which the validator alone makes a receipt.
namespace Ubb.Pricing.Stored

open Library Plain

inductive Refusal where
  | notARecord (record : Value)
  | schemaVersion (declared : Value)
  | topLevelKeys (found : List String)
  | notText (key : String) (value : Value)
  | subjectType (value : Value)
  | totalsKeys (found : Value)
  | sectionKeys (name : String) (found : Value)
  | detailNotARecord (name : String) (detail : Value)
  | statusOutside (name : String) (status : Value)
  | methodOutside (name : String) (method : Value)
  | methodWithoutSettlement (name : String) (method status : Value)
  | settledWithoutMethod (name : String) (status : Value)
  | amountNotMicros (amountKey : String) (amount : Value)
  | amountDisagrees (amountKey name : String) (amount status : Value)
  | componentsNotAList (name : String) (components : Value)
  | componentNotARecord (name : String) (component : Value)
  | componentMissing (name : String) (missing : List String)
  | quantityNotCanonical (name : String) (quantity : Value)
  | markupTermsMissing (name : String) (terms : Value)
  | markupTermKeys (name : String) (found : List String)
  | markupTermNotWhole (name term : String) (value : Value)
  | regimeNotAgreed (found : Value)
  | provenanceNotARecord (provenance : Value)
  | markupRung (rung : Value)
  | provenanceFigure (key : String) (leaf : Value)
  | notCompletable (name : String) (status : Value) (completable : String)
  | completionNotSettled (name : String) (status method amount : Value)
  | provenanceChanged (key : String) (recorded : Value)
  -- What Python raises by itself, at a key or a type no receipt has.
  | keyError (key : String)
  | typeError (value : Value)

def RECEIPT_SCHEMA_VERSION : Int := 2

def TOP_LEVEL_KEYS : List String :=
  ["receipt_schema_version", "pricing_engine_version", "subject_type", "subject_id", "effective_at", "currency",
    "costing", "pricing", "totals", "provenance"]

def SECTION_KEYS : List String := ["method", "status", "detail"]

def TOTALS_KEYS : List String := ["provider_cost_micros", "billed_cost_micros"]

def QUANTITY_KEY : String := "units"

def REQUIRED_COMPONENT_KEYS : List String :=
  ["measurement_key", "units", "rate_per_unit_micros", "unit_quantity", "fixed_micros", "rate_structure", "micros"]

def REQUIRED_MARKUP_KEYS : List String := ["micro_percent", "basis_micros"]

def MARKUP_TERMS_KEY : String := "markup"

def PRICING_REGIME_KEY : String := "pricing_mode"

def PRICING_MODE_FIXED : String := "fixed"

def PRICING_METHOD_MARGIN_OVER_COST : String := "margin_over_cost"

def MARKUP_RUNG_VALUES : List String := ["tenant_default"]

def PRICING_RECEIPT_SUBJECT_TYPE_VALUES : List String := ["usage_event", "charge"]

def DERIVES_ITS_AMOUNTS : List String := ["usage_event"]

def PRICING_RECEIPT_SUBJECT_TYPE_CHARGE : String := "charge"

structure SectionRules where
  name : String
  methods : List String
  statuses : List String
  settled : String
  amountKey : String
  completable : String

def costingRules : SectionRules where
  name := "costing"
  methods := ["calculated", "reported"]
  statuses := ["known", "unresolved", "not_applicable"]
  settled := "known"
  amountKey := "provider_cost_micros"
  completable := "unresolved"

def pricingRules : SectionRules where
  name := "pricing"
  methods := ["margin_over_cost", "direct_event_price"]
  statuses := ["known", "waived", "unknown", "not_applicable"]
  settled := "known"
  amountKey := "billed_cost_micros"
  completable := "unknown"

-- SECTIONS[name].
def rulesOf (name : String) : Option SectionRules :=
  [costingRules, pricingRules].find? (fun rules => rules.name = name)

structure Resolution where
  method : Value
  status : Value
  amountMicros : Value
  detail : Value

def carriesExactly (entries : Dict) (keys : List String) : Prop :=
  (∀ key ∈ keysOf entries, key ∈ keys) ∧ ∀ key ∈ keys, key ∈ keysOf entries

instance (entries : Dict) (keys : List String) : Decidable (carriesExactly entries keys) :=
  inferInstanceAs (Decidable ((∀ key ∈ keysOf entries, key ∈ keys) ∧ ∀ key ∈ keys, key ∈ keysOf entries))

-- value in frozenset: asked by hash first.
def within (value : Value) (allowed : List String) : Except Refusal Bool :=
  if value.hashable = true then
    pure (match value with
      | .text text => allowed.contains text
      | _ => false)
  else throw (.typeError value)

def askIf (applies : Bool) (check : Except Refusal Unit) : Except Refusal Unit :=
  if applies = true then check else pure ()

def requireWithin (value : Value) (allowed : List String) (refusal : Refusal) : Except Refusal Unit := do
  let listed ← within value allowed
  refuseIf (listed = false) refusal

def requireText (record : Dict) (key : String) : Except Refusal Unit :=
  match item record key with
  | .text text => refuseIf (text = "") (.notText key (.text text))
  | other => throw (.notText key other)

def asRecord (value : Value) (refusal : Refusal) : Except Refusal Dict :=
  match value with
  | .dict entries => pure entries
  | _ => throw refusal

-- isinstance(value, int) and not a bool.
def isWholeNumber : Value → Bool
  | .int _ => true
  | _ => false

def isCanonicalQuantity : Value → Bool
  | .text text => isCanonical text
  | _ => false

def validateComponent (name : String) (component : Value) : Except Refusal Unit := do
  let terms ← asRecord component (.componentNotARecord name component)
  let missing := REQUIRED_COMPONENT_KEYS.filter (fun key => key ∉ keysOf terms)
  refuseIf (missing ≠ []) (.componentMissing name missing)
  refuseIf (isCanonicalQuantity (item terms QUANTITY_KEY) = false)
    (.quantityNotCanonical name (item terms QUANTITY_KEY))

def validateComponents (name : String) : Value → Except Refusal Unit
  | .list components => components.forM (validateComponent name)
  | other => throw (.componentsNotAList name other)

def validateMarkupTerms (name : String) (terms : Value) : Except Refusal Unit := do
  let held ← asRecord terms (.markupTermsMissing name terms)
  refuseIf (¬carriesExactly held REQUIRED_MARKUP_KEYS) (.markupTermKeys name (keysOf held))
  held.forM (fun entry =>
    refuseIf (isWholeNumber entry.2 = false) (.markupTermNotWhole name entry.1 entry.2))

def validateSection (rules : SectionRules) (part amount : Value) (derived : Bool) : Except Refusal Unit := do
  let held ← asRecord part (.sectionKeys rules.name part)
  refuseIf (¬carriesExactly held SECTION_KEYS) (.sectionKeys rules.name part)
  let detail ← asRecord (item held "detail") (.detailNotARecord rules.name (item held "detail"))
  let status := item held "status"
  requireWithin status rules.statuses (.statusOutside rules.name status)
  let method := item held "method"
  let settled := status.same (.text rules.settled)
  askIf (!isNull method) (requireWithin method rules.methods (.methodOutside rules.name method))
  refuseIf (isNull method = false ∧ settled = false) (.methodWithoutSettlement rules.name method status)
  refuseIf (derived = true ∧ settled = true ∧ isNull method = true) (.settledWithoutMethod rules.name status)
  refuseIf (isWholeNumber amount = false ∧ isNull amount = false) (.amountNotMicros rules.amountKey amount)
  refuseIf (settled = isNull amount) (.amountDisagrees rules.amountKey rules.name amount status)
  askIf (detail.lookup "components").isSome (validateComponents rules.name (item detail "components"))
  askIf (method.same (.text PRICING_METHOD_MARGIN_OVER_COST))
    (validateMarkupTerms rules.name (item detail MARKUP_TERMS_KEY))

def validateTheAgreedRegime (pricing : Value) : Except Refusal Unit := do
  let held ← asRecord pricing (.typeError pricing)
  let detail ← asRecord (item held "detail") (.typeError (item held "detail"))
  refuseIf ((item detail PRICING_REGIME_KEY).same (.text PRICING_MODE_FIXED) = false)
    (.regimeNotAgreed (item detail PRICING_REGIME_KEY))

def rungOf : Value → Value
  | .dict markup => item markup "rung"
  | other => other

def validateProvenance (provenance : Value) : Except Refusal Unit := do
  let held ← asRecord provenance (.provenanceNotARecord provenance)
  let markup := item held MARKUP_TERMS_KEY
  askIf (!isNull markup) (requireWithin (rungOf markup) MARKUP_RUNG_VALUES (.markupRung (rungOf markup)))
  held.forM (fun entry => entry.2.leaves.forM (fun leaf =>
    refuseIf (isText leaf = false) (.provenanceFigure entry.1 leaf)))

def validateSectionOf (record totals : Dict) (derived : Bool) (rules : SectionRules) : Except Refusal Unit :=
  validateSection rules (item record rules.name) (item totals rules.amountKey) derived

def validateReceipt (receipt : Value) : Except Refusal Unit := do
  let record ← asRecord receipt (.notARecord receipt)
  let declared := item record "receipt_schema_version"
  refuseIf (declared.same (.int RECEIPT_SCHEMA_VERSION) = false) (.schemaVersion declared)
  refuseIf (¬carriesExactly record TOP_LEVEL_KEYS) (.topLevelKeys (keysOf record))
  requireText record "pricing_engine_version"
  requireText record "subject_id"
  requireText record "effective_at"
  requireText record "currency"
  let subjectType := item record "subject_type"
  requireWithin subjectType PRICING_RECEIPT_SUBJECT_TYPE_VALUES (.subjectType subjectType)
  let totals ← asRecord (item record "totals") (.totalsKeys (item record "totals"))
  refuseIf (¬carriesExactly totals TOTALS_KEYS) (.totalsKeys (item record "totals"))
  let derived ← within subjectType DERIVES_ITS_AMOUNTS
  validateSectionOf record totals derived costingRules
  validateSectionOf record totals derived pricingRules
  askIf (subjectType.same (.text PRICING_RECEIPT_SUBJECT_TYPE_CHARGE)) (validateTheAgreedRegime (item record "pricing"))
  validateProvenance (item record "provenance")

-- _a_receipt.
def aReceipt (receipt : Value) : Except Refusal Dict := do
  let record ← asRecord receipt (.notARecord receipt)
  refuseIf (record = []) (.notARecord receipt)
  let declared := item record "receipt_schema_version"
  refuseIf (declared.same (.int RECEIPT_SCHEMA_VERSION) = false) (.schemaVersion declared)
  pure record

-- record[key], and record[key] where a dictionary stands there.
def subscript (entries : Dict) (key : String) : Except Refusal Value :=
  match entries.lookup key with
  | some held => pure held
  | none => throw (.keyError key)

def subscriptRecord (entries : Dict) (key : String) : Except Refusal Dict := do
  let held ← subscript entries key
  asRecord held (.typeError held)

def sectionRules (name : String) : Except Refusal SectionRules :=
  match rulesOf name with
  | some rules => pure rules
  | none => throw (.keyError name)

-- The whitelist, and that the completion settles the section: both asked before
-- anything is assembled.
def admitCompletion (record : Dict) (named : String × Resolution) : Except Refusal SectionRules := do
  let rules ← sectionRules named.1
  let was ← subscriptRecord record named.1
  let status ← subscript was "status"
  refuseIf (status.same (.text rules.completable) = false) (.notCompletable named.1 status rules.completable)
  refuseIf (named.2.status.same (.text rules.settled) = false ∨ isNull named.2.method = true ∨
      isNull named.2.amountMicros = true)
    (.completionNotSettled named.1 named.2.status named.2.method named.2.amountMicros)
  pure rules

def sectionOf (resolution : Resolution) : Dict :=
  [("method", resolution.method), ("status", resolution.status), ("detail", resolution.detail)]

-- A completion may add a cross-reference and may not change one.
def admitProvenance (recorded provenance : Dict) : Except Refusal Unit :=
  provenance.forM (fun entry =>
    match recorded.lookup entry.1 with
    | some held => refuseIf (held.same entry.2 = false) (.provenanceChanged entry.1 held)
    | none => pure ())

structure Completing where
  record : Dict
  totals : Dict

def Completing.entries (completing : Completing) : Dict :=
  assign completing.record "totals" (.dict completing.totals)

def putSection (completing : Completing) (rules : SectionRules) (named : String × Resolution) : Completing where
  record := assign completing.record named.1 (.dict (sectionOf named.2))
  totals := assign completing.totals rules.amountKey named.2.amountMicros

def completeSection (record : Dict) (completing : Completing) (named : String × Resolution) :
    Except Refusal Completing := do
  let rules ← admitCompletion record named
  pure (putSection completing rules named)

def completedRecord (receipt : Value) (sections : List (String × Resolution)) (provenance : Dict) :
    Except Refusal Dict := do
  let record ← aReceipt receipt
  let totals ← subscriptRecord record "totals"
  let completing ← sections.foldlM (completeSection record) ⟨record, totals⟩
  let recorded ← subscriptRecord record "provenance"
  admitProvenance recorded provenance
  let completed := assign completing.entries "provenance" (.dict (assignAll recorded provenance))
  validateReceipt (.dict completed)
  pure completed

end Ubb.Pricing.Stored
