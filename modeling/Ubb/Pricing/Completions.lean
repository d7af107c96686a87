import Ubb.Pricing.StoredReceipts

set_option autoImplicit false

-- A completion of a stored receipt, as a value: what it needs, what it changes
-- and that two completions commute.
namespace Ubb.Pricing.Stored

open Library Plain

structure Shaped (record totals : Dict) (derived : Bool) : Prop where
  version : (item record "receipt_schema_version").same (.int RECEIPT_SCHEMA_VERSION) = true
  keys : carriesExactly record TOP_LEVEL_KEYS
  engine : requireText record "pricing_engine_version" = .ok ()
  subjectId : requireText record "subject_id" = .ok ()
  instant : requireText record "effective_at" = .ok ()
  currency : requireText record "currency" = .ok ()
  subject : requireWithin (item record "subject_type") PRICING_RECEIPT_SUBJECT_TYPE_VALUES
    (.subjectType (item record "subject_type")) = .ok ()
  heldTotals : item record "totals" = .dict totals
  totalsKeys : carriesExactly totals TOTALS_KEYS
  derives : within (item record "subject_type") DERIVES_ITS_AMOUNTS = .ok derived
  costing : validateSectionOf record totals derived costingRules = .ok ()
  pricing : validateSectionOf record totals derived pricingRules = .ok ()
  regime : (item record "subject_type").same (.text PRICING_RECEIPT_SUBJECT_TYPE_CHARGE) = true →
    validateTheAgreedRegime (item record "pricing") = .ok ()
  provenance : validateProvenance (item record "provenance") = .ok ()

theorem as_record_ok (value : Value) (refusal : Refusal) (entries : Dict) :
    asRecord value refusal = .ok entries ↔ value = .dict entries := by
  cases value <;> simp [asRecord, throw, throwThe, MonadExceptOf.throw]

theorem asked_ok (applies : Bool) (check : Except Refusal Unit) :
    askIf applies check = .ok () ↔ (applies = true → check = .ok ()) := by
  cases applies
  · simp [askIf]
  · simp [askIf]

theorem validate_ok (record : Dict) :
    validateReceipt (.dict record) = .ok () ↔ ∃ totals derived, Shaped record totals derived := by
  simp only [validateReceipt, bind_eq_ok, as_record_ok, refuse_if_eq_ok, Value.dict.injEq, not_not, asked_ok,
    Bool.not_eq_false, exists_eq_left', Unique.exists_iff, PUnit.default_eq_unit]
  constructor
  · rintro ⟨version, keys, engine, subjectId, instant, currency, subject, totals, heldTotals, totalsKeys, derived, derives,
      costing, pricing, regime, provenance⟩
    exact ⟨totals, derived, version, keys, engine, subjectId, instant, currency, subject, heldTotals, totalsKeys, derives,
      costing, pricing, regime, provenance⟩
  · rintro ⟨totals, derived, shaped⟩
    exact ⟨shaped.version, shaped.keys, shaped.engine, shaped.subjectId, shaped.instant, shaped.currency, shaped.subject,
      totals, shaped.heldTotals, shaped.totalsKeys, derived, shaped.derives, shaped.costing, shaped.pricing, shaped.regime,
      shaped.provenance⟩

theorem rules_of_name (name : String) (rules : SectionRules) :
    rulesOf name = some rules ↔
      (name = "costing" ∧ rules = costingRules) ∨ (name = "pricing" ∧ rules = pricingRules) := by
  constructor
  · intro found
    have named := List.find?_some found
    rcases List.mem_cons.mp (List.mem_of_find?_eq_some found) with rfl | later
    · exact Or.inl ⟨(of_decide_eq_true named).symm, rfl⟩
    · rw [List.mem_singleton] at later
      subst later
      exact Or.inr ⟨(of_decide_eq_true named).symm, rfl⟩
  · rintro (⟨rfl, rfl⟩ | ⟨rfl, rfl⟩)
    · rfl
    · rfl

theorem section_rules_ok (name : String) (rules : SectionRules) :
    sectionRules name = .ok rules ↔ rulesOf name = some rules := by
  rw [sectionRules]
  cases rulesOf name <;> simp [throw, throwThe, MonadExceptOf.throw]

theorem subscript_ok (entries : Dict) (key : String) (value : Value) :
    subscript entries key = .ok value ↔ entries.lookup key = some value := by
  rw [subscript]
  cases entries.lookup key <;> simp [throw, throwThe, MonadExceptOf.throw]

theorem subscript_record_ok (entries : Dict) (key : String) (inner : Dict) :
    subscriptRecord entries key = .ok inner ↔ entries.lookup key = some (.dict inner) := by
  simp only [subscriptRecord, bind_eq_ok, subscript_ok, as_record_ok]
  constructor
  · rintro ⟨_, held, rfl⟩
    exact held
  · intro held
    exact ⟨_, held, rfl⟩

structure Admitted (record : Dict) (rules : SectionRules) (named : String × Resolution) : Prop where
  ruled : rulesOf named.1 = some rules
  was : ∃ part, record.lookup named.1 = some (.dict part) ∧ part.lookup "status" = some (.text rules.completable)
  settled : named.2.status = .text rules.settled
  method : named.2.method ≠ .null
  amount : named.2.amountMicros ≠ .null

theorem admit_ok (record : Dict) (named : String × Resolution) (rules : SectionRules) :
    admitCompletion record named = .ok rules ↔ Admitted record rules named := by
  simp only [admitCompletion, bind_eq_ok, section_rules_ok, subscript_record_ok, subscript_ok, refuse_if_eq_ok, not_or,
    Bool.not_eq_false, same_text, Unique.exists_iff, is_null_iff]
  constructor
  · rintro ⟨_, ruled, part, held, _, status, rfl, settles, same⟩
    cases same
    exact ⟨ruled, ⟨part, held, status⟩, settles.1, settles.2.1, settles.2.2⟩
  · rintro ⟨ruled, ⟨part, held, status⟩, settled, method, amount⟩
    exact ⟨rules, ruled, part, held, _, status, rfl, ⟨settled, method, amount⟩, rfl⟩

def putNamed (completing : Completing) (named : String × Resolution) : Completing :=
  match rulesOf named.1 with
  | some rules => putSection completing rules named
  | none => completing

theorem fold_ok (record : Dict) (sections : List (String × Resolution)) (start completing : Completing) :
    sections.foldlM (completeSection record) start = .ok completing ↔
      (∀ named ∈ sections, ∃ rules, Admitted record rules named) ∧ completing = sections.foldl putNamed start := by
  induction sections generalizing start with
  | nil =>
    simp only [List.foldlM_nil, pure_eq_ok, List.not_mem_nil, false_implies, implies_true, true_and, List.foldl_nil]
    exact eq_comm
  | cons named rest ih =>
    rw [fold_m_cons_ok, List.foldl_cons, List.forall_mem_cons]
    simp only [completeSection, bind_eq_ok, admit_ok, pure_eq_ok, ih]
    constructor
    · rintro ⟨_, ⟨rules, admitted, rfl⟩, others, rfl⟩
      refine ⟨⟨⟨rules, admitted⟩, others⟩, ?_⟩
      rw [putNamed, admitted.ruled]
    · rintro ⟨⟨⟨rules, admitted⟩, others⟩, rfl⟩
      refine ⟨_, ⟨rules, admitted, rfl⟩, others, ?_⟩
      rw [putNamed, admitted.ruled]

theorem provenance_ok (recorded provenance : Dict) :
    admitProvenance recorded provenance = .ok () ↔
      ∀ entry ∈ provenance, ∀ held, recorded.lookup entry.1 = some held → held.same entry.2 = true := by
  rw [admitProvenance, for_m_ok]
  refine forall_congr' fun entry => imp_congr_right fun _ => ?_
  cases recorded.lookup entry.1 <;> simp

def completedEntries (record totals recorded : Dict) (sections : List (String × Resolution)) (provenance : Dict) : Dict :=
  assign (sections.foldl putNamed ⟨record, totals⟩).entries "provenance" (.dict (assignAll recorded provenance))

structure Completed (record totals recorded : Dict) (sections : List (String × Resolution)) (provenance completed : Dict) :
    Prop where
  heldTotals : record.lookup "totals" = some (.dict totals)
  heldProvenance : record.lookup "provenance" = some (.dict recorded)
  admitted : ∀ named ∈ sections, ∃ rules, Admitted record rules named
  additive : ∀ entry ∈ provenance, ∀ held, recorded.lookup entry.1 = some held → held.same entry.2 = true
  entries : completed = completedEntries record totals recorded sections provenance
  valid : validateReceipt (.dict completed) = .ok ()

theorem a_receipt_valid (record : Dict) (valid : validateReceipt (.dict record) = .ok ()) :
    aReceipt (.dict record) = .ok record := by
  obtain ⟨_, _, shaped⟩ := (validate_ok record).mp valid
  have present : record ≠ [] := by
    rintro rfl
    exact absurd shaped.keys (by decide)
  simp only [aReceipt, bind_eq_ok, as_record_ok, refuse_if_eq_ok, Value.dict.injEq, exists_eq_left',
    Unique.exists_iff, pure_eq_ok, and_true]
  exact ⟨present, by rw [shaped.version]; decide⟩

theorem completed_ok (record : Dict) (valid : validateReceipt (.dict record) = .ok ())
    (sections : List (String × Resolution)) (provenance completed : Dict) :
    completedRecord (.dict record) sections provenance = .ok completed ↔
      ∃ totals recorded, Completed record totals recorded sections provenance completed := by
  have guard := a_receipt_valid record valid
  simp only [completedRecord, guard, ok_bind, bind_eq_ok, subscript_record_ok, fold_ok, provenance_ok,
    Unique.exists_iff, PUnit.default_eq_unit, pure_eq_ok]
  constructor
  · rintro ⟨totals, heldTotals, _, ⟨admitted, rfl⟩, recorded, heldProvenance, additive, good, rfl⟩
    exact ⟨totals, recorded, heldTotals, heldProvenance, admitted, additive, rfl, good⟩
  · rintro ⟨totals, recorded, completed⟩
    obtain ⟨heldTotals, heldProvenance, admitted, additive, rfl, good⟩ := completed
    exact ⟨totals, heldTotals, _, ⟨admitted, rfl⟩, recorded, heldProvenance, additive, good, rfl⟩

theorem ruled_amount (name : String) (rules : SectionRules) (ruled : rulesOf name = some rules) :
    rules.amountKey ∈ TOTALS_KEYS ∧ rules.name = name ∧ name ≠ "totals" ∧ name ≠ "provenance" := by
  rcases (rules_of_name name rules).mp ruled with ⟨rfl, rfl⟩ | ⟨rfl, rfl⟩ <;> decide

theorem ruled_apart (left right : String) (leftRules rightRules : SectionRules) (leftRuled : rulesOf left = some leftRules)
    (rightRuled : rulesOf right = some rightRules) (apart : left ≠ right) : leftRules.amountKey ≠ rightRules.amountKey := by
  rcases (rules_of_name left leftRules).mp leftRuled with ⟨rfl, rfl⟩ | ⟨rfl, rfl⟩ <;>
    rcases (rules_of_name right rightRules).mp rightRuled with ⟨rfl, rfl⟩ | ⟨rfl, rfl⟩
  · exact absurd rfl apart
  · decide
  · decide
  · exact absurd rfl apart

theorem put_named_other (completing : Completing) (named : String × Resolution) (key : String) (apart : key ≠ named.1) :
    (putNamed completing named).record.lookup key = completing.record.lookup key := by
  rw [putNamed]
  cases rulesOf named.1 with
  | none => rfl
  | some rules => exact lookup_assign_other completing.record named.1 key _ apart

theorem fold_other (sections : List (String × Resolution)) (start : Completing) (key : String)
    (apart : key ∉ keysOf sections) : (sections.foldl putNamed start).record.lookup key = start.record.lookup key := by
  induction sections generalizing start with
  | nil => rfl
  | cons named rest ih =>
    have split : key ≠ named.1 ∧ key ∉ keysOf rest := by
      simpa [keysOf] using apart
    rw [List.foldl_cons, ih _ split.2, put_named_other start named key split.1]

theorem put_named_total_other (completing : Completing) (named : String × Resolution) (key : String)
    (apart : ∀ rules, rulesOf named.1 = some rules → key ≠ rules.amountKey) :
    (putNamed completing named).totals.lookup key = completing.totals.lookup key := by
  rw [putNamed]
  cases ruled : rulesOf named.1 with
  | none => rfl
  | some rules => exact lookup_assign_other completing.totals rules.amountKey key _ (apart rules ruled)

theorem fold_total_other (sections : List (String × Resolution)) (start : Completing) (key : String)
    (apart : ∀ named ∈ sections, ∀ rules, rulesOf named.1 = some rules → key ≠ rules.amountKey) :
    (sections.foldl putNamed start).totals.lookup key = start.totals.lookup key := by
  induction sections generalizing start with
  | nil => rfl
  | cons named rest ih =>
    obtain ⟨first, others⟩ := List.forall_mem_cons.mp apart
    rw [List.foldl_cons, ih _ others, put_named_total_other start named key first]

theorem fold_named (sections : List (String × Resolution)) (start : Completing) (distinct : (keysOf sections).Nodup)
    (ruled : ∀ named ∈ sections, ∃ rules, rulesOf named.1 = some rules) (named : String × Resolution)
    (member : named ∈ sections) (rules : SectionRules) (its : rulesOf named.1 = some rules) :
    (sections.foldl putNamed start).record.lookup named.1 = some (.dict (sectionOf named.2)) ∧
      (sections.foldl putNamed start).totals.lookup rules.amountKey = some named.2.amountMicros := by
  induction sections generalizing start with
  | nil => cases member
  | cons first rest ih =>
    obtain ⟨fresh, restDistinct⟩ := List.nodup_cons.mp distinct
    obtain ⟨_, others⟩ := List.forall_mem_cons.mp ruled
    rw [List.foldl_cons]
    rcases List.mem_cons.mp member with rfl | later
    · constructor
      · rw [fold_other rest _ named.1 fresh, putNamed, its]
        exact lookup_assign_same _ _ _
      · rw [fold_total_other, putNamed, its]
        · exact lookup_assign_same _ _ _
        · intro other member otherRules otherRuled
          apply ruled_apart named.1 other.1 rules otherRules its otherRuled
          intro same
          exact fresh (same ▸ key_of_entry member)
    · exact ih _ restDistinct others later

theorem put_named_keys (completing : Completing) (named : String × Resolution)
    (present : named.1 ∈ keysOf completing.record) (amounts : ∀ key ∈ TOTALS_KEYS, key ∈ keysOf completing.totals) :
    keysOf (putNamed completing named).record = keysOf completing.record ∧
      keysOf (putNamed completing named).totals = keysOf completing.totals := by
  rw [putNamed]
  cases ruled : rulesOf named.1 with
  | none => exact ⟨rfl, rfl⟩
  | some rules =>
    exact ⟨assign_present_keys _ _ _ present,
      assign_present_keys _ _ _ (amounts rules.amountKey (ruled_amount named.1 rules ruled).1)⟩

theorem fold_keys (sections : List (String × Resolution)) (start : Completing)
    (present : ∀ named ∈ sections, named.1 ∈ keysOf start.record)
    (amounts : ∀ key ∈ TOTALS_KEYS, key ∈ keysOf start.totals) :
    keysOf (sections.foldl putNamed start).record = keysOf start.record ∧
      keysOf (sections.foldl putNamed start).totals = keysOf start.totals := by
  induction sections generalizing start with
  | nil => exact ⟨rfl, rfl⟩
  | cons named rest ih =>
    obtain ⟨first, others⟩ := List.forall_mem_cons.mp present
    obtain ⟨record, totals⟩ := put_named_keys start named first amounts
    obtain ⟨restRecord, restTotals⟩ := ih (putNamed start named)
      (fun later member => record ▸ others later member) (fun key listed => totals ▸ amounts key listed)
    exact ⟨restRecord.trans record, restTotals.trans totals⟩

theorem completed_provenance (record totals recorded : Dict) (sections : List (String × Resolution)) (provenance : Dict) :
    (completedEntries record totals recorded sections provenance).lookup "provenance" =
      some (.dict (assignAll recorded provenance)) := lookup_assign_same _ _ _

theorem completed_totals (record totals recorded : Dict) (sections : List (String × Resolution)) (provenance : Dict) :
    (completedEntries record totals recorded sections provenance).lookup "totals" =
      some (.dict (sections.foldl putNamed ⟨record, totals⟩).totals) := by
  rw [completedEntries, lookup_assign_other _ _ _ _ (by decide), Completing.entries, lookup_assign_same]

theorem completed_elsewhere (record totals recorded : Dict) (sections : List (String × Resolution)) (provenance : Dict)
    (key : String) (notTotals : key ≠ "totals") (notProvenance : key ≠ "provenance") :
    (completedEntries record totals recorded sections provenance).lookup key =
      (sections.foldl putNamed ⟨record, totals⟩).record.lookup key := by
  rw [completedEntries, lookup_assign_other _ _ _ _ notProvenance, Completing.entries,
    lookup_assign_other _ _ _ _ notTotals]

theorem item_congr (left right : Dict) (key : String) (same : left.lookup key = right.lookup key) :
    item left key = item right key := by rw [item, item, same]

theorem require_text_congr (left right : Dict) (key : String) (same : item left key = item right key) :
    requireText left key = requireText right key := by simp only [requireText, same]

theorem shaped_between (old new middle oldTotals newTotals middleTotals : Dict) (derived : Bool)
    (oldShaped : Shaped old oldTotals derived) (newShaped : Shaped new newTotals derived)
    (keys : keysOf middle = keysOf old) (totalsKeys : keysOf middleTotals = keysOf oldTotals)
    (others : ∀ key, key ≠ "costing" → key ≠ "pricing" → key ≠ "totals" → key ≠ "provenance" →
      item middle key = item old key)
    (sameSubject : item new "subject_type" = item old "subject_type")
    (totals : item middle "totals" = .dict middleTotals) (provenance : item middle "provenance" = item new "provenance")
    (sections : ∀ rules ∈ [costingRules, pricingRules],
      (item middle rules.name = item old rules.name ∧
        item middleTotals rules.amountKey = item oldTotals rules.amountKey) ∨
      (item middle rules.name = item new rules.name ∧
        item middleTotals rules.amountKey = item newTotals rules.amountKey)) :
    Shaped middle middleTotals derived := by
  have subject := others "subject_type" (by decide) (by decide) (by decide) (by decide)
  have text : ∀ key, key ≠ "costing" → key ≠ "pricing" → key ≠ "totals" → key ≠ "provenance" →
      requireText middle key = requireText old key := fun key notCosting notPricing notTotals notProvenance =>
    require_text_congr middle old key (others key notCosting notPricing notTotals notProvenance)
  have validated : ∀ rules ∈ [costingRules, pricingRules],
      validateSectionOf old oldTotals derived rules = .ok () → validateSectionOf new newTotals derived rules = .ok () →
        validateSectionOf middle middleTotals derived rules = .ok () := by
    intro rules listed oldValid newValid
    rcases sections rules listed with ⟨part, amount⟩ | ⟨part, amount⟩
    · rw [validateSectionOf, part, amount]
      exact oldValid
    · rw [validateSectionOf, part, amount]
      exact newValid
  constructor
  · rw [others "receipt_schema_version" (by decide) (by decide) (by decide) (by decide)]
    exact oldShaped.version
  · rw [carriesExactly, keys]
    exact oldShaped.keys
  · rw [text "pricing_engine_version" (by decide) (by decide) (by decide) (by decide)]
    exact oldShaped.engine
  · rw [text "subject_id" (by decide) (by decide) (by decide) (by decide)]
    exact oldShaped.subjectId
  · rw [text "effective_at" (by decide) (by decide) (by decide) (by decide)]
    exact oldShaped.instant
  · rw [text "currency" (by decide) (by decide) (by decide) (by decide)]
    exact oldShaped.currency
  · rw [subject]
    exact oldShaped.subject
  · exact totals
  · rw [carriesExactly, totalsKeys]
    exact oldShaped.totalsKeys
  · rw [subject]
    exact oldShaped.derives
  · exact validated costingRules (by simp) oldShaped.costing newShaped.costing
  · exact validated pricingRules (by simp) oldShaped.pricing newShaped.pricing
  · intro charge
    rw [subject] at charge
    rcases sections pricingRules (by simp) with ⟨part, _⟩ | ⟨part, _⟩
    · rw [show item middle "pricing" = item old "pricing" from part]
      exact oldShaped.regime charge
    · rw [show item middle "pricing" = item new "pricing" from part]
      exact newShaped.regime (sameSubject ▸ charge)
  · rw [provenance]
    exact newShaped.provenance

theorem put_named_here (completing : Completing) (named : String × Resolution) (rules : SectionRules)
    (ruled : rulesOf named.1 = some rules) :
    (putNamed completing named).record.lookup named.1 = some (.dict (sectionOf named.2)) := by
  rw [putNamed, ruled]
  exact lookup_assign_same _ _ _

theorem put_named_totals (record other totals : Dict) (named : String × Resolution) :
    (putNamed ⟨record, totals⟩ named).totals = (putNamed ⟨other, totals⟩ named).totals := by
  rw [putNamed, putNamed]
  cases rulesOf named.1 <;> rfl

theorem completed_keys (record totals recorded : Dict) (sections : List (String × Resolution)) (provenance : Dict)
    (hasTotals : "totals" ∈ keysOf record) (hasProvenance : "provenance" ∈ keysOf record)
    (present : ∀ named ∈ sections, named.1 ∈ keysOf record) (amounts : ∀ key ∈ TOTALS_KEYS, key ∈ keysOf totals) :
    keysOf (completedEntries record totals recorded sections provenance) = keysOf record := by
  obtain ⟨folded, _⟩ := fold_keys sections ⟨record, totals⟩ present amounts
  have entries : keysOf (sections.foldl putNamed ⟨record, totals⟩).entries = keysOf record := by
    rw [Completing.entries, assign_present_keys _ _ _ (by rw [folded]; exact hasTotals), folded]
  rw [completedEntries, assign_present_keys _ _ _ (by rw [entries]; exact hasProvenance), entries]

theorem entries_in_turn (record totals recorded provenance : Dict) (first second : String × Resolution)
    (rules : SectionRules) (ruled : rulesOf second.1 = some rules) (distinct : (keysOf record).Nodup)
    (recordedDistinct : (keysOf recorded).Nodup) (once : (keysOf provenance).Nodup)
    (hasTotals : "totals" ∈ keysOf record) (hasProvenance : "provenance" ∈ keysOf record)
    (firstIn : first.1 ∈ keysOf record) (secondIn : second.1 ∈ keysOf record)
    (amounts : ∀ key ∈ TOTALS_KEYS, key ∈ keysOf totals) :
    completedEntries (completedEntries record totals recorded [first] provenance) (putNamed ⟨record, totals⟩ first).totals
        (assignAll recorded provenance) [second] provenance =
      completedEntries record totals recorded [first, second] provenance := by
  have middleKeys : keysOf (completedEntries record totals recorded [first] provenance) = keysOf record :=
    completed_keys record totals recorded [first] provenance hasTotals hasProvenance (by simpa using firstIn) amounts
  have middleTotals := (put_named_keys ⟨record, totals⟩ first firstIn amounts).2
  have inTurnKeys : keysOf (completedEntries (completedEntries record totals recorded [first] provenance)
      (putNamed ⟨record, totals⟩ first).totals (assignAll recorded provenance) [second] provenance) = keysOf record := by
    rw [completed_keys, middleKeys]
    · rw [middleKeys]
      exact hasTotals
    · rw [middleKeys]
      exact hasProvenance
    · rw [middleKeys]
      simpa using secondIn
    · rw [middleTotals]
      exact amounts
  apply entries_ext
  · rw [inTurnKeys]
    exact distinct
  · rw [inTurnKeys, completed_keys record totals recorded [first, second] provenance hasTotals hasProvenance
      (by simp [firstIn, secondIn]) amounts]
  · intro key
    by_cases isProvenance : key = "provenance"
    · rw [isProvenance, completed_provenance, completed_provenance, assign_all_again recorded provenance recordedDistinct once]
    · by_cases isTotals : key = "totals"
      · rw [isTotals, completed_totals, completed_totals]
        exact congrArg (fun held => some (Value.dict held)) (put_named_totals _ _ _ second)
      · rw [completed_elsewhere _ _ _ _ _ key isTotals isProvenance, completed_elsewhere _ _ _ _ _ key isTotals isProvenance]
        by_cases isSecond : key = second.1
        · subst isSecond
          exact (put_named_here _ second rules ruled).trans (put_named_here _ second rules ruled).symm
        · have later := put_named_other ⟨completedEntries record totals recorded [first] provenance,
            (putNamed ⟨record, totals⟩ first).totals⟩ second key isSecond
          have together := put_named_other (putNamed ⟨record, totals⟩ first) second key isSecond
          exact later.trans ((completed_elsewhere record totals recorded [first] provenance key isTotals isProvenance).trans
            together.symm)

theorem held_key (entries : Dict) (key : String) (value : Value) (held : entries.lookup key = some value) :
    key ∈ keysOf entries := (key_iff_lookup entries key).mpr ⟨value, held⟩

theorem item_of_lookup (entries : Dict) (key : String) (value : Value) (held : entries.lookup key = some value) :
    item entries key = value := by rw [item, held, Option.getD_some]

theorem lookup_of_item (entries : Dict) (key : String) (present : key ∈ keysOf entries) :
    entries.lookup key = some (item entries key) := by
  obtain ⟨value, held⟩ := (key_iff_lookup entries key).mp present
  rw [item, held, Option.getD_some]

theorem held_parts (record : Dict) (valid : validateReceipt (.dict record) = .ok ()) :
    ∃ totals derived recorded, Shaped record totals derived ∧ record.lookup "totals" = some (.dict totals) ∧
      record.lookup "provenance" = some (.dict recorded) := by
  obtain ⟨totals, derived, shaped⟩ := (validate_ok record).mp valid
  have checked := shaped.provenance
  simp only [validateProvenance, bind_eq_ok, as_record_ok] at checked
  obtain ⟨recorded, held, _⟩ := checked
  refine ⟨totals, derived, recorded, shaped, ?_, ?_⟩
  · rw [lookup_of_item record "totals" (shaped.keys.2 "totals" (by decide)), shaped.heldTotals]
  · rw [lookup_of_item record "provenance" (shaped.keys.2 "provenance" (by decide)), held]

theorem totals_of (record totals totals' : Dict) (derived : Bool) (shaped : Shaped record totals derived)
    (held : record.lookup "totals" = some (.dict totals')) : totals' = totals := by
  have same := (item_of_lookup record "totals" _ held).symm.trans shaped.heldTotals
  exact Value.dict.inj same

theorem listed_ruled (rules : SectionRules) (listed : rules ∈ [costingRules, pricingRules]) :
    rulesOf rules.name = some rules := by
  rcases List.mem_cons.mp listed with rfl | later
  · rfl
  · rw [List.mem_singleton.mp later]
    rfl

theorem ruled_name (name key : String) (rules : SectionRules) (ruled : rulesOf name = some rules)
    (notCosting : key ≠ "costing") (notPricing : key ≠ "pricing") : key ≠ name := by
  rcases (rules_of_name name rules).mp ruled with ⟨rfl, _⟩ | ⟨rfl, _⟩
  · exact notCosting
  · exact notPricing

section

variable (record totals recorded provenance completed : Dict) (derived : Bool) (first second : String × Resolution)
  (firstRules secondRules : SectionRules)

theorem middle_shaped (shaped : Shaped record totals derived) (apart : first.1 ≠ second.1)
    (firstRuled : rulesOf first.1 = some firstRules) (secondRuled : rulesOf second.1 = some secondRules)
    (valid : validateReceipt (.dict (completedEntries record totals recorded [first, second] provenance)) = .ok ()) :
    Shaped (completedEntries record totals recorded [first] provenance) (putNamed ⟨record, totals⟩ first).totals derived := by
  obtain ⟨totals', derived', newShaped⟩ := (validate_ok _).mp valid
  have sameTotals := totals_of _ _ _ _ newShaped (completed_totals record totals recorded [first, second] provenance)
  have elsewhere : ∀ key, key ≠ "costing" → key ≠ "pricing" → key ≠ "totals" → key ≠ "provenance" →
      ∀ sections : List (String × Resolution), (∀ named ∈ sections, named = first ∨ named = second) →
        item (completedEntries record totals recorded sections provenance) key = item record key := by
    intro key notCosting notPricing notTotals notProvenance sections among
    apply item_congr
    rw [completed_elsewhere _ _ _ _ _ key notTotals notProvenance]
    apply fold_other
    intro listed
    obtain ⟨named, member, same⟩ := List.mem_map.mp listed
    rcases among named member with rfl | rfl
    · exact ruled_name _ key firstRules firstRuled notCosting notPricing same.symm
    · exact ruled_name _ key secondRules secondRuled notCosting notPricing same.symm
  have sameSubject := elsewhere "subject_type" (by decide) (by decide) (by decide) (by decide) [first, second] (by simp)
  have sameDerived : derived' = derived := by
    have derives := newShaped.derives
    rw [sameSubject, shaped.derives] at derives
    exact (Except.ok.inj derives).symm
  subst sameTotals sameDerived
  have present : ∀ key ∈ TOP_LEVEL_KEYS, key ∈ keysOf record := shaped.keys.2
  have amounts := shaped.totalsKeys.2
  have firstIn : first.1 ∈ keysOf record := by
    rcases (rules_of_name _ _).mp firstRuled with ⟨name, _⟩ | ⟨name, _⟩
    · exact name ▸ present "costing" (by decide)
    · exact name ▸ present "pricing" (by decide)
  have both := fold_named [first, second] ⟨record, totals⟩ (by simpa [keysOf] using apart)
    (by
      intro named member
      rcases List.mem_pair.mp member with rfl | rfl
      · exact ⟨_, firstRuled⟩
      · exact ⟨_, secondRuled⟩) first List.mem_cons_self firstRules firstRuled
  have alone := fold_named [first] ⟨record, totals⟩ (by simp [keysOf])
    (fun named member => ⟨firstRules, by rw [List.mem_singleton.mp member]; exact firstRuled⟩) first List.mem_cons_self
    firstRules firstRuled
  have names := ruled_amount first.1 firstRules firstRuled
  refine shaped_between record _ _ totals _ _ derived' shaped newShaped ?_ ?_ ?_ sameSubject ?_ ?_ ?_
  · exact completed_keys record totals recorded [first] provenance (present "totals" (by decide))
      (present "provenance" (by decide)) (by simpa using firstIn) amounts
  · exact (put_named_keys ⟨record, totals⟩ first firstIn amounts).2
  · intro key notCosting notPricing notTotals notProvenance
    exact elsewhere key notCosting notPricing notTotals notProvenance [first] (by simp)
  · exact item_of_lookup _ _ _ (completed_totals record totals recorded [first] provenance)
  · apply item_congr
    rw [completed_provenance, completed_provenance]
  · intro rules listed
    have ruled := listed_ruled rules listed
    have its := ruled_amount rules.name rules ruled
    by_cases isFirst : rules.name = first.1
    · right
      have sameRules : rules = firstRules := Option.some.inj (ruled.symm.trans (isFirst ▸ firstRuled))
      subst sameRules
      constructor
      · apply item_congr
        rw [isFirst, completed_elsewhere _ _ _ _ _ _ names.2.2.1 names.2.2.2,
          completed_elsewhere _ _ _ _ _ _ names.2.2.1 names.2.2.2]
        exact alone.1.trans both.1.symm
      · exact item_congr _ _ _ (alone.2.trans both.2.symm)
    · left
      constructor
      · apply item_congr
        rw [completed_elsewhere _ _ _ _ _ _ its.2.2.1 its.2.2.2]
        exact put_named_other _ _ _ isFirst
      · apply item_congr
        apply put_named_total_other
        intro otherRules otherRuled
        exact ruled_apart rules.name first.1 rules otherRules ruled otherRuled isFirst

theorem admitted_later (apart : first.1 ≠ second.1) :
    Admitted (completedEntries record totals recorded [first] provenance) secondRules second ↔
      Admitted record secondRules second := by
  have unmoved : ∀ ruled : rulesOf second.1 = some secondRules,
      (completedEntries record totals recorded [first] provenance).lookup second.1 = record.lookup second.1 := by
    intro ruled
    have names := ruled_amount second.1 secondRules ruled
    rw [completed_elsewhere _ _ _ _ _ _ names.2.2.1 names.2.2.2]
    exact put_named_other _ _ _ apart.symm
  constructor
  · intro admitted
    obtain ⟨part, held, status⟩ := admitted.was
    exact ⟨admitted.ruled, ⟨part, unmoved admitted.ruled ▸ held, status⟩, admitted.settled, admitted.method, admitted.amount⟩
  · intro admitted
    obtain ⟨part, held, status⟩ := admitted.was
    exact ⟨admitted.ruled, ⟨part, (unmoved admitted.ruled).trans held, status⟩, admitted.settled, admitted.method,
      admitted.amount⟩

theorem given_again (formed : (Value.dict provenance).WellFormed) (entry : String × Value) (member : entry ∈ provenance)
    (held : Value) (found : (assignAll recorded provenance).lookup entry.1 = some held) : held.same entry.2 = true := by
  obtain ⟨once, inner⟩ := formed
  have given := lookup_of_entry provenance once entry member
  rw [lookup_assign_all recorded provenance once, given] at found
  have same : entry.2 = held := Option.some.inj found
  rw [← same]
  exact same_self entry.2 (entries_well_formed provenance inner entry.1 entry.2 given)

theorem together_in_turn (shaped : Shaped record totals derived) (distinct : (keysOf record).Nodup)
    (recordedDistinct : (keysOf recorded).Nodup) (formed : (Value.dict provenance).WellFormed) (apart : first.1 ≠ second.1)
    (together : Completed record totals recorded [first, second] provenance completed) :
    ∃ middle, Completed record totals recorded [first] provenance middle ∧
      Completed middle (putNamed ⟨record, totals⟩ first).totals (assignAll recorded provenance) [second] provenance
        completed := by
  obtain ⟨heldTotals, heldProvenance, admitted, additive, rfl, valid⟩ := together
  obtain ⟨firstRules, firstAdmitted⟩ := admitted first List.mem_cons_self
  obtain ⟨secondRules, secondAdmitted⟩ := admitted second (by simp)
  have middleShaped := middle_shaped record totals recorded provenance derived first second firstRules secondRules shaped
    apart firstAdmitted.ruled secondAdmitted.ruled valid
  refine ⟨completedEntries record totals recorded [first] provenance, ?_, ?_⟩
  · refine ⟨heldTotals, heldProvenance, ?_, additive, rfl, (validate_ok _).mpr ⟨_, _, middleShaped⟩⟩
    intro named member
    rw [List.mem_singleton.mp member]
    exact ⟨firstRules, firstAdmitted⟩
  · refine ⟨completed_totals _ _ _ _ _, completed_provenance _ _ _ _ _, ?_, ?_, ?_, valid⟩
    · intro named member
      rw [List.mem_singleton.mp member]
      exact ⟨secondRules, (admitted_later record totals recorded provenance first second secondRules apart).mpr
        secondAdmitted⟩
    · exact given_again recorded provenance formed
    · obtain ⟨_, firstHeld, _⟩ := firstAdmitted.was
      obtain ⟨_, secondHeld, _⟩ := secondAdmitted.was
      exact (entries_in_turn record totals recorded provenance first second secondRules secondAdmitted.ruled distinct
        recordedDistinct formed.1 (held_key _ _ _ heldTotals) (held_key _ _ _ heldProvenance) (held_key _ _ _ firstHeld)
        (held_key _ _ _ secondHeld) shaped.totalsKeys.2).symm

theorem in_turn_together (shaped : Shaped record totals derived) (distinct : (keysOf record).Nodup)
    (recordedDistinct : (keysOf recorded).Nodup) (formed : (Value.dict provenance).WellFormed) (apart : first.1 ≠ second.1)
    (middle middleTotals middleRecorded : Dict) (one : Completed record totals recorded [first] provenance middle)
    (other : Completed middle middleTotals middleRecorded [second] provenance completed) :
    Completed record totals recorded [first, second] provenance completed := by
  obtain ⟨heldTotals, heldProvenance, firstAdmitted, additive, rfl, _⟩ := one
  obtain ⟨middleHeld, middleProvenance, secondAdmitted, _, rfl, valid⟩ := other
  obtain ⟨firstRules, firstAdmitted⟩ := firstAdmitted first List.mem_cons_self
  obtain ⟨secondRules, secondAdmitted⟩ := secondAdmitted second List.mem_cons_self
  rw [completed_totals] at middleHeld
  rw [completed_provenance] at middleProvenance
  obtain rfl := Value.dict.inj (Option.some.inj middleHeld)
  obtain rfl := Value.dict.inj (Option.some.inj middleProvenance)
  rw [admitted_later record totals recorded provenance first second secondRules apart] at secondAdmitted
  obtain ⟨_, firstHeld, _⟩ := firstAdmitted.was
  obtain ⟨_, secondHeld, _⟩ := secondAdmitted.was
  have entries := entries_in_turn record totals recorded provenance first second secondRules secondAdmitted.ruled distinct
    recordedDistinct formed.1 (held_key _ _ _ heldTotals) (held_key _ _ _ heldProvenance) (held_key _ _ _ firstHeld)
    (held_key _ _ _ secondHeld) shaped.totalsKeys.2
  refine ⟨heldTotals, heldProvenance, ?_, additive, entries, valid⟩
  intro named member
  rcases List.mem_pair.mp member with rfl | rfl
  · exact ⟨firstRules, firstAdmitted⟩
  · exact ⟨secondRules, secondAdmitted⟩

theorem entries_swapped (shaped : Shaped record totals derived) (distinct : (keysOf record).Nodup)
    (totalsDistinct : (keysOf totals).Nodup) (apart : first.1 ≠ second.1)
    (firstAdmitted : Admitted record firstRules first) (secondAdmitted : Admitted record secondRules second) :
    completedEntries record totals recorded [first, second] provenance =
      completedEntries record totals recorded [second, first] provenance := by
  obtain ⟨_, firstHeld, _⟩ := firstAdmitted.was
  obtain ⟨_, secondHeld, _⟩ := secondAdmitted.was
  have firstIn := held_key _ _ _ firstHeld
  have secondIn := held_key _ _ _ secondHeld
  have ruled : ∀ named, named = first ∨ named = second → ∃ rules, rulesOf named.1 = some rules := by
    rintro named (rfl | rfl)
    · exact ⟨_, firstAdmitted.ruled⟩
    · exact ⟨_, secondAdmitted.ruled⟩
  have put : ∀ named rules, named = first ∨ named = second → rulesOf named.1 = some rules →
      ∀ sections : List (String × Resolution), sections = [first, second] ∨ sections = [second, first] →
        (sections.foldl putNamed ⟨record, totals⟩).record.lookup named.1 = some (.dict (sectionOf named.2)) ∧
          (sections.foldl putNamed ⟨record, totals⟩).totals.lookup rules.amountKey = some named.2.amountMicros := by
    rintro named rules among its sections (rfl | rfl)
    · exact fold_named _ _ (by simpa [keysOf] using apart) (fun other member => ruled other (List.mem_pair.mp member)) named
        (List.mem_pair.mpr among) rules its
    · exact fold_named _ _ (by simpa [keysOf] using apart.symm)
        (fun other member => ruled other (List.mem_pair.mp member).symm) named (List.mem_pair.mpr among.symm) rules its
  have keys : ∀ sections : List (String × Resolution), sections = [first, second] ∨ sections = [second, first] →
      keysOf (sections.foldl putNamed ⟨record, totals⟩).record = keysOf record ∧
        keysOf (sections.foldl putNamed ⟨record, totals⟩).totals = keysOf totals := by
    rintro sections (rfl | rfl)
    · exact fold_keys _ _ (by simp [firstIn, secondIn]) shaped.totalsKeys.2
    · exact fold_keys _ _ (by simp [firstIn, secondIn]) shaped.totalsKeys.2
  have there := keys [first, second] (Or.inl rfl)
  have back := keys [second, first] (Or.inr rfl)
  have records : ([first, second].foldl putNamed ⟨record, totals⟩).record =
      ([second, first].foldl putNamed ⟨record, totals⟩).record := by
    apply entries_ext _ _ (by rw [there.1]; exact distinct) (there.1.trans back.1.symm)
    intro key
    by_cases isFirst : key = first.1
    · rw [isFirst, (put first _ (Or.inl rfl) firstAdmitted.ruled _ (Or.inl rfl)).1,
        (put first _ (Or.inl rfl) firstAdmitted.ruled _ (Or.inr rfl)).1]
    · by_cases isSecond : key = second.1
      · rw [isSecond, (put second _ (Or.inr rfl) secondAdmitted.ruled _ (Or.inl rfl)).1,
          (put second _ (Or.inr rfl) secondAdmitted.ruled _ (Or.inr rfl)).1]
      · rw [fold_other _ _ key (by simp [keysOf, isFirst, isSecond]), fold_other _ _ key (by simp [keysOf, isFirst, isSecond])]
  have amounts : ([first, second].foldl putNamed ⟨record, totals⟩).totals =
      ([second, first].foldl putNamed ⟨record, totals⟩).totals := by
    apply entries_ext _ _ (by rw [there.2]; exact totalsDistinct) (there.2.trans back.2.symm)
    intro key
    by_cases isFirst : key = firstRules.amountKey
    · rw [isFirst, (put first _ (Or.inl rfl) firstAdmitted.ruled _ (Or.inl rfl)).2,
        (put first _ (Or.inl rfl) firstAdmitted.ruled _ (Or.inr rfl)).2]
    · by_cases isSecond : key = secondRules.amountKey
      · rw [isSecond, (put second _ (Or.inr rfl) secondAdmitted.ruled _ (Or.inl rfl)).2,
          (put second _ (Or.inr rfl) secondAdmitted.ruled _ (Or.inr rfl)).2]
      · have elsewhere : ∀ named, named = first ∨ named = second → ∀ rules, rulesOf named.1 = some rules →
            key ≠ rules.amountKey := by
          rintro named (rfl | rfl) rules its
          · rw [Option.some.inj (its.symm.trans firstAdmitted.ruled)]
            exact isFirst
          · rw [Option.some.inj (its.symm.trans secondAdmitted.ruled)]
            exact isSecond
        rw [fold_total_other _ _ key (fun named member => elsewhere named (List.mem_pair.mp member)),
          fold_total_other _ _ key (fun named member => elsewhere named (List.mem_pair.mp member).symm)]
  rw [completedEntries, completedEntries, Completing.entries, Completing.entries, records, amounts]

theorem together_swapped (shaped : Shaped record totals derived) (distinct : (keysOf record).Nodup)
    (totalsDistinct : (keysOf totals).Nodup) (apart : first.1 ≠ second.1)
    (together : Completed record totals recorded [first, second] provenance completed) :
    Completed record totals recorded [second, first] provenance completed := by
  obtain ⟨heldTotals, heldProvenance, admitted, additive, rfl, valid⟩ := together
  obtain ⟨firstRules, firstAdmitted⟩ := admitted first List.mem_cons_self
  obtain ⟨secondRules, secondAdmitted⟩ := admitted second (by simp)
  have entries := entries_swapped record totals recorded provenance derived first second firstRules secondRules shaped distinct
    totalsDistinct apart firstAdmitted secondAdmitted
  refine ⟨heldTotals, heldProvenance, ?_, additive, entries, valid⟩
  intro named member
  exact admitted named (List.mem_pair.mpr (List.mem_pair.mp member).symm)

end

theorem held_distinct (held : Dict) (formed : (Value.dict held).WellFormed) (key : String) (inner : Dict)
    (found : held.lookup key = some (.dict inner)) : (keysOf inner).Nodup :=
  (entries_well_formed held formed.2 key _ found).1

theorem in_turn_iff (record : Dict) (valid : validateReceipt (.dict record) = .ok ())
    (formed : (Value.dict record).WellFormed) (first second : String × Resolution) (apart : first.1 ≠ second.1)
    (provenance : Dict) (provenanceFormed : (Value.dict provenance).WellFormed) (completed : Dict) :
    (∃ middle, completedRecord (.dict record) [first] provenance = .ok middle ∧
        completedRecord (.dict middle) [second] provenance = .ok completed) ↔
      completedRecord (.dict record) [first, second] provenance = .ok completed := by
  obtain ⟨totals, derived, _, shaped, heldTotals, _⟩ := held_parts record valid
  constructor
  · rintro ⟨middle, one, other⟩
    obtain ⟨totals', recorded, done⟩ := (completed_ok record valid _ provenance middle).mp one
    obtain ⟨middleTotals, middleRecorded, later⟩ := (completed_ok middle done.valid _ provenance completed).mp other
    obtain rfl := totals_of record totals totals' derived shaped done.heldTotals
    have recordedDistinct := held_distinct record formed "provenance" recorded done.heldProvenance
    exact (completed_ok record valid _ provenance completed).mpr ⟨_, _, in_turn_together record _ recorded provenance
      completed derived first second shaped formed.1 recordedDistinct provenanceFormed apart middle _ _ done later⟩
  · intro together
    obtain ⟨totals', recorded, done⟩ := (completed_ok record valid _ provenance completed).mp together
    obtain rfl := totals_of record totals totals' derived shaped done.heldTotals
    have recordedDistinct := held_distinct record formed "provenance" recorded done.heldProvenance
    obtain ⟨middle, one, other⟩ := together_in_turn record _ recorded provenance completed derived first second shaped
      formed.1 recordedDistinct provenanceFormed apart done
    exact ⟨middle, (completed_ok record valid _ provenance middle).mpr ⟨_, _, one⟩,
      (completed_ok middle one.valid _ provenance completed).mpr ⟨_, _, other⟩⟩

theorem swapped_iff (record : Dict) (valid : validateReceipt (.dict record) = .ok ())
    (formed : (Value.dict record).WellFormed) (first second : String × Resolution) (apart : first.1 ≠ second.1)
    (provenance completed : Dict) :
    completedRecord (.dict record) [first, second] provenance = .ok completed ↔
      completedRecord (.dict record) [second, first] provenance = .ok completed := by
  obtain ⟨totals, derived, _, shaped, heldTotals, _⟩ := held_parts record valid
  have totalsDistinct := held_distinct record formed "totals" totals heldTotals
  have oneWay : ∀ first second : String × Resolution, first.1 ≠ second.1 →
      completedRecord (.dict record) [first, second] provenance = .ok completed →
        completedRecord (.dict record) [second, first] provenance = .ok completed := by
    intro first second apart together
    obtain ⟨totals', recorded, done⟩ := (completed_ok record valid _ provenance completed).mp together
    obtain rfl := totals_of record totals totals' derived shaped done.heldTotals
    exact (completed_ok record valid _ provenance completed).mpr ⟨_, _, together_swapped record _ recorded provenance
      completed derived first second shaped formed.1 totalsDistinct apart done⟩
  exact ⟨oneWay first second apart, oneWay second first apart.symm⟩

end Ubb.Pricing.Stored
