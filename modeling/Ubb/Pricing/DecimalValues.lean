import Mathlib.Data.Nat.Digits.Lemmas
import Mathlib.Data.Rat.Defs
import Ubb.Pricing.DecimalGrammar

set_option autoImplicit false

-- The rational a decimal text denotes, and that one value has one canonical
-- spelling.
namespace Ubb.Pricing

open Library

def digitValue (digit : Char) : Nat := digit.toNat - 48

def wholeValue (whole : List Char) : Nat := Nat.ofDigits 10 (whole.reverse.map digitValue)

def fractionValue : List Char → ℚ
  | [] => 0
  | digit :: rest => (digitValue digit + fractionValue rest) / 10

def signOf (chars : List Char) : Int := if chars.head? = some '-' then -1 else 1

def bodyValue (body : List Char) : ℚ := wholeValue (wholePart body) + fractionValue (fractionPart body)

def denotes (chars : List Char) : ℚ := signOf chars * bodyValue (unsigned chars)

def valueOf (text : String) : ℚ := denotes text.toList

theorem digits_of_append (front back : List Char) :
    digitsOf (front ++ back) = digitsOf front * 10 ^ back.length + digitsOf back := by
  induction back using List.reverseRecOn with
  | nil => simp [digitsOf]
  | append_singleton back digit ih =>
    have step : ∀ digits, digitsOf (digits ++ [digit]) = digitsOf digits * 10 + (digit.toNat - 48) := by
      intro digits
      simp [digitsOf]
    rw [← List.append_assoc, step, ih, step, List.length_append, List.length_singleton, pow_succ]
    ring

theorem digits_of_cons (digit : Char) (rest : List Char) :
    digitsOf (digit :: rest) = digitValue digit * 10 ^ rest.length + digitsOf rest := by
  have split := digits_of_append [digit] rest
  simpa [digitsOf, digitValue] using split

theorem whole_value_eq (whole : List Char) : wholeValue whole = digitsOf whole := by
  induction whole with
  | nil => rfl
  | cons digit rest ih =>
    rw [digits_of_cons, ← ih, wholeValue, wholeValue, List.reverse_cons, List.map_append, Nat.ofDigits_append,
      List.length_map, List.length_reverse, List.map_singleton, Nat.ofDigits_singleton]
    ring

theorem fraction_value_eq (fraction : List Char) :
    fractionValue fraction = digitsOf fraction / 10 ^ fraction.length := by
  induction fraction with
  | nil => simp [fractionValue, digitsOf]
  | cons digit rest ih =>
    rw [fractionValue, ih, digits_of_cons, List.length_cons]
    push_cast
    field_simp
    ring

theorem body_value_eq (body : List Char) :
    bodyValue body = digitsOf (wholePart body ++ fractionPart body) / 10 ^ (fractionPart body).length := by
  rw [bodyValue, whole_value_eq, fraction_value_eq, digits_of_append]
  push_cast
  field_simp

-- What canonical edits away carries no value: zeros in front of the whole part
-- and behind the fraction, and the sign of a zero.
theorem leading_zeros (whole : List Char) : digitsOf (whole.dropWhile (· = '0')) = digitsOf whole := by
  induction whole with
  | nil => rfl
  | cons digit rest ih =>
    by_cases zero : digit = '0'
    · rw [zero, List.dropWhile_cons_of_pos (by decide), ih, digits_of_cons]
      simp [digitValue]
    · rw [List.dropWhile_cons_of_neg (by simpa using zero)]

theorem written_whole_value (whole : List Char) : wholeValue (writtenWhole whole) = wholeValue whole := by
  rw [whole_value_eq, whole_value_eq, ← leading_zeros whole, writtenWhole]
  split
  · next zeros => rw [zeros]; rfl
  · rfl

theorem fraction_value_append (front back : List Char) :
    fractionValue (front ++ back) = fractionValue front + fractionValue back / 10 ^ front.length := by
  induction front with
  | nil => simp [fractionValue]
  | cons digit rest ih =>
    rw [List.cons_append, fractionValue, ih, fractionValue, List.length_cons]
    field_simp
    ring

theorem fraction_of_zeros (zeros : List Char) (each : ∀ digit ∈ zeros, digit = '0') : fractionValue zeros = 0 := by
  induction zeros with
  | nil => rfl
  | cons digit rest ih =>
    rw [fractionValue, ih (fun later member => each later (List.mem_cons_of_mem _ member)),
      each digit List.mem_cons_self]
    simp [digitValue]

theorem trailing_zeros (fraction : List Char) :
    fractionValue (fraction.rdropWhile (· = '0')) = fractionValue fraction := by
  have split : fraction.rdropWhile (· = '0') ++ fraction.rtakeWhile (· = '0') = fraction :=
    List.rdropWhile_append_rtakeWhile
  have zeros : fractionValue (fraction.rtakeWhile (· = '0')) = 0 := by
    apply fraction_of_zeros
    intro digit member
    simpa using List.mem_rtakeWhile_imp member
  conv_rhs => rw [← split, fraction_value_append, zeros, zero_div, add_zero]

theorem written_parts (whole fraction : List Char) (digits : whole.all Char.isDigit = true) :
    wholePart (written whole fraction) = writtenWhole whole ∧
      fractionPart (written whole fraction) = fraction.rdropWhile (· = '0') := by
  have leads := leads_are_digits _ (written_whole_leads whole digits)
  simp only [areDigits, Bool.and_eq_true] at leads
  rw [written]
  split
  · next none =>
    obtain ⟨before, after⟩ := whole_part_of_digits (writtenWhole whole) leads.2 [] (Or.inl rfl)
    rw [List.append_nil] at before after
    rw [before, fractionPart, after, none]
    exact ⟨rfl, rfl⟩
  · obtain ⟨before, after⟩ := whole_part_of_digits (writtenWhole whole) leads.2
      ('.' :: fraction.rdropWhile (· = '0')) (Or.inr rfl)
    rw [before, fractionPart, after]
    exact ⟨rfl, rfl⟩

theorem written_value (body : List Char) (digits : (wholePart body).all Char.isDigit = true) :
    bodyValue (written (wholePart body) (fractionPart body)) = bodyValue body := by
  obtain ⟨whole, fraction⟩ := written_parts (wholePart body) (fractionPart body) digits
  rw [bodyValue, whole, fraction, written_whole_value, trailing_zeros, bodyValue]

theorem canonical_keeps_value (chars : List Char) (accepted : isAccepted chars = true) :
    denotes (canonicalText chars) = denotes chars := by
  obtain ⟨wholeDigits, fractionDigits⟩ := accepted_digits chars accepted
  have value := written_value (unsigned chars) wholeDigits
  simp only [canonicalText]
  split
  · next zero =>
    rw [zero] at value
    have nothing : bodyValue ['0'] = 0 := by
      have whole : wholeValue (wholePart ['0']) = 0 := by decide
      have fraction : fractionPart ['0'] = [] := by decide
      rw [bodyValue, whole, fraction, fractionValue, Nat.cast_zero, add_zero]
    have alone : bodyValue (unsigned ['0']) = 0 := nothing
    rw [denotes, denotes, ← value, nothing, alone, mul_zero, mul_zero]
  · next nonzero =>
    obtain ⟨_, plain⟩ := written_canonical _ _ wholeDigits fractionDigits nonzero
    split
    · next negative =>
      rw [denotes, denotes, signOf, signOf, if_pos negative, if_pos (by rfl), unsigned, value]
    · next positive =>
      have unsigned' := canonical_body_unsigned _ (written_canonical _ _ wholeDigits fractionDigits nonzero).1
      rw [denotes, denotes, signOf, signOf, if_neg positive, if_neg unsigned', plain, value]

def partsOf (chars : List Char) : ExactParts :=
  ⟨signOf chars, digitsOf (wholePart (unsigned chars) ++ fractionPart (unsigned chars)),
    (fractionPart (unsigned chars)).length⟩

theorem exact_parts_eq (text : String) :
    exactParts text = if isCanonical text then .ok (partsOf text.toList) else .error (.notCanonical text) := rfl

theorem parts_value (chars : List Char) :
    denotes chars = (partsOf chars).sign * (partsOf chars).digits / 10 ^ (partsOf chars).scale := by
  rw [denotes, body_value_eq, mul_div_assoc]
  rfl

theorem sign_of_cases (chars : List Char) : signOf chars = 1 ∨ signOf chars = -1 := by
  rw [signOf]
  split
  · exact Or.inr rfl
  · exact Or.inl rfl

-- What every canonical text is made of: a whole part without a leading zero, or
-- one zero, and a fraction that is absent or ends without one.
theorem canonical_shape (chars : List Char) (canonicalForm : isCanonicalText chars = true) :
    written (wholePart (unsigned chars)) (fractionPart (unsigned chars)) = unsigned chars ∧
      (wholePart (unsigned chars) = ['0'] ∨ leadsWithoutZero (wholePart (unsigned chars)) = true) ∧
      (fractionPart (unsigned chars) = [] ∨ endsWithoutZero (fractionPart (unsigned chars)) = true) := by
  simp only [isCanonicalText, Bool.or_eq_true, beq_iff_eq] at canonicalForm
  rcases canonicalForm with rfl | body
  · exact ⟨by decide, Or.inl (by decide), Or.inl (by decide)⟩
  · obtain ⟨same, _, _, _⟩ := canonical_body_parts _ body
    refine ⟨same, ?_⟩
    rw [isCanonicalBody] at body
    split at body
    · next absent => exact ⟨Or.inr body, Or.inl (by rw [fractionPart, absent]; rfl)⟩
    · simp only [Bool.and_eq_true, Bool.or_eq_true, beq_iff_eq] at body
      exact ⟨body.1, Or.inr body.2⟩

theorem digit_value_lt (digit : Char) (isDigit : digit.isDigit = true) : digitValue digit < 10 := by
  have range : 48 ≤ digit.toNat ∧ digit.toNat ≤ 57 := by
    simpa [Char.isDigit, UInt32.le_iff_toNat_le] using isDigit
  rw [digitValue]
  omega

theorem digit_value_inj (left right : Char) (isLeft : left.isDigit = true) (isRight : right.isDigit = true)
    (same : digitValue left = digitValue right) : left = right := by
  have leftRange : 48 ≤ left.toNat ∧ left.toNat ≤ 57 := by
    simpa [Char.isDigit, UInt32.le_iff_toNat_le] using isLeft
  have rightRange : 48 ≤ right.toNat ∧ right.toNat ≤ 57 := by
    simpa [Char.isDigit, UInt32.le_iff_toNat_le] using isRight
  simp only [digitValue] at same
  exact Char.toNat_inj.mp (by omega)

theorem nonzero_digit_value (digit : Char) (isDigit : digit.isDigit = true) (nonzero : digit ≠ '0') :
    0 < digitValue digit := by
  by_contra none
  exact nonzero (digit_value_inj digit '0' isDigit rfl (Nat.eq_zero_of_not_pos none))

theorem digits_of_lt (chars : List Char) (digits : chars.all Char.isDigit = true) :
    digitsOf chars < 10 ^ chars.length := by
  induction chars with
  | nil => simp [digitsOf]
  | cons digit rest ih =>
    simp only [List.all_cons, Bool.and_eq_true] at digits
    have first := digit_value_lt digit digits.1
    have others := ih digits.2
    rw [digits_of_cons, List.length_cons, pow_succ]
    nlinarith [Nat.mul_le_mul_right (10 ^ rest.length) (Nat.le_of_lt_succ first)]

theorem split_at_power (power front back front' back' : Nat) (small : back < power) (small' : back' < power)
    (same : front * power + back = front' * power + back') : front = front' ∧ back = back' := by
  have quotient : ∀ front back : Nat, back < power → (front * power + back) / power = front := by
    intro front back small
    rw [Nat.mul_comm, Nat.mul_add_div (by omega), Nat.div_eq_of_lt small, Nat.add_zero]
  have fronts : front = front' := by
    rw [← quotient front back small, same, quotient front' back' small']
  subst fronts
  exact ⟨rfl, by omega⟩

theorem digits_of_inj (left : List Char) : ∀ right : List Char, left.all Char.isDigit = true →
    right.all Char.isDigit = true → left.length = right.length → digitsOf left = digitsOf right → left = right := by
  induction left with
  | nil =>
    intro right _ _ length _
    exact (List.length_eq_zero_iff.mp length.symm).symm
  | cons digit rest ih =>
    intro right leftDigits rightDigits length same
    cases right with
    | nil => cases length
    | cons digit' rest' =>
      simp only [List.all_cons, Bool.and_eq_true] at leftDigits rightDigits
      have lengths : rest.length = rest'.length := Nat.succ.inj length
      rw [digits_of_cons, digits_of_cons, ← lengths] at same
      have small' : digitsOf rest' < 10 ^ rest.length := lengths ▸ digits_of_lt rest' rightDigits.2
      obtain ⟨first, others⟩ := split_at_power _ _ _ _ _ (digits_of_lt rest leftDigits.2) small' same
      rw [digit_value_inj digit digit' leftDigits.1 rightDigits.1 first, ih rest' leftDigits.2 rightDigits.2 lengths others]

theorem leading_digit_size (whole : List Char) (leads : leadsWithoutZero whole = true) :
    10 ^ (whole.length - 1) ≤ digitsOf whole := by
  cases whole with
  | nil => simp [leadsWithoutZero] at leads
  | cons first rest =>
    simp only [leadsWithoutZero, Bool.and_eq_true, decide_eq_true_eq] at leads
    have positive := nonzero_digit_value first leads.1.2 leads.1.1
    rw [digits_of_cons, List.length_cons, Nat.add_sub_cancel]
    nlinarith [Nat.mul_le_mul_right (10 ^ rest.length) positive]

theorem whole_digits (whole : List Char) (leads : whole = ['0'] ∨ leadsWithoutZero whole = true) :
    whole.all Char.isDigit = true ∧ whole ≠ [] := by
  have digits := leads_are_digits whole leads
  simp only [areDigits, Bool.and_eq_true, decide_eq_true_eq] at digits
  exact ⟨digits.2, digits.1⟩

-- Two whole parts without leading zeros that say the same number are as long
-- as each other: a longer one is at least the next power of ten.
theorem whole_length_le (left right : List Char) (leftLeads : left = ['0'] ∨ leadsWithoutZero left = true)
    (rightLeads : right = ['0'] ∨ leadsWithoutZero right = true) (same : digitsOf left = digitsOf right) :
    left.length ≤ right.length := by
  by_contra longer
  have present : right.length ≠ 0 := fun none => (whole_digits right rightLeads).2 (List.length_eq_zero_iff.mp none)
  rcases leftLeads with rfl | leads
  · simp only [List.length_singleton] at longer
    omega
  · have big := leading_digit_size left leads
    have small := digits_of_lt right (whole_digits right rightLeads).1
    have grows : 10 ^ right.length ≤ 10 ^ (left.length - 1) := Nat.pow_le_pow_right (by norm_num) (by omega)
    omega

theorem whole_part_inj (left right : List Char) (leftLeads : left = ['0'] ∨ leadsWithoutZero left = true)
    (rightLeads : right = ['0'] ∨ leadsWithoutZero right = true) (same : digitsOf left = digitsOf right) :
    left = right := by
  have length := Nat.le_antisymm (whole_length_le left right leftLeads rightLeads same)
    (whole_length_le right left rightLeads leftLeads same.symm)
  exact digits_of_inj left right (whole_digits left leftLeads).1 (whole_digits right rightLeads).1 length same

theorem fraction_digits (fraction : List Char) (ends : fraction = [] ∨ endsWithoutZero fraction = true) :
    fraction.all Char.isDigit = true := by
  rcases ends with rfl | ends
  · rfl
  · simp only [endsWithoutZero, Bool.and_eq_true] at ends
    exact ends.1

theorem last_digit (fraction : List Char) (ends : endsWithoutZero fraction = true) :
    ∃ front digit, fraction = front ++ [digit] ∧ 0 < digitValue digit ∧ digitValue digit < 10 := by
  simp only [endsWithoutZero, Bool.and_eq_true] at ends
  cases last : fraction.getLast? with
  | none => simp [last] at ends
  | some digit =>
    obtain ⟨front, rfl⟩ := List.getLast?_eq_some_iff.mp last
    have isDigit : digit.isDigit = true := List.all_eq_true.mp ends.1 digit (by simp)
    have nonzero : digit ≠ '0' := by simpa using ends.2
    exact ⟨front, digit, rfl, nonzero_digit_value digit isDigit nonzero, digit_value_lt digit isDigit⟩

theorem parts_least (chars : List Char) (canonicalForm : isCanonicalText chars = true) :
    (partsOf chars).scale = 0 ∨ ¬ 10 ∣ (partsOf chars).digits := by
  obtain ⟨_, _, ends⟩ := canonical_shape chars canonicalForm
  rcases ends with none | ends
  · exact Or.inl (by rw [partsOf, none]; rfl)
  · right
    obtain ⟨front, digit, shape, positive, small⟩ := last_digit _ ends
    rw [partsOf, shape, ← List.append_assoc, digits_of_append, digits_of_cons]
    simp only [List.length_singleton, pow_one, List.length_nil, pow_zero, mul_one, digitsOf, List.foldl_nil]
    omega

theorem parts_positive (chars : List Char) (canonicalForm : isCanonicalText chars = true)
    (nothing : (partsOf chars).digits = 0) : signOf chars = 1 := by
  obtain ⟨same, leads, ends⟩ := canonical_shape chars canonicalForm
  have parts : digitsOf (wholePart (unsigned chars)) = 0 ∧ digitsOf (fractionPart (unsigned chars)) = 0 := by
    have total : digitsOf (wholePart (unsigned chars) ++ fractionPart (unsigned chars)) = 0 := nothing
    rw [digits_of_append] at total
    have ten : 0 < 10 ^ (fractionPart (unsigned chars)).length := by positivity
    exact ⟨by nlinarith, by omega⟩
  have whole := whole_part_inj _ ['0'] leads (Or.inl rfl) (by rw [parts.1]; rfl)
  have fraction : fractionPart (unsigned chars) = [] := by
    rcases ends with none | ends
    · exact none
    · obtain ⟨front, digit, shape, positive, _⟩ := last_digit _ ends
      have value := parts.2
      rw [shape, digits_of_append, digits_of_cons] at value
      simp only [List.length_nil, pow_zero, mul_one] at value
      omega
  have zero : unsigned chars = ['0'] := by rw [← same, whole, fraction]; rfl
  simp only [isCanonicalText, Bool.or_eq_true, beq_iff_eq, zero] at canonicalForm
  rcases canonicalForm with rfl | impossible
  · rfl
  · exact absurd impossible (by decide)

theorem least_scale (numerator numerator' : Int) (scale scale' : Nat)
    (same : (numerator : ℚ) / 10 ^ scale = numerator' / 10 ^ scale') (least : scale = 0 ∨ ¬ (10 : Int) ∣ numerator) :
    scale ≤ scale' := by
  by_contra smaller
  have exact : (numerator : ℚ) = numerator' * 10 ^ (scale - scale') := by
    have grown : (10 : ℚ) ^ scale = 10 ^ (scale - scale') * 10 ^ scale' := by
      rw [← pow_add, Nat.sub_add_cancel (by omega)]
    rw [grown] at same
    field_simp at same
    linarith
  have whole : numerator = numerator' * 10 ^ (scale - scale') := by exact_mod_cast exact
  rcases least with none | least
  · omega
  · refine least ⟨numerator' * 10 ^ (scale - scale' - 1), ?_⟩
    have one : scale - scale' = scale - scale' - 1 + 1 := by omega
    rw [whole, one, pow_succ]
    simp only [Nat.add_sub_cancel]
    ring

theorem signed_least (parts : ExactParts) (sign : parts.sign = 1 ∨ parts.sign = -1)
    (least : parts.scale = 0 ∨ ¬ 10 ∣ parts.digits) : parts.scale = 0 ∨ ¬ (10 : Int) ∣ parts.sign * parts.digits := by
  rcases least with none | least
  · exact Or.inl none
  · right
    intro divides
    apply least
    rcases sign with positive | negative
    · rw [positive, one_mul] at divides
      exact_mod_cast divides
    · rw [negative, neg_one_mul, Int.dvd_neg] at divides
      exact_mod_cast divides

theorem parts_scale_least (chars : List Char) (canonicalForm : isCanonicalText chars = true) (numerator : Int)
    (scale : Nat) (same : denotes chars = numerator / 10 ^ scale) : (partsOf chars).scale ≤ scale := by
  rw [parts_value] at same
  refine least_scale ((partsOf chars).sign * (partsOf chars).digits) numerator _ _ ?_
    (signed_least _ (sign_of_cases chars) (parts_least chars canonicalForm))
  push_cast
  exact same

theorem parts_determined (left right : List Char) (leftForm : isCanonicalText left = true)
    (rightForm : isCanonicalText right = true) (same : denotes left = denotes right) : partsOf left = partsOf right := by
  have scales : (partsOf left).scale = (partsOf right).scale := by
    apply Nat.le_antisymm
    · refine parts_scale_least left leftForm ((partsOf right).sign * (partsOf right).digits) _ ?_
      rw [same, parts_value]
      push_cast
      rfl
    · refine parts_scale_least right rightForm ((partsOf left).sign * (partsOf left).digits) _ ?_
      rw [← same, parts_value]
      push_cast
      rfl
  have signed : (partsOf left).sign * (partsOf left).digits = (partsOf right).sign * (partsOf right).digits := by
    rw [parts_value, parts_value, scales] at same
    have cleared := (div_left_inj' (by positivity)).mp same
    exact_mod_cast cleared
  have leftZero : (partsOf left).digits = 0 → (partsOf left).sign = 1 := parts_positive left leftForm
  have rightZero : (partsOf right).digits = 0 → (partsOf right).sign = 1 := parts_positive right rightForm
  have leftSign : (partsOf left).sign = 1 ∨ (partsOf left).sign = -1 := sign_of_cases left
  have rightSign : (partsOf right).sign = 1 ∨ (partsOf right).sign = -1 := sign_of_cases right
  have both : (partsOf left).sign = (partsOf right).sign ∧ (partsOf left).digits = (partsOf right).digits := by
    rcases leftSign with leftSign | leftSign <;> rcases rightSign with rightSign | rightSign <;>
      rw [leftSign, rightSign] at signed <;> rw [leftSign] at leftZero ⊢ <;> rw [rightSign] at rightZero ⊢ <;> omega
  cases leftParts : partsOf left
  cases rightParts : partsOf right
  rw [leftParts, rightParts] at scales both
  simp only [ExactParts.mk.injEq]
  exact ⟨both.1, both.2, scales⟩

theorem text_determined (left right : List Char) (leftForm : isCanonicalText left = true)
    (rightForm : isCanonicalText right = true) (same : partsOf left = partsOf right) : left = right := by
  obtain ⟨leftSame, leftLeads, leftEnds⟩ := canonical_shape left leftForm
  obtain ⟨rightSame, rightLeads, rightEnds⟩ := canonical_shape right rightForm
  simp only [partsOf, ExactParts.mk.injEq] at same
  obtain ⟨sign, digits, scale⟩ := same
  rw [digits_of_append, digits_of_append, ← scale] at digits
  have leftSmall := digits_of_lt _ (fraction_digits _ leftEnds)
  have rightSmall := digits_of_lt _ (fraction_digits _ rightEnds)
  rw [← scale] at rightSmall
  obtain ⟨wholes, fractions⟩ := split_at_power _ _ _ _ _ leftSmall rightSmall digits
  have whole := whole_part_inj _ _ leftLeads rightLeads wholes
  have fraction := digits_of_inj _ _ (fraction_digits _ leftEnds) (fraction_digits _ rightEnds) scale fractions
  have bodies : unsigned left = unsigned right := by rw [← leftSame, ← rightSame, whole, fraction]
  rcases unsigned_cases left with ⟨leftFirst, leftShape⟩ | ⟨leftFirst, leftPlain⟩ <;>
    rcases unsigned_cases right with ⟨rightFirst, rightShape⟩ | ⟨rightFirst, rightPlain⟩
  · rw [leftShape, rightShape, bodies]
  · rw [signOf, signOf, if_pos leftFirst, if_neg rightFirst] at sign
    cases sign
  · rw [signOf, signOf, if_neg leftFirst, if_pos rightFirst] at sign
    cases sign
  · rw [← leftPlain, ← rightPlain, bodies]

theorem one_spelling (left right : List Char) (leftForm : isCanonicalText left = true)
    (rightForm : isCanonicalText right = true) (same : denotes left = denotes right) : left = right :=
  text_determined left right leftForm rightForm (parts_determined left right leftForm rightForm same)

theorem leads_append (front back : List Char) (leads : leadsWithoutZero front = true)
    (digits : back.all Char.isDigit = true) : leadsWithoutZero (front ++ back) = true := by
  cases front with
  | nil => simp [leadsWithoutZero] at leads
  | cons first rest =>
    simp only [leadsWithoutZero, Bool.and_eq_true] at leads
    simp only [List.cons_append, leadsWithoutZero, List.all_append, leads, digits, Bool.and_self]

theorem decimal_digits (whole : Nat) : (Nat.toDigits 10 whole).all Char.isDigit = true :=
  List.all_eq_true.mpr (fun _ member => Nat.isDigit_of_mem_toDigits (by decide) (by decide) member)

theorem decimal_leads (whole : Nat) (positive : 0 < whole) : leadsWithoutZero (Nat.toDigits 10 whole) = true := by
  induction whole using Nat.base_induction 10 (by decide) with
  | single digit small =>
    rw [Nat.toDigits_of_lt_base small]
    interval_cases digit <;> decide
  | digit front last small present ih =>
    rw [← Nat.toDigits_append_toDigits (by decide) present small]
    exact leads_append _ _ (ih present) (decimal_digits last)

theorem decimal_value (whole : Nat) : digitsOf (Nat.toDigits 10 whole) = whole := by
  have read : digitsOf (Nat.toDigits 10 whole) = Nat.ofDigitChars 10 (Nat.toDigits 10 whole) 0 := by
    rw [digitsOf, Nat.ofDigitChars_eq_foldl]
    simp only [Nat.mul_comm 10]
    rfl
  rw [read, Nat.ofDigitChars_ten_toDigits]

theorem last_digits_first (whole : Nat) (positive : 0 < whole) :
    (lastDigitsFirst whole).reverse = Nat.toDigits 10 whole := by
  have letters : ∀ digit, digit < 10 → Char.ofNat (48 + digit) = Nat.digitChar digit := by decide
  induction whole using Nat.base_induction 10 (by decide) with
  | single digit small =>
    rw [lastDigitsFirst, if_neg (by omega), Nat.div_eq_of_lt small, lastDigitsFirst, if_pos rfl,
      Nat.toDigits_of_lt_base small, Nat.mod_eq_of_lt small, letters digit small]
    rfl
  | digit front last small present ih =>
    have quotient : (10 * front + last) / 10 = front := by omega
    have remainder : (10 * front + last) % 10 = last := by omega
    rw [lastDigitsFirst, if_neg (by omega), quotient, remainder, List.reverse_cons, ih present, letters last small,
      ← Nat.toDigits_append_toDigits (by decide) present small, Nat.toDigits_of_lt_base small]

theorem safe_below_positive : 0 < strIsSafeBelow := by
  rw [strIsSafeBelow]
  positivity

-- The loop spells what str() would have, wherever str() refuses.
theorem whole_digits_eq (whole : Nat) : wholeDigits whole = toString whole := by
  rw [wholeDigits]
  split
  · rfl
  · next large =>
    have positive : 0 < whole := by
      by_contra none
      rw [Nat.eq_zero_of_not_pos none] at large
      exact large safe_below_positive
    rw [last_digits_first whole positive, Nat.toString_eq_repr, Nat.repr_eq_ofList_toDigits]

theorem integer_text (value : Int) :
    (if value < 0 then "-" ++ wholeDigits (-value).toNat else wholeDigits value.toNat) = toString value := by
  rw [whole_digits_eq, whole_digits_eq]
  cases value with
  | ofNat whole => rfl
  | negSucc below =>
    rw [if_pos (Int.negSucc_lt_zero below)]
    rfl

theorem integer_chars (value : Int) :
    (toString value).toList = if value < 0 then '-' :: Nat.toDigits 10 value.natAbs else Nat.toDigits 10 value.natAbs := by
  rw [← integer_text, whole_digits_eq, whole_digits_eq]
  split
  · next below =>
    have size : (-value).toNat = value.natAbs := by omega
    rw [size, String.toList_append, Nat.toString_eq_repr, Nat.toList_repr]
    rfl
  · next above =>
    have size : value.toNat = value.natAbs := by omega
    rw [size, Nat.toString_eq_repr, Nat.toList_repr]

theorem decimal_body (whole : Nat) :
    wholePart (Nat.toDigits 10 whole) = Nat.toDigits 10 whole ∧ afterWhole (Nat.toDigits 10 whole) = [] := by
  have parts := whole_part_of_digits (Nat.toDigits 10 whole) (decimal_digits whole) [] (Or.inl rfl)
  rwa [List.append_nil] at parts

theorem decimal_body_value (whole : Nat) : bodyValue (Nat.toDigits 10 whole) = whole := by
  obtain ⟨before, after⟩ := decimal_body whole
  rw [bodyValue, before, fractionPart, after, whole_value_eq, decimal_value]
  exact add_zero _

theorem decimal_unsigned (whole : Nat) : unsigned (Nat.toDigits 10 whole) = Nat.toDigits 10 whole := by
  have digits : areDigits (Nat.toDigits 10 whole) = true := by
    simp [areDigits, decimal_digits whole, Nat.toDigits_ne_nil]
  have plain := unsigned_of_digits (Nat.toDigits 10 whole) [] digits
  rwa [List.append_nil] at plain

theorem decimal_canonical (whole : Nat) (positive : 0 < whole) : isCanonicalBody (Nat.toDigits 10 whole) = true := by
  obtain ⟨before, after⟩ := decimal_body whole
  rw [isCanonicalBody, if_pos after, before, decimal_leads whole positive]

theorem integer_canonical (value : Int) : isCanonicalText (toString value).toList = true := by
  rw [integer_chars, isCanonicalText]
  split
  · next below => rw [unsigned, decimal_canonical _ (by omega), Bool.or_true]
  · by_cases zero : value = 0
    · rw [zero]
      decide
    · rw [decimal_unsigned, decimal_canonical _ (by omega), Bool.or_true]

theorem integer_value (value : Int) : valueOf (toString value) = value := by
  rw [valueOf, integer_chars]
  split
  · next below =>
    have size : (value.natAbs : ℚ) = -value := by
      rw [← Int.cast_natCast, Int.ofNat_natAbs_of_nonpos (by omega), Int.cast_neg]
    rw [denotes, signOf, if_pos (by rfl), unsigned, decimal_body_value, size]
    push_cast
    ring
  · next above =>
    have size : (value.natAbs : ℚ) = value := by
      rw [← Int.cast_natCast, Int.natAbs_of_nonneg (by omega)]
    have positive : (Nat.toDigits 10 value.natAbs).head? ≠ some '-' := by
      have digits := digits_first_unsigned (Nat.toDigits 10 value.natAbs) (decimal_digits _) Nat.toDigits_ne_nil []
      rwa [List.append_nil] at digits
    rw [denotes, signOf, if_neg positive, decimal_unsigned, decimal_body_value, size]
    push_cast
    ring

theorem canonical_ok (text spelled : String) :
    canonical text = .ok spelled ↔
      isAccepted text.toList = true ∧ spelled = String.ofList (canonicalText text.toList) := by
  rw [canonical]
  split
  · next accepted =>
    constructor
    · intro answered
      exact ⟨accepted, (Except.ok.inj answered).symm⟩
    · rintro ⟨_, rfl⟩
      rfl
  · next refused =>
    constructor
    · intro impossible
      cases impossible
    · exact fun answered => absurd answered.1 refused

theorem canonical_accepts (text : String) :
    (∃ spelled, canonical text = .ok spelled) ↔ text.toList ∈ ACCEPTED.matches' := by
  rw [← accepted_matches]
  constructor
  · rintro ⟨spelled, answered⟩
    exact ((canonical_ok text spelled).mp answered).1
  · intro accepted
    exact ⟨_, (canonical_ok text _).mpr ⟨accepted, rfl⟩⟩

theorem canonical_value (text spelled : String) (answered : canonical text = .ok spelled) :
    valueOf spelled = valueOf text := by
  obtain ⟨accepted, rfl⟩ := (canonical_ok text spelled).mp answered
  rw [valueOf, String.toList_ofList, canonical_keeps_value _ accepted, valueOf]

theorem canonical_same_iff (left right leftSpelled rightSpelled : String) (leftAnswer : canonical left = .ok leftSpelled)
    (rightAnswer : canonical right = .ok rightSpelled) : leftSpelled = rightSpelled ↔ valueOf left = valueOf right := by
  rw [← canonical_value left leftSpelled leftAnswer, ← canonical_value right rightSpelled rightAnswer]
  constructor
  · rintro rfl
    rfl
  · intro same
    exact String.toList_injective (one_spelling _ _ (canonical_is_canonical left leftSpelled leftAnswer)
      (canonical_is_canonical right rightSpelled rightAnswer) same)

theorem fixed_iff_canonical (text : String) : canonical text = .ok text ↔ text.toList ∈ CANONICAL.matches' := by
  rw [← canonical_matches]
  exact ⟨canonical_is_canonical text text, canonical_fixed text⟩

theorem exact_parts_accepts (text : String) :
    (∃ parts, exactParts text = .ok parts) ↔ text.toList ∈ CANONICAL.matches' := by
  rw [← canonical_matches, exact_parts_eq]
  by_cases canonicalForm : isCanonical text = true
  · rw [if_pos canonicalForm]
    exact ⟨fun _ => canonicalForm, fun _ => ⟨_, rfl⟩⟩
  · rw [if_neg canonicalForm]
    exact ⟨fun ⟨_, impossible⟩ => (nomatch impossible), fun holds => absurd holds canonicalForm⟩

theorem exact_parts_ok_iff (text : String) (parts : ExactParts) :
    exactParts text = .ok parts ↔ isCanonical text = true ∧ parts = partsOf text.toList := by
  rw [exact_parts_eq]
  by_cases canonicalForm : isCanonical text = true
  · rw [if_pos canonicalForm]
    exact ⟨fun answered => ⟨canonicalForm, (Except.ok.inj answered).symm⟩, fun holds => by rw [holds.2]⟩
  · rw [if_neg canonicalForm]
    exact ⟨fun impossible => (nomatch impossible), fun holds => absurd holds.1 canonicalForm⟩

theorem exact_parts_value (text : String) (parts : ExactParts) (answered : exactParts text = .ok parts) :
    (parts.sign = 1 ∨ parts.sign = -1) ∧ valueOf text = parts.sign * parts.digits / 10 ^ parts.scale ∧
      ∀ (numerator : Int) (scale : Nat), valueOf text = numerator / 10 ^ scale → parts.scale ≤ scale := by
  obtain ⟨canonicalForm, rfl⟩ := (exact_parts_ok_iff text parts).mp answered
  exact ⟨sign_of_cases _, parts_value _, parts_scale_least _ canonicalForm⟩

theorem canonical_quantity_whole (value : Int) :
    canonicalQuantity (.whole value) = .ok (toString value) ∧ canonical (toString value) = .ok (toString value) := by
  have fixed := canonical_fixed (toString value) (integer_canonical value)
  refine ⟨?_, fixed⟩
  rw [canonicalQuantity, integer_text, fixed]

theorem no_point_iff (chars : List Char) : '.' ∉ chars ↔ afterWhole (unsigned chars) = [] := by
  have body : '.' ∈ unsigned chars ↔ afterWhole (unsigned chars) ≠ [] := by
    constructor
    · intro member absent
      have split := body_split (unsigned chars)
      rw [absent, List.append_nil] at split
      rw [← split] at member
      simpa [wholePart] using List.mem_takeWhile_imp member
    · intro present
      rw [← body_split (unsigned chars), (after_whole_pointed _).resolve_left present]
      simp
  rcases unsigned_cases chars with ⟨_, shape⟩ | ⟨_, plain⟩
  · rw [shape, List.mem_cons, not_or]
    simp only [body, ne_eq, not_not]
    rw [← shape]
    simp
  · rw [plain] at body ⊢
    rw [body, not_not]

theorem canonical_no_point (chars : List Char) (canonicalForm : isCanonicalText chars = true) :
    afterWhole (unsigned chars) = [] ↔ (partsOf chars).scale = 0 := by
  obtain ⟨same, leads, _⟩ := canonical_shape chars canonicalForm
  constructor
  · intro absent
    rw [partsOf, fractionPart, absent]
    rfl
  · intro none
    have empty : fractionPart (unsigned chars) = [] := List.length_eq_zero_iff.mp none
    have split := body_split (unsigned chars)
    rw [written, empty, if_pos (by rfl), leads_written _ leads] at same
    exact List.append_cancel_left (split.trans (same.symm.trans (List.append_nil _).symm))

theorem is_whole_iff (text : String) (canonicalForm : isCanonical text = true) :
    isWhole text = true ↔ ∃ value : Int, valueOf text = value := by
  have point : isWhole text = true ↔ (partsOf text.toList).scale = 0 := by
    rw [← canonical_no_point _ canonicalForm, ← no_point_iff, isWhole]
    simp
  rw [point]
  constructor
  · intro none
    refine ⟨(partsOf text.toList).sign * (partsOf text.toList).digits, ?_⟩
    rw [valueOf, parts_value, none, pow_zero, div_one]
    push_cast
    rfl
  · rintro ⟨value, same⟩
    exact Nat.le_zero.mp (parts_scale_least _ canonicalForm value 0 (by rw [← valueOf, same, pow_zero, div_one]))

theorem str_is_safe (whole : Nat) (below : whole < strIsSafeBelow) : (toString whole).length ≤ 4300 := by
  have digits : (Nat.repr whole).length ≤ 4000 := Nat.repr_length whole 4000 (by decide) below
  rw [Nat.toString_eq_repr]
  omega

theorem exact_decimals_have_one_spelling :
    (∀ text, (∃ spelled, canonical text = .ok spelled) ↔ text.toList ∈ ACCEPTED.matches') ∧
    (∀ text spelled, canonical text = .ok spelled →
      valueOf spelled = valueOf text ∧ canonical spelled = .ok spelled ∧ spelled.toList ∈ CANONICAL.matches') ∧
    (∀ left right leftSpelled rightSpelled, canonical left = .ok leftSpelled → canonical right = .ok rightSpelled →
      (leftSpelled = rightSpelled ↔ valueOf left = valueOf right)) ∧
    (∀ text, text.toList ∈ CANONICAL.matches' ↔ canonical text = .ok text) ∧
    (∀ text, (∃ parts, exactParts text = .ok parts) ↔ text.toList ∈ CANONICAL.matches') ∧
    (∀ text parts, exactParts text = .ok parts →
      (parts.sign = 1 ∨ parts.sign = -1) ∧ valueOf text = parts.sign * parts.digits / 10 ^ parts.scale ∧
        ∀ (numerator : Int) (scale : Nat), valueOf text = numerator / 10 ^ scale → parts.scale ≤ scale) ∧
    (∀ value : Int, canonicalQuantity (.whole value) = canonical (toString value) ∧
      canonicalQuantity (.whole value) = .ok (toString value) ∧ valueOf (toString value) = value) ∧
    (∀ whole, whole < strIsSafeBelow → (toString whole).length ≤ 4300) := by
  refine ⟨canonical_accepts, ?_, canonical_same_iff, fun text => (fixed_iff_canonical text).symm, exact_parts_accepts,
    exact_parts_value, ?_, str_is_safe⟩
  · intro text spelled answered
    have form := canonical_is_canonical text spelled answered
    exact ⟨canonical_value text spelled answered, canonical_fixed spelled form, (canonical_matches _).mp form⟩
  · intro value
    obtain ⟨quantity, fixed⟩ := canonical_quantity_whole value
    exact ⟨quantity.trans fixed.symm, quantity, integer_value value⟩

end Ubb.Pricing
