import Ubb.Library.Patterns
import Ubb.Pricing.ExactDecimals

set_option autoImplicit false

-- ACCEPTED and CANONICAL as the patterns they are, and that the two matchers
-- answer for them.
namespace Ubb.Pricing

open Library RegularExpression

-- [0-9] and [1-9].
def digitLetters : List Char := ['0', '1', '2', '3', '4', '5', '6', '7', '8', '9']
def nonzeroLetters : List Char := ['1', '2', '3', '4', '5', '6', '7', '8', '9']

-- -?[0-9]+(\.[0-9]+)?
def ACCEPTED : RegularExpression Char :=
  maybe (char '-') * (atLeastOne (oneOf digitLetters) * maybe (char '.' * atLeastOne (oneOf digitLetters)))

-- [0-9]*[1-9]
def endingNonzero : RegularExpression Char := (oneOf digitLetters).star * oneOf nonzeroLetters

-- 0|-?(0\.[0-9]*[1-9]|[1-9][0-9]*(\.[0-9]*[1-9])?)
def CANONICAL : RegularExpression Char :=
  char '0' + maybe (char '-') *
    (char '0' * (char '.' * endingNonzero) +
      oneOf nonzeroLetters * ((oneOf digitLetters).star * maybe (char '.' * endingNonzero)))

theorem nonzero_within (letter : Char) (nonzero : letter ∈ nonzeroLetters) : letter ∈ digitLetters :=
  List.mem_cons_of_mem '0' nonzero

theorem digit_letter (letter : Char) : letter ∈ digitLetters ↔ letter.isDigit = true := by
  constructor
  · intro member
    have each : ∀ digit ∈ digitLetters, digit.isDigit = true := List.all_eq_true.mp rfl
    exact each letter member
  · intro isDigit
    have range : 48 ≤ letter.toNat ∧ letter.toNat ≤ 57 := by
      simpa [Char.isDigit, UInt32.le_iff_toNat_le] using isDigit
    have each : ∀ code, 48 ≤ code → code ≤ 57 → Char.ofNat code ∈ digitLetters := by
      intro code atLeast atMost
      interval_cases code <;> decide
    rw [← Char.ofNat_toNat letter]
    exact each letter.toNat range.1 range.2

theorem nonzero_letter (letter : Char) : letter ∈ nonzeroLetters ↔ letter.isDigit = true ∧ letter ≠ '0' := by
  have shape : letter ∈ digitLetters ↔ letter = '0' ∨ letter ∈ nonzeroLetters := List.mem_cons
  have apart : letter ∈ nonzeroLetters → letter ≠ '0' := by
    rintro member rfl
    exact absurd member (by decide)
  rw [← digit_letter, shape]
  constructor
  · intro member
    exact ⟨Or.inr member, apart member⟩
  · rintro ⟨zero | member, nonzero⟩
    · exact absurd zero nonzero
    · exact member

theorem all_digits (word : List Char) : word.all Char.isDigit = true ↔ ∀ letter ∈ word, letter ∈ digitLetters := by
  simp only [List.all_eq_true, digit_letter]

theorem are_digits_matches (word : List Char) :
    areDigits word = true ↔ word ∈ (atLeastOne (oneOf digitLetters)).matches' := by
  rw [matches_some_of, ← all_digits]
  simp [areDigits]

theorem leads_matches (word : List Char) :
    leadsWithoutZero word = true ↔
      word ∈ (oneOf nonzeroLetters * (oneOf digitLetters).star).matches' := by
  rw [matches_joined]
  constructor
  · intro leads
    cases word with
    | nil => simp [leadsWithoutZero] at leads
    | cons first rest =>
      simp only [leadsWithoutZero, Bool.and_eq_true, decide_eq_true_eq] at leads
      refine ⟨[first], rest, ?_, ?_, rfl⟩
      · exact (matches_one_of _ _).mpr ⟨first, (nonzero_letter first).mpr ⟨leads.1.2, leads.1.1⟩, rfl⟩
      · exact (matches_any_of _ _).mpr ((all_digits rest).mp leads.2)
  · rintro ⟨front, rest, first, matched, rfl⟩
    obtain ⟨letter, member, rfl⟩ := (matches_one_of _ _).mp first
    have nonzero := (nonzero_letter letter).mp member
    have digits := (all_digits rest).mpr ((matches_any_of _ _).mp matched)
    simp only [List.cons_append, List.nil_append, leadsWithoutZero, nonzero.1, digits, Bool.and_true]
    simpa using nonzero.2

theorem ends_matches (word : List Char) : endsWithoutZero word = true ↔ word ∈ endingNonzero.matches' := by
  rw [endingNonzero, matches_ending _ _ _ nonzero_within, ← all_digits, endsWithoutZero, Bool.and_eq_true]
  constructor
  · rintro ⟨digits, final⟩
    refine ⟨digits, ?_⟩
    cases last : word.getLast? with
    | none => simp [last] at final
    | some letter =>
      have member : letter ∈ word := List.mem_of_getLast? last
      refine ⟨letter, (nonzero_letter letter).mpr ⟨List.all_eq_true.mp digits letter member, ?_⟩, rfl⟩
      simpa [last] using final
  · rintro ⟨digits, letter, member, last⟩
    refine ⟨digits, ?_⟩
    rw [last]
    simpa using ((nonzero_letter letter).mp member).2

theorem matches_signed (pattern : RegularExpression Char) (chars : List Char)
    (unsignedOnly : ∀ word ∈ pattern.matches', word.head? ≠ some '-') :
    chars ∈ (maybe (char '-') * pattern).matches' ↔ unsigned chars ∈ pattern.matches' := by
  rw [matches_joined]
  constructor
  · rintro ⟨front, body, sign, matched, rfl⟩
    rcases (matches_maybe _ _).mp sign with rfl | minus
    · rcases unsigned_cases ([] ++ body) with ⟨first, _⟩ | ⟨_, plain⟩
      · exact absurd first (unsignedOnly body matched)
      · rw [plain]
        exact matched
    · rw [(matches_char _ _).mp minus]
      exact matched
  · intro matched
    rcases unsigned_cases chars with ⟨_, shape⟩ | ⟨_, plain⟩
    · exact ⟨['-'], unsigned chars, (matches_maybe _ _).mpr (Or.inr ((matches_char _ _).mpr rfl)), matched, shape⟩
    · exact ⟨[], chars, (matches_maybe _ _).mpr (Or.inl rfl), by rwa [plain] at matched, rfl⟩

theorem matches_body (front fraction : RegularExpression Char) (body : List Char)
    (digits : ∀ word ∈ front.matches', word.all Char.isDigit = true) :
    body ∈ (front * maybe (char '.' * fraction)).matches' ↔
      wholePart body ∈ front.matches' ∧ (afterWhole body = [] ∨ fractionPart body ∈ fraction.matches' ∧ afterWhole body ≠ []) := by
  rw [matches_joined]
  constructor
  · rintro ⟨whole, rest, matched, pointed, rfl⟩
    rcases (matches_maybe _ _).mp pointed with rfl | pointed
    · obtain ⟨before, after⟩ := whole_part_of_digits whole (digits whole matched) [] (Or.inl rfl)
      rw [before]
      exact ⟨matched, Or.inl after⟩
    · obtain ⟨part, ends, rfl⟩ := (matches_after _ _ _).mp pointed
      obtain ⟨before, after⟩ := whole_part_of_digits whole (digits whole matched) ('.' :: part) (Or.inr rfl)
      rw [before, fractionPart, after]
      exact ⟨matched, Or.inr ⟨ends, by simp⟩⟩
  · rintro ⟨matched, rest⟩
    refine ⟨wholePart body, afterWhole body, matched, ?_, (body_split body).symm⟩
    rcases rest with absent | ⟨ends, present⟩
    · exact (matches_maybe _ _).mpr (Or.inl absent)
    · rw [(after_whole_pointed body).resolve_left present]
      exact (matches_maybe _ _).mpr (Or.inr ((matches_after _ _ _).mpr ⟨_, ends, rfl⟩))

theorem digits_first_unsigned (word : List Char) (digits : word.all Char.isDigit = true) (present : word ≠ [])
    (rest : List Char) : (word ++ rest).head? ≠ some '-' := by
  cases word with
  | nil => exact absurd rfl present
  | cons first tail =>
    intro minus
    have isDigit : first.isDigit = true := List.all_eq_true.mp digits first List.mem_cons_self
    exact digit_ne_minus first isDigit (Option.some.inj minus)

theorem joined_grouped (first second third : RegularExpression Char) :
    (first * (second * third)).matches' = (first * second * third).matches' := by
  simp only [matches'_mul, mul_assoc]

theorem accepted_body_unsigned (body : List Char)
    (matched : body ∈ (atLeastOne (oneOf digitLetters) * maybe (char '.' * atLeastOne (oneOf digitLetters))).matches') :
    body.head? ≠ some '-' := by
  obtain ⟨front, rest, digits, _, rfl⟩ := (matches_joined _ _ _).mp matched
  have spelled := (are_digits_matches front).mpr digits
  simp only [areDigits, Bool.and_eq_true, decide_eq_true_eq] at spelled
  exact digits_first_unsigned front spelled.2 spelled.1 rest

theorem accepted_matches (chars : List Char) : isAccepted chars = true ↔ chars ∈ ACCEPTED.matches' := by
  have spelled : ∀ word ∈ (atLeastOne (oneOf digitLetters)).matches', word.all Char.isDigit = true := by
    intro word matched
    have digits := (are_digits_matches word).mpr matched
    simp only [areDigits, Bool.and_eq_true] at digits
    exact digits.2
  rw [ACCEPTED, matches_signed _ _ accepted_body_unsigned, matches_body _ _ _ spelled, ← are_digits_matches,
    ← are_digits_matches, isAccepted, Bool.and_eq_true, Bool.or_eq_true, beq_iff_eq]
  refine and_congr_right fun _ => ?_
  constructor
  · rintro (absent | digits)
    · exact Or.inl absent
    · by_cases absent : afterWhole (unsigned chars) = []
      · exact Or.inl absent
      · exact Or.inr ⟨digits, absent⟩
  · rintro (absent | ⟨digits, _⟩)
    · exact Or.inl absent
    · exact Or.inr digits

theorem pointed_zero (body : List Char) :
    body ∈ (char '0' * (char '.' * endingNonzero)).matches' ↔
      afterWhole body ≠ [] ∧ wholePart body = ['0'] ∧ endsWithoutZero (fractionPart body) = true := by
  rw [matches_after]
  constructor
  · rintro ⟨rest, pointed, rfl⟩
    obtain ⟨fraction, ends, rfl⟩ := (matches_after _ _ _).mp pointed
    obtain ⟨before, after⟩ := whole_part_of_digits ['0'] rfl ('.' :: fraction) (Or.inr rfl)
    change afterWhole ('0' :: '.' :: fraction) = '.' :: fraction at after
    rw [fractionPart, after, ends_matches]
    exact ⟨by simp, before, ends⟩
  · rintro ⟨present, zero, ends⟩
    have pointed := (after_whole_pointed body).resolve_left present
    refine ⟨afterWhole body, ?_, ?_⟩
    · rw [pointed]
      exact (matches_after _ _ _).mpr ⟨_, (ends_matches _).mp ends, rfl⟩
    · have split := body_split body
      rw [zero] at split
      exact split.symm

theorem canonical_body_matches (body : List Char) :
    isCanonicalBody body = true ↔
      body ∈ (char '0' * (char '.' * endingNonzero) +
        oneOf nonzeroLetters * ((oneOf digitLetters).star * maybe (char '.' * endingNonzero))).matches' := by
  have spelled : ∀ word ∈ (oneOf nonzeroLetters * (oneOf digitLetters).star).matches', word.all Char.isDigit = true := by
    intro word matched
    have digits := leads_are_digits word (Or.inr ((leads_matches word).mpr matched))
    simp only [areDigits, Bool.and_eq_true] at digits
    exact digits.2
  rw [matches_either, pointed_zero, joined_grouped, matches_body _ _ _ spelled, ← leads_matches, ← ends_matches,
    isCanonicalBody]
  by_cases absent : afterWhole body = []
  · simp [absent]
  · simp only [absent, if_false, Bool.and_eq_true, Bool.or_eq_true, beq_iff_eq, ne_eq, not_false_eq_true,
      true_and, and_true, false_or]
    exact or_and_right

theorem canonical_body_unsigned (body : List Char) (canonicalForm : isCanonicalBody body = true) :
    body.head? ≠ some '-' := by
  obtain ⟨_, _, digits, _⟩ := canonical_body_parts body canonicalForm
  simp only [areDigits, Bool.and_eq_true, decide_eq_true_eq] at digits
  rw [← body_split body]
  exact digits_first_unsigned _ digits.2 digits.1 _

theorem canonical_matches (chars : List Char) : isCanonicalText chars = true ↔ chars ∈ CANONICAL.matches' := by
  rw [CANONICAL, matches_either, matches_char, matches_signed, ← canonical_body_matches, isCanonicalText,
    Bool.or_eq_true, beq_iff_eq]
  intro word matched
  exact canonical_body_unsigned word ((canonical_body_matches word).mpr matched)

end Ubb.Pricing
