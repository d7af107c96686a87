import Ubb.Library.Rounding
import Ubb.Pricing.DecimalValues
import Ubb.Pricing.Resolution

set_option autoImplicit false

-- Rate.compute against the exact product: one division, rounded once.
namespace Ubb.Pricing

open Library

def Rate.exactAmount (rate : Rate) (quantity : String) : ℚ :=
  rate.terms.ratePerUnitMicros * valueOf quantity / rate.terms.unitQuantity

theorem nearest_micro_nearest (numerator denominator : Int) (positive : 0 < denominator) :
    NearestAway ((numerator : ℚ) / denominator) (nearestMicro numerator denominator) := by
  have magnitude := nearest_quotient (K := ℚ) numerator.natAbs denominator (by omega) positive
  simp only [nearestMicro]
  split
  · next below =>
    have size : (numerator : ℚ) / denominator = -(((numerator.natAbs : Int) : ℚ) / denominator) := by
      rw [Int.ofNat_natAbs_of_nonpos (by omega), Int.cast_neg, neg_div, neg_neg]
    rw [size]
    exact magnitude.neg
  · next above =>
    rw [Int.natAbs_of_nonneg (by omega)] at magnitude ⊢
    exact magnitude

theorem exact_amount_quotient (rate : Rate) (quantity : String) (parts : ExactParts)
    (positive : 0 < rate.terms.unitQuantity) (read : exactParts quantity = .ok parts) :
    rate.exactAmount quantity =
      ((parts.sign * parts.digits * rate.terms.ratePerUnitMicros : Int) : ℚ) /
        ((rate.terms.unitQuantity * 10 ^ parts.scale : Int) : ℚ) := by
  obtain ⟨_, value, _⟩ := exact_parts_value quantity parts read
  have nonzero : (rate.terms.unitQuantity : ℚ) ≠ 0 := by exact_mod_cast positive.ne'
  rw [Rate.exactAmount, value]
  push_cast
  field_simp

theorem per_unit_compute (rate : Rate) (perUnit : rate.terms.rateStructure = .perUnit)
    (positive : 0 < rate.terms.unitQuantity) (quantity : String) (canonicalForm : isCanonical quantity = true) :
    ∃ rounded, rate.compute quantity = .ok (rate.terms.fixedMicros + rounded) ∧
      NearestAway (rate.exactAmount quantity) rounded := by
  obtain ⟨parts, read⟩ := exact_parts_ok quantity canonicalForm
  have scaled : 0 < rate.terms.unitQuantity * 10 ^ parts.scale := by positivity
  refine ⟨_, ?_, exact_amount_quotient rate quantity parts positive read ▸ nearest_micro_nearest _ _ scaled⟩
  have mapped : (exactParts quantity).mapError PricingRefusal.malformedQuantity = .ok parts := by
    rw [read]
    rfl
  rw [Rate.compute, perUnit]
  simp only [mapped, ok_bind, roundCharge, if_neg (not_le.mpr scaled)]
  rw [Int.add_comm]
  rfl

theorem per_unit_amount (rate : Rate) (perUnit : rate.terms.rateStructure = .perUnit)
    (positive : 0 < rate.terms.unitQuantity) (quantity : String) (canonicalForm : isCanonical quantity = true)
    (rounded : Int) (nearest : NearestAway (rate.exactAmount quantity) rounded) :
    rate.compute quantity = .ok (rate.terms.fixedMicros + rounded) := by
  obtain ⟨charged, computed, same⟩ := per_unit_compute rate perUnit positive quantity canonicalForm
  rw [computed, same.unique nearest]

theorem whole_amount (rate : Rate) (positive : 0 < rate.terms.unitQuantity) (quantity : String) (whole : Nat)
    (value : valueOf quantity = whole) (nonneg : 0 ≤ rate.terms.ratePerUnitMicros) :
    NearestAway (rate.exactAmount quantity)
      ((whole * rate.terms.ratePerUnitMicros + rate.terms.unitQuantity / 2) / rate.terms.unitQuantity) := by
  have product : 0 ≤ (whole : Int) * rate.terms.ratePerUnitMicros := by positivity
  have nearest := nearest_quotient (K := ℚ) _ _ product positive
  have exact : rate.exactAmount quantity =
      ((whole * rate.terms.ratePerUnitMicros : Int) : ℚ) / (rate.terms.unitQuantity : ℚ) := by
    rw [Rate.exactAmount, value]
    push_cast
    ring
  rw [exact]
  exact nearest

def negated (chars : List Char) : List Char :=
  if chars = ['0'] then chars
  else if chars.head? = some '-' then unsigned chars
  else '-' :: chars

theorem negated_canonical (chars : List Char) (canonicalForm : isCanonicalText chars = true) :
    isCanonicalText (negated chars) = true ∧ denotes (negated chars) = -denotes chars := by
  by_cases zero : chars = ['0']
  · have nothing : denotes ['0'] = 0 := by
      have parts : partsOf ['0'] = ⟨1, 0, 0⟩ := by decide
      rw [parts_value, parts]
      norm_num
    rw [negated, if_pos zero, zero, nothing, neg_zero]
    exact ⟨rfl, rfl⟩
  · have body : isCanonicalBody (unsigned chars) = true := by
      simpa [isCanonicalText, zero] using canonicalForm
    have plain := canonical_body_unsigned _ body
    have bare : unsigned (unsigned chars) = unsigned chars := by
      rcases unsigned_cases (unsigned chars) with ⟨minus, _⟩ | ⟨_, same⟩
      · exact absurd minus plain
      · exact same
    rw [negated, if_neg zero]
    split
    · next negative =>
      refine ⟨by rw [isCanonicalText, bare, body, Bool.or_true], ?_⟩
      rw [denotes, denotes, signOf, signOf, if_neg plain, if_pos negative, bare]
      push_cast
      ring
    · next positive =>
      have same : unsigned chars = chars := by
        rcases unsigned_cases chars with ⟨minus, _⟩ | ⟨_, same⟩
        · exact absurd minus positive
        · exact same
      refine ⟨by rw [isCanonicalText, unsigned, ← same, body, Bool.or_true], ?_⟩
      rw [denotes, denotes, signOf, signOf, if_pos (by rfl), if_neg positive, same, unsigned]
      push_cast
      ring

theorem exact_amount_neg (rate : Rate) (quantity reversal : String) (opposite : valueOf reversal = -valueOf quantity) :
    rate.exactAmount reversal = -rate.exactAmount quantity := by
  rw [Rate.exactAmount, Rate.exactAmount, opposite]
  ring

theorem rate_amount_is_the_product_rounded_once (rate : Rate) (perUnit : rate.terms.rateStructure = .perUnit)
    (positive : 0 < rate.terms.unitQuantity) (quantity : String) (spelled : quantity.toList ∈ CANONICAL.matches') :
    ∃ rounded : Int, rate.compute quantity = .ok (rate.terms.fixedMicros + rounded) ∧
      NearestAway (rate.terms.ratePerUnitMicros * valueOf quantity / rate.terms.unitQuantity) rounded ∧
      (∀ other, NearestAway (rate.terms.ratePerUnitMicros * valueOf quantity / rate.terms.unitQuantity) other →
        other = rounded) ∧
      (∀ whole : Nat, 0 ≤ rate.terms.ratePerUnitMicros → valueOf quantity = whole →
        rounded = (whole * rate.terms.ratePerUnitMicros + rate.terms.unitQuantity / 2) / rate.terms.unitQuantity) ∧
      (∃ reversal : String, reversal.toList ∈ CANONICAL.matches' ∧ valueOf reversal = -valueOf quantity ∧
        rate.compute reversal = .ok (rate.terms.fixedMicros - rounded)) ∧
      (∀ reversal : String, reversal.toList ∈ CANONICAL.matches' → valueOf reversal = -valueOf quantity →
        rate.terms.fixedMicros = 0 → rate.compute quantity = .ok rounded ∧ rate.compute reversal = .ok (-rounded)) := by
  have canonicalForm : isCanonical quantity = true := (canonical_matches _).mpr spelled
  obtain ⟨rounded, computed, nearest⟩ := per_unit_compute rate perUnit positive quantity canonicalForm
  have reversed : ∀ reversal : String, isCanonical reversal = true → valueOf reversal = -valueOf quantity →
      rate.compute reversal = .ok (rate.terms.fixedMicros - rounded) := by
    intro reversal form opposite
    have mirrored : NearestAway (rate.exactAmount reversal) (-rounded) := by
      rw [exact_amount_neg rate quantity reversal opposite]
      exact nearest.neg
    rw [per_unit_amount rate perUnit positive reversal form _ mirrored, Int.sub_eq_add_neg]
  refine ⟨rounded, computed, nearest, fun other also => also.unique nearest, ?_, ?_, ?_⟩
  · intro whole nonneg value
    exact nearest.unique (whole_amount rate positive quantity whole value nonneg)
  · obtain ⟨form, opposite⟩ := negated_canonical _ canonicalForm
    have negatedForm : isCanonical (String.ofList (negated quantity.toList)) = true := by
      rw [isCanonical, String.toList_ofList]
      exact form
    have negatedValue : valueOf (String.ofList (negated quantity.toList)) = -valueOf quantity := by
      rw [valueOf, String.toList_ofList]
      exact opposite
    exact ⟨_, (canonical_matches _).mp negatedForm, negatedValue, reversed _ negatedForm negatedValue⟩
  · intro reversal form opposite bare
    have there := computed
    have back := reversed reversal ((canonical_matches _).mpr form) opposite
    rw [bare, Int.zero_add] at there
    rw [bare, Int.zero_sub] at back
    exact ⟨there, back⟩

def halfMicroRate : Rate where
  id := 1
  tenant := 1
  customer := none
  selectors := fun _ => ""
  measurement := none
  undeclaredMeasurementKey := ""
  terms := ⟨3, 1, 7, some .directEventPrice, .perUnit⟩
  currency := "usd"
  pricingBook := none
  costBook := none
  lineage := 1
  bookVersionFrom := 1
  bookVersionTo := none
  validFrom := 0
  validTo := none

theorem half_a_micro_away :
    halfMicroRate.compute "-0.5" = .ok (7 - 2) ∧ ∃ rounded : Int, halfMicroRate.compute "-0.5" = .ok (7 + rounded) ∧
      NearestAway (3 * valueOf "-0.5" / 1) rounded := by
  have spelled : "-0.5".toList ∈ CANONICAL.matches' := (canonical_matches _).mp (by decide)
  obtain ⟨rounded, computed, nearest, _⟩ :=
    rate_amount_is_the_product_rounded_once halfMicroRate rfl (by decide) "-0.5" spelled
  refine ⟨by decide, rounded, computed, ?_⟩
  simpa [halfMicroRate] using nearest

end Ubb.Pricing
