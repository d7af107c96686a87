import Mathlib.Data.List.DropRight
import Mathlib.Tactic

set_option autoImplicit false

-- platform/event_types/exact_decimals.py: a declared exact decimal is text, and
-- one value has one canonical spelling.
namespace Ubb.Pricing

inductive NotAnExactDecimal where
  | flag
  | notText
  | outsideTheGrammar (text : String)
  | notCanonical (text : String)
deriving DecidableEq, Repr

-- str.removeprefix("-").
def unsigned : List Char → List Char
  | '-' :: rest => rest
  | chars => chars

-- str.partition("."): what stands before the first point and after it.
def wholePart (body : List Char) : List Char :=
  body.takeWhile (· ≠ '.')

def afterWhole (body : List Char) : List Char :=
  body.dropWhile (· ≠ '.')

def fractionPart (body : List Char) : List Char :=
  (afterWhole body).drop 1

def areDigits (chars : List Char) : Bool :=
  chars ≠ [] && chars.all Char.isDigit

-- ACCEPTED, matched in full: -?[0-9]+(\.[0-9]+)?
def isAccepted (chars : List Char) : Bool :=
  areDigits (wholePart (unsigned chars)) &&
    (afterWhole (unsigned chars) == [] || areDigits (fractionPart (unsigned chars)))

-- [1-9][0-9]*
def leadsWithoutZero : List Char → Bool
  | [] => false
  | first :: rest => first ≠ '0' && first.isDigit && rest.all Char.isDigit

-- [0-9]*[1-9]
def endsWithoutZero (chars : List Char) : Bool :=
  chars.all Char.isDigit && chars.getLast?.any (· ≠ '0')

-- 0\.[0-9]*[1-9]|[1-9][0-9]*(\.[0-9]*[1-9])?
def isCanonicalBody (body : List Char) : Bool :=
  if afterWhole body = [] then leadsWithoutZero (wholePart body)
  else (wholePart body == ['0'] || leadsWithoutZero (wholePart body)) &&
    endsWithoutZero (fractionPart body)

-- CANONICAL, matched in full.
def isCanonicalText (chars : List Char) : Bool :=
  chars == ['0'] || isCanonicalBody (unsigned chars)

def isCanonical (text : String) : Bool :=
  isCanonicalText text.toList

def writtenWhole (whole : List Char) : List Char :=
  if whole.dropWhile (· = '0') = [] then ['0'] else whole.dropWhile (· = '0')

def written (whole fraction : List Char) : List Char :=
  if fraction.rdropWhile (· = '0') = [] then writtenWhole whole
  else writtenWhole whole ++ '.' :: fraction.rdropWhile (· = '0')

def canonicalText (chars : List Char) : List Char :=
  let body := unsigned chars
  let spelled := written (wholePart body) (fractionPart body)
  if spelled = ['0'] then ['0']
  else if chars.head? = some '-' then '-' :: spelled
  else spelled

def canonical (text : String) : Except NotAnExactDecimal String :=
  if isAccepted text.toList then pure (String.ofList (canonicalText text.toList))
  else throw (.outsideTheGrammar text)

-- A quantity as a request or a stored record may carry it.
inductive RawQuantity where
  | flag (value : Bool)
  | whole (value : Int)
  | text (value : String)
  | other
deriving DecidableEq, Repr

-- _STR_IS_SAFE_BELOW: str() refuses an integer of more than 4300 digits.
def strIsSafeBelow : Nat := 10 ^ 4000

-- The digits one divmod at a time takes off, the last one first.
def lastDigitsFirst (whole : Nat) : List Char :=
  if whole = 0 then [] else Char.ofNat (48 + whole % 10) :: lastDigitsFirst (whole / 10)
termination_by whole
decreasing_by omega

-- _digits_of.
def wholeDigits (whole : Nat) : String :=
  if whole < strIsSafeBelow then toString whole
  else String.ofList (lastDigitsFirst whole).reverse

def canonicalQuantity : RawQuantity → Except NotAnExactDecimal String
  | .flag _ => throw .flag
  | .whole value =>
    canonical (if value < 0 then "-" ++ wholeDigits (-value).toNat else wholeDigits value.toNat)
  | .text value => canonical value
  | .other => throw .notText

def isWhole (canonicalText : String) : Bool := !canonicalText.toList.contains '.'

structure ExactParts where
  sign : Int
  digits : Nat
  scale : Nat
deriving DecidableEq, Repr

def digitsOf (chars : List Char) : Nat :=
  chars.foldl (fun digits digit => digits * 10 + (digit.toNat - 48)) 0

def exactParts (text : String) : Except NotAnExactDecimal ExactParts :=
  if isCanonical text then
    let body := unsigned text.toList
    pure ⟨if text.toList.head? = some '-' then -1 else 1,
      digitsOf (wholePart body ++ fractionPart body), (fractionPart body).length⟩
  else throw (.notCanonical text)

theorem exact_parts_ok (text : String) (canonicalForm : isCanonical text = true) :
    ∃ parts, exactParts text = .ok parts := by
  simp only [exactParts, canonicalForm, if_true]
  exact ⟨_, rfl⟩

theorem digit_ne_point (digit : Char) (isDigit : digit.isDigit = true) : digit ≠ '.' := by
  rintro rfl
  simp [Char.isDigit] at isDigit

theorem digit_ne_minus (digit : Char) (isDigit : digit.isDigit = true) : digit ≠ '-' := by
  rintro rfl
  simp [Char.isDigit] at isDigit

theorem whole_part_of_digits (whole : List Char) (digits : whole.all Char.isDigit = true)
    (rest : List Char) (pointed : rest = [] ∨ rest.head? = some '.') :
    wholePart (whole ++ rest) = whole ∧ afterWhole (whole ++ rest) = rest := by
  have plain : ∀ digit ∈ whole, decide (digit ≠ '.') = true := by
    intro digit mem
    exact decide_eq_true (digit_ne_point digit (List.all_eq_true.mp digits digit mem))
  rw [wholePart, afterWhole, List.takeWhile_append_of_pos plain, List.dropWhile_append_of_pos plain]
  cases rest with
  | nil => simp
  | cons first tail =>
    have isPoint : first = '.' := by simpa using pointed
    simp [isPoint]

theorem body_split (body : List Char) : wholePart body ++ afterWhole body = body :=
  List.takeWhile_append_dropWhile

theorem drop_while_stops (test : Char → Bool) (chars rest : List Char) (first : Char)
    (shape : chars.dropWhile test = first :: rest) : test first = false := by
  have stops := List.head?_dropWhile_not test chars
  rw [shape] at stops
  exact stops

theorem after_whole_pointed (body : List Char) :
    afterWhole body = [] ∨ afterWhole body = '.' :: fractionPart body := by
  unfold fractionPart
  cases rest : afterWhole body with
  | nil => exact Or.inl rfl
  | cons first tail =>
    have isPoint : first = '.' := by simpa using drop_while_stops _ body tail first rest
    exact Or.inr (by simp [isPoint])

theorem written_whole_leads (whole : List Char) (digits : whole.all Char.isDigit = true) :
    writtenWhole whole = ['0'] ∨ leadsWithoutZero (writtenWhole whole) = true := by
  unfold writtenWhole
  split
  · exact Or.inl rfl
  · next kept =>
    right
    have subset : ∀ digit ∈ whole.dropWhile (· = '0'), digit.isDigit = true := by
      intro digit mem
      exact List.all_eq_true.mp digits digit ((List.dropWhile_suffix _).mem mem)
    cases shape : whole.dropWhile (· = '0') with
    | nil => exact absurd shape kept
    | cons first rest =>
      rw [shape] at subset
      have firstDigit : first.isDigit = true := subset first (by simp)
      have restDigits : rest.all Char.isDigit = true :=
        List.all_eq_true.mpr (fun digit mem => subset digit (by simp [mem]))
      have nonzero : first ≠ '0' := by simpa using drop_while_stops _ whole rest first shape
      simp [leadsWithoutZero, firstDigit, nonzero, restDigits]

theorem kept_fraction_ends (fraction : List Char) (digits : fraction.all Char.isDigit = true)
    (kept : fraction.rdropWhile (· = '0') ≠ []) :
    endsWithoutZero (fraction.rdropWhile (· = '0')) = true := by
  have all : (fraction.rdropWhile (· = '0')).all Char.isDigit = true := by
    apply List.all_eq_true.mpr
    intro digit mem
    exact List.all_eq_true.mp digits digit ((List.rdropWhile_prefix _ _).mem mem)
  have last := List.rdropWhile_last_not (fun char : Char => decide (char = '0')) fraction kept
  rw [endsWithoutZero, all, List.getLast?_eq_some_getLast kept]
  simpa using last

theorem leads_are_digits (whole : List Char)
    (leads : whole = ['0'] ∨ leadsWithoutZero whole = true) : areDigits whole = true := by
  rcases leads with rfl | leads
  · rfl
  · cases whole with
    | nil => simp [leadsWithoutZero] at leads
    | cons first rest =>
      simp only [leadsWithoutZero, Bool.and_eq_true, decide_eq_true_eq] at leads
      simp only [areDigits, List.all_cons, leads.1.2, leads.2]
      simp

theorem unsigned_of_digits (whole rest : List Char) (digits : areDigits whole = true) :
    unsigned (whole ++ rest) = whole ++ rest := by
  simp only [areDigits, Bool.and_eq_true, decide_eq_true_eq] at digits
  cases whole with
  | nil => exact absurd rfl digits.1
  | cons first tail =>
    have firstDigit : first.isDigit = true := by
      have all := digits.2
      simp only [List.all_cons, Bool.and_eq_true] at all
      exact all.1
    have notMinus := digit_ne_minus first firstDigit
    simp only [List.cons_append]
    unfold unsigned
    split
    · next same => exact absurd (List.cons.inj same).1 notMinus
    · rfl

theorem written_canonical (whole fraction : List Char) (wholeDigits : whole.all Char.isDigit = true)
    (fractionDigits : fraction.all Char.isDigit = true) (nonzero : written whole fraction ≠ ['0']) :
    isCanonicalBody (written whole fraction) = true ∧
      unsigned (written whole fraction) = written whole fraction := by
  have leads := written_whole_leads whole wholeDigits
  have digits := leads_are_digits _ leads
  have all : (writtenWhole whole).all Char.isDigit = true := by
    simp only [areDigits, Bool.and_eq_true] at digits
    exact digits.2
  unfold written at nonzero ⊢
  split at nonzero
  · next dropped =>
    rw [if_pos dropped]
    obtain ⟨front, back⟩ := whole_part_of_digits (writtenWhole whole) all [] (Or.inl rfl)
    rw [List.append_nil] at front back
    refine ⟨?_, by simpa using unsigned_of_digits _ [] digits⟩
    rw [isCanonicalBody, if_pos back, front]
    exact leads.resolve_left nonzero
  · next kept =>
    rw [if_neg kept]
    obtain ⟨front, back⟩ := whole_part_of_digits (writtenWhole whole) all
      ('.' :: fraction.rdropWhile (· = '0')) (Or.inr rfl)
    refine ⟨?_, unsigned_of_digits _ _ digits⟩
    have ends := kept_fraction_ends fraction fractionDigits kept
    rw [isCanonicalBody, if_neg (by rw [back]; simp), front, fractionPart, back]
    simp only [List.drop_succ_cons, List.drop_zero, ends, Bool.and_true, Bool.or_eq_true, beq_iff_eq]
    exact leads

theorem accepted_digits (chars : List Char) (accepted : isAccepted chars = true) :
    (wholePart (unsigned chars)).all Char.isDigit = true ∧
      (fractionPart (unsigned chars)).all Char.isDigit = true := by
  simp only [isAccepted, areDigits, Bool.and_eq_true, Bool.or_eq_true, beq_iff_eq] at accepted
  refine ⟨accepted.1.2, ?_⟩
  rcases accepted.2 with absent | present
  · simp [fractionPart, absent]
  · exact present.2

theorem canonical_text_canonical (chars : List Char) (accepted : isAccepted chars = true) :
    isCanonicalText (canonicalText chars) = true := by
  obtain ⟨wholeDigits, fractionDigits⟩ := accepted_digits chars accepted
  unfold canonicalText
  simp only
  split
  · rfl
  · next nonzero =>
    obtain ⟨body, plain⟩ := written_canonical _ _ wholeDigits fractionDigits nonzero
    split
    · rw [isCanonicalText, unsigned, body, Bool.or_true]
    · rw [isCanonicalText, plain, body, Bool.or_true]

theorem canonical_is_canonical (text spelled : String) (answered : canonical text = .ok spelled) :
    isCanonical spelled = true := by
  unfold canonical at answered
  split at answered
  · next accepted =>
    cases answered
    rw [isCanonical, String.toList_ofList]
    exact canonical_text_canonical _ accepted
  · cases answered

theorem leads_written (whole : List Char) (leads : whole = ['0'] ∨ leadsWithoutZero whole = true) :
    writtenWhole whole = whole := by
  rcases leads with rfl | leads
  · rfl
  · cases whole with
    | nil => simp [leadsWithoutZero] at leads
    | cons first rest =>
      simp only [leadsWithoutZero, Bool.and_eq_true, decide_eq_true_eq] at leads
      simp [writtenWhole, leads.1.1]

theorem ends_kept (fraction : List Char) (ends : endsWithoutZero fraction = true) :
    fraction.rdropWhile (· = '0') = fraction ∧ areDigits fraction = true := by
  simp only [endsWithoutZero, Bool.and_eq_true] at ends
  cases last : fraction.getLast? with
  | none => simp [last] at ends
  | some digit =>
    have present : fraction ≠ [] := by
      rintro rfl
      cases last
    have nonzero : fraction.getLast present ≠ '0' := by
      have same : fraction.getLast present = digit :=
        Option.some.inj ((List.getLast?_eq_some_getLast present).symm.trans last)
      simpa [last, same] using ends.2
    refine ⟨List.rdropWhile_eq_self_iff.mpr (fun _ => by simpa using nonzero), ?_⟩
    simp [areDigits, present, ends.1]

theorem canonical_body_parts (body : List Char) (canonicalForm : isCanonicalBody body = true) :
    written (wholePart body) (fractionPart body) = body ∧ body ≠ ['0'] ∧
      areDigits (wholePart body) = true ∧
        (afterWhole body = [] ∨ areDigits (fractionPart body) = true) := by
  have split := body_split body
  unfold isCanonicalBody at canonicalForm
  split at canonicalForm
  · next absent =>
    rw [absent, List.append_nil] at split
    refine ⟨?_, ?_, leads_are_digits _ (Or.inr canonicalForm), Or.inl absent⟩
    · rw [written, fractionPart, absent, if_pos (by rfl), leads_written _ (Or.inr canonicalForm), split]
    · intro zero
      rw [split, zero] at canonicalForm
      exact absurd canonicalForm (by decide)
  · next present =>
    simp only [Bool.and_eq_true, Bool.or_eq_true, beq_iff_eq] at canonicalForm
    obtain ⟨kept, digits⟩ := ends_kept _ canonicalForm.2
    have pointed := (after_whole_pointed body).resolve_left present
    have some : fractionPart body ≠ [] := by
      intro none
      rw [none] at digits
      exact absurd digits (by decide)
    refine ⟨?_, ?_, leads_are_digits _ canonicalForm.1, Or.inr digits⟩
    · rw [written, kept, if_neg some, leads_written _ canonicalForm.1, ← pointed, split]
    · rintro rfl
      exact present rfl

theorem unsigned_cases (chars : List Char) :
    (chars.head? = some '-' ∧ chars = '-' :: unsigned chars) ∨
      (chars.head? ≠ some '-' ∧ unsigned chars = chars) := by
  unfold unsigned
  split
  · exact Or.inl ⟨rfl, rfl⟩
  · next negative =>
    right
    refine ⟨?_, rfl⟩
    intro first
    cases chars with
    | nil => cases first
    | cons head tail =>
      cases first
      exact negative tail rfl

theorem canonical_fixed (text : String) (canonicalForm : isCanonical text = true) :
    canonical text = .ok text := by
  simp only [isCanonical, isCanonicalText, Bool.or_eq_true, beq_iff_eq] at canonicalForm
  have spelled : isAccepted text.toList = true ∧ canonicalText text.toList = text.toList := by
    rcases canonicalForm with zero | body
    · rw [zero]
      exact ⟨by decide, by decide⟩
    · obtain ⟨same, nonzero, wholeDigits, fractionDigits⟩ := canonical_body_parts _ body
      refine ⟨?_, ?_⟩
      · simp only [isAccepted, wholeDigits, Bool.true_and, Bool.or_eq_true, beq_iff_eq]
        exact fractionDigits
      · simp only [canonicalText, same, if_neg nonzero]
        rcases unsigned_cases text.toList with ⟨negative, shape⟩ | ⟨positive, shape⟩
        · rw [if_pos negative, ← shape]
        · rw [if_neg positive, shape]
  rw [canonical, if_pos spelled.1, spelled.2, String.ofList_toList]
  rfl

theorem canonical_quantity_canonical (raw : RawQuantity) (spelled : String)
    (answered : canonicalQuantity raw = .ok spelled) : isCanonical spelled = true := by
  cases raw with
  | flag _ => cases answered
  | whole value => exact canonical_is_canonical _ _ answered
  | text value => exact canonical_is_canonical _ _ answered
  | other => cases answered

end Ubb.Pricing
