import Ubb.Core.Json
import Ubb.Library.Depth

set_option autoImplicit false

-- How deep a JSON text nests, and what the reader does on a stack of any size.
namespace Ubb.Json

open Ubb.Library

mutual

def measureOnce : Nat → List Char → Measured (Value × List Char)
  | 0, _ => .given none
  | fuel + 1, text =>
      match text with
      | '"' :: rest => .given ((scanString (rest.length + 1) rest).map (fun read => (.text read.1, read.2)))
      | '{' :: rest =>
          .deeper (match skipSpace rest with
            | '}' :: after => pure (.object [], after)
            | members => (fun read => (.object read.1, read.2)) <$> measureMembers fuel members)
      | '[' :: rest =>
          .deeper (match skipSpace rest with
            | ']' :: after => pure (.array [], after)
            | values => (fun read => (.array read.1, read.2)) <$> measureValues fuel values)
      | _ => .given ((scanWord text).or (scanNumber text))

def measureMembers : Nat → List Char → Measured (List (List Char × Value) × List Char)
  | 0, _ => .given none
  | fuel + 1, text =>
      match text with
      | '"' :: rest => do
          let (name, afterName) ← .given (scanString (rest.length + 1) rest)
          match skipSpace afterName with
          | ':' :: afterColon => do
              let (value, afterValue) ← measureOnce fuel (skipSpace afterColon)
              match skipSpace afterValue with
              | '}' :: last => pure ([(name, value)], last)
              | ',' :: more => do
                  let (others, last) ← measureMembers fuel (skipSpace more)
                  pure ((name, value) :: others, last)
              | _ => .given none
          | _ => .given none
      | _ => .given none

def measureValues : Nat → List Char → Measured (List Value × List Char)
  | 0, _ => .given none
  | fuel + 1, text => do
      let (value, afterValue) ← measureOnce fuel text
      match skipSpace afterValue with
      | ']' :: last => pure ([value], last)
      | ',' :: more => do
          let (others, last) ← measureValues fuel (skipSpace more)
          pure (value :: others, last)
      | _ => .given none

end

theorem or_value_error_settle {Read : Type} (read : Option Read) : orValueError read = Measured.settle .valueError read := by
  cases read <;> rfl

theorem scan_measured (fuel : Nat) :
    (∀ room text, scanOnce fuel room text = Measured.within .valueError .recursionError room (measureOnce fuel text)) ∧
      (∀ room text, scanMembers fuel room text = Measured.within .valueError .recursionError room (measureMembers fuel text)) ∧
        ∀ room text, scanValues fuel room text = Measured.within .valueError .recursionError room (measureValues fuel text) := by
  induction fuel with
  | zero =>
    refine ⟨?_, ?_, ?_⟩ <;> intro room text
    · simp [scanOnce, measureOnce]
    · simp [scanMembers, measureMembers]
    · simp [scanValues, measureValues]
  | succ fuel ih =>
    obtain ⟨once, members, values⟩ := ih
    refine ⟨?_, ?_, ?_⟩ <;> intro room text
    · rw [scanOnce.eq_def, measureOnce.eq_def]
      dsimp only
      split
      · simp [or_value_error_settle]
      · cases room with
        | zero => simp
        | succ left =>
          simp only [Measured.within_deeper]
          generalize skipSpace _ = held
          split
          · simp
          · simp [members]
      · cases room with
        | zero => simp
        | succ left =>
          simp only [Measured.within_deeper]
          generalize skipSpace _ = held
          split
          · simp
          · simp [values]
      · simp [or_value_error_settle]
    · rw [scanMembers.eq_def, measureMembers.eq_def]
      dsimp only
      split
      · simp only [Measured.within_bind, Measured.within_given, or_value_error_settle]
        congr 1
        funext named
        generalize skipSpace named.2 = afterName
        split
        · simp only [Measured.within_bind, once]
          congr 1
          funext read
          generalize skipSpace read.2 = afterValue
          split
          · simp
          · simp [members]
          · simp
        · simp
      · simp
    · simp only [scanValues, measureValues, Measured.within_bind, once]
      congr 1
      funext read
      generalize skipSpace read.2 = afterValue
      split
      · simp
      · simp [values]
      · simp

def measure (text : List Char) : Measured Value := do
  let (value, rest) ← measureOnce (2 * text.length + 1) (skipSpace text)
  if skipSpace rest = [] then pure value else .given none

def nesting (text : List Char) : Nat := (measure text).depth

theorem loads_measured (room : Nat) (text : List Char) : loads room text = Measured.within .valueError .recursionError room (measure text) := by
  simp only [loads, measure, Measured.within_bind, (scan_measured (2 * text.length + 1)).1]
  cases Measured.within Fault.valueError Fault.recursionError room (measureOnce (2 * text.length + 1) (skipSpace text)) with
  | error fault => rfl
  | ok read =>
    by_cases ended : skipSpace read.2 = []
    · simp [ended, bind, Except.bind]
    · simp [ended, bind, Except.bind]

theorem loads_stopped_iff (room : Nat) (text : List Char) : loads room text = .error .recursionError ↔ room < nesting text := by
  rw [loads_measured]
  exact Measured.within_stopped_iff Fault.valueError Fault.recursionError room (measure text) (by decide)

mutual

def Value.depth : Value → Nat
  | .array values => Value.depthOfAll values + 1
  | .object members => Value.depthOfMembers members + 1
  | _ => 0

def Value.depthOfAll : List Value → Nat
  | [] => 0
  | value :: rest => max value.depth (Value.depthOfAll rest)

def Value.depthOfMembers : List (List Char × Value) → Nat
  | [] => 0
  | (_, value) :: rest => max value.depth (Value.depthOfMembers rest)

end

theorem word_read (text rest : List Char) (value : Value) (read : scanWord text = some (value, rest)) :
    value.depth = 0 ∧ rest.length < text.length := by
  simp only [scanWord, Option.map_eq_some_iff] at read
  obtain ⟨word, found, same⟩ := read
  have member := List.mem_of_find?_eq_some found
  have opens : word.1.toList.isPrefixOf text = true := by simpa using List.find?_some found
  have within := (List.isPrefixOf_iff_prefix.mp opens).length_le
  cases same
  rw [List.length_drop]
  simp only [words, List.mem_cons, List.not_mem_nil, or_false] at member
  rcases member with rfl | rfl | rfl | rfl | rfl | rfl <;> simp at within ⊢ <;> exact ⟨rfl, by omega⟩

theorem fraction_rest (text : List Char) : (scanFraction text).2.length ≤ text.length := by
  unfold scanFraction
  split
  · dsimp only
    split
    · exact le_refl _
    · exact ((List.dropWhile_sublist isDigit).length_le).trans (Nat.le_succ _)
  · exact le_refl _

theorem exponent_rest (text : List Char) : (scanExponent text).2.length ≤ text.length := by
  cases text with
  | nil => exact le_refl _
  | cons mark rest =>
    have unsigned : (if rest.head? = some '-' ∨ rest.head? = some '+' then rest.drop 1 else rest).length ≤ rest.length := by
      split
      · rw [List.length_drop]
        omega
      · exact le_refl _
    simp only [scanExponent]
    generalize (if rest.head? = some '-' ∨ rest.head? = some '+' then rest.drop 1 else rest) = after at unsigned ⊢
    split
    · split
      · exact le_refl _
      · exact ((List.dropWhile_sublist isDigit).length_le).trans (unsigned.trans (Nat.le_succ _))
    · exact le_refl _

theorem number_read (text rest : List Char) (value : Value) (read : scanNumber text = some (value, rest)) :
    value.depth = 0 ∧ rest.length < text.length := by
  simp only [scanNumber] at read
  generalize bareIs : (if text.head? = some '-' then text.drop 1 else text) = bare at read
  generalize digitsIs : (if bare.head? = some '0' then ['0'] else bare.takeWhile isDigit) = digits at read
  have fraction := fraction_rest (bare.drop digits.length)
  have exponent := exponent_rest (scanFraction (bare.drop digits.length)).2
  rw [List.length_drop] at fraction
  have shorter : bare.length ≤ text.length := by
    rw [← bareIs]
    split
    · rw [List.length_drop]
      omega
    · exact le_refl _
  have held : digits.length ≤ bare.length := by
    rw [← digitsIs]
    split
    · rename_i zero
      exact List.length_pos_of_mem (List.mem_of_mem_head? zero)
    · exact (List.takeWhile_sublist isDigit).length_le
  by_cases empty : digits = []
  · rw [if_pos empty] at read
    cases read
  · have some_digit : 0 < digits.length := List.length_pos_of_ne_nil empty
    rw [if_neg empty] at read
    by_cases whole : (scanFraction (bare.drop digits.length)).1.isNone ∧
        (scanExponent (scanFraction (bare.drop digits.length)).2).1.isNone
    · rw [if_pos whole] at read
      by_cases few : digits.length ≤ maxIntDigits
      · rw [if_pos few, Option.some.injEq, Prod.mk.injEq] at read
        rw [← read.1, ← read.2]
        exact ⟨rfl, by omega⟩
      · rw [if_neg few] at read
        cases read
    · rw [if_neg whole, Option.some.injEq, Prod.mk.injEq] at read
      rw [← read.1, ← read.2]
      exact ⟨rfl, by omega⟩

theorem hex_four_rest (text rest : List Char) (code : Nat) (read : hexFour text = some (code, rest)) :
    rest.length + 4 = text.length := by
  unfold hexFour at read
  split at read
  · rename_i long
    obtain ⟨digits, _, same⟩ := Option.map_eq_some_iff.mp read
    cases same
    rw [List.length_drop]
    omega
  · cases read

theorem unescape_rest (text rest : List Char) (character : Char) (read : unescape text = some (character, rest)) :
    rest.length < text.length := by
  unfold unescape at read
  split at read
  · rename_i escaped
    rw [Option.bind_eq_bind, Option.bind_eq_some_iff] at read
    obtain ⟨⟨high, after⟩, first, read⟩ := read
    have four := hex_four_rest escaped after high first
    rw [List.length_cons]
    dsimp only at read
    split at read
    · split at read
      · rename_i more
        split at read
        · rename_i low last second
          have eight := hex_four_rest more last low second
          simp only [List.length_cons] at four
          split at read
          · rw [Option.some.injEq, Prod.mk.injEq] at read
            rw [← read.2]
            omega
          · rw [Option.some.injEq, Prod.mk.injEq] at read
            rw [← read.2]
            simp only [List.length_cons]
            omega
        · cases read
      · rw [Option.some.injEq, Prod.mk.injEq] at read
        rw [← read.2]
        omega
    · rw [Option.some.injEq, Prod.mk.injEq] at read
      rw [← read.2]
      omega
  · obtain ⟨escaped, _, same⟩ := Option.map_eq_some_iff.mp read
    cases same
    exact Nat.lt_succ_self _
  · cases read

theorem string_rest (fuel : Nat) (text rest name : List Char) (read : scanString fuel text = some (name, rest)) :
    rest.length < text.length := by
  induction fuel generalizing text name with
  | zero => cases read
  | succ fuel ih =>
    cases text with
    | nil => cases read
    | cons character others =>
      rw [List.length_cons]
      rw [scanString] at read
      split at read
      · cases read
        exact Nat.lt_succ_self _
      · split at read
        · simp only [Option.bind_eq_bind, Option.bind_eq_some_iff] at read
          obtain ⟨⟨escaped, after⟩, first, ⟨later, last⟩, second, same⟩ := read
          cases same
          have front := unescape_rest others after escaped first
          have back := ih after later second
          omega
        · split at read
          · cases read
          · simp only [Option.bind_eq_bind, Option.bind_eq_some_iff] at read
            obtain ⟨⟨later, last⟩, second, same⟩ := read
            cases same
            have back := ih others later second
            omega

theorem skip_space_le (text : List Char) : (skipSpace text).length ≤ text.length := (List.dropWhile_sublist isSpace).length_le

theorem container_read {Held : Type} (wrap : Held → Value) (held : Measured (Held × List Char)) (value : Value) (rest : List Char)
    (returned : ((fun read => (wrap read.1, read.2)) <$> held).outcome = some (value, rest)) :
    ∃ inner, held.outcome = some (inner, rest) ∧ value = wrap inner := by
  rw [Measured.map_outcome] at returned
  obtain ⟨⟨inner, last⟩, outcome, same⟩ := Option.map_eq_some_iff.mp returned
  cases same
  exact ⟨inner, outcome, rfl⟩

theorem measured_read (fuel : Nat) :
    (∀ text value rest, (measureOnce fuel text).outcome = some (value, rest) →
      rest.length < text.length ∧ (measureOnce fuel text).depth = value.depth) ∧
      (∀ text members rest, (measureMembers fuel text).outcome = some (members, rest) →
        rest.length < text.length ∧ (measureMembers fuel text).depth = Value.depthOfMembers members) ∧
        ∀ text values rest, (measureValues fuel text).outcome = some (values, rest) →
          rest.length < text.length ∧ (measureValues fuel text).depth = Value.depthOfAll values := by
  induction fuel with
  | zero =>
    refine ⟨?_, ?_, ?_⟩ <;> intro text read rest returned
    · rw [measureOnce] at returned
      cases returned
    · rw [measureMembers] at returned
      cases returned
    · rw [measureValues] at returned
      cases returned
  | succ fuel ih =>
    obtain ⟨once, members, values⟩ := ih
    refine ⟨?_, ?_, ?_⟩ <;> intro text read rest returned
    · revert returned
      rw [measureOnce.eq_def]
      dsimp only
      split
      · rename_i others
        intro returned
        obtain ⟨⟨name, last⟩, named, same⟩ := Option.map_eq_some_iff.mp returned
        cases same
        exact ⟨(string_rest _ others last name named).trans (Nat.lt_succ_self _), rfl⟩
      · rename_i others
        have spaced := skip_space_le others
        generalize skipSpace others = held at spaced
        simp only [Measured.deeper]
        split
        · intro returned
          cases returned
          simp only [List.length_cons] at spaced ⊢
          exact ⟨by omega, rfl⟩
        · intro returned
          obtain ⟨inner, heldRead, rfl⟩ := container_read .object _ read rest returned
          obtain ⟨shorter, deep⟩ := members held inner rest heldRead
          rw [Measured.map_depth, deep, List.length_cons]
          exact ⟨by omega, rfl⟩
      · rename_i others
        have spaced := skip_space_le others
        generalize skipSpace others = held at spaced
        simp only [Measured.deeper]
        split
        · intro returned
          cases returned
          simp only [List.length_cons] at spaced ⊢
          exact ⟨by omega, rfl⟩
        · intro returned
          obtain ⟨inner, heldRead, rfl⟩ := container_read .array _ read rest returned
          obtain ⟨shorter, deep⟩ := values held inner rest heldRead
          rw [Measured.map_depth, deep, List.length_cons]
          exact ⟨by omega, rfl⟩
      · intro returned
        have flat : read.depth = 0 ∧ rest.length < text.length := by
          rcases Option.or_eq_some_iff.mp returned with word | ⟨_, number⟩
          · exact word_read text rest read word
          · exact number_read text rest read number
        exact ⟨flat.2, flat.1.symm⟩
    · revert returned
      rw [measureMembers.eq_def]
      dsimp only
      split
      · rename_i others
        intro returned
        obtain ⟨⟨name, afterName⟩, named, returned, deep⟩ := Measured.bind_returned _ _ _ returned
        have first := string_rest _ others afterName name named
        have spaced := skip_space_le afterName
        rw [deep, List.length_cons]
        clear deep
        revert returned
        dsimp only
        generalize skipSpace afterName = held at spaced
        split
        · rename_i afterColon
          intro returned
          obtain ⟨⟨value, afterValue⟩, valueRead, returned, deep⟩ := Measured.bind_returned _ _ _ returned
          obtain ⟨second, valueDeep⟩ := once _ value afterValue valueRead
          have colon := skip_space_le afterColon
          have after := skip_space_le afterValue
          simp only [List.length_cons] at spaced
          rw [deep, valueDeep]
          clear deep
          revert returned
          dsimp only
          generalize skipSpace afterValue = tail at after
          split
          · intro returned
            cases returned
            simp only [List.length_cons] at after
            refine ⟨by omega, ?_⟩
            simp [Measured.given, Value.depthOfMembers]
          · rename_i more
            intro returned
            obtain ⟨⟨others, last⟩, othersRead, returned, deep⟩ := Measured.bind_returned _ _ _ returned
            cases returned
            obtain ⟨third, othersDeep⟩ := members _ others last othersRead
            have later := skip_space_le more
            simp only [List.length_cons] at after
            rw [deep, othersDeep]
            refine ⟨show last.length < _ by omega, ?_⟩
            simp [Measured.given, Value.depthOfMembers]
          · intro returned
            cases returned
        · intro returned
          cases returned
      · intro returned
        cases returned
    · rw [measureValues] at returned ⊢
      obtain ⟨⟨value, afterValue⟩, valueRead, returned, deep⟩ := Measured.bind_returned _ _ _ returned
      obtain ⟨first, valueDeep⟩ := once _ value afterValue valueRead
      have spaced := skip_space_le afterValue
      rw [deep, valueDeep]
      clear deep
      revert returned
      dsimp only
      generalize skipSpace afterValue = held at spaced
      split
      · intro returned
        cases returned
        simp only [List.length_cons] at spaced
        exact ⟨by omega, rfl⟩
      · rename_i more
        intro returned
        obtain ⟨⟨others, last⟩, othersRead, returned, deep⟩ := Measured.bind_returned _ _ _ returned
        cases returned
        obtain ⟨second, othersDeep⟩ := values _ others last othersRead
        have later := skip_space_le more
        simp only [List.length_cons] at spaced
        rw [deep, othersDeep]
        refine ⟨show last.length < text.length by omega, ?_⟩
        simp [Value.depthOfAll]
      · intro returned
        cases returned

theorem measured_fuel (fuel : Nat) :
    (∀ text, 2 * text.length ≤ fuel → measureOnce (fuel + 1) text = measureOnce fuel text) ∧
      (∀ text, 2 * text.length + 1 ≤ fuel → measureMembers (fuel + 1) text = measureMembers fuel text) ∧
        ∀ text, 2 * text.length + 1 ≤ fuel → measureValues (fuel + 1) text = measureValues fuel text := by
  induction fuel with
  | zero =>
    refine ⟨?_, ?_, ?_⟩ <;> intro text enough
    · obtain rfl : text = [] := List.length_eq_zero_iff.mp (by omega)
      rfl
    · omega
    · omega
  | succ fuel ih =>
    obtain ⟨once, members, values⟩ := ih
    have shorter := (measured_read fuel).1
    refine ⟨?_, ?_, ?_⟩ <;> intro text enough
    · rw [measureOnce.eq_def (fuel + 1 + 1), measureOnce.eq_def (fuel + 1)]
      dsimp only
      split
      · rfl
      · rename_i others
        have spaced := skip_space_le others
        rw [List.length_cons] at enough
        generalize skipSpace others = held at spaced
        split
        · rfl
        · rw [members held (by omega)]
      · rename_i others
        have spaced := skip_space_le others
        rw [List.length_cons] at enough
        generalize skipSpace others = held at spaced
        split
        · rfl
        · rw [values held (by omega)]
      · rfl
    · rw [measureMembers.eq_def (fuel + 1 + 1), measureMembers.eq_def (fuel + 1)]
      dsimp only
      split
      · rename_i others
        apply Measured.bind_agree
        rintro ⟨name, afterName⟩ named
        have first := string_rest _ others afterName name named
        have spaced := skip_space_le afterName
        rw [List.length_cons] at enough
        generalize skipSpace afterName = held at spaced
        split
        · rename_i afterColon
          have colon := skip_space_le afterColon
          rw [List.length_cons] at spaced
          dsimp only
          rw [once (skipSpace afterColon) (by omega)]
          apply Measured.bind_agree
          rintro ⟨value, afterValue⟩ valueRead
          have second := (shorter _ value afterValue valueRead).1
          have after := skip_space_le afterValue
          dsimp only
          generalize skipSpace afterValue = tail at after
          split
          · rfl
          · rename_i more
            have later := skip_space_le more
            rw [List.length_cons] at after
            rw [members (skipSpace more) (by omega)]
          · rfl
        · rfl
      · rfl
    · rw [measureValues, measureValues, once text (by omega)]
      apply Measured.bind_agree
      rintro ⟨value, afterValue⟩ valueRead
      have first := (shorter text value afterValue valueRead).1
      have after := skip_space_le afterValue
      dsimp only
      generalize skipSpace afterValue = tail at after
      split
      · rfl
      · rename_i more
        have later := skip_space_le more
        rw [List.length_cons] at after
        rw [values (skipSpace more) (by omega)]
      · rfl

theorem loads_fuel (room fuel : Nat) (text : List Char) (enough : 2 * text.length + 1 ≤ fuel) :
    scanOnce fuel room (skipSpace text) = scanOnce (2 * text.length + 1) room (skipSpace text) := by
  have spaced := skip_space_le text
  induction fuel, enough using Nat.le_induction with
  | base => rfl
  | succ fuel more ih => rw [← ih, (scan_measured _).1, (scan_measured _).1, (measured_fuel fuel).1 _ (by omega)]

theorem nesting_document (room : Nat) (text : List Char) (value : Value) (read : loads room text = .ok value) :
    nesting text = value.depth := by
  rw [loads_measured, Measured.within] at read
  split at read
  · have outcome : (measure text).outcome = some value := by
      cases returned : (measure text).outcome with
      | none =>
        rw [returned] at read
        cases read
      | some other =>
        rw [returned] at read
        cases read
        rfl
    obtain ⟨⟨inner, rest⟩, innerRead, returned, deep⟩ := Measured.bind_returned _ _ _ outcome
    have same := ((measured_read _).1 _ inner rest innerRead).2
    dsimp only at returned
    by_cases ended : skipSpace rest = []
    · rw [if_pos ended] at returned
      cases returned
      rw [nesting, measure, deep, same]
      simp [ended]
    · rw [if_neg ended] at returned
      cases returned
  · cases read

end Ubb.Json
