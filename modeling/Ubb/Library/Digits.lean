import Mathlib.Tactic

set_option autoImplicit false

-- Numerals of a fixed width, the most significant digit first.
namespace Ubb.Library

def digitsOf (base : Nat) : Nat → Nat → List Nat
  | 0, _ => []
  | width + 1, number => digitsOf base width (number / base) ++ [number % base]

def numberOf (base : Nat) (digits : List Nat) : Nat := digits.foldl (fun number digit => number * base + digit) 0

@[simp] theorem digits_of_length (base width number : Nat) : (digitsOf base width number).length = width := by
  induction width generalizing number with
  | zero => rfl
  | succ width ih => rw [digitsOf, List.length_append, ih]; rfl

theorem digits_of_lt (base width number : Nat) (positive : 0 < base) : ∀ digit ∈ digitsOf base width number, digit < base := by
  induction width generalizing number with
  | zero => exact fun _ member => nomatch member
  | succ width ih =>
    intro digit member
    rcases List.mem_append.mp member with earlier | last
    · exact ih (number / base) digit earlier
    · rw [List.mem_singleton.mp last]
      exact Nat.mod_lt number positive

theorem number_of_digits (base width number : Nat) : numberOf base (digitsOf base width number) = number % base ^ width := by
  induction width generalizing number with
  | zero => simp [digitsOf, numberOf, Nat.mod_one]
  | succ width ih =>
    have front := ih (number / base)
    unfold numberOf at front ⊢
    rw [digitsOf, List.foldl_append, front, List.foldl_cons, List.foldl_nil, Nat.pow_succ', Nat.mod_mul]
    ring

section

variable (write : Nat → Char) (read : Char → Option Nat)

def writeNumber (base width number : Nat) : List Char := (digitsOf base width number).map write

def readNumber (base : Nat) (text : List Char) : Option Nat := (text.mapM read).map (numberOf base)

@[simp] theorem write_number_length (base width number : Nat) : (writeNumber write base width number).length = width := by
  rw [writeNumber, List.length_map, digits_of_length]

theorem read_written (digits : List Nat) (faithful : ∀ digit ∈ digits, read (write digit) = some digit) :
    (digits.map write).mapM read = some digits := by
  induction digits with
  | nil => rfl
  | cons digit rest ih =>
    rw [List.map_cons, List.mapM_cons, faithful digit List.mem_cons_self,
      ih (fun later member => faithful later (List.mem_cons_of_mem digit member))]
    rfl

theorem read_number_written (base width number : Nat) (positive : 0 < base) (fits : number < base ^ width)
    (faithful : ∀ digit, digit < base → read (write digit) = some digit) :
    readNumber read base (writeNumber write base width number) = some number := by
  have digits := read_written write read (digitsOf base width number)
    (fun digit member => faithful digit (digits_of_lt base width number positive digit member))
  rw [readNumber, writeNumber, digits, Option.map_some, number_of_digits, Nat.mod_eq_of_lt fits]

theorem written_all (holds : Char → Prop) (base width number : Nat) (positive : 0 < base)
    (each : ∀ digit, digit < base → holds (write digit)) : ∀ character ∈ writeNumber write base width number, holds character := by
  intro character member
  obtain ⟨digit, listed, rfl⟩ := List.mem_map.mp member
  exact each digit (digits_of_lt base width number positive digit listed)

end

def decimalChar (digit : Nat) : Char := Char.ofNat (48 + digit)

def decimalValue (character : Char) : Option Nat :=
  if 48 ≤ character.toNat ∧ character.toNat ≤ 57 then some (character.toNat - 48) else none

def hexChar (digit : Nat) : Char := if digit < 10 then Char.ofNat (48 + digit) else Char.ofNat (87 + digit)

def hexValue (character : Char) : Option Nat :=
  if 48 ≤ character.toNat ∧ character.toNat ≤ 57 then some (character.toNat - 48)
  else if 97 ≤ character.toNat ∧ character.toNat ≤ 102 then some (character.toNat - 87)
  else if 65 ≤ character.toNat ∧ character.toNat ≤ 70 then some (character.toNat - 55)
  else none

theorem decimal_value_char : ∀ digit, digit < 10 → decimalValue (decimalChar digit) = some digit := by decide

theorem hex_value_char : ∀ digit, digit < 16 → hexValue (hexChar digit) = some digit := by decide

end Ubb.Library
