import Mathlib.Tactic

set_option autoImplicit false

-- Base64 over bytes given as numbers. The decoder is the lenient one: it skips
-- what is not of the alphabet and stops at a complete padding.
namespace Ubb.Library.Base64

def sextetChar (sextet : Nat) : Char :=
  if sextet < 26 then Char.ofNat (65 + sextet)
  else if sextet < 52 then Char.ofNat (71 + sextet)
  else if sextet < 62 then Char.ofNat (sextet - 4)
  else if sextet = 62 then '+'
  else '/'

def sextetOf (character : Char) : Option Nat :=
  let code := character.toNat
  if 65 ≤ code ∧ code ≤ 90 then some (code - 65)
  else if 97 ≤ code ∧ code ≤ 122 then some (code - 71)
  else if 48 ≤ code ∧ code ≤ 57 then some (code + 4)
  else if character = '+' then some 62
  else if character = '/' then some 63
  else none

def encode : List Nat → List Char
  | first :: second :: third :: rest =>
      sextetChar (first / 4) :: sextetChar (first % 4 * 16 + second / 16) ::
        sextetChar (second % 16 * 4 + third / 64) :: sextetChar (third % 64) :: encode rest
  | [first, second] =>
      [sextetChar (first / 4), sextetChar (first % 4 * 16 + second / 16), sextetChar (second % 16 * 4), '=']
  | [first] => [sextetChar (first / 4), sextetChar (first % 4 * 16), '=', '=']
  | [] => []

def decodeFrom (position left pads : Nat) : List Char → Option (List Nat)
  | [] => if position = 0 then some [] else none
  | character :: rest =>
      if character = '=' then
        if position < 2 then decodeFrom position left pads rest
        else if 4 ≤ position + (pads + 1) then some []
        else decodeFrom position left (pads + 1) rest
      else
        match sextetOf character with
        | none => decodeFrom position left pads rest
        | some sextet =>
            match position with
            | 0 => decodeFrom 1 sextet 0 rest
            | 1 => (decodeFrom 2 (sextet % 16) 0 rest).map (List.cons (left * 4 + sextet / 16))
            | 2 => (decodeFrom 3 (sextet % 4) 0 rest).map (List.cons (left * 16 + sextet / 4))
            | _ => (decodeFrom 0 0 0 rest).map (List.cons (left * 64 + sextet))

def decode (text : List Char) : Option (List Nat) := decodeFrom 0 0 0 text

theorem sextet_of_char : ∀ sextet, sextet < 64 → sextetOf (sextetChar sextet) = some sextet := by decide

theorem sextet_char_no_pad : ∀ sextet, sextet < 64 → sextetChar sextet ≠ '=' := by decide

section

variable (sextet : Nat) (fits : sextet < 64) (left pads : Nat) (rest : List Char)

include fits

theorem decode_first : decodeFrom 0 left pads (sextetChar sextet :: rest) = decodeFrom 1 sextet 0 rest := by
  rw [decodeFrom, if_neg (sextet_char_no_pad sextet fits), sextet_of_char sextet fits]
  rfl

theorem decode_second : decodeFrom 1 left pads (sextetChar sextet :: rest) =
    (decodeFrom 2 (sextet % 16) 0 rest).map (List.cons (left * 4 + sextet / 16)) := by
  rw [decodeFrom, if_neg (sextet_char_no_pad sextet fits), sextet_of_char sextet fits]
  rfl

theorem decode_third : decodeFrom 2 left pads (sextetChar sextet :: rest) =
    (decodeFrom 3 (sextet % 4) 0 rest).map (List.cons (left * 16 + sextet / 4)) := by
  rw [decodeFrom, if_neg (sextet_char_no_pad sextet fits), sextet_of_char sextet fits]
  rfl

theorem decode_fourth : decodeFrom 3 left pads (sextetChar sextet :: rest) =
    (decodeFrom 0 0 0 rest).map (List.cons (left * 64 + sextet)) := by
  rw [decodeFrom, if_neg (sextet_char_no_pad sextet fits), sextet_of_char sextet fits]
  rfl

end

theorem decode_one_pad (left : Nat) : decodeFrom 3 left 0 ['='] = some [] := by simp [decodeFrom]

theorem decode_two_pads (left : Nat) : decodeFrom 2 left 0 ['=', '='] = some [] := by simp [decodeFrom]

theorem decode_encode (bytes : List Nat) (isByte : ∀ byte ∈ bytes, byte < 256) : decode (encode bytes) = some bytes := by
  unfold decode
  induction bytes using encode.induct with
  | case1 first second third rest ih =>
    have firstFits := isByte first (by simp)
    have secondFits := isByte second (by simp)
    have thirdFits := isByte third (by simp)
    rw [encode, decode_first _ (by omega), decode_second _ (by omega), decode_third _ (by omega), decode_fourth _ (by omega),
      ih (fun byte member => isByte byte (by simp [member]))]
    simp only [Option.map_some, Option.some.injEq, List.cons.injEq, and_true]
    omega
  | case2 first second =>
    have firstFits := isByte first (by simp)
    have secondFits := isByte second (by simp)
    rw [encode, decode_first _ (by omega), decode_second _ (by omega), decode_third _ (by omega),
      decode_one_pad]
    simp only [Option.map_some, Option.some.injEq, List.cons.injEq, and_true]
    omega
  | case3 first =>
    have firstFits := isByte first (by simp)
    rw [encode, decode_first _ (by omega), decode_second _ (by omega), decode_two_pads]
    simp only [Option.map_some, Option.some.injEq, List.cons.injEq, and_true]
    omega
  | case4 => rfl

theorem encode_all (holds : Char → Prop) (sextets : ∀ sextet, sextet < 64 → holds (sextetChar sextet)) (pad : holds '=')
    (bytes : List Nat) (isByte : ∀ byte ∈ bytes, byte < 256) : ∀ character ∈ encode bytes, holds character := by
  induction bytes using encode.induct with
  | case1 first second third rest ih =>
    have firstFits := isByte first (by simp)
    have secondFits := isByte second (by simp)
    have thirdFits := isByte third (by simp)
    intro character member
    simp only [encode, List.mem_cons] at member
    rcases member with rfl | rfl | rfl | rfl | later
    · exact sextets _ (by omega)
    · exact sextets _ (by omega)
    · exact sextets _ (by omega)
    · exact sextets _ (by omega)
    · exact ih (fun byte inside => isByte byte (by simp [inside])) character later
  | case2 first second =>
    have firstFits := isByte first (by simp)
    have secondFits := isByte second (by simp)
    intro character member
    simp only [encode, List.mem_cons, List.not_mem_nil, or_false] at member
    rcases member with rfl | rfl | rfl | rfl
    · exact sextets _ (by omega)
    · exact sextets _ (by omega)
    · exact sextets _ (by omega)
    · exact pad
  | case3 first =>
    have firstFits := isByte first (by simp)
    intro character member
    simp only [encode, List.mem_cons, List.not_mem_nil, or_false] at member
    rcases member with rfl | rfl | rfl | rfl
    · exact sextets _ (by omega)
    · exact sextets _ (by omega)
    · exact pad
    · exact pad
  | case4 => exact fun _ member => nomatch member

end Ubb.Library.Base64
