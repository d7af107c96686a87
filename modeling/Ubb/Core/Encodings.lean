import Ubb.Core.Json

set_option autoImplicit false

-- The text of a JSON document given as bytes: json.detect_encoding, and the
-- decoders, each with surrogates let through.
namespace Ubb

open Ubb.Library

inductive Encoding where
  | utf8
  | utf16 (big : Bool)
  | utf32 (big : Bool)
deriving DecidableEq, Repr

def detectEncoding (bytes : List Nat) : Encoding × Nat :=
  if [0x00, 0x00, 0xFE, 0xFF].isPrefixOf bytes then (.utf32 true, 4)
  else if [0xFF, 0xFE, 0x00, 0x00].isPrefixOf bytes then (.utf32 false, 4)
  else if [0xFE, 0xFF].isPrefixOf bytes then (.utf16 true, 2)
  else if [0xFF, 0xFE].isPrefixOf bytes then (.utf16 false, 2)
  else if [0xEF, 0xBB, 0xBF].isPrefixOf bytes then (.utf8, 3)
  else
    match bytes with
    | first :: second :: third :: fourth :: _ =>
        if first = 0 then (if second = 0 then .utf32 true else .utf16 true, 0)
        else if second = 0 then (if third = 0 ∧ fourth = 0 then .utf32 false else .utf16 false, 0)
        else (.utf8, 0)
    | [first, second] => (if first = 0 then .utf16 true else if second = 0 then .utf16 false else .utf8, 0)
    | _ => (.utf8, 0)

def isContinuation (byte : Nat) : Bool := 0x80 ≤ byte && byte < 0xC0

def decodeUtf8 : List Nat → Option (List Char)
  | [] => some []
  | first :: rest =>
      if first < 0x80 then (decodeUtf8 rest).map (List.cons (Char.ofNat first))
      else
        match rest with
        | second :: afterTwo =>
            if !isContinuation second then none
            else if 0xC2 ≤ first ∧ first < 0xE0 then
              (decodeUtf8 afterTwo).map (List.cons (Json.ofCode ((first - 0xC0) * 64 + (second - 0x80))))
            else
              match afterTwo with
              | third :: afterThree =>
                  let code := ((first - 0xE0) * 64 + (second - 0x80)) * 64 + (third - 0x80)
                  if !isContinuation third then none
                  else if 0xE0 ≤ first ∧ first < 0xF0 then
                    if code < 0x800 then none else (decodeUtf8 afterThree).map (List.cons (Json.ofCode code))
                  else
                    match afterThree with
                    | fourth :: afterFour =>
                        let code := (((first - 0xF0) * 64 + (second - 0x80)) * 64 + (third - 0x80)) * 64 + (fourth - 0x80)
                        if isContinuation fourth ∧ 0xF0 ≤ first ∧ first < 0xF5 ∧ 0x10000 ≤ code ∧ code < 0x110000 then
                          (decodeUtf8 afterFour).map (List.cons (Json.ofCode code))
                        else none
                    | [] => none
              | [] => none
        | [] => none

def unitsOf (big : Bool) : List Nat → Option (List Nat)
  | [] => some []
  | [_] => none
  | first :: second :: rest =>
      (unitsOf big rest).map (List.cons (if big then first * 256 + second else second * 256 + first))

def joinUnits : List Nat → List Char
  | [] => []
  | [unit] => [Json.ofCode unit]
  | high :: low :: rest =>
      if 0xD800 ≤ high ∧ high ≤ 0xDBFF ∧ 0xDC00 ≤ low ∧ low ≤ 0xDFFF then
        Json.ofCode (0x10000 + (high - 0xD800) * 1024 + (low - 0xDC00)) :: joinUnits rest
      else Json.ofCode high :: joinUnits (low :: rest)

def decodeUtf16 (big : Bool) (bytes : List Nat) : Option (List Char) := (unitsOf big bytes).map joinUnits

def decodeUtf32 (big : Bool) : List Nat → Option (List Char)
  | [] => some []
  | first :: second :: third :: fourth :: rest =>
      let code :=
        if big then ((first * 256 + second) * 256 + third) * 256 + fourth
        else ((fourth * 256 + third) * 256 + second) * 256 + first
      if code < 0x110000 then (decodeUtf32 big rest).map (List.cons (Json.ofCode code)) else none
  | _ => none

def decodeAs : Encoding → List Nat → Option (List Char)
  | .utf8, bytes => decodeUtf8 bytes
  | .utf16 big, bytes => decodeUtf16 big bytes
  | .utf32 big, bytes => decodeUtf32 big bytes

def decodeText (bytes : List Nat) : Option (List Char) :=
  decodeAs (detectEncoding bytes).1 (bytes.drop (detectEncoding bytes).2)

def Ascii (text : List Char) : Prop := ∀ character ∈ text, character.toNat < 128

@[simp] theorem ascii_nil : Ascii [] := fun _ member => nomatch member

@[simp] theorem ascii_cons (character : Char) (rest : List Char) :
    Ascii (character :: rest) ↔ character.toNat < 128 ∧ Ascii rest := List.forall_mem_cons

@[simp] theorem ascii_append (front back : List Char) : Ascii (front ++ back) ↔ Ascii front ∧ Ascii back :=
  List.forall_mem_append

theorem decode_ascii (text : List Char) (ascii : Ascii text) : decodeUtf8 (text.map Char.toNat) = some text := by
  induction text with
  | nil => rfl
  | cons character rest ih =>
    have first := ascii character List.mem_cons_self
    rw [List.map_cons, decodeUtf8.eq_def]
    dsimp only
    rw [if_pos first, ih (fun later member => ascii later (List.mem_cons_of_mem character member)), Char.ofNat_toNat]
    rfl

theorem detect_ascii (first second : Char) (rest : List Char) (ascii : Ascii (first :: second :: rest))
    (firstSolid : first.toNat ≠ 0) (secondSolid : second.toNat ≠ 0) :
    detectEncoding ((first :: second :: rest).map Char.toNat) = (.utf8, 0) := by
  simp only [ascii_cons] at ascii
  obtain ⟨firstAscii, secondAscii, _⟩ := ascii
  have unmarked : ∀ mark ∈ [0x00, 0xFF, 0xFE, 0xEF], (mark == first.toNat) = false := by
    intro mark member
    simp only [List.mem_cons, List.not_mem_nil, or_false] at member
    rw [beq_eq_false_iff_ne]
    omega
  simp only [detectEncoding, List.map_cons, List.isPrefixOf, unmarked 0x00 (by decide), unmarked 0xFF (by decide),
    unmarked 0xFE (by decide), unmarked 0xEF (by decide), Bool.false_and, Bool.false_eq_true, if_false]
  match rest with
  | [] => simp [firstSolid, secondSolid]
  | [_] => simp
  | _ :: _ :: _ => simp [firstSolid, secondSolid]

theorem decode_text_ascii (first second : Char) (rest : List Char) (ascii : Ascii (first :: second :: rest))
    (firstSolid : first.toNat ≠ 0) (secondSolid : second.toNat ≠ 0) :
    decodeText ((first :: second :: rest).map Char.toNat) = some (first :: second :: rest) := by
  rw [decodeText, detect_ascii first second rest ascii firstSolid secondSolid]
  exact decode_ascii _ ascii

end Ubb
