import Ubb.Library.Digits

set_option autoImplicit false

-- json.dumps of the values a cursor holds, and json.loads of any text.
namespace Ubb.Json

open Ubb.Library

-- A number with a fraction or an exponent is kept exact: a mantissa and a
-- power of ten.
inductive Value where
  | null
  | bool (value : Bool)
  | int (value : Int)
  | decimal (mantissa exponent : Int)
  | notFinite
  | text (value : List Char)
  | array (values : List Value)
  | object (members : List (List Char × Value))

def isSpace (character : Char) : Bool :=
  character = ' ' || character = '\t' || character = '\n' || character = '\r'

def skipSpace (text : List Char) : List Char := text.dropWhile isSpace

-- A lone surrogate is no character; what stands for it matches nothing a
-- reader of this text compares with.
def ofCode (code : Nat) : Char := if code.isValidChar then Char.ofNat code else Char.ofNat 0xFFFD

def hexFour (text : List Char) : Option (Nat × List Char) :=
  if 4 ≤ text.length then (readNumber hexValue 16 (text.take 4)).map (fun code => (code, text.drop 4)) else none

def simpleEscape : Char → Option Char
  | '"' => some '"'
  | '\\' => some '\\'
  | '/' => some '/'
  | 'b' => some (Char.ofNat 8)
  | 'f' => some (Char.ofNat 12)
  | 'n' => some '\n'
  | 'r' => some '\r'
  | 't' => some '\t'
  | _ => none

def unescape : List Char → Option (Char × List Char)
  | 'u' :: rest => do
      let (high, after) ← hexFour rest
      if 0xD800 ≤ high ∧ high ≤ 0xDBFF then
        match after with
        | '\\' :: 'u' :: more =>
            match hexFour more with
            | some (low, last) =>
                if 0xDC00 ≤ low ∧ low ≤ 0xDFFF then
                  some (ofCode (0x10000 + (high - 0xD800) * 1024 + (low - 0xDC00)), last)
                else some (ofCode high, after)
            | none => none
        | _ => some (ofCode high, after)
      else some (ofCode high, after)
  | character :: rest => (simpleEscape character).map (fun escaped => (escaped, rest))
  | [] => none

def scanString : Nat → List Char → Option (List Char × List Char)
  | 0, _ => none
  | _ + 1, [] => none
  | fuel + 1, character :: rest =>
      if character = '"' then some ([], rest)
      else if character = '\\' then do
        let (escaped, after) ← unescape rest
        let (others, last) ← scanString fuel after
        some (escaped :: others, last)
      else if character.toNat < 32 then none
      else do
        let (others, last) ← scanString fuel rest
        some (character :: others, last)

def isDigit (character : Char) : Bool := (decimalValue character).isSome

def digitsValue (digits : List Char) : Nat := (readNumber decimalValue 10 digits).getD 0

def scanFraction (text : List Char) : Option (List Char) × List Char :=
  match text with
  | '.' :: rest =>
      let digits := rest.takeWhile isDigit
      if digits = [] then (none, text) else (some digits, rest.dropWhile isDigit)
  | _ => (none, text)

def scanExponent (text : List Char) : Option Int × List Char :=
  match text with
  | mark :: rest =>
      if mark = 'e' ∨ mark = 'E' then
        let signed := rest.head? = some '-' ∨ rest.head? = some '+'
        let after := if signed then rest.drop 1 else rest
        let digits := after.takeWhile isDigit
        if digits = [] then (none, text)
        else
          (some (if rest.head? = some '-' then -(digitsValue digits : Int) else digitsValue digits), after.dropWhile isDigit)
      else (none, text)
  | [] => (none, text)

-- int() of more digits than this is a ValueError.
def maxIntDigits : Nat := 4300

def scanNumber (text : List Char) : Option (Value × List Char) :=
  let negative := text.head? = some '-'
  let unsigned := if negative then text.drop 1 else text
  let digits := if unsigned.head? = some '0' then ['0'] else unsigned.takeWhile isDigit
  if digits = [] then none
  else
    let (fraction, afterFraction) := scanFraction (unsigned.drop digits.length)
    let (exponent, rest) := scanExponent afterFraction
    let magnitude : Int := digitsValue (digits ++ fraction.getD [])
    let mantissa := if negative then -magnitude else magnitude
    if fraction.isNone ∧ exponent.isNone then
      if digits.length ≤ maxIntDigits then some (.int mantissa, rest) else none
    else some (.decimal mantissa (exponent.getD 0 - (fraction.getD []).length), rest)

def words : List (String × Value) :=
  [("null", .null), ("true", .bool true), ("false", .bool false), ("NaN", .notFinite), ("Infinity", .notFinite),
    ("-Infinity", .notFinite)]

def scanWord (text : List Char) : Option (Value × List Char) :=
  (words.find? (fun word => word.1.toList.isPrefixOf text)).map (fun word => (word.2, text.drop word.1.toList.length))

-- What json.loads raises: a ValueError, or RecursionError where the containers
-- nest deeper than the stack has room for.
inductive Fault where
  | valueError
  | recursionError
deriving DecidableEq, Repr

def orValueError {Read : Type} : Option Read → Except Fault Read
  | some read => .ok read
  | none => .error .valueError

mutual

def scanOnce : Nat → Nat → List Char → Except Fault (Value × List Char)
  | 0, _, _ => .error .valueError
  | fuel + 1, room, text =>
      match text with
      | '"' :: rest => orValueError ((scanString (rest.length + 1) rest).map (fun read => (.text read.1, read.2)))
      | '{' :: rest =>
          match room with
          | 0 => .error .recursionError
          | left + 1 =>
              match skipSpace rest with
              | '}' :: after => .ok (.object [], after)
              | members => (scanMembers fuel left members).map (fun read => (.object read.1, read.2))
      | '[' :: rest =>
          match room with
          | 0 => .error .recursionError
          | left + 1 =>
              match skipSpace rest with
              | ']' :: after => .ok (.array [], after)
              | values => (scanValues fuel left values).map (fun read => (.array read.1, read.2))
      | _ => orValueError ((scanWord text).or (scanNumber text))

def scanMembers : Nat → Nat → List Char → Except Fault (List (List Char × Value) × List Char)
  | 0, _, _ => .error .valueError
  | fuel + 1, room, text =>
      match text with
      | '"' :: rest => do
          let (name, afterName) ← orValueError (scanString (rest.length + 1) rest)
          match skipSpace afterName with
          | ':' :: afterColon => do
              let (value, afterValue) ← scanOnce fuel room (skipSpace afterColon)
              match skipSpace afterValue with
              | '}' :: last => .ok ([(name, value)], last)
              | ',' :: more => do
                  let (others, last) ← scanMembers fuel room (skipSpace more)
                  .ok ((name, value) :: others, last)
              | _ => .error .valueError
          | _ => .error .valueError
      | _ => .error .valueError

def scanValues : Nat → Nat → List Char → Except Fault (List Value × List Char)
  | 0, _, _ => .error .valueError
  | fuel + 1, room, text => do
      let (value, afterValue) ← scanOnce fuel room text
      match skipSpace afterValue with
      | ']' :: last => .ok ([value], last)
      | ',' :: more => do
          let (others, last) ← scanValues fuel room (skipSpace more)
          .ok (value :: others, last)
      | _ => .error .valueError

end

def loads (room : Nat) (text : List Char) : Except Fault Value :=
  match scanOnce (2 * text.length + 1) room (skipSpace text) with
  | .ok (value, rest) => if skipSpace rest = [] then .ok value else .error .valueError
  | .error fault => .error fault

-- A dictionary keeps the last value stored under a key.
def get (members : List (List Char × Value)) (name : String) : Option Value :=
  (members.reverse.find? (fun member => member.1 = name.toList)).map Prod.snd

-- ensure_ascii: what is not printable ASCII is written as code units.
def unitEscape (unit : Nat) : List Char := '\\' :: 'u' :: writeNumber hexChar 16 4 unit

def escapeChar (character : Char) : List Char :=
  if character = '"' then ['\\', '"']
  else if character = '\\' then ['\\', '\\']
  else if character = '\n' then ['\\', 'n']
  else if character = '\r' then ['\\', 'r']
  else if character = '\t' then ['\\', 't']
  else if character.toNat = 8 then ['\\', 'b']
  else if character.toNat = 12 then ['\\', 'f']
  else if 32 ≤ character.toNat ∧ character.toNat < 127 then [character]
  else if character.toNat < 0x10000 then unitEscape character.toNat
  else
    unitEscape (0xD800 + (character.toNat - 0x10000) / 1024) ++ unitEscape (0xDC00 + (character.toNat - 0x10000) % 1024)

def dumpsText (text : List Char) : List Char := '"' :: (text.flatMap escapeChar ++ ['"'])

def Plain (text : List Char) : Prop :=
  ∀ character ∈ text, 32 ≤ character.toNat ∧ character.toNat < 127 ∧ character ≠ '"' ∧ character ≠ '\\'

inductive Scalar where
  | int (value : Int)
  | text (value : List Char)

def dumpsScalar : Scalar → List Char
  | .int value => (toString value).toList
  | .text value => dumpsText value

def dumps (members : List (String × Scalar)) : List Char :=
  '{' :: ((", ".toList).intercalate (members.map (fun member =>
    dumpsText member.1.toList ++ ": ".toList ++ dumpsScalar member.2)) ++ ['}'])

theorem plain_escaped (text : List Char) (plain : Plain text) : text.flatMap escapeChar = text := by
  induction text with
  | nil => rfl
  | cons character rest ih =>
    obtain ⟨printable, ascii, quote, slash⟩ := plain character List.mem_cons_self
    have newline : character ≠ '\n' := by
      rintro rfl
      revert printable
      decide
    have carriage : character ≠ '\r' := by
      rintro rfl
      revert printable
      decide
    have tab : character ≠ '\t' := by
      rintro rfl
      revert printable
      decide
    have own : escapeChar character = [character] := by
      rw [escapeChar, if_neg quote, if_neg slash, if_neg newline, if_neg carriage, if_neg tab, if_neg (by omega),
        if_neg (by omega), if_pos ⟨printable, ascii⟩]
    rw [List.flatMap_cons, own, ih (fun later member => plain later (List.mem_cons_of_mem character member))]
    rfl

theorem dumps_plain (text : List Char) (plain : Plain text) : dumpsText text = '"' :: (text ++ ['"']) := by
  rw [dumpsText, plain_escaped text plain]

theorem scan_plain (text rest : List Char) (plain : Plain text) (fuel : Nat) (enough : text.length < fuel) :
    scanString fuel (text ++ '"' :: rest) = some (text, rest) := by
  induction text generalizing fuel with
  | nil =>
    obtain ⟨less, rfl⟩ : ∃ less, fuel = less + 1 := ⟨fuel - 1, by simp only [List.length_nil] at enough; omega⟩
    simp [scanString]
  | cons character others ih =>
    obtain ⟨less, rfl⟩ : ∃ less, fuel = less + 1 := ⟨fuel - 1, by omega⟩
    obtain ⟨printable, _, quote, slash⟩ := plain character List.mem_cons_self
    rw [List.length_cons] at enough
    have later := ih (fun next member => plain next (List.mem_cons_of_mem character member)) less (by omega)
    rw [List.cons_append, scanString, if_neg quote, if_neg slash, if_neg (by omega), later]
    rfl

theorem scan_text (text rest : List Char) (plain : Plain text) (fuel room : Nat) :
    scanOnce (fuel + 1) room ('"' :: (text ++ '"' :: rest)) = .ok (.text text, rest) := by
  rw [scanOnce, scan_plain text rest plain _ (by rw [List.length_append, List.length_cons]; omega)]
  rfl

theorem scan_one (rest : List Char) (fuel room : Nat) :
    scanOnce (fuel + 1) room ('1' :: ',' :: rest) = .ok (.int 1, ',' :: rest) := by
  have word : scanWord ('1' :: ',' :: rest) = none := by simp [scanWord, words]
  have digit : isDigit '1' = true := by decide
  have comma : isDigit ',' = false := by decide
  have value : digitsValue ['1'] = 1 := by decide
  have number : scanNumber ('1' :: ',' :: rest) = some (.int 1, ',' :: rest) := by
    simp [scanNumber, scanFraction, scanExponent, digit, comma, value, maxIntDigits]
  simp [scanOnce, word, number, orValueError]

theorem scan_object (rest : List Char) (fuel left : Nat) :
    scanOnce (fuel + 1) (left + 1) ('{' :: '"' :: rest) =
      (scanMembers fuel left ('"' :: rest)).map (fun read => (.object read.1, read.2)) := by
  have quote : skipSpace ('"' :: rest) = '"' :: rest := rfl
  simp [scanOnce, quote]

section

variable (name valueText : List Char) (plain : Plain name) (solid : skipSpace valueText = valueText) (fuel room : Nat)
  (value : Value)

include plain solid

theorem scan_member_more (more : List Char) (read : scanOnce fuel room valueText = .ok (value, ',' :: ' ' :: '"' :: more)) :
    scanMembers (fuel + 1) room ('"' :: (name ++ '"' :: ':' :: ' ' :: valueText)) =
      (scanMembers fuel room ('"' :: more)).map (fun others => ((name, value) :: others.1, others.2)) := by
  have named := scan_plain name (':' :: ' ' :: valueText) plain ((name ++ '"' :: ':' :: ' ' :: valueText).length + 1)
    (by rw [List.length_append]; omega)
  have spaced : skipSpace (' ' :: valueText) = valueText := solid
  have colon : skipSpace (':' :: ' ' :: valueText) = ':' :: ' ' :: valueText := rfl
  have comma : skipSpace (',' :: ' ' :: '"' :: more) = ',' :: ' ' :: '"' :: more := rfl
  have quote : skipSpace (' ' :: '"' :: more) = '"' :: more := rfl
  simp only [scanMembers, named, orValueError, colon, spaced, read, comma, quote, bind, Except.bind]
  cases scanMembers fuel room ('"' :: more) <;> rfl

theorem scan_member_last (last : List Char) (read : scanOnce fuel room valueText = .ok (value, '}' :: last)) :
    scanMembers (fuel + 1) room ('"' :: (name ++ '"' :: ':' :: ' ' :: valueText)) = .ok ([(name, value)], last) := by
  have named := scan_plain name (':' :: ' ' :: valueText) plain ((name ++ '"' :: ':' :: ' ' :: valueText).length + 1)
    (by rw [List.length_append]; omega)
  have spaced : skipSpace (' ' :: valueText) = valueText := solid
  have colon : skipSpace (':' :: ' ' :: valueText) = ':' :: ' ' :: valueText := rfl
  have brace : skipSpace ('}' :: last) = '}' :: last := rfl
  simp only [scanMembers, named, orValueError, colon, spaced, read, brace, bind, Except.bind]

end

theorem plain_word (word : String) (plain : word.toList.all (fun character =>
    decide (32 ≤ character.toNat ∧ character.toNat < 127 ∧ character ≠ '"' ∧ character ≠ '\\')) = true) : Plain word.toList := by
  intro character member
  simpa using List.all_eq_true.mp plain character member

end Ubb.Json
