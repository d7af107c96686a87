import Ubb.Core.Encodings
import Ubb.Core.Instants
import Ubb.Library.Base64

set_option autoImplicit false

-- The cursor a list hands out: a version, an instant and an id, as JSON in
-- URL-safe base64.
namespace Ubb

open Ubb.Library

structure UUID where
  int : Nat
  bounded : int < 2 ^ 128
deriving DecidableEq

def UUID.hex (id : UUID) : List Char := writeNumber hexChar 16 32 id.int

def UUID.str (id : UUID) : List Char :=
  id.hex.take 8 ++ '-' :: ((id.hex.drop 8).take 4 ++ '-' :: ((id.hex.drop 12).take 4 ++ '-' ::
    ((id.hex.drop 16).take 4 ++ '-' :: id.hex.drop 20)))

-- str.replace(word, ""), from the left; what a match has covered is skipped.
def removeWord (word : List Char) : Nat → List Char → List Char
  | _, [] => []
  | skipped + 1, _ :: rest => removeWord word skipped rest
  | 0, character :: rest =>
      if word.isPrefixOf (character :: rest) then removeWord word (word.length - 1) rest
      else character :: removeWord word 0 rest

def isBrace (character : Char) : Bool := character = '{' || character = '}'

def stripBraces (text : List Char) : List Char := ((text.dropWhile isBrace).reverse.dropWhile isBrace).reverse

-- The zeros of the scripts whose decimals int() reads.
def decimalZeros : List Nat :=
  [0x660, 0x6F0, 0x7C0, 0x966, 0x9E6, 0xA66, 0xAE6, 0xB66, 0xBE6, 0xC66, 0xCE6, 0xD66, 0xDE6, 0xE50, 0xED0, 0xF20, 0x1040,
    0x1090, 0x17E0, 0x1810, 0x1946, 0x19D0, 0x1A80, 0x1A90, 0x1B50, 0x1BB0, 0x1C40, 0x1C50, 0xA620, 0xA8D0, 0xA900, 0xA9D0,
    0xA9F0, 0xAA50, 0xABF0, 0xFF10, 0x104A0, 0x10D30, 0x11066, 0x110F0, 0x11136, 0x111D0, 0x112F0, 0x11450, 0x114D0, 0x11650,
    0x116C0, 0x11730, 0x118E0, 0x11950, 0x11C50, 0x11D50, 0x11DA0, 0x11F50, 0x16A60, 0x16AC0, 0x16B50, 0x1D7CE, 0x1D7D8,
    0x1D7E2, 0x1D7EC, 0x1D7F6, 0x1E140, 0x1E2F0, 0x1E4F0, 0x1E950, 0x1FBF0]

def isWideSpace (code : Nat) : Bool :=
  code ∈ [0x85, 0xA0, 0x1680, 0x2028, 0x2029, 0x202F, 0x205F, 0x3000] || (0x2000 ≤ code && code ≤ 0x200A)

def asciiOf (character : Char) : Char :=
  if character.toNat < 128 then character
  else if isWideSpace character.toNat then ' '
  else
    match decimalZeros.find? (fun nought => nought ≤ character.toNat && character.toNat < nought + 10) with
    | some nought => decimalChar (character.toNat - nought)
    | none => '?'

def isAsciiSpace (character : Char) : Bool := character = ' ' || (9 ≤ character.toNat && character.toNat ≤ 13)

def stripSpace (text : List Char) : List Char := ((text.dropWhile isAsciiSpace).reverse.dropWhile isAsciiSpace).reverse

def dropHexPrefix : List Char → List Char
  | '0' :: mark :: rest =>
      if mark = 'x' ∨ mark = 'X' then (if rest.head? = some '_' then rest.drop 1 else rest) else '0' :: mark :: rest
  | text => text

-- int(text, 16) of a text without a minus; an underscore stands between two
-- digits.
def intBase16 (text : List Char) : Option Nat :=
  let bare := stripSpace (text.map asciiOf)
  let groups := (dropHexPrefix (if bare.head? = some '+' then bare.drop 1 else bare)).splitOn '_'
  if [] ∈ groups then none else readNumber hexValue 16 groups.flatten

def uuidOf (text : List Char) : Option UUID :=
  let bare := removeWord "uuid:".toList 0 (removeWord "urn:".toList 0 text)
  let hex := (stripBraces bare).filter (fun character => character ≠ '-')
  if hex.length = 32 then
    (intBase16 hex).bind (fun int => if bounded : int < 2 ^ 128 then some ⟨int, bounded⟩ else none)
  else none

def toUrlsafe (character : Char) : Char := if character = '+' then '-' else if character = '/' then '_' else character

def fromUrlsafe (character : Char) : Char := if character = '-' then '+' else if character = '_' then '/' else character

def urlsafeB64encode (bytes : List Nat) : List Char := (Base64.encode bytes).map toUrlsafe

def urlsafeB64decode (text : List Char) : Option (List Nat) := Base64.decode (text.map fromUrlsafe)

-- An instant past the calendar's end has no cursor: astimezone raises.
def encodeCursor (effectiveAt : Aware) (recordId : UUID) : Option (List Char) :=
  (astimezoneUtc effectiveAt).map (fun utc =>
    urlsafeB64encode ((Json.dumps [("v", .int 1), ("t", .text (isoformat utc)), ("id", .text recordId.str)]).map Char.toNat))

-- What decode_cursor raises that is no ValueError.
inductive Escape where
  | attributeError
  | typeError
  | recursionError
deriving DecidableEq, Repr

inductive CursorError where
  | invalidCursor
  | unsupportedVersion
  | invalidTimestamp
  | invalidId
  | uncaught (raised : Escape)
deriving DecidableEq, Repr

-- What the interpreter brings: the containers it can still open one inside
-- another, and datetime.fromisoformat, which reads what isoformat writes. What
-- it makes of any other text is left open.
structure Runtime where
  levels : Nat
  positive : 0 < levels
  fromisoformat : List Char → Option (DateTime × Option Int)
  readsBack : ∀ value, fromisoformat (isoformat value) = some (value, some 0)

def documentedRuntime : Runtime := ⟨1000, by decide, Ubb.fromisoformat, fromisoformat_isoformat⟩

def exactly (mantissa exponent : Int) : ℚ := mantissa * 10 ^ exponent

-- A number with a fraction or an exponent is a float: 1.0 is what the numbers
-- up to halfway to its neighbours read as.
def equalsOne : Json.Value → Bool
  | .int value => value = 1
  | .bool value => value
  | .decimal mantissa exponent =>
      decide (1 - 2 ^ (-54 : Int) ≤ exactly mantissa exponent ∧ exactly mantissa exponent ≤ 1 + 2 ^ (-53 : Int))
  | _ => false

def awareOf (naive : DateTime) (offset : Int) : Option Aware :=
  if bounded : -(dayMicros : Int) < offset ∧ offset < dayMicros then some ⟨naive, offset, bounded⟩ else none

def timestampOf (runtime : Runtime) (text : List Char) : Option Aware :=
  (runtime.fromisoformat text).bind (fun parsed => awareOf parsed.1 (parsed.2.getD 0))

-- uuid.UUID takes None for no value given, and calls replace on any other.
def uuidField : Json.Value → Except CursorError UUID
  | .text text =>
      match uuidOf text with
      | none => .error .invalidId
      | some recordId => .ok recordId
  | .null => .error (.uncaught .typeError)
  | _ => .error (.uncaught .attributeError)

def decodePayload (runtime : Runtime) : Json.Value → Except CursorError (Aware × UUID)
  | .object payload =>
      if !(Json.get payload "v").any equalsOne then .error .unsupportedVersion
      else
        match Json.get payload "t" with
        | none => .error .invalidTimestamp
        | some (.text text) =>
            match timestampOf runtime text with
            | none => .error .invalidTimestamp
            | some t =>
                match Json.get payload "id" with
                | none => .error .invalidId
                | some id => (uuidField id).map (fun recordId => (t, recordId))
        | some _ => .error (.uncaught .typeError)
  | _ => .error (.uncaught .attributeError)

def cursorText (cursor : List Char) : Option (List Char) := (urlsafeB64decode cursor).bind decodeText

def decodeCursor (runtime : Runtime) (cursor : List Char) : Except CursorError (Aware × UUID) :=
  match cursorText cursor with
  | none => .error .invalidCursor
  | some text =>
      match Json.loads runtime.levels text with
      | .error .valueError => .error .invalidCursor
      | .error .recursionError => .error (.uncaught .recursionError)
      | .ok payload => decodePayload runtime payload

theorem hex_length (id : UUID) : id.hex.length = 32 := write_number_length hexChar 16 32 id.int

def isHexDigit (character : Char) : Bool := (hexValue character).isSome

theorem hex_digits (id : UUID) : ∀ character ∈ id.hex, isHexDigit character = true := by
  apply written_all hexChar (fun character => isHexDigit character = true) 16 32 id.int (by decide)
  intro digit fits
  rw [isHexDigit, hex_value_char digit fits]
  rfl

theorem hex_digit_not (character : Char) (isHex : isHexDigit character = true) :
    character ≠ ':' ∧ character ≠ '-' ∧ isBrace character = false := by
  refine ⟨?_, ?_, ?_⟩
  · rintro rfl
    revert isHex
    decide
  · rintro rfl
    revert isHex
    decide
  · rw [← Bool.not_eq_true]
    intro brace
    simp only [isBrace, Bool.or_eq_true, decide_eq_true_eq] at brace
    rcases brace with rfl | rfl
    · revert isHex
      decide
    · revert isHex
      decide

theorem hex_digit_code (character : Char) (isHex : isHexDigit character = true) :
    character.toNat < 128 ∧ isAsciiSpace character = false ∧ character ≠ '_' ∧ character ≠ '+' ∧ character ≠ 'x' ∧
      character ≠ 'X' := by
  have other : ∀ mark, isHexDigit mark = false → character ≠ mark := by
    rintro mark notHex rfl
    rw [isHex] at notHex
    cases notHex
  have coded : 48 ≤ character.toNat ∧ character.toNat < 128 := by
    simp only [isHexDigit, hexValue] at isHex
    split at isHex
    · omega
    · split at isHex
      · omega
      · split at isHex
        · omega
        · cases isHex
  refine ⟨coded.2, ?_, other '_' rfl, other '+' rfl, other 'x' rfl, other 'X' rfl⟩
  simp only [isAsciiSpace, Bool.or_eq_false_iff, decide_eq_false_iff_not, Bool.and_eq_false_imp]
  exact ⟨other ' ' rfl, by omega⟩

theorem hex_pieces (hex : List Char) :
    hex.take 8 ++ ((hex.drop 8).take 4 ++ ((hex.drop 12).take 4 ++ ((hex.drop 16).take 4 ++ hex.drop 20))) = hex := by
  have piece : ∀ start, (hex.drop start).take 4 ++ hex.drop (start + 4) = hex.drop start := by
    intro start
    conv_rhs => rw [← List.take_append_drop 4 (hex.drop start), List.drop_drop]
  rw [piece 16, piece 12, piece 8, List.take_append_drop]

theorem str_characters (id : UUID) : ∀ character ∈ id.str, character = '-' ∨ isHexDigit character = true := by
  have digits := hex_digits id
  intro character member
  simp only [UUID.str, List.mem_append, List.mem_cons] at member
  rcases member with piece | hyphen | piece | hyphen | piece | hyphen | piece | hyphen | piece
  · exact .inr (digits character (List.mem_of_mem_take piece))
  · exact .inl hyphen
  · exact .inr (digits character (List.mem_of_mem_drop (List.mem_of_mem_take piece)))
  · exact .inl hyphen
  · exact .inr (digits character (List.mem_of_mem_drop (List.mem_of_mem_take piece)))
  · exact .inl hyphen
  · exact .inr (digits character (List.mem_of_mem_drop (List.mem_of_mem_take piece)))
  · exact .inl hyphen
  · exact .inr (digits character (List.mem_of_mem_drop piece))

theorem str_hex (id : UUID) : id.str.filter (fun character => character ≠ '-') = id.hex := by
  have kept : ∀ piece : List Char, (∀ character ∈ piece, character ∈ id.hex) →
      piece.filter (fun character => character ≠ '-') = piece := by
    intro piece inside
    rw [List.filter_eq_self]
    intro character member
    exact decide_eq_true (hex_digit_not character (hex_digits id character (inside character member))).2.1
  simp only [UUID.str, List.filter_append, List.filter_cons, ne_eq, not_true_eq_false, decide_false, Bool.false_eq_true, if_false]
  conv_rhs => rw [← hex_pieces id.hex]
  rw [kept _ (fun _ member => List.mem_of_mem_take member),
    kept _ (fun _ member => List.mem_of_mem_drop (List.mem_of_mem_take member)),
    kept _ (fun _ member => List.mem_of_mem_drop (List.mem_of_mem_take member)),
    kept _ (fun _ member => List.mem_of_mem_drop (List.mem_of_mem_take member)),
    kept _ (fun _ member => List.mem_of_mem_drop member)]

theorem remove_absent_word (word : List Char) (mark : Char) (marked : mark ∈ word) (text : List Char) (absent : mark ∉ text) :
    removeWord word 0 text = text := by
  induction text with
  | nil => rfl
  | cons character rest ih =>
    have apart : word.isPrefixOf (character :: rest) = false := by
      rw [← Bool.not_eq_true]
      intro begins
      exact absent ((List.isPrefixOf_iff_prefix.mp begins).subset marked)
    rw [removeWord, apart, ih (fun later => absent (List.mem_cons_of_mem character later))]
    rfl

theorem drop_while_none (drops : Char → Bool) (text : List Char) (kept : ∀ character ∈ text, drops character = false) :
    text.dropWhile drops = text := by
  cases text with
  | nil => rfl
  | cons character rest => rw [List.dropWhile_cons_of_neg (by simp [kept character List.mem_cons_self])]

theorem strip_no_braces (text : List Char) (bare : ∀ character ∈ text, isBrace character = false) : stripBraces text = text := by
  rw [stripBraces, drop_while_none isBrace text bare,
    drop_while_none isBrace text.reverse (fun character member => bare character (List.mem_reverse.mp member)), List.reverse_reverse]

theorem strip_solid (text : List Char) (solid : ∀ character ∈ text, isAsciiSpace character = false) : stripSpace text = text := by
  rw [stripSpace, drop_while_none isAsciiSpace text solid,
    drop_while_none isAsciiSpace text.reverse (fun character member => solid character (List.mem_reverse.mp member)), List.reverse_reverse]

theorem int_base_16_hex (text : List Char) (nonempty : text ≠ []) (hex : ∀ character ∈ text, isHexDigit character = true) :
    intBase16 text = readNumber hexValue 16 text := by
  have plain : text.map asciiOf = text := by
    conv_rhs => rw [← List.map_id text]
    apply List.map_congr_left
    intro character member
    rw [asciiOf, if_pos (hex_digit_code character (hex character member)).1]
    rfl
  have solid : ∀ character ∈ text, isAsciiSpace character = false :=
    fun character member => (hex_digit_code character (hex character member)).2.1
  have unbroken : '_' ∉ text := fun member => (hex_digit_code '_' (hex '_' member)).2.2.1 rfl
  have unsigned : text.head? ≠ some '+' := by
    intro head
    exact (hex_digit_code '+' (hex '+' (List.mem_of_mem_head? head))).2.2.2.1 rfl
  have unbased : dropHexPrefix text = text := by
    rcases text with _ | ⟨first, _ | ⟨second, rest⟩⟩
    · rfl
    · simp [dropHexPrefix]
    · have marked := hex_digit_code second (hex second (by simp))
      unfold dropHexPrefix
      split
      · rename_i same
        cases same
        rw [if_neg (by rintro (mark | mark) <;> simp_all)]
      · rfl
  have whole : text.splitOn '_' = [text] := by
    apply List.splitOnP_eq_singleton
    rintro character member
    rw [beq_eq_false_iff_ne]
    rintro rfl
    exact unbroken member
  simp only [intBase16, plain, strip_solid text solid, if_neg unsigned, unbased, whole]
  simp [nonempty]

theorem uuid_of_str (id : UUID) : uuidOf id.str = some id := by
  have characters := str_characters id
  have noColon : ':' ∉ id.str := by
    intro member
    rcases characters ':' member with hyphen | hex
    · cases hyphen
    · exact (hex_digit_not ':' hex).1 rfl
  have noBrace : ∀ character ∈ id.str, isBrace character = false := by
    intro character member
    rcases characters character member with rfl | hex
    · rfl
    · exact (hex_digit_not character hex).2.2
  have read : readNumber hexValue 16 id.hex = some id.int :=
    read_number_written hexChar hexValue 16 32 id.int (by decide) (by have := id.bounded; omega) hex_value_char
  simp only [uuidOf]
  rw [remove_absent_word "urn:".toList ':' (by decide) id.str noColon,
    remove_absent_word "uuid:".toList ':' (by decide) id.str noColon, strip_no_braces id.str noBrace, str_hex,
    if_pos (hex_length id), int_base_16_hex id.hex (List.ne_nil_of_length_pos (by rw [hex_length]; decide)) (hex_digits id), read,
    Option.bind_some, dif_pos id.bounded]

theorem sextet_char_not_safe : ∀ sextet, sextet < 64 → Base64.sextetChar sextet ≠ '-' ∧ Base64.sextetChar sextet ≠ '_' := by
  decide

theorem urlsafe_character (character : Char) (notDash : character ≠ '-') (notBar : character ≠ '_') :
    fromUrlsafe (toUrlsafe character) = character := by
  unfold toUrlsafe
  split
  · rename_i plus
    rw [plus]
    rfl
  · split
    · rename_i slash
      rw [slash]
      rfl
    · rw [fromUrlsafe, if_neg notDash, if_neg notBar]

theorem urlsafe_round_trip (bytes : List Nat) (isByte : ∀ byte ∈ bytes, byte < 256) :
    urlsafeB64decode (urlsafeB64encode bytes) = some bytes := by
  have back : (urlsafeB64encode bytes).map fromUrlsafe = Base64.encode bytes := by
    unfold urlsafeB64encode
    rw [List.map_map]
    conv_rhs => rw [← List.map_id (Base64.encode bytes)]
    apply List.map_congr_left
    intro character member
    obtain ⟨notDash, notBar⟩ := Base64.encode_all (fun character => character ≠ '-' ∧ character ≠ '_') sextet_char_not_safe
      (by decide) bytes isByte character member
    exact urlsafe_character character notDash notBar
  rw [urlsafeB64decode, back, Base64.decode_encode bytes isByte]

theorem plain_digit (character : Char) (digit : isHexDigit character = true) :
    32 ≤ character.toNat ∧ character.toNat < 127 ∧ character ≠ '"' ∧ character ≠ '\\' := by
  have coded : 48 ≤ character.toNat ∧ character.toNat < 127 ∧ character.toNat ≠ 92 := by
    simp only [isHexDigit, hexValue] at digit
    split at digit
    · omega
    · split at digit
      · omega
      · split at digit
        · omega
        · cases digit
  refine ⟨by omega, by omega, ?_, ?_⟩
  · rintro rfl
    revert coded
    decide
  · rintro rfl
    revert coded
    decide

theorem decimal_hex (character : Char) (digit : (decimalValue character).isSome = true) : isHexDigit character = true := by
  unfold decimalValue at digit
  split at digit
  · rename_i coded
    rw [isHexDigit, hexValue, if_pos coded]
    rfl
  · cases digit

theorem plain_str (id : UUID) : Json.Plain id.str := by
  intro character member
  rcases str_characters id character member with rfl | hex
  · decide
  · exact plain_digit character hex

theorem plain_isoformat (value : DateTime) : Json.Plain (isoformat value) := by
  have digits : ∀ width number, ∀ character ∈ decimal width number,
      32 ≤ character.toNat ∧ character.toNat < 127 ∧ character ≠ '"' ∧ character ≠ '\\' :=
    fun width number character member => plain_digit character (decimal_hex character (decimal_digits width number character member))
  have zone : Json.Plain "+00:00".toList := Json.plain_word "+00:00" (by decide)
  intro character member
  simp only [isoformat, List.mem_append, List.mem_cons] at member
  rcases member with piece | rfl | piece | rfl | piece | rfl | piece | rfl | piece | rfl | piece | rfl | piece | tail
  · exact digits 4 value.year character piece
  · decide
  · exact digits 2 value.month character piece
  · decide
  · exact digits 2 value.day character piece
  · decide
  · exact digits 2 value.hour character piece
  · decide
  · exact digits 2 value.minute character piece
  · decide
  · exact digits 2 value.second character piece
  · decide
  · exact digits 6 value.microsecond character piece
  · exact zone character tail

def idMember (id : List Char) : List Char := "id".toList ++ '"' :: ':' :: ' ' :: '"' :: (id ++ '"' :: '}' :: [])

def timeMember (time id : List Char) : List Char :=
  "t".toList ++ '"' :: ':' :: ' ' :: '"' :: (time ++ '"' :: ',' :: ' ' :: '"' :: idMember id)

def payloadText (time id : List Char) : List Char :=
  '{' :: '"' :: ("v".toList ++ '"' :: ':' :: ' ' :: '1' :: ',' :: ' ' :: '"' :: timeMember time id)

section

variable (time id : List Char) (plainTime : Json.Plain time) (plainId : Json.Plain id)

include plainTime plainId

theorem dumps_payload : Json.dumps [("v", .int 1), ("t", .text time), ("id", .text id)] = payloadText time id := by
  have version : Json.dumpsText ['v'] = ['"', 'v', '"'] := by decide
  have instant : Json.dumpsText ['t'] = ['"', 't', '"'] := by decide
  have named : Json.dumpsText ['i', 'd'] = ['"', 'i', 'd', '"'] := by decide
  have number : (Int.repr 1).toList = ['1'] := by decide
  simp [Json.dumps, Json.dumpsScalar, payloadText, timeMember, idMember, Json.dumps_plain time plainTime, Json.dumps_plain id plainId, number,
    version, instant, named, List.intercalate]

theorem payload_ascii : Ascii (payloadText time id) := by
  have asciiTime : Ascii time := fun character member => by have := plainTime character member; omega
  have asciiId : Ascii id := fun character member => by have := plainId character member; omega
  simp [payloadText, timeMember, idMember, asciiTime, asciiId]

theorem scan_payload (fuel left : Nat) : Json.scanOnce (fuel + 5) (left + 1) (payloadText time id) =
    .ok (.object [("v".toList, .int 1), ("t".toList, .text time), ("id".toList, .text id)], []) := by
  have named : Json.scanMembers (fuel + 2) left ('"' :: idMember id) = .ok ([("id".toList, .text id)], []) :=
    Json.scan_member_last "id".toList _ (Json.plain_word "id" (by decide)) rfl (fuel + 1) left (.text id) []
      (Json.scan_text id ['}'] plainId fuel left)
  have instant := Json.scan_member_more "t".toList _ (Json.plain_word "t" (by decide)) rfl (fuel + 2) left
    (.text time) (idMember id) (Json.scan_text time (',' :: ' ' :: '"' :: idMember id) plainTime (fuel + 1) left)
  have version := Json.scan_member_more "v".toList _ (Json.plain_word "v" (by decide)) rfl (fuel + 3) left
    (.int 1) (timeMember time id) (Json.scan_one (' ' :: '"' :: timeMember time id) (fuel + 2) left)
  rw [named] at instant
  have later : Json.scanMembers (fuel + 3) left ('"' :: timeMember time id) =
      .ok ([("t".toList, .text time), ("id".toList, .text id)], []) := instant
  rw [later] at version
  rw [payloadText, Json.scan_object, version]
  rfl

theorem loads_payload (runtime : Runtime) : Json.loads runtime.levels (payloadText time id) =
    .ok (.object [("v".toList, .int 1), ("t".toList, .text time), ("id".toList, .text id)]) := by
  have long : 4 ≤ (payloadText time id).length := by simp [payloadText]
  have scanned := scan_payload time id plainTime plainId (2 * (payloadText time id).length - 4) (runtime.levels - 1)
  have positive := runtime.positive
  have room : runtime.levels - 1 + 1 = runtime.levels := by omega
  have fuel : 2 * (payloadText time id).length - 4 + 5 = 2 * (payloadText time id).length + 1 := by omega
  rw [fuel, room] at scanned
  have brace : Json.skipSpace (payloadText time id) = payloadText time id := rfl
  rw [Json.loads, brace, scanned]
  rfl

end

theorem timestamp_of_isoformat (runtime : Runtime) (value : DateTime) : timestampOf runtime (isoformat value) = some (utcOf value) := by
  rw [timestampOf, runtime.readsBack]
  rfl

theorem cursor_read_back (runtime : Runtime) (effectiveAt : Aware) (recordId : UUID) (utc : DateTime)
    (representable : astimezoneUtc effectiveAt = some utc) :
    ∃ cursor, encodeCursor effectiveAt recordId = some cursor ∧ cursor ≠ [] ∧
      decodeCursor runtime cursor = .ok (utcOf utc, recordId) ∧ (utcOf utc).instant = effectiveAt.instant := by
  have plainTime := plain_isoformat utc
  have plainId := plain_str recordId
  have ascii := payload_ascii (isoformat utc) recordId.str plainTime plainId
  have isByte : ∀ byte ∈ (payloadText (isoformat utc) recordId.str).map Char.toNat, byte < 256 := by
    intro byte member
    obtain ⟨character, listed, rfl⟩ := List.mem_map.mp member
    have small := ascii character listed
    omega
  have raw := urlsafe_round_trip _ isByte
  refine ⟨urlsafeB64encode ((payloadText (isoformat utc) recordId.str).map Char.toNat), ?_, ?_, ?_, ?_⟩
  · rw [encodeCursor, representable, Option.map_some, dumps_payload _ _ plainTime plainId]
  · intro empty
    rw [empty] at raw
    cases raw
  · have version : Json.get [("v".toList, .int 1), ("t".toList, .text (isoformat utc)), ("id".toList, .text recordId.str)] "v" =
        some (.int 1) := by simp [Json.get]
    have instant : Json.get [("v".toList, .int 1), ("t".toList, .text (isoformat utc)), ("id".toList, .text recordId.str)] "t" =
        some (.text (isoformat utc)) := by simp [Json.get]
    have named : Json.get [("v".toList, .int 1), ("t".toList, .text (isoformat utc)), ("id".toList, .text recordId.str)] "id" =
        some (.text recordId.str) := by simp [Json.get]
    have isOne : equalsOne (.int 1) = true := rfl
    have text : decodeText ((payloadText (isoformat utc) recordId.str).map Char.toNat) =
        some (payloadText (isoformat utc) recordId.str) := decode_text_ascii '{' '"' _ ascii (by decide) (by decide)
    rw [decodeCursor, cursorText, raw, Option.bind_some, text]
    dsimp only
    rw [loads_payload _ _ plainTime plainId runtime]
    simp only [decodePayload, uuidField, version, instant, named, Option.any_some, isOne, Bool.not_true, Bool.false_eq_true,
      if_false, timestamp_of_isoformat, uuid_of_str]
    rfl
  · have same := of_micros_some effectiveAt.instant utc representable
    simpa [Aware.instant, utcOf] using same

end Ubb
