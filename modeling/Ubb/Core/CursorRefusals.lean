import Ubb.Core.Nesting
import Ubb.Core.Pagination

set_option autoImplicit false

-- Which cursors decode_cursor answers, with a position or with the ValueError a
-- list turns into its problem, and which raise something else.
namespace Ubb.Pagination

open Ubb.Library

def IsValueError : CursorError → Prop
  | .uncaught _ => False
  | _ => True

def DecodedOrRefused (runtime : Runtime) (cursor : List Char) : Prop :=
  (∃ t recordId, decodeCursor runtime cursor = .ok (t, recordId)) ∨
    ∃ refusal, decodeCursor runtime cursor = .error refusal ∧ IsValueError refusal ∧
      ∀ (Row : Type) (timeField : Row → Timestamp) (idField : Row → UUID) (table : List Row) (limit : Int), cursor ≠ [] →
        paginate runtime timeField idField table (some cursor) limit = .error (.invalidCursor refusal)

def TextOrAbsent : Option Json.Value → Prop
  | none => True
  | some (.text _) => True
  | _ => False

def FieldsLegible (runtime : Runtime) : Json.Value → Prop
  | .object payload =>
      (Json.get payload "v").any equalsOne = true →
        TextOrAbsent (Json.get payload "t") ∧
          ∀ text, Json.get payload "t" = some (.text text) → (timestampOf runtime text).isSome → TextOrAbsent (Json.get payload "id")
  | _ => False

def Legible (runtime : Runtime) (cursor : List Char) : Prop :=
  ∀ text, cursorText cursor = some text →
    Json.nesting text ≤ runtime.levels ∧ ∀ payload, Json.loads runtime.levels text = .ok payload → FieldsLegible runtime payload

def Escapes (answer : Except CursorError (Aware × UUID)) : Prop := ∃ raised, answer = .error (.uncaught raised)

theorem uuid_field_escapes_iff (id : Json.Value) : (∃ raised, uuidField id = .error (.uncaught raised)) ↔ ¬TextOrAbsent (some id) := by
  cases id with
  | text text =>
    simp only [uuidField, TextOrAbsent, not_true_eq_false, iff_false, not_exists]
    intro raised
    cases uuidOf text <;> simp
  | null => simp [uuidField, TextOrAbsent]
  | bool value => simp [uuidField, TextOrAbsent]
  | int value => simp [uuidField, TextOrAbsent]
  | decimal mantissa exponent => simp [uuidField, TextOrAbsent]
  | notFinite => simp [uuidField, TextOrAbsent]
  | array values => simp [uuidField, TextOrAbsent]
  | object members => simp [uuidField, TextOrAbsent]

theorem object_escapes_iff (runtime : Runtime) (payload : List (List Char × Json.Value)) :
    Escapes (decodePayload runtime (.object payload)) ↔ ¬FieldsLegible runtime (.object payload) := by
  simp only [Escapes, decodePayload, FieldsLegible]
  by_cases version : (Json.get payload "v").any equalsOne = true
  · simp only [version, Bool.not_true, Bool.false_eq_true, if_false, true_implies]
    cases timeField : Json.get payload "t" with
    | none => simp [TextOrAbsent]
    | some t =>
      cases t with
      | text text =>
        cases read : timestampOf runtime text with
        | none => simp [TextOrAbsent, read]
        | some instant =>
          cases idField : Json.get payload "id" with
          | none => simp [TextOrAbsent, read]
          | some id =>
            have escapes := uuid_field_escapes_iff id
            have kept : (∃ raised, (uuidField id).map (fun recordId => (instant, recordId)) = .error (.uncaught raised)) ↔
                ∃ raised, uuidField id = .error (.uncaught raised) := by
              cases uuidField id <;> simp [Except.map]
            simp [TextOrAbsent, read, kept, escapes]
      | null => simp [TextOrAbsent]
      | bool value => simp [TextOrAbsent]
      | int value => simp [TextOrAbsent]
      | decimal mantissa exponent => simp [TextOrAbsent]
      | notFinite => simp [TextOrAbsent]
      | array values => simp [TextOrAbsent]
      | object members => simp [TextOrAbsent]
  · simp [version]

theorem payload_escapes_iff (runtime : Runtime) (payload : Json.Value) : Escapes (decodePayload runtime payload) ↔ ¬FieldsLegible runtime payload := by
  cases payload with
  | object members => exact object_escapes_iff runtime members
  | null => simp [Escapes, decodePayload, FieldsLegible]
  | bool value => simp [Escapes, decodePayload, FieldsLegible]
  | int value => simp [Escapes, decodePayload, FieldsLegible]
  | decimal mantissa exponent => simp [Escapes, decodePayload, FieldsLegible]
  | notFinite => simp [Escapes, decodePayload, FieldsLegible]
  | text text => simp [Escapes, decodePayload, FieldsLegible]
  | array values => simp [Escapes, decodePayload, FieldsLegible]

theorem cursor_escapes_iff (runtime : Runtime) (cursor : List Char) :
    Escapes (decodeCursor runtime cursor) ↔ ¬Legible runtime cursor := by
  unfold decodeCursor Legible
  cases decoded : cursorText cursor with
  | none => simp [Escapes]
  | some text =>
    have stopped := Json.loads_stopped_iff runtime.levels text
    cases loaded : Json.loads runtime.levels text with
    | error fault =>
      rw [loaded] at stopped
      cases fault with
      | valueError =>
        have fits : Json.nesting text ≤ runtime.levels := by simpa using stopped
        simp [Escapes, loaded, fits]
      | recursionError =>
        have past : runtime.levels < Json.nesting text := stopped.mp rfl
        simp [Escapes, loaded, past]
    | ok payload =>
      have fits : Json.nesting text ≤ runtime.levels := by
        rw [loaded] at stopped
        simpa using stopped
      have escapes := payload_escapes_iff runtime payload
      simp [loaded, fits, escapes]

theorem paginate_refused (runtime : Runtime) {Row : Type} (timeField : Row → Timestamp) (idField : Row → UUID) (table : List Row)
    (limit : Int) (cursor : List Char) (given : cursor ≠ []) (refusal : CursorError)
    (refused : decodeCursor runtime cursor = .error refusal) :
    paginate runtime timeField idField table (some cursor) limit = .error (refuse refusal) := by
  rw [paginate, filtered, applyCursorFilter, if_neg given, refused]
  rfl

theorem refuse_value_error (refusal : CursorError) (isValueError : IsValueError refusal) :
    refuse refusal = .invalidCursor refusal := by
  cases refusal with
  | uncaught raised => exact isValueError.elim
  | invalidCursor => rfl
  | unsupportedVersion => rfl
  | invalidTimestamp => rfl
  | invalidId => rfl

theorem decoded_or_refused_iff (runtime : Runtime) (cursor : List Char) :
    DecodedOrRefused runtime cursor ↔ ¬Escapes (decodeCursor runtime cursor) := by
  constructor
  · rintro (⟨t, recordId, decoded⟩ | ⟨refusal, refused, isValueError, _⟩) ⟨raised, escaped⟩
    · rw [decoded] at escaped
      cases escaped
    · rw [refused] at escaped
      cases escaped
      exact isValueError
  · intro kept
    cases answer : decodeCursor runtime cursor with
    | ok read => exact .inl ⟨read.1, read.2, answer⟩
    | error refusal =>
      have isValueError : IsValueError refusal := by
        cases refusal with
        | uncaught raised => exact kept ⟨raised, answer⟩
        | invalidCursor => trivial
        | unsupportedVersion => trivial
        | invalidTimestamp => trivial
        | invalidId => trivial
      refine .inr ⟨refusal, answer, isValueError, ?_⟩
      intro Row timeField idField table limit given
      rw [paginate_refused runtime timeField idField table limit cursor given refusal answer,
        refuse_value_error refusal isValueError]

theorem cursor_decoded_or_refused_iff (runtime : Runtime) (cursor : List Char) :
    DecodedOrRefused runtime cursor ↔ Legible runtime cursor := by
  rw [decoded_or_refused_iff, cursor_escapes_iff, not_not]

-- The base64 of an empty array: a list has no get.
theorem array_cursor_escapes : ¬DecodedOrRefused documentedRuntime "W10=".toList := by
  rw [decoded_or_refused_iff, not_not]
  exact ⟨.attributeError, by decide⟩

end Ubb.Pagination
