import Mathlib.Data.List.DropRight

set_option autoImplicit false

-- normalize_email: the one form that an address is stored and matched in.
namespace Ubb.Membership

-- What str.strip() takes off either end.
def isWhitespace (character : Char) : Bool :=
  let code := character.toNat
  (9 ≤ code && code ≤ 13) || (0x1C ≤ code && code ≤ 0x20) || (0x2000 ≤ code && code ≤ 0x200A) ||
    code ∈ [0x85, 0xA0, 0x1680, 0x2028, 0x2029, 0x202F, 0x205F, 0x3000]

def strip (value : String) : String := String.ofList ((value.toList.dropWhile isWhitespace).rdropWhile isWhitespace)

-- str.lower goes by the Unicode tables of the language: what is lower-cased has
-- no capital left, and no letter becomes a space.
structure Casing where
  lower : String → String
  lower_lower : ∀ value, lower (lower value) = lower value
  strip_lower : ∀ value, strip value = value → strip (lower value) = lower value

def Casing.normalizeEmail (casing : Casing) (value : String) : String := casing.lower (strip value)

theorem drop_while_of_prefix (space : Char → Bool) (text ending : List Char) (starts : ending <+: text.dropWhile space) :
    ending.dropWhile space = ending := by
  cases ending with
  | nil => rfl
  | cons first rest =>
    obtain ⟨after, joined⟩ := starts
    rw [List.dropWhile_cons]
    split
    · rename_i blank
      have stops := List.dropWhile_idempotent space text
      rw [← joined, List.cons_append, List.dropWhile_cons_of_pos blank] at stops
      have shorter := (List.dropWhile_sublist space (l := rest ++ after)).length_le
      rw [stops, List.length_cons] at shorter
      exact absurd shorter (Nat.not_succ_le_self _)
    · rfl

theorem strip_strip (value : String) : strip (strip value) = strip value := by
  rw [strip, strip, String.toList_ofList,
    drop_while_of_prefix isWhitespace value.toList _ (List.rdropWhile_prefix isWhitespace _), List.rdropWhile_idempotent]

theorem normalize_email_idempotent (casing : Casing) (value : String) :
    casing.normalizeEmail (casing.normalizeEmail value) = casing.normalizeEmail value := by
  rw [Casing.normalizeEmail, Casing.normalizeEmail, casing.strip_lower _ (strip_strip value), casing.lower_lower]

theorem to_lower_code (character : Char) :
    character.toLower = character ∨ (65 ≤ character.toNat ∧ character.toNat ≤ 90 ∧ character.toLower.toNat = character.toNat + 32) := by
  delta Char.toLower
  split
  · rename_i capital
    obtain ⟨least, most⟩ := capital
    rw [ge_iff_le, UInt32.le_iff_toNat_le] at least
    rw [UInt32.le_iff_toNat_le] at most
    have first : 65 ≤ character.val.toNat := least
    have last : character.val.toNat ≤ 90 := most
    refine .inr ⟨first, last, ?_⟩
    show (character.val + 32).toNat = character.val.toNat + 32
    rw [UInt32.toNat_add]
    exact Nat.mod_eq_of_lt (Nat.lt_of_le_of_lt (Nat.add_le_add_right last _) (by decide))
  · exact .inl rfl

theorem whitespace_to_lower (character : Char) : isWhitespace character.toLower = isWhitespace character := by
  rcases to_lower_code character with same | ⟨least, most, code⟩
  · rw [same]
  · have plain : ∀ other : Char, 33 ≤ other.toNat → other.toNat ≤ 126 → isWhitespace other = false := by
      intro other above below
      simp [isWhitespace]
      omega
    rw [plain character (by omega) (by omega), plain character.toLower (by omega) (by omega)]

theorem to_lower_to_lower (character : Char) : character.toLower.toLower = character.toLower := by
  rcases to_lower_code character with same | ⟨least, most, code⟩
  · rw [same, same]
  · rcases to_lower_code character.toLower with same | ⟨_, below, _⟩
    · exact same
    · omega

theorem strip_of_blanks (lower : Char → Char) (alike : ∀ character, isWhitespace (lower character) = isWhitespace character)
    (text : List Char) : ((text.map lower).dropWhile isWhitespace).rdropWhile isWhitespace =
      ((text.dropWhile isWhitespace).rdropWhile isWhitespace).map lower := by
  have same : isWhitespace ∘ lower = isWhitespace := funext alike
  rw [List.dropWhile_map, same, List.rdropWhile, List.rdropWhile, ← List.map_reverse, List.dropWhile_map, same, List.map_reverse]

def asciiCasing : Casing where
  lower value := String.ofList (value.toList.map Char.toLower)
  lower_lower value := by
    rw [String.toList_ofList, List.map_map]
    congr 2
    exact funext to_lower_to_lower
  strip_lower value bare := by
    have letters := congrArg String.toList bare
    rw [strip, String.toList_ofList] at letters
    rw [strip, String.toList_ofList, strip_of_blanks Char.toLower whitespace_to_lower, letters]

example : asciiCasing.normalizeEmail " \tSam@X.com\n" = "sam@x.com" := by decide

end Ubb.Membership
