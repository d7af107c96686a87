import Mathlib.Computability.RegularExpressions

set_option autoImplicit false

-- Regular expressions as a pattern language writes them, over any alphabet:
-- a class of letters, an optional part, one or more.
namespace Ubb.Library

open RegularExpression

variable {Letter : Type}

def oneOf (letters : List Letter) : RegularExpression Letter :=
  letters.foldr (fun letter others => char letter + others) 0

def maybe (pattern : RegularExpression Letter) : RegularExpression Letter := 1 + pattern

def atLeastOne (pattern : RegularExpression Letter) : RegularExpression Letter := pattern * pattern.star

theorem matches_char (letter : Letter) (word : List Letter) : word ∈ (char letter).matches' ↔ word = [letter] := by
  rw [matches'_char]
  exact Iff.rfl

theorem matches_one_of (letters word : List Letter) :
    word ∈ (oneOf letters).matches' ↔ ∃ letter ∈ letters, word = [letter] := by
  induction letters with
  | nil => exact ⟨fun impossible => impossible.elim, fun ⟨_, member, _⟩ => nomatch member⟩
  | cons letter others ih =>
    have unfolded : oneOf (letter :: others) = char letter + oneOf others := rfl
    rw [unfolded, matches'_add, Language.mem_add, ih, matches_char]
    simp only [List.mem_cons, exists_eq_or_imp]

theorem matches_either (left right : RegularExpression Letter) (word : List Letter) :
    word ∈ (left + right).matches' ↔ word ∈ left.matches' ∨ word ∈ right.matches' := by
  rw [matches'_add, Language.mem_add]

theorem matches_joined (first second : RegularExpression Letter) (word : List Letter) :
    word ∈ (first * second).matches' ↔
      ∃ front back, front ∈ first.matches' ∧ back ∈ second.matches' ∧ word = front ++ back := by
  rw [matches'_mul, Language.mem_mul]
  constructor
  · rintro ⟨front, matched, back, rest, rfl⟩
    exact ⟨front, back, matched, rest, rfl⟩
  · rintro ⟨front, back, matched, rest, rfl⟩
    exact ⟨front, matched, back, rest, rfl⟩

theorem matches_after (letter : Letter) (pattern : RegularExpression Letter) (word : List Letter) :
    word ∈ (char letter * pattern).matches' ↔ ∃ rest, rest ∈ pattern.matches' ∧ word = letter :: rest := by
  rw [matches_joined]
  constructor
  · rintro ⟨front, back, first, rest, rfl⟩
    rw [matches_char] at first
    exact ⟨back, rest, by rw [first]; rfl⟩
  · rintro ⟨rest, matched, rfl⟩
    exact ⟨[letter], rest, (matches_char letter _).mpr rfl, matched, rfl⟩

theorem matches_maybe (pattern : RegularExpression Letter) (word : List Letter) :
    word ∈ (maybe pattern).matches' ↔ word = [] ∨ word ∈ pattern.matches' := by
  rw [maybe, matches_either, matches'_epsilon, Language.mem_one]

theorem matches_any_of (letters word : List Letter) :
    word ∈ (oneOf letters).star.matches' ↔ ∀ letter ∈ word, letter ∈ letters := by
  rw [matches'_star, Language.mem_kstar]
  constructor
  · rintro ⟨pieces, rfl, matched⟩ letter member
    obtain ⟨piece, listed, within⟩ := List.mem_flatten.mp member
    obtain ⟨found, allowed, rfl⟩ := (matches_one_of letters piece).mp (matched piece listed)
    rw [List.mem_singleton.mp within]
    exact allowed
  · intro allowed
    refine ⟨word.map (fun letter => [letter]), ?_, ?_⟩
    · induction word with
      | nil => rfl
      | cons letter rest ih =>
        rw [List.map_cons, List.flatten_cons, ← ih (fun later member => allowed later (List.mem_cons_of_mem _ member))]
        rfl
    · intro piece listed
      obtain ⟨letter, member, rfl⟩ := List.mem_map.mp listed
      exact (matches_one_of letters _).mpr ⟨letter, allowed letter member, rfl⟩

theorem matches_some_of (letters word : List Letter) :
    word ∈ (atLeastOne (oneOf letters)).matches' ↔ word ≠ [] ∧ ∀ letter ∈ word, letter ∈ letters := by
  rw [atLeastOne, matches_joined]
  constructor
  · rintro ⟨front, back, first, rest, rfl⟩
    obtain ⟨letter, allowed, rfl⟩ := (matches_one_of letters front).mp first
    refine ⟨by simp, ?_⟩
    intro later member
    rcases List.mem_append.mp member with here | after
    · rw [List.mem_singleton.mp here]
      exact allowed
    · exact (matches_any_of letters back).mp rest later after
  · rintro ⟨present, allowed⟩
    cases word with
    | nil => exact absurd rfl present
    | cons letter rest =>
      refine ⟨[letter], rest, ?_, ?_, rfl⟩
      · exact (matches_one_of letters _).mpr ⟨letter, allowed letter List.mem_cons_self, rfl⟩
      · exact (matches_any_of letters rest).mpr (fun later member => allowed later (List.mem_cons_of_mem _ member))

theorem matches_ending (letters closing word : List Letter) (within : ∀ letter ∈ closing, letter ∈ letters) :
    word ∈ ((oneOf letters).star * oneOf closing).matches' ↔
      (∀ letter ∈ word, letter ∈ letters) ∧ ∃ last ∈ closing, word.getLast? = some last := by
  rw [matches_joined]
  constructor
  · rintro ⟨front, back, rest, final, rfl⟩
    obtain ⟨last, allowed, rfl⟩ := (matches_one_of closing back).mp final
    refine ⟨?_, last, allowed, List.getLast?_concat⟩
    intro letter member
    rcases List.mem_append.mp member with earlier | final
    · exact (matches_any_of letters front).mp rest letter earlier
    · rw [List.mem_singleton.mp final]
      exact within last allowed
  · rintro ⟨allowed, last, closes, final⟩
    obtain ⟨front, rfl⟩ := List.getLast?_eq_some_iff.mp final
    refine ⟨front, [last], ?_, (matches_one_of closing _).mpr ⟨last, closes, rfl⟩, rfl⟩
    exact (matches_any_of letters front).mpr (fun letter member => allowed letter (List.mem_append_left _ member))

end Ubb.Library
