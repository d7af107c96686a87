import Mathlib.Tactic

set_option autoImplicit false

-- A computation that may fail, with the depth of stack it takes. Run within a
-- limit, it stops where it would go past it.
namespace Ubb.Library

structure Measured (Result : Type) where
  depth : Nat
  outcome : Option Result

namespace Measured

variable {Result Next Error : Type}

def given (outcome : Option Result) : Measured Result := ⟨0, outcome⟩

def deeper (inner : Measured Result) : Measured Result := ⟨inner.depth + 1, inner.outcome⟩

def andThen (first : Measured Result) (next : Result → Measured Next) : Measured Next :=
  match first.outcome with
  | none => ⟨first.depth, none⟩
  | some result => ⟨max first.depth (next result).depth, (next result).outcome⟩

instance : Monad Measured where
  pure result := given (some result)
  bind := andThen

@[simp] theorem pure_outcome (result : Result) : (pure result : Measured Result).outcome = some result := rfl

@[simp] theorem pure_depth (result : Result) : (pure result : Measured Result).depth = 0 := rfl

@[simp] theorem map_outcome (step : Result → Next) (first : Measured Result) : (step <$> first).outcome = first.outcome.map step := by
  show (andThen first fun result => given (some (step result))).outcome = _
  cases outcome : first.outcome <;> simp [andThen, outcome, given]

@[simp] theorem map_depth (step : Result → Next) (first : Measured Result) : (step <$> first).depth = first.depth := by
  show (andThen first fun result => given (some (step result))).depth = _
  cases outcome : first.outcome <;> simp [andThen, outcome, given]

theorem bind_returned (first : Measured Result) (next : Result → Measured Next) (result : Next)
    (returned : (first >>= next).outcome = some result) :
    ∃ middle, first.outcome = some middle ∧ (next middle).outcome = some result ∧
      (first >>= next).depth = max first.depth (next middle).depth := by
  have sequence : first >>= next = andThen first next := rfl
  rw [sequence] at returned ⊢
  cases outcome : first.outcome with
  | none =>
    simp only [andThen, outcome] at returned
    cases returned
  | some middle =>
    simp only [andThen, outcome] at returned
    exact ⟨middle, rfl, returned, by simp only [andThen, outcome]⟩

theorem bind_agree (first : Measured Result) (next other : Result → Measured Next)
    (agree : ∀ result, first.outcome = some result → next result = other result) : first >>= next = first >>= other := by
  show andThen first next = andThen first other
  cases outcome : first.outcome with
  | none => simp only [andThen, outcome]
  | some result => simp only [andThen, outcome, agree result outcome]

variable (refused tooDeep : Error)

def settle : Option Result → Except Error Result
  | some result => .ok result
  | none => .error refused

@[simp] theorem settle_none : settle refused (none : Option Result) = .error refused := rfl

@[simp] theorem settle_some (result : Result) : settle refused (some result) = .ok result := rfl

def within (room : Nat) (computed : Measured Result) : Except Error Result :=
  if computed.depth ≤ room then settle refused computed.outcome else .error tooDeep

@[simp] theorem within_given (room : Nat) (outcome : Option Result) :
    within refused tooDeep room (given outcome) = settle refused outcome := if_pos (Nat.zero_le room)

@[simp] theorem within_pure (room : Nat) (result : Result) : within refused tooDeep room (pure result) = .ok result :=
  within_given refused tooDeep room (some result)

@[simp] theorem within_deeper_none (inner : Measured Result) : within refused tooDeep 0 (deeper inner) = .error tooDeep :=
  if_neg (Nat.not_succ_le_zero inner.depth)

@[simp] theorem within_deeper (left : Nat) (inner : Measured Result) :
    within refused tooDeep (left + 1) (deeper inner) = within refused tooDeep left inner := by
  simp [within, deeper]

@[simp] theorem within_bind (room : Nat) (first : Measured Result) (next : Result → Measured Next) :
    within refused tooDeep room (first >>= next) =
      within refused tooDeep room first >>= fun result => within refused tooDeep room (next result) := by
  show within refused tooDeep room (andThen first next) = _
  by_cases fits : first.depth ≤ room
  · cases outcome : first.outcome with
    | none => simp [within, andThen, settle, outcome, fits, bind, Except.bind]
    | some result => simp [within, andThen, settle, outcome, fits, bind, Except.bind]
  · cases outcome : first.outcome with
    | none => simp [within, andThen, outcome, fits, bind, Except.bind]
    | some result =>
      have past : ¬max first.depth (next result).depth ≤ room := by omega
      simp only [within, andThen, outcome, if_neg fits, if_neg past]
      rfl

@[simp] theorem within_map (room : Nat) (step : Result → Next) (first : Measured Result) :
    within refused tooDeep room (step <$> first) = (within refused tooDeep room first).map step := by
  show within refused tooDeep room (first >>= fun result => pure (step result)) = _
  rw [within_bind]
  cases within refused tooDeep room first <;> simp [bind, Except.bind, Except.map]

theorem within_stopped_iff (room : Nat) (computed : Measured Result) (other : refused ≠ tooDeep) :
    within refused tooDeep room computed = .error tooDeep ↔ room < computed.depth := by
  by_cases fits : computed.depth ≤ room
  · have ended : settle refused computed.outcome ≠ .error tooDeep := by
      cases computed.outcome with
      | none => simpa [settle] using other
      | some result => simp [settle]
    rw [within, if_pos fits]
    exact ⟨fun stopped => absurd stopped ended, fun past => absurd fits (Nat.not_le_of_lt past)⟩
  · rw [within, if_neg fits]
    exact ⟨fun _ => Nat.lt_of_not_le fits, fun _ => rfl⟩

end Measured

end Ubb.Library
