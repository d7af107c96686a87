import Mathlib.Tactic

set_option autoImplicit false

namespace Ubb.Library

-- A latch is opened and closed in turn, and numbers its openings from one.
structure Latch where
  isOpen : Bool
  episodes : Nat
deriving DecidableEq, Repr

inductive LatchMove where
  | opened (episode : Nat)
  | closed (episode : Nat)
deriving DecidableEq, Repr

def shutLatch : Latch := ⟨false, 0⟩

def Latch.take (latch : Latch) : LatchMove → Option Latch
  | .opened episode =>
      if latch.isOpen = false ∧ episode = latch.episodes + 1 then some ⟨true, episode⟩ else none
  | .closed episode =>
      if latch.isOpen = true ∧ episode = latch.episodes then some ⟨false, episode⟩ else none

def Latch.replay (latch : Latch) (moves : List LatchMove) : Option Latch :=
  moves.foldlM Latch.take latch

theorem replay_snoc (latch middle after : Latch) (moves : List LatchMove) (move : LatchMove)
    (replayed : latch.replay moves = some middle) (taken : middle.take move = some after) :
    latch.replay (moves ++ [move]) = some after := by
  unfold Latch.replay at *
  rw [List.foldlM_append, replayed]
  simp [taken]

def moveAt (index : Nat) : LatchMove :=
  if index % 2 = 0 then .opened (index / 2 + 1) else .closed (index / 2 + 1)

-- The one history a latch can have: open 1, close 1, open 2, close 2, ...
def alternation (moves : Nat) : List LatchMove := (List.range moves).map moveAt

def latchAfter (moves : Nat) : Latch := ⟨decide (moves % 2 = 1), (moves + 1) / 2⟩

theorem alternation_succ (moves : Nat) : alternation (moves + 1) = alternation moves ++ [moveAt moves] := by
  rw [alternation, List.range_succ, List.map_append]
  rfl

theorem take_eq_move_at (moves : Nat) (move : LatchMove) (after : Latch)
    (taken : (latchAfter moves).take move = some after) :
    move = moveAt moves ∧ after = latchAfter (moves + 1) := by
  cases move with
  | opened episode =>
      obtain ⟨⟨shut, numbered⟩, reached⟩ : (moves % 2 ≠ 1 ∧ episode = (moves + 1) / 2 + 1) ∧
          (⟨true, episode⟩ : Latch) = after := by
        simpa [Latch.take, latchAfter] using taken
      have even : moves % 2 = 0 := by omega
      have odd : (moves + 1) % 2 = 1 := by omega
      have number : episode = moves / 2 + 1 := by omega
      have counted : (moves + 1 + 1) / 2 = episode := by omega
      exact ⟨by rw [moveAt, if_pos even, number], by rw [← reached, latchAfter, counted, odd]; rfl⟩
  | closed episode =>
      obtain ⟨⟨held, numbered⟩, reached⟩ : (moves % 2 = 1 ∧ episode = (moves + 1) / 2) ∧
          (⟨false, episode⟩ : Latch) = after := by
        simpa [Latch.take, latchAfter] using taken
      have odd : ¬ moves % 2 = 0 := by omega
      have even : (moves + 1) % 2 = 0 := by omega
      have number : episode = moves / 2 + 1 := by omega
      have counted : (moves + 1 + 1) / 2 = episode := by omega
      exact ⟨by rw [moveAt, if_neg odd, number], by rw [← reached, latchAfter, counted, even]; rfl⟩

theorem replayed_history (moves : List LatchMove) :
    ∀ latch, shutLatch.replay moves = some latch →
      moves = alternation moves.length ∧ latch = latchAfter moves.length := by
  induction moves using List.reverseRecOn with
  | nil =>
      intro latch replayed
      exact ⟨rfl, (Option.some.inj replayed).symm⟩
  | append_singleton moves move earlier =>
      intro latch replayed
      obtain ⟨middle, before, taken⟩ : ∃ middle, shutLatch.replay moves = some middle ∧
          middle.take move = some latch := by
        rw [Latch.replay, List.foldlM_append, Option.bind_eq_bind, Option.bind_eq_some_iff] at replayed
        simpa [Latch.replay] using replayed
      obtain ⟨history, reached⟩ := earlier middle before
      rw [reached] at taken
      obtain ⟨due, after⟩ := take_eq_move_at moves.length move latch taken
      rw [List.length_append, List.length_singleton, alternation_succ, ← history, ← due]
      exact ⟨rfl, after⟩

end Ubb.Library
