import Mathlib.Tactic

set_option autoImplicit false

-- A chain of entries that each take in what the one before passed on.
namespace Ubb.Library

structure Carried where
  exact : Int
  carriedIn : Int
  billed : Int
  carriedOut : Int
deriving DecidableEq, Repr

def Carried.Balanced (entry : Carried) : Prop := entry.billed + entry.carriedOut = entry.exact + entry.carriedIn

def ChainedFrom : Int → List Carried → Prop
  | _, [] => True
  | first, entry :: rest => entry.carriedIn = first ∧ ChainedFrom entry.carriedOut rest

def lastOut (first : Int) (entries : List Carried) : Int := (entries.getLast?.map Carried.carriedOut).getD first

theorem last_out_cons (first : Int) (entry : Carried) (rest : List Carried) :
    lastOut first (entry :: rest) = lastOut entry.carriedOut rest := by
  unfold lastOut
  cases rest with
  | nil => rfl
  | cons next later => rw [List.getLast?_cons_cons, List.getLast?_cons]; rfl

theorem chained_snoc (first : Int) (entries : List Carried) (entry : Carried) (chained : ChainedFrom first entries)
    (links : entry.carriedIn = lastOut first entries) : ChainedFrom first (entries ++ [entry]) := by
  induction entries generalizing first with
  | nil => exact ⟨links, trivial⟩
  | cons head rest ih =>
    obtain ⟨here, later⟩ := chained
    rw [last_out_cons] at links
    exact ⟨here, ih head.carriedOut later links⟩

theorem chain_telescopes (first : Int) (entries : List Carried) (chained : ChainedFrom first entries)
    (balanced : ∀ entry ∈ entries, entry.Balanced) :
    (entries.map Carried.billed).sum + lastOut first entries = (entries.map Carried.exact).sum + first := by
  induction entries generalizing first with
  | nil => simp [lastOut]
  | cons head rest ih =>
    obtain ⟨here, later⟩ := chained
    have tail := ih head.carriedOut later (fun entry member => balanced entry (by simp [member]))
    have whole := balanced head (by simp)
    unfold Carried.Balanced at whole
    rw [last_out_cons, List.map_cons, List.map_cons, List.sum_cons, List.sum_cons]
    omega

theorem last_out_of (Allowed : Int → Prop) (first : Int) (entries : List Carried) (started : Allowed first)
    (each : ∀ entry ∈ entries, Allowed entry.carriedOut) : Allowed (lastOut first entries) := by
  unfold lastOut
  cases found : entries.getLast? with
  | none => exact started
  | some entry => exact each entry (List.mem_of_getLast? found)

end Ubb.Library
