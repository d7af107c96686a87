import Mathlib.Algebra.BigOperators.Group.List.Basic
import Mathlib.Order.Basic
import Mathlib.Tactic

set_option autoImplicit false

-- Half-open windows on a line: the stretches that spans leave uncovered, and
-- what an amount that is spread over a span gives to each of several windows.
namespace Ubb.Library

section

variable {Point Row : Type} [LinearOrder Point]

def within (point : Point) (window : Point × Point) : Bool := decide (window.1 ≤ point) && decide (point < window.2)

theorem within_iff (point : Point) (window : Point × Point) :
    within point window = true ↔ window.1 ≤ point ∧ point < window.2 := by
  rw [within, Bool.and_eq_true, decide_eq_true_iff, decide_eq_true_iff]

-- One sweep over the spans, in the order they open.
def gapsFrom (finish : Point) : Point → List (Point × Point) → List (Point × Point)
  | cursor, [] => if cursor < finish then [(cursor, finish)] else []
  | cursor, span :: rest =>
      (if cursor < span.1 then [(cursor, span.1)] else []) ++ gapsFrom finish (max cursor span.2) rest

def uncovered (start finish : Point) (spans : List (Point × Point)) (point : Point) : Bool :=
  within point (start, finish) && spans.all (fun span => !within point span)

theorem uncovered_cons (cursor finish : Point) (span : Point × Point) (rest : List (Point × Point)) (point : Point)
    (inside : span.1 ≤ finish) (later : ∀ other ∈ rest, span.1 ≤ other.1) :
    uncovered cursor finish (span :: rest) point =
      (within point (cursor, span.1) || uncovered (max cursor span.2) finish rest point) := by
  have open_before : point < span.1 → rest.all (fun other => !within point other) = true := by
    intro before
    rw [List.all_eq_true]
    intro other listed
    rw [Bool.not_eq_true', Bool.eq_false_iff, Ne, within_iff]
    exact fun reached => absurd (before.trans_le ((later other listed).trans reached.1)) (lt_irrefl point)
  rw [Bool.eq_iff_iff]
  simp only [uncovered, List.all_cons, Bool.and_eq_true, Bool.or_eq_true, within_iff, Bool.not_eq_true', Bool.eq_false_iff,
    Ne, max_le_iff]
  constructor
  · rintro ⟨⟨reached, ends⟩, free, others⟩
    by_cases before : point < span.1
    · exact .inl ⟨reached, before⟩
    · exact .inr ⟨⟨⟨reached, not_lt.mp (fun inSpan => free ⟨not_lt.mp before, inSpan⟩)⟩, ends⟩, others⟩
  · rintro (⟨reached, before⟩ | ⟨⟨⟨reached, past⟩, ends⟩, others⟩)
    · exact ⟨⟨reached, before.trans_le inside⟩, fun inSpan => absurd inSpan.1 (not_le.mpr before), open_before before⟩
    · exact ⟨⟨reached, ends⟩, fun inSpan => absurd inSpan.2 (not_lt.mpr past), others⟩

theorem gaps_count (finish : Point) (spans : List (Point × Point)) (point : Point)
    (sorted : spans.Pairwise (fun first second => first.1 ≤ second.1))
    (proper : ∀ span ∈ spans, span.1 ≤ span.2 ∧ span.1 ≤ finish) :
    ∀ cursor, (gapsFrom finish cursor spans).countP (within point) = (uncovered cursor finish spans point).toNat := by
  induction spans with
  | nil =>
    intro cursor
    rw [gapsFrom, uncovered, List.all_nil, Bool.and_true]
    by_cases left : cursor < finish
    · rw [if_pos left, List.countP_singleton]
      cases within point (cursor, finish) <;> rfl
    · have none_left : within point (cursor, finish) = false := by
        rw [Bool.eq_false_iff, Ne, within_iff]
        exact fun inside => left (inside.1.trans_lt inside.2)
      rw [if_neg left, none_left]
      rfl
  | cons span rest ih =>
    intro cursor
    rw [List.pairwise_cons] at sorted
    obtain ⟨ordered, inside⟩ := proper span List.mem_cons_self
    have others := ih sorted.2 (fun other listed => proper other (List.mem_cons_of_mem span listed)) (max cursor span.2)
    rw [gapsFrom, List.countP_append, others, uncovered_cons cursor finish span rest point inside sorted.1]
    have gap : (if cursor < span.1 then [(cursor, span.1)] else []).countP (within point) =
        (within point (cursor, span.1)).toNat := by
      by_cases room : cursor < span.1
      · rw [if_pos room, List.countP_singleton]
        cases within point (cursor, span.1) <;> rfl
      · have none_left : within point (cursor, span.1) = false := by
          rw [Bool.eq_false_iff, Ne, within_iff]
          exact fun held => room (held.1.trans_lt held.2)
        rw [if_neg room, none_left]
        rfl
    rw [gap]
    cases here : within point (cursor, span.1) with
    | false => simp
    | true =>
      have apart : uncovered (max cursor span.2) finish rest point = false := by
        rw [within_iff] at here
        rw [uncovered, Bool.and_eq_false_iff]
        left
        rw [Bool.eq_false_iff, Ne, within_iff]
        exact fun held => absurd (here.2.trans_le (ordered.trans ((le_max_right _ _).trans held.1))) (lt_irrefl point)
      rw [apart]
      rfl

def windowSum (position : Row → Point) (measure : Row → Int) (rows : List Row) (window : Point × Point) : Int :=
  ((rows.filter (fun row => within (position row) window)).map measure).sum

theorem window_sum_cons (position : Row → Point) (measure : Row → Int) (row : Row) (rest : List Row) (window : Point × Point) :
    windowSum position measure (row :: rest) window =
      (within (position row) window).toNat * measure row + windowSum position measure rest window := by
  rw [windowSum, List.filter_cons]
  cases within (position row) window with
  | false => simp [windowSum]
  | true => simp [windowSum]

theorem sum_counted {Item : Type} (holds : Item → Bool) (items : List Item) :
    (items.map (fun item => ((holds item).toNat : Int))).sum = items.countP holds := by
  induction items with
  | nil => rfl
  | cons item rest ih =>
    rw [List.map_cons, List.sum_cons, List.countP_cons, ih]
    cases holds item <;> simp [add_comm]

theorem sum_over_windows (position : Row → Point) (measure : Row → Int) (windows : List (Point × Point)) (rows : List Row) :
    (windows.map (windowSum position measure rows)).sum =
      (rows.map (fun row => (windows.countP (within (position row)) : Int) * measure row)).sum := by
  induction rows with
  | nil =>
    apply List.sum_eq_zero
    intro value listed
    obtain ⟨window, _, rfl⟩ := List.mem_map.mp listed
    rfl
  | cons row rest ih =>
    have split : windows.map (windowSum position measure (row :: rest)) =
        windows.map (fun window => (within (position row) window).toNat * measure row + windowSum position measure rest window) :=
      List.map_congr_left (fun window _ => window_sum_cons position measure row rest window)
    have first : (windows.map (fun window => ((within (position row) window).toNat : Int) * measure row)).sum =
        (windows.countP (within (position row)) : Int) * measure row := by
      rw [List.sum_map_mul_right, sum_counted]
    rw [split, List.sum_map_add, first, ih, List.map_cons, List.sum_cons]

theorem window_sum_split (position : Row → Point) (measure : Row → Int) (rows : List Row) (start cut finish : Point)
    (before : start ≤ cut) (after : cut ≤ finish) :
    windowSum position measure rows (start, cut) + windowSum position measure rows (cut, finish) =
      windowSum position measure rows (start, finish) := by
  induction rows with
  | nil => rfl
  | cons row rest ih =>
    have halves : (within (position row) (start, cut)).toNat + (within (position row) (cut, finish)).toNat =
        (within (position row) (start, finish)).toNat := by
      rcases lt_or_ge (position row) cut with early | late
      · simp [within, early, early.trans_le after, not_le.mpr early]
      · simp [within, late, before.trans late, not_lt.mpr late]
    rw [window_sum_cons, window_sum_cons, window_sum_cons, ← ih, ← halves]
    push_cast
    ring

theorem window_sum_empty (position : Row → Point) (measure : Row → Int) (rows : List Row) (point : Point) :
    windowSum position measure rows (point, point) = 0 := by
  have doubled := window_sum_split position measure rows point point point le_rfl le_rfl
  omega

theorem gaps_sum (position : Row → Point) (measure : Row → Int) (rows : List Row) (start finish : Point)
    (spans : List (Point × Point)) (sorted : spans.Pairwise (fun first second => first.1 ≤ second.1))
    (proper : ∀ span ∈ spans, span.1 ≤ span.2 ∧ span.1 ≤ finish) :
    ((gapsFrom finish start spans).map (windowSum position measure rows)).sum =
      ((rows.filter (fun row => uncovered start finish spans (position row))).map measure).sum := by
  rw [sum_over_windows]
  induction rows with
  | nil => rfl
  | cons row rest ih =>
    rw [List.map_cons, List.sum_cons, ih, gaps_count finish spans (position row) sorted proper start, List.filter_cons]
    cases uncovered start finish spans (position row) with
    | false => simp
    | true => simp

end

section

def overlap (opens closes start finish : Int) : Int := max 0 (min closes finish - max opens start)

theorem overlap_nonneg (opens closes start finish : Int) : 0 ≤ overlap opens closes start finish := le_max_left 0 _

theorem overlap_split (opens closes start cut finish : Int) (before : start ≤ cut) (after : cut ≤ finish) :
    overlap opens closes start cut + overlap opens closes cut finish = overlap opens closes start finish := by
  rw [overlap, overlap, overlap]
  omega

theorem overlap_one_side (opens closes start cut finish : Int) (before : start ≤ cut) (after : cut ≤ finish)
    (aside : ¬(opens < cut ∧ cut < closes)) :
    overlap opens closes start cut = 0 ∨ overlap opens closes cut finish = 0 := by
  rw [overlap, overlap]
  omega

def cutInside (opens closes cut : Int) : Bool := decide (opens < cut) && decide (cut < closes)

theorem prorated_split (amount whole opens closes start cut finish : Int) (positive : 0 < whole) (before : start ≤ cut)
    (after : cut ≤ finish) :
    amount * overlap opens closes start cut / whole + amount * overlap opens closes cut finish / whole ≤
        amount * overlap opens closes start finish / whole ∧
      amount * overlap opens closes start finish / whole ≤
        amount * overlap opens closes start cut / whole + amount * overlap opens closes cut finish / whole +
          (cutInside opens closes cut).toNat := by
  have parts := overlap_split opens closes start cut finish before after
  by_cases inside : cutInside opens closes cut = true
  · rw [← parts, mul_add, inside]
    generalize amount * overlap opens closes start cut = first
    generalize amount * overlap opens closes cut finish = second
    have firstLeast := Int.emod_nonneg first (ne_of_gt positive)
    have secondLeast := Int.emod_nonneg second (ne_of_gt positive)
    have firstMost := Int.emod_lt_of_pos first positive
    have secondMost := Int.emod_lt_of_pos second positive
    have firstParts := Int.mul_ediv_add_emod first whole
    have secondParts := Int.mul_ediv_add_emod second whole
    have regrouped : first + second = first % whole + second % whole + whole * (first / whole + second / whole) := by
      linarith
    have divided : (first + second) / whole = (first % whole + second % whole) / whole + (first / whole + second / whole) := by
      rw [regrouped, Int.add_mul_ediv_left _ _ (ne_of_gt positive)]
    have low : 0 ≤ (first % whole + second % whole) / whole := Int.ediv_nonneg (by omega) positive.le
    have high : (first % whole + second % whole) / whole < 2 := Int.ediv_lt_of_lt_mul positive (by omega)
    rw [divided, Bool.toNat_true]
    omega
  · have aside : ¬(opens < cut ∧ cut < closes) := by
      rw [cutInside, Bool.and_eq_true, decide_eq_true_iff, decide_eq_true_iff] at inside
      exact inside
    rw [← parts, Bool.eq_false_iff.mpr inside, Bool.toNat_false]
    rcases overlap_one_side opens closes start cut finish before after aside with none_before | none_after
    · rw [none_before, mul_zero, Int.zero_ediv, zero_add, zero_add]
      exact ⟨le_rfl, by simp⟩
    · rw [none_after, mul_zero, Int.zero_ediv, add_zero, add_zero]
      exact ⟨le_rfl, by simp⟩

end

section

variable {Point : Type} (place : Point → Int)

def windowsFrom (start : Point) : List Point → List (Point × Point)
  | [] => []
  | cut :: rest => (start, cut) :: windowsFrom cut rest

def lastCut (start : Point) (cuts : List Point) : Point := cuts.getLastD start

def InOrder (start : Point) (cuts : List Point) : Prop := (start :: cuts).IsChain (fun first second => place first ≤ place second)

theorem last_cut_ge (cuts : List Point) : ∀ start, InOrder place start cuts → place start ≤ place (lastCut start cuts) := by
  induction cuts with
  | nil => exact fun start _ => le_refl (place start)
  | cons cut rest ih =>
    intro start chain
    rw [InOrder, List.isChain_cons_cons] at chain
    rw [lastCut, List.getLastD_cons]
    exact chain.1.trans (ih cut chain.2)

theorem windows_add_up (measure : Point → Point → Int) (slack : Point → Int) (empty : ∀ point, measure point point = 0)
    (splits : ∀ start cut finish, place start ≤ place cut → place cut ≤ place finish →
      measure start cut + measure cut finish ≤ measure start finish ∧
        measure start finish ≤ measure start cut + measure cut finish + slack cut)
    (cuts : List Point) : ∀ start, InOrder place start cuts →
      ((windowsFrom start cuts).map (fun window => measure window.1 window.2)).sum ≤ measure start (lastCut start cuts) ∧
        measure start (lastCut start cuts) ≤
          ((windowsFrom start cuts).map (fun window => measure window.1 window.2)).sum + (cuts.dropLast.map slack).sum := by
  induction cuts with
  | nil =>
    intro start _
    rw [lastCut, List.getLastD_nil, empty]
    exact ⟨le_rfl, le_rfl⟩
  | cons cut rest ih =>
    intro start chain
    rw [InOrder, List.isChain_cons_cons] at chain
    obtain ⟨low, high⟩ := ih cut chain.2
    have halves := splits start cut (lastCut cut rest) chain.1 (last_cut_ge place rest cut chain.2)
    have last : lastCut start (cut :: rest) = lastCut cut rest := List.getLastD_cons ..
    rw [windowsFrom, List.map_cons, List.sum_cons, last]
    dsimp only
    cases rest with
    | nil =>
      rw [lastCut, List.getLastD_nil]
      simp [windowsFrom]
    | cons next later =>
      rw [List.dropLast_cons_cons, List.map_cons, List.sum_cons]
      omega

theorem windows_sum (measure : Point → Point → Int) (empty : ∀ point, measure point point = 0)
    (splits : ∀ start cut finish, place start ≤ place cut → place cut ≤ place finish →
      measure start cut + measure cut finish = measure start finish)
    (cuts : List Point) (start : Point) (ordered : InOrder place start cuts) :
    ((windowsFrom start cuts).map (fun window => measure window.1 window.2)).sum = measure start (lastCut start cuts) := by
  obtain ⟨low, high⟩ := windows_add_up place measure (fun _ => 0) empty
    (fun start cut finish before after => by
      rw [splits start cut finish before after]
      exact ⟨le_rfl, by omega⟩) cuts start ordered
  have none_lost : (cuts.dropLast.map (fun _ => (0 : Int))).sum = 0 := by simp
  omega

end

end Ubb.Library
