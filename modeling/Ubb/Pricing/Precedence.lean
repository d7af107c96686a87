import Ubb.Pricing.CostLadder

set_option autoImplicit false

-- What a publish into the last book in play can do to an answer that a
-- narrower book gave.
namespace Ubb.Pricing

open Library

def Rate.outranks (rule answer : Rate) : Bool :=
  decide (answer.specificity < rule.specificity ∨
    (rule.specificity = answer.specificity ∧ answer.validFrom < rule.validFrom))

def opened (before after : Tables) : List Rate :=
  after.rates.filter (fun rule => decide (rule.id ∉ before.rates.map Rate.id))

def IntoBook (ref : BookRef) (tables : Tables) : Op → Prop
  | .declare book _ _ => book = ref
  | .publishDeclared record => ∀ found,
      tables.publishes.find? (fun draft => decide (draft.id = record)) = some found → found.book = ref
  | .discard _ => True
  | _ => False

def candidate (books : List (Nat × Nat)) (column : Rate → Option Nat) (event : Selectors)
    (measurementKey currency : String) (asOf : Int) (rule : Rate) : Option (Rate × Nat) :=
  if rule.matchesEvent event measurementKey currency asOf then
    ((column rule).bind (sourceOf books)).map (fun source => (rule, source))
  else none

theorem candidate_rule (books : List (Nat × Nat)) (column : Rate → Option Nat) (event : Selectors)
    (measurementKey currency : String) (asOf : Int) (rule : Rate) (pair : Rate × Nat)
    (found : candidate books column event measurementKey currency asOf rule = some pair) :
    pair.1 = rule ∧ rule.matchesEvent event measurementKey currency asOf = true ∧
      ∃ book, column rule = some book ∧ sourceOf books book = some pair.2 := by
  unfold candidate at found
  split at found
  · rename_i matching
    obtain ⟨source, located, rfl⟩ := Option.map_eq_some_iff.1 found
    obtain ⟨book, points, sourced⟩ := Option.bind_eq_some_iff.1 located
    exact ⟨rfl, matching, book, points, sourced⟩
  · cases found

theorem candidates_filtered (books : List (Nat × Nat)) (column : Rate → Option Nat) (event : Selectors)
    (measurementKey currency : String) (asOf : Int) (keep : Rate → Bool) (rates : List Rate) :
    (rates.filterMap (candidate books column event measurementKey currency asOf)).filter (fun pair => keep pair.1) =
      (rates.filter keep).filterMap (candidate books column event measurementKey currency asOf) := by
  induction rates with
  | nil => rfl
  | cons rule rest hypothesis =>
    cases found : candidate books column event measurementKey currency asOf rule with
    | none =>
      rw [List.filterMap_cons_none found, hypothesis]
      by_cases kept : keep rule = true
      · rw [List.filter_cons_of_pos kept, List.filterMap_cons_none found]
      · rw [List.filter_cons_of_neg kept]
    | some pair =>
      have same := (candidate_rule books column event measurementKey currency asOf rule pair found).1
      rw [List.filterMap_cons_some found]
      by_cases kept : keep rule = true
      · rw [List.filter_cons_of_pos (by rw [same]; exact kept), List.filter_cons_of_pos kept,
          List.filterMap_cons_some found, hypothesis]
      · rw [List.filter_cons_of_neg (by rw [same]; exact kept), List.filter_cons_of_neg kept, hypothesis]

section

variable (narrower : List (Nat × Nat)) (source last : Nat) (column : Rate → Option Nat) (event : Selectors)
  (measurementKey currency : String) (asOf : Int)
  (distinct : ((narrower ++ [(source, last)]).map Prod.snd).Nodup)

def placeIn (books : List (Nat × Nat)) (column : Rate → Option Nat) (pair : Rate × Nat) : Nat :=
  ((column pair.1).bind (positionOf books)).getD 0

include distinct

theorem last_book_place :
    positionOf (narrower ++ [(source, last)]) last = some narrower.length ∧
      ∀ book ∈ narrower.map Prod.snd, ∃ place, positionOf (narrower ++ [(source, last)]) book = some place ∧
        place < narrower.length := by
  have names : (narrower ++ [(source, last)]).map Prod.snd = narrower.map Prod.snd ++ [last] := by simp
  have absent : last ∉ narrower.map Prod.snd := by
    rw [names, List.nodup_append] at distinct
    intro inside
    exact distinct.2.2 last inside last (List.mem_singleton_self last) rfl
  constructor
  · rw [position_of_mem _ _ distinct (by simp), names, List.idxOf_append, if_neg absent]
    simp
  · intro book inside
    refine ⟨(narrower.map Prod.snd).idxOf book, ?_, ?_⟩
    · rw [position_of_mem _ _ distinct (by rw [names]; exact List.mem_append_left _ inside), names, List.idxOf_append,
        if_pos inside]
    · have bounded := List.idxOf_lt_length_of_mem inside
      rwa [List.length_map] at bounded

theorem matching_parted (rates : List Rate) :
    matchingRulesAcross rates (narrower ++ [(source, last)]) column event measurementKey currency asOf =
      matchingRulesAcross (rates.filter (fun rule => column rule != some last)) (narrower ++ [(source, last)]) column
          event measurementKey currency asOf ++
        matchingRulesAcross (rates.filter (fun rule => !(column rule != some last))) (narrower ++ [(source, last)])
          column event measurementKey currency asOf := by
  have shape : ∀ rows, matchingRulesAcross rows (narrower ++ [(source, last)]) column event measurementKey currency
      asOf = (rows.filterMap (candidate (narrower ++ [(source, last)]) column event measurementKey currency
        asOf)).insertionSort (fun left right => placeIn (narrower ++ [(source, last)]) column left ≤
          placeIn (narrower ++ [(source, last)]) column right) := fun _ => rfl
  rw [shape, shape, shape, ← candidates_filtered, ← candidates_filtered]
  apply insertion_sort_parted (placeIn (narrower ++ [(source, last)]) column) (fun pair => column pair.1 != some last)
  intro early inEarly isEarly late _ isLate
  obtain ⟨atLast, atOthers⟩ := last_book_place narrower source last distinct
  obtain ⟨rule, _, found⟩ := List.mem_filterMap.1 inEarly
  obtain ⟨same, _, book, points, sourced⟩ := candidate_rule _ _ _ _ _ _ _ _ found
  have inside : book ∈ (narrower ++ [(source, last)]).map Prod.snd := by
    by_contra outside
    rw [source_of_none _ _ outside] at sourced
    cases sourced
  have within : book ∈ narrower.map Prod.snd := by
    rw [List.map_append, List.mem_append] at inside
    rcases inside with held | final
    · exact held
    · have here : book = last := by simpa using final
      rw [same, points, here] at isEarly
      simp at isEarly
  obtain ⟨place, positioned, bounded⟩ := atOthers book within
  have lateBook : column late.1 = some last := by simpa [bne] using isLate
  rw [placeIn, placeIn, same, points, lateBook, Option.bind_some, Option.bind_some, positioned, atLast]
  exact bounded

theorem narrower_answer_stands (rates replaced : List Rate) (answer : Rate)
    (resolves : rankAndTakeOne rates (narrower ++ [(source, last)]) column event measurementKey currency asOf =
      some answer)
    (elsewhere : column answer ≠ some last)
    (others : replaced.filter (fun rule => column rule != some last) =
      rates.filter (fun rule => column rule != some last))
    (least : ∀ entry ∈ narrower, source ≤ entry.1)
    (behind : ∀ rule ∈ replaced, column rule = some last →
      rule.matchesEvent event measurementKey currency asOf = true → rule.outranks answer = false) :
    rankAndTakeOne replaced (narrower ++ [(source, last)]) column event measurementKey currency asOf = some answer := by
  unfold rankAndTakeOne at *
  obtain ⟨best, answered, rfl⟩ := Option.map_eq_some_iff.1 resolves
  rw [matching_parted narrower source last column event measurementKey currency asOf distinct rates] at answered
  rw [matching_parted narrower source last column event measurementKey currency asOf distinct replaced, others]
  have lastSource : sourceOf (narrower ++ [(source, last)]) last = some source :=
    source_of_mem _ source last distinct (by simp)
  have kept := first_best_kept (fun pair : Rate × Nat => ladderRank pair.1 pair.2) _ _
    (matchingRulesAcross (replaced.filter (fun rule => !(column rule != some last))) (narrower ++ [(source, last)])
      column event measurementKey currency asOf) best answered
  rw [kept]
  · rfl
  · intro inside
    have stored := ((mem_matching _ _ _ _ _ _ _ _).1 inside).1
    have here := (List.mem_filter.1 stored).2
    simp only [Bool.not_eq_true', bne_eq_false_iff_eq] at here
    exact elsewhere here
  · intro pair inside
    obtain ⟨stored, matching, book, points, sourced⟩ := (mem_matching _ _ _ _ _ _ _ _).1 inside
    obtain ⟨held, here⟩ := List.mem_filter.1 stored
    simp only [Bool.not_eq_true', bne_eq_false_iff_eq] at here
    have sameBook : book = last := Option.some.inj (points.symm.trans here)
    rw [sameBook, lastSource] at sourced
    have pairSource : pair.2 = source := (Option.some.inj sourced).symm
    have worse := behind pair.1 held here matching
    have bestSource : source ≤ best.2 := by
      obtain ⟨_, _, bestBook, bestPoints, bestSourced⟩ := (mem_matching _ _ _ _ _ _ _ _).1
        (first_best_mem _ _ _ (by rw [← matching_parted narrower source last column event measurementKey currency asOf
          distinct rates] at answered; exact answered))
      have listed : (best.2, bestBook) ∈ narrower ++ [(source, last)] := by
        by_contra outside
        have names : bestBook ∈ (narrower ++ [(source, last)]).map Prod.snd := by
          by_contra absent
          rw [source_of_none _ _ absent] at bestSourced
          cases bestSourced
        obtain ⟨entry, member, rfl⟩ := List.mem_map.1 names
        rw [source_of_mem _ entry.1 entry.2 distinct member] at bestSourced
        rw [← Option.some.inj bestSourced] at outside
        exact outside member
      rcases List.mem_append.1 listed with early | final
      · exact least _ early
      · have same : (best.2, bestBook) = (source, last) := List.mem_singleton.1 final
        rw [(Prod.mk.inj same).1]
    rw [Rate.outranks, decide_eq_false_iff_not, not_or] at worse
    rw [ladderRank, ladderRank, Prod.Lex.toLex_le_toLex, Prod.Lex.toLex_le_toLex, pairSource]
    have atMost : pair.1.specificity ≤ best.1.specificity := not_lt.1 worse.1
    rcases lt_or_eq_of_le atMost with less | same
    · exact .inl less
    · refine .inr ⟨same, ?_⟩
      rcases lt_or_eq_of_le bestSource with lower | level
      · exact .inl lower
      · refine .inr ⟨level, ?_⟩
        by_contra later
        exact worse.2 ⟨same, not_le.1 later⟩

end

theorem publish_shelves {tables after : Tables} {recordId : Nat} (tidy : Tidy tables)
    (accepted : publishDeclared tables recordId = .ok after) : SameShelves tables after := by
  obtain ⟨_, _, _, written, _, _, _, _, _, publication, shelves, _⟩ := published tidy accepted
  have frame := publication.wrote.frame
  have kept : SameShelves tables written := by
    constructor <;> rw [frame]
  exact same_shelves_trans tables written after kept shelves

structure StaysInBook (ref : BookRef) (before after : Tables) : Prop where
  others : after.rates.filter (fun rule => !rule.isIn ref) = before.rates.filter (fun rule => !rule.isIn ref)
  own : ∀ rule ∈ after.rates, rule.isIn ref = true → rule ∈ opened before after ∨
    ∃ old ∈ before.rates, old.isIn ref = true ∧ (∀ answer, rule.outranks answer = old.outranks answer) ∧
      ∀ event measurementKey currency asOf, rule.matchesEvent event measurementKey currency asOf = true →
        old.matchesEvent event measurementKey currency asOf = true
  shelves : SameShelves before after

theorem same_rates_stay (ref : BookRef) (before after : Tables) (rates : after.rates = before.rates)
    (shelves : SameShelves before after) : StaysInBook ref before after := by
  refine ⟨by rw [rates], ?_, shelves⟩
  intro rule inside within
  rw [rates] at inside
  exact .inr ⟨rule, inside, within, fun _ => rfl, fun _ _ _ _ matching => matching⟩

theorem closed_matches (rule : Rate) (effectiveAt : Int) (version : Nat) (isOpen : rule.validTo = none)
    (event : Selectors) (measurementKey currency : String) (asOf : Int)
    (matching : (rule.closeAt effectiveAt version).matchesEvent event measurementKey currency asOf = true) :
    rule.matchesEvent event measurementKey currency asOf = true := by
  rw [matches_event_iff] at matching ⊢
  obtain ⟨quantity, sameCurrency, ⟨hasOpened, _⟩, pinned⟩ := matching
  refine ⟨quantity, sameCurrency, ⟨hasOpened, ?_⟩, pinned⟩
  intro close closes
  rw [isOpen] at closes
  cases closes

theorem publish_stays {tables after : Tables} (tidy : Tidy tables) (recordId : Nat) (ref : BookRef)
    (into : IntoBook ref tables (.publishDeclared recordId)) (accepted : publishDeclared tables recordId = .ok after) :
    StaysInBook ref tables after := by
  obtain ⟨record, book, planned, written, rates, prices, found, located, _, publication, _, kept⟩ :=
    published tidy accepted
  have sameRef : book.ref = ref := (book_ref tables record.book book located).trans (into record found)
  have rows : after.rates = replaceRows (fun row => row.closeAt record.effectiveAt book.version)
      (fun row => decide (row.id ∈ planned.filterMap Planned.closedRate)) rates tables.rates :=
    kept.rates.trans publication.wrote.rateRows
  have freshIn := (publication_rates publication).2
  have closing := closed_rate_outgoing publication
  rw [sameRef] at freshIn closing
  refine ⟨?_, ?_, publish_shelves tidy accepted⟩
  · rw [rows, filter_replace_rows]
    · have noneFresh : rates.filter (fun row => !row.isIn ref) = [] := by
        rw [List.filter_eq_nil_iff]
        intro row inside
        simp [(freshIn row inside).1]
      rw [noneFresh, replace_none]
      intro row inside
      rw [decide_eq_false_iff_not]
      intro closes
      obtain ⟨stored, outside⟩ := List.mem_filter.1 inside
      obtain ⟨one, _, held⟩ := closing row stored closes
      have here := ((mem_rules_in_force _ _ _ _).1 held.inForce).2.1
      rw [here] at outside
      cases outside
    · intro row
      cases ref <;> rfl
  · intro rule inside within
    have listed := inside
    rw [rows, mem_replace_rows] at inside
    obtain ⟨old, stored, rfl⟩ | fresh := inside
    · right
      by_cases closes : old.id ∈ planned.filterMap Planned.closedRate
      · obtain ⟨one, _, held⟩ := closing old stored closes
        have here := ((mem_rules_in_force _ _ _ _).1 held.inForce).2.1
        rw [if_pos (decide_eq_true closes)]
        exact ⟨old, stored, here, fun _ => rfl, fun event measurementKey currency asOf matching =>
          closed_matches old record.effectiveAt book.version held.isOpen event measurementKey currency asOf matching⟩
      · have untouched : decide (old.id ∈ planned.filterMap Planned.closedRate) = false := decide_eq_false closes
        rw [untouched] at within ⊢
        exact ⟨old, stored, within, fun _ => rfl, fun _ _ _ _ matching => matching⟩
    · left
      rw [opened, List.mem_filter, decide_eq_true_eq]
      refine ⟨listed, ?_⟩
      intro used
      obtain ⟨old, stored, sameId⟩ := List.mem_map.1 used
      have below := tidy.rateIdsUsed old stored
      have above := (publication.wrote.rateIds.2 rule fresh).1
      omega

theorem step_stays (tables : Tables) (tidy : Tidy tables) (ref : BookRef) (op : Op) (into : IntoBook ref tables op) :
    StaysInBook ref tables (step tables op) := by
  have unchanged := same_rates_stay ref tables tables rfl (same_shelves_refl tables)
  cases op with
  | declare book changes effectiveAt =>
    rw [step]
    cases outcome : declare tables book changes effectiveAt with
    | error refusal => exact unchanged
    | ok after =>
      obtain ⟨_, _, _, _, rfl⟩ := declare_ok _ _ _ _ _ outcome
      exact same_rates_stay ref _ _ rfl ⟨rfl, rfl, rfl, rfl⟩
  | publishDeclared record =>
    rw [step]
    cases outcome : publishDeclared tables record with
    | error refusal => exact unchanged
    | ok after => exact publish_stays tidy record ref into outcome
  | discard record =>
    rw [step]
    cases outcome : discard tables record with
    | error refusal => exact unchanged
    | ok after =>
      unfold discard at outcome
      split at outcome
      · cases outcome
      · split at outcome
        · cases outcome
        · rw [← Except.ok.inj outcome]
          exact same_rates_stay ref _ _ rfl ⟨rfl, rfl, rfl, rfl⟩
  | _ => exact into.elim

theorem shelf_find {Row : Type} (shelf : Row → Row) (id : Row → Nat) (sameId : ∀ row, id (shelf row) = id row)
    (wanted : Row → Bool) (sameWanted : ∀ row, wanted (shelf row) = wanted row) (before after : List Row)
    (same : after.map shelf = before.map shelf) :
    (after.find? wanted).map id = (before.find? wanted).map id := by
  have shown : ∀ rows : List Row, (rows.find? wanted).map id = ((rows.map shelf).find? wanted).map id := by
    intro rows
    have wantedSame : wanted ∘ shelf = wanted := funext sameWanted
    rw [List.find?_map, wantedSame, Option.map_map]
    congr 1
    funext row
    exact (sameId row).symm
  rw [shown after, shown before, same]

theorem select_same (source : Nat) (first second : Option PricingBook) (books : List (Nat × Nat))
    (same : first.map PricingBook.id = second.map PricingBook.id) :
    select source first books = select source second books := by
  cases first with
  | none =>
    cases second with
    | none => rfl
    | some book => cases same
  | some book =>
    cases second with
    | none => cases same
    | some other =>
      have sameId : book.id = other.id := Option.some.inj same
      simp only [select, sameId]

theorem select_cost_same (first second : Option CostBook) (books : List (Nat × Nat))
    (same : first.map CostBook.id = second.map CostBook.id) :
    selectCost first books = selectCost second books := by
  cases first with
  | none =>
    cases second with
    | none => rfl
    | some book => cases same
  | some book =>
    cases second with
    | none => cases same
    | some other =>
      have sameId : book.id = other.id := Option.some.inj same
      simp only [selectCost, sameId]

theorem same_selection (before after : Tables) (shelves : SameShelves before after) (tenant : Nat)
    (customer : Option Nat) (own : Bool) :
    selectedPricingBooks after tenant customer own = selectedPricingBooks before tenant customer own := by
  have found : ∀ wanted : PricingBook → Bool, (∀ book : PricingBook, wanted book.shelf = wanted book) →
      (after.pricingBooks.find? wanted).map PricingBook.id = (before.pricingBooks.find? wanted).map PricingBook.id :=
    fun wanted sameWanted => shelf_find PricingBook.shelf PricingBook.id (fun _ => rfl) wanted sameWanted _ _
      shelves.pricing
  have default := found (fun book => book.tenant == tenant && book.isDefault) (fun _ => rfl)
  cases customer with
  | none =>
    unfold selectedPricingBooks
    rw [select_same fromTheSelectedBook (defaultPricingBook after tenant) (defaultPricingBook before tenant) _ default]
    cases own <;> rfl
  | some named =>
    have override : (overrideBook after tenant (some named)).map PricingBook.id =
        (overrideBook before tenant (some named)).map PricingBook.id :=
      found (fun book => book.customer == some named && book.tenant == tenant) (fun _ => rfl)
    have planned : pricingBookForCustomer after tenant named = pricingBookForCustomer before tenant named := by
      rw [pricingBookForCustomer, shelves.assignments, shelves.plans, ← pricingBookForCustomer]
    have plans : (thePlansBook after tenant (some named)).map PricingBook.id =
        (thePlansBook before tenant (some named)).map PricingBook.id := by
      simp only [thePlansBook, planned]
      cases pricingBookForCustomer before tenant named with
      | none => rfl
      | some id => exact found (fun book => book.id == id && book.tenant == tenant) (fun _ => rfl)
    have first : (if own then overrideBook after tenant (some named) else none).map PricingBook.id =
        (if own then overrideBook before tenant (some named) else none).map PricingBook.id := by
      cases own with
      | false => rfl
      | true => exact override
    unfold selectedPricingBooks
    rw [select_same fromTheSelectedBook (defaultPricingBook after tenant) (defaultPricingBook before tenant) _ default,
      select_same fromTheSelectedBook (thePlansBook after tenant (some named)) (thePlansBook before tenant (some named)) _
        plans,
      select_same fromTheCustomersOwnRules _ _ _ first]

theorem same_cost_selection (before after : Tables) (shelves : SameShelves before after) (tenant : Nat)
    (provider currency : String) :
    selectedCostBooks after tenant provider currency = selectedCostBooks before tenant provider currency := by
  have found : ∀ key, (defaultCostBook after tenant key currency).map CostBook.id =
      (defaultCostBook before tenant key currency).map CostBook.id :=
    fun key => shelf_find CostBook.shelf CostBook.id (fun _ => rfl) _ (fun _ => rfl) _ _ shelves.cost
  have first : (if provider = "" then none else defaultCostBook after tenant provider currency).map CostBook.id =
      (if provider = "" then none else defaultCostBook before tenant provider currency).map CostBook.id := by
    by_cases unnamed : provider = ""
    · rw [if_pos unnamed, if_pos unnamed]
    · rw [if_neg unnamed, if_neg unnamed]
      exact found provider
  unfold selectedCostBooks
  rw [select_cost_same _ _ _ (found ""), select_cost_same _ _ _ first]

section

variable (tables : Tables) (tidy : Tidy tables) (op : Op) (event : Selectors) (measurementKey currency : String)
  (asOf : Int) (last : Nat) (ref : BookRef) (into : IntoBook ref tables op) (column : Rate → Option Nat)
  (pointsAt : ∀ rule : Rate, (column rule != some last) = !rule.isIn ref) (answer : Rate)

include tidy into pointsAt

theorem step_keeps_answer (narrower : List (Nat × Nat)) (source : Nat)
    (distinct : ((narrower ++ [(source, last)]).map Prod.snd).Nodup) (least : ∀ entry ∈ narrower, source ≤ entry.1)
    (resolves : rankAndTakeOne tables.rates (narrower ++ [(source, last)]) column event measurementKey currency asOf =
      some answer)
    (elsewhere : column answer ≠ some last)
    (behind : ∀ rule ∈ opened tables (step tables op), rule.matchesEvent event measurementKey currency asOf = true →
      rule.isIn ref = true → rule.outranks answer = false)
    (stood : ∀ rule ∈ tables.rates, rule.isIn ref = true →
      rule.matchesEvent event measurementKey currency asOf = true → rule.outranks answer = false) :
    rankAndTakeOne (step tables op).rates (narrower ++ [(source, last)]) column event measurementKey currency asOf =
        some answer ∧
      ∀ rule ∈ (step tables op).rates, rule.isIn ref = true →
        rule.matchesEvent event measurementKey currency asOf = true → rule.outranks answer = false := by
  have stays := step_stays tables tidy ref op into
  have after : ∀ rule ∈ (step tables op).rates, rule.isIn ref = true →
      rule.matchesEvent event measurementKey currency asOf = true → rule.outranks answer = false := by
    intro rule inside within matching
    obtain fresh | ⟨old, stored, wasIn, sameRank, matched⟩ := stays.own rule inside within
    · exact behind rule fresh matching within
    · rw [sameRank answer]
      exact stood old stored wasIn (matched event measurementKey currency asOf matching)
  refine ⟨?_, after⟩
  have split : ∀ rows : List Rate, rows.filter (fun rule => column rule != some last) =
      rows.filter (fun rule => !rule.isIn ref) := by
    intro rows
    apply List.filter_congr
    intro rule _
    exact pointsAt rule
  apply narrower_answer_stands narrower source last column event measurementKey currency asOf distinct tables.rates
    (step tables op).rates answer resolves elsewhere
  · rw [split, split]
    exact stays.others
  · exact least
  · intro rule inside points
    have within : rule.isIn ref = true := by
      have here := pointsAt rule
      rw [points] at here
      simpa using here
    exact after rule inside within

omit tidy into in
theorem answer_unranked (books : List (Nat × Nat)) (source book : Nat)
    (distinct : (books.map Prod.snd).Nodup) (lastIn : (source, last) ∈ books) (bookIn : (source, book) ∈ books)
    (points : column answer = some book)
    (resolves : rankAndTakeOne tables.rates books column event measurementKey currency asOf = some answer)
    (rule : Rate) (stored : rule ∈ tables.rates) (within : rule.isIn ref = true)
    (matching : rule.matchesEvent event measurementKey currency asOf = true) : rule.outranks answer = false := by
  obtain ⟨best, answered, same⟩ := Option.map_eq_some_iff.1 resolves
  have atLast : column rule = some last := by
    have here := pointsAt rule
    rw [within] at here
    simpa using here
  have listed : (rule, source) ∈ matchingRulesAcross tables.rates books column event measurementKey currency asOf :=
    (mem_matching _ _ _ _ _ _ _ _).2 ⟨stored, matching, last, atLast, source_of_mem _ source last distinct lastIn⟩
  have bounded := first_best_maximal _ _ _ answered _ listed
  obtain ⟨_, _, found, foundAt, sourced⟩ := (mem_matching _ _ _ _ _ _ _ _).1 (first_best_mem _ _ _ answered)
  rw [same, points] at foundAt
  rw [← Option.some.inj foundAt, source_of_mem _ source book distinct bookIn] at sourced
  rw [ladderRank, ladderRank, same, ← Option.some.inj sourced, Prod.Lex.toLex_le_toLex,
    Prod.Lex.toLex_le_toLex] at bounded
  rw [Rate.outranks, decide_eq_false_iff_not]
  dsimp only at bounded
  omega

end

def NeverOutranks (ref : BookRef) (event : Selectors) (measurementKey currency : String) (asOf : Int) (answer : Rate)
    (tables : Tables) (op : Op) : Prop :=
  IntoBook ref tables op ∧ ∀ rule ∈ opened tables (step tables op),
    rule.matchesEvent event measurementKey currency asOf = true → rule.outranks answer = false

instance decidableIntoBook (ref : BookRef) (tables : Tables) : (op : Op) → Decidable (IntoBook ref tables op)
  | .declare book _ _ => inferInstanceAs (Decidable (book = ref))
  | .publishDeclared record => inferInstanceAs
      (Decidable (∀ found ∈ tables.publishes.find? (fun draft => decide (draft.id = record)), found.book = ref))
  | .discard _ => isTrue trivial
  | .declareMeasurement _ _ _ | .declareTaskType _ _ _ | .retireTaskType _ _ _ | .declarePricingBook _ _ _
  | .declareCostBook _ _ _ _ _ | .theCustomersOwnBook _ _ | .createPlan _ _ | .assignPlan _ _ _ | .archivePlan _ _
  | .deleteCustomer _ => isFalse id

instance decidableNeverOutranks (ref : BookRef) (event : Selectors) (measurementKey currency : String) (asOf : Int)
    (answer : Rate) (tables : Tables) (op : Op) :
    Decidable (NeverOutranks ref event measurementKey currency asOf answer tables op) :=
  inferInstanceAs (Decidable (_ ∧ _))

theorem run_keeps_answer (start : Tables) (tidy : Tidy start) (ref : BookRef) (column : Rate → Option Nat)
    (narrower : List (Nat × Nat)) (source last book : Nat)
    (pointsAt : ∀ rule : Rate, (column rule != some last) = !rule.isIn ref)
    (distinct : ((narrower ++ [(source, last)]).map Prod.snd).Nodup) (least : ∀ entry ∈ narrower, source ≤ entry.1)
    (event : Selectors) (measurementKey currency : String) (asOf : Int) (answer : Rate)
    (bookIn : (source, book) ∈ narrower) (points : column answer = some book)
    (resolves : rankAndTakeOne start.rates (narrower ++ [(source, last)]) column event measurementKey currency asOf =
      some answer)
    (publishes : List Op)
    (along : Along step (NeverOutranks ref event measurementKey currency asOf answer) start publishes) :
    SameShelves start (run step start publishes) ∧
      rankAndTakeOne (run step start publishes).rates (narrower ++ [(source, last)]) column event measurementKey
        currency asOf = some answer := by
  have apart : book ≠ last := by
    intro same
    rw [List.map_append, List.nodup_append] at distinct
    exact distinct.2.2 book (List.mem_map_of_mem (f := Prod.snd) bookIn) last (List.mem_singleton_self last) same
  have elsewhere : column answer ≠ some last := by
    intro here
    exact apart (Option.some.inj (points.symm.trans here))
  have kept := along_invariant step (fun tables => Tidy tables ∧ SameShelves start tables ∧
      rankAndTakeOne tables.rates (narrower ++ [(source, last)]) column event measurementKey currency asOf =
        some answer ∧
      ∀ rule ∈ tables.rates, rule.isIn ref = true →
        rule.matchesEvent event measurementKey currency asOf = true → rule.outranks answer = false)
    (NeverOutranks ref event measurementKey currency asOf answer)
    (by
      intro tables op ⟨tidyNow, shelves, resolved, stood⟩ ⟨into, behind⟩
      obtain ⟨resolvedNext, stoodNext⟩ := step_keeps_answer tables tidyNow op event measurementKey currency asOf last ref
        into column pointsAt answer narrower source distinct least resolved elsewhere
        (fun rule fresh matching _ => behind rule fresh matching) stood
      exact ⟨step_tidy tables op tidyNow,
        same_shelves_trans start tables _ shelves (step_stays tables tidyNow ref op into).shelves,
        resolvedNext, stoodNext⟩)
    start publishes
    ⟨tidy, same_shelves_refl start, resolves,
      answer_unranked start event measurementKey currency asOf last ref column pointsAt answer
        (narrower ++ [(source, last)]) source book distinct (by simp) (List.mem_append_left _ bookIn) points resolves⟩
    along
  exact ⟨kept.2.1, kept.2.2.1⟩

theorem default_book_last {tables : Tables} (shelved : Shelved tables) (tenant : Nat) (customer : Option Nat)
    (planBook default : PricingBook) (planned : thePlansBook tables tenant customer = some planBook)
    (broad : defaultPricingBook tables tenant = some default) (apart : planBook.id ≠ default.id) :
    ∃ narrower, selectedPricingBooks tables tenant customer true =
        narrower ++ [(fromTheSelectedBook, default.id)] ∧ (fromTheSelectedBook, planBook.id) ∈ narrower := by
  have noOwnDefault : ∀ own, overrideBook tables tenant customer = some own → own.id ≠ default.id := by
    intro own held same
    obtain ⟨stored, owned⟩ := override_book_held tables tenant customer own held
    have isDefault := List.find?_some broad
    simp only [Bool.and_eq_true] at isDefault
    have one := List.inj_on_of_nodup_map shelved.bookIds stored (List.mem_of_find?_eq_some broad) same
    have plain := (shelved.ownApart own stored owned).1
    rw [one, isDefault.2] at plain
    cases plain
  have noOwnPlan : ∀ own, overrideBook tables tenant customer = some own → planBook.id ≠ own.id := by
    intro own held same
    obtain ⟨stored, owned⟩ := override_book_held tables tenant customer own held
    obtain ⟨plan, listed, priced⟩ := plans_book_priced tables tenant customer planBook planned
    exact (shelved.ownApart own stored owned).2 plan listed (priced.trans same)
  unfold selectedPricingBooks
  rw [if_pos rfl, planned, broad]
  cases held : overrideBook tables tenant customer with
  | none =>
    refine ⟨[(fromTheSelectedBook, planBook.id)], ?_, by simp⟩
    simp [select, Ne.symm apart]
  | some own =>
    have differs := noOwnPlan own held
    have foreign := noOwnDefault own held
    refine ⟨[(fromTheCustomersOwnRules, own.id), (fromTheSelectedBook, planBook.id)], ?_, by simp⟩
    simp [select, differs, Ne.symm apart, Ne.symm foreign]

theorem points_at_pricing (id : Nat) (rule : Rate) : (rule.pricingBook != some id) = !rule.isIn (.pricing id) := by
  rw [Rate.isIn, bne]

theorem points_at_cost (id : Nat) (rule : Rate) : (rule.costBook != some id) = !rule.isIn (.cost id) := by
  rw [Rate.isIn, bne]

theorem narrower_books_rule_stays (history publishes : List Op) (tenant : Nat) (event : Selectors)
    (measurementKey currency : String) (asOf : Int) (answer : Rate) :
    (∀ customer planBook default,
      thePlansBook (run step emptyTables history) tenant customer = some planBook →
      defaultPricingBook (run step emptyTables history) tenant = some default → planBook.id ≠ default.id →
      resolveThePriceRule (run step emptyTables history) tenant customer event measurementKey currency asOf =
        some answer → answer.pricingBook = some planBook.id →
      Along step (NeverOutranks (.pricing default.id) event measurementKey currency asOf answer)
        (run step emptyTables history) publishes →
      resolveThePriceRule (run step emptyTables (history ++ publishes)) tenant customer event measurementKey currency
        asOf = some answer) ∧
    (∀ suppliers agnostic, event .provider ≠ "" →
      defaultCostBook (run step emptyTables history) tenant (event .provider) currency = some suppliers →
      defaultCostBook (run step emptyTables history) tenant "" currency = some agnostic →
      suppliers.id ≠ agnostic.id →
      resolveTheCostRule (run step emptyTables history) tenant event measurementKey currency asOf = some answer →
      answer.costBook = some suppliers.id →
      Along step (NeverOutranks (.cost agnostic.id) event measurementKey currency asOf answer)
        (run step emptyTables history) publishes →
      resolveTheCostRule (run step emptyTables (history ++ publishes)) tenant event measurementKey currency asOf =
        some answer) := by
  rw [run_append]
  have tidy := tables_tidy history
  have shelved := tables_shelved history
  generalize run step emptyTables history = start at tidy shelved ⊢
  constructor
  · intro customer planBook default planned broad apart resolves points along
    obtain ⟨narrower, selection, planIn⟩ := default_book_last shelved tenant customer planBook default planned broad apart
    have distinct := selected_distinct start tenant customer true
    rw [resolveThePriceRule, selection] at resolves
    rw [selection] at distinct
    obtain ⟨shelves, kept⟩ := run_keeps_answer start tidy (.pricing default.id) Rate.pricingBook narrower
      fromTheSelectedBook default.id planBook.id (points_at_pricing default.id) distinct (fun _ _ => Nat.zero_le _) event
      measurementKey currency asOf answer planIn points resolves publishes along
    rw [resolveThePriceRule, same_selection start _ shelves, selection]
    exact kept
  · intro suppliers agnostic named supplied broad apart resolves points along
    have selection := selected_cost_pair start tenant (event .provider) currency suppliers agnostic named supplied broad
      apart
    have distinct := selected_cost_distinct start tenant (event .provider) currency
    rw [resolveTheCostRule, selection] at resolves
    rw [selection] at distinct
    obtain ⟨shelves, kept⟩ := run_keeps_answer start tidy (.cost agnostic.id) Rate.costBook
      [(fromTheSelectedBook, suppliers.id)] fromTheSelectedBook agnostic.id suppliers.id (points_at_cost agnostic.id)
      distinct (fun _ _ => Nat.zero_le _) event measurementKey currency asOf answer (by simp) points resolves publishes
      along
    rw [resolveTheCostRule, same_cost_selection start _ shelves, selection]
    exact kept

def addTokens (perUnit : Int) : Change where
  line := "rate"
  kind := "add"
  measurementKey := some "tokens"
  selectors := fun _ => none
  ratePerUnitMicros := some perUnit
  unitQuantity := some 1000000
  fixedMicros := none
  pricingMethod := some "direct_event_price"
  rateStructure := none
  agreedPriceMicros := none

-- A plan's book priced at ten, and the same quantity repriced in the tenant's
-- default book from twenty.
def pricedPlan : List Op :=
  [.declareMeasurement 1 "tokens" 0, .declarePricingBook 1 "standard" true, .createPlan 1 "pro", .assignPlan 1 7 "pro",
    .declare (.pricing 2) [addTokens 5] 10, .publishDeclared 4]

def repricedForEverybody : List Op := [.declare (.pricing 1) [addTokens 9] 20, .publishDeclared 6]

-- The other way about: the default book priced from the plan's own day, and a
-- supplier's cost beside a later one for any supplier.
def pricedForEverybody : List Op := [.declare (.pricing 1) [addTokens 9] 10, .publishDeclared 6]

def byTheSupplier : Change :=
  { addTokens 3 with
    pricingMethod := none
    selectors := fun axis => if axis = .provider then some "acme" else none }

def costedSupplier : List Op :=
  [.declareMeasurement 1 "tokens" 0, .declareCostBook 1 "" "usd" "costs" true, .declareCostBook 1 "acme" "usd" "acme" true,
    .declare (.cost 2) [byTheSupplier] 10, .publishDeclared 3]

def costedForAnySupplier : List Op := [.declare (.cost 1) [{ addTokens 4 with pricingMethod := none }] 20, .publishDeclared 5]

def fromAcme : Selectors := fun axis => if axis = .provider then "acme" else ""

def plansRule : Rate where
  id := 5
  tenant := 1
  customer := none
  selectors := fun _ => ""
  measurement := some ⟨0, 1, "tokens", 0⟩
  undeclaredMeasurementKey := ""
  terms := ⟨5, 1000000, 0, some .directEventPrice, .perUnit⟩
  currency := "usd"
  pricingBook := some 2
  costBook := none
  lineage := 5
  bookVersionFrom := 2
  bookVersionTo := none
  validFrom := 10
  validTo := none

def suppliersRule : Rate :=
  { plansRule with
    id := 4
    selectors := byTheSupplier.statedSelectors
    terms := ⟨3, 1000000, 0, none, .perUnit⟩
    pricingBook := none
    costBook := some 2
    lineage := 4 }

theorem plans_and_suppliers_rules_stay :
    resolveThePriceRule (run step emptyTables (pricedPlan ++ pricedForEverybody)) 1 (some 7) (fun _ => "") "tokens" "usd" 30 =
        some plansRule ∧
      resolveTheCostRule (run step emptyTables (costedSupplier ++ costedForAnySupplier)) 1 fromAcme "tokens" "usd" 30 =
        some suppliersRule :=
  ⟨(narrower_books_rule_stays pricedPlan pricedForEverybody 1 (fun _ => "") "tokens" "usd" 30 plansRule).1 (some 7)
      ⟨2, 1, none, "pro", 2, false⟩ ⟨1, 1, none, "standard", 1, true⟩ (by decide +kernel) (by decide +kernel) (by decide)
      (by decide +kernel) rfl (by decide +kernel),
    (narrower_books_rule_stays costedSupplier costedForAnySupplier 1 fromAcme "tokens" "usd" 30 suppliersRule).2
      ⟨2, 1, "acme", "usd", "acme", 2, true⟩ ⟨1, 1, "", "usd", "costs", 1, true⟩ (by decide) (by decide +kernel)
      (by decide +kernel) (by decide) (by decide +kernel) rfl (by decide +kernel)⟩

def NeverMoreSpecific (ref : BookRef) (event : Selectors) (measurementKey currency : String) (asOf : Int)
    (answer : Rate) (tables : Tables) (op : Op) : Prop :=
  IntoBook ref tables op ∧ ∀ rule ∈ opened tables (step tables op),
    rule.matchesEvent event measurementKey currency asOf = true → rule.specificity ≤ answer.specificity

theorem later_default_rule_answers : ¬ ∀ (history publishes : List Op) (tenant : Nat) (customer : Option Nat)
    (event : Selectors) (measurementKey currency : String) (asOf : Int) (answer : Rate) (planBook default : PricingBook),
    thePlansBook (run step emptyTables history) tenant customer = some planBook →
    defaultPricingBook (run step emptyTables history) tenant = some default → planBook.id ≠ default.id →
    resolveThePriceRule (run step emptyTables history) tenant customer event measurementKey currency asOf =
      some answer → answer.pricingBook = some planBook.id →
    Along step (NeverMoreSpecific (.pricing default.id) event measurementKey currency asOf answer)
      (run step emptyTables history) publishes →
    resolveThePriceRule (run step emptyTables (history ++ publishes)) tenant customer event measurementKey currency
      asOf = some answer := by
  intro stays
  cases found : resolveThePriceRule (run step emptyTables pricedPlan) 1 (some 7) (fun _ => "") "tokens" "usd" 30 with
  | none =>
    have resolved : (resolveThePriceRule (run step emptyTables pricedPlan) 1 (some 7) (fun _ => "") "tokens" "usd"
        30).isSome = true := by decide +kernel
    rw [found] at resolved
    cases resolved
  | some answer =>
    have shown : (resolveThePriceRule (run step emptyTables pricedPlan) 1 (some 7) (fun _ => "") "tokens" "usd"
        30).map (fun rule => (rule.pricingBook, rule.specificity, rule.id)) = some (some 2, 0, 5) := by decide +kernel
    rw [found, Option.map_some, Option.some.injEq, Prod.mk.injEq, Prod.mk.injEq] at shown
    have after : (resolveThePriceRule (run step emptyTables (pricedPlan ++ repricedForEverybody)) 1 (some 7)
        (fun _ => "") "tokens" "usd" 30).map Rate.id = some 7 := by decide +kernel
    have unspecific : ∀ rule ∈ (run step emptyTables (pricedPlan ++ repricedForEverybody)).rates,
        rule.specificity ≤ 0 := by decide +kernel
    have along : Along step (NeverMoreSpecific (.pricing 1) (fun _ => "") "tokens" "usd" 30 answer)
        (run step emptyTables pricedPlan) repricedForEverybody := by
      refine ⟨⟨rfl, ?_⟩, ⟨?_, ?_⟩, trivial⟩
      · have none : opened (run step emptyTables pricedPlan)
            (step (run step emptyTables pricedPlan) (.declare (.pricing 1) [addTokens 9] 20)) = [] := by
          decide +kernel
        rw [none]
        intro rule inside
        cases inside
      · intro draft listed
        have book : ((step (run step emptyTables pricedPlan) (.declare (.pricing 1) [addTokens 9] 20)).publishes.find?
            (fun draft => decide (draft.id = 6))).map PricingBookPublish.book = some (.pricing 1) := by
          decide +kernel
        rw [listed] at book
        exact Option.some.inj book
      · intro rule inside _
        rw [shown.2.1]
        exact unspecific rule (List.mem_of_mem_filter inside)
    have kept := stays pricedPlan repricedForEverybody 1 (some 7) (fun _ => "") "tokens" "usd" 30 answer
      ⟨2, 1, none, "pro", 2, false⟩ ⟨1, 1, none, "standard", 1, true⟩ (by decide +kernel) (by decide +kernel) (by decide)
      found shown.1 along
    rw [kept, Option.map_some, shown.2.2] at after
    exact absurd after (by decide)

end Ubb.Pricing
