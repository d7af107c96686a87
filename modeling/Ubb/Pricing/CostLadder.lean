import Ubb.Pricing.Ladder

set_option autoImplicit false

-- The cost side of the ladder: a supplier's own default book before the
-- tenant's provider-agnostic one.
namespace Ubb.Pricing

open Library

def defaultCostBook (tables : Tables) (tenant : Nat) (provider currency : String) : Option CostBook :=
  tables.costBooks.find? (fun book =>
    book.tenant == tenant && book.providerKey == provider && book.currency == currency && book.isDefault)

def selectCost (reached : Option CostBook) (books : List (Nat × Nat)) : List (Nat × Nat) :=
  match reached with
  | none => books
  | some book =>
    if book.id ∈ books.map Prod.snd then books else books ++ [(fromTheSelectedBook, book.id)]

def selectedCostBooks (tables : Tables) (tenant : Nat) (provider currency : String) : List (Nat × Nat) :=
  selectCost (defaultCostBook tables tenant "" currency)
    (selectCost (if provider = "" then none else defaultCostBook tables tenant provider currency) [])

def resolveTheCostRule (tables : Tables) (tenant : Nat) (event : Selectors) (measurementKey currency : String)
    (asOf : Int) : Option Rate :=
  rankAndTakeOne tables.rates (selectedCostBooks tables tenant (event .provider) currency) Rate.costBook event
    measurementKey currency asOf

theorem select_cost_distinct (reached : Option CostBook) (books : List (Nat × Nat))
    (distinct : (books.map Prod.snd).Nodup) : ((selectCost reached books).map Prod.snd).Nodup := by
  unfold selectCost
  split
  · exact distinct
  · split
    · exact distinct
    · rename_i book absent
      apply nodup_add_row Prod.snd books _ distinct
      intro entry listed same
      exact absent (List.mem_map.mpr ⟨entry, listed, same⟩)

theorem selected_cost_distinct (tables : Tables) (tenant : Nat) (provider currency : String) :
    ((selectedCostBooks tables tenant provider currency).map Prod.snd).Nodup := by
  unfold selectedCostBooks
  apply select_cost_distinct
  apply select_cost_distinct
  simp

theorem selected_cost_pair (tables : Tables) (tenant : Nat) (provider currency : String)
    (suppliers agnostic : CostBook) (named : provider ≠ "")
    (supplied : defaultCostBook tables tenant provider currency = some suppliers)
    (broad : defaultCostBook tables tenant "" currency = some agnostic) (apart : suppliers.id ≠ agnostic.id) :
    selectedCostBooks tables tenant provider currency =
      [(fromTheSelectedBook, suppliers.id)] ++ [(fromTheSelectedBook, agnostic.id)] := by
  rw [selectedCostBooks, if_neg named, supplied, broad]
  simp [selectCost, Ne.symm apart]

end Ubb.Pricing
