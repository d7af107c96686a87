import Ubb.Library.Exhaustion
import Ubb.Wallets.OpenLots
import Ubb.Wallets.Replay

set_option autoImplicit false

-- What one consumption draws, and from which lots: the order of the lots, the
-- loop over them, and the three callers that choose which lots it may touch.
namespace Ubb.Wallets

open Ubb.Library

-- The earliest expiry first and a lot that never expires last; promo before
-- paid; then the order of creation, and the id.
def ExpiresBefore : Option Nat → Option Nat → Prop
  | some left, some right => left < right
  | some _, none => True
  | none, _ => False

def ConsumedBefore (left right : CreditGrant) : Prop :=
  ExpiresBefore left.expiresAt right.expiresAt ∨
    left.expiresAt = right.expiresAt ∧
      (left.kind = .promo ∧ right.kind = .paid ∨
        left.kind = right.kind ∧
          (left.createdAt < right.createdAt ∨ left.createdAt = right.createdAt ∧ left.id.text < right.id.text))

theorem comparing_key {Item Key : Type} (compared : Key → Key → Ordering) [Std.TransCmp compared] (key : Item → Key) :
    Std.TransCmp (fun left right => compared (key left) (key right)) where
  eq_swap := Std.OrientedCmp.eq_swap
  isLE_trans := Std.TransCmp.isLE_trans

instance compareExpiryTrans : Std.TransCmp compareExpiry where
  eq_swap := by
    intro left right
    cases left <;> cases right <;> simp [compareExpiry, Nat.compare_swap]
  isLE_trans := by
    intro left middle right
    cases left <;> cases middle <;> cases right <;> simp [compareExpiry, Nat.isLE_compare]
    omega

instance consumptionOrderTrans : Std.TransCmp consumptionOrder := by
  have byExpiry := comparing_key compareExpiry CreditGrant.expiresAt
  have byKind := comparing_key (compare : Nat → Nat → Ordering) (fun grant : CreditGrant => kindRank grant.kind)
  have byCreation := comparing_key (compare : Nat → Nat → Ordering) CreditGrant.createdAt
  have byId := comparing_key (compare : String → String → Ordering) (fun grant : CreditGrant => grant.id.text)
  exact inferInstanceAs (Std.TransCmp (compareLex _ (compareLex _ (compareLex _ _))))

theorem compare_text_lt (left right : String) : compare left right = .lt ↔ left < right := by
  show compareOfLessAndEq left right = .lt ↔ left < right
  unfold compareOfLessAndEq
  split
  · simp [*]
  · split <;> simp [*]

theorem compare_expiry_lt (left right : Option Nat) : compareExpiry left right = .lt ↔ ExpiresBefore left right := by
  cases left <;> cases right <;> simp [compareExpiry, ExpiresBefore, Nat.compare_eq_lt]

theorem compare_expiry_eq (left right : Option Nat) : compareExpiry left right = .eq ↔ left = right := by
  cases left <;> cases right <;> simp [compareExpiry]

theorem consumption_order_lt (left right : CreditGrant) : consumptionOrder left right = .lt ↔ ConsumedBefore left right := by
  have kinds : ∀ kind other : GrantKind, compare (kindRank kind) (kindRank other) = .lt ↔ kind = .promo ∧ other = .paid := by
    intro kind other
    cases kind <;> cases other <;> decide
  have sameKinds : ∀ kind other : GrantKind, compare (kindRank kind) (kindRank other) = .eq ↔ kind = other := by
    intro kind other
    cases kind <;> cases other <;> decide
  simp only [consumptionOrder, Ordering.then_eq_lt, compare_expiry_lt, compare_expiry_eq, kinds, sameKinds,
    Nat.compare_eq_lt, Nat.compare_eq_eq, compare_text_lt, ConsumedBefore]

theorem consumption_order_eq (left right : CreditGrant) (same : consumptionOrder left right = .eq) : left.id = right.id := by
  unfold consumptionOrder at same
  simp only [Ordering.then_eq_eq] at same
  have text : left.id.text = right.id.text := Std.LawfulEqCmp.eq_of_compare same.2.2.2
  cases leftId : left.id
  cases rightId : right.id
  rw [leftId, rightId] at text
  exact congrArg Uuid.mk text

def InConsumptionOrder : Option CreditGrant → List CreditGrant → Prop
  | none, order => order.Pairwise ConsumedBefore
  | some preferred, order => ∃ rest, order = preferred :: rest ∧ rest.Pairwise ConsumedBefore

theorem active_grants_ordered (lots : LotTables) (unique : (lots.grants.map CreditGrant.id).Nodup) :
    (activeGrants lots).Pairwise ConsumedBefore := by
  let notAfter : CreditGrant → CreditGrant → Prop := fun left right => (consumptionOrder left right).isLE = true
  have total : Std.Total notAfter := by
    refine ⟨?_⟩
    intro left right
    have swap : consumptionOrder left right = (consumptionOrder right left).swap := Std.OrientedCmp.eq_swap
    show (consumptionOrder left right).isLE = true ∨ (consumptionOrder right left).isLE = true
    rw [swap]
    cases consumptionOrder right left <;> simp
  have trans : IsTrans CreditGrant notAfter := ⟨fun _ _ _ first second => Std.TransCmp.isLE_trans first second⟩
  have sorted : (activeGrants lots).Pairwise notAfter := List.pairwise_insertionSort notAfter _
  have distinct : (activeGrants lots).Pairwise (fun left right => left.id ≠ right.id) := by
    have perm := (active_grants_perm lots).map CreditGrant.id
    have nodup := perm.nodup_iff.mpr (unique.sublist (List.filter_sublist.map CreditGrant.id))
    exact List.pairwise_map.mp nodup
  refine (sorted.and distinct).imp ?_
  rintro left right ⟨before, different⟩
  rw [← consumption_order_lt]
  cases compared : consumptionOrder left right with
  | lt => rfl
  | eq => exact absurd (consumption_order_eq left right compared) different
  | gt =>
    have notBefore : (consumptionOrder left right).isLE = true := before
    rw [compared] at notBefore
    cases notBefore

def eligibleLots (excludePromo : Bool) (lots : LotTables) : List CreditGrant :=
  lots.grants.filter (fun grant => isActive grant && (!excludePromo || grant.kind ≠ .promo))

def drawableLots (excludePromo : Bool) (preferGrant : Option CreditGrant) (lots : LotTables) : List CreditGrant :=
  match preferGrant with
  | none => eligibleLots excludePromo lots
  | some preferred => preferred :: (eligibleLots excludePromo lots).filter (fun grant => grant.id ≠ preferred.id)

theorem candidates_in_order (excludePromo : Bool) (preferGrant : Option CreditGrant) (lots : LotTables)
    (unique : (lots.grants.map CreditGrant.id).Nodup) :
    (allocationCandidates excludePromo preferGrant lots).Perm (drawableLots excludePromo preferGrant lots) ∧
      InConsumptionOrder preferGrant (allocationCandidates excludePromo preferGrant lots) := by
  have ordered := active_grants_ordered lots unique
  have perm : (allocationCandidates excludePromo none lots).Perm (eligibleLots excludePromo lots) := by
    have listed := candidates_perm excludePromo lots
    rw [List.filter_filter] at listed
    simpa [eligibleLots, Bool.and_comm] using listed
  have sorted : (allocationCandidates excludePromo none lots).Pairwise ConsumedBefore := by
    cases excludePromo with
    | false => exact ordered
    | true => exact ordered.filter _
  cases preferGrant with
  | none => exact ⟨perm, sorted⟩
  | some preferred =>
    have split : allocationCandidates excludePromo (some preferred) lots =
        preferred :: (allocationCandidates excludePromo none lots).filter (fun grant => grant.id ≠ preferred.id) := rfl
    rw [split]
    exact ⟨(perm.filter _).cons preferred, _, rfl, sorted.filter _⟩

def remainingIn (lots : LotTables) (grant : CreditGrant) : Int :=
  ((lots.grant grant.id).map CreditGrant.remainingMicros).getD 0

theorem grant_of_mem (lots : LotTables) (unique : (lots.grants.map CreditGrant.id).Nodup) (grant : CreditGrant)
    (member : grant ∈ lots.grants) : lots.grant grant.id = some grant := by
  rw [LotTables.grant]
  exact find_key_of_mem CreditGrant.id lots.grants unique grant member

theorem grant_save_other (lots : LotTables) (grant : CreditGrant) (write : CreditGrant → CreditGrant) (wanted : Uuid)
    (keeps : ∀ row, (write row).id = row.id) (different : wanted ≠ grant.id) :
    (lots.saveGrant grant.id write).grant wanted = lots.grant wanted :=
  find_update_row_other CreditGrant.id grant.id wanted write lots.grants (fun row hit => (keeps row).trans hit) different

theorem grant_save_hit (lots : LotTables) (grant : CreditGrant) (write : CreditGrant → CreditGrant)
    (keeps : ∀ row, (write row).id = row.id) (stored : lots.grant grant.id = some grant) :
    (lots.saveGrant grant.id write).grant grant.id = some (write grant) := by
  have hit := find_update_row_hit CreditGrant.id grant.id write lots.grants (fun row same => (keeps row).trans same)
  unfold LotTables.grant at stored
  unfold LotTables.grant LotTables.saveGrant
  dsimp only
  rw [hit, stored]
  rfl

structure Drew (grants : List CreditGrant) (before after : LotTables) (amount left : Int) : Prop where
  drawn : DrawnInOrder (grants.map CreditGrant.remainingMicros) (grants.map (remainingIn after))
  total : (grants.map CreditGrant.remainingMicros).sum - (grants.map (remainingIn after)).sum = amount - left
  left : left = max (amount - (grants.map CreditGrant.remainingMicros).sum) 0
  others : ∀ wanted, wanted ∉ grants.map CreditGrant.id → after.grant wanted = before.grant wanted

theorem drew_nothing (grants : List CreditGrant) (lots : LotTables)
    (stored : ∀ grant ∈ grants, lots.grant grant.id = some grant) (nonneg : ∀ grant ∈ grants, 0 ≤ grant.remainingMicros) :
    Drew grants lots lots 0 0 := by
  have standing : grants.map (remainingIn lots) = grants.map CreditGrant.remainingMicros := by
    apply List.map_congr_left
    intro grant member
    simp [remainingIn, stored grant member]
  have atLeast := sum_nonneg_of CreditGrant.remainingMicros grants nonneg
  refine ⟨?_, by rw [standing]; omega, by omega, fun _ _ => rfl⟩
  rw [standing]
  apply drawn_untouched
  intro stock member
  obtain ⟨grant, inside, rfl⟩ := List.mem_map.mp member
  exact nonneg grant inside

theorem drew_same_lots (grants : List CreditGrant) (before after other : LotTables) (amount left : Int)
    (drew : Drew grants before after amount left) (same : other.grants = after.grants) :
    Drew grants before other amount left := by
  have lookups : other.grant = after.grant := by
    funext wanted
    unfold LotTables.grant
    rw [same]
  have views : remainingIn other = remainingIn after := by
    funext grant
    unfold remainingIn
    rw [lookups]
  refine ⟨?_, ?_, drew.left, ?_⟩
  · rw [views]
    exact drew.drawn
  · rw [views]
    exact drew.total
  · rw [lookups]
    exact drew.others

theorem drew_cons (grant : CreditGrant) (rest : List CreditGrant) (before middle after : LotTables) (amount left take : Int)
    (apart : grant.id ∉ rest.map CreditGrant.id) (bounds : 0 ≤ take ∧ take ≤ grant.remainingMicros)
    (settled : take = grant.remainingMicros ∨ take = amount ∧ amount ≤ grant.remainingMicros)
    (restNonneg : ∀ other ∈ rest, 0 ≤ other.remainingMicros)
    (here : remainingIn middle grant = grant.remainingMicros - take)
    (elsewhere : ∀ wanted, wanted ≠ grant.id → middle.grant wanted = before.grant wanted)
    (tail : Drew rest middle after (amount - take) left) : Drew (grant :: rest) before after amount left := by
  have atLeast := sum_nonneg_of CreditGrant.remainingMicros rest restNonneg
  have total := tail.total
  have leftEq := tail.left
  have head : remainingIn after grant = grant.remainingMicros - take := by
    rw [← here]
    unfold remainingIn
    rw [tail.others grant.id apart]
  refine ⟨?_, ?_, ?_, ?_⟩
  · rw [List.map_cons, List.map_cons, head]
    refine drawn_cons _ _ _ _ (by omega) tail.drawn ?_
    rcases settled with emptied | ⟨asked, _⟩
    · exact Or.inl (by omega)
    · exact Or.inr (untouched_of_sum _ _ tail.drawn.within (by omega))
  · simp only [List.map_cons, List.sum_cons, head]
    omega
  · simp only [List.map_cons, List.sum_cons]
    omega
  · intro wanted outside
    rw [List.map_cons, List.mem_cons, not_or] at outside
    rw [tail.others wanted outside.2, elsewhere wanted outside.1]

theorem allocate_loop_draws (transaction : Nat) (allocationType : AllocationType) (grants : List CreditGrant) (left : Int)
    (rows : List GrantAllocation) (lots : LotTables) (nonneg : 0 ≤ left)
    (stored : ∀ grant ∈ grants, lots.grant grant.id = some grant) (once : (grants.map CreditGrant.id).Nodup)
    (lotNonneg : ∀ grant ∈ grants, 0 ≤ grant.remainingMicros) :
    Drew grants lots (allocateLoop transaction allocationType grants left rows lots).1 left
      (allocateLoop transaction allocationType grants left rows lots).2.1 := by
  induction grants generalizing left rows lots with
  | nil =>
    rw [allocateLoop]
    exact ⟨⟨.nil, .nil⟩, by simp, by simp [nonneg], fun _ _ => rfl⟩
  | cons grant rest ih =>
    obtain ⟨apart, restOnce⟩ := List.nodup_cons.mp once
    have here := stored grant (by simp)
    have restStored : ∀ other ∈ rest, lots.grant other.id = some other := fun other member => stored other (by simp [member])
    have restNonneg : ∀ other ∈ rest, 0 ≤ other.remainingMicros := fun other member => lotNonneg other (by simp [member])
    have grantNonneg := lotNonneg grant (by simp)
    by_cases spent : left ≤ 0
    · rw [allocateLoop, if_pos spent, show left = 0 by omega]
      exact drew_nothing (grant :: rest) lots stored lotNonneg
    · rw [allocateLoop, if_neg spent]
      by_cases empty : min grant.remainingMicros left ≤ 0
      · simp only [if_pos empty]
        refine drew_cons grant rest lots lots _ left _ 0 apart (by omega) (Or.inl (by omega)) restNonneg ?_
          (fun _ _ => rfl) ?_
        · simp [remainingIn, here]
        · rw [sub_zero]
          exact ih left rows lots nonneg restStored restOnce restNonneg
      · simp only [if_neg empty]
        refine drew_cons grant rest lots (lots.saveGrant grant.id (writeConsumed (min grant.remainingMicros left) grant)) _
          left _ (min grant.remainingMicros left) apart (by omega) (by omega) restNonneg ?_ ?_ ?_
        · unfold remainingIn
          rw [grant_save_hit lots grant (writeConsumed (min grant.remainingMicros left) grant) (fun _ => rfl) here]
          rfl
        · intro wanted different
          exact grant_save_other lots grant _ wanted (fun _ => rfl) different
        · refine ih _ _ _ (by omega) ?_ restOnce restNonneg
          intro other member
          have different : other.id ≠ grant.id := by
            intro same
            exact apart (List.mem_map.mpr ⟨other, member, same⟩)
          rw [grant_save_other lots grant (writeConsumed (min grant.remainingMicros left) grant) other.id (fun _ => rfl)
            different]
          exact restStored other member

structure ConsumesInOrder (drawable : List CreditGrant) (preferGrant : Option CreditGrant) (amount : Int)
    (before after : LotTables) (consumed : Int) : Prop where
  inOrder : ∃ order, order.Perm drawable ∧ InConsumptionOrder preferGrant order ∧
    DrawnInOrder (order.map CreditGrant.remainingMicros) (order.map (remainingIn after)) ∧
    ∀ left, DrawnInOrder (order.map CreditGrant.remainingMicros) left →
      (order.map CreditGrant.remainingMicros).sum - left.sum = consumed → left = order.map (remainingIn after)
  exact : consumed = max 0 (min amount (drawable.map CreditGrant.remainingMicros).sum)
  total : (drawable.map CreditGrant.remainingMicros).sum - (drawable.map (remainingIn after)).sum = consumed
  others : ∀ wanted, wanted ∉ drawable.map CreditGrant.id → after.grant wanted = before.grant wanted

theorem consumes_of_drew (drawable order : List CreditGrant) (preferGrant : Option CreditGrant) (amount : Int)
    (before after : LotTables) (left : Int) (perm : order.Perm drawable) (ordered : InConsumptionOrder preferGrant order)
    (nonneg : ∀ grant ∈ order, 0 ≤ grant.remainingMicros) (asked : 0 ≤ amount)
    (drew : Drew order before after amount left) :
    ConsumesInOrder drawable preferGrant amount before after (amount - left) := by
  have sums : ∀ view : CreditGrant → Int, (drawable.map view).sum = (order.map view).sum :=
    fun view => ((perm.map view).sum_eq).symm
  have total := drew.total
  have leftEq := drew.left
  have atLeast := sum_nonneg_of CreditGrant.remainingMicros order nonneg
  refine ⟨⟨order, perm, ordered, drew.drawn, ?_⟩, ?_, ?_, ?_⟩
  · intro other drawn same
    exact drawn_unique _ other _ drawn drew.drawn (by omega)
  · rw [sums]
    omega
  · rw [sums, sums]
    exact total
  · intro wanted outside
    exact drew.others wanted (fun inside => outside ((perm.map CreditGrant.id).mem_iff.mp inside))

theorem allocate_consumes (rows : Nat) (lots : LotTables) (sound : LotsSound rows lots) (transaction : Nat) (amount : Int)
    (excludePromo : Bool) (preferGrant : Option CreditGrant) (allocationType : AllocationType)
    (stored : ∀ preferred, preferGrant = some preferred → preferred ∈ lots.grants) :
    ConsumesInOrder (drawableLots excludePromo preferGrant lots) preferGrant amount lots
      (allocate transaction amount excludePromo preferGrant allocationType lots).1
      (allocate transaction amount excludePromo preferGrant allocationType lots).2 := by
  obtain ⟨perm, ordered⟩ := candidates_in_order excludePromo preferGrant lots sound.grantIds
  have listed : ∀ grant ∈ allocationCandidates excludePromo preferGrant lots, grant ∈ lots.grants := by
    intro grant member
    have inside := perm.mem_iff.mp member
    cases preferGrant with
    | none => exact (List.mem_filter.mp inside).1
    | some preferred =>
      rcases List.mem_cons.mp inside with same | other
      · rw [same]
        exact stored preferred rfl
      · exact (List.mem_filter.mp (List.mem_filter.mp other).1).1
  have once : ((allocationCandidates excludePromo preferGrant lots).map CreditGrant.id).Nodup := by
    rw [(perm.map CreditGrant.id).nodup_iff]
    have eligible : ((eligibleLots excludePromo lots).map CreditGrant.id).Nodup :=
      sound.grantIds.sublist (List.filter_sublist.map CreditGrant.id)
    cases preferGrant with
    | none => exact eligible
    | some preferred =>
      refine List.nodup_cons.mpr ⟨?_, eligible.sublist (List.filter_sublist.map CreditGrant.id)⟩
      intro inside
      obtain ⟨grant, member, same⟩ := List.mem_map.mp inside
      simp [same] at member
  have nonneg : ∀ grant ∈ allocationCandidates excludePromo preferGrant lots, 0 ≤ grant.remainingMicros :=
    fun grant member => (sound.lot grant (listed grant member)).nonneg
  have lookups : ∀ grant ∈ allocationCandidates excludePromo preferGrant lots, lots.grant grant.id = some grant :=
    fun grant member => grant_of_mem lots sound.grantIds grant (listed grant member)
  by_cases nothing : amount ≤ 0
  · rw [allocate, if_pos nothing]
    have drew := drew_nothing _ lots lookups nonneg
    have consumes := consumes_of_drew _ _ preferGrant 0 lots lots 0 perm ordered nonneg (by omega) drew
    have atLeast := sum_nonneg_of CreditGrant.remainingMicros _ nonneg
    have exact := consumes.exact
    exact ⟨consumes.inOrder, by omega, consumes.total, consumes.others⟩
  · rw [allocate, if_neg nothing]
    have drew := allocate_loop_draws transaction allocationType _ amount [] lots (by omega) lookups once nonneg
    exact consumes_of_drew _ _ preferGrant amount lots _ _ perm ordered nonneg (by omega)
      (drew_same_lots _ _ _ _ _ _ drew rfl)

theorem allocate_loop_passes (keep : CreditGrant → Bool)
    (same : ∀ take grant row, keep (writeConsumed take grant row) = keep row) (transaction : Nat)
    (allocationType : AllocationType) (grants : List CreditGrant) (left : Int) (rows : List GrantAllocation)
    (lots : LotTables) (unique : (lots.grants.map CreditGrant.id).Nodup) (passed : ∀ grant ∈ grants, keep grant = false)
    (stored : ∀ grant ∈ grants, grant ∈ lots.grants) (once : (grants.map CreditGrant.id).Nodup) :
    (allocateLoop transaction allocationType grants left rows lots).1.grants.filter keep = lots.grants.filter keep := by
  induction grants generalizing left rows lots with
  | nil => rfl
  | cons grant rest ih =>
    obtain ⟨apart, restOnce⟩ := List.nodup_cons.mp once
    have restPassed : ∀ other ∈ rest, keep other = false := fun other member => passed other (by simp [member])
    have restStored : ∀ other ∈ rest, other ∈ lots.grants := fun other member => stored other (by simp [member])
    rw [allocateLoop]
    split
    · rfl
    · dsimp only
      split
      · exact ih left rows lots unique restPassed restStored restOnce
      · have ids := update_row_map CreditGrant.id grant.id (writeConsumed (min grant.remainingMicros left) grant)
          lots.grants CreditGrant.id (fun _ => rfl)
        rw [ih _ _ _ (by unfold LotTables.saveGrant; rw [ids]; exact unique) restPassed ?_ restOnce]
        · apply filter_update_row CreditGrant.id grant.id _ keep lots.grants (same _ grant)
          intro row member hit
          rw [List.inj_on_of_nodup_map unique member (stored grant (by simp)) hit]
          exact passed grant (by simp)
        · intro other member
          apply update_row_other CreditGrant.id grant.id _ lots.grants other (restStored other member)
          intro sameId
          exact apart (List.mem_map.mpr ⟨other, member, sameId⟩)

def isPromo (grant : CreditGrant) : Bool := grant.kind = .promo

theorem withdrawal_passes_promo (rows transaction : Nat) (amount : Int) (lots : LotTables) (sound : LotsSound rows lots)
    (fresh : ∀ alloc ∈ lots.allocations, alloc.walletTransaction ≠ transaction) :
    (allocate transaction amount true none .withdrawal lots).1.grants.filter isPromo = lots.grants.filter isPromo := by
  have loaded := candidates_loaded rows transaction true lots sound fresh
  have passed : ∀ grant ∈ allocationCandidates true none lots, isPromo grant = false := by
    intro grant member
    have eligible := (candidates_perm true lots).mem_iff.mp member
    simp only [List.mem_filter, Bool.not_true, Bool.false_or, decide_eq_true_eq] at eligible
    simpa [isPromo] using eligible.2
  rw [allocate]
  split
  · rfl
  · exact allocate_loop_passes isPromo (fun _ _ _ => rfl) transaction .withdrawal _ amount [] lots sound.grantIds passed
      loaded.stored loaded.once

theorem promo_remaining_of_rows (before after : LotTables)
    (same : after.grants.filter isPromo = before.grants.filter isPromo) : promoRemaining after = promoRemaining before := by
  have split : ∀ lots : LotTables, promoRemaining lots =
      (((lots.grants.filter isPromo).filter isActive).map CreditGrant.remainingMicros).sum := by
    intro lots
    rw [List.filter_filter]
    rfl
  rw [split, split, same]

structure WithdrawsNoPromo (before after : Wallet) : Prop where
  promo : after.lots.grants.filter isPromo = before.lots.grants.filter isPromo
  covered : promoRemaining after.lots ≤ after.balanceMicros

theorem withdrawal_applied (wallet after : Wallet) (held : WalletOpen wallet) (env : Env) (amount : Int) (key : String)
    (audit : Audit) (result : OpResult)
    (done : perform ⟨.withdraw amount key audit, env⟩ wallet = .ok (after, .result result))
    (applied : result.outcome = .applied) : WithdrawsNoPromo (expireDue env none wallet).1 after := by
  have ran := perform_result ⟨.withdraw amount key audit, env⟩ wallet after _ result rfl done
  obtain ⟨honest, _⟩ := idempotent_spine_honest (.withdraw amount key audit) env _ .withdraw key rfl rfl
  obtain ⟨move, lots, _, prepared, minted, rfl⟩ := applied_lands _ env wallet after result honest ran applied
  have sound := expire_due_sound env none wallet held.sound
  have settling := settling_unminted _ sound
  cases prepared_by (.withdraw amount key audit) env _ _ move rfl prepared with
  | withdraw _ _ _ funded =>
    cases unminted_lots _ _ _ lots rfl minted
    have promo := withdrawal_passes_promo _ _ amount _ settling.sound settling.fresh
    have kept := promo_remaining_of_rows _ _ promo
    have enough : amount ≤ (expireDue env none wallet).1.balanceMicros - promoRemaining (expireDue env none wallet).1.lots :=
      funded
    have covered : promoRemaining (expireDue env none wallet).1.lots ≤ (expireDue env none wallet).1.balanceMicros + -amount := by
      omega
    exact ⟨promo, le_of_eq_of_le kept covered⟩

structure VoidsSource (source : Option CreditGrant) (amount : Int) (before middle : LotTables) : Prop where
  voided : ∀ lot, source = some lot → ∃ row, middle.grant lot.id = some row ∧
    row.remainingMicros = lot.remainingMicros - min lot.remainingMicros amount ∧
    row.voidedMicros = lot.voidedMicros + min lot.remainingMicros amount
  others : ∀ wanted, (∀ lot, source = some lot → lot.id ≠ wanted) → middle.grant wanted = before.grant wanted

def besides (source : Option CreditGrant) (lots : LotTables) : List CreditGrant :=
  (eligibleLots false lots).filter (fun grant => source.all (fun lot => grant.id ≠ lot.id))

structure ClawsBack (source : Option CreditGrant) (amount balance : Int) (before after : LotTables) : Prop where
  clawed : ∃ middle, VoidsSource source amount before middle ∧
    ConsumesInOrder (besides source middle) none (activeSum middle - max balance 0) middle after
      (max 0 (activeSum middle - max balance 0))

theorem consumes_nothing (rows : Nat) (lots : LotTables) (sound : LotsSound rows lots) (keep : CreditGrant → Bool)
    (amount : Int) (nothing : amount ≤ 0) :
    ConsumesInOrder ((eligibleLots false lots).filter keep) none amount lots lots 0 := by
  obtain ⟨perm, ordered⟩ := candidates_in_order false none lots sound.grantIds
  have stored : ∀ grant ∈ (allocationCandidates false none lots).filter keep, grant ∈ lots.grants := by
    intro grant member
    exact (List.mem_filter.mp (perm.mem_iff.mp (List.mem_filter.mp member).1)).1
  have nonneg : ∀ grant ∈ (allocationCandidates false none lots).filter keep, 0 ≤ grant.remainingMicros :=
    fun grant member => (sound.lot grant (stored grant member)).nonneg
  have drew := drew_nothing _ lots (fun grant member => grant_of_mem lots sound.grantIds grant (stored grant member)) nonneg
  have consumes := consumes_of_drew _ _ none 0 lots lots 0 (perm.filter keep) (ordered.filter keep) nonneg (by omega) drew
  have whole := consumes.exact
  exact ⟨consumes.inOrder, by omega, consumes.total, consumes.others⟩

theorem void_source_cases (source : CreditGrant) (amount : Int) (lots : LotTables) :
    (voidSource amount (some source) lots = lots ∧
        (¬(0 < source.remainingMicros ∧ source.status = .active) ∨ amount ≤ 0)) ∨
      (0 < source.remainingMicros ∧ source.status = .active ∧ 0 < amount ∧
        voidSource amount (some source) lots =
          lots.saveGrant source.id (writeReversed (min source.remainingMicros amount) source)) := by
  rw [voidSource]
  by_cases live : 0 < source.remainingMicros ∧ source.status = .active
  · rw [if_pos live]
    dsimp only
    by_cases positive : 0 < min source.remainingMicros amount
    · rw [if_pos positive]
      exact Or.inr ⟨live.1, live.2, by omega, rfl⟩
    · rw [if_neg positive]
      exact Or.inl ⟨rfl, Or.inr (by omega)⟩
  · rw [if_neg live]
    exact Or.inl ⟨rfl, Or.inl live⟩

theorem source_voided (rows : Nat) (lots : LotTables) (sound : LotsSound rows lots) (opened : OpenWhileHeld lots)
    (source : Option CreditGrant) (stored : ∀ lot, source = some lot → lot ∈ lots.grants) (amount : Int)
    (asked : 0 ≤ amount) : VoidsSource source amount lots (voidSource amount source lots) := by
  cases source with
  | none => exact ⟨by simp, fun _ _ => rfl⟩
  | some lot =>
    have member := stored lot rfl
    have here := grant_of_mem lots sound.grantIds lot member
    have nonneg := (sound.lot lot member).nonneg
    rcases void_source_cases lot amount lots with ⟨same, idle⟩ | ⟨positive, active, _, voided⟩
    · rw [same]
      refine ⟨?_, fun _ _ => rfl⟩
      rintro _ ⟨rfl⟩
      have nothing : min lot.remainingMicros amount = 0 := by
        rcases idle with closed | none
        · have empty : ¬0 < lot.remainingMicros := fun positive => closed ⟨positive, (opened lot member).mpr positive⟩
          omega
        · omega
      exact ⟨lot, here, by omega, by omega⟩
    · rw [voided]
      refine ⟨?_, ?_⟩
      · rintro _ ⟨rfl⟩
        exact ⟨_, grant_save_hit lots lot (writeReversed (min lot.remainingMicros amount) lot) (fun _ => rfl) here, rfl, rfl⟩
      · intro wanted apart
        exact grant_save_other lots lot _ wanted (fun _ => rfl) (fun same => apart lot rfl same.symm)

-- What is clawed back was in the balance before, so a source that covers it
-- leaves no excess, and one that does not is closed and out of the cascade.
theorem cascade_passes_source (rows : Nat) (lots : LotTables) (sound : LotsSound rows lots) (opened : OpenWhileHeld lots)
    (source : CreditGrant) (member : source ∈ lots.grants) (amount balance : Int) (asked : 0 ≤ amount)
    (bound : activeSum lots ≤ max (balance + amount) 0)
    (exceeds : 0 < activeSum (voidSource amount (some source) lots) - max balance 0) :
    ∀ grant ∈ eligibleLots false (voidSource amount (some source) lots), grant.id ≠ source.id := by
  intro grant inside same
  obtain ⟨listed, eligible⟩ := List.mem_filter.mp inside
  have active : grant.status = .active := by
    simpa [isActive] using eligible
  rcases void_source_cases source amount lots with ⟨unchanged, idle⟩ | ⟨positive, sourceActive, paid, voided⟩
  · rw [unchanged] at exceeds listed
    have hit : grant = source := List.inj_on_of_nodup_map sound.grantIds listed member same
    rw [hit] at active
    rcases idle with closed | none
    · exact closed ⟨(opened source member).mp active, active⟩
    · have zero : amount = 0 := by omega
      rw [zero, add_zero] at bound
      omega
  · have sum := active_sum_save lots source (writeReversed (min source.remainingMicros amount) source) sound.grantIds member
    have enough := remaining_le_active_sum _ _ sound source member (by simp [isActive, sourceActive])
    rw [voided] at exceeds listed
    rw [sum, spendable_active source sourceActive] at exceeds
    have hit : grant = writeReversed (min source.remainingMicros amount) source source := by
      rcases mem_update_row CreditGrant.id source.id _ lots.grants grant listed with ⟨_, apart⟩ | ⟨row, rowMember, rowId, rfl⟩
      · exact absurd same apart
      · rw [List.inj_on_of_nodup_map sound.grantIds rowMember member rowId]
    by_cases emptied : source.remainingMicros - min source.remainingMicros amount = 0
    · rw [hit] at active
      simp [writeReversed, emptied] at active
    · have left : spendable (writeReversed (min source.remainingMicros amount) source source) =
          source.remainingMicros - min source.remainingMicros amount := by
        simp [spendable, isActive, writeReversed, emptied, sourceActive]
      rw [left] at exceeds
      omega

theorem clawback_claws (rows transaction : Nat) (lots : LotTables) (sound : LotsSound rows lots)
    (opened : OpenWhileHeld lots) (source : Option CreditGrant) (stored : ∀ lot, source = some lot → lot ∈ lots.grants)
    (amount balance : Int) (asked : 0 ≤ amount) (bound : activeSum lots ≤ max (balance + amount) 0) :
    ClawsBack source amount balance lots (clawback transaction balance amount source lots) := by
  have voidedSound := void_source_sound rows amount source lots sound stored
  refine ⟨_, source_voided rows lots sound opened source stored amount asked, ?_⟩
  rw [clawback]
  by_cases exceeds : 0 < activeSum (voidSource amount source lots) - max balance 0
  · rw [if_pos exceeds]
    have whole : besides source (voidSource amount source lots) = eligibleLots false (voidSource amount source lots) := by
      apply List.filter_eq_self.mpr
      intro grant inside
      cases source with
      | none => rfl
      | some lot =>
        have apart := cascade_passes_source rows lots sound opened lot (stored lot rfl) amount balance asked bound exceeds
        simpa using apart grant inside
    have consumes := allocate_consumes rows _ voidedSound transaction
      (activeSum (voidSource amount source lots) - max balance 0) false none .clawback (by simp)
    have total : ((eligibleLots false (voidSource amount source lots)).map CreditGrant.remainingMicros).sum =
        activeSum (voidSource amount source lots) := by
      simp [eligibleLots, activeSum]
    have consumed := consumes.exact
    rw [show drawableLots false none (voidSource amount source lots) =
      eligibleLots false (voidSource amount source lots) from rfl, total] at consumed
    have nonneg := active_sum_nonneg rows _ voidedSound
    have settled : max 0 (activeSum (voidSource amount source lots) - max balance 0) =
        (allocate transaction (activeSum (voidSource amount source lots) - max balance 0) false none .clawback
          (voidSource amount source lots)).2 := by
      rw [consumed]
      omega
    rw [whole, settled]
    exact consumes
  · rw [if_neg exceeds, show max 0 (activeSum (voidSource amount source lots) - max balance 0) = 0 by omega]
    exact consumes_nothing rows _ voidedSound _ _ (by omega)

theorem claw_back_landed (wallet : Wallet) (held : WalletOpen wallet) (now : Nat) (key : String) (amount : Int)
    (attemptId : Uuid) (txnType : TransactionType) (description : String) (asked : 0 ≤ amount) :
    ClawsBack (sourceGrantOf attemptId wallet.lots) amount
      (landed now key (clawBackMove amount attemptId txnType description) wallet wallet.lots).balanceMicros wallet.lots
      (landed now key (clawBackMove amount attemptId txnType description) wallet wallet.lots).lots := by
  have bound := held.sound.bound
  refine clawback_claws _ wallet.transactions.length wallet.lots held.sound.lots held.opened _
    (source_grant_stored attemptId wallet.lots) amount (wallet.balanceMicros + -amount) asked ?_
  omega

theorem stripe_refund_honest (cumulativeMicros : Int) (key chargeId : String) (attemptId : Uuid)
    (refundMicros : Option Int) :
    Honest (clawBackStripeRefundSpine cumulativeMicros key chargeId attemptId refundMicros) := by
  refine plain_spine_honest _ (fun _ => rfl) (fun _ _ => rfl) (fun _ => rfl) ?_
  intro wallet result answered
  simp only [clawBackStripeRefundSpine] at answered
  split at answered
  · cases answered
    simp [refused]
  · split at answered
    · cases answered
      simp
    · cases answered

def reversedBy (before : Wallet) : Op → Option (Int × Uuid)
  | .clawBackDispute amount _ _ attemptId => some (amount, attemptId)
  | .clawBackStripeRefund cumulative _ _ attemptId refundMicros =>
      some (refundIncrement refundMicros (cumulative - stripeRefundAppliedMicros attemptId before), attemptId)
  | _ => none

theorem claw_back_applied (wallet after : Wallet) (held : WalletOpen wallet) (call : Call) (positive : call.Positive)
    (result : OpResult) (done : perform call wallet = .ok (after, .result result)) (applied : result.outcome = .applied)
    (amount : Int) (attemptId : Uuid)
    (reversed : reversedBy (expireDue call.env none wallet).1 call.op = some (amount, attemptId)) :
    ClawsBack (sourceGrantOf attemptId (expireDue call.env none wallet).1.lots) amount after.balanceMicros
      (expireDue call.env none wallet).1.lots after.lots := by
  obtain ⟨op, env⟩ := call
  have expired : WalletOpen (expireDue env none wallet).1 :=
    ⟨expire_due_sound env none wallet held.sound, expire_due_open env none wallet held.sound held.opened⟩
  cases op with
  | clawBackDispute reversedMicros disputeId chargeId attempt =>
    cases reversed
    have asked : 0 < amount := positive
    have ran := perform_result ⟨.clawBackDispute amount disputeId chargeId attemptId, env⟩ wallet after _ result rfl done
    obtain ⟨honest, _⟩ := idempotent_spine_honest (.clawBackDispute amount disputeId chargeId attemptId) env _
      .clawBackDispute (disputeKey disputeId) rfl rfl
    obtain ⟨move, lots, _, prepared, minted, rfl⟩ := applied_lands _ env wallet after result honest ran applied
    cases prepared
    cases unminted_lots _ _ _ lots rfl minted
    exact claw_back_landed _ expired env.now _ amount attemptId _ _ (le_of_lt asked)
  | clawBackStripeRefund cumulative key chargeId attempt refundMicros =>
    cases reversed
    have ran := perform_result ⟨.clawBackStripeRefund cumulative key chargeId attemptId refundMicros, env⟩ wallet after _
      result rfl done
    obtain ⟨move, lots, _, prepared, minted, rfl⟩ := applied_lands _ env wallet after result
      (stripe_refund_honest cumulative key chargeId attemptId refundMicros) ran applied
    cases prepared_by (.clawBackStripeRefund cumulative key chargeId attemptId refundMicros) env _ _ move rfl prepared with
    | clawBackStripeRefund _ _ _ _ _ increments =>
      cases unminted_lots _ _ _ lots rfl minted
      exact claw_back_landed _ expired env.now _ _ attemptId _ _ (le_of_lt increments)
  | _ => cases reversed

theorem consumption_is_exact_and_ordered (calls : List Call) (positive : ∀ call ∈ calls, call.Positive) :
    (∀ (transaction : Nat) (amount : Int) (excludePromo : Bool) (preferGrant : Option CreditGrant)
        (allocationType : AllocationType),
      (∀ preferred, preferGrant = some preferred → preferred ∈ (walletAfter calls).lots.grants) →
      ConsumesInOrder (drawableLots excludePromo preferGrant (walletAfter calls).lots) preferGrant amount
        (walletAfter calls).lots
        (allocate transaction amount excludePromo preferGrant allocationType (walletAfter calls).lots).1
        (allocate transaction amount excludePromo preferGrant allocationType (walletAfter calls).lots).2) ∧
    (∀ (env : Env) (amount : Int) (key : String) (audit : Audit) (after : Wallet) (result : OpResult),
      perform ⟨.withdraw amount key audit, env⟩ (walletAfter calls) = .ok (after, .result result) →
      result.outcome = .applied → WithdrawsNoPromo (expireDue env none (walletAfter calls)).1 after) ∧
    ∀ (call : Call) (amount : Int) (attemptId : Uuid) (after : Wallet) (result : OpResult), call.Positive →
      reversedBy (expireDue call.env none (walletAfter calls)).1 call.op = some (amount, attemptId) →
      perform call (walletAfter calls) = .ok (after, .result result) → result.outcome = .applied →
      ClawsBack (sourceGrantOf attemptId (expireDue call.env none (walletAfter calls)).1.lots) amount
        after.balanceMicros (expireDue call.env none (walletAfter calls)).1.lots after.lots := by
  have held := wallet_after_open calls positive
  refine ⟨?_, ?_, ?_⟩
  · intro transaction amount excludePromo preferGrant allocationType stored
    exact allocate_consumes _ _ held.sound.lots transaction amount excludePromo preferGrant allocationType stored
  · intro env amount key audit after result done applied
    exact withdrawal_applied _ after held env amount key audit result done applied
  · intro call amount attemptId after result callPositive reversed done applied
    exact claw_back_applied _ after held call callPositive result done applied amount attemptId reversed

-- A promo lot and a paid one that expire together, and one that never expires:
-- 600 of usage empties the promo lot first.
def threeLots : List Call :=
  [⟨.mintGrant .paid 500 none "keeps" {}, sampleEnv 1 "lot-1"⟩,
    ⟨.mintGrant .paid 400 (some 90) "paid" {}, sampleEnv 2 "lot-2"⟩,
    ⟨.mintGrant .promo 300 (some 90) "promo" {}, sampleEnv 3 "lot-3"⟩]

theorem three_lots_consumed :
    ((allocate 3 600 false none .usage (walletAfter threeLots).lots).1.grants.map CreditGrant.remainingMicros) =
        [500, 100, 0] ∧
      ConsumesInOrder (drawableLots false none (walletAfter threeLots).lots) none 600 (walletAfter threeLots).lots
        (allocate 3 600 false none .usage (walletAfter threeLots).lots).1
        (allocate 3 600 false none .usage (walletAfter threeLots).lots).2 := by
  have positive : ∀ call ∈ threeLots, call.Positive := by simp [threeLots, Call.Positive]
  exact ⟨by decide +kernel, (consumption_is_exact_and_ordered threeLots positive).1 3 600 false none .usage (by simp)⟩

end Ubb.Wallets
