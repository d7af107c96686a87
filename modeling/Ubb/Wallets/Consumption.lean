import Ubb.Wallets.Lots

set_option autoImplicit false

namespace Ubb.Wallets

open Ubb.Library

def pending (lots : LotTables) (rows : List GrantAllocation) : LotTables :=
  { lots with allocations := lots.allocations ++ rows }

theorem spendable_active (grant : CreditGrant) (active : grant.status = .active) : spendable grant = grant.remainingMicros := by
  simp [spendable, isActive, active]

-- A lot closed by its write takes its remaining money out of the sum.
theorem active_sum_closed (lots : LotTables) (grant : CreditGrant) (write : CreditGrant → CreditGrant)
    (unique : (lots.grants.map CreditGrant.id).Nodup) (member : grant ∈ lots.grants) (active : grant.status = .active)
    (closed : isActive (write grant) = false) :
    activeSum (lots.saveGrant grant.id write) = activeSum lots - grant.remainingMicros := by
  have nothing : spendable (write grant) = 0 := by simp [spendable, closed]
  rw [active_sum_save lots grant write unique member, spendable_active grant active, nothing, Int.add_zero]

theorem spendable_consumed (grant : CreditGrant) (take : Int) (active : grant.status = .active) :
    spendable (writeConsumed take grant grant) = grant.remainingMicros - take := by
  by_cases emptied : grant.remainingMicros - take = 0
  · simp [spendable, isActive, writeConsumed, active, emptied]
  · simp [spendable, isActive, writeConsumed, active, emptied]

theorem consume_lot_sound (rows transaction : Nat) (allocationType : AllocationType) (grant : CreditGrant) (take : Int)
    (waiting : List GrantAllocation) (lots : LotTables) (sound : LotsSound rows (pending lots waiting))
    (member : grant ∈ lots.grants) (positive : 0 < take) (bound : take ≤ grant.remainingMicros)
    (active : grant.status = .active) (early : transaction < rows)
    (fresh : ∀ alloc ∈ lots.allocations ++ waiting, ¬ (alloc.walletTransaction = transaction ∧ alloc.grant = grant.id)) :
    LotsSound rows (pending (lots.saveGrant grant.id (writeConsumed take grant))
      (waiting ++ [⟨lots.allocations.length + waiting.length, grant.id, transaction, take, 0, allocationType⟩])) := by
  have old := sound.lot grant member
  have appended := append_allocation_sound rows (lots.allocations ++ waiting)
    ⟨lots.allocations.length + waiting.length, grant.id, transaction, take, 0, allocationType⟩
    sound.allocations (by simp) fresh early (by simp; omega) rfl
  rw [List.append_assoc] at appended
  refine rewrite_lot_sound rows (pending lots waiting) grant (writeConsumed take grant) _ sound member
    (fun _ => rfl) appended ?_ ?_ ?_
  · intro alloc inside
    rw [← List.append_assoc] at inside
    rcases List.mem_append.mp inside with earlier | new
    · exact sound.owned alloc earlier
    · rw [List.mem_singleton.mp new]
      exact List.mem_map.mpr ⟨grant, member, rfl⟩
  · intro other different
    rw [← List.append_assoc, outstanding_append, outstanding_single, if_neg (Ne.symm different)]
    simp [pending]
  · have conserved := old.conserved
    have nonneg := old.nonneg
    have bounded := old.bounded
    constructor
    · rw [save_grant_allocations, ← List.append_assoc, outstanding_append, outstanding_single]
      simp only [writeConsumed, if_true, sub_zero]
      simp only [pending] at conserved
      omega
    · simp only [writeConsumed]
      omega
    · simp only [writeConsumed]
      omega
    · intro flipped
      simp only [writeConsumed, active, and_true] at flipped ⊢
      by_contra kept
      simp [kept] at flipped

theorem active_sum_consumed (lots : LotTables) (grant : CreditGrant) (take : Int)
    (unique : (lots.grants.map CreditGrant.id).Nodup) (member : grant ∈ lots.grants) (active : grant.status = .active) :
    activeSum (lots.saveGrant grant.id (writeConsumed take grant)) = activeSum lots - take := by
  rw [active_sum_save lots grant (writeConsumed take grant) unique member, spendable_active grant active,
    spendable_consumed grant take active]
  omega

structure Loaded (transaction : Nat) (grants : List CreditGrant) (waiting : List GrantAllocation) (lots : LotTables) : Prop where
  stored : ∀ grant ∈ grants, grant ∈ lots.grants
  active : ∀ grant ∈ grants, grant.status = .active
  once : (grants.map CreditGrant.id).Nodup
  fresh : ∀ grant ∈ grants, ∀ alloc ∈ lots.allocations ++ waiting,
    ¬ (alloc.walletTransaction = transaction ∧ alloc.grant = grant.id)

theorem loaded_tail (transaction : Nat) (grant : CreditGrant) (rest : List CreditGrant) (waiting : List GrantAllocation)
    (lots : LotTables) (loaded : Loaded transaction (grant :: rest) waiting lots) : Loaded transaction rest waiting lots :=
  ⟨fun other member => loaded.stored other (List.mem_cons_of_mem grant member),
    fun other member => loaded.active other (List.mem_cons_of_mem grant member),
    (List.nodup_cons.mp loaded.once).2,
    fun other member => loaded.fresh other (List.mem_cons_of_mem grant member)⟩

theorem loaded_after_consume (transaction : Nat) (allocationType : AllocationType) (grant : CreditGrant) (take : Int)
    (rest : List CreditGrant) (waiting : List GrantAllocation) (lots : LotTables)
    (loaded : Loaded transaction (grant :: rest) waiting lots) :
    Loaded transaction rest
      (waiting ++ [⟨lots.allocations.length + waiting.length, grant.id, transaction, take, 0, allocationType⟩])
      (lots.saveGrant grant.id (writeConsumed take grant)) := by
  have tail := loaded_tail transaction grant rest waiting lots loaded
  have different : ∀ other ∈ rest, other.id ≠ grant.id := by
    intro other member same
    exact (List.nodup_cons.mp loaded.once).1 (List.mem_map.mpr ⟨other, member, same⟩)
  refine ⟨?_, tail.active, tail.once, ?_⟩
  · intro other member
    exact update_row_other CreditGrant.id grant.id _ lots.grants other (tail.stored other member) (different other member)
  · intro other member alloc inside
    rw [← List.append_assoc] at inside
    rcases List.mem_append.mp inside with earlier | new
    · exact tail.fresh other member alloc earlier
    · rw [List.mem_singleton.mp new]
      intro same
      exact different other member same.2.symm

theorem allocate_loop_sound (rows transaction : Nat) (allocationType : AllocationType) (early : transaction < rows)
    (grants : List CreditGrant) (left : Int) (waiting : List GrantAllocation) (lots : LotTables) (nonneg : 0 ≤ left)
    (sound : LotsSound rows (pending lots waiting)) (loaded : Loaded transaction grants waiting lots)
    (done : LotTables × Int × List GrantAllocation)
    (doneEq : allocateLoop transaction allocationType grants left waiting lots = done) :
    LotsSound rows (pending done.1 done.2.2) ∧
      done.2.1 = max (left - (grants.map CreditGrant.remainingMicros).sum) 0 ∧
      activeSum done.1 = activeSum lots - (left - done.2.1) := by
  induction grants generalizing left waiting lots with
  | nil =>
      subst doneEq
      refine ⟨sound, ?_, by simp [allocateLoop]⟩
      simp [allocateLoop, max_eq_left nonneg]
  | cons grant rest ih =>
      have stored := loaded.stored grant (by simp)
      have active := loaded.active grant (by simp)
      have lotNonneg : 0 ≤ grant.remainingMicros := (sound.lot grant stored).nonneg
      have restNonneg : 0 ≤ (rest.map CreditGrant.remainingMicros).sum := by
        apply sum_nonneg_of
        intro other member
        exact (sound.lot other (loaded.stored other (List.mem_cons_of_mem grant member))).nonneg
      by_cases spent : left ≤ 0
      · rw [allocateLoop, if_pos spent] at doneEq
        subst doneEq
        refine ⟨sound, ?_, by simp⟩
        simp only [List.map_cons, List.sum_cons]
        omega
      · by_cases empty : min grant.remainingMicros left ≤ 0
        · rw [allocateLoop, if_neg spent] at doneEq
          simp only [if_pos empty] at doneEq
          have result := ih left waiting lots nonneg sound (loaded_tail transaction grant rest waiting lots loaded) doneEq
          refine ⟨result.1, ?_, result.2.2⟩
          rw [result.2.1]
          simp only [List.map_cons, List.sum_cons]
          omega
        · rw [allocateLoop, if_neg spent] at doneEq
          simp only [if_neg empty] at doneEq
          have taken := consume_lot_sound rows transaction allocationType grant (min grant.remainingMicros left) waiting lots
            sound stored (by omega) (min_le_left _ _) active early (loaded.fresh grant (by simp))
          have sum := active_sum_consumed lots grant (min grant.remainingMicros left) sound.grantIds stored active
          have result := ih (left - min grant.remainingMicros left) _ _ (by omega) taken
            (loaded_after_consume transaction allocationType grant _ rest waiting lots loaded) doneEq
          refine ⟨result.1, ?_, ?_⟩
          · rw [result.2.1]
            simp only [List.map_cons, List.sum_cons]
            omega
          · rw [result.2.2, sum]
            omega

theorem active_grants_perm (lots : LotTables) : (activeGrants lots).Perm (lots.grants.filter isActive) :=
  List.perm_insertionSort _ _

theorem candidates_perm (excludePromo : Bool) (lots : LotTables) :
    (allocationCandidates excludePromo none lots).Perm
      ((lots.grants.filter isActive).filter (fun grant => !excludePromo || grant.kind ≠ .promo)) := by
  cases excludePromo with
  | false => simpa [allocationCandidates] using active_grants_perm lots
  | true => simpa [allocationCandidates] using (active_grants_perm lots).filter (fun grant => grant.kind ≠ .promo)

theorem candidates_loaded (rows transaction : Nat) (excludePromo : Bool) (lots : LotTables) (sound : LotsSound rows lots)
    (fresh : ∀ alloc ∈ lots.allocations, alloc.walletTransaction ≠ transaction) :
    Loaded transaction (allocationCandidates excludePromo none lots) [] lots := by
  have perm := candidates_perm excludePromo lots
  have inside : ∀ grant ∈ allocationCandidates excludePromo none lots, grant ∈ lots.grants ∧ isActive grant = true := by
    intro grant member
    exact List.mem_filter.mp (List.mem_filter.mp (perm.mem_iff.mp member)).1
  refine ⟨fun grant member => (inside grant member).1, ?_, ?_, ?_⟩
  · intro grant member
    simpa [isActive] using (inside grant member).2
  · rw [(perm.map CreditGrant.id).nodup_iff]
    exact sound.grantIds.sublist ((List.filter_sublist.trans List.filter_sublist).map CreditGrant.id)
  · intro grant _ alloc member same
    exact fresh alloc (by simpa using member) same.1

def allocatable (excludePromo : Bool) (lots : LotTables) : Int :=
  if excludePromo then activeSum lots - promoRemaining lots else activeSum lots

theorem candidates_total (excludePromo : Bool) (lots : LotTables) :
    ((allocationCandidates excludePromo none lots).map CreditGrant.remainingMicros).sum = allocatable excludePromo lots := by
  rw [((candidates_perm excludePromo lots).map CreditGrant.remainingMicros).sum_eq]
  cases excludePromo with
  | false => simp [allocatable, activeSum]
  | true =>
      simp only [allocatable, if_true, activeSum, promoRemaining, List.filter_filter, sum_filter_eq]
      induction lots.grants with
      | nil => simp
      | cons grant rest ih =>
          simp only [List.map_cons, List.sum_cons]
          rw [ih]
          by_cases active : isActive grant = true
          · by_cases promo : grant.kind = .promo
            · simp [active, promo]
            · simp [active, promo]
              omega
          · simp [active]

theorem allocate_sound (rows transaction : Nat) (amount : Int) (excludePromo : Bool) (allocationType : AllocationType)
    (lots : LotTables) (sound : LotsSound rows lots) (early : transaction < rows)
    (fresh : ∀ alloc ∈ lots.allocations, alloc.walletTransaction ≠ transaction) (positive : 0 < amount) :
    LotsSound rows (allocate transaction amount excludePromo none allocationType lots).1 ∧
      activeSum (allocate transaction amount excludePromo none allocationType lots).1 =
        activeSum lots - (amount - max (amount - allocatable excludePromo lots) 0) := by
  have start : LotsSound rows (pending lots []) := by
    rw [show pending lots [] = lots by simp [pending]]
    exact sound
  obtain ⟨finished, left, spent⟩ := allocate_loop_sound rows transaction allocationType early
    (allocationCandidates excludePromo none lots) amount [] lots (by omega) start
    (candidates_loaded rows transaction excludePromo lots sound fresh) _ rfl
  rw [candidates_total] at left
  rw [left] at spent
  rw [allocate, if_neg (by omega)]
  exact ⟨finished, spent⟩

end Ubb.Wallets
