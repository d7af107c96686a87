import Ubb.Wallets.LotMoves

set_option autoImplicit false

namespace Ubb.Wallets

open Ubb.Library

def owing (grant : Uuid) (alloc : GrantAllocation) : Int :=
  if isOf grant alloc then alloc.amountMicros - alloc.refundedMicros else 0

theorem outstanding_eq (allocations : List GrantAllocation) (grant : Uuid) :
    outstanding allocations grant = (allocations.map (owing grant)).sum :=
  sum_filter_eq (isOf grant) (fun alloc => alloc.amountMicros - alloc.refundedMicros) allocations

theorem allocation_ids_unique (rows : Nat) (allocations : List GrantAllocation) (sound : AllocationsSound rows allocations) :
    (allocations.map GrantAllocation.id).Nodup := by
  rw [sound.ids]
  exact List.nodup_range

theorem refund_allocation_sound (rows : Nat) (allocations : List GrantAllocation) (alloc : GrantAllocation) (take : Int)
    (sound : AllocationsSound rows allocations) (member : alloc ∈ allocations) (positive : 0 < take)
    (bound : take ≤ alloc.amountMicros - alloc.refundedMicros) :
    AllocationsSound rows (updateRow GrantAllocation.id alloc.id (writeRefunded take alloc) allocations) := by
  refine ⟨?_, ?_, ?_, ?_⟩
  · rw [update_row_map GrantAllocation.id alloc.id (writeRefunded take alloc) allocations GrantAllocation.id (fun _ => rfl), sound.ids]
    simp [updateRow]
  · rw [update_row_map GrantAllocation.id alloc.id (writeRefunded take alloc) allocations
      (fun row => (row.walletTransaction, row.grant)) (fun _ => rfl)]
    exact sound.funded
  · intro found inside
    rcases mem_update_row GrantAllocation.id alloc.id _ allocations found inside with ⟨old, _⟩ | ⟨row, old, _, rfl⟩
    · exact sound.older found old
    · exact sound.older row old
  · intro found inside
    rcases mem_update_row GrantAllocation.id alloc.id _ allocations found inside with ⟨old, _⟩ | ⟨row, old, hit, rfl⟩
    · exact sound.refunded found old
    · have same : row = alloc := List.inj_on_of_nodup_map (allocation_ids_unique rows allocations sound) old member hit
      have before := sound.refunded alloc member
      simp only [same, writeRefunded]
      omega

theorem outstanding_refunded (rows : Nat) (allocations : List GrantAllocation) (alloc : GrantAllocation) (take : Int)
    (grant : Uuid) (sound : AllocationsSound rows allocations) (member : alloc ∈ allocations) :
    outstanding (updateRow GrantAllocation.id alloc.id (writeRefunded take alloc) allocations) grant =
      outstanding allocations grant - (if alloc.grant = grant then take else 0) := by
  rw [outstanding_eq, outstanding_eq, sum_update_row GrantAllocation.id alloc.id (writeRefunded take alloc) (owing grant)
    allocations alloc (allocation_ids_unique rows allocations sound) member rfl]
  by_cases same : alloc.grant = grant
  · simp only [owing, isOf, writeRefunded, same, decide_true, if_true]
    omega
  · simp [owing, isOf, writeRefunded, same]

def restoreLot (take : Int) (alloc : GrantAllocation) (grant : CreditGrant) (lots : LotTables) : LotTables :=
  (lots.saveGrant grant.id (writeRestored take grant)).saveAllocation alloc.id (writeRefunded take alloc)

-- One iteration of the refund: what goes back into the lot leaves the
-- allocation's outstanding share by the same amount.
theorem restore_lot_sound (rows : Nat) (take : Int) (alloc : GrantAllocation) (grant : CreditGrant) (lots : LotTables)
    (sound : LotsSound rows lots) (allocMember : alloc ∈ lots.allocations) (grantMember : grant ∈ lots.grants)
    (link : alloc.grant = grant.id) (live : grant.status = .active ∨ grant.status = .depleted) (positive : 0 < take)
    (owed : take ≤ alloc.amountMicros - alloc.refundedMicros)
    (room : take ≤ grant.grantedMicros - grant.remainingMicros) :
    LotsSound rows (restoreLot take alloc grant lots) ∧
      activeSum (restoreLot take alloc grant lots) = activeSum lots + take := by
  have lot := sound.lot grant grantMember
  have conserved := lot.conserved
  have nonneg := lot.nonneg
  constructor
  · refine rewrite_lot_sound rows lots grant (writeRestored take grant) _ sound grantMember (fun _ => rfl)
      (refund_allocation_sound rows lots.allocations alloc take sound.allocations allocMember positive owed) ?_ ?_ ?_
    · intro found inside
      rcases mem_update_row GrantAllocation.id alloc.id _ lots.allocations found inside with ⟨old, _⟩ | ⟨row, old, _, rfl⟩
      · exact sound.owned found old
      · exact sound.owned row old
    · intro other different
      have elsewhere : alloc.grant ≠ other := fun same => different (same.symm.trans link)
      have after := outstanding_refunded rows lots.allocations alloc take other sound.allocations allocMember
      rw [if_neg elsewhere, sub_zero] at after
      exact after
    · have after := outstanding_refunded rows lots.allocations alloc take grant.id sound.allocations allocMember
      rw [if_pos link] at after
      constructor
      · simp only [writeRestored, save_grant_allocations]
        rw [after]
        omega
      · simp only [writeRestored]
        omega
      · simp only [writeRestored]
        omega
      · intro flipped
        simp only [writeRestored] at flipped
        rcases live with active | empty
        · simp [active] at flipped
        · simp [empty] at flipped
  · have sum := active_sum_save lots grant (writeRestored take grant) sound.grantIds grantMember
    have unchanged : activeSum (restoreLot take alloc grant lots) = activeSum (lots.saveGrant grant.id (writeRestored take grant)) := rfl
    rw [unchanged, sum]
    rcases live with active | empty
    · have after : spendable (writeRestored take grant grant) = grant.remainingMicros + take := by
        simp [spendable, isActive, writeRestored, active]
      rw [after, spendable_active grant active]
      omega
    · have before : spendable grant = 0 := by simp [spendable, isActive, empty]
      have after : spendable (writeRestored take grant grant) = grant.remainingMicros + take := by
        simp [spendable, isActive, writeRestored, empty]
      rw [after, before, lot.depleted empty]
      omega

structure Joined (pairs : List (GrantAllocation × CreditGrant)) (lots : LotTables) : Prop where
  allocs : ∀ pair ∈ pairs, pair.1 ∈ lots.allocations
  grants : ∀ pair ∈ pairs, pair.2 ∈ lots.grants
  link : ∀ pair ∈ pairs, pair.1.grant = pair.2.id
  once : (pairs.map (fun pair => pair.2.id)).Nodup

theorem joined_tail (pair : GrantAllocation × CreditGrant) (rest : List (GrantAllocation × CreditGrant)) (lots : LotTables)
    (joined : Joined (pair :: rest) lots) : Joined rest lots :=
  ⟨fun other member => joined.allocs other (by simp [member]), fun other member => joined.grants other (by simp [member]),
    fun other member => joined.link other (by simp [member]), (List.nodup_cons.mp joined.once).2⟩

theorem joined_after_restore (rows : Nat) (take : Int) (alloc : GrantAllocation) (grant : CreditGrant)
    (rest : List (GrantAllocation × CreditGrant)) (lots : LotTables) (sound : LotsSound rows lots)
    (joined : Joined ((alloc, grant) :: rest) lots) : Joined rest (restoreLot take alloc grant lots) := by
  have tail := joined_tail (alloc, grant) rest lots joined
  have link := joined.link (alloc, grant) (by simp)
  have different : ∀ pair ∈ rest, pair.2.id ≠ grant.id := by
    intro pair member same
    exact (List.nodup_cons.mp joined.once).1 (List.mem_map.mpr ⟨pair, member, same⟩)
  refine ⟨?_, ?_, tail.link, tail.once⟩
  · intro pair member
    apply update_row_other GrantAllocation.id alloc.id _ _ pair.1 (tail.allocs pair member)
    intro sameId
    have sameRow : pair.1 = alloc := List.inj_on_of_nodup_map (allocation_ids_unique rows _ sound.allocations)
      (tail.allocs pair member) (joined.allocs (alloc, grant) (by simp)) sameId
    apply different pair member
    rw [← tail.link pair member, sameRow, link]
  · intro pair member
    exact update_row_other CreditGrant.id grant.id _ _ pair.2 (tail.grants pair member) (different pair member)

theorem refund_loop_sound (rows : Nat) (pairs : List (GrantAllocation × CreditGrant)) (headroom total : Int)
    (lots : LotTables) (sound : LotsSound rows lots) (joined : Joined pairs lots) :
    LotsSound rows (refundLoop pairs headroom total lots).1 ∧
      activeSum (refundLoop pairs headroom total lots).1 ≤ activeSum lots + max headroom 0 := by
  induction pairs generalizing headroom total lots with
  | nil => exact ⟨sound, by simp [refundLoop]⟩
  | cons pair rest ih =>
      obtain ⟨alloc, grant⟩ := pair
      have tail := joined_tail (alloc, grant) rest lots joined
      by_cases full : headroom ≤ 0
      · rw [refundLoop, if_pos full]
        exact ⟨sound, by simp⟩
      · rw [refundLoop, if_neg full]
        by_cases dead : grant.status ≠ .active ∧ grant.status ≠ .depleted
        · rw [if_pos dead]
          exact ih headroom total lots sound tail
        · rw [if_neg dead]
          have live : grant.status = .active ∨ grant.status = .depleted := by
            by_contra neither
            exact dead (not_or.mp neither)
          generalize takeEq : min (min (alloc.amountMicros - alloc.refundedMicros)
            (grant.grantedMicros - grant.remainingMicros)) headroom = take
          by_cases nothing : take ≤ 0
          · simp only [if_pos nothing]
            exact ih headroom total lots sound tail
          · simp only [if_neg nothing]
            obtain ⟨restored, sum⟩ := restore_lot_sound rows take alloc grant lots sound
              (joined.allocs (alloc, grant) (by simp)) (joined.grants (alloc, grant) (by simp))
              (joined.link (alloc, grant) (by simp)) live (by omega) (by omega) (by omega)
            obtain ⟨kept, bound⟩ := ih (headroom - take) (total + take) (restoreLot take alloc grant lots) restored
              (joined_after_restore rows take alloc grant rest lots sound joined)
            refine ⟨kept, le_trans bound ?_⟩
            rw [sum]
            omega

theorem usage_allocations_joined (rows transaction : Nat) (lots : LotTables) (sound : LotsSound rows lots) :
    Joined (usageAllocations transaction lots) lots := by
  have members : ∀ pair ∈ usageAllocations transaction lots,
      pair.1 ∈ lots.allocations ∧ pair.2 ∈ lots.grants ∧ pair.2.id = pair.1.grant := by
    intro pair member
    obtain ⟨alloc, inside, found⟩ := List.mem_filterMap.mp member
    obtain ⟨grant, lookup, rfl⟩ := Option.map_eq_some_iff.mp found
    exact ⟨(List.mem_filter.mp inside).1, find_key_some CreditGrant.id _ lots.grants grant lookup⟩
  refine ⟨fun pair member => (members pair member).1, fun pair member => (members pair member).2.1,
    fun pair member => (members pair member).2.2.symm, ?_⟩
  -- All these allocations fund one ledger row, so equal lots would repeat a pair.
  rw [List.Nodup, List.pairwise_map, usageAllocations, List.pairwise_filterMap]
  have funded := sound.allocations.funded
  rw [List.Nodup, List.pairwise_map] at funded
  apply (funded.sublist List.filter_sublist).imp_of_mem
  intro left right leftMember rightMember distinct leftPair leftFound rightPair rightFound same
  obtain ⟨leftGrant, leftLookup, rfl⟩ := Option.map_eq_some_iff.mp leftFound
  obtain ⟨rightGrant, rightLookup, rfl⟩ := Option.map_eq_some_iff.mp rightFound
  have leftId := (find_key_some CreditGrant.id left.grant lots.grants leftGrant leftLookup).2
  have rightId := (find_key_some CreditGrant.id right.grant lots.grants rightGrant rightLookup).2
  simp only [List.mem_filter, decide_eq_true_eq] at leftMember rightMember
  apply distinct
  rw [Prod.mk.injEq]
  exact ⟨leftMember.2.1.trans rightMember.2.1.symm, leftId.symm.trans (same.trans rightId)⟩

theorem refund_sound (rows : Nat) (original : Option WalletTransaction) (balance : Int) (lots : LotTables)
    (sound : LotsSound rows lots) (bound : activeSum lots ≤ max balance 0) :
    LotsSound rows (refund original balance lots).1 ∧ activeSum (refund original balance lots).1 ≤ max balance 0 := by
  cases original with
  | none => exact ⟨sound, bound⟩
  | some txn =>
      obtain ⟨kept, raised⟩ := refund_loop_sound rows (usageAllocations txn.id lots) (max balance 0 - activeSum lots) 0 lots
        sound (usage_allocations_joined rows txn.id lots sound)
      exact ⟨kept, by rw [refund]; omega⟩

end Ubb.Wallets
