import Ubb.Wallets.Expiry

set_option autoImplicit false

namespace Ubb.Wallets

open Ubb.Library

def isOf (grant : Uuid) (alloc : GrantAllocation) : Bool := alloc.grant = grant

def outstanding (allocations : List GrantAllocation) (grant : Uuid) : Int :=
  ((allocations.filter (isOf grant)).map (fun alloc => alloc.amountMicros - alloc.refundedMicros)).sum

structure LotSound (allocations : List GrantAllocation) (grant : CreditGrant) : Prop where
  conserved : grant.grantedMicros =
    grant.remainingMicros + outstanding allocations grant.id + grant.expiredMicros + grant.voidedMicros
  nonneg : 0 ≤ grant.remainingMicros
  bounded : grant.remainingMicros ≤ grant.grantedMicros
  depleted : grant.status = .depleted → grant.remainingMicros = 0

-- A ledger row funds itself from one lot at most once. That is what keeps the
-- instances a refund loads distinct, and so never stale.
structure AllocationsSound (rows : Nat) (allocations : List GrantAllocation) : Prop where
  ids : allocations.map GrantAllocation.id = List.range allocations.length
  funded : (allocations.map (fun alloc => (alloc.walletTransaction, alloc.grant))).Nodup
  older : ∀ alloc ∈ allocations, alloc.walletTransaction < rows
  refunded : ∀ alloc ∈ allocations, 0 ≤ alloc.refundedMicros ∧ alloc.refundedMicros ≤ alloc.amountMicros

structure LotsSound (rows : Nat) (lots : LotTables) : Prop where
  allocations : AllocationsSound rows lots.allocations
  grantIds : (lots.grants.map CreditGrant.id).Nodup
  owned : ∀ alloc ∈ lots.allocations, alloc.grant ∈ lots.grants.map CreditGrant.id
  lot : ∀ grant ∈ lots.grants, LotSound lots.allocations grant

def spendable (grant : CreditGrant) : Int := if isActive grant then grant.remainingMicros else 0

theorem active_sum_eq (lots : LotTables) : activeSum lots = (lots.grants.map spendable).sum :=
  sum_filter_eq isActive CreditGrant.remainingMicros lots.grants

theorem spendable_nonneg (rows : Nat) (lots : LotTables) (sound : LotsSound rows lots) (grant : CreditGrant)
    (member : grant ∈ lots.grants) : 0 ≤ spendable grant := by
  rw [spendable]
  split
  · exact (sound.lot grant member).nonneg
  · exact le_refl 0

theorem active_sum_nonneg (rows : Nat) (lots : LotTables) (sound : LotsSound rows lots) : 0 ≤ activeSum lots := by
  rw [active_sum_eq]
  exact sum_nonneg_of spendable lots.grants (spendable_nonneg rows lots sound)

theorem remaining_le_active_sum (rows : Nat) (lots : LotTables) (sound : LotsSound rows lots) (grant : CreditGrant)
    (member : grant ∈ lots.grants) (active : isActive grant = true) : grant.remainingMicros ≤ activeSum lots := by
  have bound := single_le_sum spendable lots.grants (spendable_nonneg rows lots sound) grant member
  rw [active_sum_eq]
  simpa [spendable, active] using bound

theorem active_sum_save (lots : LotTables) (grant : CreditGrant) (write : CreditGrant → CreditGrant)
    (unique : (lots.grants.map CreditGrant.id).Nodup) (member : grant ∈ lots.grants) :
    activeSum (lots.saveGrant grant.id write) = activeSum lots - spendable grant + spendable (write grant) := by
  rw [active_sum_eq, active_sum_eq]
  exact sum_update_row CreditGrant.id grant.id write spendable lots.grants grant unique member rfl

theorem allocations_sound_later (rows later : Nat) (allocations : List GrantAllocation)
    (sound : AllocationsSound rows allocations) (bound : rows ≤ later) : AllocationsSound later allocations :=
  ⟨sound.ids, sound.funded, fun alloc member => lt_of_lt_of_le (sound.older alloc member) bound, sound.refunded⟩

theorem lots_sound_later (rows later : Nat) (lots : LotTables) (sound : LotsSound rows lots) (bound : rows ≤ later) :
    LotsSound later lots :=
  ⟨allocations_sound_later rows later lots.allocations sound.allocations bound, sound.grantIds, sound.owned, sound.lot⟩

-- The one way the lot tables change after a lot exists: a lot is rewritten and
-- the allocations that name it are adjusted with it. Other lots see neither.
theorem rewrite_lot_sound (rows : Nat) (lots : LotTables) (grant : CreditGrant) (write : CreditGrant → CreditGrant)
    (allocations : List GrantAllocation) (sound : LotsSound rows lots) (member : grant ∈ lots.grants)
    (keeps : ∀ row, (write row).id = row.id) (allocationsSound : AllocationsSound rows allocations)
    (owned : ∀ alloc ∈ allocations, alloc.grant ∈ lots.grants.map CreditGrant.id)
    (others : ∀ other, other ≠ grant.id → outstanding allocations other = outstanding lots.allocations other)
    (rewritten : LotSound allocations (write grant)) :
    LotsSound rows { (lots.saveGrant grant.id write) with allocations := allocations } := by
  have sameIds : (lots.saveGrant grant.id write).grants.map CreditGrant.id = lots.grants.map CreditGrant.id :=
    update_row_map CreditGrant.id grant.id write lots.grants CreditGrant.id keeps
  refine ⟨allocationsSound, ?_, ?_, ?_⟩
  · rw [sameIds]
    exact sound.grantIds
  · intro alloc inside
    rw [sameIds]
    exact owned alloc inside
  · intro found inside
    rcases mem_update_row CreditGrant.id grant.id write lots.grants found inside with
      ⟨old, different⟩ | ⟨row, rowMember, hit, rfl⟩
    · have before := sound.lot found old
      exact ⟨by rw [others found.id different]; exact before.conserved, before.nonneg, before.bounded, before.depleted⟩
    · have same : row = grant := List.inj_on_of_nodup_map sound.grantIds rowMember member hit
      rw [same]
      exact rewritten

theorem save_lot_sound (rows : Nat) (lots : LotTables) (grant : CreditGrant) (write : CreditGrant → CreditGrant)
    (sound : LotsSound rows lots) (member : grant ∈ lots.grants) (keeps : ∀ row, (write row).id = row.id)
    (rewritten : LotSound lots.allocations (write grant)) : LotsSound rows (lots.saveGrant grant.id write) :=
  rewrite_lot_sound rows lots grant write lots.allocations sound member keeps sound.allocations sound.owned
    (fun _ _ => rfl) rewritten

theorem outstanding_append (allocations more : List GrantAllocation) (grant : Uuid) :
    outstanding (allocations ++ more) grant = outstanding allocations grant + outstanding more grant := by
  simp [outstanding]

theorem outstanding_single (row : GrantAllocation) (grant : Uuid) :
    outstanding [row] grant = if row.grant = grant then row.amountMicros - row.refundedMicros else 0 := by
  by_cases same : row.grant = grant
  · simp [outstanding, isOf, same]
  · simp [outstanding, isOf, same]

theorem append_allocation_sound (rows : Nat) (allocations : List GrantAllocation) (row : GrantAllocation)
    (sound : AllocationsSound rows allocations) (position : row.id = allocations.length)
    (fresh : ∀ alloc ∈ allocations, ¬ (alloc.walletTransaction = row.walletTransaction ∧ alloc.grant = row.grant))
    (bound : row.walletTransaction < rows) (amount : 0 ≤ row.amountMicros) (unrefunded : row.refundedMicros = 0) :
    AllocationsSound rows (allocations ++ [row]) := by
  refine ⟨?_, ?_, ?_, ?_⟩
  · simp [sound.ids, position, List.range_succ]
  · apply nodup_add_row _ allocations row sound.funded
    intro alloc inside same
    exact fresh alloc inside (Prod.mk.inj same)
  · intro alloc member
    rcases List.mem_append.mp member with old | new
    · exact sound.older alloc old
    · rw [List.mem_singleton.mp new]
      exact bound
  · intro alloc member
    rcases List.mem_append.mp member with old | new
    · exact sound.refunded alloc old
    · rw [List.mem_singleton.mp new, unrefunded]
      exact ⟨le_refl 0, amount⟩

end Ubb.Wallets
