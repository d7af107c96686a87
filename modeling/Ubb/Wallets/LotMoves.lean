import Ubb.Wallets.Consumption

set_option autoImplicit false

namespace Ubb.Wallets

open Ubb.Library

structure WalletSound (wallet : Wallet) : Prop where
  lots : LotsSound wallet.transactions.length wallet.lots
  bound : activeSum wallet.lots ≤ max wallet.balanceMicros 0

theorem expired_lot_sound (allocations : List GrantAllocation) (grant : CreditGrant) (sound : LotSound allocations grant) :
    LotSound allocations (writeExpired grant grant) := by
  have conserved := sound.conserved
  have nonneg := sound.nonneg
  have bounded := sound.bounded
  constructor
  · simp only [writeExpired]
    omega
  · simp [writeExpired]
  · simp only [writeExpired]
    omega
  · simp [writeExpired]

theorem voided_lot_sound (allocations : List GrantAllocation) (grant : CreditGrant) (sound : LotSound allocations grant) :
    LotSound allocations (writeVoided grant grant) := by
  have conserved := sound.conserved
  have nonneg := sound.nonneg
  have bounded := sound.bounded
  constructor
  · simp only [writeVoided]
    omega
  · simp [writeVoided]
  · simp only [writeVoided]
    omega
  · simp [writeVoided]

theorem reversed_lot_sound (allocations : List GrantAllocation) (grant : CreditGrant) (take : Int)
    (sound : LotSound allocations grant) (positive : 0 < take) (bound : take ≤ grant.remainingMicros)
    (active : grant.status = .active) : LotSound allocations (writeReversed take grant grant) := by
  have conserved := sound.conserved
  have bounded := sound.bounded
  constructor
  · simp only [writeReversed]
    omega
  · simp only [writeReversed]
    omega
  · simp only [writeReversed]
    omega
  · intro flipped
    simp only [writeReversed] at flipped
    split at flipped
    · cases flipped
    · rw [active] at flipped
      cases flipped

-- The balance backs every live lot whole, so the clamp of a debit never bites.
theorem remaining_le_balance (wallet : Wallet) (sound : WalletSound wallet) (grant : CreditGrant)
    (stored : grant ∈ wallet.lots.grants) (active : grant.status = .active) :
    grant.remainingMicros ≤ max wallet.balanceMicros 0 :=
  (remaining_le_active_sum _ _ sound.lots grant stored (by simp [isActive, active])).trans sound.bound

theorem whole_lot_backed (wallet : Wallet) (sound : WalletSound wallet) (grant : CreditGrant)
    (stored : grant ∈ wallet.lots.grants) (active : grant.status = .active) :
    min grant.remainingMicros (max wallet.balanceMicros 0) = grant.remainingMicros :=
  min_eq_left (remaining_le_balance wallet sound grant stored active)

-- One expired lot leaves the ledger with its remaining money, no more and no
-- less: the clamp of the debit never bites while the bound holds.
theorem expire_grant_sound (env : Env) (grant : CreditGrant) (wallet : Wallet) (sound : WalletSound wallet)
    (stored : grant ∈ wallet.lots.grants) (active : grant.status = .active) :
    WalletSound (expireGrant env grant wallet).1 := by
  have lot := sound.lots.lot grant stored
  have bound := sound.bound
  have unique := sound.lots.grantIds
  rcases expire_grant_cases env grant wallet with ⟨empty, flipped⟩ | ⟨_, _, skipped⟩ | ⟨positive, _, booked⟩
  · have nothing : grant.remainingMicros = 0 := le_antisymm empty lot.nonneg
    rw [flipped]
    constructor
    · apply save_lot_sound _ _ grant writeRetired sound.lots stored (fun _ => rfl)
      exact ⟨lot.conserved, lot.nonneg, lot.bounded, by simp [writeRetired]⟩
    · rw [active_sum_closed wallet.lots grant writeRetired unique stored active rfl, nothing, Int.sub_zero]
      exact bound
  · rw [skipped]
    exact sound
  · have whole : expiryDebit wallet grant = grant.remainingMicros := whole_lot_backed wallet sound grant stored active
    rw [booked]
    constructor
    · rw [expired_wallet_transactions, expired_wallet_lots]
      apply lots_sound_later wallet.transactions.length
      · exact save_lot_sound _ _ grant _ sound.lots stored (fun _ => rfl) (expired_lot_sound _ grant lot)
      · simp
    · rw [expired_wallet_lots, expired_wallet_balance, whole,
        active_sum_closed wallet.lots grant (writeExpired grant) unique stored active rfl]
      have enough := remaining_le_balance wallet sound grant stored active
      omega

theorem expire_grant_others (env : Env) (grant other : CreditGrant) (wallet : Wallet) (stored : other ∈ wallet.lots.grants)
    (different : other.id ≠ grant.id) : other ∈ (expireGrant env grant wallet).1.lots.grants := by
  rcases expire_grant_cases env grant wallet with ⟨_, flipped⟩ | ⟨_, _, skipped⟩ | ⟨_, _, booked⟩
  · rw [flipped]
    exact update_row_other CreditGrant.id grant.id _ _ other stored different
  · rw [skipped]
    exact stored
  · rw [booked]
    exact update_row_other CreditGrant.id grant.id _ _ other stored different

theorem expire_loop_sound (env : Env) (grants : List CreditGrant) (wallet : Wallet) (sound : WalletSound wallet)
    (stored : ∀ grant ∈ grants, grant ∈ wallet.lots.grants) (active : ∀ grant ∈ grants, grant.status = .active)
    (once : (grants.map CreditGrant.id).Nodup) : WalletSound (expireLoop env grants wallet).1 := by
  induction grants generalizing wallet with
  | nil => exact sound
  | cons grant rest ih =>
      have later := List.nodup_cons.mp once
      apply ih
      · exact expire_grant_sound env grant wallet sound (stored grant (by simp)) (active grant (by simp))
      · intro other member
        apply expire_grant_others env grant other wallet (stored other (by simp [member]))
        intro same
        exact later.1 (List.mem_map.mpr ⟨other, member, same⟩)
      · intro other member
        exact active other (by simp [member])
      · exact later.2

theorem due_grants_perm (now : Nat) (lots : LotTables) : (dueGrants now lots).Perm (lots.grants.filter (isDue now)) :=
  List.perm_insertionSort _ _

theorem due_grants_loaded (now : Nat) (wallet : Wallet) (sound : WalletSound wallet) :
    (∀ grant ∈ dueGrants now wallet.lots, grant ∈ wallet.lots.grants) ∧
      (∀ grant ∈ dueGrants now wallet.lots, grant.status = .active) ∧
      ((dueGrants now wallet.lots).map CreditGrant.id).Nodup := by
  have perm := due_grants_perm now wallet.lots
  have inside : ∀ grant ∈ dueGrants now wallet.lots, grant ∈ wallet.lots.grants ∧ isDue now grant = true :=
    fun grant member => List.mem_filter.mp (perm.mem_iff.mp member)
  refine ⟨fun grant member => (inside grant member).1, ?_, ?_⟩
  · intro grant member
    have due := (inside grant member).2
    simp only [isDue, isActive, Bool.and_eq_true, decide_eq_true_eq] at due
    exact due.1
  · rw [(perm.map CreditGrant.id).nodup_iff]
    exact sound.lots.grantIds.sublist (List.filter_sublist.map CreditGrant.id)

theorem expire_due_sound (env : Env) (now : Option Nat) (wallet : Wallet) (sound : WalletSound wallet) :
    WalletSound (expireDue env now wallet).1 := by
  obtain ⟨stored, active, once⟩ := due_grants_loaded (now.getD env.now) wallet sound
  exact expire_loop_sound env _ wallet sound stored active once

theorem void_source_sound (rows : Nat) (amount : Int) (source : Option CreditGrant) (lots : LotTables)
    (sound : LotsSound rows lots) (stored : ∀ grant, source = some grant → grant ∈ lots.grants) :
    LotsSound rows (voidSource amount source lots) := by
  cases source with
  | none => exact sound
  | some grant =>
      have member := stored grant rfl
      rw [voidSource]
      split
      · rename_i live
        by_cases positive : 0 < min grant.remainingMicros amount
        · simp only [if_pos positive]
          exact save_lot_sound rows lots grant _ sound member (fun _ => rfl)
            (reversed_lot_sound _ grant _ (sound.lot grant member) positive (min_le_left _ _) live.2)
        · simp only [if_neg positive]
          exact sound
      · exact sound

theorem void_source_allocations (amount : Int) (source : Option CreditGrant) (lots : LotTables) :
    (voidSource amount source lots).allocations = lots.allocations := by
  cases source with
  | none => rfl
  | some grant =>
      rw [voidSource]
      split
      · simp only
        split
        · rfl
        · rfl
      · rfl

-- The cascade measures what is left over the balance and consumes exactly that,
-- so the bound holds afterwards whatever the wallet looked like before.
theorem clawback_sound (rows transaction : Nat) (balance amount : Int) (source : Option CreditGrant) (lots : LotTables)
    (sound : LotsSound rows lots) (stored : ∀ grant, source = some grant → grant ∈ lots.grants)
    (early : transaction < rows) (fresh : ∀ alloc ∈ lots.allocations, alloc.walletTransaction ≠ transaction) :
    LotsSound rows (clawback transaction balance amount source lots) ∧
      activeSum (clawback transaction balance amount source lots) ≤ max balance 0 := by
  have voided := void_source_sound rows amount source lots sound stored
  have nonneg := active_sum_nonneg rows _ voided
  rw [clawback]
  by_cases exceeds : 0 < activeSum (voidSource amount source lots) - max balance 0
  · simp only [if_pos exceeds]
    obtain ⟨kept, sum⟩ := allocate_sound rows transaction _ false .clawback _ voided early
      (by rw [void_source_allocations]; exact fresh) exceeds
    refine ⟨kept, ?_⟩
    rw [sum]
    simp only [allocatable, Bool.false_eq_true, if_false]
    omega
  · simp only [if_neg exceeds]
    exact ⟨voided, by omega⟩

end Ubb.Wallets
