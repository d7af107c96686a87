import Ubb.Wallets.LotInvariants

set_option autoImplicit false

-- A lot is active exactly while it holds something.
namespace Ubb.Wallets

open Ubb.Library

def OpenWhileHeld (lots : LotTables) : Prop :=
  ∀ grant ∈ lots.grants, grant.status = .active ↔ 0 < grant.remainingMicros

theorem open_save (lots : LotTables) (grant : CreditGrant) (write : CreditGrant → CreditGrant) (opened : OpenWhileHeld lots)
    (unique : (lots.grants.map CreditGrant.id).Nodup) (member : grant ∈ lots.grants)
    (written : (write grant).status = .active ↔ 0 < (write grant).remainingMicros) :
    OpenWhileHeld (lots.saveGrant grant.id write) := by
  intro found inside
  rcases mem_update_row CreditGrant.id grant.id write lots.grants found inside with ⟨old, _⟩ | ⟨row, old, hit, rfl⟩
  · exact opened found old
  · have same : row = grant := List.inj_on_of_nodup_map unique old member hit
    rw [same]
    exact written

theorem expire_grant_open (env : Env) (grant : CreditGrant) (wallet : Wallet) (sound : WalletSound wallet)
    (opened : OpenWhileHeld wallet.lots) (stored : grant ∈ wallet.lots.grants) :
    OpenWhileHeld (expireGrant env grant wallet).1.lots := by
  rcases expire_grant_cases env grant wallet with ⟨empty, flipped⟩ | ⟨_, _, skipped⟩ | ⟨_, _, booked⟩
  · rw [flipped]
    exact open_save _ grant writeRetired opened sound.lots.grantIds stored (by simp [writeRetired, empty])
  · rw [skipped]
    exact opened
  · rw [booked, expired_wallet_lots]
    exact open_save _ grant _ opened sound.lots.grantIds stored (by simp [writeExpired])

theorem expire_loop_open (env : Env) (grants : List CreditGrant) (wallet : Wallet) (sound : WalletSound wallet)
    (opened : OpenWhileHeld wallet.lots) (stored : ∀ grant ∈ grants, grant ∈ wallet.lots.grants)
    (active : ∀ grant ∈ grants, grant.status = .active) (once : (grants.map CreditGrant.id).Nodup) :
    OpenWhileHeld (expireLoop env grants wallet).1.lots := by
  induction grants generalizing wallet with
  | nil => exact opened
  | cons grant rest ih =>
    obtain ⟨apart, restOnce⟩ := List.nodup_cons.mp once
    have here := stored grant (by simp)
    apply ih
    · exact expire_grant_sound env grant wallet sound here (active grant (by simp))
    · exact expire_grant_open env grant wallet sound opened here
    · intro other member
      apply expire_grant_others env grant other wallet (stored other (by simp [member]))
      intro same
      exact apart (List.mem_map.mpr ⟨other, member, same⟩)
    · exact fun other member => active other (by simp [member])
    · exact restOnce

theorem expire_due_open (env : Env) (now : Option Nat) (wallet : Wallet) (sound : WalletSound wallet)
    (opened : OpenWhileHeld wallet.lots) : OpenWhileHeld (expireDue env now wallet).1.lots := by
  obtain ⟨stored, active, once⟩ := due_grants_loaded (now.getD env.now) wallet sound
  exact expire_loop_open env _ wallet sound opened stored active once

theorem allocate_loop_open (transaction : Nat) (allocationType : AllocationType) (grants : List CreditGrant) (left : Int)
    (rows : List GrantAllocation) (lots : LotTables) (opened : OpenWhileHeld lots)
    (unique : (lots.grants.map CreditGrant.id).Nodup) (stored : ∀ grant ∈ grants, grant ∈ lots.grants)
    (active : ∀ grant ∈ grants, grant.status = .active) (once : (grants.map CreditGrant.id).Nodup) :
    OpenWhileHeld (allocateLoop transaction allocationType grants left rows lots).1 := by
  induction grants generalizing left rows lots with
  | nil => exact opened
  | cons grant rest ih =>
    obtain ⟨apart, restOnce⟩ := List.nodup_cons.mp once
    have restActive : ∀ other ∈ rest, other.status = .active := fun other member => active other (by simp [member])
    have restStored : ∀ other ∈ rest, other ∈ lots.grants := fun other member => stored other (by simp [member])
    rw [allocateLoop]
    split
    · exact opened
    · dsimp only
      split
      · exact ih left rows lots opened unique restStored restActive restOnce
      · refine ih _ _ _ ?_ ?_ ?_ restActive restOnce
        · apply open_save lots grant _ opened unique (stored grant (by simp))
          have atMost := min_le_left grant.remainingMicros left
          simp only [writeConsumed, active grant (by simp), and_true]
          split
          · simp [*]
          · simp only [true_iff]
            omega
        · have ids := update_row_map CreditGrant.id grant.id
            (writeConsumed (min grant.remainingMicros left) grant) lots.grants CreditGrant.id (fun _ => rfl)
          show (List.map CreditGrant.id (lots.saveGrant grant.id _).grants).Nodup
          unfold LotTables.saveGrant
          rw [ids]
          exact unique
        · intro other member
          apply update_row_other CreditGrant.id grant.id _ lots.grants other (restStored other member)
          intro same
          exact apart (List.mem_map.mpr ⟨other, member, same⟩)

theorem allocate_open (rows transaction : Nat) (amount : Int) (excludePromo : Bool) (allocationType : AllocationType)
    (lots : LotTables) (sound : LotsSound rows lots) (opened : OpenWhileHeld lots)
    (fresh : ∀ alloc ∈ lots.allocations, alloc.walletTransaction ≠ transaction) :
    OpenWhileHeld (allocate transaction amount excludePromo none allocationType lots).1 := by
  have loaded := candidates_loaded rows transaction excludePromo lots sound fresh
  rw [allocate]
  split
  · exact opened
  · exact allocate_loop_open transaction allocationType _ amount [] lots opened sound.grantIds loaded.stored
      loaded.active loaded.once

theorem create_grant_open (env : Env) (txn : WalletTransaction) (kind : GrantKind) (amount : Int)
    (expiresAt : Option Nat) (source : GrantSource) (sourceReference : String) (lots after : LotTables) (grant : CreditGrant)
    (opened : OpenWhileHeld lots) (positive : 0 < amount) (made : createGrant env txn kind amount expiresAt source sourceReference lots =
      some (after, grant)) : OpenWhileHeld after := by
  rw [createGrant] at made
  split at made
  · cases made
  · dsimp only at made
    split at made
    · cases made
      intro found member
      rcases List.mem_append.mp member with old | new
      · exact opened found old
      · rw [List.mem_singleton] at new
        subst new
        dsimp only
        by_cases emptied : amount - min amount (-(txn.balanceAfterMicros - txn.amountMicros)) = 0
        · simp only [if_pos emptied]
          simp only [reduceCtorEq, false_iff]
          omega
        · simp only [if_neg emptied, true_iff]
          omega
    · cases made
      intro found member
      rcases List.mem_append.mp member with old | new
      · exact opened found old
      · rw [List.mem_singleton] at new
        subst new
        exact ⟨fun _ => positive, fun _ => rfl⟩

theorem void_source_open (amount : Int) (source : Option CreditGrant) (lots : LotTables) (opened : OpenWhileHeld lots)
    (unique : (lots.grants.map CreditGrant.id).Nodup) (stored : ∀ grant, source = some grant → grant ∈ lots.grants) :
    OpenWhileHeld (voidSource amount source lots) := by
  cases source with
  | none => exact opened
  | some grant =>
    rw [voidSource]
    split
    · rename_i live
      dsimp only
      split
      · apply open_save lots grant _ opened unique (stored grant rfl)
        have atMost := min_le_left grant.remainingMicros amount
        simp only [writeReversed, live.2]
        split
        · simp [*]
        · simp only [true_iff]
          omega
      · exact opened
    · exact opened

theorem refund_loop_open (rows : Nat) (pairs : List (GrantAllocation × CreditGrant)) (headroom total : Int)
    (lots : LotTables) (sound : LotsSound rows lots) (joined : Joined pairs lots) (opened : OpenWhileHeld lots) :
    OpenWhileHeld (refundLoop pairs headroom total lots).1 := by
  induction pairs generalizing headroom total lots with
  | nil => exact opened
  | cons pair rest ih =>
    obtain ⟨alloc, grant⟩ := pair
    have tail := joined_tail (alloc, grant) rest lots joined
    have member := joined.grants (alloc, grant) (by simp)
    rw [refundLoop]
    split
    · exact opened
    · split
      · exact ih headroom total lots sound tail opened
      · rename_i dead
        have live : grant.status = .active ∨ grant.status = .depleted := by
          by_contra neither
          exact dead (not_or.mp neither)
        generalize takeEq : min (min (alloc.amountMicros - alloc.refundedMicros)
          (grant.grantedMicros - grant.remainingMicros)) headroom = take
        by_cases nothing : take ≤ 0
        · simp only [if_pos nothing]
          exact ih headroom total lots sound tail opened
        · simp only [if_neg nothing]
          obtain ⟨restored, _⟩ := restore_lot_sound rows take alloc grant lots sound
            (joined.allocs (alloc, grant) (by simp)) member (joined.link (alloc, grant) (by simp)) live
            (by omega) (by omega) (by omega)
          refine ih _ _ _ restored (joined_after_restore rows take alloc grant rest lots sound joined) ?_
          apply open_save lots grant _ opened sound.grantIds member
          have nonneg := (sound.lot grant member).nonneg
          have reopened : (writeRestored take grant grant).status = .active := by
            rcases live with active | empty
            · simp [writeRestored, active]
            · simp [writeRestored, empty]
          refine ⟨fun _ => ?_, fun _ => reopened⟩
          simp only [writeRestored]
          omega

theorem refund_open (rows : Nat) (original : Option WalletTransaction) (balance : Int) (lots : LotTables)
    (sound : LotsSound rows lots) (opened : OpenWhileHeld lots) : OpenWhileHeld (refund original balance lots).1 := by
  cases original with
  | none => exact opened
  | some txn => exact refund_loop_open rows _ _ _ lots sound (usage_allocations_joined rows txn.id lots sound) opened

theorem clawback_open (rows transaction : Nat) (balance amount : Int) (attemptId : Uuid) (lots : LotTables)
    (sound : LotsSound rows lots) (opened : OpenWhileHeld lots)
    (fresh : ∀ alloc ∈ lots.allocations, alloc.walletTransaction ≠ transaction) :
    OpenWhileHeld (clawback transaction balance amount (sourceGrantOf attemptId lots) lots) := by
  have stored := source_grant_stored attemptId lots
  have voided := void_source_sound rows amount _ lots sound stored
  have voidedOpened := void_source_open amount _ lots opened sound.grantIds stored
  rw [clawback]
  split
  · exact allocate_open rows transaction _ false .clawback _ voided voidedOpened
      (by rw [void_source_allocations]; exact fresh)
  · exact voidedOpened

structure WalletOpen (wallet : Wallet) : Prop where
  sound : WalletSound wallet
  opened : OpenWhileHeld wallet.lots

theorem landed_open (call : Call) (wallet : Wallet) (spine : Spine) (move : Move) (lots : LotTables)
    (positive : call.Positive) (held : WalletOpen wallet) (isSpine : call.op.spine call.env = some spine)
    (prepared : spine.prepare wallet = .move move) (minted : Minted spine.key move wallet lots) :
    OpenWhileHeld (landed call.env.now spine.key move wallet lots).lots := by
  obtain ⟨op, env⟩ := call
  have settling := settling_unminted wallet held.sound
  rw [landed_lots]
  cases prepared_by op env spine wallet move isSpine prepared with
  | debit amount key allowNegative audit =>
    cases unminted_lots spine.key _ wallet lots rfl minted
    exact allocate_open _ _ amount false .usage wallet.lots settling.sound held.opened settling.fresh
  | credit amount key audit =>
    cases unminted_lots spine.key _ wallet lots rfl minted
    exact held.opened
  | withdraw amount key audit funded =>
    cases unminted_lots spine.key _ wallet lots rfl minted
    exact allocate_open _ _ amount true .withdrawal wallet.lots settling.sound held.opened settling.fresh
  | refundUsage usageEventId key reason cost priced =>
    cases unminted_lots spine.key _ wallet lots rfl minted
    exact refund_open _ _ _ wallet.lots settling.sound held.opened
  | mintGrant kind amount expiresAt key audit =>
    rcases minted with ⟨noMint, _⟩ | ⟨mint, grant, isMint, made⟩
    · cases noMint
    · cases isMint
      exact create_grant_open env _ kind amount expiresAt .api key wallet.lots lots grant held.opened positive made
  | voidGrant grantId grant found active =>
    cases unminted_lots spine.key _ wallet lots rfl minted
    exact open_save wallet.lots grant _ held.opened held.sound.lots.grantIds (List.mem_of_find?_eq_some found)
      (by simp [writeVoided])
  | drawDownUsage usageEventId cost repair =>
    cases unminted_lots spine.key _ wallet lots rfl minted
    exact allocate_open _ _ cost false .usage wallet.lots settling.sound held.opened settling.fresh
  | creditTopUp amount key source sourceReference description referenceId =>
    rcases minted with ⟨noMint, _⟩ | ⟨mint, grant, isMint, made⟩
    · cases noMint
    · cases isMint
      exact create_grant_open env _ .paid amount _ source sourceReference wallet.lots lots grant held.opened positive made
  | clawBackDispute amount disputeId chargeId attemptId =>
    cases unminted_lots spine.key _ wallet lots rfl minted
    exact clawback_open _ _ _ amount attemptId wallet.lots settling.sound held.opened settling.fresh
  | clawBackStripeRefund cumulative key chargeId attemptId refundMicros _ =>
    cases unminted_lots spine.key _ wallet lots rfl minted
    exact clawback_open _ _ _ _ attemptId wallet.lots settling.sound held.opened settling.fresh

theorem landed_held (call : Call) (wallet : Wallet) (spine : Spine) (move : Move) (lots : LotTables)
    (positive : call.Positive) (held : WalletOpen wallet) (isSpine : call.op.spine call.env = some spine)
    (prepared : spine.prepare wallet = .move move) (minted : Minted spine.key move wallet lots) :
    WalletOpen (landed call.env.now spine.key move wallet lots) :=
  ⟨landed_wallet_sound call wallet spine move lots positive held.sound isSpine prepared minted,
    landed_open call wallet spine move lots positive held isSpine prepared minted⟩

theorem step_open (wallet : Wallet) (call : Call) (held : WalletOpen wallet) (positive : call.Positive) :
    WalletOpen (step wallet call) := by
  refine step_keeps WalletOpen Call.Positive ?_ ?_ wallet call held positive
  · intro env now wallet held
    exact ⟨expire_due_sound env now wallet held.sound, expire_due_open env now wallet held.sound held.opened⟩
  · intro call wallet spine move lots positive held isSpine free prepared minted
    exact landed_held call wallet spine move lots positive held isSpine prepared minted

theorem wallet_after_open (calls : List Call) (positive : ∀ call ∈ calls, call.Positive) :
    WalletOpen (walletAfter calls) :=
  run_invariant step WalletOpen Call.Positive step_open emptyWallet calls ⟨empty_wallet_sound, by simp [OpenWhileHeld, emptyWallet]⟩
    positive

end Ubb.Wallets
