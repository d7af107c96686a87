import Ubb.Wallets.Restoration

set_option autoImplicit false

namespace Ubb.Wallets

open Ubb.Library

theorem outstanding_unowned (allocations : List GrantAllocation) (grant : Uuid)
    (unowned : ∀ alloc ∈ allocations, alloc.grant ≠ grant) : outstanding allocations grant = 0 := by
  have nothing : allocations.filter (isOf grant) = [] := by
    rw [List.filter_eq_nil_iff]
    intro alloc member
    simpa [isOf] using unowned alloc member
  simp [outstanding, nothing]

theorem unallocated_fresh (rows : Nat) (lots : LotTables) (grant : Uuid) (sound : LotsSound rows lots)
    (fresh : grant ∉ lots.grants.map CreditGrant.id) : outstanding lots.allocations grant = 0 := by
  apply outstanding_unowned
  intro alloc member same
  exact fresh (same ▸ sound.owned alloc member)

theorem add_lot_sound (rows : Nat) (lots : LotTables) (grant : CreditGrant) (allocations : List GrantAllocation)
    (sound : LotsSound rows lots) (fresh : grant.id ∉ lots.grants.map CreditGrant.id)
    (allocationsSound : AllocationsSound rows allocations)
    (owned : ∀ alloc ∈ allocations, alloc.grant ∈ lots.grants.map CreditGrant.id ∨ alloc.grant = grant.id)
    (others : ∀ other, other ≠ grant.id → outstanding allocations other = outstanding lots.allocations other)
    (born : LotSound allocations grant) : LotsSound rows ⟨lots.grants ++ [grant], allocations⟩ := by
  refine ⟨allocationsSound, ?_, ?_, ?_⟩
  · apply nodup_add_row CreditGrant.id lots.grants grant sound.grantIds
    intro other member same
    exact fresh (List.mem_map.mpr ⟨other, member, same⟩)
  · intro alloc member
    rw [List.map_append, List.mem_append]
    rcases owned alloc member with old | new
    · exact .inl old
    · exact .inr (by simp [new])
  · intro found member
    rcases List.mem_append.mp member with old | new
    · have before := sound.lot found old
      have different : found.id ≠ grant.id := fun same => fresh (same ▸ List.mem_map.mpr ⟨found, old, rfl⟩)
      exact ⟨by rw [others found.id different]; exact before.conserved, before.nonneg, before.bounded, before.depleted⟩
    · rw [List.mem_singleton.mp new]
      exact born

theorem active_sum_add (lots : LotTables) (grant : CreditGrant) (allocations : List GrantAllocation) :
    activeSum ⟨lots.grants ++ [grant], allocations⟩ = activeSum lots + spendable grant := by
  rw [active_sum_eq, active_sum_eq]
  simp

theorem recouped_lot_sound (rows : Nat) (lots : LotTables) (grant : CreditGrant) (recoup : Int) (sound : LotsSound rows lots)
    (fresh : grant.id ∉ lots.grants.map CreditGrant.id) (positive : 0 < recoup)
    (born : grant.grantedMicros = grant.remainingMicros + recoup + grant.expiredMicros + grant.voidedMicros)
    (nonneg : 0 ≤ grant.remainingMicros) (bounded : grant.remainingMicros ≤ grant.grantedMicros)
    (depleted : grant.status = .depleted → grant.remainingMicros = 0) :
    LotsSound (rows + 1) ⟨lots.grants ++ [grant],
      lots.allocations ++ [⟨lots.allocations.length, grant.id, rows, recoup, 0, .overageRecoup⟩]⟩ := by
  have later := lots_sound_later rows (rows + 1) lots sound (by omega)
  have unfunded : ∀ alloc ∈ lots.allocations, ¬ (alloc.walletTransaction = rows ∧ alloc.grant = grant.id) :=
    fun alloc member same => fresh (same.2 ▸ sound.owned alloc member)
  have appended := append_allocation_sound (rows + 1) lots.allocations
    ⟨lots.allocations.length, grant.id, rows, recoup, 0, .overageRecoup⟩ later.allocations rfl unfunded
    (by simp) (by simp; omega) rfl
  refine add_lot_sound (rows + 1) lots grant _ later fresh appended ?_ ?_ ?_
  · intro alloc member
    rcases List.mem_append.mp member with old | new
    · exact .inl (sound.owned alloc old)
    · exact .inr (by rw [List.mem_singleton.mp new])
  · intro other different
    rw [outstanding_append, outstanding_single, if_neg (Ne.symm different), add_zero]
  · refine ⟨?_, nonneg, bounded, depleted⟩
    rw [outstanding_append, outstanding_single, unallocated_fresh rows lots grant.id sound fresh]
    simp only [if_true]
    omega

theorem whole_lot_sound (rows : Nat) (lots : LotTables) (grant : CreditGrant) (sound : LotsSound rows lots)
    (fresh : grant.id ∉ lots.grants.map CreditGrant.id)
    (born : grant.grantedMicros = grant.remainingMicros + grant.expiredMicros + grant.voidedMicros)
    (nonneg : 0 ≤ grant.remainingMicros) (bounded : grant.remainingMicros ≤ grant.grantedMicros)
    (depleted : grant.status = .depleted → grant.remainingMicros = 0) :
    LotsSound (rows + 1) ⟨lots.grants ++ [grant], lots.allocations⟩ := by
  have later := lots_sound_later rows (rows + 1) lots sound (by omega)
  refine add_lot_sound (rows + 1) lots grant _ later fresh later.allocations ?_ (fun _ _ => rfl) ?_
  · intro alloc member
    exact .inl (sound.owned alloc member)
  · refine ⟨?_, nonneg, bounded, depleted⟩
    rw [unallocated_fresh rows lots grant.id sound fresh]
    omega

-- A lot is born with what its credit left after paying the debt, so lots and
-- balance rise together.
theorem create_grant_sound (rows : Nat) (env : Env) (txn : WalletTransaction) (kind : GrantKind) (amount : Int)
    (expiresAt : Option Nat) (source : GrantSource) (sourceReference : String) (lots after : LotTables) (grant : CreditGrant)
    (sound : LotsSound rows lots) (position : txn.id = rows) (positive : 0 < amount) (credited : txn.amountMicros = amount)
    (bound : activeSum lots ≤ max (txn.balanceAfterMicros - txn.amountMicros) 0)
    (made : createGrant env txn kind amount expiresAt source sourceReference lots = some (after, grant)) :
    LotsSound (rows + 1) after ∧ activeSum after ≤ max txn.balanceAfterMicros 0 := by
  rw [createGrant] at made
  split at made
  · cases made
  · rename_i free
    have fresh : env.newGrantId ∉ lots.grants.map CreditGrant.id := by
      intro member
      obtain ⟨old, inside, same⟩ := List.mem_map.mp member
      exact free (List.any_eq_true.mpr ⟨old, inside, by simpa using same⟩)
    have nonneg := active_sum_nonneg rows lots sound
    by_cases overdrawn : txn.balanceAfterMicros - txn.amountMicros < 0
    · simp only [if_pos overdrawn, Option.some.injEq, Prod.mk.injEq] at made
      rw [← made.1, position]
      generalize recoupEq : min amount (-(txn.balanceAfterMicros - txn.amountMicros)) = recoup
      constructor
      · apply recouped_lot_sound rows lots _ recoup sound fresh (by omega)
        · simp only
          omega
        · simp only
          omega
        · simp only
          omega
        · intro flipped
          by_contra kept
          simp [kept] at flipped
      · rw [active_sum_add]
        by_cases emptied : amount - recoup = 0
        · simp only [spendable, isActive, emptied, if_true, reduceCtorEq, decide_false, Bool.false_eq_true, if_false]
          omega
        · simp only [spendable, isActive, emptied, if_false, decide_true, if_true]
          omega
    · simp only [if_neg overdrawn, Option.some.injEq, Prod.mk.injEq] at made
      rw [← made.1]
      constructor
      · exact whole_lot_sound rows lots _ sound fresh (by simp) (le_of_lt positive) (le_refl amount) (by simp)
      · rw [active_sum_add]
        simp only [spendable, isActive, decide_true, if_true]
        omega

theorem promo_remaining_eq (lots : LotTables) :
    promoRemaining lots = (lots.grants.map (fun grant => if grant.kind = .promo then spendable grant else 0)).sum := by
  rw [promoRemaining, sum_filter_eq]
  congr 1
  apply List.map_congr_left
  intro grant _
  by_cases active : isActive grant = true
  · simp [active, spendable]
  · simp [active, spendable]

theorem promo_remaining_bounds (rows : Nat) (lots : LotTables) (sound : LotsSound rows lots) :
    0 ≤ promoRemaining lots ∧ promoRemaining lots ≤ activeSum lots := by
  have nonneg := spendable_nonneg rows lots sound
  rw [promo_remaining_eq, active_sum_eq]
  constructor
  · apply sum_nonneg_of
    intro grant member
    split
    · exact nonneg grant member
    · exact le_refl 0
  · apply List.sum_le_sum
    intro grant member
    split
    · exact le_refl _
    · exact nonneg grant member

-- The amounts the callers pass are positive: the request schemas refuse the
-- rest, and a known customer price is never negative.
def Call.Positive (call : Call) : Prop :=
  match call.op with
  | .debit amount _ _ _ => 0 < amount
  | .credit amount _ _ => 0 < amount
  | .withdraw amount _ _ => 0 < amount
  | .refundUsage usageEventId _ _ => ∀ cost, call.env.getPostingPrice usageEventId = some (some cost) → 0 ≤ cost
  | .mintGrant _ amount _ _ _ => 0 < amount
  | .drawDownUsage _ cost _ => 0 < cost
  | .creditTopUp amount _ _ _ _ _ => 0 < amount
  | .clawBackDispute amount _ _ _ => 0 < amount
  | .voidGrant _ | .clawBackStripeRefund _ _ _ _ _ | .expireDueSweep _ => True

structure Settling (wallet : Wallet) (lots : LotTables) : Prop where
  sound : LotsSound (wallet.transactions.length + 1) lots
  fresh : ∀ alloc ∈ lots.allocations, alloc.walletTransaction ≠ wallet.transactions.length

theorem settling_unminted (wallet : Wallet) (sound : WalletSound wallet) : Settling wallet wallet.lots :=
  ⟨lots_sound_later _ _ _ sound.lots (by omega),
    fun alloc member => Nat.ne_of_lt (sound.lots.allocations.older alloc member)⟩

theorem landed_sound (now : Nat) (key : String) (move : Move) (wallet : Wallet) (lots settled : LotTables)
    (settles : (landed now key move wallet lots).lots = settled)
    (sound : LotsSound (wallet.transactions.length + 1) settled)
    (bound : activeSum settled ≤ max (wallet.balanceMicros + move.amountMicros) 0) :
    WalletSound (landed now key move wallet lots) := by
  constructor
  · rw [landed_transactions, settles, List.length_append]
    exact sound
  · rw [settles, landed_balance]
    exact bound

theorem unminted_lots (key : String) (move : Move) (wallet : Wallet) (lots : LotTables) (noMint : move.mint = none)
    (minted : Minted key move wallet lots) : lots = wallet.lots := by
  rcases minted with ⟨_, same⟩ | ⟨mint, _, isMint, _⟩
  · exact same
  · rw [noMint] at isMint
    cases isMint

theorem consuming_move_sound (now : Nat) (key : String) (move : Move) (wallet : Wallet) (lots : LotTables) (amount : Int)
    (excludePromo : Bool) (allocationType : AllocationType) (sound : WalletSound wallet) (positive : 0 < amount)
    (debits : move.amountMicros = -amount) (noMint : move.mint = none) (minted : Minted key move wallet lots)
    (settles : move.settle = fun saved txn => (allocate txn.id amount excludePromo none allocationType saved.lots).1)
    (withdrawable : excludePromo = true → amount ≤ wallet.balanceMicros - promoRemaining wallet.lots) :
    WalletSound (landed now key move wallet lots) := by
  have same := unminted_lots key move wallet lots noMint minted
  subst same
  have settling := settling_unminted wallet sound
  obtain ⟨kept, sum⟩ := allocate_sound _ wallet.transactions.length amount excludePromo allocationType wallet.lots
    settling.sound (by omega) settling.fresh positive
  refine landed_sound now key move wallet wallet.lots _ (by rw [landed_lots, settles]; rfl) kept ?_
  have bound := sound.bound
  have nonneg := active_sum_nonneg _ _ sound.lots
  have promo := promo_remaining_bounds _ _ sound.lots
  rw [sum, debits]
  cases excludePromo with
  | false =>
      simp only [allocatable, Bool.false_eq_true, if_false]
      omega
  | true =>
      have enough := withdrawable rfl
      simp only [allocatable, if_true]
      omega

theorem minting_move_sound (now : Nat) (key : String) (move : Move) (wallet : Wallet) (lots : LotTables) (env : Env)
    (kind : GrantKind) (amount : Int) (expiresAt : Option Nat) (source : GrantSource) (sourceReference : String)
    (sound : WalletSound wallet) (positive : 0 < amount) (credits : move.amountMicros = amount)
    (mints : move.mint = some (fun txn lots => createGrant env txn kind amount expiresAt source sourceReference lots))
    (settles : move.settle = fun saved _ => saved.lots) (minted : Minted key move wallet lots) :
    WalletSound (landed now key move wallet lots) := by
  rcases minted with ⟨noMint, _⟩ | ⟨mint, grant, isMint, made⟩
  · rw [mints] at noMint
    cases noMint
  · rw [mints, Option.some.injEq] at isMint
    subst isMint
    have bound := sound.bound
    obtain ⟨born, raised⟩ := create_grant_sound wallet.transactions.length env (moveRow key move wallet) kind amount expiresAt
      source sourceReference wallet.lots lots grant sound.lots rfl positive credits (by simpa [moveRow] using bound) made
    exact landed_sound now key move wallet lots lots (by rw [landed_lots, settles]; rfl) born raised

theorem source_grant_stored (attemptId : Uuid) (lots : LotTables) (grant : CreditGrant)
    (found : sourceGrantOf attemptId lots = some grant) : grant ∈ lots.grants := by
  have member := List.mem_of_mem_head? found
  exact (List.mem_filter.mp ((List.mem_insertionSort _).mp member)).1

theorem clawback_move_sound (now : Nat) (key : String) (wallet : Wallet) (lots : LotTables) (amount : Int) (attemptId : Uuid)
    (txnType : TransactionType) (description : String) (sound : WalletSound wallet)
    (minted : Minted key (clawBackMove amount attemptId txnType description) wallet lots) :
    WalletSound (landed now key (clawBackMove amount attemptId txnType description) wallet lots) := by
  have same := unminted_lots key _ wallet lots rfl minted
  subst same
  have settling := settling_unminted wallet sound
  have stored := source_grant_stored attemptId wallet.lots
  obtain ⟨kept, bound⟩ := clawback_sound _ wallet.transactions.length (wallet.balanceMicros + -amount) amount
    (sourceGrantOf attemptId wallet.lots) wallet.lots settling.sound stored (by omega) settling.fresh
  exact landed_sound now key _ wallet wallet.lots _ rfl kept bound

theorem void_move_sound (now : Nat) (key : String) (wallet : Wallet) (lots : LotTables) (grant : CreditGrant)
    (sound : WalletSound wallet) (stored : grant ∈ wallet.lots.grants) (active : grant.status = .active)
    (minted : Minted key (voidMove grant (min grant.remainingMicros (max wallet.balanceMicros 0))) wallet lots) :
    WalletSound (landed now key (voidMove grant (min grant.remainingMicros (max wallet.balanceMicros 0))) wallet lots) := by
  have same := unminted_lots key _ wallet lots rfl minted
  subst same
  have settling := settling_unminted wallet sound
  have enough := remaining_le_balance wallet sound grant stored active
  have bound := sound.bound
  have nonneg := (settling.sound.lot grant stored).nonneg
  refine landed_sound now key _ wallet wallet.lots (wallet.lots.saveGrant grant.id (writeVoided grant)) rfl ?_ ?_
  · exact save_lot_sound _ _ grant _ settling.sound stored (fun _ => rfl)
      (voided_lot_sound _ grant (settling.sound.lot grant stored))
  · rw [active_sum_closed wallet.lots grant (writeVoided grant) sound.lots.grantIds stored active rfl,
      whole_lot_backed wallet sound grant stored active]
    simp only [voidMove]
    omega

theorem refund_move_sound (now : Nat) (key : String) (move : Move) (wallet : Wallet) (lots : LotTables) (usageEventId : Uuid)
    (sound : WalletSound wallet) (credits : 0 ≤ move.amountMicros) (noMint : move.mint = none)
    (settles : move.settle = fun saved _ => (refund (saved.usageDeduction usageEventId) saved.balanceMicros saved.lots).1)
    (minted : Minted key move wallet lots) : WalletSound (landed now key move wallet lots) := by
  have same := unminted_lots key move wallet lots noMint minted
  subst same
  have settling := settling_unminted wallet sound
  have bound := sound.bound
  have raised : activeSum wallet.lots ≤ max (wallet.balanceMicros + move.amountMicros) 0 := by omega
  have after := fun original => refund_sound _ original (wallet.balanceMicros + move.amountMicros) wallet.lots settling.sound raised
  refine landed_sound now key move wallet wallet.lots _ (by rw [landed_lots, settles]) ?_ ?_
  · exact (after _).1
  · exact (after _).2

theorem landed_wallet_sound (call : Call) (wallet : Wallet) (spine : Spine) (move : Move) (lots : LotTables)
    (positive : call.Positive) (sound : WalletSound wallet) (isSpine : call.op.spine call.env = some spine)
    (prepared : spine.prepare wallet = .move move) (minted : Minted spine.key move wallet lots) :
    WalletSound (landed call.env.now spine.key move wallet lots) := by
  obtain ⟨op, env⟩ := call
  cases prepared_by op env spine wallet move isSpine prepared with
  | debit amount key allowNegative audit =>
      exact consuming_move_sound env.now spine.key _ wallet lots amount false .usage sound positive rfl rfl minted rfl (by simp)
  | credit amount key audit =>
      have amountPositive : 0 < amount := positive
      have same := unminted_lots spine.key _ wallet lots rfl minted
      subst same
      have bound := sound.bound
      refine landed_sound env.now spine.key _ wallet wallet.lots wallet.lots rfl (settling_unminted wallet sound).sound ?_
      simp only [creditMove]
      omega
  | withdraw amount key audit funded =>
      exact consuming_move_sound env.now spine.key _ wallet lots amount true .withdrawal sound positive rfl rfl minted rfl
        (fun _ => funded)
  | refundUsage usageEventId key reason cost priced =>
      exact refund_move_sound env.now spine.key _ wallet lots usageEventId sound (positive cost priced) rfl rfl minted
  | mintGrant kind amount expiresAt key audit =>
      exact minting_move_sound env.now spine.key _ wallet lots env kind amount expiresAt .api key sound positive rfl rfl rfl minted
  | voidGrant grantId grant found active =>
      exact void_move_sound env.now spine.key wallet lots grant sound (List.mem_of_find?_eq_some found) active minted
  | drawDownUsage usageEventId cost repair =>
      exact consuming_move_sound env.now spine.key _ wallet lots cost false .usage sound positive rfl rfl minted rfl (by simp)
  | creditTopUp amount key source sourceReference description referenceId =>
      exact minting_move_sound env.now spine.key _ wallet lots env .paid amount (topupGrantExpiresAt env) source sourceReference
        sound positive rfl rfl rfl minted
  | clawBackDispute amount disputeId chargeId attemptId =>
      exact clawback_move_sound env.now spine.key wallet lots amount attemptId _ _ sound minted
  | clawBackStripeRefund cumulative key chargeId attemptId refundMicros _ =>
      exact clawback_move_sound env.now spine.key wallet lots _ attemptId _ _ sound minted

theorem step_sound (wallet : Wallet) (call : Call) (sound : WalletSound wallet) (positive : call.Positive) :
    WalletSound (step wallet call) := by
  refine step_keeps WalletSound Call.Positive expire_due_sound ?_ wallet call sound positive
  intro call wallet spine move lots positive sound isSpine _ prepared minted
  exact landed_wallet_sound call wallet spine move lots positive sound isSpine prepared minted

theorem empty_wallet_sound : WalletSound emptyWallet := by
  constructor
  · exact ⟨⟨rfl, by simp [emptyWallet], by simp [emptyWallet], by simp [emptyWallet]⟩, by simp [emptyWallet],
      by simp [emptyWallet], by simp [emptyWallet]⟩
  · simp [emptyWallet, activeSum]

theorem wallet_after_sound (calls : List Call) (positive : ∀ call ∈ calls, call.Positive) : WalletSound (walletAfter calls) :=
  run_invariant step WalletSound Call.Positive step_sound emptyWallet calls empty_wallet_sound positive

theorem credit_lots_hold_over_runs (calls : List Call) (positive : ∀ call ∈ calls, call.Positive) :
    activeSum (walletAfter calls).lots ≤ max (walletAfter calls).balanceMicros 0 ∧
    (∀ grant ∈ (walletAfter calls).lots.grants,
      grant.grantedMicros = grant.remainingMicros + outstanding (walletAfter calls).lots.allocations grant.id +
        grant.expiredMicros + grant.voidedMicros ∧
      0 ≤ grant.remainingMicros ∧ grant.remainingMicros ≤ grant.grantedMicros) ∧
    ∀ alloc ∈ (walletAfter calls).lots.allocations,
      0 ≤ alloc.refundedMicros ∧ alloc.refundedMicros ≤ alloc.amountMicros := by
  have sound := wallet_after_sound calls positive
  refine ⟨sound.bound, ?_, sound.lots.allocations.refunded⟩
  intro grant member
  have lot := sound.lots.lot grant member
  exact ⟨lot.conserved, lot.nonneg, lot.bounded⟩

def sampleEnv (now : Nat) (grantId : String) : Env where
  now := now
  newGrantId := ⟨grantId⟩
  holdsAWallet := true
  enforcing := false
  ownerActive := true
  minBalanceMicros := 0
  softMinBalanceMicros := none
  autoTopUp := none
  topupGrantExpiryDays := none
  getPostingPrice := fun event => if event.text = "ev-1" then some (some 300) else none

def mixedRun : List Call :=
  [⟨.mintGrant .promo 500 (some 10) "welcome" {}, sampleEnv 1 "lot-1"⟩,
    ⟨.creditTopUp 400 "topup:cs_1" .checkout "att-1" "Stripe top-up" "att-1", sampleEnv 2 "lot-2"⟩,
    ⟨.drawDownUsage ⟨"ev-1"⟩ 300 false, sampleEnv 3 ""⟩,
    ⟨.refundUsage ⟨"ev-1"⟩ "refund-1" "", sampleEnv 4 ""⟩,
    ⟨.withdraw 100 "wd-1" {}, sampleEnv 5 ""⟩,
    ⟨.clawBackDispute 350 "dp_1" "ch_1" ⟨"att-1"⟩, sampleEnv 6 ""⟩,
    ⟨.expireDueSweep none, sampleEnv 12 ""⟩]

theorem mixed_run_keeps_lots : (∀ call ∈ mixedRun, call.Positive) ∧ (walletAfter mixedRun).lots.allocations.length = 3 ∧
    activeSum (walletAfter mixedRun).lots ≤ max (walletAfter mixedRun).balanceMicros 0 := by
  have positive : ∀ call ∈ mixedRun, call.Positive := by simp [mixedRun, Call.Positive, sampleEnv]
  exact ⟨positive, by decide, (credit_lots_hold_over_runs mixedRun positive).1⟩

end Ubb.Wallets
