import Ubb.Library.Runs
import Ubb.Wallets.Operations

set_option autoImplicit false

namespace Ubb.Wallets

open Ubb.Library

inductive Op where
  | debit (amountMicros : Int) (idempotencyKey : String) (allowNegative : Bool) (audit : Audit)
  | credit (amountMicros : Int) (idempotencyKey : String) (audit : Audit)
  | withdraw (amountMicros : Int) (idempotencyKey : String) (audit : Audit)
  | refundUsage (usageEventId : Uuid) (idempotencyKey reason : String)
  | mintGrant (kind : GrantKind) (amountMicros : Int) (expiresAt : Option Nat) (idempotencyKey : String) (audit : Audit)
  | voidGrant (grantId : Uuid)
  | drawDownUsage (usageEventId : Uuid) (billedCostMicros : Int) (repair : Bool)
  | creditTopUp (amountMicros : Int) (idempotencyKey : String) (source : GrantSource)
      (sourceReference description referenceId : String)
  | clawBackDispute (amountMicros : Int) (disputeId chargeId : String) (attemptId : Uuid)
  | clawBackStripeRefund (cumulativeMicros : Int) (key chargeId : String) (attemptId : Uuid) (refundMicros : Option Int)
  | expireDueSweep (now : Option Nat)
deriving DecidableEq, Repr

def Op.spine (env : Env) : Op → Option Spine
  | .debit amount key allowNegative audit => some (debitSpine env amount key allowNegative audit)
  | .credit amount key audit => some (creditSpine amount key audit)
  | .withdraw amount key audit => some (withdrawSpine amount key audit)
  | .refundUsage usageEventId key reason => some (refundUsageSpine env usageEventId key reason)
  | .mintGrant kind amount expiresAt key audit => some (mintGrantSpine env kind amount expiresAt key audit)
  | .voidGrant grantId => some (voidGrantSpine grantId)
  | .drawDownUsage usageEventId cost repair => some (drawDownUsageSpine env usageEventId cost repair)
  | .creditTopUp amount key source sourceReference description referenceId =>
      some (creditTopUpSpine env amount key source sourceReference description referenceId)
  | .clawBackDispute amount disputeId chargeId attemptId => some (clawBackDisputeSpine amount disputeId chargeId attemptId)
  | .clawBackStripeRefund cumulative key chargeId attemptId refundMicros =>
      some (clawBackStripeRefundSpine cumulative key chargeId attemptId refundMicros)
  | .expireDueSweep _ => none

inductive Answer where
  | result (result : OpResult)
  | expired (count : Nat)
deriving DecidableEq, Repr

structure Call where
  op : Op
  env : Env

def expireDueSweep (env : Env) (now : Option Nat) (wallet : Wallet) : Wallet × Nat := expireDue env now wallet

def perform (call : Call) (wallet : Wallet) : Except WalletError (Wallet × Answer) :=
  match call.op with
  | .expireDueSweep now => .ok ((expireDueSweep call.env now wallet).1, .expired (expireDueSweep call.env now wallet).2)
  | op =>
      match op.spine call.env with
      | some spine => (execute spine call.env wallet).map (fun (after, result) => (after, .result result))
      | none => .ok (wallet, .expired 0)

-- A call that raises is rolled back whole.
def step (wallet : Wallet) (call : Call) : Wallet :=
  match perform call wallet with
  | .ok (after, _) => after
  | .error _ => wallet

def walletAfter (calls : List Call) : Wallet := run step emptyWallet calls

inductive PreparedBy (env : Env) (wallet : Wallet) : Op → Move → Prop
  | debit (amount : Int) (key : String) (allowNegative : Bool) (audit : Audit) :
      PreparedBy env wallet (.debit amount key allowNegative audit) (debitMove amount audit)
  | credit (amount : Int) (key : String) (audit : Audit) :
      PreparedBy env wallet (.credit amount key audit) (creditMove amount audit)
  | withdraw (amount : Int) (key : String) (audit : Audit)
      (funded : amount ≤ wallet.balanceMicros - promoRemaining wallet.lots) :
      PreparedBy env wallet (.withdraw amount key audit) (withdrawMove amount key audit)
  | refundUsage (usageEventId : Uuid) (key reason : String) (cost : Int)
      (priced : env.getPostingPrice usageEventId = some (some cost)) :
      PreparedBy env wallet (.refundUsage usageEventId key reason) (refundMove usageEventId cost key reason)
  | mintGrant (kind : GrantKind) (amount : Int) (expiresAt : Option Nat) (key : String) (audit : Audit) :
      PreparedBy env wallet (.mintGrant kind amount expiresAt key audit) (mintMove env kind amount expiresAt key audit)
  | voidGrant (grantId : Uuid) (grant : CreditGrant) (found : wallet.lots.grant grantId = some grant)
      (active : grant.status = .active) :
      PreparedBy env wallet (.voidGrant grantId) (voidMove grant (min grant.remainingMicros (max wallet.balanceMicros 0)))
  | drawDownUsage (usageEventId : Uuid) (cost : Int) (repair : Bool) :
      PreparedBy env wallet (.drawDownUsage usageEventId cost repair) (drawDownMove env usageEventId cost repair)
  | creditTopUp (amount : Int) (key : String) (source : GrantSource) (sourceReference description referenceId : String) :
      PreparedBy env wallet (.creditTopUp amount key source sourceReference description referenceId)
        (topUpMove env amount source sourceReference description referenceId)
  | clawBackDispute (amount : Int) (disputeId chargeId : String) (attemptId : Uuid) :
      PreparedBy env wallet (.clawBackDispute amount disputeId chargeId attemptId)
        (clawBackMove amount attemptId .disputeDeduction ("Dispute lost: " ++ chargeId))
  | clawBackStripeRefund (cumulative : Int) (key chargeId : String) (attemptId : Uuid) (refundMicros : Option Int)
      (positive : 0 < refundIncrement refundMicros (cumulative - stripeRefundAppliedMicros attemptId wallet)) :
      PreparedBy env wallet (.clawBackStripeRefund cumulative key chargeId attemptId refundMicros)
        (clawBackMove (refundIncrement refundMicros (cumulative - stripeRefundAppliedMicros attemptId wallet)) attemptId
          .stripeRefund (stripeRefundDescription chargeId key))

theorem prepared_by (op : Op) (env : Env) (spine : Spine) (wallet : Wallet) (move : Move)
    (isSpine : op.spine env = some spine) (prepared : spine.prepare wallet = .move move) : PreparedBy env wallet op move := by
  cases op with
  | debit amount key allowNegative audit =>
      cases isSpine
      simp only [debitSpine] at prepared
      split at prepared
      · cases prepared
      · cases prepared
        exact .debit amount key allowNegative audit
  | withdraw amount key audit =>
      cases isSpine
      simp only [withdrawSpine] at prepared
      split at prepared
      · cases prepared
      · rename_i funded
        cases prepared
        exact .withdraw amount key audit (not_lt.mp funded)
  | refundUsage usageEventId key reason =>
      cases isSpine
      simp only [refundUsageSpine] at prepared
      split at prepared
      · cases prepared
      · cases prepared
      · rename_i cost priced
        cases prepared
        exact .refundUsage usageEventId key reason cost priced
  | voidGrant grantId =>
      cases isSpine
      simp only [voidGrantSpine] at prepared
      split at prepared
      · cases prepared
      · rename_i grant found
        split at prepared
        · rename_i active
          cases prepared
          exact .voidGrant grantId grant found active
        · cases prepared
  | clawBackStripeRefund cumulative key chargeId attemptId refundMicros =>
      cases isSpine
      simp only [clawBackStripeRefundSpine] at prepared
      split at prepared
      · cases prepared
      · split at prepared
        · cases prepared
        · rename_i positive
          cases prepared
          exact .clawBackStripeRefund cumulative key chargeId attemptId refundMicros (not_le.mp positive)
  | credit amount key audit =>
      cases isSpine
      cases prepared
      exact .credit amount key audit
  | mintGrant kind amount expiresAt key audit =>
      cases isSpine
      cases prepared
      exact .mintGrant kind amount expiresAt key audit
  | drawDownUsage usageEventId cost repair =>
      cases isSpine
      cases prepared
      exact .drawDownUsage usageEventId cost repair
  | creditTopUp amount key source sourceReference description referenceId =>
      cases isSpine
      cases prepared
      exact .creditTopUp amount key source sourceReference description referenceId
  | clawBackDispute amount disputeId chargeId attemptId =>
      cases isSpine
      cases prepared
      exact .clawBackDispute amount disputeId chargeId attemptId
  | expireDueSweep now => cases isSpine

theorem perform_spine (call : Call) (wallet : Wallet) (spine : Spine) (isSpine : call.op.spine call.env = some spine) :
    perform call wallet = (execute spine call.env wallet).map (fun (after, result) => (after, .result result)) := by
  obtain ⟨op, env⟩ := call
  cases op with
  | expireDueSweep now => simp [Op.spine] at isSpine
  | _ => simp only [perform, isSpine]

def Minted (key : String) (move : Move) (wallet : Wallet) (lots : LotTables) : Prop :=
  (move.mint = none ∧ lots = wallet.lots) ∨
    ∃ mint minted, move.mint = some mint ∧ mint (moveRow key move wallet) wallet.lots = some (lots, minted)

def landed (now : Nat) (key : String) (move : Move) (wallet : Wallet) (lots : LotTables) : Wallet :=
  landMove now key move wallet
    { wallet with transactions := wallet.transactions ++ [moveRow key move wallet], lots := lots }

theorem write_move_cases (now : Nat) (key : String) (move : Move) (wallet written : Wallet) (grant : Option CreditGrant)
    (done : writeMove key move wallet = some (written, grant)) :
    wallet.find key = none ∧ ∃ lots, Minted key move wallet lots ∧
      landMove now key move wallet written = landed now key move wallet lots := by
  rcases insert_transaction_cases (moveRow key move wallet) wallet with ⟨_, _, conflict⟩ | ⟨free, inserted⟩
  · simp [writeMove, conflict] at done
  · refine ⟨free, ?_⟩
    simp only [writeMove, inserted] at done
    cases mintEq : move.mint with
    | none =>
        simp only [mintEq, Option.some.injEq, Prod.mk.injEq] at done
        exact ⟨wallet.lots, .inl ⟨mintEq, rfl⟩, by rw [landed, ← done.1]⟩
    | some mint =>
        simp only [mintEq, Option.map_eq_some_iff, Prod.exists, Prod.mk.injEq] at done
        obtain ⟨lots, minted, minting, writtenEq, _⟩ := done
        exact ⟨lots, .inr ⟨mint, minted, mintEq, minting⟩, by rw [landed, ← writtenEq]⟩

theorem expired_cases (spine : Spine) (env : Env) (wallet : Wallet) :
    spine.expired env wallet = wallet ∨ spine.expired env wallet = (expireDue env none wallet).1 := by
  rw [Spine.expired]
  split
  · exact .inr rfl
  · exact .inl rfl

theorem execute_cases (spine : Spine) (env : Env) (wallet after : Wallet) (result : OpResult)
    (done : execute spine env wallet = .ok (after, result)) :
    (after = wallet ∧ spine.pre wallet = some result) ∨
    (after = spine.expired env wallet ∧ spine.pre wallet = none ∧
      ∃ existing, (spine.expired env wallet).find spine.key = some existing ∧
        result = spine.onReplay (spine.expired env wallet) existing) ∨
    (after = spine.expired env wallet ∧ spine.pre wallet = none ∧ (spine.expired env wallet).find spine.key = none ∧
      (spine.prepare (spine.expired env wallet) = .answer result ∨
        ∃ move, spine.prepare (spine.expired env wallet) = .move move ∧
          writeMove spine.key move (spine.expired env wallet) = none ∧
          spine.onConflict (spine.expired env wallet) = .ok result)) ∨
    ∃ move written grant, spine.pre wallet = none ∧ spine.prepare (spine.expired env wallet) = .move move ∧
      writeMove spine.key move (spine.expired env wallet) = some (written, grant) ∧
      after = landMove env.now spine.key move (spine.expired env wallet) written ∧
      result = moveResult move after (moveRow spine.key move (spine.expired env wallet)) grant := by
  simp only [execute] at done
  cases early : spine.pre wallet with
  | some shape =>
      simp only [early, Except.ok.injEq, Prod.mk.injEq] at done
      exact .inl ⟨done.1.symm, by rw [done.2]⟩
  | none =>
      simp only [early] at done
      cases found : (spine.expired env wallet).find spine.key with
      | some existing =>
          simp only [found, Except.ok.injEq, Prod.mk.injEq] at done
          exact .inr (.inl ⟨done.1.symm, rfl, existing, rfl, done.2.symm⟩)
      | none =>
          simp only [found] at done
          cases prepared : spine.prepare (spine.expired env wallet) with
          | answer shape =>
              simp only [prepared, Except.ok.injEq, Prod.mk.injEq] at done
              exact .inr (.inr (.inl ⟨done.1.symm, rfl, rfl, .inl (by rw [done.2])⟩))
          | move move =>
              simp only [prepared] at done
              cases wrote : writeMove spine.key move (spine.expired env wallet) with
              | none =>
                  simp only [wrote] at done
                  cases conflict : spine.onConflict (spine.expired env wallet) with
                  | error raised => simp [conflict, Except.map] at done
                  | ok shape =>
                      simp only [conflict, Except.map, Except.ok.injEq, Prod.mk.injEq] at done
                      exact .inr (.inr (.inl ⟨done.1.symm, rfl, rfl, .inr ⟨move, rfl, wrote, by rw [done.2]⟩⟩))
              | some pair =>
                  obtain ⟨written, grant⟩ := pair
                  simp only [wrote, Except.ok.injEq, Prod.mk.injEq] at done
                  refine .inr (.inr (.inr ⟨move, written, grant, rfl, rfl, wrote, done.1.symm, ?_⟩))
                  rw [← done.1, ← done.2]

@[simp] theorem landed_balance (now : Nat) (key : String) (move : Move) (wallet : Wallet) (lots : LotTables) :
    (landed now key move wallet lots).balanceMicros = wallet.balanceMicros + move.amountMicros := rfl

@[simp] theorem landed_transactions (now : Nat) (key : String) (move : Move) (wallet : Wallet) (lots : LotTables) :
    (landed now key move wallet lots).transactions = wallet.transactions ++ [moveRow key move wallet] := rfl

theorem landed_lots (now : Nat) (key : String) (move : Move) (wallet : Wallet) (lots : LotTables) :
    (landed now key move wallet lots).lots = move.settle (saveBalance now (wallet.balanceMicros + move.amountMicros)
      { wallet with transactions := wallet.transactions ++ [moveRow key move wallet], lots := lots })
      (moveRow key move wallet) := rfl

theorem step_replays (call : Call) (wallet : Wallet) (spine : Spine) (existing : WalletTransaction)
    (isSpine : call.op.spine call.env = some spine) (noPre : spine.pre wallet = none)
    (found : (spine.expired call.env wallet).find spine.key = some existing) : step wallet call = spine.expired call.env wallet := by
  simp only [step, perform_spine call wallet spine isSpine, execute, noPre, found, Except.map]

theorem step_answers (call : Call) (wallet : Wallet) (spine : Spine) (result : OpResult)
    (isSpine : call.op.spine call.env = some spine) (noPre : spine.pre wallet = none)
    (free : (spine.expired call.env wallet).find spine.key = none)
    (prepared : spine.prepare (spine.expired call.env wallet) = .answer result) :
    step wallet call = spine.expired call.env wallet := by
  simp only [step, perform_spine call wallet spine isSpine, execute, noPre, free, prepared, Except.map]

theorem step_lands (call : Call) (wallet : Wallet) (spine : Spine) (move : Move) (isSpine : call.op.spine call.env = some spine)
    (noPre : spine.pre wallet = none) (free : (spine.expired call.env wallet).find spine.key = none)
    (prepared : spine.prepare (spine.expired call.env wallet) = .move move) (noMint : move.mint = none) :
    step wallet call =
      landed call.env.now spine.key move (spine.expired call.env wallet) (spine.expired call.env wallet).lots := by
  have rowKey : (moveRow spine.key move (spine.expired call.env wallet)).idempotencyKey = spine.key := rfl
  have inserted : insertTransaction (moveRow spine.key move (spine.expired call.env wallet)) (spine.expired call.env wallet) =
      some { spine.expired call.env wallet with
        transactions := (spine.expired call.env wallet).transactions ++ [moveRow spine.key move (spine.expired call.env wallet)] } := by
    rw [insertTransaction, rowKey, free]
  simp only [step, perform_spine call wallet spine isSpine, execute, noPre, free, prepared, writeMove, inserted, noMint, Except.map]
  rfl

-- Everything one call can do to a wallet: nothing, an expiry pass, or an
-- expiry pass followed by one landed move. Every invariant is proved from
-- these three cases.
theorem step_cases (wallet : Wallet) (call : Call) :
    step wallet call = wallet ∨ (∃ now, step wallet call = (expireDue call.env now wallet).1) ∨
    ∃ spine move lots, call.op.spine call.env = some spine ∧
      (spine.expired call.env wallet).find spine.key = none ∧
      spine.prepare (spine.expired call.env wallet) = .move move ∧
      Minted spine.key move (spine.expired call.env wallet) lots ∧
      step wallet call = landed call.env.now spine.key move (spine.expired call.env wallet) lots := by
  cases isSpine : call.op.spine call.env with
  | none =>
      obtain ⟨op, env⟩ := call
      cases op with
      | expireDueSweep now => exact .inr (.inl ⟨now, rfl⟩)
      | _ => simp [Op.spine] at isSpine
  | some spine =>
      have performed := perform_spine call wallet spine isSpine
      cases run : execute spine call.env wallet with
      | error raised =>
          rw [run] at performed
          exact .inl (by simp only [step, performed, Except.map])
      | ok pair =>
          obtain ⟨after, result⟩ := pair
          rw [run] at performed
          have stepEq : step wallet call = after := by simp only [step, performed, Except.map]
          have expiredCase : after = spine.expired call.env wallet → step wallet call = wallet ∨
              ∃ now, step wallet call = (expireDue call.env now wallet).1 := by
            intro afterEq
            rw [stepEq, afterEq]
            exact (expired_cases spine call.env wallet).imp id (fun expired => ⟨none, expired⟩)
          rcases execute_cases spine call.env wallet after result run with
            ⟨afterEq, _⟩ | ⟨afterEq, _⟩ | ⟨afterEq, _⟩ | ⟨move, written, grant, _, prepared, wrote, afterEq, _⟩
          · exact .inl (stepEq.trans afterEq)
          · exact (expiredCase afterEq).imp id .inl
          · exact (expiredCase afterEq).imp id .inl
          · obtain ⟨free, lots, minted, landedEq⟩ := write_move_cases call.env.now _ _ _ _ _ wrote
            exact .inr (.inr ⟨spine, move, lots, rfl, free, prepared, minted, stepEq.trans (afterEq.trans landedEq)⟩)

theorem step_keeps (Inv : Wallet → Prop) (Admitted : Call → Prop)
    (expiry : ∀ env now wallet, Inv wallet → Inv (expireDue env now wallet).1)
    (moved : ∀ call wallet spine move lots, Admitted call → Inv wallet → call.op.spine call.env = some spine →
      wallet.find spine.key = none → spine.prepare wallet = .move move → Minted spine.key move wallet lots →
      Inv (landed call.env.now spine.key move wallet lots))
    (wallet : Wallet) (call : Call) (inv : Inv wallet) (admitted : Admitted call) : Inv (step wallet call) := by
  rcases step_cases wallet call with same | ⟨now, expired⟩ | ⟨spine, move, lots, isSpine, free, prepared, minted, done⟩
  · rwa [same]
  · rw [expired]
    exact expiry call.env now wallet inv
  · rw [done]
    apply moved call (spine.expired call.env wallet) spine move lots admitted _ isSpine free prepared minted
    rcases expired_cases spine call.env wallet with unexpired | expired
    · rwa [unexpired]
    · rw [expired]
      exact expiry call.env none wallet inv

end Ubb.Wallets
