import Ubb.Wallets.Grants

set_option autoImplicit false

namespace Ubb.Wallets

open Ubb.Library

inductive RefusalCode where
  | wouldOverdraw
  | insufficientWithdrawable
  | usageEventNotFound
  | usageEventPriceUnresolved
  | idempotencyConflict
  | grantNotFound
  | refundTotalBelowApplied
deriving DecidableEq, Repr

inductive Outcome where
  | applied
  | replayed
  | refused
  | noop
deriving DecidableEq, Repr

structure Audit where
  actor : String := ""
  movementReason : String := ""
  reference : String := ""
  description : String := ""
deriving DecidableEq, Repr

structure OpResult where
  outcome : Outcome
  balanceMicros : Int
  transactionId : Option Nat := none
  referenceId : String := ""
  amountMicros : Option Int := none
  refusalCode : Option RefusalCode := none
  floorMicros : Option Int := none
  grant : Option CreditGrant := none
deriving DecidableEq, Repr

-- The one exception an operation can end in past the lock: mint_grant's
-- conflict branch reads a ledger row that the savepoint has rolled back.
inductive WalletError where
  | transactionDoesNotExist
deriving DecidableEq, Repr

-- The mutation an operation decided to make. A mint runs in the savepoint of
-- the ledger row, a settle after the balance is saved.
structure Move where
  txnType : TransactionType
  amountMicros : Int
  description : String
  referenceId : String := ""
  usageEventId : Option Uuid := none
  movementReason : String := ""
  actor : String := ""
  mint : Option (WalletTransaction → LotTables → Option (LotTables × CreditGrant)) := none
  settle : Wallet → WalletTransaction → LotTables := fun wallet _ => wallet.lots
  events : Int → Int → WalletTransaction → List Signal := fun _ _ _ => []
  result : Option (Wallet → WalletTransaction → Option CreditGrant → OpResult) := none

inductive Prepared where
  | answer (result : OpResult)
  | move (move : Move)

def moveRow (key : String) (move : Move) (wallet : Wallet) : WalletTransaction where
  id := wallet.transactions.length
  transactionType := move.txnType
  amountMicros := move.amountMicros
  balanceAfterMicros := wallet.balanceMicros + move.amountMicros
  description := move.description
  referenceId := move.referenceId
  idempotencyKey := key
  usageEventId := move.usageEventId
  movementReason := move.movementReason
  actor := move.actor

def writeMove (key : String) (move : Move) (wallet : Wallet) : Option (Wallet × Option CreditGrant) :=
  match insertTransaction (moveRow key move wallet) wallet with
  | none => none
  | some booked =>
      match move.mint with
      | none => some (booked, none)
      | some mint => (mint (moveRow key move wallet) booked.lots).map (fun (lots, grant) => ({ booked with lots := lots }, some grant))

def landMove (now : Nat) (key : String) (move : Move) (wallet written : Wallet) : Wallet :=
  let txn := moveRow key move wallet
  let saved := saveBalance now (wallet.balanceMicros + move.amountMicros) written
  { saved with
    lots := move.settle saved txn
    mirrored := if 0 < move.amountMicros then saved.mirrored ++ [move.amountMicros] else saved.mirrored
    signals := saved.signals ++ move.events wallet.balanceMicros (wallet.balanceMicros + move.amountMicros) txn }

def moveResult (move : Move) (landed : Wallet) (txn : WalletTransaction) (grant : Option CreditGrant) : OpResult :=
  match move.result with
  | some result => result landed txn grant
  | none => { outcome := .applied, balanceMicros := landed.balanceMicros,
              transactionId := some txn.id, amountMicros := some move.amountMicros }

-- The spine every operation runs through, from the wallet row lock on.
structure Spine where
  key : String
  runExpiry : Bool
  pre : Wallet → Option OpResult := fun _ => none
  prepare : Wallet → Prepared
  onReplay : Wallet → WalletTransaction → OpResult
  onConflict : Wallet → Except WalletError OpResult :=
    fun wallet => .ok { outcome := .replayed, balanceMicros := wallet.balanceMicros }

def Spine.expired (spine : Spine) (env : Env) (wallet : Wallet) : Wallet :=
  if spine.runExpiry then (expireDue env none wallet).1 else wallet

def execute (spine : Spine) (env : Env) (wallet : Wallet) : Except WalletError (Wallet × OpResult) :=
  match spine.pre wallet with
  | some early => .ok (wallet, early)
  | none =>
      let wallet := spine.expired env wallet
      match wallet.find spine.key with
      | some existing => .ok (wallet, spine.onReplay wallet existing)
      | none =>
          match spine.prepare wallet with
          | .answer result => .ok (wallet, result)
          | .move move =>
              match writeMove spine.key move wallet with
              | none => (spine.onConflict wallet).map (fun result => (wallet, result))
              | some (written, grant) =>
                  let landed := landMove env.now spine.key move wallet written
                  .ok (landed, moveResult move landed (moveRow spine.key move wallet) grant)

def replayed (wallet : Wallet) (existing : WalletTransaction) : OpResult :=
  { outcome := .replayed, balanceMicros := wallet.balanceMicros,
    transactionId := some existing.id, referenceId := existing.referenceId }

def refused (wallet : Wallet) (code : RefusalCode) : OpResult :=
  { outcome := .refused, balanceMicros := wallet.balanceMicros, refusalCode := some code }

def textOr (text default : String) : String := if text = "" then default else text

def floorLine (minBalanceMicros : Int) : Int := -minBalanceMicros

def pastFloor (balance : Int) : Option Int → Bool
  | none => false
  | some floor => balance < -floor

def crossedFloor (oldBalance newBalance : Int) : Option Int → Bool
  | none => false
  | some floor => -floor ≤ oldBalance && newBalance < -floor

def debitMove (amountMicros : Int) (audit : Audit) : Move where
  txnType := .debit
  amountMicros := -amountMicros
  description := textOr audit.description "External debit"
  referenceId := audit.reference
  movementReason := audit.movementReason
  actor := audit.actor
  settle wallet txn := (allocate txn.id amountMicros false none .usage wallet.lots).1

def debitSpine (env : Env) (amountMicros : Int) (idempotencyKey : String) (allowNegative : Bool) (audit : Audit) : Spine where
  key := idempotencyKey
  runExpiry := true
  prepare wallet :=
    if env.holdsAWallet ∧ pastFloor (wallet.balanceMicros - amountMicros) (some env.minBalanceMicros) ∧ ¬ allowNegative then
      .answer { outcome := .refused, balanceMicros := wallet.balanceMicros,
                refusalCode := some .wouldOverdraw, floorMicros := some env.minBalanceMicros }
    else .move (debitMove amountMicros audit)
  onReplay := replayed

def creditMove (amountMicros : Int) (audit : Audit) : Move where
  txnType := .adjustment
  amountMicros := amountMicros
  description := textOr audit.description "Credit"
  referenceId := audit.reference
  movementReason := audit.movementReason
  actor := audit.actor

def creditSpine (amountMicros : Int) (idempotencyKey : String) (audit : Audit) : Spine where
  key := idempotencyKey
  runExpiry := false
  prepare _ := .move (creditMove amountMicros audit)
  onReplay := replayed

def withdrawMove (amountMicros : Int) (idempotencyKey : String) (audit : Audit) : Move where
  txnType := .withdrawal
  amountMicros := -amountMicros
  description := textOr audit.description "Withdrawal"
  settle wallet txn := (allocate txn.id amountMicros true none .withdrawal wallet.lots).1
  events _ _ txn := [.withdrawalRequested amountMicros txn.id idempotencyKey]

def withdrawSpine (amountMicros : Int) (idempotencyKey : String) (audit : Audit) : Spine where
  key := idempotencyKey
  runExpiry := true
  prepare wallet :=
    if wallet.balanceMicros - promoRemaining wallet.lots < amountMicros then
      .answer (refused wallet .insufficientWithdrawable)
    else .move (withdrawMove amountMicros idempotencyKey audit)
  onReplay := replayed

def Wallet.usageDeduction (wallet : Wallet) (usageEventId : Uuid) : Option WalletTransaction :=
  wallet.transactions.reverse.find? (fun row =>
    row.transactionType = .usageDeduction ∧ row.usageEventId = some usageEventId)

def refundMove (usageEventId : Uuid) (cost : Int) (idempotencyKey reason : String) : Move where
  txnType := .refund
  amountMicros := cost
  description := "Refund: " ++ usageEventId.text
  referenceId := usageEventId.text
  settle wallet _ := (refund (wallet.usageDeduction usageEventId) wallet.balanceMicros wallet.lots).1
  events _ _ _ := [.refundRequested usageEventId cost reason idempotencyKey]

def refundUsageSpine (env : Env) (usageEventId : Uuid) (idempotencyKey reason : String) : Spine where
  key := idempotencyKey
  runExpiry := true
  prepare wallet :=
    match env.getPostingPrice usageEventId with
    | none => .answer (refused wallet .usageEventNotFound)
    | some none => .answer (refused wallet .usageEventPriceUnresolved)
    | some (some cost) => .move (refundMove usageEventId cost idempotencyKey reason)
  onReplay := replayed

def grantKey (idempotencyKey : String) : String := "grant:" ++ idempotencyKey

def mintReplayShape (wallet : Wallet) (existing : WalletTransaction) : OpResult :=
  match wallet.lots.grants.find? (fun grant => grant.sourceTransaction = existing.id) with
  | none => refused wallet .idempotencyConflict
  | some grant => { outcome := .replayed, balanceMicros := wallet.balanceMicros,
                    transactionId := some existing.id, grant := some grant }

def mintMove (env : Env) (kind : GrantKind) (amountMicros : Int) (expiresAt : Option Nat) (idempotencyKey : String)
    (audit : Audit) : Move where
  txnType := .grant
  amountMicros := amountMicros
  description := textOr audit.description ("Credit grant (" ++ kindText kind ++ ")")
  referenceId := idempotencyKey
  mint := some (fun txn lots => createGrant env txn kind amountMicros expiresAt .api idempotencyKey lots)
  result := some (fun wallet txn grant =>
    { outcome := .applied, balanceMicros := wallet.balanceMicros,
      transactionId := some txn.id, amountMicros := some amountMicros, grant := grant })

def mintGrantSpine (env : Env) (kind : GrantKind) (amountMicros : Int) (expiresAt : Option Nat)
    (idempotencyKey : String) (audit : Audit) : Spine where
  key := grantKey idempotencyKey
  runExpiry := false
  prepare _ := .move (mintMove env kind amountMicros expiresAt idempotencyKey audit)
  onReplay := mintReplayShape
  onConflict wallet :=
    match wallet.find (grantKey idempotencyKey) with
    | some existing => .ok (mintReplayShape wallet existing)
    | none => .error .transactionDoesNotExist

def grantVoidKey (grantId : Uuid) : String := "grant_void:" ++ grantId.text

def LotTables.grant (lots : LotTables) (grantId : Uuid) : Option CreditGrant :=
  lots.grants.find? (fun grant => grant.id = grantId)

def lotUnchanged (grantId : Uuid) (wallet : Wallet) : OpResult :=
  { outcome := .replayed, balanceMicros := wallet.balanceMicros, grant := wallet.lots.grant grantId }

def voidMove (grant : CreditGrant) (debit : Int) : Move where
  txnType := .grantVoid
  amountMicros := -debit
  description := "Credit grant voided (" ++ kindText grant.kind ++ ")"
  referenceId := grant.id.text
  settle wallet _ := wallet.lots.saveGrant grant.id (writeVoided grant)
  result := some (fun wallet txn _ =>
    { outcome := .applied, balanceMicros := wallet.balanceMicros, transactionId := some txn.id,
      amountMicros := some (-debit), grant := some (writeVoided grant grant) })

-- The lot is reloaded after the expiry pass, which may just have retired it.
def voidGrantSpine (grantId : Uuid) : Spine where
  key := grantVoidKey grantId
  runExpiry := true
  pre wallet :=
    match wallet.lots.grant grantId with
    | none => some (refused wallet .grantNotFound)
    | some _ => none
  prepare wallet :=
    match wallet.lots.grant grantId with
    | none => .answer (refused wallet .grantNotFound)
    | some grant =>
        if grant.status = .active then .move (voidMove grant (min grant.remainingMicros (max wallet.balanceMicros 0)))
        else .answer { outcome := .noop, balanceMicros := wallet.balanceMicros, grant := some grant }
  onReplay wallet _ := lotUnchanged grantId wallet
  onConflict wallet := .ok (lotUnchanged grantId wallet)

def usageDeductionKey (usageEventId : Uuid) : String := "usage_deduction:" ++ usageEventId.text

-- The winning-branch tail of a live drawdown. The stop lanes are announced
-- here; what their transition guards do with them is another subsystem's.
def drawdownTail (env : Env) (oldBalance newBalance : Int) : List Signal :=
  (if 0 ≤ oldBalance ∧ newBalance < 0 then
    [.walletBalanceOverage newBalance env.minBalanceMicros (-newBalance)]
  else []) ++
  (if env.enforcing then
    (if crossedFloor oldBalance newBalance (some env.minBalanceMicros) then
      [.stopDriven newBalance (floorLine env.minBalanceMicros)]
    else []) ++
    (match env.softMinBalanceMicros with
    | some soft => if crossedFloor oldBalance newBalance (some soft) then [.softFloorCrossed newBalance soft] else []
    | none => [])
  else if pastFloor newBalance (some env.minBalanceMicros) ∧ env.ownerActive then [.customerSuspended newBalance]
  else []) ++
  (match env.autoTopUp with
  | some config =>
      if newBalance < config.triggerThresholdMicros then
        [.walletBalanceLow newBalance config.triggerThresholdMicros config.topUpAmountMicros]
      else []
  | none => [])

def drawDownMove (env : Env) (usageEventId : Uuid) (billedCostMicros : Int) (repair : Bool) : Move where
  txnType := .usageDeduction
  amountMicros := -billedCostMicros
  description := (if repair then "Usage (reconciled): " else "Usage: ") ++ usageEventId.text
  referenceId := usageEventId.text
  usageEventId := some usageEventId
  settle wallet txn := (allocate txn.id billedCostMicros false none .usage wallet.lots).1
  events oldBalance newBalance _ := if repair then [] else drawdownTail env oldBalance newBalance

-- A key held by another row answers replayed; the amount mismatch is only logged.
def drawDownUsageSpine (env : Env) (usageEventId : Uuid) (billedCostMicros : Int) (repair : Bool) : Spine where
  key := usageDeductionKey usageEventId
  runExpiry := true
  prepare _ := .move (drawDownMove env usageEventId billedCostMicros repair)
  onReplay wallet existing :=
    { outcome := .replayed, balanceMicros := wallet.balanceMicros, transactionId := some existing.id }

def topUpMove (env : Env) (amountMicros : Int) (source : GrantSource) (sourceReference description referenceId : String) : Move where
  txnType := .topUp
  amountMicros := amountMicros
  description := description
  referenceId := referenceId
  mint := some (fun txn lots => createGrant env txn .paid amountMicros (topupGrantExpiresAt env) source sourceReference lots)

def creditTopUpSpine (env : Env) (amountMicros : Int) (idempotencyKey : String) (source : GrantSource)
    (sourceReference description referenceId : String) : Spine where
  key := idempotencyKey
  runExpiry := false
  prepare _ := .move (topUpMove env amountMicros source sourceReference description referenceId)
  onReplay := replayed

-- Only top-up-born lots qualify as the source of a Stripe reversal.
def sourceGrantOf (attemptId : Uuid) (lots : LotTables) : Option CreditGrant :=
  ((lots.grants.filter (fun grant => grant.sourceReference = attemptId.text ∧
      (grant.source = .checkout ∨ grant.source = .autoTopUp))).insertionSort
    (fun left right => left.createdAt ≤ right.createdAt)).head?

def clawBackMove (amountMicros : Int) (attemptId : Uuid) (txnType : TransactionType) (description : String) : Move where
  txnType := txnType
  amountMicros := -amountMicros
  description := description
  referenceId := attemptId.text
  settle wallet txn := clawback txn.id wallet.balanceMicros amountMicros (sourceGrantOf attemptId wallet.lots) wallet.lots

def disputeKey (disputeId : String) : String := "dispute:" ++ disputeId

def clawBackDisputeSpine (amountMicros : Int) (disputeId chargeId : String) (attemptId : Uuid) : Spine where
  key := disputeKey disputeId
  runExpiry := true
  prepare _ := .move (clawBackMove amountMicros attemptId .disputeDeduction ("Dispute lost: " ++ chargeId))
  onReplay := replayed

def stripeRefundAppliedMicros (attemptId : Uuid) (wallet : Wallet) : Int :=
  -((wallet.transactions.filter (fun row =>
      row.transactionType = .stripeRefund ∧ row.referenceId = attemptId.text)).map WalletTransaction.amountMicros).sum

def refundIncrement (refundMicros : Option Int) (delta : Int) : Int :=
  match refundMicros with
  | none => delta
  | some amount => min amount delta

def stripeRefundDescription (chargeId key : String) : String := "Stripe refund: " ++ chargeId ++ " (" ++ key ++ ")"

def clawBackStripeRefundSpine (cumulativeMicros : Int) (key chargeId : String) (attemptId : Uuid)
    (refundMicros : Option Int) : Spine where
  key := key
  runExpiry := true
  prepare wallet :=
    let delta := cumulativeMicros - stripeRefundAppliedMicros attemptId wallet
    if delta < 0 then .answer (refused wallet .refundTotalBelowApplied)
    else
      let increment := refundIncrement refundMicros delta
      if increment ≤ 0 then .answer { outcome := .noop, balanceMicros := wallet.balanceMicros }
      else .move (clawBackMove increment attemptId .stripeRefund (stripeRefundDescription chargeId key))
  onReplay := replayed

end Ubb.Wallets
