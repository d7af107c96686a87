import Ubb.Core.Uuid
import Ubb.Library.KeyedRows

set_option autoImplicit false

namespace Ubb.Wallets

open Ubb.Library

-- Money is in micros and unbounded here; an instant counts microseconds.
def microsPerDay : Nat := 86400000000

inductive GrantKind where
  | paid
  | promo
deriving DecidableEq, Repr

inductive GrantStatus where
  | active
  | depleted
  | expired
  | voided
deriving DecidableEq, Repr

inductive GrantSource where
  | checkout
  | autoTopUp
  | api
  | other
deriving DecidableEq, Repr

inductive TransactionType where
  | topUp
  | usageDeduction
  | withdrawal
  | refund
  | adjustment
  | disputeDeduction
  | stripeRefund
  | debit
  | grant
  | grantExpiry
  | grantVoid
deriving DecidableEq, Repr

inductive AllocationType where
  | usage
  | withdrawal
  | clawback
  | overageRecoup
deriving DecidableEq, Repr

-- Ledger rows are never deleted, so a row's position is its identity. The
-- key column is nullable in the table; every operation here writes one.
structure WalletTransaction where
  id : Nat
  transactionType : TransactionType
  amountMicros : Int
  balanceAfterMicros : Int
  description : String
  referenceId : String
  idempotencyKey : String
  usageEventId : Option Uuid
  movementReason : String
  actor : String
deriving DecidableEq, Repr

structure CreditGrant where
  id : Uuid
  kind : GrantKind
  grantedMicros : Int
  remainingMicros : Int
  expiredMicros : Int
  voidedMicros : Int
  expiresAt : Option Nat
  status : GrantStatus
  source : GrantSource
  sourceReference : String
  sourceTransaction : Nat
  createdAt : Nat
deriving DecidableEq, Repr

structure GrantAllocation where
  id : Nat
  grant : Uuid
  walletTransaction : Nat
  amountMicros : Int
  refundedMicros : Int
  allocationType : AllocationType
deriving DecidableEq, Repr

-- The two lot tables of one wallet. GrantLedger writes these and nothing
-- else, apart from the expiry debits it books on the ledger itself.
structure LotTables where
  grants : List CreditGrant
  allocations : List GrantAllocation
deriving DecidableEq, Repr

inductive Signal where
  | creditGrantExpired (grantId : Uuid) (kind : GrantKind) (expiredMicros balanceMicros : Int)
  | walletBalanceLow (balanceMicros thresholdMicros suggestedTopupMicros : Int)
  | walletBalanceOverage (balanceMicros overageLimitMicros overageMicros : Int)
  | withdrawalRequested (amountMicros : Int) (transactionId : Nat) (idempotencyKey : String)
  | refundRequested (usageEventId : Uuid) (refundAmountMicros : Int) (reason idempotencyKey : String)
  | stopDriven (balanceMicros stopBoundMicros : Int)
  | softFloorCrossed (balanceMicros softMinBalanceMicros : Int)
  | customerSuspended (balanceMicros : Int)
deriving DecidableEq, Repr

-- One wallet with everything its operations read and write: the cached
-- balance, the ledger in write order, the lots, the live-counter credits the
-- commits registered and the outbox signals. The row lock makes the in-memory
-- balance and the stored one the same value between writes.
structure Wallet where
  balanceMicros : Int
  negativeSince : Option Nat
  transactions : List WalletTransaction
  lots : LotTables
  mirrored : List Int
  signals : List Signal
deriving DecidableEq, Repr

def emptyWallet : Wallet := ⟨0, none, [], ⟨[], []⟩, [], []⟩

def saveBalance (now : Nat) (balance : Int) (wallet : Wallet) : Wallet :=
  { wallet with
    balanceMicros := balance
    negativeSince :=
      if balance < 0 ∧ wallet.negativeSince = none then some now
      else if 0 ≤ balance ∧ wallet.negativeSince ≠ none then none
      else wallet.negativeSince }

@[simp] theorem save_balance_lots (now : Nat) (balance : Int) (wallet : Wallet) :
    (saveBalance now balance wallet).lots = wallet.lots := rfl

def Wallet.find (wallet : Wallet) (key : String) : Option WalletTransaction :=
  wallet.transactions.find? (fun row => row.idempotencyKey = key)

-- The INSERT under the partial unique constraint on (wallet, idempotency_key).
-- The none result is the IntegrityError.
def insertTransaction (row : WalletTransaction) (wallet : Wallet) : Option Wallet :=
  match wallet.find row.idempotencyKey with
  | some _ => none
  | none => some { wallet with transactions := wallet.transactions ++ [row] }

theorem insert_transaction_cases (row : WalletTransaction) (wallet : Wallet) :
    (∃ existing, wallet.find row.idempotencyKey = some existing ∧ insertTransaction row wallet = none) ∨
      (wallet.find row.idempotencyKey = none ∧
        insertTransaction row wallet = some { wallet with transactions := wallet.transactions ++ [row] }) := by
  cases found : wallet.find row.idempotencyKey with
  | none => exact .inr ⟨rfl, by simp only [insertTransaction, found]⟩
  | some existing => exact .inl ⟨existing, rfl, by simp only [insertTransaction, found]⟩

def LotTables.saveGrant (lots : LotTables) (target : Uuid) (write : CreditGrant → CreditGrant) : LotTables :=
  { lots with grants := updateRow CreditGrant.id target write lots.grants }

def LotTables.saveAllocation (lots : LotTables) (target : Nat) (write : GrantAllocation → GrantAllocation) : LotTables :=
  { lots with allocations := updateRow GrantAllocation.id target write lots.allocations }

@[simp] theorem save_grant_allocations (lots : LotTables) (target : Uuid) (write : CreditGrant → CreditGrant) :
    (lots.saveGrant target write).allocations = lots.allocations := rfl

end Ubb.Wallets
