import Mathlib.Data.List.Sort
import Ubb.Wallets.Model

set_option autoImplicit false

namespace Ubb.Wallets

open Ubb.Library

structure AutoTopUpConfig where
  triggerThresholdMicros : Int
  topUpAmountMicros : Int
deriving DecidableEq, Repr

-- What one call reads besides the wallet: the clock, the uuid4 a lot it mints
-- would get, the owner's policy rows and the metering read contract. Each call
-- has its own, so nothing is assumed to stay fixed between two calls.
structure Env where
  now : Nat
  newGrantId : Uuid
  holdsAWallet : Bool
  enforcing : Bool
  ownerActive : Bool
  minBalanceMicros : Int
  softMinBalanceMicros : Option Int
  autoTopUp : Option AutoTopUpConfig
  topupGrantExpiryDays : Option Nat
  getPostingPrice : Uuid → Option (Option Int)

-- expires_at ASC NULLS LAST
def compareExpiry : Option Nat → Option Nat → Ordering
  | none, none => .eq
  | none, some _ => .gt
  | some _, none => .lt
  | some left, some right => compare left right

def kindRank : GrantKind → Nat
  | .promo => 0
  | .paid => 1

def consumptionOrder (left right : CreditGrant) : Ordering :=
  (compareExpiry left.expiresAt right.expiresAt).then
    ((compare (kindRank left.kind) (kindRank right.kind)).then
      ((compare left.createdAt right.createdAt).then (compare left.id.text right.id.text)))

def isActive (grant : CreditGrant) : Bool := grant.status = .active

def activeGrants (lots : LotTables) : List CreditGrant :=
  (lots.grants.filter isActive).insertionSort (fun left right => (consumptionOrder left right).isLE)

def activeSum (lots : LotTables) : Int := ((lots.grants.filter isActive).map CreditGrant.remainingMicros).sum

def isDue (now : Nat) (grant : CreditGrant) : Bool :=
  isActive grant && (match grant.expiresAt with
    | none => false
    | some expiry => expiry ≤ now)

def expiryOrder (left right : CreditGrant) : Ordering :=
  (compareExpiry left.expiresAt right.expiresAt).then (compare left.id.text right.id.text)

def dueGrants (now : Nat) (lots : LotTables) : List CreditGrant :=
  (lots.grants.filter (isDue now)).insertionSort (fun left right => (expiryOrder left right).isLE)

def expiryKey (grant : Uuid) : String := "expiry:" ++ grant.text

def kindText : GrantKind → String
  | .paid => "paid"
  | .promo => "promo"

-- An expiry debit alerts exactly like a drawdown, and only when it moved money.
def expirySignals (env : Env) (grant : CreditGrant) (debit newBalance : Int) : List Signal :=
  .creditGrantExpired grant.id grant.kind (grant.expiredMicros + grant.remainingMicros) newBalance ::
    (if 0 < debit then
      match env.autoTopUp with
      | some config =>
          if newBalance < config.triggerThresholdMicros then
            [.walletBalanceLow newBalance config.triggerThresholdMicros config.topUpAmountMicros]
          else []
      | none => []
    else [])

def expiryRow (wallet : Wallet) (grant : CreditGrant) (debit : Int) : WalletTransaction where
  id := wallet.transactions.length
  transactionType := .grantExpiry
  amountMicros := -debit
  balanceAfterMicros := wallet.balanceMicros - debit
  description := "Credit grant expired (" ++ kindText grant.kind ++ ")"
  referenceId := grant.id.text
  idempotencyKey := expiryKey grant.id
  usageEventId := none
  movementReason := ""
  actor := ""

-- The field writes of a lot. Each takes the loaded instance, whose values it
-- computes with, and the stored row, whose other columns it leaves alone.
def writeRetired (row : CreditGrant) : CreditGrant := { row with status := .expired }

def writeExpired (grant row : CreditGrant) : CreditGrant :=
  { row with
    expiredMicros := grant.expiredMicros + grant.remainingMicros
    remainingMicros := 0
    status := .expired }

def writeVoided (grant row : CreditGrant) : CreditGrant :=
  { row with
    voidedMicros := grant.voidedMicros + grant.remainingMicros
    remainingMicros := 0
    status := .voided }

def writeConsumed (take : Int) (grant row : CreditGrant) : CreditGrant :=
  { row with
    remainingMicros := grant.remainingMicros - take
    status := if grant.remainingMicros - take = 0 ∧ grant.status = .active then .depleted else row.status }

def writeReversed (take : Int) (grant row : CreditGrant) : CreditGrant :=
  { row with
    remainingMicros := grant.remainingMicros - take
    voidedMicros := grant.voidedMicros + take
    status := if grant.remainingMicros - take = 0 then .voided else row.status }

def writeRestored (take : Int) (grant row : CreditGrant) : CreditGrant :=
  { row with
    remainingMicros := grant.remainingMicros + take
    status := if grant.status = .depleted then .active else row.status }

def writeRefunded (take : Int) (alloc row : GrantAllocation) : GrantAllocation :=
  { row with refundedMicros := alloc.refundedMicros + take }

-- One iteration of expire_due. The lot is the instance loaded before the loop;
-- a taken expiry key skips the lot and leaves it active.
def expireGrant (env : Env) (grant : CreditGrant) (wallet : Wallet) : Wallet × Nat :=
  if grant.remainingMicros ≤ 0 then
    ({ wallet with lots := wallet.lots.saveGrant grant.id writeRetired }, 1)
  else
    let debit := min grant.remainingMicros (max wallet.balanceMicros 0)
    let newBalance := wallet.balanceMicros - debit
    match insertTransaction (expiryRow wallet grant debit) wallet with
    | none => (wallet, 0)
    | some booked =>
        let saved := saveBalance env.now newBalance booked
        ({ saved with
          lots := saved.lots.saveGrant grant.id (writeExpired grant)
          signals := saved.signals ++ expirySignals env grant debit newBalance }, 1)

def expireLoop (env : Env) : List CreditGrant → Wallet → Wallet × Nat
  | [], wallet => (wallet, 0)
  | grant :: rest, wallet =>
      let first := expireGrant env grant wallet
      let later := expireLoop env rest first.1
      (later.1, first.2 + later.2)

-- The sweep passes its own reading of the clock; every other caller passes none.
def expireDue (env : Env) (now : Option Nat) (wallet : Wallet) : Wallet × Nat :=
  expireLoop env (dueGrants (now.getD env.now) wallet.lots) wallet

def promoRemaining (lots : LotTables) : Int :=
  ((lots.grants.filter (fun grant => isActive grant && grant.kind = .promo)).map CreditGrant.remainingMicros).sum

def allocateLoop (transaction : Nat) (allocationType : AllocationType) :
    List CreditGrant → Int → List GrantAllocation → LotTables → LotTables × Int × List GrantAllocation
  | [], left, rows, lots => (lots, left, rows)
  | grant :: rest, left, rows, lots =>
      if left ≤ 0 then (lots, left, rows)
      else
        let take := min grant.remainingMicros left
        if take ≤ 0 then allocateLoop transaction allocationType rest left rows lots
        else
          let saved := lots.saveGrant grant.id (writeConsumed take grant)
          let row : GrantAllocation :=
            ⟨lots.allocations.length + rows.length, grant.id, transaction, take, 0, allocationType⟩
          allocateLoop transaction allocationType rest (left - take) (rows ++ [row]) saved

def allocationCandidates (excludePromo : Bool) (preferGrant : Option CreditGrant) (lots : LotTables) : List CreditGrant :=
  let grants := activeGrants lots
  let grants := if excludePromo then grants.filter (fun grant => grant.kind ≠ .promo) else grants
  match preferGrant with
  | none => grants
  | some preferred => preferred :: grants.filter (fun grant => grant.id ≠ preferred.id)

def allocate (transaction : Nat) (amount : Int) (excludePromo : Bool) (preferGrant : Option CreditGrant)
    (allocationType : AllocationType) (lots : LotTables) : LotTables × Int :=
  if amount ≤ 0 then (lots, 0)
  else
    let done := allocateLoop transaction allocationType (allocationCandidates excludePromo preferGrant lots) amount [] lots
    ({ done.1 with allocations := done.1.allocations ++ done.2.2 }, amount - done.2.1)

-- The lot of a credit that just landed. A credit onto an overdrawn wallet pays
-- the debt first, and that part is allocated away at birth. The none result is
-- the IntegrityError of a primary key that is already taken.
def createGrant (env : Env) (txn : WalletTransaction) (kind : GrantKind) (amount : Int) (expiresAt : Option Nat)
    (source : GrantSource) (sourceReference : String) (lots : LotTables) : Option (LotTables × CreditGrant) :=
  if lots.grants.any (fun grant => grant.id = env.newGrantId) then none
  else
    let grant : CreditGrant :=
      ⟨env.newGrantId, kind, amount, amount, 0, 0, expiresAt, .active, source, sourceReference, txn.id, env.now⟩
    let oldBalance := txn.balanceAfterMicros - txn.amountMicros
    if oldBalance < 0 then
      let recoup := min amount (-oldBalance)
      let remaining := amount - recoup
      let recouped := { grant with
        remainingMicros := remaining
        status := if remaining = 0 then .depleted else .active }
      some (⟨lots.grants ++ [recouped],
        lots.allocations ++ [⟨lots.allocations.length, env.newGrantId, txn.id, recoup, 0, .overageRecoup⟩]⟩, recouped)
    else some ({ lots with grants := lots.grants ++ [grant] }, grant)

def voidSource (amount : Int) (sourceGrant : Option CreditGrant) (lots : LotTables) : LotTables :=
  match sourceGrant with
  | none => lots
  | some source =>
      if 0 < source.remainingMicros ∧ source.status = .active then
        let take := min source.remainingMicros amount
        if 0 < take then lots.saveGrant source.id (writeReversed take source) else lots
      else lots

def clawback (transaction : Nat) (balance amount : Int) (sourceGrant : Option CreditGrant) (lots : LotTables) : LotTables :=
  let voided := voidSource amount sourceGrant lots
  let excess := activeSum voided - max balance 0
  if 0 < excess then (allocate transaction excess false none .clawback voided).1 else voided

-- Every allocation carries the lot instance the join loaded with it, so a lot
-- reached twice would be written back from a stale value.
def refundLoop : List (GrantAllocation × CreditGrant) → Int → Int → LotTables → LotTables × Int
  | [], _, total, lots => (lots, total)
  | (alloc, grant) :: rest, headroom, total, lots =>
      if headroom ≤ 0 then (lots, total)
      else if grant.status ≠ .active ∧ grant.status ≠ .depleted then refundLoop rest headroom total lots
      else
        let take := min (min (alloc.amountMicros - alloc.refundedMicros) (grant.grantedMicros - grant.remainingMicros)) headroom
        if take ≤ 0 then refundLoop rest headroom total lots
        else
          let restored := lots.saveGrant grant.id (writeRestored take grant)
          let recorded := restored.saveAllocation alloc.id (writeRefunded take alloc)
          refundLoop rest (headroom - take) (total + take) recorded

def usageAllocations (transaction : Nat) (lots : LotTables) : List (GrantAllocation × CreditGrant) :=
  (lots.allocations.filter (fun alloc => alloc.walletTransaction = transaction ∧ alloc.allocationType = .usage)).filterMap
    (fun alloc => (lots.grants.find? (fun grant => grant.id = alloc.grant)).map (fun grant => (alloc, grant)))

def refund (originalTxn : Option WalletTransaction) (balance : Int) (lots : LotTables) : LotTables × Int :=
  match originalTxn with
  | none => (lots, 0)
  | some original => refundLoop (usageAllocations original.id lots) (max balance 0 - activeSum lots) 0 lots

def topupGrantExpiresAt (env : Env) : Option Nat :=
  match env.topupGrantExpiryDays with
  | none => none
  | some days => if days = 0 then none else some (env.now + days * microsPerDay)

end Ubb.Wallets
