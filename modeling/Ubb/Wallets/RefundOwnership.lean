import Ubb.Wallets.UsageCharge

set_option autoImplicit false

namespace Ubb.Wallets

open Ubb.Library

inductive AccountType where
  | individual
  | business
  | seat
deriving DecidableEq, Repr

inductive BillingTopology where
  | unset
  | pooled
  | allocated
deriving DecidableEq, Repr

structure Customer where
  id : Uuid
  accountType : AccountType
  parent : Option Uuid
  billingTopology : BillingTopology
deriving DecidableEq, Repr

structure UsageEvent where
  id : Uuid
  customerId : Uuid
  billingOwnerId : Uuid
  billedCostMicros : Option Int
deriving DecidableEq, Repr

-- One tenant: its customers, its usage events and the wallet of each billing
-- owner. A wallet that nothing has touched is an empty one.
structure Tenant where
  customers : List Customer
  events : List UsageEvent
  wallets : Uuid → Wallet

def Tenant.customer (tenant : Tenant) (customerId : Uuid) : Option Customer :=
  tenant.customers.find? (fun customer => customer.id = customerId)

def Tenant.event (tenant : Tenant) (usageEventId : Uuid) : Option UsageEvent :=
  tenant.events.find? (fun event => event.id = usageEventId)

def resolveBillingOwner (tenant : Tenant) (customer : Customer) : Uuid :=
  match customer.accountType, customer.parent.bind tenant.customer with
  | .seat, some parent => if parent.billingTopology = .pooled then parent.id else customer.id
  | _, _ => customer.id

def getPostingPrice (tenant : Tenant) (usageEventId : Uuid) : Option (Option Int) :=
  (tenant.event usageEventId).map UsageEvent.billedCostMicros

-- lock_for_billing refuses an id that is not itself a billing owner; the whole
-- operation is then rolled back.
def lockForBilling (tenant : Tenant) (ownerId : Uuid) : Option Wallet :=
  match tenant.customer ownerId with
  | none => none
  | some customer => if resolveBillingOwner tenant customer = ownerId then some (tenant.wallets ownerId) else none

def Tenant.saveWallet (tenant : Tenant) (ownerId : Uuid) (wallet : Wallet) : Tenant :=
  { tenant with wallets := fun other => if other = ownerId then wallet else tenant.wallets other }

def operate (tenant : Tenant) (ownerId : Uuid) (op : Op) (env : Env) : Tenant :=
  match lockForBilling tenant ownerId with
  | none => tenant
  | some wallet => tenant.saveWallet ownerId (step wallet ⟨op, { env with getPostingPrice := getPostingPrice tenant }⟩)

inductive Request where
  | createCustomer (customer : Customer)
  | recordUsage (usageEventId customerId : Uuid) (billedCostMicros : Option Int)
  | resolvePrice (usageEventId : Uuid) (billedCostMicros : Int)
  | drawDown (usageEventId : Uuid) (repair : Bool) (env : Env)
  | refundUsage (customerId usageEventId : Uuid) (idempotencyKey reason : String) (env : Env)

def recordUsage (tenant : Tenant) (usageEventId customerId : Uuid) (billedCostMicros : Option Int) : Tenant :=
  match tenant.event usageEventId, tenant.customer customerId with
  | none, some customer =>
      let event := ⟨usageEventId, customerId, resolveBillingOwner tenant customer, billedCostMicros⟩
      { tenant with events := tenant.events ++ [event] }
  | _, _ => tenant

def resolveEventPrice (billedCostMicros : Int) (event : UsageEvent) : UsageEvent :=
  if event.billedCostMicros = none then { event with billedCostMicros := some billedCostMicros } else event

def drawDownEvent (tenant : Tenant) (usageEventId : Uuid) (repair : Bool) (env : Env) : Tenant :=
  match tenant.event usageEventId with
  | some ⟨_, _, billingOwnerId, some billedCostMicros⟩ =>
      if billedCostMicros = 0 then tenant
      else operate tenant billingOwnerId (.drawDownUsage usageEventId billedCostMicros repair) env
  | _ => tenant

-- The refund endpoint: the wallet is the path customer's billing owner's, the
-- price is looked up by the event alone.
def refundEvent (tenant : Tenant) (customerId usageEventId : Uuid) (idempotencyKey reason : String) (env : Env) : Tenant :=
  match tenant.customer customerId with
  | none => tenant
  | some customer =>
      operate tenant (resolveBillingOwner tenant customer) (.refundUsage usageEventId idempotencyKey reason) env

def serve (tenant : Tenant) : Request → Tenant
  | .createCustomer customer =>
      if (tenant.customer customer.id).isSome then tenant else { tenant with customers := tenant.customers ++ [customer] }
  | .recordUsage usageEventId customerId billedCostMicros => recordUsage tenant usageEventId customerId billedCostMicros
  | .resolvePrice usageEventId billedCostMicros =>
      { tenant with events := updateRow UsageEvent.id usageEventId (resolveEventPrice billedCostMicros) tenant.events }
  | .drawDown usageEventId repair env => drawDownEvent tenant usageEventId repair env
  | .refundUsage customerId usageEventId idempotencyKey reason env =>
      refundEvent tenant customerId usageEventId idempotencyKey reason env

def newTenant : Tenant := ⟨[], [], fun _ => emptyWallet⟩

def RefundsOwned (tenant : Tenant) : Prop :=
  ∀ ownerId, ∀ row ∈ (tenant.wallets ownerId).transactions, row.transactionType = .refund →
    ∃ event ∈ tenant.events, event.id.text = row.referenceId ∧ event.billingOwnerId = ownerId

-- Asked of the refunds that apply: of an event whose price is known, under a
-- key the wallet has not used.
def OwnUsage (tenant : Tenant) : Request → Prop
  | .refundUsage customerId usageEventId idempotencyKey _ _ =>
      ∀ customer event, tenant.customer customerId = some customer → tenant.event usageEventId = some event →
        event.billedCostMicros.isSome = true →
          (tenant.wallets (resolveBillingOwner tenant customer)).find idempotencyKey = none →
            event.billingOwnerId = resolveBillingOwner tenant customer
  | _ => True

theorem refunds_owned_events (before after : Tenant) (sameWallets : after.wallets = before.wallets)
    (persists : ∀ event ∈ before.events, ∃ later ∈ after.events, later.id = event.id ∧ later.billingOwnerId = event.billingOwnerId)
    (owned : RefundsOwned before) : RefundsOwned after := by
  intro ownerId row member isRefund
  rw [sameWallets] at member
  obtain ⟨event, inside, names, owner⟩ := owned ownerId row member isRefund
  obtain ⟨later, laterMember, sameId, sameOwner⟩ := persists event inside
  exact ⟨later, laterMember, by rw [sameId]; exact names, sameOwner.trans owner⟩

theorem operate_owned (tenant : Tenant) (ownerId : Uuid) (op : Op) (env : Env) (owned : RefundsOwned tenant)
    (writes : ∀ wallet spine move, Extends (tenant.wallets ownerId) wallet → wallet.find spine.key = none →
      op.spine { env with getPostingPrice := getPostingPrice tenant } = some spine →
      spine.prepare wallet = .move move → move.txnType = .refund →
      ∃ event ∈ tenant.events, event.id.text = move.referenceId ∧ event.billingOwnerId = ownerId) :
    RefundsOwned (operate tenant ownerId op env) := by
  rw [operate]
  cases locked : lockForBilling tenant ownerId with
  | none => exact owned
  | some wallet =>
      have walletEq : wallet = tenant.wallets ownerId := by
        rw [lockForBilling] at locked
        split at locked
        · cases locked
        · split at locked
          · exact (Option.some.inj locked).symm
          · cases locked
      intro other row member isRefund
      by_cases same : other = ownerId
      · subst same
        simp only [Tenant.saveWallet, if_true, walletEq] at member
        refine step_rows (fun row => row.transactionType = .refund →
            ∃ event ∈ tenant.events, event.id.text = row.referenceId ∧ event.billingOwnerId = other) ?_
          (tenant.wallets other) ⟨op, { env with getPostingPrice := getPostingPrice tenant }⟩ (owned other) ?_ row member isRefund
        · intro reached grant debit isRefund
          cases isRefund
        · intro reached spine move extended free isSpine prepared isRefund
          exact writes reached spine move extended free isSpine prepared isRefund
      · simp only [Tenant.saveWallet, if_neg same] at member
        exact owned other row member isRefund

theorem event_member (tenant : Tenant) (usageEventId : Uuid) (event : UsageEvent) (found : tenant.event usageEventId = some event) :
    event ∈ tenant.events ∧ event.id = usageEventId :=
  find_key_some UsageEvent.id usageEventId tenant.events event found

theorem refund_event_owned (tenant : Tenant) (customerId usageEventId : Uuid) (key reason : String) (env : Env)
    (owned : RefundsOwned tenant) (own : OwnUsage tenant (.refundUsage customerId usageEventId key reason env)) :
    RefundsOwned (refundEvent tenant customerId usageEventId key reason env) := by
  rw [refundEvent]
  cases found : tenant.customer customerId with
  | none => exact owned
  | some customer =>
      apply operate_owned tenant _ _ env owned
      intro wallet spine move extended free isSpine prepared _
      cases isSpine
      have unused : (tenant.wallets (resolveBillingOwner tenant customer)).find key = none := by
        by_contra used
        obtain ⟨row, stored⟩ := Option.ne_none_iff_exists'.mp used
        have kept := find_extended key row _ wallet stored extended
        rw [show wallet.find key = none from free] at kept
        cases kept
      simp only [refundUsageSpine, getPostingPrice] at prepared
      cases stored : tenant.event usageEventId with
      | none => simp [stored] at prepared
      | some event =>
          obtain ⟨member, idEq⟩ := event_member tenant usageEventId event stored
          cases price : event.billedCostMicros with
          | none => simp [stored, price] at prepared
          | some cost =>
              refine ⟨event, member, ?_, own customer event found stored (by rw [price]; rfl) unused⟩
              rw [idEq]
              simp only [stored, Option.map_some, price] at prepared
              cases prepared
              rfl

theorem draw_down_owned (tenant : Tenant) (usageEventId : Uuid) (repair : Bool) (env : Env) (owned : RefundsOwned tenant) :
    RefundsOwned (drawDownEvent tenant usageEventId repair env) := by
  rw [drawDownEvent]
  split
  · split
    · exact owned
    · apply operate_owned tenant _ _ env owned
      intro wallet spine move _ _ isSpine prepared isRefund
      have header := (move_header _ _ spine wallet move isSpine prepared).1
      rw [header] at isRefund
      cases isRefund
  · exact owned

theorem serve_owned (tenant : Tenant) (request : Request) (owned : RefundsOwned tenant) (own : OwnUsage tenant request) :
    RefundsOwned (serve tenant request) := by
  cases request with
  | createCustomer customer =>
      rw [serve]
      split
      · exact owned
      · exact owned
  | recordUsage usageEventId customerId billed =>
      rw [serve, recordUsage]
      split
      · exact refunds_owned_events tenant _ rfl (fun event member => ⟨event, List.mem_append_left _ member, rfl, rfl⟩) owned
      · exact owned
  | resolvePrice usageEventId billed =>
      refine refunds_owned_events tenant (serve tenant (.resolvePrice usageEventId billed)) rfl ?_ owned
      intro event member
      by_cases hit : event.id = usageEventId
      · refine ⟨resolveEventPrice billed event, List.mem_map.mpr ⟨event, member, if_pos hit⟩, ?_⟩
        rw [resolveEventPrice]
        split
        · exact ⟨rfl, rfl⟩
        · exact ⟨rfl, rfl⟩
      · exact ⟨event, update_row_other UsageEvent.id usageEventId _ tenant.events event member hit, rfl, rfl⟩
  | drawDown usageEventId repair env => exact draw_down_owned tenant usageEventId repair env owned
  | refundUsage customerId usageEventId key reason env =>
      exact refund_event_owned tenant customerId usageEventId key reason env owned own

theorem refunds_stay_with_owner (requests reached : List Request) (own : Along serve OwnUsage newTenant requests)
    (stage : reached <+: requests) : RefundsOwned (run serve newTenant reached) := by
  apply along_invariant_throughout serve RefundsOwned OwnUsage serve_owned newTenant requests reached _ own stage
  intro ownerId row member
  cases member

def twoCustomers : List Request :=
  [.createCustomer ⟨⟨"cust-a"⟩, .individual, none, .unset⟩, .createCustomer ⟨⟨"cust-b"⟩, .individual, none, .unset⟩,
    .recordUsage ⟨"ev-b"⟩ ⟨"cust-b"⟩ (some 300), .drawDown ⟨"ev-b"⟩ false (sampleEnv 1 "")]

theorem foreign_refund_credits_wallet :
    ((run serve newTenant (twoCustomers ++ [.refundUsage ⟨"cust-a"⟩ ⟨"ev-b"⟩ "refund-1" "" (sampleEnv 2 "")])).wallets
      ⟨"cust-a"⟩).balanceMicros = 300 ∧
    ¬ ∀ requests : List Request, RefundsOwned (run serve newTenant requests) := by
  refine ⟨by decide, ?_⟩
  intro always
  let tenant := run serve newTenant (twoCustomers ++ [.refundUsage ⟨"cust-a"⟩ ⟨"ev-b"⟩ "refund-1" "" (sampleEnv 2 "")])
  have refunds : ∃ row ∈ (tenant.wallets ⟨"cust-a"⟩).transactions, row.transactionType = .refund := by decide
  obtain ⟨row, member, isRefund⟩ := refunds
  obtain ⟨event, inside, _, owner⟩ := always _ ⟨"cust-a"⟩ row member isRefund
  have foreign : ∀ event ∈ tenant.events, event.billingOwnerId ≠ ⟨"cust-a"⟩ := by decide
  exact foreign event inside owner

theorem own_refund_owned :
    ((run serve newTenant (twoCustomers ++ [.refundUsage ⟨"cust-b"⟩ ⟨"ev-b"⟩ "refund-1" "" (sampleEnv 2 "")])).wallets
      ⟨"cust-b"⟩).balanceMicros = 0 ∧
    RefundsOwned (run serve newTenant (twoCustomers ++ [.refundUsage ⟨"cust-b"⟩ ⟨"ev-b"⟩ "refund-1" "" (sampleEnv 2 "")])) := by
  refine ⟨by decide, refunds_stay_with_owner _ _ ?_ (List.prefix_refl _)⟩
  refine ⟨trivial, trivial, trivial, trivial, ?_, trivial⟩
  intro customer event foundCustomer foundEvent _ _
  have customerEq : customer = ⟨⟨"cust-b"⟩, .individual, none, .unset⟩ := (Option.some.inj foundCustomer).symm
  have eventEq : event = ⟨⟨"ev-b"⟩, ⟨"cust-b"⟩, ⟨"cust-b"⟩, some 300⟩ := (Option.some.inj foundEvent).symm
  rw [customerEq, eventEq]
  rfl

end Ubb.Wallets
