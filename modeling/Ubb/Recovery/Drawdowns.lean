import Mathlib.Tactic
import Ubb.Wallets.UsageCharge
import Ubb.Work.Recording

set_option autoImplicit false

-- Three paths meet on one posting: the handler that draws a recorded price
-- down, the Resolution Run that completes a price nobody knew, and the hourly
-- repair that debits every settled posting it finds undebited.
namespace Ubb.Recovery

open Ubb.Library
open Ubb.Wallets (Wallet Call Env emptyWallet usageRows)
open Ubb.Work (Costing Side)

-- The announced cost is what the usage.recorded payload carries: the price as
-- it stood when the posting was recorded.
structure Posting where
  id : Uuid
  billingOwnerId : Uuid
  createdAt : Nat
  costing : Costing
  announcedCostMicros : Option Int
deriving DecidableEq

structure State where
  postings : List Posting
  wallets : Uuid → Wallet

def nothingRecorded : State := { postings := [], wallets := fun _ => emptyWallet }

def State.postingWith (state : State) (id : Uuid) : Option Posting :=
  state.postings.find? (fun posting => decide (posting.id = id))

def microsPerHour : Nat := 3600000000

def grace : Nat := 6 * microsPerHour

def lookback : Nat := 7 * 24 * microsPerHour

def recordUsage (state : State) (id billingOwnerId : Uuid) (now : Nat) (costing : Costing) : State :=
  match state.postingWith id with
  | some _ => state
  | none => { state with
      postings := state.postings ++ [
        { id := id, billingOwnerId := billingOwnerId, createdAt := now, costing := costing
          announcedCostMicros := costing.billedCostMicros }] }

def callWallet (state : State) (owner : Uuid) (call : Call) : State :=
  { state with wallets := Function.update state.wallets owner (Ubb.Wallets.step (state.wallets owner) call) }

def drawDownUsage (state : State) (posting : Posting) (billedCostMicros : Int) (repair : Bool) (env : Env) : State :=
  callWallet state posting.billingOwnerId ⟨.drawDownUsage posting.id billedCostMicros repair, env⟩

def Posting.complete (posting : Posting) (side : Side) (amount : Int) : Posting :=
  { posting with costing := posting.costing.complete side amount }

-- A Resolution Run is one of these for each side it could complete of each
-- posting it takes; the conditional update matches only an amount still owed.
def completePosting (state : State) (id : Uuid) (side : Side) (amount : Int) : State :=
  match state.postingWith id with
  | none => state
  | some posting =>
      if posting.costing.owes side then
        { state with postings := updateRow Posting.id id (fun row => row.complete side amount) state.postings }
      else state

-- The live handler reads the payload, not the posting. An unknown price draws
-- nothing, a zero moves nothing and a negative one is refused.
def handleUsageRecordedBilling (state : State) (id : Uuid) (env : Env) : State :=
  match state.postingWith id with
  | none => state
  | some posting =>
      match posting.announcedCostMicros with
      | none => state
      | some cost => if cost ≤ 0 then state else drawDownUsage state posting cost false env

def billable (now : Nat) (posting : Posting) : Option Int :=
  match posting.costing.billedCostMicros with
  | none => none
  | some cost =>
      if cost ≠ 0 ∧ now ≤ posting.createdAt + lookback ∧ posting.createdAt + grace < now then some cost else none

-- The body of reconcile_usage_drawdowns for one posting of a pass that began at
-- now. A price once known stays, so what the pass's cursor read still holds.
def reconcileUsageDrawdown (state : State) (now : Nat) (id : Uuid) (env : Env) : State :=
  match state.postingWith id with
  | none => state
  | some posting =>
      match billable now posting with
      | none => state
      | some cost =>
          if usageRows id (state.wallets posting.billingOwnerId) ≠ [] then state
          else drawDownUsage state posting cost true env

inductive Event where
  | record (id billingOwnerId : Uuid) (now : Nat) (costing : Costing)
  | complete (posting : Uuid) (side : Side) (amount : Int)
  | handle (posting : Uuid) (env : Env)
  | reconcile (now : Nat) (posting : Uuid) (env : Env)
  | wallet (owner : Uuid) (call : Call) (unrelated : call.op.usageEvent = none)

def step (state : State) : Event → State
  | .record id owner now costing => recordUsage state id owner now costing
  | .complete posting side amount => completePosting state posting side amount
  | .handle posting env => handleUsageRecordedBilling state posting env
  | .reconcile now posting env => reconcileUsageDrawdown state now posting env
  | .wallet owner call _ => callWallet state owner call

def DebitsOnlyPriced (state : State) : Prop :=
  ∀ owner row event, row ∈ (state.wallets owner).transactions → row.usageEventId = some event →
    ∃ posting, state.postingWith event = some posting ∧ posting.announcedCostMicros ≠ none

def findsRecovered (state : State) : Event → Bool
  | .reconcile now id _ => (state.postingWith id).any (fun posting =>
      decide (posting.announcedCostMicros = none) && (billable now posting).isSome)
  | _ => false

def KeepsRecoveriesOut (state : State) (event : Event) : Prop := findsRecovered state event = false

instance (state : State) (event : Event) : Decidable (KeepsRecoveriesOut state event) :=
  inferInstanceAs (Decidable (findsRecovered state event = false))

def Remembers (state next : State) : Prop :=
  ∀ id posting, state.postingWith id = some posting →
    ∃ later, next.postingWith id = some later ∧ later.announcedCostMicros = posting.announcedCostMicros

theorem debits_kept (state next : State) (debits : DebitsOnlyPriced state) (remembers : Remembers state next)
    (wallets : next.wallets = state.wallets) : DebitsOnlyPriced next := by
  intro owner row event member named
  rw [wallets] at member
  obtain ⟨posting, found, priced⟩ := debits owner row event member named
  obtain ⟨later, laterFound, same⟩ := remembers event posting found
  exact ⟨later, laterFound, same ▸ priced⟩

theorem call_wallet_debits (state : State) (owner : Uuid) (call : Call) (debits : DebitsOnlyPriced state)
    (priced : ∀ event, call.op.usageEvent = some event →
      ∃ posting, state.postingWith event = some posting ∧ posting.announcedCostMicros ≠ none) :
    DebitsOnlyPriced (callWallet state owner call) := by
  intro other row event member named
  by_cases here : other = owner
  · subst here
    simp only [callWallet, Function.update_self] at member
    refine Ubb.Wallets.run_rows
      (fun row => ∀ event, row.usageEventId = some event →
        ∃ posting, state.postingWith event = some posting ∧ posting.announcedCostMicros ≠ none)
      (fun later => later = call) ?_ ?_ (state.wallets other) [call] ?_ (by simp) row member event named
    · intro wallet grant debit event named
      cases named
    · intro later wallet spine move isCall isSpine prepared event named
      subst isCall
      have header := (Ubb.Wallets.move_header later.op later.env spine wallet move isSpine prepared).2
      rw [Ubb.Wallets.moveRow, header] at named
      exact priced event named
    · intro old oldMember event oldNamed
      exact debits other old event oldMember oldNamed
  · simp only [callWallet, Function.update_of_ne here] at member
    exact debits other row event member named

theorem record_remembers (state : State) (id owner : Uuid) (now : Nat) (costing : Costing) :
    Remembers state (recordUsage state id owner now costing) := by
  intro event posting found
  refine ⟨posting, ?_, rfl⟩
  unfold recordUsage
  cases held : state.postingWith id with
  | some existing => exact found
  | none =>
      simp only [State.postingWith, List.find?_append] at found ⊢
      rw [found]
      rfl

theorem complete_remembers (state : State) (id : Uuid) (side : Side) (amount : Int) :
    Remembers state (completePosting state id side amount) := by
  intro event posting found
  unfold completePosting
  cases held : state.postingWith id with
  | none => exact ⟨posting, found, rfl⟩
  | some existing =>
      by_cases owes : existing.costing.owes side = true
      · simp only [owes, if_true]
        by_cases here : event = id
        · subst here
          have hit := find_update_row_hit Posting.id event (fun row => row.complete side amount) state.postings
            (fun _ same => same)
          rw [← State.postingWith, found] at hit
          exact ⟨posting.complete side amount, hit, rfl⟩
        · have missed := find_update_row_other Posting.id id event (fun row => row.complete side amount) state.postings
            (fun _ same => same) here
          rw [← State.postingWith, found] at missed
          exact ⟨posting, missed, rfl⟩
      · simp only [owes, Bool.false_eq_true, if_false]
        exact ⟨posting, found, rfl⟩

theorem posting_with_id (state : State) (id : Uuid) (posting : Posting) (found : state.postingWith id = some posting) :
    posting.id = id :=
  (find_key_some Posting.id id state.postings posting found).2

theorem draw_down_debits (state : State) (id : Uuid) (posting : Posting) (cost : Int) (repair : Bool) (env : Env)
    (debits : DebitsOnlyPriced state) (found : state.postingWith id = some posting)
    (priced : posting.announcedCostMicros ≠ none) : DebitsOnlyPriced (drawDownUsage state posting cost repair env) := by
  apply call_wallet_debits state _ _ debits
  intro event named
  have sameEvent : posting.id = event := Option.some.inj named
  rw [← sameEvent, posting_with_id state id posting found]
  exact ⟨posting, found, priced⟩

theorem step_debits (state : State) (event : Event) (debits : DebitsOnlyPriced state)
    (keeps : KeepsRecoveriesOut state event) : DebitsOnlyPriced (step state event) := by
  cases event with
  | record id owner now costing =>
      refine debits_kept state _ debits (record_remembers state id owner now costing) ?_
      simp only [step, recordUsage]
      split <;> rfl
  | complete id side amount =>
      refine debits_kept state _ debits (complete_remembers state id side amount) ?_
      simp only [step, completePosting]
      split
      · rfl
      · split <;> rfl
  | handle id env =>
      simp only [step, handleUsageRecordedBilling]
      cases found : state.postingWith id with
      | none => exact debits
      | some posting =>
          cases announced : posting.announcedCostMicros with
          | none => simpa [announced] using debits
          | some cost =>
              by_cases nothing : cost ≤ 0
              · simpa [announced, nothing] using debits
              · simp only [announced, nothing, if_false]
                exact draw_down_debits state id posting cost false env debits found (by simp [announced])
  | reconcile now id env =>
      simp only [step, reconcileUsageDrawdown]
      cases found : state.postingWith id with
      | none => exact debits
      | some posting =>
          cases due : billable now posting with
          | none => simpa [due] using debits
          | some cost =>
              have priced : posting.announcedCostMicros ≠ none := by
                simpa [KeepsRecoveriesOut, findsRecovered, found, due] using keeps
              by_cases debited : usageRows id (state.wallets posting.billingOwnerId) ≠ []
              · simpa [due, debited] using debits
              · simp only [due, debited, if_false]
                exact draw_down_debits state id posting cost true env debits found priced
  | wallet owner call unrelated =>
      apply call_wallet_debits state owner call debits
      intro event named
      rw [unrelated] at named
      cases named

theorem recovery_moves_no_money_unless_repaired (events reached : List Event)
    (keeps : Along step KeepsRecoveriesOut nothingRecorded events) (stage : reached <+: events) :
    DebitsOnlyPriced (run step nothingRecorded reached) := by
  refine along_invariant_throughout step DebitsOnlyPriced KeepsRecoveriesOut step_debits nothingRecorded events reached ?_
    keeps stage
  intro owner row event member
  cases member

def unknownPrice : Costing :=
  { providerCostMicros := some 0, costingStatus := .known, billedCostMicros := none, pricingStatus := .unknown
    costAgrees := Work.free_cost_agrees, priceAgrees := Work.unknown_price_agrees }

def knownPrice (cost : Int) : Costing :=
  { providerCostMicros := some 0, costingStatus := .known, billedCostMicros := some cost, pricingStatus := .known
    costAgrees := Work.free_cost_agrees, priceAgrees := Work.known_price_agrees cost }

-- A price known at recording is drawn down live; a price recovered after the
-- window closed is left alone by the repair.
def pricedAndLateRecovery : List Event :=
  [.record ⟨"p"⟩ ⟨"o"⟩ 0 (knownPrice 300), .handle ⟨"p"⟩ (Ubb.Wallets.sampleEnv 1 ""),
    .record ⟨"q"⟩ ⟨"o"⟩ 0 unknownPrice, .complete ⟨"q"⟩ .customerPrice 700,
    .reconcile (lookback + 1) ⟨"q"⟩ (Ubb.Wallets.sampleEnv 2 "")]

theorem late_recovery_moves_no_money :
    ((run step nothingRecorded pricedAndLateRecovery).wallets ⟨"o"⟩).transactions.map (fun row => row.usageEventId) =
        [some ⟨"p"⟩] ∧
      DebitsOnlyPriced (run step nothingRecorded pricedAndLateRecovery) :=
  ⟨by decide, recovery_moves_no_money_unless_repaired pricedAndLateRecovery pricedAndLateRecovery (by decide)
    (List.prefix_refl _)⟩

def recoveredWithinTheWeek : List Event :=
  [.record ⟨"q"⟩ ⟨"o"⟩ 0 unknownPrice, .complete ⟨"q"⟩ .customerPrice 700,
    .reconcile (grace + 1) ⟨"q"⟩ (Ubb.Wallets.sampleEnv 2 "")]

theorem recovered_price_is_drawn_down : ¬∀ events : List Event, DebitsOnlyPriced (run step nothingRecorded events) := by
  intro always
  have debited : ((run step nothingRecorded recoveredWithinTheWeek).wallets ⟨"o"⟩).transactions.map
      (fun row => row.usageEventId) = [some ⟨"q"⟩] := by decide
  obtain ⟨row, member, named⟩ := List.mem_map.mp (debited ▸ List.mem_singleton_self (some (⟨"q"⟩ : Uuid)))
  obtain ⟨posting, found, priced⟩ := always recoveredWithinTheWeek ⟨"o"⟩ row ⟨"q"⟩ member named
  have unpriced : ((run step nothingRecorded recoveredWithinTheWeek).postingWith ⟨"q"⟩).map Posting.announcedCostMicros =
      some none := by decide
  rw [found] at unpriced
  exact priced (Option.some.inj unpriced)

end Ubb.Recovery
