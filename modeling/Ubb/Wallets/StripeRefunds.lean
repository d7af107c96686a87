import Mathlib
import Ubb.Wallets.UsageCharge

set_option autoImplicit false

namespace Ubb.Wallets

open Ubb.Library

-- An object id as Stripe mints them: no colon in it.
structure StripeId where
  text : String
  plain : ':' ∉ text.toList
deriving DecidableEq, Repr

-- A stated currency as the rails read it: US dollars in any spelling, or one
-- that is not admitted.
inductive Currency where
  | usd
  | foreign
deriving DecidableEq, Repr

structure StripeRefund where
  id : Option StripeId
  amount : Option Nat
  currency : Currency
deriving DecidableEq, Repr

structure ChargeRefunded where
  amountRefunded : Option Nat
  refunds : List StripeRefund
  currency : Currency
deriving DecidableEq, Repr

structure TopUpCharge where
  chargeId : String
  attemptId : Uuid
deriving DecidableEq, Repr

inductive RailError where
  | currencyDisagreement
deriving DecidableEq, Repr

def fromMinor (amount : Nat) : Int := amount * 10000

def refundTag : String := "stripe_refund:"

def refundKey (refundId : StripeId) : String := refundTag ++ refundId.text

def levelKey (charge : TopUpCharge) (amountRefunded : Nat) : String :=
  refundTag ++ (charge.chargeId ++ (":" ++ amountRefunded.repr))

def ChargeRefunded.level (event : ChargeRefunded) : Nat := event.amountRefunded.getD 0

-- The stated cumulative, or the sum of the list where the Charge states none.
def cumulativeMicros (event : ChargeRefunded) : Except RailError Int :=
  if event.level ≠ 0 then .ok (fromMinor event.level)
  else if event.refunds.any (fun refund => refund.currency = .foreign) then .error .currencyDisagreement
  else .ok (event.refunds.map (fun refund => fromMinor (refund.amount.getD 0))).sum

def refundOps (charge : TopUpCharge) (cumulative : Int) : List StripeRefund → Except RailError (List Op)
  | [] => .ok []
  | refund :: rest =>
      match refund.id, refund.amount.getD 0 with
      | some refundId, amount + 1 =>
          match refund.currency with
          | .foreign => .error .currencyDisagreement
          | .usd => (refundOps charge cumulative rest).map (fun later =>
              .clawBackStripeRefund cumulative (refundKey refundId) charge.chargeId charge.attemptId (some (fromMinor (amount + 1)))
                :: later)
      | _, _ => refundOps charge cumulative rest

def levelOps (charge : TopUpCharge) (cumulative : Int) (event : ChargeRefunded) : List Op :=
  if event.level ≠ 0 then
    [.clawBackStripeRefund cumulative (levelKey charge event.level) charge.chargeId charge.attemptId none]
  else []

-- One commit for the whole delivery: a disagreement about the currency leaves
-- nothing of it behind.
def handleChargeRefunded (charge : TopUpCharge) (event : ChargeRefunded) (env : Env) (wallet : Wallet) : Except RailError Wallet :=
  if event.level = 0 ∧ event.refunds = [] then .ok wallet
  else
    match event.currency with
    | .foreign => .error .currencyDisagreement
    | .usd =>
        match cumulativeMicros event with
        | .error raised => .error raised
        | .ok cumulative =>
            match refundOps charge cumulative event.refunds with
            | .error raised => .error raised
            | .ok ops => .ok (run step wallet ((ops ++ levelOps charge cumulative event).map (fun op => ⟨op, env⟩)))

-- What reaches the wallet: deliveries about the charge, and other operations.
inductive Incoming where
  | delivered (event : ChargeRefunded) (env : Env)
  | other (call : Call)

def receive (charge : TopUpCharge) (wallet : Wallet) : Incoming → Wallet
  | .delivered event env =>
      match handleChargeRefunded charge event env wallet with
      | .ok after => after
      | .error _ => wallet
  | .other call => step wallet call

def ChargeRefunded.Stated (event : ChargeRefunded) : Prop :=
  0 < event.level ∧ event.currency = .usd ∧ ∀ refund ∈ event.refunds, refund.currency = .usd

def Op.LeavesRefunds (op : Op) : Prop :=
  op.txnType ≠ .stripeRefund ∧ ∀ env spine, op.spine env = some spine → ∀ rest, spine.key ≠ refundTag ++ rest

def Incoming.Stated : Incoming → Prop
  | .delivered event _ => event.Stated
  | .other call => call.op.LeavesRefunds

def Incoming.level : Incoming → Option Int
  | .delivered event _ => some (fromMinor event.level)
  | .other _ => none

theorem level_key_injective (charge : TopUpCharge) (left right : Nat) (same : levelKey charge left = levelKey charge right) :
    left = right := by
  have rests := tagged_inj refundTag _ _ same
  have levels := tagged_inj charge.chargeId _ _ rests
  exact Nat.repr_injective (tagged_inj ":" _ _ levels)

theorem refund_key_ne_level (refundId : StripeId) (charge : TopUpCharge) (level : Nat) :
    refundKey refundId ≠ levelKey charge level := by
  intro same
  apply refundId.plain
  rw [tagged_inj refundTag _ _ same]
  simp [String.toList_append]

theorem applied_row (attemptId : Uuid) (before after : Wallet) (row : WalletTransaction)
    (appended : after.transactions = before.transactions ++ [row]) :
    stripeRefundAppliedMicros attemptId after = stripeRefundAppliedMicros attemptId before +
      if row.transactionType = .stripeRefund ∧ row.referenceId = attemptId.text then -row.amountMicros else 0 := by
  rw [stripeRefundAppliedMicros, stripeRefundAppliedMicros, appended, List.filter_append]
  by_cases counts : row.transactionType = .stripeRefund ∧ row.referenceId = attemptId.text
  · simp [counts]
    ring
  · simp [counts]

def SameRefunds (attemptId : Uuid) (before after : Wallet) : Prop :=
  stripeRefundAppliedMicros attemptId after = stripeRefundAppliedMicros attemptId before ∧
    ∀ rest, after.find (refundTag ++ rest) = before.find (refundTag ++ rest)

theorem same_refunds_trans (attemptId : Uuid) (first second third : Wallet) (left : SameRefunds attemptId first second)
    (right : SameRefunds attemptId second third) : SameRefunds attemptId first third :=
  ⟨right.1.trans left.1, fun rest => (right.2 rest).trans (left.2 rest)⟩

theorem same_refunds_row (attemptId : Uuid) (before after : Wallet) (row : WalletTransaction)
    (appended : after.transactions = before.transactions ++ [row]) (notRefund : row.transactionType ≠ .stripeRefund)
    (otherKey : ∀ rest, row.idempotencyKey ≠ refundTag ++ rest) : SameRefunds attemptId before after := by
  refine ⟨?_, ?_⟩
  · rw [applied_row attemptId before after row appended]
    simp [notRefund]
  · intro rest
    rw [Wallet.find, Wallet.find, appended, List.find?_append]
    simp [otherKey rest]

theorem expire_due_refunds (attemptId : Uuid) (env : Env) (now : Option Nat) (wallet : Wallet) :
    SameRefunds attemptId wallet (expireDue env now wallet).1 := by
  apply expire_loop_keeps (SameRefunds attemptId wallet) env
  · intro grant reached kept
    rcases expire_grant_cases env grant reached with ⟨_, flipped⟩ | ⟨_, _, skipped⟩ | ⟨_, _, booked⟩
    · rw [flipped]
      exact kept
    · rw [skipped]
      exact kept
    · rw [booked]
      apply same_refunds_trans attemptId wallet reached _ kept
      apply same_refunds_row attemptId reached _ _ (expired_wallet_transactions env grant reached)
      · simp [expiryRow]
      · intro rest
        exact tagged_ne "expiry:" refundTag grant.id.text rest 'e' 's' _ _ rfl rfl (by decide)
  · exact ⟨rfl, fun _ => rfl⟩

theorem other_call_refunds (attemptId : Uuid) (wallet : Wallet) (call : Call) (leaves : call.op.LeavesRefunds) :
    SameRefunds attemptId wallet (step wallet call) := by
  refine step_keeps (SameRefunds attemptId wallet) (fun later => later.op.LeavesRefunds) ?_ ?_ wallet call
    ⟨rfl, fun _ => rfl⟩ leaves
  · intro env now reached kept
    exact same_refunds_trans attemptId wallet reached _ kept (expire_due_refunds attemptId env now reached)
  · intro later reached spine move lots laterLeaves kept isSpine _ prepared _
    apply same_refunds_trans attemptId wallet reached _ kept
    have header := (move_header later.op later.env spine reached move isSpine prepared).1
    apply same_refunds_row attemptId reached _ _ (landed_transactions _ spine.key move reached lots)
    · rw [moveRow, header]
      exact laterLeaves.1
    · exact laterLeaves.2 later.env spine isSpine

def clawedBack (charge : TopUpCharge) (wallet : Wallet) (cumulative : Int) (key : String) (refundMicros : Option Int) : Int :=
  if (wallet.find key).isSome then stripeRefundAppliedMicros charge.attemptId wallet
  else
    stripeRefundAppliedMicros charge.attemptId wallet +
      max 0 (refundIncrement refundMicros (cumulative - stripeRefundAppliedMicros charge.attemptId wallet))

def refundCall (charge : TopUpCharge) (cumulative : Int) (key : String) (refundMicros : Option Int) (env : Env) : Call :=
  ⟨.clawBackStripeRefund cumulative key charge.chargeId charge.attemptId refundMicros, env⟩

theorem refund_increment_nonpos (refundMicros : Option Int) (delta : Int) (negative : delta ≤ 0) :
    refundIncrement refundMicros delta ≤ 0 := by
  cases refundMicros with
  | none => exact negative
  | some amount => exact le_trans (min_le_right amount delta) negative

theorem refund_call_effect (charge : TopUpCharge) (wallet : Wallet) (cumulative : Int) (rest : String) (refundMicros : Option Int)
    (env : Env) :
    stripeRefundAppliedMicros charge.attemptId (step wallet (refundCall charge cumulative (refundTag ++ rest) refundMicros env)) =
      clawedBack charge wallet cumulative (refundTag ++ rest) refundMicros ∧
    ∀ other, other ≠ rest →
      (step wallet (refundCall charge cumulative (refundTag ++ rest) refundMicros env)).find (refundTag ++ other) =
        wallet.find (refundTag ++ other) := by
  let call := refundCall charge cumulative (refundTag ++ rest) refundMicros env
  let spine := clawBackStripeRefundSpine cumulative (refundTag ++ rest) charge.chargeId charge.attemptId refundMicros
  let reached := spine.expired env wallet
  obtain ⟨sameSum, sameKeys⟩ : SameRefunds charge.attemptId wallet reached := expire_due_refunds charge.attemptId env none wallet
  have unmoved : step wallet call = reached → clawedBack charge wallet cumulative (refundTag ++ rest) refundMicros =
      stripeRefundAppliedMicros charge.attemptId wallet →
      stripeRefundAppliedMicros charge.attemptId (step wallet call) =
        clawedBack charge wallet cumulative (refundTag ++ rest) refundMicros ∧
      ∀ other, other ≠ rest → (step wallet call).find (refundTag ++ other) = wallet.find (refundTag ++ other) := by
    intro stepEq nothing
    rw [stepEq, nothing]
    exact ⟨sameSum, fun other _ => sameKeys other⟩
  cases taken : reached.find spine.key with
  | some existing =>
      apply unmoved (step_replays call wallet spine existing rfl rfl taken)
      have stored : wallet.find (refundTag ++ rest) = some existing := (sameKeys rest).symm.trans taken
      rw [clawedBack, stored, Option.isSome_some, if_pos rfl]
  | none =>
      have free : wallet.find (refundTag ++ rest) = none := (sameKeys rest).symm.trans taken
      have decided : clawedBack charge wallet cumulative (refundTag ++ rest) refundMicros =
          stripeRefundAppliedMicros charge.attemptId wallet +
            max 0 (refundIncrement refundMicros (cumulative - stripeRefundAppliedMicros charge.attemptId reached)) := by
        rw [clawedBack, free, sameSum]
        rfl
      generalize deltaEq : cumulative - stripeRefundAppliedMicros charge.attemptId reached = delta at decided
      by_cases below : delta < 0
      · have answered : spine.prepare reached = .answer (refused reached .refundTotalBelowApplied) := by
          simp only [spine, clawBackStripeRefundSpine, deltaEq, if_pos below]
        apply unmoved (step_answers call wallet spine _ rfl rfl taken answered)
        rw [decided, max_eq_left (refund_increment_nonpos refundMicros delta (le_of_lt below)), add_zero]
      · by_cases nothing : refundIncrement refundMicros delta ≤ 0
        · have answered : spine.prepare reached = .answer { outcome := .noop, balanceMicros := reached.balanceMicros } := by
            simp only [spine, clawBackStripeRefundSpine, deltaEq, if_neg below, if_pos nothing]
          apply unmoved (step_answers call wallet spine _ rfl rfl taken answered)
          rw [decided, max_eq_left nothing, add_zero]
        · obtain ⟨description, prepared⟩ : ∃ description, spine.prepare reached =
              .move (clawBackMove (refundIncrement refundMicros delta) charge.attemptId .stripeRefund description) := by
            simp only [spine, clawBackStripeRefundSpine, deltaEq, if_neg below, if_neg nothing]
            exact ⟨_, rfl⟩
          have landedEq := step_lands call wallet spine _ rfl rfl taken prepared rfl
          have appended : (step wallet call).transactions = reached.transactions ++ [moveRow spine.key
              (clawBackMove (refundIncrement refundMicros delta) charge.attemptId .stripeRefund description) reached] := by
            rw [landedEq]
            rfl
          refine ⟨?_, ?_⟩
          · rw [applied_row charge.attemptId reached _ _ appended, decided, sameSum, max_eq_right (le_of_not_ge nothing)]
            simp [moveRow, clawBackMove]
          · intro other different
            rw [← sameKeys other, Wallet.find, appended, List.find?_append]
            have otherKey : spine.key ≠ refundTag ++ other := fun same => different (tagged_inj refundTag _ _ same).symm
            simp [moveRow, otherKey, Wallet.find]

def LevelsApplied (charge : TopUpCharge) (wallet : Wallet) : Prop :=
  ∀ level, wallet.find (levelKey charge level) ≠ none → fromMinor level ≤ stripeRefundAppliedMicros charge.attemptId wallet

structure Toward (charge : TopUpCharge) (cumulative : Int) (before after : Wallet) : Prop where
  grows : stripeRefundAppliedMicros charge.attemptId before ≤ stripeRefundAppliedMicros charge.attemptId after
  capped : stripeRefundAppliedMicros charge.attemptId after ≤ max (stripeRefundAppliedMicros charge.attemptId before) cumulative
  levels : LevelsApplied charge after

theorem toward_trans (charge : TopUpCharge) (cumulative : Int) (first second third : Wallet)
    (left : Toward charge cumulative first second) (right : Toward charge cumulative second third) :
    Toward charge cumulative first third := by
  refine ⟨le_trans left.grows right.grows, ?_, right.levels⟩
  have firstCap := left.capped
  have secondCap := right.capped
  omega

theorem refund_increment_le (refundMicros : Option Int) (delta : Int) : refundIncrement refundMicros delta ≤ delta := by
  cases refundMicros with
  | none => exact le_refl delta
  | some amount => exact min_le_right amount delta

theorem clawed_back_toward (charge : TopUpCharge) (wallet : Wallet) (cumulative : Int) (key : String) (refundMicros : Option Int) :
    stripeRefundAppliedMicros charge.attemptId wallet ≤ clawedBack charge wallet cumulative key refundMicros ∧
      clawedBack charge wallet cumulative key refundMicros ≤
        max (stripeRefundAppliedMicros charge.attemptId wallet) cumulative := by
  have capped := refund_increment_le refundMicros (cumulative - stripeRefundAppliedMicros charge.attemptId wallet)
  rw [clawedBack]
  split
  · exact ⟨le_refl _, le_max_left _ _⟩
  · omega

theorem named_refund_toward (charge : TopUpCharge) (wallet : Wallet) (cumulative : Int) (refundId : StripeId)
    (refundMicros : Option Int) (env : Env) (levels : LevelsApplied charge wallet) :
    Toward charge cumulative wallet (step wallet (refundCall charge cumulative (refundKey refundId) refundMicros env)) := by
  obtain ⟨sum, keys⟩ := refund_call_effect charge wallet cumulative refundId.text refundMicros env
  obtain ⟨grows, capped⟩ := clawed_back_toward charge wallet cumulative (refundKey refundId) refundMicros
  refine ⟨sum ▸ grows, sum ▸ capped, ?_⟩
  intro level taken
  have otherKey : charge.chargeId ++ (":" ++ level.repr) ≠ refundId.text := by
    intro same
    exact refund_key_ne_level refundId charge level (congrArg (refundTag ++ ·) same.symm)
  have before := levels level (by rw [levelKey, ← keys _ otherKey]; exact taken)
  rw [refundKey, sum]
  exact le_trans before grows

theorem refund_ops_toward (charge : TopUpCharge) (cumulative : Int) (env : Env) (refunds : List StripeRefund) (ops : List Op)
    (listed : refundOps charge cumulative refunds = .ok ops) (wallet : Wallet) (levels : LevelsApplied charge wallet) :
    Toward charge cumulative wallet (run step wallet (ops.map (fun op => ⟨op, env⟩))) := by
  induction refunds generalizing ops wallet with
  | nil =>
      cases listed
      exact ⟨le_refl _, le_max_left _ _, levels⟩
  | cons refund rest ih =>
      rw [refundOps] at listed
      split at listed
      · rename_i refundId amount _ _
        split at listed
        · cases listed
        · cases later : refundOps charge cumulative rest with
          | error raised => simp [later, Except.map] at listed
          | ok laterOps =>
              simp only [later, Except.map, Except.ok.injEq] at listed
              subst listed
              have first := named_refund_toward charge wallet cumulative refundId (some (fromMinor (amount + 1))) env levels
              rw [List.map_cons, run_cons]
              exact toward_trans charge cumulative wallet _ _ first (ih laterOps later _ first.levels)
      · exact ih ops listed wallet levels

theorem level_call_reaches (charge : TopUpCharge) (wallet : Wallet) (level : Nat) (env : Env) (levels : LevelsApplied charge wallet) :
    stripeRefundAppliedMicros charge.attemptId
        (step wallet (refundCall charge (fromMinor level) (levelKey charge level) none env)) =
      max (stripeRefundAppliedMicros charge.attemptId wallet) (fromMinor level) ∧
    LevelsApplied charge (step wallet (refundCall charge (fromMinor level) (levelKey charge level) none env)) := by
  obtain ⟨sum, keys⟩ := refund_call_effect charge wallet (fromMinor level) (charge.chargeId ++ (":" ++ level.repr)) none env
  have reached : clawedBack charge wallet (fromMinor level) (levelKey charge level) none =
      max (stripeRefundAppliedMicros charge.attemptId wallet) (fromMinor level) := by
    rw [clawedBack]
    split
    · rename_i taken
      have before := levels level (Option.isSome_iff_ne_none.mp taken)
      rw [max_eq_left before]
    · simp only [refundIncrement]
      omega
  have total : stripeRefundAppliedMicros charge.attemptId
      (step wallet (refundCall charge (fromMinor level) (levelKey charge level) none env)) =
        max (stripeRefundAppliedMicros charge.attemptId wallet) (fromMinor level) := sum.trans reached
  refine ⟨total, ?_⟩
  intro other taken
  rw [total]
  by_cases same : other = level
  · rw [same]
    exact le_max_right _ _
  · have otherKey : charge.chargeId ++ (":" ++ other.repr) ≠ charge.chargeId ++ (":" ++ level.repr) := by
      intro sameKey
      exact same (level_key_injective charge other level (congrArg (refundTag ++ ·) sameKey))
    have before := levels other (by rw [levelKey, ← keys _ otherKey]; exact taken)
    exact le_trans before (le_max_left _ _)

theorem usd_refund_ops (charge : TopUpCharge) (cumulative : Int) (refunds : List StripeRefund)
    (usd : ∀ refund ∈ refunds, refund.currency = .usd) : ∃ ops, refundOps charge cumulative refunds = .ok ops := by
  induction refunds with
  | nil => exact ⟨[], rfl⟩
  | cons refund rest ih =>
      obtain ⟨ops, listed⟩ := ih (fun other member => usd other (List.mem_cons_of_mem _ member))
      have stated := usd refund (by simp)
      rw [refundOps]
      split
      · simp only [stated, listed, Except.map]
        exact ⟨_, rfl⟩
      · exact ⟨ops, listed⟩

theorem delivery_reaches (charge : TopUpCharge) (wallet : Wallet) (event : ChargeRefunded) (env : Env) (stated : event.Stated)
    (levels : LevelsApplied charge wallet) :
    stripeRefundAppliedMicros charge.attemptId (receive charge wallet (.delivered event env)) =
      max (stripeRefundAppliedMicros charge.attemptId wallet) (fromMinor event.level) ∧
    LevelsApplied charge (receive charge wallet (.delivered event env)) := by
  obtain ⟨positive, usd, usdRefunds⟩ := stated
  have stating : event.level ≠ 0 := by omega
  obtain ⟨ops, listed⟩ := usd_refund_ops charge (fromMinor event.level) event.refunds usdRefunds
  have handled : receive charge wallet (.delivered event env) = step (run step wallet (ops.map (fun op => ⟨op, env⟩)))
      (refundCall charge (fromMinor event.level) (levelKey charge event.level) none env) := by
    simp only [receive, handleChargeRefunded, stating, false_and, if_false, usd, cumulativeMicros, ne_eq, not_false_eq_true,
      if_true, listed, levelOps, List.map_append, run_append]
    rfl
  have toward := refund_ops_toward charge (fromMinor event.level) env event.refunds ops listed wallet levels
  obtain ⟨total, after⟩ := level_call_reaches charge _ event.level env toward.levels
  rw [handled]
  refine ⟨?_, after⟩
  rw [total]
  have grows := toward.grows
  have capped := toward.capped
  omega

theorem receive_reaches (charge : TopUpCharge) (history : List Incoming) (stated : ∀ incoming ∈ history, incoming.Stated) :
    stripeRefundAppliedMicros charge.attemptId (run (receive charge) emptyWallet history) =
      (history.filterMap Incoming.level).foldl max 0 ∧
    LevelsApplied charge (run (receive charge) emptyWallet history) := by
  induction history using List.reverseRecOn with
  | nil => exact ⟨rfl, fun level taken => absurd rfl taken⟩
  | append_singleton earlier incoming ih =>
      obtain ⟨sum, levels⟩ := ih (fun other member => stated other (List.mem_append_left _ member))
      have here := stated incoming (by simp)
      rw [run_snoc]
      cases incoming with
      | delivered event env =>
          obtain ⟨total, after⟩ := delivery_reaches charge _ event env here levels
          refine ⟨?_, after⟩
          rw [total, sum]
          simp [List.filterMap_append, Incoming.level]
      | other call =>
          obtain ⟨sameSum, sameKeys⟩ := other_call_refunds charge.attemptId (run (receive charge) emptyWallet earlier) call here
          have skipped : (earlier ++ [Incoming.other call]).filterMap Incoming.level = earlier.filterMap Incoming.level := by
            rw [List.filterMap_append]
            exact List.append_nil _
          refine ⟨?_, ?_⟩
          · rw [receive, sameSum, sum, skipped]
          · intro level taken
            rw [receive, sameSum]
            exact levels level (by rw [levelKey, ← sameKeys]; exact taken)

theorem stripe_refunds_converge (charge : TopUpCharge) (history : List Incoming)
    (stated : ∀ incoming ∈ history, incoming.Stated) :
    stripeRefundAppliedMicros charge.attemptId (run (receive charge) emptyWallet history) =
      (history.filterMap Incoming.level).foldl max 0 ∧
    ∀ (event : ChargeRefunded) (env : Env), event.Stated →
      stripeRefundAppliedMicros charge.attemptId (run (receive charge) emptyWallet (history ++ [.delivered event env])) =
        max (stripeRefundAppliedMicros charge.attemptId (run (receive charge) emptyWallet history)) (fromMinor event.level) := by
  obtain ⟨sum, levels⟩ := receive_reaches charge history stated
  refine ⟨sum, ?_⟩
  intro event env eventStated
  rw [run_snoc]
  exact (delivery_reaches charge _ event env eventStated levels).1

def sampleCharge : TopUpCharge := ⟨"ch_1", ⟨"att-1"⟩⟩

def refundHistory : List Incoming :=
  [.other ⟨.creditTopUp 9000000 "topup:cs_1" .checkout "att-1" "Stripe top-up" "att-1", sampleEnv 1 "lot-1"⟩,
    .delivered ⟨some 500, [⟨some ⟨"re_1", by decide⟩, some 200, .usd⟩], .usd⟩ (sampleEnv 2 ""),
    .delivered ⟨some 300, [], .usd⟩ (sampleEnv 3 ""),
    .delivered ⟨some 500, [], .usd⟩ (sampleEnv 4 "")]

theorem refund_history_converges :
    stripeRefundAppliedMicros ⟨"att-1"⟩ (run (receive sampleCharge) emptyWallet refundHistory) = 5000000 := by
  have stated : ∀ incoming ∈ refundHistory, incoming.Stated := by
    intro incoming member
    simp only [refundHistory, List.mem_cons, List.not_mem_nil, or_false] at member
    rcases member with rfl | rfl | rfl | rfl
    · refine ⟨by decide, ?_⟩
      intro env spine isSpine rest
      cases isSpine
      exact tagged_ne "topup:" refundTag "cs_1" rest 't' 's' _ _ rfl rfl (by decide)
    · exact ⟨by decide, rfl, by simp⟩
    · exact ⟨by decide, rfl, by simp⟩
    · exact ⟨by decide, rfl, by simp⟩
  rw [show (⟨"att-1"⟩ : Uuid) = sampleCharge.attemptId from rfl, (stripe_refunds_converge sampleCharge refundHistory stated).1]
  decide

end Ubb.Wallets
