import Ubb.Library.TaggedText
import Ubb.Wallets.Replay

set_option autoImplicit false

namespace Ubb.Wallets

open Ubb.Library

def Op.txnType : Op → TransactionType
  | .debit _ _ _ _ => .debit
  | .credit _ _ _ => .adjustment
  | .withdraw _ _ _ => .withdrawal
  | .refundUsage _ _ _ => .refund
  | .mintGrant _ _ _ _ _ => .grant
  | .voidGrant _ => .grantVoid
  | .drawDownUsage _ _ _ => .usageDeduction
  | .creditTopUp _ _ _ _ _ _ => .topUp
  | .clawBackDispute _ _ _ _ => .disputeDeduction
  | .clawBackStripeRefund _ _ _ _ _ => .stripeRefund
  | .expireDueSweep _ => .grantExpiry

def Op.usageEvent : Op → Option Uuid
  | .drawDownUsage usageEventId _ _ => some usageEventId
  | _ => none

theorem move_header (op : Op) (env : Env) (spine : Spine) (wallet : Wallet) (move : Move)
    (isSpine : op.spine env = some spine) (prepared : spine.prepare wallet = .move move) :
    move.txnType = op.txnType ∧ move.usageEventId = op.usageEvent := by
  cases prepared_by op env spine wallet move isSpine prepared <;> exact ⟨rfl, rfl⟩

def Op.callerKey : Op → Option String
  | .debit _ key _ _ => some key
  | .credit _ key _ => some key
  | .withdraw _ key _ => some key
  | .refundUsage _ key _ => some key
  | _ => none

-- The two operations whose key is rendered by their only callers: the top-up
-- paths and the charge.refunded webhook.
def Op.SystemKeyed : Op → Prop
  | .creditTopUp _ key _ _ _ _ => ∃ id, key = "topup:" ++ id ∨ key = "auto_top_up:" ++ id
  | .clawBackStripeRefund _ key _ _ _ => ∃ id, key = "stripe_refund:" ++ id
  | _ => True

theorem usage_deduction_key_injective (left right : Uuid) (same : usageDeductionKey left = usageDeductionKey right) :
    left = right := by
  have texts := tagged_inj "usage_deduction:" left.text right.text same
  cases left
  cases right
  exact congrArg Uuid.mk texts

theorem usage_key_tagged_ne (event : Uuid) (tag rest : String) (head : Char) (tail : List Char)
    (tagEq : tag.toList = head :: tail) (different : 'u' ≠ head) : tag ++ rest ≠ usageDeductionKey event :=
  fun same => tagged_ne "usage_deduction:" tag event.text rest 'u' head _ tail rfl tagEq different same.symm

theorem usage_key_owner (op : Op) (env : Env) (spine : Spine) (event : Uuid) (isSpine : op.spine env = some spine)
    (system : op.SystemKeyed) (same : spine.key = usageDeductionKey event) :
    op.callerKey = some (usageDeductionKey event) ∨ op.usageEvent = some event := by
  cases op with
  | debit | credit | withdraw | refundUsage =>
      cases isSpine
      exact .inl (congrArg some same)
  | drawDownUsage usageEventId cost repair =>
      cases isSpine
      exact .inr (congrArg some (usage_deduction_key_injective usageEventId event same))
  | mintGrant kind amount expiresAt key audit =>
      cases isSpine
      exact absurd same (usage_key_tagged_ne event "grant:" key 'g' _ rfl (by decide))
  | voidGrant grantId =>
      cases isSpine
      exact absurd same (usage_key_tagged_ne event "grant_void:" grantId.text 'g' _ rfl (by decide))
  | clawBackDispute amount disputeId chargeId attemptId =>
      cases isSpine
      exact absurd same (usage_key_tagged_ne event "dispute:" disputeId 'd' _ rfl (by decide))
  | creditTopUp amount key source sourceReference description referenceId =>
      cases isSpine
      obtain ⟨id, rfl | rfl⟩ := system
      · exact absurd same (usage_key_tagged_ne event "topup:" id 't' _ rfl (by decide))
      · exact absurd same (usage_key_tagged_ne event "auto_top_up:" id 'a' _ rfl (by decide))
  | clawBackStripeRefund cumulative key chargeId attemptId refundMicros =>
      cases isSpine
      obtain ⟨id, rfl⟩ := system
      exact absurd same (usage_key_tagged_ne event "stripe_refund:" id 's' _ rfl (by decide))
  | expireDueSweep now => cases isSpine

theorem expiry_key_ne_usage (grant event : Uuid) : expiryKey grant ≠ usageDeductionKey event :=
  usage_key_tagged_ne event "expiry:" grant.text 'e' _ rfl (by decide)

def usageRows (event : Uuid) (wallet : Wallet) : List WalletTransaction :=
  wallet.transactions.filter (fun row => row.transactionType = .usageDeduction ∧ row.usageEventId = some event)

def Charged (event : Uuid) (price : Int) (wallet : Wallet) : Prop :=
  ∃ row, usageRows event wallet = [row] ∧ row.amountMicros = -price

theorem usage_row_keyed (event : Uuid) (calls : List Call) :
    ∀ row ∈ (walletAfter calls).transactions, row.usageEventId = some event → row.idempotencyKey = usageDeductionKey event := by
  refine run_rows (fun row => row.usageEventId = some event → row.idempotencyKey = usageDeductionKey event) (fun _ => True)
    ?_ ?_ emptyWallet calls (by simp [emptyWallet]) (fun _ _ => trivial)
  · intro wallet grant debit named
    cases named
  · intro call wallet spine move _ isSpine prepared named
    have header := (move_header call.op call.env spine wallet move isSpine prepared).2
    rw [moveRow, header] at named
    obtain ⟨op, env⟩ := call
    cases op with
    | drawDownUsage usageEventId cost repair =>
        cases isSpine
        cases named
        rfl
    | _ => cases named

theorem uncharged_before (event : Uuid) (calls : List Call) (first : ∀ call ∈ calls, call.op.usageEvent ≠ some event) :
    ∀ row ∈ (walletAfter calls).transactions, row.usageEventId ≠ some event := by
  refine run_rows (fun row => row.usageEventId ≠ some event) (fun call => call.op.usageEvent ≠ some event) ?_ ?_
    emptyWallet calls (by simp [emptyWallet]) first
  · intro wallet grant debit named
    cases named
  · intro call wallet spine move other isSpine prepared named
    have header := (move_header call.op call.env spine wallet move isSpine prepared).2
    rw [moveRow, header] at named
    exact other named

theorem key_free_before (event : Uuid) (calls : List Call) (system : ∀ call ∈ calls, call.op.SystemKeyed)
    (first : ∀ call ∈ calls, call.op.usageEvent ≠ some event)
    (callers : ∀ call ∈ calls, call.op.callerKey ≠ some (usageDeductionKey event)) :
    ∀ row ∈ (walletAfter calls).transactions, row.idempotencyKey ≠ usageDeductionKey event := by
  refine run_rows (fun row => row.idempotencyKey ≠ usageDeductionKey event)
    (fun call => call.op.SystemKeyed ∧ call.op.usageEvent ≠ some event ∧ call.op.callerKey ≠ some (usageDeductionKey event))
    ?_ ?_ emptyWallet calls (by simp [emptyWallet])
    (fun call member => ⟨system call member, first call member, callers call member⟩)
  · intro wallet grant debit
    exact expiry_key_ne_usage grant.id event
  · intro call wallet spine move admitted isSpine prepared same
    rcases usage_key_owner call.op call.env spine event isSpine admitted.1 same with caller | drawn
    · exact admitted.2.2 caller
    · exact admitted.2.1 drawn

theorem usage_rows_keyed (event : Uuid) (calls : List Call) :
    ∀ row ∈ usageRows event (walletAfter calls), row ∈ rowsUnder (usageDeductionKey event) (walletAfter calls) := by
  intro row member
  rw [usageRows, List.mem_filter, decide_eq_true_eq] at member
  rw [rowsUnder, List.mem_filter, decide_eq_true_eq]
  exact ⟨member.1, usage_row_keyed event calls row member.1 member.2.2⟩

theorem rows_under_stored (key : String) (calls : List Call) (row : WalletTransaction)
    (found : (walletAfter calls).find key = some row) : rowsUnder key (walletAfter calls) = [row] := by
  have stored := find_stored key (walletAfter calls) row found
  have member : row ∈ rowsUnder key (walletAfter calls) := List.mem_filter.mpr ⟨stored.1, by simpa using stored.2⟩
  obtain ⟨only, onlyEq⟩ := List.length_eq_one_iff.mp (rows_under_eq_one key _ row (wallet_after_unique calls) found)
  rw [onlyEq, List.mem_singleton] at member
  rw [onlyEq, member]

theorem charged_iff_key_row (event : Uuid) (price : Int) (calls : List Call) (row : WalletTransaction)
    (found : (walletAfter calls).find (usageDeductionKey event) = some row) :
    Charged event price (walletAfter calls) ↔
      row.transactionType = .usageDeduction ∧ row.usageEventId = some event ∧ row.amountMicros = -price := by
  have under := rows_under_stored (usageDeductionKey event) calls row found
  have keyed := usage_rows_keyed event calls
  rw [under] at keyed
  constructor
  · rintro ⟨only, onlyEq, amount⟩
    have member : only ∈ usageRows event (walletAfter calls) := by simp [onlyEq]
    have same := List.mem_singleton.mp (keyed only member)
    subst same
    rw [usageRows, List.mem_filter, decide_eq_true_eq] at member
    exact ⟨member.2.1, member.2.2, amount⟩
  · rintro ⟨isUsage, names, amount⟩
    have rowsEq : usageRows event (walletAfter calls) =
        (rowsUnder (usageDeductionKey event) (walletAfter calls)).filter (fun stored =>
          stored.transactionType = .usageDeduction ∧ stored.usageEventId = some event) := by
      rw [usageRows, rowsUnder, List.filter_filter]
      apply List.filter_congr
      intro other member
      by_cases charge : other.transactionType = .usageDeduction ∧ other.usageEventId = some event
      · simp [charge, usage_row_keyed event calls other member charge.2]
      · simp [charge]
    refine ⟨row, ?_, amount⟩
    rw [rowsEq, under]
    simp [isUsage, names]

theorem find_none_iff (key : String) (wallet : Wallet) :
    wallet.find key = none ↔ ∀ row ∈ wallet.transactions, row.idempotencyKey ≠ key := by
  simp [Wallet.find, List.find?_eq_none]

theorem usage_key_survives_expiry (event : Uuid) (env : Env) (wallet : Wallet)
    (free : wallet.find (usageDeductionKey event) = none) :
    (expireDue env none wallet).1.find (usageDeductionKey event) = none := by
  rw [find_none_iff] at free ⊢
  refine run_rows (fun row => row.idempotencyKey ≠ usageDeductionKey event) (fun call => call.op = .expireDueSweep none) ?_ ?_
    wallet [⟨.expireDueSweep none, env⟩] free (by simp)
  · intro reached grant debit
    exact expiry_key_ne_usage grant.id event
  · intro call reached spine move sweep isSpine
    rw [sweep] at isSpine
    cases isSpine

theorem drawdown_lands (event : Uuid) (price : Int) (repair : Bool) (env : Env) (wallet : Wallet)
    (free : wallet.find (usageDeductionKey event) = none) :
    ∃ row, (step wallet ⟨.drawDownUsage event price repair, env⟩).find (usageDeductionKey event) = some row ∧
      row.transactionType = .usageDeduction ∧ row.usageEventId = some event ∧ row.amountMicros = -price := by
  have stillFree := usage_key_survives_expiry event env wallet free
  let spine := drawDownUsageSpine env event price repair
  obtain ⟨move, prepared⟩ : ∃ move, spine.prepare (spine.expired env wallet) = .move move := ⟨_, rfl⟩
  have header := move_header (.drawDownUsage event price repair) env spine (spine.expired env wallet) move rfl prepared
  have amount : move.amountMicros = -price := by
    cases prepared
    rfl
  have noMint : move.mint = none := by
    cases prepared
    rfl
  refine ⟨moveRow spine.key move (spine.expired env wallet), ?_, header.1, header.2, amount⟩
  rw [step_lands ⟨.drawDownUsage event price repair, env⟩ wallet spine move rfl rfl stillFree prepared noMint]
  exact find_landed env.now spine.key move (spine.expired env wallet) _ stillFree

-- The replay check matches the key alone, so a charge lands exactly when the
-- event's first drawdown finds no row under its key; only an operation with a
-- caller-chosen key can have put one there.
theorem usage_charged_iff_key_free (before after : List Call) (event : Uuid) (price : Int) (repair : Bool) (env : Env)
    (system : ∀ call ∈ before, call.op.SystemKeyed) (first : ∀ call ∈ before, call.op.usageEvent ≠ some event) :
    (Charged event price (walletAfter (before ++ ⟨.drawDownUsage event price repair, env⟩ :: after)) ↔
      ∀ row ∈ (walletAfter before).transactions, row.idempotencyKey ≠ usageDeductionKey event) ∧
    ((∀ call ∈ before, call.op.callerKey ≠ some (usageDeductionKey event)) →
      Charged event price (walletAfter (before ++ ⟨.drawDownUsage event price repair, env⟩ :: after))) := by
  have afterEq : walletAfter (before ++ ⟨.drawDownUsage event price repair, env⟩ :: after) =
      run step (step (walletAfter before) ⟨.drawDownUsage event price repair, env⟩) after := by
    rw [walletAfter, run_append, run_cons]
    rfl
  have lands : (∀ row ∈ (walletAfter before).transactions, row.idempotencyKey ≠ usageDeductionKey event) →
      Charged event price (walletAfter (before ++ ⟨.drawDownUsage event price repair, env⟩ :: after)) := by
    intro free
    obtain ⟨row, found, charge⟩ := drawdown_lands event price repair env (walletAfter before) ((find_none_iff _ _).mpr free)
    apply (charged_iff_key_row event price _ row _).mpr charge
    rw [afterEq]
    exact find_extended _ row _ _ found (run_extends _ after)
  refine ⟨⟨?_, lands⟩, fun callers => lands (key_free_before event before system first callers)⟩
  intro charged
  rw [← find_none_iff, Option.eq_none_iff_forall_ne_some]
  intro row found
  have kept : (walletAfter (before ++ ⟨.drawDownUsage event price repair, env⟩ :: after)).find (usageDeductionKey event) = some row := by
    rw [afterEq]
    exact find_extended _ row _ _ (find_extended _ row _ _ found (step_extends _ _)) (run_extends _ after)
  have names := ((charged_iff_key_row event price _ row kept).mp charged).2.1
  exact uncharged_before event before first row (find_stored _ _ row found).1 names

def sampleEvent : Uuid := ⟨"9b2f6c1e-4d07-4a55-8a3e-0c6f1d2b7e94"⟩

def impostorCredit : Call := ⟨.credit 1 "usage_deduction:9b2f6c1e-4d07-4a55-8a3e-0c6f1d2b7e94" {}, sampleEnv 1 ""⟩

def firstDrawdown : Call := ⟨.drawDownUsage sampleEvent 300 false, sampleEnv 2 ""⟩

theorem impostor_credit_skips_charge :
    ¬ ∀ calls : List Call, firstDrawdown ∈ calls → Charged sampleEvent 300 (walletAfter calls) := by
  intro always
  obtain ⟨row, rowEq, _⟩ := always [impostorCredit, firstDrawdown] (by simp)
  have skipped : usageRows sampleEvent (walletAfter [impostorCredit, firstDrawdown]) = [] := by decide
  rw [skipped] at rowEq
  cases rowEq

theorem mixed_run_charges :
    Charged sampleEvent 300 (walletAfter (mixedRun.take 2 ++ firstDrawdown :: [impostorCredit, firstDrawdown])) := by
  refine (usage_charged_iff_key_free (mixedRun.take 2) [impostorCredit, firstDrawdown] sampleEvent 300 false (sampleEnv 2 "")
    ?_ (by decide)).2 (by decide)
  intro call member
  simp only [mixedRun, List.take_succ_cons, List.take_zero, List.mem_cons, List.not_mem_nil, or_false] at member
  rcases member with rfl | rfl
  · trivial
  · exact ⟨"cs_1", .inl rfl⟩

end Ubb.Wallets
