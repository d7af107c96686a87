import Ubb.Wallets.Ledger
import Ubb.Wallets.LotInvariants

set_option autoImplicit false

namespace Ubb.Wallets

open Ubb.Library

inductive Operation where
  | debit
  | credit
  | withdraw
  | refundUsage
  | mintGrant
  | drawDownUsage
  | creditTopUp
  | clawBackDispute
deriving DecidableEq, Repr

-- The operations that promise exactly-once money, with the ledger key each of
-- them writes under.
def Op.idempotency : Op → Option (Operation × String)
  | .debit _ key _ _ => some (.debit, key)
  | .credit _ key _ => some (.credit, key)
  | .withdraw _ key _ => some (.withdraw, key)
  | .refundUsage _ key _ => some (.refundUsage, key)
  | .mintGrant _ _ _ key _ => some (.mintGrant, grantKey key)
  | .drawDownUsage usageEventId _ _ => some (.drawDownUsage, usageDeductionKey usageEventId)
  | .creditTopUp _ key _ _ _ _ => some (.creditTopUp, key)
  | .clawBackDispute _ disputeId _ _ => some (.clawBackDispute, disputeKey disputeId)
  | .voidGrant _ | .clawBackStripeRefund _ _ _ _ _ | .expireDueSweep _ => none

def lazyExpiry (call : Call) (wallet : Wallet) : Wallet :=
  match call.op.spine call.env with
  | some spine => spine.expired call.env wallet
  | none => wallet

theorem find_extended (key : String) (row : WalletTransaction) (before after : Wallet) (found : before.find key = some row)
    (extended : Extends before after) : after.find key = some row := by
  obtain ⟨rows, rowsEq, _⟩ := extended
  rw [Wallet.find] at found ⊢
  rw [rowsEq, List.find?_append, found]
  rfl

theorem expired_extends (spine : Spine) (env : Env) (wallet : Wallet) : Extends wallet (spine.expired env wallet) := by
  rcases expired_cases spine env wallet with unexpired | expired
  · rw [unexpired]
    exact extends_refl wallet
  · rw [expired]
    exact expire_due_extends env none wallet

theorem find_landed (now : Nat) (key : String) (move : Move) (wallet : Wallet) (lots : LotTables)
    (free : wallet.find key = none) : (landed now key move wallet lots).find key = some (moveRow key move wallet) := by
  rw [Wallet.find] at free ⊢
  rw [landed_transactions, List.find?_append, free]
  simp [moveRow]

def births (lots : LotTables) : List (Uuid × Nat) := lots.grants.map (fun grant => (grant.id, grant.sourceTransaction))

theorem births_save (lots : LotTables) (target : Uuid) (write : CreditGrant → CreditGrant)
    (keeps : ∀ row, ((write row).id, (write row).sourceTransaction) = (row.id, row.sourceTransaction)) :
    births (lots.saveGrant target write) = births lots :=
  update_row_map CreditGrant.id target write lots.grants (fun grant => (grant.id, grant.sourceTransaction)) keeps

theorem allocate_loop_births (transaction : Nat) (allocationType : AllocationType) (grants : List CreditGrant) (left : Int)
    (waiting : List GrantAllocation) (lots : LotTables) :
    births (allocateLoop transaction allocationType grants left waiting lots).1 = births lots := by
  induction grants generalizing left waiting lots with
  | nil => rfl
  | cons grant rest ih =>
      by_cases spent : left ≤ 0
      · simp only [allocateLoop, if_pos spent]
      · by_cases empty : min grant.remainingMicros left ≤ 0
        · simp only [allocateLoop, if_neg spent, if_pos empty]
          exact ih left waiting lots
        · simp only [allocateLoop, if_neg spent, if_neg empty]
          rw [ih]
          exact births_save lots grant.id (writeConsumed (min grant.remainingMicros left) grant) (fun _ => rfl)

theorem allocate_births (transaction : Nat) (amount : Int) (excludePromo : Bool) (allocationType : AllocationType)
    (lots : LotTables) : births (allocate transaction amount excludePromo none allocationType lots).1 = births lots := by
  by_cases nothing : amount ≤ 0
  · simp only [allocate, if_pos nothing]
  · simp only [allocate, if_neg nothing]
    exact allocate_loop_births transaction allocationType _ amount [] lots

theorem refund_loop_births (pairs : List (GrantAllocation × CreditGrant)) (headroom total : Int) (lots : LotTables) :
    births (refundLoop pairs headroom total lots).1 = births lots := by
  induction pairs generalizing headroom total lots with
  | nil => rfl
  | cons pair rest ih =>
      obtain ⟨alloc, grant⟩ := pair
      rw [refundLoop]
      split
      · rfl
      · split
        · exact ih headroom total lots
        · simp only
          split
          · exact ih headroom total lots
          · rw [ih]
            exact births_save lots grant.id (writeRestored _ grant) (fun _ => rfl)

theorem clawback_births (transaction : Nat) (balance amount : Int) (source : Option CreditGrant) (lots : LotTables) :
    births (clawback transaction balance amount source lots) = births lots := by
  have voided : births (voidSource amount source lots) = births lots := by
    cases source with
    | none => rfl
    | some grant =>
        rw [voidSource]
        split
        · simp only
          split
          · exact births_save lots grant.id (writeReversed _ grant) (fun _ => rfl)
          · rfl
        · rfl
  rw [clawback]
  split
  · rw [allocate_births, voided]
  · exact voided

theorem refund_births (original : Option WalletTransaction) (balance : Int) (lots : LotTables) :
    births (refund original balance lots).1 = births lots := by
  cases original with
  | none => rfl
  | some txn => exact refund_loop_births _ _ _ _

theorem create_grant_births (env : Env) (txn : WalletTransaction) (kind : GrantKind) (amount : Int) (expiresAt : Option Nat)
    (source : GrantSource) (sourceReference : String) (lots after : LotTables) (grant : CreditGrant)
    (made : createGrant env txn kind amount expiresAt source sourceReference lots = some (after, grant)) :
    births after = births lots ++ [(env.newGrantId, txn.id)] := by
  rw [createGrant] at made
  split at made
  · cases made
  · simp only at made
    split at made
    · simp only [Option.some.injEq, Prod.mk.injEq] at made
      simp [← made.1, births]
    · simp only [Option.some.injEq, Prod.mk.injEq] at made
      simp [← made.1, births]

theorem minting_move_births (key : String) (move : Move) (wallet : Wallet) (lots : LotTables) (env : Env) (kind : GrantKind)
    (amount : Int) (expiresAt : Option Nat) (source : GrantSource) (sourceReference : String)
    (mints : move.mint = some (fun txn lots => createGrant env txn kind amount expiresAt source sourceReference lots))
    (minted : Minted key move wallet lots) :
    births lots = births wallet.lots ++ [(env.newGrantId, wallet.transactions.length)] := by
  rcases minted with ⟨noMint, _⟩ | ⟨mint, grant, isMint, made⟩
  · rw [mints] at noMint
    cases noMint
  · rw [mints, Option.some.injEq] at isMint
    subst isMint
    exact create_grant_births env (moveRow key move wallet) kind amount expiresAt source sourceReference wallet.lots lots grant made

theorem move_births (call : Call) (wallet : Wallet) (spine : Spine) (move : Move) (lots : LotTables)
    (isSpine : call.op.spine call.env = some spine) (prepared : spine.prepare wallet = .move move)
    (minted : Minted spine.key move wallet lots) :
    births wallet.lots <+: births lots ∧ ∀ saved txn, births (move.settle saved txn) = births saved.lots := by
  obtain ⟨op, env⟩ := call
  have unminted : move.mint = none → births wallet.lots <+: births lots := by
    intro noMint
    rw [unminted_lots spine.key move wallet lots noMint minted]
  cases prepared_by op env spine wallet move isSpine prepared with
  | debit amount key allowNegative audit =>
      exact ⟨unminted rfl, fun saved txn => allocate_births txn.id amount false .usage saved.lots⟩
  | credit amount key audit => exact ⟨unminted rfl, fun _ _ => rfl⟩
  | withdraw amount key audit _ =>
      exact ⟨unminted rfl, fun saved txn => allocate_births txn.id amount true .withdrawal saved.lots⟩
  | refundUsage usageEventId key reason cost _ => exact ⟨unminted rfl, fun saved _ => refund_births _ _ saved.lots⟩
  | mintGrant kind amount expiresAt key audit =>
      refine ⟨?_, fun _ _ => rfl⟩
      rw [minting_move_births _ _ wallet lots env kind amount expiresAt .api key rfl minted]
      exact List.prefix_append _ _
  | voidGrant grantId grant _ _ =>
      exact ⟨unminted rfl, fun saved _ => births_save saved.lots grant.id (writeVoided grant) (fun _ => rfl)⟩
  | drawDownUsage usageEventId cost repair =>
      exact ⟨unminted rfl, fun saved txn => allocate_births txn.id cost false .usage saved.lots⟩
  | creditTopUp amount key source sourceReference description referenceId =>
      refine ⟨?_, fun _ _ => rfl⟩
      rw [minting_move_births _ _ wallet lots env .paid amount (topupGrantExpiresAt env) source sourceReference rfl minted]
      exact List.prefix_append _ _
  | clawBackDispute | clawBackStripeRefund =>
      exact ⟨unminted rfl, fun saved txn => clawback_births txn.id _ _ _ saved.lots⟩

theorem expire_due_births (env : Env) (now : Option Nat) (wallet : Wallet) :
    births (expireDue env now wallet).1.lots = births wallet.lots := by
  apply expire_loop_keeps (fun reached => births reached.lots = births wallet.lots) env
  · intro grant reached before
    rcases expire_grant_cases env grant reached with ⟨_, flipped⟩ | ⟨_, _, skipped⟩ | ⟨_, _, booked⟩
    · rw [flipped, ← before]
      exact births_save reached.lots grant.id writeRetired (fun _ => rfl)
    · rw [skipped]
      exact before
    · rw [booked, ← before]
      exact births_save reached.lots grant.id (writeExpired grant) (fun _ => rfl)
  · rfl

theorem expired_births (spine : Spine) (env : Env) (wallet : Wallet) :
    births (spine.expired env wallet).lots = births wallet.lots := by
  rcases expired_cases spine env wallet with unexpired | expired
  · rw [unexpired]
  · rw [expired, expire_due_births]

theorem run_births (wallet : Wallet) (calls : List Call) : births wallet.lots <+: births (run step wallet calls).lots := by
  apply run_relation step (fun before after => births before.lots <+: births after.lots)
  · intro reached
    exact List.prefix_refl _
  · intro start reached call before
    refine step_keeps (fun later => births start.lots <+: births later.lots) (fun _ => True) ?_ ?_ reached call before trivial
    · intro env now later kept
      rw [expire_due_births]
      exact kept
    · intro laterCall later spine move lots _ kept isSpine _ prepared minted
      obtain ⟨grown, settles⟩ := move_births laterCall later spine move lots isSpine prepared minted
      rw [landed_lots, settles]
      exact kept.trans grown

structure Honest (spine : Spine) : Prop where
  pre : ∀ wallet result, spine.pre wallet = some result → result.outcome ≠ .applied
  replay : ∀ wallet existing, (spine.onReplay wallet existing).outcome ≠ .applied
  answer : ∀ wallet result, spine.prepare wallet = .answer result → result.outcome ≠ .applied
  conflict : ∀ wallet result, spine.onConflict wallet = .ok result → result.outcome ≠ .applied

theorem mint_replay_outcome (wallet : Wallet) (existing : WalletTransaction) :
    (mintReplayShape wallet existing).outcome ≠ .applied := by
  rw [mintReplayShape]
  split
  · simp [refused]
  · simp

-- Every idempotent operation but the mint answers a replay and a conflict in
-- the default shape, so only the answers of its money rules are its own.
theorem plain_spine_honest (spine : Spine) (noPre : ∀ wallet, spine.pre wallet = none)
    (replays : ∀ wallet existing, (spine.onReplay wallet existing).outcome = .replayed)
    (conflicts : ∀ wallet, spine.onConflict wallet = .ok { outcome := .replayed, balanceMicros := wallet.balanceMicros })
    (answers : ∀ wallet result, spine.prepare wallet = .answer result → result.outcome ≠ .applied) : Honest spine := by
  refine ⟨?_, ?_, answers, ?_⟩
  · intro wallet result early
    rw [noPre] at early
    cases early
  · intro wallet existing
    simp [replays]
  · intro wallet result raced
    rw [conflicts] at raced
    cases raced
    simp

theorem mint_spine_honest (env : Env) (kind : GrantKind) (amount : Int) (expiresAt : Option Nat) (callerKey : String)
    (audit : Audit) : Honest (mintGrantSpine env kind amount expiresAt callerKey audit) := by
  refine ⟨by simp [mintGrantSpine], mint_replay_outcome, by simp [mintGrantSpine], ?_⟩
  intro wallet result raced
  simp only [mintGrantSpine] at raced
  split at raced
  · cases raced
    exact mint_replay_outcome wallet _
  · cases raced

theorem idempotent_spine_honest (op : Op) (env : Env) (spine : Spine) (operation : Operation) (key : String)
    (isOp : op.idempotency = some (operation, key)) (isSpine : op.spine env = some spine) :
    Honest spine ∧ spine.key = key ∧ ∀ wallet, spine.pre wallet = none := by
  cases op with
  | debit amount callerKey allowNegative audit =>
      cases isOp
      cases isSpine
      refine ⟨plain_spine_honest _ (fun _ => rfl) (fun _ _ => rfl) (fun _ => rfl) ?_, rfl, fun _ => rfl⟩
      intro wallet result answered
      simp only [debitSpine] at answered
      split at answered
      · cases answered
        simp
      · cases answered
  | withdraw amount callerKey audit =>
      cases isOp
      cases isSpine
      refine ⟨plain_spine_honest _ (fun _ => rfl) (fun _ _ => rfl) (fun _ => rfl) ?_, rfl, fun _ => rfl⟩
      intro wallet result answered
      simp only [withdrawSpine] at answered
      split at answered
      · cases answered
        simp [refused]
      · cases answered
  | refundUsage usageEventId callerKey reason =>
      cases isOp
      cases isSpine
      refine ⟨plain_spine_honest _ (fun _ => rfl) (fun _ _ => rfl) (fun _ => rfl) ?_, rfl, fun _ => rfl⟩
      intro wallet result answered
      simp only [refundUsageSpine] at answered
      split at answered
      · cases answered
        simp [refused]
      · cases answered
        simp [refused]
      · cases answered
  | mintGrant kind amount expiresAt callerKey audit =>
      cases isOp
      cases isSpine
      exact ⟨mint_spine_honest env kind amount expiresAt callerKey audit, rfl, fun _ => rfl⟩
  | credit | drawDownUsage | creditTopUp | clawBackDispute =>
      cases isOp
      cases isSpine
      refine ⟨plain_spine_honest _ (fun _ => rfl) (fun _ _ => rfl) (fun _ => rfl) ?_, rfl, fun _ => rfl⟩
      intro wallet result answered
      cases answered
  | voidGrant | clawBackStripeRefund | expireDueSweep => cases isOp

theorem applied_lands (spine : Spine) (env : Env) (wallet after : Wallet) (result : OpResult) (honest : Honest spine)
    (done : execute spine env wallet = .ok (after, result)) (applied : result.outcome = .applied) :
    ∃ move lots, (spine.expired env wallet).find spine.key = none ∧
      spine.prepare (spine.expired env wallet) = .move move ∧ Minted spine.key move (spine.expired env wallet) lots ∧
      after = landed env.now spine.key move (spine.expired env wallet) lots := by
  rcases execute_cases spine env wallet after result done with
    ⟨_, early⟩ | ⟨_, _, existing, _, shape⟩ | ⟨_, _, _, answered | ⟨move, _, _, raced⟩⟩ |
    ⟨move, written, grant, _, prepared, wrote, afterEq, _⟩
  · exact absurd applied (honest.pre wallet result early)
  · exact absurd applied (shape ▸ honest.replay _ existing)
  · exact absurd applied (honest.answer _ result answered)
  · exact absurd applied (honest.conflict _ result raced)
  · obtain ⟨free, lots, minted, landedEq⟩ := write_move_cases env.now _ _ _ _ _ wrote
    exact ⟨move, lots, free, prepared, minted, afterEq.trans landedEq⟩

theorem execute_replays (spine : Spine) (env : Env) (wallet : Wallet) (existing : WalletTransaction)
    (noPre : spine.pre wallet = none) (found : (spine.expired env wallet).find spine.key = some existing) :
    execute spine env wallet = .ok (spine.expired env wallet, spine.onReplay (spine.expired env wallet) existing) := by
  simp only [execute, noPre, found]

def rowsUnder (key : String) (wallet : Wallet) : List WalletTransaction :=
  wallet.transactions.filter (fun row => row.idempotencyKey = key)

def KeysUnique (wallet : Wallet) : Prop := (wallet.transactions.map WalletTransaction.idempotencyKey).Nodup

theorem append_row_unique (row : WalletTransaction) (before after : Wallet) (unique : KeysUnique before)
    (free : before.find row.idempotencyKey = none) (appended : after.transactions = before.transactions ++ [row]) :
    KeysUnique after := by
  rw [KeysUnique, appended]
  exact nodup_add_row WalletTransaction.idempotencyKey before.transactions row unique
    (find_key_none WalletTransaction.idempotencyKey row.idempotencyKey before.transactions free)

theorem expire_due_unique (env : Env) (now : Option Nat) (wallet : Wallet) (unique : KeysUnique wallet) :
    KeysUnique (expireDue env now wallet).1 := by
  apply expire_loop_keeps KeysUnique env
  · intro grant reached kept
    rcases expire_grant_cases env grant reached with ⟨_, flipped⟩ | ⟨_, _, skipped⟩ | ⟨_, free, booked⟩
    · rw [flipped]
      exact kept
    · rw [skipped]
      exact kept
    · rw [booked]
      exact append_row_unique (expiryRow reached grant (expiryDebit reached grant)) reached _ kept free rfl
  · exact unique

theorem step_unique (wallet : Wallet) (call : Call) (unique : KeysUnique wallet) : KeysUnique (step wallet call) := by
  refine step_keeps KeysUnique (fun _ => True) expire_due_unique ?_ wallet call unique trivial
  intro laterCall reached spine move lots _ kept _ free _ _
  exact append_row_unique (moveRow spine.key move reached) reached _ kept free rfl

theorem run_unique (wallet : Wallet) (calls : List Call) (unique : KeysUnique wallet) : KeysUnique (run step wallet calls) :=
  run_invariant step KeysUnique (fun _ => True) (fun reached call kept _ => step_unique reached call kept) wallet calls unique
    (fun _ _ => trivial)

theorem wallet_after_unique (calls : List Call) : KeysUnique (walletAfter calls) :=
  run_unique emptyWallet calls (by simp [KeysUnique, emptyWallet])

theorem rows_under_le_one (key : String) (wallet : Wallet) (unique : KeysUnique wallet) : (rowsUnder key wallet).length ≤ 1 := by
  have count := List.nodup_iff_count_le_one.mp unique key
  rw [List.count, List.countP_map, List.countP_eq_length_filter] at count
  have sameRows : rowsUnder key wallet =
      wallet.transactions.filter ((fun value => value == key) ∘ WalletTransaction.idempotencyKey) := by
    rw [rowsUnder]
    congr 1
  rw [sameRows]
  exact count

theorem find_stored (key : String) (wallet : Wallet) (row : WalletTransaction) (found : wallet.find key = some row) :
    row ∈ wallet.transactions ∧ row.idempotencyKey = key :=
  find_key_some WalletTransaction.idempotencyKey key wallet.transactions row found

theorem rows_under_eq_one (key : String) (wallet : Wallet) (row : WalletTransaction) (unique : KeysUnique wallet)
    (found : wallet.find key = some row) : (rowsUnder key wallet).length = 1 := by
  have stored := find_stored key wallet row found
  have member : row ∈ rowsUnder key wallet := List.mem_filter.mpr ⟨stored.1, by simpa using stored.2⟩
  have atMost := rows_under_le_one key wallet unique
  have atLeast := List.length_pos_of_mem member
  omega

theorem replay_outcome (op : Op) (env : Env) (spine : Spine) (operation : Operation) (key : String) (wallet : Wallet)
    (existing : WalletTransaction) (isOp : op.idempotency = some (operation, key)) (isSpine : op.spine env = some spine)
    (born : operation = .mintGrant → ∃ grant ∈ wallet.lots.grants, grant.sourceTransaction = existing.id) :
    (spine.onReplay wallet existing).outcome = .replayed := by
  cases op with
  | mintGrant kind amount expiresAt callerKey audit =>
      cases isOp
      cases isSpine
      obtain ⟨grant, member, source⟩ := born rfl
      simp only [mintGrantSpine, mintReplayShape]
      split
      · rename_i missing
        rw [List.find?_eq_none] at missing
        exact absurd source (by simpa using missing grant member)
      · rfl
  | debit | credit | withdraw | refundUsage | drawDownUsage | creditTopUp | clawBackDispute =>
      cases isOp
      cases isSpine
      rfl
  | voidGrant | clawBackStripeRefund | expireDueSweep => cases isOp

theorem births_member (transaction : Nat) (wallet : Wallet) (grant : Uuid) (member : (grant, transaction) ∈ births wallet.lots) :
    ∃ lot ∈ wallet.lots.grants, lot.sourceTransaction = transaction := by
  obtain ⟨lot, inside, same⟩ := List.mem_map.mp member
  exact ⟨lot, inside, (Prod.mk.inj same).2⟩

theorem applied_leaves_row (call : Call) (spine : Spine) (operation : Operation) (key : String) (wallet after : Wallet)
    (result : OpResult) (isOp : call.op.idempotency = some (operation, key)) (isSpine : call.op.spine call.env = some spine)
    (done : execute spine call.env wallet = .ok (after, result)) (applied : result.outcome = .applied) :
    ∃ row, after.find key = some row ∧
      (operation = .mintGrant → ∃ grant, (grant, row.id) ∈ births after.lots) := by
  obtain ⟨honest, keyEq, _⟩ := idempotent_spine_honest call.op call.env spine operation key isOp isSpine
  obtain ⟨move, lots, free, prepared, minted, afterEq⟩ := applied_lands spine call.env wallet after result honest done applied
  subst keyEq
  refine ⟨moveRow spine.key move (spine.expired call.env wallet), ?_, ?_⟩
  · rw [afterEq]
    exact find_landed _ _ _ _ _ free
  · intro mintsLot
    obtain ⟨_, settles⟩ := move_births call (spine.expired call.env wallet) spine move lots isSpine prepared minted
    rw [afterEq, landed_lots, settles]
    obtain ⟨op, env⟩ := call
    cases op with
    | mintGrant kind amount expiresAt callerKey audit =>
        cases isSpine
        cases prepared
        have born := minting_move_births _ _ _ lots env kind amount expiresAt .api callerKey rfl minted
        exact ⟨env.newGrantId, by simp [born, moveRow]⟩
    | _ => simp [Op.idempotency, mintsLot] at isOp

theorem perform_result (call : Call) (wallet after : Wallet) (spine : Spine) (result : OpResult)
    (isSpine : call.op.spine call.env = some spine) (done : perform call wallet = .ok (after, .result result)) :
    execute spine call.env wallet = .ok (after, result) := by
  rw [perform_spine call wallet spine isSpine] at done
  cases run : execute spine call.env wallet with
  | error raised => simp [run, Except.map] at done
  | ok pair =>
      simp only [run, Except.map, Except.ok.injEq, Prod.mk.injEq, Answer.result.injEq] at done
      rw [← done.1, ← done.2]

theorem idempotent_has_spine (op : Op) (env : Env) (operation : Operation) (key : String)
    (isOp : op.idempotency = some (operation, key)) : ∃ spine, op.spine env = some spine := by
  cases op with
  | voidGrant | clawBackStripeRefund | expireDueSweep => cases isOp
  | _ => exact ⟨_, rfl⟩

theorem kept_row_replays (call : Call) (operation : Operation) (key : String) (wallet : Wallet) (row : WalletTransaction)
    (isOp : call.op.idempotency = some (operation, key)) (found : wallet.find key = some row)
    (born : operation = .mintGrant → ∃ grant, (grant, row.id) ∈ births wallet.lots) :
    (lazyExpiry call wallet).find key = some row ∧
      ∃ answer, perform call wallet = .ok (lazyExpiry call wallet, .result answer) ∧ answer.outcome = .replayed := by
  obtain ⟨spine, isSpine⟩ := idempotent_has_spine call.op call.env operation key isOp
  obtain ⟨_, keyEq, noPre⟩ := idempotent_spine_honest call.op call.env spine operation key isOp isSpine
  have expiredRow := find_extended key row _ _ found (expired_extends spine call.env wallet)
  have replays := execute_replays spine call.env wallet row (noPre _) (by rw [keyEq]; exact expiredRow)
  have expiryEq : lazyExpiry call wallet = spine.expired call.env wallet := by simp only [lazyExpiry, isSpine]
  rw [expiryEq]
  refine ⟨expiredRow, spine.onReplay (spine.expired call.env wallet) row, ?_, ?_⟩
  · rw [perform_spine call _ spine isSpine, replays]
    rfl
  · apply replay_outcome call.op call.env spine operation key _ row isOp isSpine
    intro mintsLot
    obtain ⟨grant, member⟩ := born mintsLot
    apply births_member row.id _ grant
    rw [expired_births]
    exact member

theorem applied_key_replays_forever (before later : List Call) (call again : Call) (operation : Operation) (key : String)
    (after : Wallet) (result : OpResult) (isOp : call.op.idempotency = some (operation, key))
    (sameOp : again.op.idempotency = some (operation, key))
    (done : perform call (walletAfter before) = .ok (after, .result result)) (applied : result.outcome = .applied) :
    (∃ answer, perform again (run step after later) = .ok (lazyExpiry again (run step after later), .result answer) ∧
      answer.outcome = .replayed) ∧
    (rowsUnder key (step (run step after later) again)).length = 1 ∧
    ∀ other, (rowsUnder other (step (run step after later) again)).length ≤ 1 := by
  obtain ⟨spine, isSpine⟩ := idempotent_has_spine call.op call.env operation key isOp
  have executed := perform_result call (walletAfter before) after spine result isSpine done
  obtain ⟨row, found, born⟩ := applied_leaves_row call spine operation key (walletAfter before) after result isOp isSpine executed applied
  have reachedRow := find_extended key row after (run step after later) found (run_extends after later)
  have stillBorn : operation = .mintGrant → ∃ grant, (grant, row.id) ∈ births (run step after later).lots := by
    intro mintsLot
    obtain ⟨grant, member⟩ := born mintsLot
    exact ⟨grant, (run_births after later).subset member⟩
  obtain ⟨expiredRow, answer, performed, outcome⟩ := kept_row_replays again operation key _ row sameOp reachedRow stillBorn
  have stepEq : step (run step after later) again = lazyExpiry again (run step after later) := by simp only [step, performed]
  have landedStep : step (walletAfter before) call = after := by simp only [step, done]
  have unique : KeysUnique (step (run step after later) again) := by
    rw [← landedStep]
    exact step_unique _ again (run_unique _ later (step_unique _ call (wallet_after_unique before)))
  refine ⟨⟨answer, performed, outcome⟩, ?_, fun other => rows_under_le_one other _ unique⟩
  apply rows_under_eq_one key _ row unique
  rw [stepEq]
  exact expiredRow

def welcomeMint (amountMicros : Int) (now : Nat) : Call :=
  ⟨.mintGrant .promo amountMicros (some 10) "welcome" {}, sampleEnv now "lot-1"⟩

theorem welcome_mint_replays :
    (∃ answer, perform (welcomeMint 900 30) (run step (step emptyWallet (welcomeMint 500 1)) (mixedRun.drop 1)) =
      .ok (lazyExpiry (welcomeMint 900 30) (run step (step emptyWallet (welcomeMint 500 1)) (mixedRun.drop 1)), .result answer) ∧
      answer.outcome = .replayed) ∧
    (rowsUnder "grant:welcome" (step (run step (step emptyWallet (welcomeMint 500 1)) (mixedRun.drop 1))
      (welcomeMint 900 30))).length = 1 := by
  have replays := applied_key_replays_forever [] (mixedRun.drop 1) (welcomeMint 500 1) (welcomeMint 900 30) .mintGrant
    "grant:welcome" (step emptyWallet (welcomeMint 500 1)) _ rfl rfl rfl rfl
  exact ⟨replays.1, replays.2.1⟩

end Ubb.Wallets
