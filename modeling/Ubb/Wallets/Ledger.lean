import Ubb.Wallets.Expiry

set_option autoImplicit false

namespace Ubb.Wallets

open Ubb.Library

-- Rows that carry a balance from start to finish: each one states the balance
-- it found plus its own amount, and the next one finds what it stated.
def Booked : Int → List WalletTransaction → Int → Prop
  | start, [], finish => finish = start
  | start, row :: rest, finish =>
      row.balanceAfterMicros = start + row.amountMicros ∧ Booked row.balanceAfterMicros rest finish

theorem booked_append (start middle finish : Int) (first second : List WalletTransaction)
    (before : Booked start first middle) (after : Booked middle second finish) :
    Booked start (first ++ second) finish := by
  induction first generalizing start with
  | nil =>
      have same : middle = start := before
      subst same
      exact after
  | cons row rest ih => exact ⟨before.1, ih row.balanceAfterMicros before.2⟩

theorem booked_total (start finish : Int) (rows : List WalletTransaction) (booked : Booked start rows finish) :
    finish = start + (rows.map WalletTransaction.amountMicros).sum := by
  induction rows generalizing start with
  | nil => simpa [Booked] using booked
  | cons row rest ih =>
      have rest_total := ih row.balanceAfterMicros booked.2
      simp only [List.map_cons, List.sum_cons]
      rw [rest_total, booked.1]
      omega

theorem booked_row (start finish : Int) (before after : List WalletTransaction) (row : WalletTransaction)
    (booked : Booked start (before ++ row :: after) finish) :
    row.balanceAfterMicros = start + ((before ++ [row]).map WalletTransaction.amountMicros).sum := by
  induction before generalizing start with
  | nil => simpa using booked.1
  | cons first rest ih =>
      have later := ih first.balanceAfterMicros booked.2
      rw [later, booked.1]
      simp only [List.cons_append, List.map_cons, List.sum_cons]
      omega

def Extends (before after : Wallet) : Prop :=
  ∃ rows, after.transactions = before.transactions ++ rows ∧ Booked before.balanceMicros rows after.balanceMicros

theorem extends_refl (wallet : Wallet) : Extends wallet wallet := ⟨[], by simp, rfl⟩

theorem extends_trans (first second third : Wallet) (before : Extends first second) (after : Extends second third) :
    Extends first third := by
  obtain ⟨rows, rowsEq, booked⟩ := before
  obtain ⟨more, moreEq, bookedMore⟩ := after
  exact ⟨rows ++ more, by rw [moreEq, rowsEq, List.append_assoc], booked_append _ _ _ rows more booked bookedMore⟩

theorem expire_grant_extends (env : Env) (grant : CreditGrant) (wallet : Wallet) :
    Extends wallet (expireGrant env grant wallet).1 := by
  rcases expire_grant_cases env grant wallet with ⟨_, flipped⟩ | ⟨_, _, skipped⟩ | ⟨_, _, booked⟩
  · rw [flipped]
    exact ⟨[], by simp, rfl⟩
  · rw [skipped]
    exact extends_refl wallet
  · rw [booked]
    refine ⟨[expiryRow wallet grant (expiryDebit wallet grant)], rfl, ?_, ?_⟩
    · simp [expiryRow, sub_eq_add_neg]
    · simp [expiryRow, Booked]

theorem expire_due_extends (env : Env) (now : Option Nat) (wallet : Wallet) :
    Extends wallet (expireDue env now wallet).1 := by
  apply expire_loop_keeps (Extends wallet) env
  · intro grant reached before
    exact extends_trans wallet reached _ before (expire_grant_extends env grant reached)
  · exact extends_refl wallet

theorem landed_extends (now : Nat) (key : String) (move : Move) (wallet : Wallet) (lots : LotTables) :
    Extends wallet (landed now key move wallet lots) :=
  ⟨[moveRow key move wallet], rfl, rfl, rfl⟩

theorem step_extends (wallet : Wallet) (call : Call) : Extends wallet (step wallet call) := by
  apply step_keeps (Extends wallet) (fun _ => True)
  · intro env now reached before
    exact extends_trans wallet reached _ before (expire_due_extends env now reached)
  · intro laterCall reached spine move lots _ before _ _ _ _
    exact extends_trans wallet reached _ before (landed_extends laterCall.env.now spine.key move reached lots)
  · exact extends_refl wallet
  · trivial

theorem run_extends (wallet : Wallet) (calls : List Call) : Extends wallet (run step wallet calls) := by
  apply run_relation step Extends
  · exact extends_refl
  · intro start reached call before
    exact extends_trans start reached _ before (step_extends reached call)

section

variable (Fact : WalletTransaction → Prop) (expiry : ∀ wallet grant debit, Fact (expiryRow wallet grant debit))

omit expiry in
theorem appended_rows (before after : Wallet) (row : WalletTransaction) (appended : after.transactions = before.transactions ++ [row])
    (old : ∀ stored ∈ before.transactions, Fact stored) (new : Fact row) : ∀ stored ∈ after.transactions, Fact stored := by
  intro stored member
  rw [appended, List.mem_append, List.mem_singleton] at member
  rcases member with inside | rfl
  · exact old stored inside
  · exact new

include expiry

theorem expire_due_rows (env : Env) (now : Option Nat) (wallet : Wallet) (rows : ∀ row ∈ wallet.transactions, Fact row) :
    ∀ row ∈ (expireDue env now wallet).1.transactions, Fact row := by
  apply expire_loop_keeps (fun pass => ∀ row ∈ pass.transactions, Fact row) env _ _ wallet rows
  intro grant pass before
  rcases expire_grant_cases env grant pass with ⟨_, flipped⟩ | ⟨_, _, skipped⟩ | ⟨_, _, booked⟩
  · rw [flipped]
    exact before
  · rw [skipped]
    exact before
  · rw [booked]
    exact appended_rows Fact pass _ _ (expired_wallet_transactions env grant pass) before (expiry pass grant _)

theorem step_rows (wallet : Wallet) (call : Call) (rows : ∀ row ∈ wallet.transactions, Fact row)
    (moved : ∀ reached spine move, Extends wallet reached → reached.find spine.key = none → call.op.spine call.env = some spine →
      spine.prepare reached = .move move → Fact (moveRow spine.key move reached)) :
    ∀ row ∈ (step wallet call).transactions, Fact row := by
  rcases step_cases wallet call with same | ⟨now, expired⟩ | ⟨spine, move, lots, isSpine, free, prepared, minted, done⟩
  · rw [same]
    exact rows
  · rw [expired]
    exact expire_due_rows Fact expiry call.env now wallet rows
  · rw [done]
    refine appended_rows Fact _ _ _ (landed_transactions _ _ _ _ _) ?_ (moved _ spine move ?_ free isSpine prepared)
    · rcases expired_cases spine call.env wallet with unexpired | expired
      · rw [unexpired]
        exact rows
      · rw [expired]
        exact expire_due_rows Fact expiry call.env none wallet rows
    · rcases expired_cases spine call.env wallet with unexpired | expired
      · rw [unexpired]
        exact extends_refl wallet
      · rw [expired]
        exact expire_due_extends call.env none wallet

end

theorem run_rows (Fact : WalletTransaction → Prop) (Admitted : Call → Prop)
    (expiry : ∀ wallet grant debit, Fact (expiryRow wallet grant debit))
    (moved : ∀ call wallet spine move, Admitted call → call.op.spine call.env = some spine →
      spine.prepare wallet = .move move → Fact (moveRow spine.key move wallet))
    (wallet : Wallet) (calls : List Call) (rows : ∀ row ∈ wallet.transactions, Fact row)
    (admitted : ∀ call ∈ calls, Admitted call) : ∀ row ∈ (run step wallet calls).transactions, Fact row := by
  refine run_invariant step (fun reached => ∀ row ∈ reached.transactions, Fact row) Admitted ?_ wallet calls rows admitted
  intro reached call kept isAdmitted
  apply step_rows Fact expiry reached call kept
  intro later spine move _ _ isSpine prepared
  exact moved call later spine move isAdmitted isSpine prepared

theorem ledger_reconstructs_balance (calls : List Call) :
    (walletAfter calls).balanceMicros = ((walletAfter calls).transactions.map WalletTransaction.amountMicros).sum ∧
    (∀ before row after, (walletAfter calls).transactions = before ++ row :: after →
      row.balanceAfterMicros = ((before ++ [row]).map WalletTransaction.amountMicros).sum) ∧
    ∀ call, ∃ rows, (step (walletAfter calls) call).transactions = (walletAfter calls).transactions ++ rows ∧
      Booked (walletAfter calls).balanceMicros rows (step (walletAfter calls) call).balanceMicros := by
  obtain ⟨rows, rowsEq, booked⟩ := run_extends emptyWallet calls
  have ledger : (walletAfter calls).transactions = rows := rowsEq
  have wholeBooked : Booked 0 (walletAfter calls).transactions (walletAfter calls).balanceMicros := by
    rw [ledger]
    exact booked
  refine ⟨?_, ?_, fun call => step_extends (walletAfter calls) call⟩
  · simpa using booked_total _ _ _ wholeBooked
  · intro before row after split
    rw [split] at wholeBooked
    simpa using booked_row _ _ _ _ _ wholeBooked

end Ubb.Wallets
