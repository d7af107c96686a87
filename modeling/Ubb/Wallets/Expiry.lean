import Ubb.Wallets.Machine

set_option autoImplicit false

namespace Ubb.Wallets

open Ubb.Library

def expiryDebit (wallet : Wallet) (grant : CreditGrant) : Int := min grant.remainingMicros (max wallet.balanceMicros 0)

def expiredWallet (env : Env) (grant : CreditGrant) (wallet : Wallet) : Wallet :=
  let saved := saveBalance env.now (wallet.balanceMicros - expiryDebit wallet grant)
    { wallet with transactions := wallet.transactions ++ [expiryRow wallet grant (expiryDebit wallet grant)] }
  { saved with
    lots := wallet.lots.saveGrant grant.id (writeExpired grant)
    signals := saved.signals ++ expirySignals env grant (expiryDebit wallet grant) (wallet.balanceMicros - expiryDebit wallet grant) }

@[simp] theorem expired_wallet_balance (env : Env) (grant : CreditGrant) (wallet : Wallet) :
    (expiredWallet env grant wallet).balanceMicros = wallet.balanceMicros - expiryDebit wallet grant := rfl

@[simp] theorem expired_wallet_transactions (env : Env) (grant : CreditGrant) (wallet : Wallet) :
    (expiredWallet env grant wallet).transactions =
      wallet.transactions ++ [expiryRow wallet grant (expiryDebit wallet grant)] := rfl

@[simp] theorem expired_wallet_lots (env : Env) (grant : CreditGrant) (wallet : Wallet) :
    (expiredWallet env grant wallet).lots = wallet.lots.saveGrant grant.id (writeExpired grant) := rfl

theorem expire_grant_cases (env : Env) (grant : CreditGrant) (wallet : Wallet) :
    (grant.remainingMicros ≤ 0 ∧ (expireGrant env grant wallet).1 =
      { wallet with lots := wallet.lots.saveGrant grant.id writeRetired }) ∨
    (0 < grant.remainingMicros ∧ wallet.find (expiryKey grant.id) ≠ none ∧ (expireGrant env grant wallet).1 = wallet) ∨
    (0 < grant.remainingMicros ∧ wallet.find (expiryKey grant.id) = none ∧
      (expireGrant env grant wallet).1 = expiredWallet env grant wallet) := by
  by_cases empty : grant.remainingMicros ≤ 0
  · exact .inl ⟨empty, by simp only [expireGrant, if_pos empty]⟩
  · have positive : 0 < grant.remainingMicros := by omega
    rcases insert_transaction_cases (expiryRow wallet grant (expiryDebit wallet grant)) wallet with
      ⟨existing, taken, conflict⟩ | ⟨free, inserted⟩
    · refine .inr (.inl ⟨positive, Option.ne_none_iff_exists'.mpr ⟨existing, taken⟩, ?_⟩)
      simp only [expiryDebit] at conflict
      simp only [expireGrant, if_neg empty, conflict]
    · refine .inr (.inr ⟨positive, free, ?_⟩)
      simp only [expiryDebit] at inserted
      simp only [expireGrant, if_neg empty, inserted]
      rfl

theorem expire_loop_keeps (Inv : Wallet → Prop) (env : Env)
    (keeps : ∀ grant wallet, Inv wallet → Inv (expireGrant env grant wallet).1)
    (grants : List CreditGrant) (wallet : Wallet) (inv : Inv wallet) : Inv (expireLoop env grants wallet).1 := by
  induction grants generalizing wallet with
  | nil => exact inv
  | cons grant rest ih => exact ih (expireGrant env grant wallet).1 (keeps grant wallet inv)

end Ubb.Wallets
