import Ubb.Library.TaggedText
import Ubb.Wallets.Draws

set_option autoImplicit false

-- A refund meets lots whose expiry has passed: the expiry pass in front of it
-- closes the active ones, and the loop behind it restores what it can.
namespace Ubb.Wallets

open Ubb.Library

def PastExpiry (now : Nat) (grant : CreditGrant) : Prop := ∃ expiry, grant.expiresAt = some expiry ∧ expiry ≤ now

instance (now : Nat) (grant : CreditGrant) : Decidable (PastExpiry now grant) :=
  match expires : grant.expiresAt with
  | none => isFalse (by rintro ⟨expiry, same, _⟩; rw [expires] at same; cases same)
  | some expiry =>
    if passed : expiry ≤ now then isTrue ⟨expiry, expires, passed⟩
    else isFalse (by rintro ⟨other, same, atMost⟩; rw [expires] at same; cases same; exact passed atMost)

theorem is_due_iff (now : Nat) (grant : CreditGrant) :
    isDue now grant = true ↔ grant.status = .active ∧ PastExpiry now grant := by
  unfold isDue isActive PastExpiry
  cases grant.expiresAt <;> simp

theorem expiry_key_inj (left right : Uuid) (same : expiryKey left = expiryKey right) : left = right := by
  have texts := tagged_inj "expiry:" left.text right.text same
  cases left
  cases right
  exact congrArg Uuid.mk texts

theorem find_booked (wallet : Wallet) (row : WalletTransaction) (key : String) (different : row.idempotencyKey ≠ key)
    (booked : Wallet) (same : booked.transactions = wallet.transactions ++ [row]) : booked.find key = wallet.find key := by
  unfold Wallet.find
  rw [same, List.find?_append]
  simp [different]

structure Expires (grants : List CreditGrant) (wallet after : Wallet) : Prop where
  closes : ∀ grant ∈ grants, wallet.find (expiryKey grant.id) = none →
    after.lots.grant grant.id = some (writeExpired grant grant)
  skips : ∀ grant ∈ grants, wallet.find (expiryKey grant.id) ≠ none → after.lots.grant grant.id = some grant
  others : ∀ wanted, wanted ∉ grants.map CreditGrant.id → after.lots.grant wanted = wallet.lots.grant wanted
  allocations : after.lots.allocations = wallet.lots.allocations

theorem expire_loop_expires (env : Env) (grants : List CreditGrant) (wallet : Wallet)
    (stored : ∀ grant ∈ grants, wallet.lots.grant grant.id = some grant) (once : (grants.map CreditGrant.id).Nodup)
    (positive : ∀ grant ∈ grants, 0 < grant.remainingMicros) : Expires grants wallet (expireLoop env grants wallet).1 := by
  induction grants generalizing wallet with
  | nil => exact ⟨by simp, by simp, fun _ _ => rfl, rfl⟩
  | cons grant rest ih =>
    obtain ⟨apart, restOnce⟩ := List.nodup_cons.mp once
    have here := stored grant (by simp)
    have restPositive : ∀ other ∈ rest, 0 < other.remainingMicros := fun other member => positive other (by simp [member])
    have different : ∀ other ∈ rest, other.id ≠ grant.id := by
      intro other member same
      exact apart (List.mem_map.mpr ⟨other, member, same⟩)
    rw [expireLoop]
    dsimp only
    rcases expire_grant_cases env grant wallet with ⟨empty, _⟩ | ⟨_, taken, skipped⟩ | ⟨_, free, booked⟩
    · exact absurd (positive grant (by simp)) (not_lt.mpr empty)
    · rw [skipped]
      have tail := ih wallet (fun other member => stored other (by simp [member])) restOnce restPositive
      refine ⟨?_, ?_, ?_, tail.allocations⟩
      · intro other member free
        rcases List.mem_cons.mp member with rfl | later
        · exact absurd free taken
        · exact tail.closes other later free
      · intro other member held
        rcases List.mem_cons.mp member with rfl | later
        · rw [tail.others other.id apart, here]
        · exact tail.skips other later held
      · intro wanted outside
        rw [List.map_cons, List.mem_cons, not_or] at outside
        exact tail.others wanted outside.2
    · rw [booked]
      have keys : ∀ other ∈ rest, (expiredWallet env grant wallet).find (expiryKey other.id) =
          wallet.find (expiryKey other.id) := by
        intro other member
        apply find_booked wallet (expiryRow wallet grant (expiryDebit wallet grant)) _ ?_ _ rfl
        intro same
        exact different other member (expiry_key_inj _ _ same).symm
      have untouched : ∀ other ∈ rest, (expiredWallet env grant wallet).lots.grant other.id = some other := by
        intro other member
        rw [expired_wallet_lots, grant_save_other wallet.lots grant (writeExpired grant) other.id (fun _ => rfl)
          (different other member)]
        exact stored other (by simp [member])
      have tail := ih (expiredWallet env grant wallet) untouched restOnce restPositive
      refine ⟨?_, ?_, ?_, tail.allocations⟩
      · intro other member otherFree
        rcases List.mem_cons.mp member with rfl | later
        · rw [tail.others other.id apart, expired_wallet_lots,
            grant_save_hit wallet.lots other (writeExpired other) (fun _ => rfl) here]
        · rw [← keys other later] at otherFree
          exact tail.closes other later otherFree
      · intro other member held
        rcases List.mem_cons.mp member with rfl | later
        · exact absurd free held
        · rw [← keys other later] at held
          exact tail.skips other later held
      · intro wanted outside
        rw [List.map_cons, List.mem_cons, not_or] at outside
        rw [tail.others wanted outside.2, expired_wallet_lots,
          grant_save_other wallet.lots grant (writeExpired grant) wanted (fun _ => rfl) outside.1]

def slice (pair : GrantAllocation × CreditGrant) : Int :=
  min (pair.1.amountMicros - pair.1.refundedMicros) (pair.2.grantedMicros - pair.2.remainingMicros)

def restorable (pair : GrantAllocation × CreditGrant) : Bool :=
  pair.2.status = .active || pair.2.status = .depleted

def Reached (headroom : Int) (front : List (GrantAllocation × CreditGrant)) (pair : GrantAllocation × CreditGrant) : Prop :=
  restorable pair = true ∧ 0 < slice pair ∧ ((front.filter restorable).map slice).sum < headroom

theorem reached_behind (headroom : Int) (first : GrantAllocation × CreditGrant)
    (front : List (GrantAllocation × CreditGrant)) (pair : GrantAllocation × CreditGrant) (live : restorable first = true) :
    Reached headroom (first :: front) pair ↔ Reached (headroom - slice first) front pair := by
  unfold Reached
  rw [List.filter_cons_of_pos live, List.map_cons, List.sum_cons]
  constructor
  · rintro ⟨kept, positive, room⟩
    exact ⟨kept, positive, by omega⟩
  · rintro ⟨kept, positive, room⟩
    exact ⟨kept, positive, by omega⟩

theorem not_reached (headroom : Int) (front : List (GrantAllocation × CreditGrant)) (pair : GrantAllocation × CreditGrant)
    (nonneg : ∀ other ∈ front, 0 ≤ slice other) (full : headroom ≤ 0) : ¬Reached headroom front pair := by
  rintro ⟨_, _, room⟩
  have atLeast := sum_nonneg_of slice (front.filter restorable) (fun other member => nonneg other (List.mem_filter.mp member).1)
  omega

def Restores (lots after : LotTables) (pair : GrantAllocation × CreditGrant) (reached : Prop) : Prop :=
  (reached → ∃ row, after.grant pair.2.id = some row ∧ row.status = .active ∧ pair.2.remainingMicros < row.remainingMicros ∧
    row.expiresAt = pair.2.expiresAt) ∧
  (¬reached → after.grant pair.2.id = lots.grant pair.2.id ∧ pair.1 ∈ after.allocations)

structure RestoresReached (pairs : List (GrantAllocation × CreditGrant)) (headroom : Int) (lots after : LotTables) : Prop where
  each : ∀ front pair back, pairs = front ++ pair :: back → Restores lots after pair (Reached headroom front pair)
  others : ∀ wanted, (∀ pair ∈ pairs, pair.2.id ≠ wanted) → after.grant wanted = lots.grant wanted
  allocations : ∀ alloc ∈ lots.allocations, (∀ pair ∈ pairs, pair.1.id ≠ alloc.id) → alloc ∈ after.allocations

theorem restores_nothing (pairs : List (GrantAllocation × CreditGrant)) (headroom : Int) (lots : LotTables)
    (joined : Joined pairs lots) (nonneg : ∀ pair ∈ pairs, 0 ≤ slice pair) (full : headroom ≤ 0) :
    RestoresReached pairs headroom lots lots := by
  refine ⟨?_, fun _ _ => rfl, fun _ member _ => member⟩
  intro front pair back split
  have inside : ∀ other ∈ front, other ∈ pairs := fun other member => by rw [split]; simp [member]
  have absent := not_reached headroom front pair (fun other member => nonneg other (inside other member)) full
  exact ⟨fun reached => absurd reached absent, fun _ => ⟨rfl, joined.allocs pair (by rw [split]; simp)⟩⟩

theorem restores_passing (first : GrantAllocation × CreditGrant) (rest : List (GrantAllocation × CreditGrant))
    (headroom : Int) (lots after : LotTables) (joined : Joined (first :: rest) lots) (idle : ¬Reached headroom [] first)
    (shift : ∀ front pair, Reached headroom (first :: front) pair ↔ Reached headroom front pair)
    (apart : first.1.id ∉ rest.map (fun pair => pair.1.id)) (tail : RestoresReached rest headroom lots after) :
    RestoresReached (first :: rest) headroom lots after := by
  refine ⟨?_, ?_, ?_⟩
  · intro front pair back split
    cases front with
    | nil =>
      obtain ⟨rfl, rfl⟩ := List.cons.inj split
      refine ⟨fun reached => absurd reached idle, fun _ => ⟨?_, ?_⟩⟩
      · apply tail.others
        intro other member same
        exact (List.nodup_cons.mp joined.once).1 (List.mem_map.mpr ⟨other, member, same⟩)
      · apply tail.allocations first.1 (joined.allocs first (by simp))
        intro other member same
        exact apart (List.mem_map.mpr ⟨other, member, same⟩)
    | cons head front =>
      obtain ⟨rfl, later⟩ := List.cons.inj split
      have kept := tail.each front pair back later
      unfold Restores at kept ⊢
      rw [shift front pair]
      exact kept
  · intro wanted outside
    exact tail.others wanted (fun pair member => outside pair (by simp [member]))
  · intro alloc member outside
    exact tail.allocations alloc member (fun pair inside => outside pair (by simp [inside]))

theorem restores_first (alloc : GrantAllocation) (grant : CreditGrant) (rest : List (GrantAllocation × CreditGrant))
    (headroom take : Int) (lots after : LotTables) (joined : Joined ((alloc, grant) :: rest) lots)
    (here : lots.grant grant.id = some grant) (live : grant.status = .active ∨ grant.status = .depleted)
    (takeEq : min (slice (alloc, grant)) headroom = take) (positive : 0 < take)
    (restNonneg : ∀ pair ∈ rest, 0 ≤ slice pair)
    (behind : RestoresReached rest (headroom - take) (restoreLot take alloc grant lots) after) :
    RestoresReached ((alloc, grant) :: rest) headroom lots after := by
  have opens : restorable (alloc, grant) = true := by simpa [restorable] using live
  have different : ∀ other ∈ rest, other.2.id ≠ grant.id := by
    intro other inside same
    exact (List.nodup_cons.mp joined.once).1 (List.mem_map.mpr ⟨other, inside, same⟩)
  refine ⟨?_, ?_, ?_⟩
  · intro front pair back split
    cases front with
    | nil =>
      obtain ⟨rfl, rfl⟩ := List.cons.inj split
      refine ⟨fun _ => ⟨writeRestored take grant grant, ?_, ?_, ?_, rfl⟩, fun idle => absurd ?_ idle⟩
      · show after.grant grant.id = _
        rw [behind.others grant.id (fun other inside => different other inside)]
        exact grant_save_hit lots grant (writeRestored take grant) (fun _ => rfl) here
      · rcases live with active | empty
        · simp [writeRestored, active]
        · simp [writeRestored, empty]
      · simp only [writeRestored]
        omega
      · exact ⟨opens, by omega, by simp only [List.filter_nil, List.map_nil, List.sum_nil]; omega⟩
    | cons head front =>
      obtain ⟨rfl, later⟩ := List.cons.inj split
      have kept := behind.each front pair back later
      have inRest : pair ∈ rest := by
        rw [later]
        simp
      have frontNonneg : ∀ other ∈ front, 0 ≤ slice other := by
        intro other inside
        exact restNonneg other (by rw [later]; simp [inside])
      have same : Reached headroom ((alloc, grant) :: front) pair ↔ Reached (headroom - take) front pair := by
        rw [reached_behind headroom (alloc, grant) front pair opens]
        by_cases covered : slice (alloc, grant) ≤ headroom
        · rw [show take = slice (alloc, grant) by omega]
        · exact ⟨fun reached => absurd reached (not_reached _ front pair frontNonneg (by omega)),
            fun reached => absurd reached (not_reached _ front pair frontNonneg (by omega))⟩
      unfold Restores at kept ⊢
      rw [same, ← grant_save_other lots grant (writeRestored take grant) pair.2.id (fun _ => rfl)
        (different pair inRest)]
      exact kept
  · intro wanted outside
    rw [behind.others wanted (fun pair inside => outside pair (by simp [inside]))]
    exact grant_save_other lots grant (writeRestored take grant) wanted (fun _ => rfl)
      (fun same => outside (alloc, grant) (by simp) same.symm)
  · intro other inside outside
    apply behind.allocations other ?_ (fun pair member => outside pair (by simp [member]))
    exact update_row_other GrantAllocation.id alloc.id _ lots.allocations other inside
      (fun same => outside (alloc, grant) (by simp) same.symm)

theorem refund_loop_restores (rows : Nat) (pairs : List (GrantAllocation × CreditGrant)) (headroom total : Int)
    (lots : LotTables) (sound : LotsSound rows lots) (joined : Joined pairs lots)
    (nonneg : ∀ pair ∈ pairs, 0 ≤ slice pair) (once : (pairs.map (fun pair => pair.1.id)).Nodup) :
    RestoresReached pairs headroom lots (refundLoop pairs headroom total lots).1 := by
  induction pairs generalizing headroom total lots with
  | nil => exact ⟨by simp, fun _ _ => rfl, fun _ member _ => member⟩
  | cons first rest ih =>
    obtain ⟨alloc, grant⟩ := first
    have tail := joined_tail (alloc, grant) rest lots joined
    have restNonneg : ∀ pair ∈ rest, 0 ≤ slice pair := fun pair member => nonneg pair (by simp [member])
    obtain ⟨apart, restOnce⟩ := List.nodup_cons.mp once
    by_cases full : headroom ≤ 0
    · rw [refundLoop, if_pos full]
      exact restores_nothing _ headroom lots joined nonneg full
    · rw [refundLoop, if_neg full]
      by_cases dead : grant.status ≠ .active ∧ grant.status ≠ .depleted
      · rw [if_pos dead]
        have closed : restorable (alloc, grant) = false := by simp [restorable, dead.1, dead.2]
        refine restores_passing (alloc, grant) rest headroom lots _ joined ?_ ?_ apart
          (ih headroom total lots sound tail restNonneg restOnce)
        · rintro ⟨live, _⟩
          rw [closed] at live
          cases live
        · intro front pair
          unfold Reached
          rw [List.filter_cons_of_neg (by simp [closed])]
      · rw [if_neg dead]
        have live : grant.status = .active ∨ grant.status = .depleted := by
          by_contra neither
          exact dead (not_or.mp neither)
        have opens : restorable (alloc, grant) = true := by simpa [restorable] using live
        have sliceEq : min (min (alloc.amountMicros - alloc.refundedMicros) (grant.grantedMicros - grant.remainingMicros))
            headroom = min (slice (alloc, grant)) headroom := rfl
        have sliceNonneg := nonneg (alloc, grant) (by simp)
        dsimp only
        rw [sliceEq]
        by_cases nothing : min (slice (alloc, grant)) headroom ≤ 0
        · rw [if_pos nothing]
          have none : slice (alloc, grant) = 0 := by omega
          refine restores_passing (alloc, grant) rest headroom lots _ joined ?_ ?_ apart
            (ih headroom total lots sound tail restNonneg restOnce)
          · rintro ⟨_, positive, _⟩
            omega
          · intro front pair
            rw [reached_behind headroom (alloc, grant) front pair opens, none, sub_zero]
        · rw [if_neg nothing]
          generalize takeEq : min (slice (alloc, grant)) headroom = take at nothing
          have member := joined.grants (alloc, grant) (by simp)
          have here := grant_of_mem lots sound.grantIds grant member
          have atMost : take ≤ slice (alloc, grant) := by omega
          obtain ⟨restored, _⟩ := restore_lot_sound rows take alloc grant lots sound
            (joined.allocs (alloc, grant) (by simp)) member (joined.link (alloc, grant) (by simp)) live (by omega)
            (le_trans atMost (min_le_left _ _)) (le_trans atMost (min_le_right _ _))
          have later := joined_after_restore rows take alloc grant rest lots sound joined
          exact restores_first alloc grant rest headroom take lots _ joined here live takeEq (by omega) restNonneg
            (ih (headroom - take) (total + take) (restoreLot take alloc grant lots) restored later restNonneg restOnce)

def fundedFrom (usageEventId : Uuid) (wallet : Wallet) : List (GrantAllocation × CreditGrant) :=
  match wallet.usageDeduction usageEventId with
  | none => []
  | some original => usageAllocations original.id wallet.lots

def refundHeadroom (cost : Int) (wallet : Wallet) : Int := max (wallet.balanceMicros + cost) 0 - activeSum wallet.lots

theorem refund_landed_lots (now : Nat) (usageEventId : Uuid) (cost : Int) (key reason : String) (wallet : Wallet) :
    (landed now key (refundMove usageEventId cost key reason) wallet wallet.lots).lots =
      (refundLoop (fundedFrom usageEventId wallet) (refundHeadroom cost wallet) 0 wallet.lots).1 := by
  have same : (saveBalance now (wallet.balanceMicros + cost) { wallet with
      transactions := wallet.transactions ++ [moveRow key (refundMove usageEventId cost key reason) wallet] }).usageDeduction
        usageEventId = wallet.usageDeduction usageEventId := by
    unfold Wallet.usageDeduction saveBalance
    rw [List.reverse_append]
    simp [moveRow, refundMove]
  rw [landed_lots]
  show (refund (Wallet.usageDeduction _ usageEventId) _ wallet.lots).1 = _
  rw [show (refundMove usageEventId cost key reason).amountMicros = cost from rfl, same]
  unfold fundedFrom refundHeadroom
  cases wallet.usageDeduction usageEventId with
  | none => rfl
  | some original => rfl

theorem funded_joined (usageEventId : Uuid) (wallet : Wallet) (sound : WalletSound wallet) :
    Joined (fundedFrom usageEventId wallet) wallet.lots ∧
      (∀ pair ∈ fundedFrom usageEventId wallet, 0 ≤ slice pair) ∧
      ((fundedFrom usageEventId wallet).map (fun pair => pair.1.id)).Nodup := by
  unfold fundedFrom
  cases wallet.usageDeduction usageEventId with
  | none => exact ⟨⟨by simp, by simp, by simp, by simp⟩, by simp, by simp⟩
  | some original =>
    have joined := usage_allocations_joined _ original.id wallet.lots sound.lots
    refine ⟨joined, ?_, ?_⟩
    · intro pair member
      have refunded := sound.lots.allocations.refunded pair.1 (joined.allocs pair member)
      have bounded := (sound.lots.lot pair.2 (joined.grants pair member)).bounded
      unfold slice
      omega
    · have lots := joined.once
      rw [List.Nodup, List.pairwise_map] at lots ⊢
      refine lots.imp_of_mem ?_
      intro left right leftMember rightMember apart same
      have sameRow : left.1 = right.1 := List.inj_on_of_nodup_map (allocation_ids_unique _ _ sound.lots.allocations)
        (joined.allocs left leftMember) (joined.allocs right rightMember) same
      apply apart
      rw [← joined.link left leftMember, ← joined.link right rightMember, sameRow]

theorem refund_restores (now : Nat) (usageEventId : Uuid) (cost : Int) (key reason : String) (wallet : Wallet)
    (sound : WalletSound wallet) :
    RestoresReached (fundedFrom usageEventId wallet) (refundHeadroom cost wallet) wallet.lots
      (landed now key (refundMove usageEventId cost key reason) wallet wallet.lots).lots := by
  obtain ⟨joined, nonneg, once⟩ := funded_joined usageEventId wallet sound
  rw [refund_landed_lots]
  exact refund_loop_restores _ _ _ 0 wallet.lots sound.lots joined nonneg once

theorem expire_due_expires (env : Env) (now : Option Nat) (wallet : Wallet) (held : WalletOpen wallet) :
    Expires (dueGrants (now.getD env.now) wallet.lots) wallet (expireDue env now wallet).1 := by
  obtain ⟨stored, active, once⟩ := due_grants_loaded (now.getD env.now) wallet held.sound
  refine expire_loop_expires env _ wallet ?_ once ?_
  · exact fun grant member => grant_of_mem wallet.lots held.sound.lots.grantIds grant (stored grant member)
  · exact fun grant member => (held.opened grant (stored grant member)).mp (active grant member)

theorem mem_due_grants (now : Nat) (lots : LotTables) (grant : CreditGrant) :
    grant ∈ dueGrants now lots ↔ grant ∈ lots.grants ∧ grant.status = .active ∧ PastExpiry now grant := by
  rw [(due_grants_perm now lots).mem_iff, List.mem_filter, is_due_iff]

theorem expired_row (env : Env) (wallet : Wallet) (held : WalletOpen wallet) (grant : CreditGrant)
    (after : (expireDue env none wallet).1.lots.grant grant.id = some grant) :
    ∃ old, wallet.lots.grant grant.id = some old ∧ grant.expiresAt = old.expiresAt ∧
      (old.status = .active ∧ PastExpiry env.now old ∧ wallet.find (expiryKey grant.id) = none ∧
          grant = writeExpired old old ∨
        grant = old ∧ ¬(old.status = .active ∧ PastExpiry env.now old ∧ wallet.find (expiryKey grant.id) = none)) := by
  have expires := expire_due_expires env none wallet held
  have unique := held.sound.lots.grantIds
  by_cases due : grant.id ∈ (dueGrants env.now wallet.lots).map CreditGrant.id
  · obtain ⟨old, member, same⟩ := List.mem_map.mp due
    obtain ⟨stored, active, past⟩ := (mem_due_grants env.now wallet.lots old).mp member
    have here := grant_of_mem wallet.lots unique old stored
    rw [same] at here
    by_cases free : wallet.find (expiryKey old.id) = none
    · have closed := expires.closes old member free
      rw [same, after] at closed
      cases closed
      exact ⟨old, here, rfl, Or.inl ⟨active, past, free, rfl⟩⟩
    · have kept := expires.skips old member free
      rw [same, after] at kept
      cases kept
      exact ⟨grant, here, rfl, Or.inr ⟨rfl, fun closes => free closes.2.2⟩⟩
  · have kept := expires.others grant.id due
    rw [after] at kept
    refine ⟨grant, kept.symm, rfl, Or.inr ⟨rfl, fun closes => due ?_⟩⟩
    exact List.mem_map.mpr ⟨grant, (mem_due_grants env.now wallet.lots grant).mpr
      ⟨List.mem_of_find?_eq_some kept.symm, closes.1, closes.2.1⟩, rfl⟩

structure LeavesDueLotsClosed (now : Nat) (before after : Wallet) : Prop where
  closed : ∀ grant ∈ after.lots.grants, PastExpiry now grant → grant.status ≠ .active
  notRaised : ∀ grant ∈ after.lots.grants, PastExpiry now grant → ∀ old, before.lots.grant grant.id = some old →
    grant.remainingMicros ≤ old.remainingMicros
  baseCredit : ∀ alloc ∈ before.lots.allocations,
    (∀ grant, before.lots.grant alloc.grant = some grant → PastExpiry now grant) → alloc ∈ after.lots.allocations
  notDestroyed : ∀ env later, ∀ grant ∈ after.lots.grants, PastExpiry now grant →
    (expireDue env later after).1.lots.grant grant.id = some grant

structure DueLotsPassed (env : Env) (usageEventId : Uuid) (cost : Int) (before : Wallet) : Prop where
  keysFree : ∀ grant ∈ before.lots.grants, grant.status = .active → PastExpiry env.now grant →
    before.find (expiryKey grant.id) = none
  unreached : ∀ front pair back, fundedFrom usageEventId (expireDue env none before).1 = front ++ pair :: back →
    PastExpiry env.now pair.2 → ¬Reached (refundHeadroom cost (expireDue env none before).1) front pair

theorem restored_row (pairs : List (GrantAllocation × CreditGrant)) (headroom : Int) (lots after : LotTables)
    (restores : RestoresReached pairs headroom lots after) (row : CreditGrant) (found : after.grant row.id = some row) :
    lots.grant row.id = some row ∨
      ∃ front pair back, pairs = front ++ pair :: back ∧ Reached headroom front pair ∧ pair.2.id = row.id ∧
        row.expiresAt = pair.2.expiresAt := by
  by_cases named : ∃ pair ∈ pairs, pair.2.id = row.id
  · obtain ⟨pair, member, same⟩ := named
    obtain ⟨front, back, split⟩ := List.append_of_mem member
    obtain ⟨reopens, passes⟩ := restores.each front pair back split
    by_cases reached : Reached headroom front pair
    · obtain ⟨other, otherFound, _, _, expires⟩ := reopens reached
      rw [same, found] at otherFound
      cases otherFound
      exact Or.inr ⟨front, pair, back, split, reached, same, expires⟩
    · have kept := (passes reached).1
      rw [same, found] at kept
      exact Or.inl kept.symm
  · rw [restores.others row.id (fun pair member same => named ⟨pair, member, same⟩)] at found
    exact Or.inl found

theorem kept_row (pairs : List (GrantAllocation × CreditGrant)) (headroom : Int) (lots after : LotTables)
    (joined : Joined pairs lots) (unique : (lots.grants.map CreditGrant.id).Nodup)
    (restores : RestoresReached pairs headroom lots after) (grant : CreditGrant) (stored : lots.grant grant.id = some grant)
    (active : grant.status = .active) :
    ∃ row ∈ after.grants, row.status = .active ∧ row.expiresAt = grant.expiresAt := by
  by_cases named : ∃ pair ∈ pairs, pair.2.id = grant.id
  · obtain ⟨pair, member, same⟩ := named
    obtain ⟨front, back, split⟩ := List.append_of_mem member
    obtain ⟨reopens, passes⟩ := restores.each front pair back split
    have hit : pair.2 = grant :=
      List.inj_on_of_nodup_map unique (joined.grants pair member) (List.mem_of_find?_eq_some stored) same
    by_cases reached : Reached headroom front pair
    · obtain ⟨row, found, open_, _, expires⟩ := reopens reached
      exact ⟨row, List.mem_of_find?_eq_some found, open_, by rw [expires, hit]⟩
    · have kept := (passes reached).1
      rw [same, stored] at kept
      exact ⟨grant, List.mem_of_find?_eq_some kept, active, rfl⟩
  · have kept := restores.others grant.id (fun pair member same => named ⟨pair, member, same⟩)
    rw [stored] at kept
    exact ⟨grant, List.mem_of_find?_eq_some kept, active, rfl⟩

section

variable (before after : Wallet) (held : WalletOpen before) (afterHeld : WalletOpen after) (env : Env)
  (usageEventId : Uuid) (cost : Int)
  (restores : RestoresReached (fundedFrom usageEventId (expireDue env none before).1)
    (refundHeadroom cost (expireDue env none before).1) (expireDue env none before).1.lots after.lots)

include held restores

theorem due_closed_reaches_none (leaves : LeavesDueLotsClosed env.now before after) :
    DueLotsPassed env usageEventId cost before := by
  have expires := expire_due_expires env none before held
  have sound := expire_due_sound env none before held.sound
  obtain ⟨joined, _, _⟩ := funded_joined usageEventId _ sound
  refine ⟨?_, ?_⟩
  · intro grant member active past
    by_contra taken
    have due := (mem_due_grants env.now before.lots grant).mpr ⟨member, active, past⟩
    obtain ⟨row, inside, rowActive, sameExpiry⟩ := kept_row _ _ _ _ joined sound.lots.grantIds restores grant
      (expires.skips grant due taken) active
    obtain ⟨expiry, at_, atMost⟩ := past
    exact leaves.closed row inside ⟨expiry, sameExpiry.trans at_, atMost⟩ rowActive
  · intro front pair back split past reached
    obtain ⟨row, found, active, _, sameExpiry⟩ := (restores.each front pair back split).1 reached
    obtain ⟨expiry, at_, atMost⟩ := past
    exact leaves.closed row (List.mem_of_find?_eq_some found) ⟨expiry, sameExpiry.trans at_, atMost⟩ active

include afterHeld

omit held in
theorem due_row_untouched (none_ : DueLotsPassed env usageEventId cost before) (row : CreditGrant)
    (member : row ∈ after.lots.grants) (past : PastExpiry env.now row) :
    (expireDue env none before).1.lots.grant row.id = some row := by
  have found := grant_of_mem after.lots afterHeld.sound.lots.grantIds row member
  rcases restored_row _ _ _ _ restores row found with same | ⟨front, pair, back, split, reached, _, sameExpiry⟩
  · exact same
  · obtain ⟨expiry, at_, atMost⟩ := past
    exact absurd reached (none_.unreached front pair back split ⟨expiry, sameExpiry.symm.trans at_, atMost⟩)

theorem none_reached_leaves_closed (none_ : DueLotsPassed env usageEventId cost before) :
    LeavesDueLotsClosed env.now before after := by
  have sound := expire_due_sound env none before held.sound
  have expires := expire_due_expires env none before held
  obtain ⟨joined, _, _⟩ := funded_joined usageEventId _ sound
  have untouched := due_row_untouched before after afterHeld env usageEventId cost restores none_
  have closed : ∀ grant ∈ after.lots.grants, PastExpiry env.now grant → grant.status ≠ .active := by
    intro grant member past active
    obtain ⟨old, stored, sameExpiry, closes | ⟨rfl, stays⟩⟩ := expired_row env before held grant (untouched grant member past)
    · rw [closes.2.2.2] at active
      cases active
    · have oldMember := List.mem_of_find?_eq_some stored
      exact stays ⟨active, past, none_.keysFree grant oldMember active past⟩
  refine ⟨closed, ?_, ?_, ?_⟩
  · intro grant member past old stored
    obtain ⟨other, otherStored, _, closes | ⟨rfl, _⟩⟩ := expired_row env before held grant (untouched grant member past)
    · rw [stored] at otherStored
      cases otherStored
      rw [closes.2.2.2]
      exact (held.sound.lots.lot old (List.mem_of_find?_eq_some stored)).nonneg
    · rw [stored] at otherStored
      cases otherStored
      exact le_refl _
  · intro alloc member due
    have listed : alloc ∈ (expireDue env none before).1.lots.allocations := by
      rw [expires.allocations]
      exact member
    by_cases named : ∃ pair ∈ fundedFrom usageEventId (expireDue env none before).1, pair.1.id = alloc.id
    · obtain ⟨pair, inside, same⟩ := named
      obtain ⟨front, back, split⟩ := List.append_of_mem inside
      have hit : pair.1 = alloc := List.inj_on_of_nodup_map (allocation_ids_unique _ _ sound.lots.allocations)
        (joined.allocs pair inside) listed same
      have lot := grant_of_mem _ sound.lots.grantIds pair.2 (joined.grants pair inside)
      obtain ⟨old, stored, sameExpiry, _⟩ := expired_row env before held pair.2 lot
      rw [← joined.link pair inside, hit] at stored
      obtain ⟨expiry, at_, atMost⟩ := due old stored
      have idle := none_.unreached front pair back split ⟨expiry, sameExpiry.trans at_, atMost⟩
      rw [← hit]
      exact ((restores.each front pair back split).2 idle).2
    · exact restores.allocations alloc listed (fun pair inside same => named ⟨pair, inside, same⟩)
  · intro laterEnv later grant member past
    have kept := (expire_due_expires laterEnv later after afterHeld).others grant.id
    rw [kept]
    · exact grant_of_mem after.lots afterHeld.sound.lots.grantIds grant member
    · intro inside
      obtain ⟨other, otherDue, same⟩ := List.mem_map.mp inside
      obtain ⟨otherMember, active, _⟩ := (mem_due_grants _ after.lots other).mp otherDue
      rw [List.inj_on_of_nodup_map afterHeld.sound.lots.grantIds otherMember member same] at active
      exact closed grant member past active

end

-- The pass leaves the refund's own figures alone: each debit takes the whole
-- lot out of a positive balance, so the headroom stands where it stood.
theorem expire_grant_refund (env : Env) (grant : CreditGrant) (wallet : Wallet) (sound : WalletSound wallet)
    (stored : grant ∈ wallet.lots.grants) (active : grant.status = .active) (usageEventId : Uuid) (cost : Int)
    (nonneg : 0 ≤ cost) :
    refundHeadroom cost (expireGrant env grant wallet).1 = refundHeadroom cost wallet ∧
      (expireGrant env grant wallet).1.usageDeduction usageEventId = wallet.usageDeduction usageEventId := by
  have lot := sound.lots.lot grant stored
  have unique := sound.lots.grantIds
  unfold refundHeadroom
  rcases expire_grant_cases env grant wallet with ⟨empty, flipped⟩ | ⟨_, _, skipped⟩ | ⟨positive, _, booked⟩
  · have nothing : grant.remainingMicros = 0 := le_antisymm empty lot.nonneg
    rw [flipped]
    refine ⟨?_, rfl⟩
    rw [active_sum_closed wallet.lots grant writeRetired unique stored active rfl, nothing, Int.sub_zero]
  · rw [skipped]
    exact ⟨rfl, rfl⟩
  · have whole : expiryDebit wallet grant = grant.remainingMicros := whole_lot_backed wallet sound grant stored active
    have bound := remaining_le_balance wallet sound grant stored active
    rw [booked]
    constructor
    · rw [expired_wallet_lots, expired_wallet_balance, whole,
        active_sum_closed wallet.lots grant (writeExpired grant) unique stored active rfl]
      omega
    · unfold Wallet.usageDeduction
      rw [expired_wallet_transactions, List.reverse_append]
      simp [expiryRow]

theorem expire_loop_refund (env : Env) (grants : List CreditGrant) (wallet : Wallet) (sound : WalletSound wallet)
    (stored : ∀ grant ∈ grants, grant ∈ wallet.lots.grants) (active : ∀ grant ∈ grants, grant.status = .active)
    (once : (grants.map CreditGrant.id).Nodup) (usageEventId : Uuid) (cost : Int) (nonneg : 0 ≤ cost) :
    refundHeadroom cost (expireLoop env grants wallet).1 = refundHeadroom cost wallet ∧
      (expireLoop env grants wallet).1.usageDeduction usageEventId = wallet.usageDeduction usageEventId := by
  induction grants generalizing wallet with
  | nil => exact ⟨rfl, rfl⟩
  | cons grant rest ih =>
    obtain ⟨apart, restOnce⟩ := List.nodup_cons.mp once
    have here := stored grant (by simp)
    have live := active grant (by simp)
    have kept := expire_grant_refund env grant wallet sound here live usageEventId cost nonneg
    have tail := ih (expireGrant env grant wallet).1 (expire_grant_sound env grant wallet sound here live) ?_
      (fun other member => active other (by simp [member])) restOnce
    · exact ⟨tail.1.trans kept.1, tail.2.trans kept.2⟩
    · intro other member
      apply expire_grant_others env grant other wallet (stored other (by simp [member]))
      intro same
      exact apart (List.mem_map.mpr ⟨other, member, same⟩)

def closedBy (now : Nat) (grant : CreditGrant) : CreditGrant := if isDue now grant then writeExpired grant grant else grant

theorem closed_by_expires_at (now : Nat) (grant : CreditGrant) : (closedBy now grant).expiresAt = grant.expiresAt := by
  unfold closedBy
  split <;> rfl

theorem expire_due_closes (env : Env) (before : Wallet) (held : WalletOpen before)
    (keysFree : ∀ grant ∈ before.lots.grants, grant.status = .active → PastExpiry env.now grant →
      before.find (expiryKey grant.id) = none) (wanted : Uuid) :
    (expireDue env none before).1.lots.grant wanted = (before.lots.grant wanted).map (closedBy env.now) := by
  have expires := expire_due_expires env none before held
  by_cases due : wanted ∈ (dueGrants env.now before.lots).map CreditGrant.id
  · obtain ⟨grant, member, rfl⟩ := List.mem_map.mp due
    obtain ⟨stored, active, past⟩ := (mem_due_grants env.now before.lots grant).mp member
    rw [expires.closes grant member (keysFree grant stored active past),
      grant_of_mem before.lots held.sound.lots.grantIds grant stored, Option.map_some, closedBy,
      if_pos ((is_due_iff env.now grant).mpr ⟨active, past⟩)]
  · rw [expires.others wanted due]
    cases found : before.lots.grant wanted with
    | none => rfl
    | some grant =>
      have idle : ¬isDue env.now grant = true := by
        intro isDue
        have named : grant.id = wanted := by simpa using List.find?_some found
        have listed := (mem_due_grants env.now before.lots grant).mpr
          ⟨List.mem_of_find?_eq_some found, (is_due_iff env.now grant).mp isDue⟩
        exact due (List.mem_map.mpr ⟨grant, listed, named⟩)
      rw [Option.map_some, closedBy, if_neg idle]

def closedPair (now : Nat) (pair : GrantAllocation × CreditGrant) : GrantAllocation × CreditGrant :=
  (pair.1, closedBy now pair.2)

theorem funded_after_pass (env : Env) (usageEventId : Uuid) (cost : Int) (nonneg : 0 ≤ cost) (before : Wallet)
    (held : WalletOpen before)
    (keysFree : ∀ grant ∈ before.lots.grants, grant.status = .active → PastExpiry env.now grant →
      before.find (expiryKey grant.id) = none) :
    fundedFrom usageEventId (expireDue env none before).1 = (fundedFrom usageEventId before).map (closedPair env.now) ∧
      refundHeadroom cost (expireDue env none before).1 = refundHeadroom cost before := by
  obtain ⟨stored, active, once⟩ := due_grants_loaded ((none : Option Nat).getD env.now) before held.sound
  obtain ⟨headroom, original⟩ := expire_loop_refund env _ before held.sound stored active once usageEventId cost nonneg
  have closes := expire_due_closes env before held keysFree
  refine ⟨?_, headroom⟩
  unfold fundedFrom
  rw [show (expireDue env none before).1.usageDeduction usageEventId = _ from original]
  cases before.usageDeduction usageEventId with
  | none => rfl
  | some original =>
    simp only [usageAllocations]
    rw [(expire_due_expires env none before held).allocations, List.map_filterMap]
    apply List.filterMap_congr
    intro alloc _
    rw [show (expireDue env none before).1.lots.grants.find? _ = _ from closes alloc.grant, Option.map_map, Option.map_map]
    rfl

def staysOpen (now : Nat) (pair : GrantAllocation × CreditGrant) : Bool :=
  pair.2.status = .depleted || (pair.2.status = .active && !isDue now pair.2)

theorem closed_pair_open (now : Nat) (pair : GrantAllocation × CreditGrant) :
    restorable (closedPair now pair) = staysOpen now pair := by
  unfold restorable staysOpen closedPair closedBy
  by_cases due : isDue now pair.2 = true
  · have active := ((is_due_iff now pair.2).mp due).1
    simp [due, writeExpired, active]
  · simp [due, Bool.or_comm]

theorem closed_pair_same (now : Nat) (pair : GrantAllocation × CreditGrant) (open_ : staysOpen now pair = true) :
    closedPair now pair = pair := by
  have idle : ¬isDue now pair.2 = true := by
    intro due
    have active := ((is_due_iff now pair.2).mp due).1
    simp [staysOpen, due, active] at open_
  unfold closedPair closedBy
  rw [if_neg idle]

theorem closed_front_slices (now : Nat) (front : List (GrantAllocation × CreditGrant)) :
    (((front.map (closedPair now)).filter restorable).map slice) = (front.filter (staysOpen now)).map slice := by
  rw [List.filter_map, List.map_map]
  have same : (restorable ∘ closedPair now) = staysOpen now := funext (closed_pair_open now)
  rw [same]
  apply List.map_congr_left
  intro pair member
  rw [Function.comp_apply, closed_pair_same now pair (List.mem_filter.mp member).2]

structure NoDueLotReached (env : Env) (usageEventId : Uuid) (cost : Int) (before : Wallet) : Prop where
  keysFree : ∀ grant ∈ before.lots.grants, grant.status = .active → PastExpiry env.now grant →
    before.find (expiryKey grant.id) = none
  unreached : ∀ front pair back, fundedFrom usageEventId before = front ++ pair :: back → pair.2.status = .depleted →
    PastExpiry env.now pair.2 → 0 < slice pair →
    refundHeadroom cost before ≤ ((front.filter (staysOpen env.now)).map slice).sum

theorem due_reached_iff (now : Nat) (headroom : Int) (front : List (GrantAllocation × CreditGrant))
    (pair : GrantAllocation × CreditGrant) (past : PastExpiry now pair.2) :
    Reached headroom (front.map (closedPair now)) (closedPair now pair) ↔
      pair.2.status = .depleted ∧ 0 < slice pair ∧ ((front.filter (staysOpen now)).map slice).sum < headroom := by
  unfold Reached
  rw [closed_front_slices, closed_pair_open]
  have empty : staysOpen now pair = true ↔ pair.2.status = .depleted := by
    have due : pair.2.status = .active → isDue now pair.2 = true := fun active => (is_due_iff now pair.2).mpr ⟨active, past⟩
    unfold staysOpen
    by_cases active : pair.2.status = .active
    · simp [active, due active]
    · simp [active]
  constructor
  · rintro ⟨open_, positive, room⟩
    rw [closed_pair_same now pair open_] at positive
    exact ⟨empty.mp open_, positive, room⟩
  · rintro ⟨depleted, positive, room⟩
    have open_ := empty.mpr depleted
    rw [closed_pair_same now pair open_]
    exact ⟨open_, positive, room⟩

theorem due_lots_passed_iff (env : Env) (usageEventId : Uuid) (cost : Int) (nonneg : 0 ≤ cost) (before : Wallet)
    (held : WalletOpen before) :
    DueLotsPassed env usageEventId cost before ↔ NoDueLotReached env usageEventId cost before := by
  constructor
  · rintro ⟨keysFree, unreached⟩
    obtain ⟨funded, headroom⟩ := funded_after_pass env usageEventId cost nonneg before held keysFree
    refine ⟨keysFree, ?_⟩
    intro front pair back split depleted past positive
    rw [funded, headroom, split, List.map_append, List.map_cons] at unreached
    have idle := unreached _ _ _ rfl (by simpa [closedPair, PastExpiry, closed_by_expires_at] using past)
    rw [due_reached_iff env.now _ front pair past] at idle
    exact not_lt.mp (fun room => idle ⟨depleted, positive, room⟩)
  · rintro ⟨keysFree, unreached⟩
    obtain ⟨funded, headroom⟩ := funded_after_pass env usageEventId cost nonneg before held keysFree
    refine ⟨keysFree, ?_⟩
    intro front pair back split past reached
    rw [funded] at split
    rw [headroom] at reached
    obtain ⟨first, rest, whole, rfl, tail⟩ := List.map_eq_append_iff.mp split
    obtain ⟨found, last, restEq, rfl, _⟩ := List.map_eq_cons_iff.mp tail
    have pastBefore : PastExpiry env.now found.2 := by simpa [closedPair, PastExpiry, closed_by_expires_at] using past
    rw [due_reached_iff env.now _ first found pastBefore] at reached
    have full := unreached first found last (by rw [whole, restEq]) reached.1 pastBefore reached.2.1
    omega

theorem refund_spares_due_lots_iff (calls : List Call) (positive : ∀ call ∈ calls, call.Positive) (env : Env)
    (usageEventId : Uuid) (key reason : String) (cost : Int) (nonneg : 0 ≤ cost)
    (priced : env.getPostingPrice usageEventId = some (some cost)) (after : Wallet) (result : OpResult)
    (done : perform ⟨.refundUsage usageEventId key reason, env⟩ (walletAfter calls) = .ok (after, .result result))
    (applied : result.outcome = .applied) :
    LeavesDueLotsClosed env.now (walletAfter calls) after ↔ NoDueLotReached env usageEventId cost (walletAfter calls) := by
  have held := wallet_after_open calls positive
  have callPositive : Call.Positive ⟨.refundUsage usageEventId key reason, env⟩ := by
    intro other otherPriced
    cases priced.symm.trans otherPriced
    exact nonneg
  have ran := perform_result ⟨.refundUsage usageEventId key reason, env⟩ _ after _ result rfl done
  obtain ⟨honest, _⟩ := idempotent_spine_honest (.refundUsage usageEventId key reason) env _ .refundUsage key rfl rfl
  obtain ⟨move, lots, _, prepared, minted, rfl⟩ := applied_lands _ env _ after result honest ran applied
  have expired : WalletOpen (expireDue env none (walletAfter calls)).1 :=
    ⟨expire_due_sound env none _ held.sound, expire_due_open env none _ held.sound held.opened⟩
  have landedHeld := landed_held ⟨.refundUsage usageEventId key reason, env⟩ _ _ move lots callPositive expired rfl
    prepared minted
  cases prepared_by (.refundUsage usageEventId key reason) env _ _ move rfl prepared with
  | refundUsage _ _ _ other otherPriced =>
    cases priced.symm.trans otherPriced
    cases unminted_lots _ _ _ lots rfl minted
    have restores := refund_restores env.now usageEventId cost key reason _ expired.sound
    rw [← due_lots_passed_iff env usageEventId cost nonneg _ held]
    exact ⟨due_closed_reaches_none _ _ held env usageEventId cost restores,
      none_reached_leaves_closed _ _ held landedHeld env usageEventId cost restores⟩

-- A promo lot used up before it expires, and its usage refunded early or late.
def promoUsedUp : List Call :=
  [⟨.mintGrant .promo 300 (some 10) "welcome" {}, sampleEnv 1 "lot-1"⟩,
    ⟨.drawDownUsage ⟨"ev-1"⟩ 300 false, sampleEnv 3 ""⟩]

def refundAt (now : Nat) : Call := ⟨.refundUsage ⟨"ev-1"⟩ "refund-1" "", sampleEnv now ""⟩

def applies (call : Call) (wallet : Wallet) : Bool :=
  match perform call wallet with
  | .ok (_, .result result) => result.outcome = .applied
  | _ => false

theorem applies_steps (call : Call) (wallet : Wallet) (does : applies call wallet = true) :
    ∃ result, perform call wallet = .ok (step wallet call, .result result) ∧ result.outcome = .applied := by
  unfold applies at does
  unfold step
  split at does
  · rename_i after result performed
    rw [performed]
    exact ⟨result, rfl, by simpa using does⟩
  · cases does

theorem promo_used_up_positive : ∀ call ∈ promoUsedUp, call.Positive := by simp [promoUsedUp, Call.Positive]

theorem early_refund_spares_lot :
    LeavesDueLotsClosed 5 (walletAfter promoUsedUp) (step (walletAfter promoUsedUp) (refundAt 5)) := by
  obtain ⟨result, done, applied⟩ := applies_steps (refundAt 5) (walletAfter promoUsedUp) (by decide +kernel)
  have fresh : ∀ grant ∈ (walletAfter promoUsedUp).lots.grants, ¬PastExpiry 5 grant := by decide +kernel
  have funded : ∀ pair ∈ fundedFrom ⟨"ev-1"⟩ (walletAfter promoUsedUp), ¬PastExpiry 5 pair.2 := by decide +kernel
  refine (refund_spares_due_lots_iff promoUsedUp promo_used_up_positive (sampleEnv 5 "") ⟨"ev-1"⟩ "refund-1" "" 300
    (by decide) rfl _ result done applied).mpr ⟨?_, ?_⟩
  · intro grant member _ past
    exact absurd past (fresh grant member)
  · intro front pair back split _ past
    exact absurd past (funded pair (by rw [split]; simp))

theorem late_refund_revives_lot :
    (∀ call ∈ promoUsedUp, call.Positive) ∧
      (∃ result, perform (refundAt 20) (walletAfter promoUsedUp) =
        .ok (step (walletAfter promoUsedUp) (refundAt 20), .result result) ∧ result.outcome = .applied) ∧
      ¬LeavesDueLotsClosed 20 (walletAfter promoUsedUp) (step (walletAfter promoUsedUp) (refundAt 20)) ∧
      (step (walletAfter promoUsedUp) (refundAt 20)).balanceMicros = 300 ∧
      (run step (walletAfter promoUsedUp) [refundAt 20, ⟨.expireDueSweep none, sampleEnv 21 ""⟩]).balanceMicros = 0 := by
  refine ⟨promo_used_up_positive, applies_steps _ _ (by decide +kernel), ?_, by decide +kernel, by decide +kernel⟩
  intro leaves
  have revived : ¬∀ grant ∈ (step (walletAfter promoUsedUp) (refundAt 20)).lots.grants,
      PastExpiry 20 grant → grant.status ≠ .active := by decide +kernel
  exact revived leaves.closed

end Ubb.Wallets
