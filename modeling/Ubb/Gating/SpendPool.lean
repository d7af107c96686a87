import Ubb.Core.Uuid
import Ubb.Library.KeyedRows
import Ubb.Library.Runs

set_option autoImplicit false

-- A seat's spend-pool counter for one month: raised by each posting's
-- drawdown handler, and rebuilt from the ledger by whoever finds it missing.
namespace Ubb.Gating.SpendPool

open Ubb.Library

-- Where a posting's handler stands: its increment is still to come until the
-- handler has skipped it or run the script.
inductive Handler where
  | committed
  | gated
  | settled
deriving DecidableEq, Repr

structure Posting where
  id : Uuid
  month : Nat
  price : Option Nat
  handler : Handler
deriving DecidableEq, Repr

def Posting.amount (posting : Posting) : Nat := posting.price.getD 0

-- A call past its first Redis step, and the aggregate it has read: the total,
-- and how much of the ledger the total was taken over.
structure Call where
  id : Nat
  label : Nat
  merges : Bool
  aggregate : Option (Int × Nat)
  written : Bool
deriving DecidableEq, Repr

structure Pool where
  month : Nat
  clock : Nat
  counter : Option Int
  postings : List Posting
  calls : List Call
deriving DecidableEq, Repr

def incrIfPresent (amount : Int) (counter : Option Int) : Option Int := counter.map (fun value => value + amount)

def reconcileMax (total : Int) (counter : Option Int) : Option Int :=
  match counter with
  | none => some total
  | some current => if current < total then some total else some current

def monthTotal (month : Nat) (postings : List Posting) : Int :=
  (postings.map (fun posting => if posting.month = month then (posting.amount : Int) else 0)).sum

def Pool.posting (pool : Pool) (id : Uuid) : Option Posting := pool.postings.find? (fun posting => posting.id = id)

def Pool.call (pool : Pool) (id : Nat) : Option Call := pool.calls.find? (fun call => call.id = id)

def Posting.to (handler : Handler) (posting : Posting) : Posting := { posting with handler := handler }

def Pool.put (pool : Pool) (id : Uuid) (handler : Handler) : Pool :=
  { pool with postings := updateRow Posting.id id (Posting.to handler) pool.postings }

def Pool.rebuild (pool : Pool) (merges : Bool) : Pool :=
  { pool with calls := pool.calls ++ [⟨pool.calls.length, pool.clock, merges, none, false⟩] }

inductive Event where
  | tick (month : Nat)
  | commit (id : Uuid) (month : Nat) (price : Option Nat)
  | gate (id : Uuid) (dated : Bool)
  | incr (id : Uuid)
  | fail (id : Uuid)
  | read
  | reconcile
  | aggregate (callId : Nat)
  | write (callId : Nat)
  | expire
deriving DecidableEq, Repr

-- The handler's tail: a backdated posting and one that moves nothing are
-- skipped, and the rest are counted under the month their increment runs in.
-- A payload that names no instant it can read is never backdated.
def gated (clock : Nat) (dated : Bool) (posting : Posting) : Handler :=
  if (dated = false ∨ posting.month = clock) ∧ posting.amount ≠ 0 then .gated else .settled

def spendPoolIncr (posting : Posting) (pool : Pool) : Pool :=
  if pool.clock = pool.month then
    match incrIfPresent posting.amount pool.counter with
    | some value => { pool.put posting.id .settled with counter := some value }
    | none => (pool.put posting.id .settled).rebuild false
  else pool.put posting.id .settled

def aggregateCall (postings : List Posting) (call : Call) : Call :=
  if call.aggregate.isSome then call
  else { call with aggregate := some (monthTotal call.label postings, postings.length) }

def finishCall (call : Call) : Call := { call with written := true }

-- The step that writes what the call has aggregated: spend_pool_reconcile
-- merges, and the two rebuilds set.
def writeCounter (merges : Bool) (total : Int) (counter : Option Int) : Option Int :=
  if merges then reconcileMax total counter else some total

def step (pool : Pool) : Event → Pool
  | .tick month => { pool with clock := month }
  | .commit id month price =>
      if (pool.posting id).isSome then pool
      else { pool with postings := pool.postings ++ [⟨id, month, price, .committed⟩] }
  | .gate id dated =>
      match pool.posting id with
      | some ⟨_, month, price, .committed⟩ => pool.put id (gated pool.clock dated ⟨id, month, price, .committed⟩)
      | _ => pool
  | .incr id =>
      match pool.posting id with
      | some ⟨_, month, price, .gated⟩ => spendPoolIncr ⟨id, month, price, .gated⟩ pool
      | _ => pool
  | .fail id =>
      match pool.posting id with
      | some posting => if posting.handler = .settled then pool else pool.put id .settled
      | none => pool
  | .read => if pool.clock = pool.month ∧ pool.counter.isSome then pool else pool.rebuild false
  | .reconcile => pool.rebuild true
  | .aggregate callId => { pool with calls := updateRow Call.id callId (aggregateCall pool.postings) pool.calls }
  | .write callId =>
      match pool.call callId with
      | some ⟨_, label, merges, some (total, _), false⟩ =>
          { pool with
            counter := if label = pool.month then writeCounter merges total pool.counter else pool.counter
            calls := updateRow Call.id callId finishCall pool.calls }
      | _ => pool
  | .expire => { pool with counter := none }

def newPool (month clock : Nat) : Pool := ⟨month, clock, none, [], []⟩

def CountsOnce (pool : Pool) : Prop := ∀ value, pool.counter = some value → value ≤ monthTotal pool.month pool.postings

def Call.seen (call : Call) : Nat := (call.aggregate.map Prod.snd).getD 0

def Unraced (pool : Pool) : Event → Prop
  | .incr id => ∀ posting ∈ pool.postings, posting.id = id → posting.handler = .gated → pool.clock = pool.month →
      posting.month = pool.month
  | .write callId => ∀ call ∈ pool.calls, call.id = callId → call.label = pool.month →
      call.written = false → ∀ posting ∈ pool.postings.take call.seen, posting.month = pool.month → posting.amount ≠ 0 →
        posting.handler = .settled
  | _ => True

instance (pool : Pool) (event : Event) : Decidable (Unraced pool event) := by
  cases event <;> (unfold Unraced; infer_instance)

def settledTotal (month : Nat) (postings : List Posting) : Int :=
  (postings.map (fun posting =>
    if posting.month = month ∧ posting.handler = .settled then (posting.amount : Int) else 0)).sum

structure Sound (pool : Pool) : Prop where
  ids : (pool.postings.map Posting.id).Nodup
  calls : ∀ call ∈ pool.calls, ∀ total seen, call.aggregate = some (total, seen) →
    seen ≤ pool.postings.length ∧ total = monthTotal call.label (pool.postings.take seen)
  bounded : ∀ value, pool.counter = some value → value ≤ settledTotal pool.month pool.postings

theorem posting_member (pool : Pool) (id : Uuid) (posting : Posting) (found : pool.posting id = some posting) :
    posting ∈ pool.postings ∧ posting.id = id :=
  find_key_some Posting.id id pool.postings posting found

theorem call_member (pool : Pool) (id : Nat) (call : Call) (found : pool.call id = some call) :
    call ∈ pool.calls ∧ call.id = id :=
  find_key_some Call.id id pool.calls call found

theorem month_total_moved (month : Nat) (id : Uuid) (handler : Handler) (postings : List Posting) :
    monthTotal month (updateRow Posting.id id (Posting.to handler) postings) = monthTotal month postings := by
  unfold monthTotal
  rw [update_row_map Posting.id id (Posting.to handler) postings
    (fun posting => if posting.month = month then (posting.amount : Int) else 0) (fun _ => rfl)]

theorem take_moved (seen : Nat) (id : Uuid) (handler : Handler) (postings : List Posting) :
    (updateRow Posting.id id (Posting.to handler) postings).take seen =
      updateRow Posting.id id (Posting.to handler) (postings.take seen) := List.map_take.symm

theorem settled_share (month : Nat) (posting : Posting) :
    (if posting.month = month ∧ posting.handler = .settled then (posting.amount : Int) else 0) ≤
      if posting.month = month then (posting.amount : Int) else 0 := by
  by_cases inside : posting.month = month
  · by_cases behind : posting.handler = .settled
    · simp [inside, behind]
    · simp [inside, behind]
  · simp [inside]

theorem settled_le_month (month : Nat) (postings : List Posting) : settledTotal month postings ≤ monthTotal month postings :=
  List.sum_le_sum (fun posting _ => settled_share month posting)

theorem settled_prefix (month seen : Nat) (postings : List Posting)
    (settled : ∀ posting ∈ postings.take seen, posting.month = month → posting.amount ≠ 0 → posting.handler = .settled) :
    monthTotal month (postings.take seen) ≤ settledTotal month postings := by
  have front : monthTotal month (postings.take seen) = settledTotal month (postings.take seen) := by
    unfold monthTotal settledTotal
    congr 1
    apply List.map_congr_left
    intro posting member
    by_cases inside : posting.month = month
    · by_cases nothing : posting.amount = 0
      · simp [nothing]
      · simp [inside, settled posting member inside nothing]
    · simp [inside]
  have whole : settledTotal month postings =
      settledTotal month (postings.take seen) + settledTotal month (postings.drop seen) := by
    unfold settledTotal
    rw [← List.sum_append, ← List.map_append, List.take_append_drop]
  have back : 0 ≤ settledTotal month (postings.drop seen) := by
    apply sum_nonneg_of
    intro posting _
    split
    · exact Int.natCast_nonneg _
    · exact le_refl _
  omega

theorem settled_moved (pool : Pool) (sound : Sound pool) (id : Uuid) (posting : Posting) (found : pool.posting id = some posting)
    (handler : Handler) :
    settledTotal pool.month (pool.put id handler).postings =
      settledTotal pool.month pool.postings -
        (if posting.month = pool.month ∧ posting.handler = .settled then (posting.amount : Int) else 0) +
        (if posting.month = pool.month ∧ handler = .settled then (posting.amount : Int) else 0) := by
  obtain ⟨member, named⟩ := posting_member pool id posting found
  exact sum_update_row Posting.id id (Posting.to handler) _ pool.postings posting sound.ids member named

theorem put_ids (pool : Pool) (sound : Sound pool) (id : Uuid) (handler : Handler) :
    ((pool.put id handler).postings.map Posting.id).Nodup := by
  unfold Pool.put
  rw [update_row_map Posting.id id (Posting.to handler) pool.postings Posting.id (fun _ => rfl)]
  exact sound.ids

theorem put_calls (pool : Pool) (sound : Sound pool) (id : Uuid) (handler : Handler) (call : Call) (member : call ∈ pool.calls)
    (total : Int) (seen : Nat) (aggregate : call.aggregate = some (total, seen)) :
    seen ≤ (pool.put id handler).postings.length ∧
      total = monthTotal call.label ((pool.put id handler).postings.take seen) := by
  have before := sound.calls call member total seen aggregate
  unfold Pool.put
  rw [take_moved, month_total_moved, updateRow, List.length_map]
  exact before

theorem put_sound (pool : Pool) (sound : Sound pool) (id : Uuid) (posting : Posting) (found : pool.posting id = some posting)
    (waits : posting.handler ≠ .settled) (handler : Handler) : Sound (pool.put id handler) := by
  refine ⟨put_ids pool sound id handler, put_calls pool sound id handler, ?_⟩
  intro value counted
  have before := sound.bounded value counted
  have moved := settled_moved pool sound id posting found handler
  rw [if_neg (fun both => waits both.2)] at moved
  show value ≤ settledTotal pool.month (pool.put id handler).postings
  split at moved
  · omega
  · omega

theorem rebuild_sound (pool : Pool) (sound : Sound pool) (merges : Bool) : Sound (pool.rebuild merges) := by
  refine ⟨sound.ids, ?_, sound.bounded⟩
  intro call member total seen aggregate
  rcases List.mem_append.mp member with old | new
  · exact sound.calls call old total seen aggregate
  · cases List.mem_singleton.mp new
    cases aggregate

theorem incr_sound (pool : Pool) (sound : Sound pool) (posting : Posting) (found : pool.posting posting.id = some posting)
    (waits : posting.handler = .gated) (punctual : pool.clock = pool.month → posting.month = pool.month) :
    Sound (spendPoolIncr posting pool) := by
  have notSettled : posting.handler ≠ .settled := by
    rw [waits]
    decide
  have moved := put_sound pool sound posting.id posting found notSettled .settled
  unfold spendPoolIncr
  split
  · rename_i running
    split
    · rename_i value counted
      refine ⟨moved.ids, moved.calls, ?_⟩
      intro raised isRaised
      cases isRaised
      obtain ⟨before, stored, rfl⟩ := Option.map_eq_some_iff.mp counted
      have bounded := sound.bounded before stored
      have total := settled_moved pool sound posting.id posting found .settled
      rw [if_neg (fun both => notSettled both.2), if_pos ⟨punctual running, rfl⟩] at total
      show before + (posting.amount : Int) ≤ settledTotal pool.month (pool.put posting.id .settled).postings
      omega
    · exact rebuild_sound _ moved false
  · exact moved

theorem write_sound (pool : Pool) (sound : Sound pool) (call : Call) (member : call ∈ pool.calls) (total : Int) (seen : Nat)
    (aggregate : call.aggregate = some (total, seen)) (tracked : call.label = pool.month)
    (settled : ∀ posting ∈ pool.postings.take seen, posting.month = pool.month → posting.amount ≠ 0 →
      posting.handler = .settled) : Sound { pool with counter := writeCounter call.merges total pool.counter } := by
  obtain ⟨_, read⟩ := sound.calls call member total seen aggregate
  rw [tracked] at read
  have covered := settled_prefix pool.month seen pool.postings settled
  refine ⟨sound.ids, sound.calls, ?_⟩
  intro value written
  show value ≤ settledTotal pool.month pool.postings
  simp only [writeCounter, reconcileMax] at written
  split at written
  · split at written
    · cases written
      omega
    · rename_i current stored
      have before := sound.bounded current stored
      split at written
      · cases written
        omega
      · cases written
        omega
  · cases written
    omega

theorem finished_sound (pool : Pool) (sound : Sound pool) (callId : Nat) :
    Sound { pool with calls := updateRow Call.id callId finishCall pool.calls } := by
  refine ⟨sound.ids, ?_, sound.bounded⟩
  intro call member total seen aggregate
  rcases mem_update_row Call.id callId finishCall pool.calls call member with ⟨old, _⟩ | ⟨row, stored, _, rfl⟩
  · exact sound.calls call old total seen aggregate
  · exact sound.calls row stored total seen aggregate

theorem commit_sound (pool : Pool) (sound : Sound pool) (id : Uuid) (month : Nat) (price : Option Nat)
    (missing : pool.posting id = none) :
    Sound { pool with postings := pool.postings ++ [⟨id, month, price, .committed⟩] } := by
  refine ⟨?_, ?_, ?_⟩
  · exact nodup_add_row Posting.id pool.postings _ sound.ids (find_key_none Posting.id id pool.postings missing)
  · intro call member total seen aggregate
    obtain ⟨within, read⟩ := sound.calls call member total seen aggregate
    have same : (pool.postings ++ [(⟨id, month, price, .committed⟩ : Posting)]).take seen = pool.postings.take seen :=
      List.take_append_of_le_length within
    refine ⟨?_, ?_⟩
    · rw [List.length_append]
      omega
    · rw [same]
      exact read
  · intro value counted
    have before := sound.bounded value counted
    have same : settledTotal pool.month (pool.postings ++ [⟨id, month, price, .committed⟩]) =
        settledTotal pool.month pool.postings := by simp [settledTotal]
    show value ≤ settledTotal pool.month (pool.postings ++ [⟨id, month, price, .committed⟩])
    rw [same]
    exact before

theorem step_sound (pool : Pool) (event : Event) (sound : Sound pool) (unraced : Unraced pool event) :
    Sound (step pool event) := by
  cases event with
  | tick month => exact ⟨sound.ids, sound.calls, sound.bounded⟩
  | commit id month price =>
    rw [step]
    cases found : pool.posting id with
    | some posting => exact sound
    | none => exact commit_sound pool sound id month price found
  | gate id dated =>
    rw [step]
    split
    · rename_i month price found
      exact put_sound pool sound id _ found (by simp) _
    · exact sound
  | incr id =>
    rw [step]
    split
    · rename_i month price found
      obtain ⟨member, named⟩ := posting_member pool id _ found
      subst named
      exact incr_sound pool sound _ found rfl (unraced _ member rfl rfl)
    · exact sound
  | fail id =>
    rw [step]
    split
    · rename_i posting found
      split
      · exact sound
      · rename_i waits
        exact put_sound pool sound id posting found waits .settled
    · exact sound
  | read =>
    rw [step]
    split
    · exact sound
    · exact rebuild_sound pool sound false
  | reconcile => exact rebuild_sound pool sound true
  | aggregate callId =>
    refine ⟨sound.ids, ?_, sound.bounded⟩
    intro other member total seen aggregate
    rcases mem_update_row Call.id callId (aggregateCall pool.postings) pool.calls other member with
      ⟨old, _⟩ | ⟨row, stored, _, rfl⟩
    · exact sound.calls other old total seen aggregate
    · unfold aggregateCall at aggregate ⊢
      split at aggregate
      · rename_i had
        rw [if_pos had]
        exact sound.calls row stored total seen aggregate
      · rename_i fresh
        rw [if_neg fresh]
        cases aggregate
        refine ⟨le_refl _, ?_⟩
        show _ = monthTotal row.label (pool.postings.take pool.postings.length)
        rw [List.take_length]
  | write callId =>
    rw [step]
    split
    · rename_i label merges total seen found
      obtain ⟨member, named⟩ := call_member pool callId _ found
      split
      · rename_i tracked
        exact finished_sound _ (write_sound pool sound _ member total seen rfl tracked (unraced _ member named tracked rfl)) callId
      · exact finished_sound pool sound callId
    · exact sound
  | expire => exact ⟨sound.ids, sound.calls, fun value counted => by cases counted⟩

theorem sound_counts_once (pool : Pool) (sound : Sound pool) : CountsOnce pool := by
  intro value counted
  exact (sound.bounded value counted).trans (settled_le_month pool.month pool.postings)

theorem new_pool_sound (month clock : Nat) : Sound (newPool month clock) :=
  ⟨by simp [newPool], by simp [newPool], by simp [newPool]⟩

theorem unraced_counter_counts_once (month clock : Nat) (events reached : List Event) (stage : reached <+: events)
    (unraced : Along step Unraced (newPool month clock) events) : CountsOnce (run step (newPool month clock) reached) :=
  sound_counts_once _ (along_invariant_throughout step Sound Unraced (fun pool event sound holds =>
    step_sound pool event sound holds) (newPool month clock) events reached (new_pool_sound month clock) unraced stage)

def postingInFlight : List Event :=
  [.commit ⟨"p"⟩ 7 (some 300), .reconcile, .aggregate 0, .write 0, .gate ⟨"p"⟩ true, .incr ⟨"p"⟩]

theorem posting_in_flight_counted_twice :
    ¬∀ (month clock : Nat) (events : List Event), CountsOnce (run step (newPool month clock) events) := by
  intro always
  have twice : (run step (newPool 7 7) postingInFlight).counter = some 600 := by decide
  have once : monthTotal (run step (newPool 7 7) postingInFlight).month (run step (newPool 7 7) postingInFlight).postings = 300 := by
    decide
  have bounded := always 7 7 postingInFlight 600 twice
  rw [once] at bounded
  omega

def handledFirst : List Event :=
  [.commit ⟨"p"⟩ 7 (some 300), .gate ⟨"p"⟩ true, .incr ⟨"p"⟩, .aggregate 0, .write 0, .commit ⟨"q"⟩ 7 (some 50), .gate ⟨"q"⟩ false,
    .incr ⟨"q"⟩, .reconcile, .aggregate 1, .write 1]

theorem handled_first_counted_once :
    (run step (newPool 7 7) handledFirst).counter = some 350 ∧ CountsOnce (run step (newPool 7 7) handledFirst) :=
  ⟨by decide, unraced_counter_counts_once 7 7 handledFirst handledFirst (List.prefix_refl _) (by decide)⟩

end Ubb.Gating.SpendPool
