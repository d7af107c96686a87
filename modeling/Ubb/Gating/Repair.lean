import Ubb.Library.KeyedRows
import Ubb.Library.Runs

set_option autoImplicit false

-- The upward repair of a prepaid owner's live counter, among everything that
-- moves the counter and the balance it is measured against.
namespace Ubb.Gating.Repair

open Ubb.Library

-- A recording debits the counter inside its transaction and the balance at its
-- drawdown; a credit raises the balance, and the counter after its commit.
inductive Phase where
  | seeding (seed : Int)
  | opened
  | committed
  | rolledBack
  | drawn
  | credited
  | hooked
deriving DecidableEq, Repr

structure Movement where
  id : Nat
  effect : Int
  phase : Phase
  inLive : Bool
deriving DecidableEq, Repr

def Phase.inDurable : Phase → Bool
  | .drawn | .credited | .hooked => true
  | _ => false

inductive Status where
  | repaired
  | lapsed
deriving DecidableEq, Repr

structure LiveBalanceRepair where
  status : Status
  firstDeficitMicros : Int
  secondDeficitMicros : Option Int
  appliedMicros : Option Int
  liveBeforeMicros : Option Int
  liveAfterMicros : Option Int
  durableBalanceMicros : Option Int
deriving DecidableEq, Repr

structure Candidate where
  createdAt : Int
  firstDeficitMicros : Int
deriving DecidableEq, Repr

inductive Pass where
  | locked (now : Int)
  | confirmed (candidate : Candidate) (live second : Int)
deriving DecidableEq, Repr

-- The drift is what stands on the counter for no movement: repairs, and what a
-- seed read before it was written.
structure Owner where
  clock : Int
  durable : Int
  live : Option Int
  drift : Int
  movements : List Movement
  pass : Option Pass
  candidate : Option Candidate
  repairs : List LiveBalanceRepair
deriving DecidableEq, Repr

def repairDeMinimisMicros : Int := 1000000

def candidateFreshWindow : Int := 9000

def Owner.movement (owner : Owner) (id : Nat) : Option Movement := owner.movements.find? (fun movement => movement.id = id)

def Movement.to (phase : Phase) (inLive : Bool) (movement : Movement) : Movement :=
  { movement with phase := phase, inLive := inLive }

def Owner.put (owner : Owner) (id : Nat) (phase : Phase) (inLive : Bool) : Owner :=
  { owner with movements := updateRow Movement.id id (Movement.to phase inLive) owner.movements }

def Owner.add (owner : Owner) (movement : Movement) : Owner :=
  if (owner.movement movement.id).isSome then owner else { owner with movements := owner.movements ++ [movement] }

def Owner.setLive (owner : Owner) (value : Int) : Owner :=
  { owner with
    live := some value
    drift := value - owner.durable
    movements := owner.movements.map (fun movement => { movement with inLive := movement.phase.inDurable }) }

-- A script that adds a movement to the counter knows nothing of what is in it:
-- an effect the counter was set with is on it twice.
def Owner.take (owner : Owner) (id : Nat) (phase : Phase) : Owner :=
  match owner.movement id with
  | some ⟨_, effect, _, inLive⟩ =>
      { owner.put id phase true with
        live := owner.live.map (fun value => value + effect)
        drift := owner.drift + if inLive then effect else 0 }
  | none => owner

-- The scripts. _SEED_AND_DECR seeds an absent counter and then decrements.
def seedIfAbsent (seed : Int) (owner : Owner) : Owner :=
  match owner.live with
  | none => owner.setLive seed
  | some _ => owner

def reconcileMin (owner : Owner) : Owner :=
  match owner.live with
  | none => owner.setLive owner.durable
  | some value => if owner.durable < value then owner.setLive owner.durable else owner

inductive Event where
  | tick (now : Int)
  | record (id price : Nat)
  | debit (id : Nat)
  | debitFailed (id : Nat)
  | commit (id : Nat)
  | rollBack (id : Nat)
  | drawDown (id : Nat)
  | credit (id amount : Nat)
  | creditLive (id : Nat)
  | withdraw (id amount : Nat)
  | reconcile
  | lockPass (waited : Nat)
  | measure
  | apply
  | expire
deriving DecidableEq, Repr

def lapsedRow (candidate : Candidate) (second durable : Option Int) : LiveBalanceRepair :=
  ⟨.lapsed, candidate.firstDeficitMicros, second, none, none, none, durable⟩

def closePass (owner : Owner) : Owner := { owner with pass := none }

-- The candidate's life once the deficit is measured. A stale candidate lapses
-- without a second measurement, and the observation starts over.
def measureDeficit (now : Int) (owner : Owner) : Owner :=
  let deficit := owner.live.map (fun live => owner.durable - live)
  let stale := owner.candidate.filter (fun candidate => candidateFreshWindow ≤ now - candidate.createdAt)
  let repairs := owner.repairs ++ (stale.map (fun candidate => lapsedRow candidate none none)).toList
  let fresh := owner.candidate.filter (fun candidate => now - candidate.createdAt < candidateFreshWindow)
  let qualifying := deficit.filter (fun deficit => repairDeMinimisMicros ≤ deficit)
  match fresh, qualifying with
  | none, some deficit => closePass { owner with candidate := some ⟨owner.clock, deficit⟩, repairs := repairs }
  | none, none => closePass { owner with candidate := none, repairs := repairs }
  | some candidate, none =>
      closePass { owner with
        candidate := none
        repairs := repairs ++ [lapsedRow candidate deficit (some owner.durable)] }
  | some candidate, some second =>
      { owner with pass := some (.confirmed candidate (owner.live.getD 0) second), repairs := repairs }

def appliedMicros (candidate : Candidate) (second : Int) : Int := min candidate.firstDeficitMicros second

def repairedRow (candidate : Candidate) (liveBefore second liveAfter durable : Int) : LiveBalanceRepair :=
  ⟨.repaired, candidate.firstDeficitMicros, some second, some (appliedMicros candidate second), some liveBefore,
    some liveAfter, some durable⟩

-- repair_incr adds to a counter that exists; where it has gone, nothing moved.
def applyIncrement (candidate : Candidate) (liveBefore second : Int) (owner : Owner) : Owner :=
  match owner.live with
  | none =>
      closePass { owner with
        candidate := none
        repairs := owner.repairs ++ [lapsedRow candidate (some second) (some owner.durable)] }
  | some live =>
      closePass { owner with
        live := some (live + appliedMicros candidate second)
        drift := owner.drift + appliedMicros candidate second
        candidate := none
        repairs := owner.repairs ++
          [repairedRow candidate liveBefore second (live + appliedMicros candidate second) owner.durable] }

-- What writes the balance or merges toward it waits for the billing lock. A
-- pass reads its clock before it waits.
def step (owner : Owner) : Event → Owner
  | .tick now => { owner with clock := now }
  | .record id price => owner.add ⟨id, -price, if price = 0 then .opened else .seeding owner.durable, false⟩
  | .debit id =>
      match owner.movement id with
      | some ⟨_, _, .seeding seed, _⟩ => (seedIfAbsent seed owner).take id .opened
      | _ => owner
  | .debitFailed id =>
      match owner.movement id with
      | some ⟨_, _, .seeding _, inLive⟩ => owner.put id .opened inLive
      | _ => owner
  | .commit id =>
      match owner.movement id with
      | some ⟨_, _, .opened, inLive⟩ => owner.put id .committed inLive
      | _ => owner
  | .rollBack id =>
      match owner.movement id with
      | some ⟨_, _, .opened, inLive⟩ => owner.put id .rolledBack inLive
      | _ => owner
  | .drawDown id =>
      match owner.pass, owner.movement id with
      | none, some ⟨_, effect, .committed, inLive⟩ =>
          { owner.put id .drawn inLive with durable := owner.durable + effect }
      | _, _ => owner
  | .credit id amount =>
      match owner.pass, owner.movement id with
      | none, none => { owner.add ⟨id, amount, .credited, false⟩ with durable := owner.durable + amount }
      | _, _ => owner
  | .creditLive id =>
      match owner.movement id with
      | some ⟨_, _, .credited, _⟩ => owner.take id .hooked
      | _ => owner
  | .withdraw id amount =>
      match owner.pass, owner.movement id with
      | none, none => { owner.add ⟨id, -amount, .hooked, false⟩ with durable := owner.durable - amount }
      | _, _ => owner
  | .reconcile => if owner.pass.isSome then owner else reconcileMin owner
  | .lockPass waited => if owner.pass.isSome then owner else { owner with pass := some (.locked (owner.clock - waited)) }
  | .measure =>
      match owner.pass with
      | some (.locked now) => measureDeficit now owner
      | _ => owner
  | .apply =>
      match owner.pass with
      | some (.confirmed candidate live second) => applyIncrement candidate live second owner
      | _ => owner
  | .expire => { owner with live := none }

def newOwner (clock durable : Int) : Owner := ⟨clock, durable, none, 0, [], none, none, []⟩

def undrawn (owner : Owner) : Int :=
  (owner.movements.map (fun movement => if movement.phase = .committed then -movement.effect else 0)).sum

def GivesNothingBack (owner : Owner) (event : Event) : Prop :=
  match event, owner.pass, (step owner event).live with
  | .apply, some (.confirmed _ _ _), some live => live ≤ (step owner event).durable - undrawn (step owner event)
  | _, _, _ => True

-- What the counter lacks for good: a debit no posting stands behind, and a
-- credit it has not taken, less the recordings it was never debited for.
def owedShare (movement : Movement) : Int :=
  match movement.phase, movement.inLive with
  | .seeding _, true | .opened, true | .rolledBack, true => -movement.effect
  | .committed, false | .drawn, false | .credited, false | .hooked, false => movement.effect
  | _, _ => 0

def owed (owner : Owner) : Int := (owner.movements.map owedShare).sum - owner.drift

def Covered (owner : Owner) (event : Event) : Prop :=
  match event, owner.pass, owner.live with
  | .apply, some (.confirmed candidate _ second), some _ =>
      candidate.firstDeficitMicros ≤ owed owner ∨ second ≤ owed owner
  | _, _, _ => True

instance (owner : Owner) (event : Event) : Decidable (GivesNothingBack owner event) := by
  unfold GivesNothingBack
  split <;> infer_instance

def gapShare (movement : Movement) : Int :=
  (if movement.phase.inDurable then movement.effect else 0) - if movement.inLive then movement.effect else 0

def gap (owner : Owner) : Int := (owner.movements.map gapShare).sum

structure Sound (owner : Owner) : Prop where
  ids : (owner.movements.map Movement.id).Nodup
  apart : ∀ live, owner.live = some live → owner.durable - live = gap owner - owner.drift

theorem movement_member (owner : Owner) (id : Nat) (movement : Movement) (found : owner.movement id = some movement) :
    movement ∈ owner.movements ∧ movement.id = id :=
  find_key_some Movement.id id owner.movements movement found

theorem put_ids (owner : Owner) (sound : Sound owner) (id : Nat) (phase : Phase) (inLive : Bool) :
    ((owner.put id phase inLive).movements.map Movement.id).Nodup := by
  unfold Owner.put
  rw [update_row_map Movement.id id (Movement.to phase inLive) owner.movements Movement.id (fun _ => rfl)]
  exact sound.ids

theorem put_gap (owner : Owner) (sound : Sound owner) (id : Nat) (movement : Movement)
    (found : owner.movement id = some movement) (phase : Phase) (inLive : Bool) :
    gap (owner.put id phase inLive) = gap owner - gapShare movement + gapShare (movement.to phase inLive) := by
  obtain ⟨member, named⟩ := movement_member owner id movement found
  exact sum_update_row Movement.id id (Movement.to phase inLive) gapShare owner.movements movement sound.ids member named

theorem put_sound (owner : Owner) (sound : Sound owner) (id : Nat) (movement : Movement)
    (found : owner.movement id = some movement) (phase : Phase) (held : phase.inDurable = movement.phase.inDurable) :
    Sound (owner.put id phase movement.inLive) := by
  refine ⟨put_ids owner sound id phase movement.inLive, ?_⟩
  intro live stored
  have same : gapShare (movement.to phase movement.inLive) = gapShare movement := by
    unfold gapShare Movement.to
    rw [held]
  have moved := put_gap owner sound id movement found phase movement.inLive
  have before := sound.apart live stored
  show owner.durable - live = gap (owner.put id phase movement.inLive) - owner.drift
  omega

theorem add_fresh (owner : Owner) (movement : Movement) (fresh : owner.movement movement.id = none) :
    owner.add movement = { owner with movements := owner.movements ++ [movement] } := by
  rw [Owner.add, fresh]
  rfl

theorem added_sound (owner : Owner) (sound : Sound owner) (movement : Movement) (fresh : owner.movement movement.id = none)
    (balance : Int) (share : balance = owner.durable + gapShare movement) :
    Sound { owner with durable := balance, movements := owner.movements ++ [movement] } := by
  refine ⟨?_, ?_⟩
  · exact nodup_add_row Movement.id owner.movements movement sound.ids
      (find_key_none Movement.id movement.id owner.movements fresh)
  · intro live stored
    have before := sound.apart live stored
    have grown : gap { owner with durable := balance, movements := owner.movements ++ [movement] } =
        gap owner + gapShare movement := by
      simp only [gap, List.map_append, List.map_singleton, List.sum_append, List.sum_singleton]
    show balance - live = gap { owner with durable := balance, movements := owner.movements ++ [movement] } - owner.drift
    omega

theorem set_live_sound (owner : Owner) (sound : Sound owner) (value : Int) : Sound (owner.setLive value) := by
  refine ⟨?_, ?_⟩
  · simpa [Owner.setLive, Function.comp_def] using sound.ids
  · intro live stored
    cases stored
    have level : gap (owner.setLive value) = 0 := by
      apply List.sum_eq_zero
      intro share member
      obtain ⟨movement, moved, rfl⟩ := List.mem_map.mp member
      obtain ⟨before, _, rfl⟩ := List.mem_map.mp moved
      simp [gapShare]
    rw [level]
    show owner.durable - value = 0 - (value - owner.durable)
    omega

theorem take_sound (owner : Owner) (sound : Sound owner) (id : Nat) (movement : Movement)
    (found : owner.movement id = some movement) (phase : Phase) (held : phase.inDurable = movement.phase.inDurable) :
    Sound (owner.take id phase) := by
  have moved := put_gap owner sound id movement found phase true
  obtain ⟨own, effect, before, inLive⟩ := movement
  simp only [Owner.take, found]
  refine ⟨put_ids owner sound id phase true, ?_⟩
  intro live stored
  obtain ⟨value, counted, rfl⟩ := Option.map_eq_some_iff.mp stored
  have apart := sound.apart value counted
  have change : gapShare (Movement.to phase true ⟨own, effect, before, inLive⟩) - gapShare ⟨own, effect, before, inLive⟩ =
      (if inLive then effect else 0) - effect := by
    simp only [gapShare, Movement.to, held, if_true]
    omega
  show owner.durable - (value + effect) = gap (owner.put id phase true) - (owner.drift + if inLive then effect else 0)
  omega

theorem seed_sound (owner : Owner) (sound : Sound owner) (seed : Int) : Sound (seedIfAbsent seed owner) := by
  unfold seedIfAbsent
  split
  · exact set_live_sound owner sound seed
  · exact sound

theorem seed_movement (owner : Owner) (id : Nat) (movement : Movement) (found : owner.movement id = some movement)
    (seed : Int) : ∃ inLive, (seedIfAbsent seed owner).movement id = some (movement.to movement.phase inLive) := by
  unfold seedIfAbsent
  split
  · refine ⟨movement.phase.inDurable, ?_⟩
    unfold Owner.movement at found ⊢
    simp [Owner.setLive, List.find?_map, found, Movement.to]
  · exact ⟨movement.inLive, found⟩

theorem reconcile_sound (owner : Owner) (sound : Sound owner) : Sound (reconcileMin owner) := by
  unfold reconcileMin
  split
  · exact set_live_sound owner sound owner.durable
  · split
    · exact set_live_sound owner sound owner.durable
    · exact sound

theorem measure_sound (now : Int) (owner : Owner) (sound : Sound owner) : Sound (measureDeficit now owner) := by
  simp only [measureDeficit]
  split <;> exact ⟨sound.ids, sound.apart⟩

theorem apply_sound (candidate : Candidate) (liveBefore second : Int) (owner : Owner) (sound : Sound owner) :
    Sound (applyIncrement candidate liveBefore second owner) := by
  unfold applyIncrement
  split
  · exact ⟨sound.ids, sound.apart⟩
  · rename_i live stored
    refine ⟨sound.ids, ?_⟩
    intro raised isRaised
    cases isRaised
    have before := sound.apart live stored
    show owner.durable - (live + appliedMicros candidate second) =
      gap owner - (owner.drift + appliedMicros candidate second)
    omega

theorem draw_sound (owner : Owner) (sound : Sound owner) (id : Nat) (movement : Movement)
    (found : owner.movement id = some movement) (waits : movement.phase = .committed) :
    Sound { owner.put id .drawn movement.inLive with durable := owner.durable + movement.effect } := by
  refine ⟨put_ids owner sound id .drawn movement.inLive, ?_⟩
  intro live stored
  have before := sound.apart live stored
  have moved := put_gap owner sound id movement found .drawn movement.inLive
  have change : gapShare (movement.to .drawn movement.inLive) = gapShare movement + movement.effect := by
    simp only [gapShare, Movement.to, waits, Phase.inDurable]
    cases movement.inLive <;> simp
  show owner.durable + movement.effect - live = gap (owner.put id .drawn movement.inLive) - owner.drift
  omega

theorem step_sound (owner : Owner) (event : Event) (sound : Sound owner) : Sound (step owner event) := by
  cases event with
  | tick now => exact ⟨sound.ids, sound.apart⟩
  | record id price =>
    rw [step]
    cases found : owner.movement id with
    | some movement =>
      unfold Owner.add
      simpa [found] using sound
    | none =>
      rw [add_fresh owner _ found]
      exact added_sound owner sound _ found owner.durable (by split <;> simp [gapShare, Phase.inDurable])
  | debit id =>
    rw [step]
    split
    · rename_i own effect seed inLive found
      obtain ⟨held, seeded⟩ := seed_movement owner id _ found seed
      exact take_sound _ (seed_sound owner sound seed) id _ seeded .opened rfl
    · exact sound
  | debitFailed id =>
    rw [step]
    split
    · rename_i own effect seed inLive found
      exact put_sound owner sound id _ found .opened rfl
    · exact sound
  | commit id =>
    rw [step]
    split
    · rename_i own effect inLive found
      exact put_sound owner sound id _ found .committed rfl
    · exact sound
  | rollBack id =>
    rw [step]
    split
    · rename_i own effect inLive found
      exact put_sound owner sound id _ found .rolledBack rfl
    · exact sound
  | drawDown id =>
    rw [step]
    split
    · rename_i free own effect inLive found
      exact draw_sound owner sound id _ found rfl
    · exact sound
  | credit id amount =>
    rw [step]
    split
    · rename_i free fresh
      rw [add_fresh owner _ fresh]
      exact added_sound owner sound _ fresh _ (by simp [gapShare, Phase.inDurable])
    · exact sound
  | creditLive id =>
    rw [step]
    split
    · rename_i own effect inLive found
      exact take_sound owner sound id _ found .hooked rfl
    · exact sound
  | withdraw id amount =>
    rw [step]
    split
    · rename_i free fresh
      rw [add_fresh owner _ fresh]
      exact added_sound owner sound _ fresh _ (by simp [gapShare, Phase.inDurable, sub_eq_add_neg])
    · exact sound
  | reconcile =>
    rw [step]
    split
    · exact sound
    · exact reconcile_sound owner sound
  | lockPass waited =>
    rw [step]
    split
    · exact sound
    · exact ⟨sound.ids, sound.apart⟩
  | measure =>
    rw [step]
    split
    · rename_i now locked
      exact measure_sound now owner sound
    · exact sound
  | apply =>
    rw [step]
    split
    · rename_i candidate live second confirmed
      exact apply_sound candidate live second owner sound
    · exact sound
  | expire => exact ⟨sound.ids, fun _ stored => nomatch stored⟩

theorem gap_shares (movement : Movement) :
    gapShare movement = owedShare movement + if movement.phase = .committed then -movement.effect else 0 := by
  obtain ⟨id, effect, phase, inLive⟩ := movement
  cases phase <;> cases inLive <;> simp [gapShare, owedShare, Phase.inDurable]

theorem deficit_splits (owner : Owner) (sound : Sound owner) (live : Int) (stored : owner.live = some live) :
    owner.durable - live = owed owner + undrawn owner := by
  have split : gap owner = (owner.movements.map owedShare).sum + undrawn owner := by
    unfold gap undrawn
    rw [← List.sum_map_add]
    congr 1
    exact List.map_congr_left (fun movement _ => gap_shares movement)
  have apart := sound.apart live stored
  unfold owed
  omega

theorem raise_covered_iff (owner : Owner) (event : Event) (sound : Sound owner) :
    GivesNothingBack owner event ↔ Covered owner event := by
  unfold GivesNothingBack Covered
  cases event with
  | apply =>
    cases running : owner.pass with
    | none => simp
    | some pass =>
      cases pass with
      | locked now => simp
      | confirmed candidate before second =>
        cases stored : owner.live with
        | none => simp [step, running, applyIncrement, stored, closePass]
        | some live =>
          have splits := deficit_splits owner sound live stored
          simp only [step, running, applyIncrement, stored, closePass, undrawn, appliedMicros] at splits ⊢
          omega
  | _ => simp

-- Different recordings can be in flight at the two measurements, and then the
-- smaller of the two is no proof of a loss.
theorem repair_spares_the_undrawn_iff (clock durable : Int) (events : List Event) :
    Along step GivesNothingBack (newOwner clock durable) events ↔ Along step Covered (newOwner clock durable) events := by
  apply along_congr step Sound GivesNothingBack Covered
  · intro owner event sound
    exact step_sound owner event sound
  · intro owner event sound
    exact raise_covered_iff owner event sound
  · exact ⟨List.nodup_nil, fun _ stored => nomatch stored⟩

-- One recording in flight at each pass, the first drawn down in between: the
-- second pass hands the counter the price of a recording still to be drawn.
theorem two_in_flight_give_back : ¬∀ clock durable events,
    Along step GivesNothingBack (newOwner clock durable) events := by
  intro always
  have run := always 0 100000000
    [.record 0 5000000, .debit 0, .commit 0, .lockPass 0, .measure, .drawDown 0, .tick 3600, .record 1 5000000, .debit 1,
      .commit 1, .lockPass 0, .measure, .apply]
  revert run
  decide

example : (run step (newOwner 0 100000000)
    [.record 0 5000000, .debit 0, .rollBack 0, .lockPass 0, .measure, .tick 3600, .lockPass 0, .measure, .apply]).live =
      some 100000000 := by decide

end Ubb.Gating.Repair
