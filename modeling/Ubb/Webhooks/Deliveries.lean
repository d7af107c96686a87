import Ubb.Webhooks.Receiver

set_option autoImplicit false

-- What any interleaving of deliveries, re-runs and crashes does to a row.
namespace Ubb.Webhooks

open Ubb.Library

section

variable (dispatch : Receiver → Dispatch)

inductive Turn (row : StripeWebhookEvent) (mover : Agent Delivery Stage) :
    Event → Stage → (StripeWebhookEvent → StripeWebhookEvent) → Nat → Prop
  | took (now : Int) (snapshot : StripeWebhookEvent) (reads : mover.stage = .read snapshot)
      (may : snapshot.retryable = true ∨ snapshot.stale now = true) (sameStatus : row.status = snapshot.status)
      (sameWrite : row.updatedAt = snapshot.updatedAt) :
      Turn row mover (.decide mover.id now) .claimed (StripeWebhookEvent.reclaimed now) 0
  | outrun (now : Int) (snapshot : StripeWebhookEvent) (reads : mover.stage = .read snapshot) :
      Turn row mover (.decide mover.id now) (.answered .alreadyProcessing) id 0
  | refused (now : Int) (snapshot : StripeWebhookEvent) (reads : mover.stage = .read snapshot) :
      Turn row mover (.decide mover.id now) (.answered .alreadyProcessed) (StripeWebhookEvent.seenAgain now) 0
  | skipped (result : HandlerResult) (now : Int) (claimed : mover.stage = .claimed) :
      Turn row mover (.dispatch mover.id result now) (.answered .skipped) (StripeWebhookEvent.skip now) 0
  | ran (result : HandlerResult) (now : Int) (claimed : mover.stage = .claimed) :
      Turn row mover (.dispatch mover.id result now) (.ran result) id (effect mover.work.key result).length
  | recorded (now : Int) (result : HandlerResult) (outcome : Outcome) (save : StripeWebhookEvent → StripeWebhookEvent)
      (ran : mover.stage = .ran result) (concludes : conclusion (dispatch mover.work.key.receiver) now result = some (outcome, save)) :
      Turn row mover (.record mover.id now) (.answered outcome) save 0
  | escaped (now : Int) (result : HandlerResult) (ran : mover.stage = .ran result)
      (concludes : conclusion (dispatch mover.work.key.receiver) now result = none) :
      Turn row mover (.record mover.id now) .escaped id 0
  | unsaved (raised : Raised) (now : Int) (ran : mover.stage = .ran .returned) :
      Turn row mover (.saveRaises mover.id raised now) .unsaved (recordFailure raised true now) 0
  | diedEarly (early : mover.stage.holding = true → mover.stage = .claimed) (idle : mover.stage.effected = false)
      (silent : mover.stage.reportedSuccess = false) : Turn row mover (.die mover.id) (.died none) id 0
  | diedLate (result : HandlerResult) (ran : mover.stage = .ran result) :
      Turn row mover (.die mover.id) (.died (some result)) id 0

inductive Move (state : State) : Event → State → Prop
  | idle (event : Event) : Move state event state
  | opened (event : Event) (delivery : Delivery) (now : Int) (fresh : state.row delivery.key = none) :
      Move state event (state.create delivery now)
  | found (event : Event) (delivery : Delivery) (row : StripeWebhookEvent) (held : state.row delivery.key = some row) :
      Move state event (state.join delivery (.read row))
  | collided (event : Event) (delivery : Delivery) (row : StripeWebhookEvent) (now : Int)
      (held : state.row delivery.key = some row) (collides : event = .collide delivery now) :
      Move state event ((state.write delivery.key (StripeWebhookEvent.seenAgain now)).join delivery (.answered .alreadyReceived))
  | turned (event : Event) (mover : Agent Delivery Stage) (row : StripeWebhookEvent) (stage : Stage)
      (save : StripeWebhookEvent → StripeWebhookEvent) (effects : Nat)
      (named : agentNamed state.workers mover.id = some mover) (held : state.row mover.work.key = some row)
      (turn : Turn dispatch row mover event stage save effects) :
      Move state event { (state.write mover.work.key save).put mover.id stage with
        applied := state.applied ++ List.replicate effects mover.work.key }

structure Tabled (state : State) : Prop where
  numbered : Numbered state.workers
  keys : (state.rows.map StripeWebhookEvent.key).Nodup
  present : ∀ worker ∈ state.workers, ∃ row, state.row worker.work.key = some row
  reads : ∀ worker ∈ state.workers, ∀ row, worker.stage = .read row → row.key = worker.work.key

theorem write_id (state : State) (key : EventKey) : state.write key id = state := by
  have same : updateRow StripeWebhookEvent.key key id state.rows = state.rows := by
    rw [updateRow]
    simp
  rw [State.write, same]

theorem effect_replicate (key : EventKey) (result : HandlerResult) :
    effect key result = List.replicate (effect key result).length key := by
  cases result <;> rfl

theorem arrive_moves (state : State) (event : Event) (delivery : Delivery) (now : Int) :
    Move dispatch state event (arrive state delivery now) := by
  rw [arrive]
  cases held : state.row delivery.key with
  | none => exact .opened event delivery now held
  | some row => exact .found event delivery row held

theorem turned_quietly (state : State) (event : Event) (mover : Agent Delivery Stage) (row : StripeWebhookEvent) (stage : Stage)
    (named : agentNamed state.workers mover.id = some mover) (held : state.row mover.work.key = some row)
    (turn : Turn dispatch row mover event stage id 0) : Move dispatch state event (state.put mover.id stage) := by
  have move := Move.turned event mover row stage id 0 named held turn
  rw [write_id, List.replicate_zero, List.append_nil] at move
  exact move

theorem turned_without_effect (state : State) (event : Event) (mover : Agent Delivery Stage) (row : StripeWebhookEvent)
    (stage : Stage) (save : StripeWebhookEvent → StripeWebhookEvent) (named : agentNamed state.workers mover.id = some mover)
    (held : state.row mover.work.key = some row) (turn : Turn dispatch row mover event stage save 0) :
    Move dispatch state event ((state.write mover.work.key save).put mover.id stage) := by
  have move := Move.turned event mover row stage save 0 named held turn
  rw [List.replicate_zero, List.append_nil] at move
  exact move

theorem decide_moves (state : State) (tabled : Tabled state) (mover : Agent Delivery Stage) (now : Int)
    (snapshot : StripeWebhookEvent) (named : agentNamed state.workers mover.id = some mover)
    (reads : mover.stage = .read snapshot) :
    Move dispatch state (.decide mover.id now) (decideRead state mover.id snapshot now) := by
  have inside := (named_mem state.workers mover.id mover named).1
  obtain ⟨row, held⟩ := tabled.present mover inside
  have sameKey := tabled.reads mover inside snapshot reads
  rw [decideRead]
  split
  · rename_i may
    rw [Bool.or_eq_true] at may
    split
    · rename_i same
      rw [unwritten, sameKey, held, Option.any_some, decide_eq_true_iff] at same
      rw [sameKey]
      exact turned_without_effect dispatch state _ mover row .claimed _ named held (.took now snapshot reads may same.1 same.2)
    · exact turned_quietly dispatch state _ mover row _ named held (.outrun now snapshot reads)
  · rw [sameKey]
    exact turned_without_effect dispatch state _ mover row _ _ named held (.refused now snapshot reads)

theorem step_moves (state : State) (tabled : Tabled state) (event : Event) : Move dispatch state event (step dispatch state event) := by
  have known : ∀ id mover, agentNamed state.workers id = some mover →
      mover.id = id ∧ ∃ row, state.row mover.work.key = some row := by
    intro id mover found
    obtain ⟨inside, named⟩ := named_mem state.workers id mover found
    exact ⟨named, tabled.present mover inside⟩
  cases event with
  | deliver delivery now => exact arrive_moves dispatch state _ delivery now
  | reprocess key now =>
    rw [step]
    split
    · split
      · exact arrive_moves dispatch state _ _ now
      · exact .idle _
    · exact .idle _
  | collide delivery now =>
    rw [step]
    split
    · rename_i row held
      exact .collided _ delivery row now held rfl
    · exact .idle _
  | decide id now =>
    rw [step]
    split
    · rename_i named delivery snapshot found
      obtain ⟨rfl, _⟩ := known id _ found
      exact decide_moves dispatch state tabled ⟨_, delivery, .read snapshot⟩ now snapshot found rfl
    · exact .idle _
  | dispatch id result now =>
    rw [step]
    split
    · rename_i named delivery found
      obtain ⟨rfl, row, held⟩ := known id _ found
      split
      · have move := Move.turned _ ⟨_, delivery, .claimed⟩ row (.ran result) id _ found held
          (.ran result now rfl : Turn dispatch row ⟨_, delivery, .claimed⟩ _ _ _ _)
        rw [write_id, ← effect_replicate] at move
        exact move
      · exact turned_without_effect dispatch state _ ⟨_, delivery, .claimed⟩ row _ _ found held (.skipped result now rfl)
    · exact .idle _
  | record id now =>
    rw [step]
    split
    · rename_i named delivery result found
      obtain ⟨rfl, row, held⟩ := known id _ found
      split
      · rename_i outcome save concludes
        exact turned_without_effect dispatch state _ ⟨_, delivery, .ran result⟩ row _ _ found held
          (.recorded now result outcome save rfl concludes)
      · rename_i concludes
        exact turned_quietly dispatch state _ ⟨_, delivery, .ran result⟩ row _ found held (.escaped now result rfl concludes)
    · exact .idle _
  | saveRaises id raised now =>
    rw [step]
    split
    · rename_i named delivery found
      obtain ⟨rfl, row, held⟩ := known id _ found
      exact turned_without_effect dispatch state _ ⟨_, delivery, .ran .returned⟩ row _ _ found held (.unsaved raised now rfl)
    · exact .idle _
  | die id =>
    rw [step]
    split
    · rename_i named delivery result found
      obtain ⟨rfl, row, held⟩ := known id _ found
      exact turned_quietly dispatch state _ ⟨_, delivery, .ran result⟩ row _ found held (.diedLate result rfl)
    · rename_i named delivery snapshot found
      obtain ⟨rfl, row, held⟩ := known id _ found
      exact turned_quietly dispatch state _ ⟨_, delivery, .read snapshot⟩ row _ found held
        (.diedEarly nofun rfl rfl)
    · rename_i named delivery found
      obtain ⟨rfl, row, held⟩ := known id _ found
      exact turned_quietly dispatch state _ ⟨_, delivery, .claimed⟩ row _ found held
        (.diedEarly (fun _ => rfl) rfl rfl)
    · exact .idle _

theorem tally_join (state : State) (delivery : Delivery) (stage : Stage) (key : EventKey) (holds : Stage → Bool) :
    tally (state.join delivery stage) key holds = tally state key holds + (decide (delivery.key = key) && holds stage).toNat :=
  counting_joined _ state.workers delivery stage

theorem tally_put (state : State) (numbered : Numbered state.workers) (mover : Agent Delivery Stage)
    (named : agentNamed state.workers mover.id = some mover) (stage : Stage) (key : EventKey) (holds : Stage → Bool) :
    tally (state.put mover.id stage) key holds + (decide (mover.work.key = key) && holds mover.stage).toNat =
      tally state key holds + (decide (mover.work.key = key) && holds stage).toNat :=
  counting_moved _ state.workers numbered mover.id mover named stage

theorem row_write (state : State) (key other : EventKey) (save : StripeWebhookEvent → StripeWebhookEvent)
    (keeps : ∀ row, (save row).key = row.key) :
    (state.write key save).row other = if other = key then (state.row key).map save else state.row other := by
  have sameKey : ∀ row : StripeWebhookEvent, row.key = key → (save row).key = key := fun row hit => (keeps row).trans hit
  by_cases here : other = key
  · subst here
    rw [if_pos rfl]
    exact find_update_row_hit StripeWebhookEvent.key other save state.rows sameKey
  · rw [if_neg here]
    exact find_update_row_other StripeWebhookEvent.key key other save state.rows sameKey here

theorem row_create (state : State) (delivery : Delivery) (now : Int) (fresh : state.row delivery.key = none) (key : EventKey) :
    (state.create delivery now).row key = if key = delivery.key then some (newRow delivery now) else state.row key := by
  have split : (state.create delivery now).row key =
      (state.row key).or ([newRow delivery now].find? (fun row => decide (row.key = key))) := List.find?_append
  rw [split]
  by_cases same : key = delivery.key
  · subst same
    rw [if_pos rfl, fresh, Option.none_or]
    exact List.find?_cons_of_pos (decide_eq_true rfl)
  · have unlike : ¬(decide ((newRow delivery now).key = key)) = true := by
      rw [decide_eq_true_iff]
      exact Ne.symm same
    rw [if_neg same, List.find?_cons, Bool.eq_false_iff.mpr unlike, List.find?_nil,
      Option.or_none]

theorem conclusion_keeps_key (dispatch : Dispatch) (now : Int) (result : HandlerResult) (outcome : Outcome)
    (save : StripeWebhookEvent → StripeWebhookEvent) (concludes : conclusion dispatch now result = some (outcome, save))
    (row : StripeWebhookEvent) : (save row).key = row.key := by
  cases result with
  | returned =>
    cases concludes
    rfl
  | objectDoesNotExist raised =>
    cases concludes
    rfl
  | stripeFatal raised =>
    cases concludes
    rfl
  | noWalletSubject raised =>
    rw [conclusion] at concludes
    split at concludes
    · cases concludes
      rfl
    · cases concludes
  | transient raised =>
    cases concludes
    rfl

theorem turn_keeps_key (row : StripeWebhookEvent) (mover : Agent Delivery Stage) (event : Event) (stage : Stage)
    (save : StripeWebhookEvent → StripeWebhookEvent) (effects : Nat) (turn : Turn dispatch row mover event stage save effects)
    (other : StripeWebhookEvent) : (save other).key = other.key := by
  cases turn with
  | recorded now result outcome save ran concludes => exact conclusion_keeps_key _ now result outcome save concludes other
  | _ => rfl

theorem tabled_join (state : State) (tabled : Tabled state) (delivery : Delivery) (stage : Stage) (row : StripeWebhookEvent)
    (held : state.row delivery.key = some row) (reads : ∀ read, stage = .read read → read.key = delivery.key) :
    Tabled (state.join delivery stage) := by
  refine ⟨joined_numbered _ _ _ tabled.numbered, tabled.keys, ?_, ?_⟩
  · intro worker member
    rcases mem_joined state.workers delivery stage worker member with old | rfl
    · exact tabled.present worker old
    · exact ⟨row, held⟩
  · intro worker member
    rcases mem_joined state.workers delivery stage worker member with old | rfl
    · exact tabled.reads worker old
    · exact reads

theorem tabled_write (state : State) (tabled : Tabled state) (key : EventKey) (save : StripeWebhookEvent → StripeWebhookEvent)
    (keeps : ∀ row, (save row).key = row.key) : Tabled (state.write key save) := by
  refine ⟨tabled.numbered, ?_, ?_, tabled.reads⟩
  · rw [State.write, update_row_map StripeWebhookEvent.key key save state.rows StripeWebhookEvent.key keeps]
    exact tabled.keys
  · intro worker member
    obtain ⟨row, held⟩ := tabled.present worker member
    rw [row_write state key worker.work.key save keeps]
    split
    · rename_i here
      exact ⟨save row, by rw [← here, held, Option.map_some]⟩
    · exact ⟨row, held⟩

theorem tabled_put (state : State) (tabled : Tabled state) (mover : Agent Delivery Stage)
    (named : agentNamed state.workers mover.id = some mover) (stage : Stage) (reads : ∀ read, stage ≠ .read read) :
    Tabled (state.put mover.id stage) := by
  have inside := (named_mem state.workers mover.id mover named).1
  refine ⟨moved_numbered _ _ _ tabled.numbered, tabled.keys, ?_, ?_⟩
  · intro worker member
    rcases mem_moved state.workers tabled.numbered mover.id mover named stage worker member with ⟨old, _⟩ | rfl
    · exact tabled.present worker old
    · exact tabled.present mover inside
  · intro worker member read same
    rcases mem_moved state.workers tabled.numbered mover.id mover named stage worker member with ⟨old, _⟩ | rfl
    · exact tabled.reads worker old read same
    · exact absurd same (reads read)

theorem turn_reads_once (row : StripeWebhookEvent) (mover : Agent Delivery Stage) (event : Event) (stage : Stage)
    (save : StripeWebhookEvent → StripeWebhookEvent) (effects : Nat) (turn : Turn dispatch row mover event stage save effects)
    (read : StripeWebhookEvent) : stage ≠ .read read := by
  cases turn <;> exact nofun

theorem tabled_step (state : State) (tabled : Tabled state) (event : Event) : Tabled (step dispatch state event) := by
  have move := step_moves dispatch state tabled event
  generalize step dispatch state event = next at move
  cases move with
  | idle => exact tabled
  | opened delivery now fresh =>
    have unlisted := find_key_none StripeWebhookEvent.key delivery.key state.rows fresh
    refine ⟨joined_numbered _ _ _ tabled.numbered, nodup_add_row _ state.rows _ tabled.keys unlisted, ?_, ?_⟩
    · intro worker member
      rw [row_create state delivery now fresh]
      split
      · exact ⟨_, rfl⟩
      · rename_i other
        rcases mem_joined state.workers delivery .claimed worker member with old | rfl
        · exact tabled.present worker old
        · exact absurd rfl other
    · intro worker member read same
      rcases mem_joined state.workers delivery .claimed worker member with old | rfl
      · exact tabled.reads worker old read same
      · cases same
  | found delivery row held =>
    apply tabled_join state tabled delivery (.read row) row held
    intro read same
    cases same
    exact (find_key_some StripeWebhookEvent.key delivery.key state.rows row held).2
  | collided delivery row now held =>
    apply tabled_join _ (tabled_write state tabled delivery.key (StripeWebhookEvent.seenAgain now) (fun _ => rfl)) delivery _
      (row.seenAgain now)
    · rw [row_write state delivery.key delivery.key (StripeWebhookEvent.seenAgain now) (fun _ => rfl), if_pos rfl, held,
        Option.map_some]
    · intro _ same
      cases same
  | turned mover row stage save effects named held turn =>
    have written := tabled_write state tabled mover.work.key save (turn_keeps_key dispatch row mover event stage save effects turn)
    have put := tabled_put _ written mover named stage (turn_reads_once dispatch row mover event stage save effects turn)
    exact ⟨put.numbered, put.keys, put.present, put.reads⟩

def Stage.snapshot : Stage → Option StripeWebhookEvent
  | .read row => some row
  | _ => none

-- No claim that has gone thirty minutes without a write is taken over while
-- its worker is still on it.
def SparesLiveClaims (state : State) : Event → Prop
  | .decide id now => ∀ mover ∈ agentNamed state.workers id, ∀ snapshot ∈ mover.stage.snapshot,
      snapshot.stale now = true → unwritten state snapshot = true → tally state mover.work.key Stage.holding = 0
  | _ => True

instance (state : State) (event : Event) : Decidable (SparesLiveClaims state event) := by
  cases event <;> (unfold SparesLiveClaims; infer_instance)

def succeededRow (row : StripeWebhookEvent) : Bool := decide (row.status = .succeeded)

structure Sound (state : State) : Prop extends Tabled state where
  held : ∀ key row, state.row key = some row → 0 < tally state key Stage.holding → row.status = .processing
  single : ∀ key, tally state key Stage.holding ≤ 1
  recorded : ∀ key, tally state key Stage.reportedSuccess = ((state.row key).any succeededRow).toNat
  counted : ∀ key, state.applied.count key = tally state key Stage.effected

theorem no_events_sound : Sound noEvents where
  numbered := rfl
  keys := List.nodup_nil
  present := by simp [noEvents]
  reads := by simp [noEvents]
  held := by
    intro _ _ found
    cases found
  single := fun _ => Nat.zero_le 1
  recorded := fun _ => rfl
  counted := fun _ => rfl

structure TurnLaw (state : State) (row : StripeWebhookEvent) (mover : Agent Delivery Stage) (stage : Stage)
    (save : StripeWebhookEvent → StripeWebhookEvent) (effects : Nat) : Prop where
  status : (save row).status = row.status ∨ tally state mover.work.key Stage.holding = mover.stage.holding.toNat
  holding : stage.holding = true → (save row).status = .processing ∧
    tally state mover.work.key Stage.holding = mover.stage.holding.toNat
  reported : (succeededRow row).toNat + stage.reportedSuccess.toNat =
    mover.stage.reportedSuccess.toNat + (succeededRow (save row)).toNat
  effected : effects + mover.stage.effected.toNat = stage.effected.toNat

theorem mover_holds (state : State) (sound : Sound state) (mover : Agent Delivery Stage)
    (inside : mover ∈ state.workers) (holds : mover.stage.holding = true) :
    tally state mover.work.key Stage.holding = 1 := by
  have here : 0 < tally state mover.work.key Stage.holding :=
    counting_pos_of _ state.workers mover inside (by simp [holds])
  have most := sound.single mover.work.key
  omega

theorem recorded_status (dispatch : Dispatch) (now : Int) (result : HandlerResult) (outcome : Outcome)
    (save : StripeWebhookEvent → StripeWebhookEvent) (concludes : conclusion dispatch now result = some (outcome, save))
    (row : StripeWebhookEvent) :
    (succeededRow (save row)).toNat = (Stage.answered outcome).reportedSuccess.toNat ∧
      (Stage.ran result).effected.toNat = (Stage.answered outcome).effected.toNat := by
  cases result with
  | returned =>
    cases concludes
    exact ⟨rfl, rfl⟩
  | objectDoesNotExist raised =>
    cases concludes
    exact ⟨rfl, rfl⟩
  | stripeFatal raised =>
    cases concludes
    exact ⟨rfl, rfl⟩
  | noWalletSubject raised =>
    rw [conclusion] at concludes
    split at concludes
    · cases concludes
      exact ⟨rfl, rfl⟩
    · cases concludes
  | transient raised =>
    cases concludes
    exact ⟨rfl, rfl⟩

theorem turn_law (state : State) (sound : Sound state) (event : Event) (spared : SparesLiveClaims state event)
    (mover : Agent Delivery Stage) (row : StripeWebhookEvent) (stage : Stage) (save : StripeWebhookEvent → StripeWebhookEvent)
    (effects : Nat) (named : agentNamed state.workers mover.id = some mover) (held : state.row mover.work.key = some row)
    (turn : Turn dispatch row mover event stage save effects) : TurnLaw state row mover stage save effects := by
  have inside := (named_mem state.workers mover.id mover named).1
  have processing : mover.stage.holding = true → row.status = .processing := by
    intro holds
    exact sound.held mover.work.key row held (by rw [mover_holds state sound mover inside holds]; exact Nat.one_pos)
  have unsucceeded : row.status = .processing → succeededRow row = false := by
    intro same
    rw [succeededRow, same]
    rfl
  have alone := mover_holds state sound mover inside
  cases turn with
  | took now snapshot reads may sameStatus sameWrite =>
    have resting : mover.stage.holding = false := by rw [reads]; rfl
    have free : tally state mover.work.key Stage.holding = 0 := by
      rcases may with retryable | stale
      · by_contra busy
        have status := sound.held mover.work.key row held (Nat.pos_of_ne_zero busy)
        rw [StripeWebhookEvent.retryable, ← sameStatus, status] at retryable
        cases retryable
      · apply spared mover named snapshot (by rw [reads]; rfl) stale
        rw [unwritten, sound.reads mover inside snapshot reads, held, Option.any_some]
        exact decide_eq_true ⟨sameStatus, sameWrite⟩
    have open_ : succeededRow row = false := by
      rw [succeededRow, sameStatus]
      rcases may with retryable | stale
      · rw [StripeWebhookEvent.retryable, Bool.and_eq_true, decide_eq_true_iff] at retryable
        rw [retryable.1]
        rfl
      · rw [StripeWebhookEvent.stale, Bool.and_eq_true, decide_eq_true_iff] at stale
        rw [stale.1]
        rfl
    refine ⟨.inr (by rw [free, resting]; rfl), fun _ => ⟨rfl, by rw [free, resting]; rfl⟩, ?_, by rw [reads]; rfl⟩
    rw [open_, reads]
    rfl
  | outrun now snapshot reads =>
    refine ⟨.inl rfl, Bool.noConfusion, ?_, by rw [reads]; rfl⟩
    rw [reads]
    exact Nat.add_comm _ _
  | refused now snapshot reads =>
    refine ⟨.inl rfl, Bool.noConfusion, ?_, by rw [reads]; rfl⟩
    rw [reads]
    exact Nat.add_comm _ _
  | skipped result now claimed =>
    have holds : mover.stage.holding = true := by rw [claimed]; rfl
    refine ⟨.inr (by rw [alone holds, holds]; rfl), Bool.noConfusion, ?_, by rw [claimed]; rfl⟩
    rw [unsucceeded (processing holds), claimed]
    rfl
  | ran result now claimed =>
    have holds : mover.stage.holding = true := by rw [claimed]; rfl
    refine ⟨.inl rfl, fun _ => ⟨processing holds, by rw [alone holds, holds]; rfl⟩, ?_, ?_⟩
    · rw [claimed]
      exact Nat.add_comm _ _
    · rw [claimed]
      cases result <;> rfl
  | recorded now result outcome save ran concludes =>
    have holds : mover.stage.holding = true := by rw [ran]; rfl
    obtain ⟨reported, effected⟩ := recorded_status _ now result outcome save concludes row
    refine ⟨.inr (by rw [alone holds, holds]; rfl), Bool.noConfusion, ?_, by rw [ran, Nat.zero_add, effected]⟩
    rw [unsucceeded (processing holds), reported, ran]
    rfl
  | escaped now result ran concludes =>
    refine ⟨.inl rfl, Bool.noConfusion, ?_, ?_⟩
    · rw [ran]
      exact Nat.add_comm _ _
    · rw [ran]
      cases result with
      | returned => cases concludes
      | _ => rfl
  | unsaved raised now ran =>
    have holds : mover.stage.holding = true := by rw [ran]; rfl
    refine ⟨.inr (by rw [alone holds, holds]; rfl), Bool.noConfusion, ?_, by rw [ran]; rfl⟩
    rw [unsucceeded (processing holds), ran]
    rfl
  | diedEarly early idle silent =>
    refine ⟨.inl rfl, Bool.noConfusion, ?_, by rw [idle]; rfl⟩
    rw [silent]
    exact Nat.add_comm _ _
  | diedLate result ran =>
    refine ⟨.inl rfl, Bool.noConfusion, ?_, ?_⟩
    · rw [ran]
      exact Nat.add_comm _ _
    · rw [ran]
      cases result <;> rfl

theorem sound_join (state next : State) (sound : Sound state) (tabled : Tabled next) (delivery : Delivery) (stage : Stage)
    (workers : next.workers = joined state.workers delivery stage) (applied : next.applied = state.applied)
    (passive : stage.holding = false) (unreported : stage.reportedSuccess = false) (uneffected : stage.effected = false)
    (statuses : ∀ key, (next.row key).map StripeWebhookEvent.status = (state.row key).map StripeWebhookEvent.status) :
    Sound next := by
  have tallied : ∀ key holds, tally next key holds = tally state key holds + (decide (delivery.key = key) && holds stage).toNat := by
    intro key holds
    rw [tally, workers]
    exact tally_join state delivery stage key holds
  refine { tabled with held := ?_, single := ?_, recorded := ?_, counted := ?_ }
  · intro key row found busy
    have same := statuses key
    rw [found, Option.map_some, eq_comm, Option.map_eq_some_iff] at same
    obtain ⟨before, was, sameStatus⟩ := same
    rw [tallied, passive, Bool.and_false, Bool.toNat_false, Nat.add_zero] at busy
    rw [← sameStatus]
    exact sound.held key before was busy
  · intro key
    rw [tallied, passive, Bool.and_false, Bool.toNat_false, Nat.add_zero]
    exact sound.single key
  · intro key
    have status : ∀ row : Option StripeWebhookEvent, row.any succeededRow =
        (row.map StripeWebhookEvent.status).any (fun status => decide (status = .succeeded)) := by
      intro row
      cases row <;> rfl
    rw [tallied, unreported, Bool.and_false, Bool.toNat_false, Nat.add_zero, status, statuses, ← status]
    exact sound.recorded key
  · intro key
    rw [tallied, uneffected, Bool.and_false, Bool.toNat_false, Nat.add_zero, applied]
    exact sound.counted key

theorem sound_turn (state : State) (sound : Sound state) (event : Event) (spared : SparesLiveClaims state event)
    (mover : Agent Delivery Stage) (row : StripeWebhookEvent) (stage : Stage) (save : StripeWebhookEvent → StripeWebhookEvent)
    (effects : Nat) (named : agentNamed state.workers mover.id = some mover) (held : state.row mover.work.key = some row)
    (turn : Turn dispatch row mover event stage save effects)
    (tabled : Tabled { (state.write mover.work.key save).put mover.id stage with
      applied := state.applied ++ List.replicate effects mover.work.key }) :
    Sound { (state.write mover.work.key save).put mover.id stage with
      applied := state.applied ++ List.replicate effects mover.work.key } := by
  have law := turn_law dispatch state sound event spared mover row stage save effects named held turn
  have keeps := turn_keeps_key dispatch row mover event stage save effects turn
  have tallied : ∀ key holds, tally ((state.write mover.work.key save).put mover.id stage) key holds +
      (decide (mover.work.key = key) && holds mover.stage).toNat =
        tally state key holds + (decide (mover.work.key = key) && holds stage).toNat :=
    fun key holds => tally_put (state.write mover.work.key save) sound.numbered mover named stage key holds
  have rows := fun key => row_write state mover.work.key key save keeps
  -- What is said of another key is said by what was there before.
  have apart : ∀ key holds, key ≠ mover.work.key →
      tally ((state.write mover.work.key save).put mover.id stage) key holds = tally state key holds := by
    intro key holds other
    have same := tallied key holds
    rw [decide_eq_false (Ne.symm other), Bool.false_and, Bool.false_and] at same
    exact same
  have here : ∀ holds, tally ((state.write mover.work.key save).put mover.id stage) mover.work.key holds +
      (holds mover.stage).toNat = tally state mover.work.key holds + (holds stage).toNat := by
    intro holds
    have same := tallied mover.work.key holds
    rwa [decide_eq_true rfl, Bool.true_and, Bool.true_and] at same
  refine { tabled with held := ?_, single := ?_, recorded := ?_, counted := ?_ }
  · intro key found written busy
    have was := (rows key).symm.trans written
    by_cases other : key = mover.work.key
    · subst other
      rw [if_pos rfl, held, Option.map_some, Option.some.injEq] at was
      subst was
      have moves := here Stage.holding
      have stays : 0 < tally ((state.write mover.work.key save).put mover.id stage) mover.work.key Stage.holding := busy
      cases holds : stage.holding with
      | true => exact (law.holding holds).1
      | false =>
        rw [holds, Bool.toNat_false, Nat.add_zero] at moves
        rcases law.status with sameStatus | alone
        · rw [sameStatus]
          exact sound.held mover.work.key row held (by omega)
        · omega
    · rw [if_neg other] at was
      exact sound.held key found was (by rw [← apart key _ other]; exact busy)
  · intro key
    by_cases other : key = mover.work.key
    · subst other
      have moves := here Stage.holding
      have most := sound.single mover.work.key
      show tally ((state.write mover.work.key save).put mover.id stage) mover.work.key Stage.holding ≤ 1
      cases holds : stage.holding with
      | true =>
        have alone := (law.holding holds).2
        rw [holds, Bool.toNat_true] at moves
        omega
      | false =>
        rw [holds, Bool.toNat_false] at moves
        omega
    · exact (apart key _ other).trans_le (sound.single key)
  · intro key
    show tally ((state.write mover.work.key save).put mover.id stage) key Stage.reportedSuccess =
      (((state.write mover.work.key save).row key).any succeededRow).toNat
    rw [rows key]
    by_cases other : key = mover.work.key
    · subst other
      have moves := here Stage.reportedSuccess
      have before := sound.recorded mover.work.key
      have reported := law.reported
      rw [held, Option.any_some] at before
      rw [if_pos rfl, held, Option.map_some, Option.any_some]
      omega
    · rw [if_neg other, apart key _ other]
      exact sound.recorded key
  · intro key
    show (state.applied ++ List.replicate effects mover.work.key).count key =
      tally ((state.write mover.work.key save).put mover.id stage) key Stage.effected
    rw [List.count_append, List.count_replicate, sound.counted key]
    by_cases other : key = mover.work.key
    · subst other
      have moves := here Stage.effected
      have effected := law.effected
      rw [if_pos (beq_self_eq_true _)]
      omega
    · have unlike : (mover.work.key == key) = false := beq_eq_false_iff_ne.mpr (Ne.symm other)
      rw [unlike, if_neg Bool.false_ne_true, Nat.add_zero, apart key _ other]

theorem sound_step (state : State) (sound : Sound state) (event : Event) (spared : SparesLiveClaims state event) :
    Sound (step dispatch state event) := by
  have tabled := tabled_step dispatch state sound.toTabled event
  have move := step_moves dispatch state sound.toTabled event
  generalize step dispatch state event = next at move tabled
  cases move with
  | idle => exact sound
  | opened delivery now fresh =>
    -- No worker had the key, for each has a row to be at work on.
    have untouched : ∀ holds, tally state delivery.key holds = 0 := by
      intro holds
      rw [tally, counting_zero_iff]
      intro worker member
      obtain ⟨row, held⟩ := sound.present worker member
      have unlike : worker.work.key ≠ delivery.key := by
        intro same
        rw [same, fresh] at held
        cases held
      rw [decide_eq_false unlike, Bool.false_and]
    have tallied := tally_join state delivery .claimed
    have rows := row_create state delivery now fresh
    refine { tabled with held := ?_, single := ?_, recorded := ?_, counted := ?_ }
    · intro key row found busy
      rw [rows] at found
      by_cases same : key = delivery.key
      · rw [if_pos same] at found
        cases found
        rfl
      · rw [if_neg same] at found
        have moves : 0 < tally (state.join delivery .claimed) key Stage.holding := busy
        rw [tallied, decide_eq_false (Ne.symm same), Bool.false_and, Bool.toNat_false, Nat.add_zero] at moves
        exact sound.held key row found moves
    · intro key
      show tally (state.join delivery .claimed) key Stage.holding ≤ 1
      rw [tallied]
      by_cases same : key = delivery.key
      · rw [same, untouched, Nat.zero_add]
        exact Bool.toNat_le _
      · rw [decide_eq_false (Ne.symm same), Bool.false_and, Bool.toNat_false, Nat.add_zero]
        exact sound.single key
    · intro key
      rw [rows]
      show tally (state.join delivery .claimed) key Stage.reportedSuccess = _
      rw [tallied]
      have quiet : (decide (delivery.key = key) && Stage.reportedSuccess .claimed).toNat = 0 := by
        rw [show Stage.reportedSuccess .claimed = false from rfl, Bool.and_false]
        rfl
      rw [quiet, Nat.add_zero]
      by_cases same : key = delivery.key
      · rw [if_pos same, same, untouched]
        rfl
      · rw [if_neg same]
        exact sound.recorded key
    · intro key
      show state.applied.count key = tally (state.join delivery .claimed) key Stage.effected
      rw [tallied, show Stage.effected .claimed = false from rfl, Bool.and_false]
      exact sound.counted key
  | found delivery row held =>
    exact sound_join state _ sound tabled delivery (.read row) rfl rfl rfl rfl rfl (fun _ => rfl)
  | collided delivery row now held =>
    apply sound_join state _ sound tabled delivery (.answered .alreadyReceived) rfl rfl rfl rfl rfl
    intro key
    show ((state.write delivery.key (StripeWebhookEvent.seenAgain now)).row key).map StripeWebhookEvent.status = _
    rw [row_write state delivery.key key (StripeWebhookEvent.seenAgain now) (fun _ => rfl)]
    split
    · rename_i same
      rw [same, Option.map_map]
      rfl
    · rfl
  | turned mover row stage save effects named held turn =>
    exact sound_turn dispatch state sound event spared mover row stage save effects named held turn tabled

end

end Ubb.Webhooks
