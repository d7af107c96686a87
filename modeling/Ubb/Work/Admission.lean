import Ubb.Library.KeyedRows
import Ubb.Library.Runs

set_option autoImplicit false

-- The bound on new top-level starts of one seat. A start reads the count,
-- compares it, and counts itself: three calls on a cache that every other
-- start of the seat is using as well.
namespace Ubb.Work.Admission

open Ubb.Library

structure Store where
  starts : Option Nat
  windowEndsAt : Option Int
deriving DecidableEq, Repr

def windowMicros : Int := 60000000

structure AdmissionWindow where
  limit : Nat
  remaining : Nat
  endsAt : Int
  retryAfterSeconds : Int
deriving DecidableEq, Repr

-- max(1, ceil(...)).
def secondsUntil (endsAt now : Int) : Int := max 1 (-((now - endsAt) / 1000000))

def windowOf (bound counted : Nat) (endsAt now : Int) : AdmissionWindow where
  limit := bound
  remaining := bound - counted
  endsAt := endsAt
  retryAfterSeconds := secondsUntil endsAt now

def windowEndsAt (store : Store) (now : Int) : Int := store.windowEndsAt.getD (now + windowMicros)

-- Where a start stands. The window it was counted in is the count's key: a
-- key that has expired and been written again is a new window.
inductive Phase where
  | unbounded
  | full (counted : Nat)
  | passed
  | noted
  | missed
  | counted (counted window : Nat)
  | admitted (window : Nat) (answer : AdmissionWindow)
  | standingRefused (window : Nat)
  | refused (answer : AdmissionWindow)
deriving DecidableEq, Repr

def Phase.pending : Phase → Bool
  | .passed | .noted | .missed => true
  | _ => false

def Phase.countedIn : Phase → Option Nat
  | .counted _ window | .admitted window _ | .standingRefused window => some window
  | _ => none

def Phase.admittedIn : Phase → Option Nat
  | .admitted window _ => some window
  | _ => none

structure Start where
  id : Nat
  now : Int
  phase : Phase
deriving DecidableEq, Repr

structure State where
  bound : Nat
  store : Store
  window : Nat
  starts : List Start
deriving DecidableEq, Repr

def State.start (state : State) (id : Nat) : Option Start := state.starts.find? (fun start => start.id = id)

def Start.to (phase : Phase) (start : Start) : Start := { start with phase := phase }

def State.put (state : State) (id : Nat) (phase : Phase) : State :=
  { state with starts := updateRow Start.id id (Start.to phase) state.starts }

inductive Event where
  | read (id : Nat) (now : Int)
  | wordRefusal (id : Nat)
  | noteEnd (id : Nat)
  | incr (id : Nat)
  | set (id : Nat)
  | answer (id : Nat) (stands : Bool)
  | expireStarts
  | expireEnd
deriving DecidableEq, Repr

def firstPhase (bound : Nat) (store : Store) : Phase :=
  if bound = 0 then .unbounded
  else if bound ≤ store.starts.getD 0 then .full (store.starts.getD 0)
  else .passed

-- cache.incr raises where the key is missing, and cache.set then writes one
-- over whatever the key holds by that time.
def step (state : State) : Event → State
  | .read id now =>
      if (state.start id).isSome then state
      else { state with starts := state.starts ++ [⟨id, now, firstPhase state.bound state.store⟩] }
  | .wordRefusal id =>
      match state.start id with
      | some ⟨_, now, .full counted⟩ =>
          state.put id (.refused (windowOf state.bound counted (windowEndsAt state.store now) now))
      | _ => state
  | .noteEnd id =>
      match state.start id with
      | some ⟨_, now, .passed⟩ =>
          { state.put id .noted with store.windowEndsAt := some (windowEndsAt state.store now) }
      | _ => state
  | .incr id =>
      match state.start id, state.store.starts with
      | some ⟨_, _, .noted⟩, some counted =>
          { state.put id (.counted (counted + 1) state.window) with store.starts := some (counted + 1) }
      | some ⟨_, _, .noted⟩, none => state.put id .missed
      | _, _ => state
  | .set id =>
      match state.start id with
      | some ⟨_, _, .missed⟩ => { state.put id (.counted 1 state.window) with store.starts := some 1 }
      | _ => state
  | .answer id stands =>
      match state.start id with
      | some ⟨_, now, .counted counted window⟩ =>
          if stands then
            state.put id (.admitted window (windowOf state.bound counted (windowEndsAt state.store now) now))
          else state.put id (.standingRefused window)
      | _ => state
  | .expireStarts =>
      match state.store.starts with
      | some _ => { state with store.starts := none, window := state.window + 1 }
      | none => state
  | .expireEnd => { state with store.windowEndsAt := none }

def newSeat (bound : Nat) : State := ⟨bound, ⟨none, none⟩, 0, []⟩

def pending (state : State) : Nat := state.starts.countP (fun start => start.phase.pending)

def countedIn (window : Nat) (state : State) : Nat :=
  state.starts.countP (fun start => start.phase.countedIn = some window)

def admittedIn (window : Nat) (state : State) : Nat :=
  state.starts.countP (fun start => start.phase.admittedIn = some window)

def WithinBound (state : State) : Prop := ∀ window, admittedIn window state ≤ state.bound

-- A start that reads room is not the one too many, once the starts that read
-- before it and have yet to count themselves are counted; and a start that
-- found no key writes its one over no other start's count.
def Unraced (state : State) : Event → Prop
  | .read id _ => state.start id = none → state.store.starts.getD 0 < state.bound →
      state.store.starts.getD 0 + pending state < state.bound
  | .set id => (state.start id).map Start.phase = some .missed → state.store.starts = none
  | _ => True

instance (state : State) (event : Event) : Decidable (Unraced state event) := by
  cases event <;> (unfold Unraced; infer_instance)

structure Sound (state : State) : Prop where
  ids : (state.starts.map Start.id).Nodup
  windows : ∀ start ∈ state.starts, ∀ window, start.phase.countedIn = some window → window ≤ state.window
  current : countedIn state.window state ≤ state.store.starts.getD 0
  room : state.bound ≠ 0 → state.store.starts.getD 0 + pending state ≤ state.bound
  each : state.bound ≠ 0 → ∀ window, countedIn window state ≤ state.bound
  none_ : state.bound = 0 → ∀ start ∈ state.starts, start.phase = .unbounded

theorem start_member (state : State) (id : Nat) (start : Start) (found : state.start id = some start) :
    start ∈ state.starts ∧ start.id = id :=
  find_key_some Start.id id state.starts start found

theorem put_starts (state : State) (id : Nat) (phase : Phase) :
    (state.put id phase).starts = updateRow Start.id id (Start.to phase) state.starts := rfl

theorem put_pending (state : State) (sound : Sound state) (id : Nat) (start : Start) (found : state.start id = some start)
    (phase : Phase) : pending (state.put id phase) + start.phase.pending.toNat = pending state + phase.pending.toNat := by
  obtain ⟨member, named⟩ := start_member state id start found
  exact count_update_row Start.id id (Start.to phase) (fun start => start.phase.pending) state.starts start sound.ids member named

theorem put_counted (state : State) (sound : Sound state) (id : Nat) (start : Start) (found : state.start id = some start)
    (phase : Phase) (window : Nat) :
    countedIn window (state.put id phase) + (decide (start.phase.countedIn = some window)).toNat =
      countedIn window state + (decide (phase.countedIn = some window)).toNat := by
  obtain ⟨member, named⟩ := start_member state id start found
  exact count_update_row Start.id id (Start.to phase) (fun start => decide (start.phase.countedIn = some window)) state.starts
    start sound.ids member named

theorem put_ids (state : State) (sound : Sound state) (id : Nat) (phase : Phase) :
    ((state.put id phase).starts.map Start.id).Nodup := by
  rw [put_starts, update_row_map Start.id id (Start.to phase) state.starts Start.id (fun _ => rfl)]
  exact sound.ids

theorem put_windows (state : State) (sound : Sound state) (id : Nat) (phase : Phase)
    (opened : ∀ window, phase.countedIn = some window → window ≤ state.window) :
    ∀ start ∈ (state.put id phase).starts, ∀ window, start.phase.countedIn = some window → window ≤ state.window := by
  intro start member window counted
  rcases mem_update_row Start.id id (Start.to phase) state.starts start member with ⟨old, _⟩ | ⟨row, _, _, rfl⟩
  · exact sound.windows start old window counted
  · exact opened window counted

theorem bounded_of_live (state : State) (sound : Sound state) (id : Nat) (start : Start) (found : state.start id = some start)
    (live : start.phase ≠ .unbounded) : state.bound ≠ 0 := by
  intro none_
  exact live (sound.none_ none_ start (start_member state id start found).1)

theorem moved_sound (state : State) (sound : Sound state) (id : Nat) (start : Start) (found : state.start id = some start)
    (live : start.phase ≠ .unbounded) (phase : Phase) (samePending : phase.pending = start.phase.pending)
    (sameCounted : phase.countedIn = start.phase.countedIn) (endsAt : Option Int) :
    Sound { state.put id phase with store.windowEndsAt := endsAt } := by
  have bounded := bounded_of_live state sound id start found live
  have waiting := put_pending state sound id start found phase
  have counts := put_counted state sound id start found phase
  simp only [samePending, sameCounted] at waiting counts
  have sameWaiting : pending (state.put id phase) = pending state := by omega
  have sameCounts : ∀ window, countedIn window (state.put id phase) = countedIn window state := by
    intro window
    have here := counts window
    omega
  refine ⟨put_ids state sound id phase, ?_, ?_, ?_, ?_, fun none_ => absurd none_ bounded⟩
  · apply put_windows state sound id phase
    intro window counted
    rw [sameCounted] at counted
    exact sound.windows start (start_member state id start found).1 window counted
  · show countedIn state.window (state.put id phase) ≤ _
    rw [sameCounts]
    exact sound.current
  · intro _
    show state.store.starts.getD 0 + pending (state.put id phase) ≤ state.bound
    rw [sameWaiting]
    exact sound.room bounded
  · intro _ window
    show countedIn window (state.put id phase) ≤ state.bound
    rw [sameCounts]
    exact sound.each bounded window

theorem counted_sound (state : State) (sound : Sound state) (id : Nat) (start : Start) (found : state.start id = some start)
    (waits : start.phase.pending = true) (fresh : start.phase.countedIn = none) (count : Nat)
    (counts : count = state.store.starts.getD 0 + 1) :
    Sound { state.put id (.counted count state.window) with store.starts := some count } := by
  have live : start.phase ≠ .unbounded := by
    intro same
    rw [same] at waits
    cases waits
  have bounded := bounded_of_live state sound id start found live
  have room := sound.room bounded
  have current := sound.current
  have waiting := put_pending state sound id start found (.counted count state.window)
  have tally : ∀ window, countedIn window (state.put id (.counted count state.window)) =
      countedIn window state + (decide (some state.window = some window)).toNat := by
    intro window
    have counted := put_counted state sound id start found (.counted count state.window) window
    rw [fresh] at counted
    exact counted
  rw [waits] at waiting
  have left : pending (state.put id (.counted count state.window)) + 1 = pending state := waiting
  have here : countedIn state.window (state.put id (.counted count state.window)) = countedIn state.window state + 1 := by
    simpa using tally state.window
  refine ⟨put_ids state sound id _, ?_, ?_, ?_, ?_, fun none_ => absurd none_ bounded⟩
  · apply put_windows state sound id
    intro window counted
    cases counted
    exact le_refl _
  · show countedIn state.window (state.put id (.counted count state.window)) ≤ count
    omega
  · intro _
    show count + pending (state.put id (.counted count state.window)) ≤ state.bound
    omega
  · intro _ window
    show countedIn window (state.put id (.counted count state.window)) ≤ state.bound
    by_cases same : window = state.window
    · rw [same]
      omega
    · have other := tally window
      have before := sound.each bounded window
      rw [decide_eq_false (by simpa using Ne.symm same), Bool.toNat_false] at other
      omega

theorem count_new (state : State) (starts : List Start) (holds : Start → Bool) (start : Start) (same : state.starts = starts) :
    (starts ++ [start]).countP holds = state.starts.countP holds + (holds start).toNat := by
  rw [same, List.countP_append, List.countP_singleton]
  cases holds start <;> rfl

theorem read_sound (state : State) (sound : Sound state) (id : Nat) (now : Int) (unraced : Unraced state (.read id now)) :
    Sound (step state (.read id now)) := by
  rw [step]
  cases found : state.start id with
  | some start => simpa [found] using sound
  | none =>
    simp only [Option.isSome_none, Bool.false_eq_true, if_false]
    have uncounted : (firstPhase state.bound state.store).countedIn = none := by
      unfold firstPhase
      split
      · rfl
      · split <;> rfl
    have tally : ∀ window, countedIn window { state with starts := state.starts ++ [⟨id, now, firstPhase state.bound state.store⟩] } =
        countedIn window state := by
      intro window
      unfold countedIn
      rw [count_new state state.starts _ _ rfl]
      simp [uncounted]
    have waiting : pending { state with starts := state.starts ++ [⟨id, now, firstPhase state.bound state.store⟩] } =
        pending state + (firstPhase state.bound state.store).pending.toNat := count_new state state.starts _ _ rfl
    refine ⟨?_, ?_, ?_, ?_, ?_, ?_⟩
    · exact nodup_add_row Start.id state.starts _ sound.ids (find_key_none Start.id id state.starts found)
    · intro start member window counted
      rcases List.mem_append.mp member with old | new
      · exact sound.windows start old window counted
      · cases List.mem_singleton.mp new
        rw [uncounted] at counted
        cases counted
    · rw [tally]
      exact sound.current
    · intro bounded
      have room := sound.room bounded
      rw [waiting]
      by_cases full : state.bound ≤ state.store.starts.getD 0
      · simpa [firstPhase, bounded, full, Phase.pending] using room
      · have fits := unraced found (not_le.mp full)
        simp only [firstPhase, if_neg bounded, if_neg full, Phase.pending, Bool.toNat_true]
        omega
    · intro bounded window
      rw [tally]
      exact sound.each bounded window
    · intro none_ start member
      rcases List.mem_append.mp member with old | new
      · exact sound.none_ none_ start old
      · cases List.mem_singleton.mp new
        exact if_pos none_

theorem step_sound (state : State) (event : Event) (sound : Sound state) (unraced : Unraced state event) :
    Sound (step state event) := by
  cases event with
  | read id now => exact read_sound state sound id now unraced
  | wordRefusal id =>
    rw [step]
    split
    · rename_i now counted found
      exact moved_sound state sound id _ found (by simp)
        (.refused (windowOf state.bound counted (windowEndsAt state.store now) now)) rfl rfl state.store.windowEndsAt
    · exact sound
  | noteEnd id =>
    rw [step]
    split
    · rename_i now found
      exact moved_sound state sound id _ found (by simp) .noted rfl rfl _
    · exact sound
  | incr id =>
    rw [step]
    split
    · rename_i _ _ counted found stored
      exact counted_sound state sound id _ found rfl rfl (counted + 1) (by rw [stored]; rfl)
    · rename_i _ _ found _
      exact moved_sound state sound id _ found (by simp) .missed rfl rfl state.store.windowEndsAt
    · exact sound
  | set id =>
    rw [step]
    split
    · rename_i _ _ found
      have empty : state.store.starts = none := unraced (by rw [found]; rfl)
      exact counted_sound state sound id _ found rfl rfl 1 (by rw [empty]; rfl)
    · exact sound
  | answer id stands =>
    rw [step]
    split
    · rename_i now counted window found
      split
      · exact moved_sound state sound id _ found (by simp)
          (.admitted window (windowOf state.bound counted (windowEndsAt state.store now) now)) rfl rfl state.store.windowEndsAt
      · exact moved_sound state sound id _ found (by simp) (.standingRefused window) rfl rfl state.store.windowEndsAt
    · exact sound
  | expireStarts =>
    rw [step]
    split
    · have later : countedIn (state.window + 1) state = 0 := by
        rw [countedIn, List.countP_eq_zero]
        intro start member counted
        have before := sound.windows start member (state.window + 1) (by simpa using counted)
        omega
      refine ⟨sound.ids, ?_, ?_, ?_, sound.each, sound.none_⟩
      · intro start member window counted
        exact (sound.windows start member window counted).trans (Nat.le_succ _)
      · exact le_of_eq later
      · intro bounded
        have room := sound.room bounded
        show 0 + pending state ≤ state.bound
        omega
    · exact sound
  | expireEnd => exact ⟨sound.ids, sound.windows, sound.current, sound.room, sound.each, sound.none_⟩

theorem sound_within_bound (state : State) (sound : Sound state) : WithinBound state := by
  intro window
  have counted : admittedIn window state ≤ countedIn window state := by
    apply List.countP_mono_left
    intro start _ isAdmitted
    cases phase : start.phase <;> simp [phase, Phase.admittedIn, Phase.countedIn] at isAdmitted ⊢
    exact isAdmitted
  by_cases none_ : state.bound = 0
  · have nobody : admittedIn window state = 0 := by
      rw [admittedIn, List.countP_eq_zero]
      intro start member isAdmitted
      simp [sound.none_ none_ start member, Phase.admittedIn] at isAdmitted
    omega
  · exact counted.trans (sound.each none_ window)

theorem new_seat_sound (bound : Nat) : Sound (newSeat bound) :=
  ⟨by simp [newSeat], by simp [newSeat], by simp [newSeat, countedIn], by simp [newSeat, pending],
    by simp [newSeat, countedIn], by simp [newSeat]⟩

theorem unraced_starts_stay_within_bound (bound : Nat) (events reached : List Event) (stage : reached <+: events)
    (unraced : Along step Unraced (newSeat bound) events) : WithinBound (run step (newSeat bound) reached) :=
  sound_within_bound _ (along_invariant_throughout step Sound Unraced (fun state event sound holds =>
    step_sound state event sound holds) (newSeat bound) events reached (new_seat_sound bound) unraced stage)

-- Two starts that read an empty count before either has counted itself.
def startsAlone (id : Nat) : List Event := [.read id 0, .noteEnd id, .incr id, .set id, .answer id true]

theorem starts_in_turn_stay_within_bound :
    ((run step (newSeat 1) (startsAlone 1 ++ startsAlone 2 ++ [.expireStarts] ++ startsAlone 3)).starts.map (fun start =>
        start.phase.admittedIn)) = [some 0, none, some 1] ∧
      WithinBound (run step (newSeat 1) (startsAlone 1 ++ startsAlone 2 ++ [.expireStarts] ++ startsAlone 3)) :=
  ⟨by decide +kernel, unraced_starts_stay_within_bound 1 _ _ (List.prefix_refl _) (by decide +kernel)⟩

def startsTogether : List Event := [.read 1 0, .read 2 0] ++ (startsAlone 1).drop 1 ++ (startsAlone 2).drop 1

theorem starts_together_overrun : ¬∀ (bound : Nat) (events : List Event), WithinBound (run step (newSeat bound) events) := by
  intro always
  have within := always 1 startsTogether 0
  have two : admittedIn 0 (run step (newSeat 1) startsTogether) = 2 := by decide +kernel
  have one : (run step (newSeat 1) startsTogether).bound = 1 := by decide +kernel
  omega

end Ubb.Work.Admission
