import Ubb.Pricing.Completions

set_option autoImplicit false

-- completed_receipt over the objects it is given: a record's dictionary refers
-- to its parts, a copy of it shares them, and an assignment is seen through
-- every reference.
namespace Ubb.Pricing.Stored

open Library Plain

inductive Slot where
  | value (held : Value)
  | part (address : Nat)

structure Store where
  records : List (List (String × Slot))
  parts : List Dict

def Store.slot (store : Store) : Slot → Option Value
  | .value held => some held
  | .part address => (store.parts[address]?).map .dict

def Store.read (store : Store) : List (String × Slot) → Option Dict
  | [] => some []
  | (key, slot) :: rest => do
    let value ← store.slot slot
    let others ← store.read rest
    some ((key, value) :: others)

def Store.receipt (store : Store) (address : Nat) : Option Dict := (store.records[address]?).bind store.read

-- A statement may raise, and what it did to the objects stays done.
abbrev Run := EStateM Refusal Store

def decided {Answer : Type} (answer : Except Refusal Answer) : Run Answer := fun store =>
  match answer with
  | .ok value => .ok value store
  | .error refusal => .error refusal store

def receiptAt (address : Nat) : Run Dict := fun store =>
  match store.receipt address with
  | some held => .ok held store
  | none => .error (.typeError .null) store

-- dict(record): a new dictionary that refers to the same parts.
def copyRecord (address : Nat) : Run Nat := fun store =>
  match store.records[address]? with
  | some slots => .ok store.records.length { store with records := store.records ++ [slots] }
  | none => .error (.typeError .null) store

def newPart (entries : Dict) : Run Nat := fun store =>
  .ok store.parts.length { store with parts := store.parts ++ [entries] }

-- record[key] = part
def setPart (address : Nat) (key : String) (part : Nat) : Run Unit := fun store =>
  .ok () { store with records := store.records.modify address (fun slots => assign slots key (.part part)) }

-- record[inner][key] = value
def setIn (address : Nat) (inner key : String) (value : Value) : Run Unit := fun store =>
  match (store.records[address]?).bind (fun slots => slots.lookup inner) with
  | some (.part part) =>
    .ok () { store with parts := store.parts.modify part (fun entries => assign entries key value) }
  | _ => .error (.typeError .null) store

def completeNamed (record completing : Nat) (named : String × Resolution) : Run Unit := do
  let held ← receiptAt record
  let rules ← decided (admitCompletion held named)
  let part ← newPart (sectionOf named.2)
  setPart completing named.1 part
  setIn completing "totals" rules.amountKey named.2.amountMicros

def completeEach (record completing : Nat) : List (String × Resolution) → Run Unit
  | [] => pure ()
  | named :: rest => do
    completeNamed record completing named
    completeEach record completing rest

def completedReceipt (record : Nat) (sections : List (String × Resolution)) (provenance : Dict) : Run Nat := do
  let held ← receiptAt record
  let _ ← decided (aReceipt (.dict held))
  let completing ← copyRecord record
  let totals ← decided (subscriptRecord held "totals")
  let copied ← newPart totals
  setPart completing "totals" copied
  completeEach record completing sections
  let held ← receiptAt record
  let recorded ← decided (subscriptRecord held "provenance")
  decided (admitProvenance recorded provenance)
  let merged ← newPart (assignAll recorded provenance)
  setPart completing "provenance" merged
  let completed ← receiptAt completing
  decided (validateReceipt (.dict completed))
  pure completing

def Kept (before after : Store) : Prop := before.records <+: after.records ∧ before.parts <+: after.parts

def ReadsAs (store : Store) (slots : List (String × Slot)) (entries : Dict) : Prop :=
  List.Forall₂ (fun stored entry => stored.1 = entry.1 ∧ store.slot stored.2 = some entry.2) slots entries

theorem read_iff (store : Store) (slots : List (String × Slot)) (entries : Dict) :
    store.read slots = some entries ↔ ReadsAs store slots entries := by
  induction slots generalizing entries with
  | nil =>
    rw [Store.read, ReadsAs, List.forall₂_nil_left_iff, Option.some.injEq]
    exact eq_comm
  | cons stored rest ih =>
    obtain ⟨key, slot⟩ := stored
    rw [Store.read, ReadsAs, List.forall₂_cons_left_iff]
    simp only [Option.bind_eq_bind, Option.bind_eq_some_iff, Option.some.injEq]
    constructor
    · rintro ⟨value, held, others, read, rfl⟩
      exact ⟨(key, value), others, ⟨rfl, held⟩, (ih others).mp read, rfl⟩
    · rintro ⟨entry, others, ⟨same, held⟩, read, rfl⟩
      exact ⟨entry.2, held, others, (ih others).mpr read, by rw [show key = entry.1 from same]⟩

theorem reads_keys (store : Store) (slots : List (String × Slot)) (entries : Dict) (reads : ReadsAs store slots entries) :
    keysOf slots = keysOf entries := by
  induction reads with
  | nil => rfl
  | cons first _ ih => exact congrArg₂ List.cons first.1 ih

theorem reads_member (store : Store) (slots : List (String × Slot)) (entries : Dict) (reads : ReadsAs store slots entries)
    (stored : String × Slot) (member : stored ∈ slots) : ∃ value, store.slot stored.2 = some value := by
  induction reads with
  | nil => cases member
  | cons first _ ih =>
    rcases List.mem_cons.mp member with rfl | later
    · exact ⟨_, first.2⟩
    · exact ih later

theorem prefix_at {Held : Type} (before after : List Held) (kept : before <+: after) (address : Nat) (held : Held)
    (found : before[address]? = some held) : after[address]? = some held := by
  obtain ⟨more, rfl⟩ := kept
  rw [List.getElem?_append_left (List.getElem?_eq_some_iff.mp found).1]
  exact found

theorem slot_kept (before after : Store) (parts : before.parts <+: after.parts) (slot : Slot) (value : Value)
    (held : before.slot slot = some value) : after.slot slot = some value := by
  cases slot with
  | value _ => exact held
  | part address =>
    obtain ⟨entries, found, rfl⟩ := Option.map_eq_some_iff.mp held
    have still := prefix_at _ _ parts address entries found
    rw [Store.slot, still, Option.map_some]

theorem reads_kept (before after : Store) (parts : before.parts <+: after.parts) (slots : List (String × Slot))
    (entries : Dict) (reads : ReadsAs before slots entries) : ReadsAs after slots entries :=
  reads.imp fun _ _ both => ⟨both.1, slot_kept before after parts _ _ both.2⟩

theorem receipt_kept (before after : Store) (kept : Kept before after) (address : Nat) (held : Dict)
    (reads : before.receipt address = some held) : after.receipt address = some held := by
  obtain ⟨slots, found, read⟩ := Option.bind_eq_some_iff.mp reads
  have still := prefix_at _ _ kept.1 address slots found
  rw [Store.receipt, still, Option.bind_some, read_iff]
  exact reads_kept before after kept.2 slots held ((read_iff before slots held).mp read)

theorem reads_assign (store : Store) (slots : List (String × Slot)) (entries : Dict) (reads : ReadsAs store slots entries)
    (key : String) (slot : Slot) (value : Value) (held : store.slot slot = some value) :
    ReadsAs store (assign slots key slot) (assign entries key value) := by
  have keys := reads_keys store slots entries reads
  rw [assign, assign, keys]
  split
  · rw [ReadsAs, List.forall₂_map_left_iff, List.forall₂_map_right_iff]
    refine reads.imp fun stored entry both => ?_
    by_cases same : stored.1 = key
    · rw [if_pos same, if_pos (both.1 ▸ same)]
      exact ⟨rfl, held⟩
    · rw [if_neg same, if_neg (both.1 ▸ same)]
      exact both
  · exact List.rel_append reads (List.Forall₂.cons ⟨rfl, held⟩ List.Forall₂.nil)

theorem reads_write (before after : Store) (front back : List Dict) (old new : Dict)
    (was : before.parts = front ++ old :: back) (now : after.parts = front ++ new :: back) (slots : List (String × Slot))
    (entries : Dict) (reads : ReadsAs before slots entries) (present : "totals" ∈ keysOf entries)
    (refers : ∀ stored ∈ slots, stored.2 = .part front.length ↔ stored.1 = "totals") :
    ReadsAs after slots (assign entries "totals" (.dict new)) := by
  rw [assign_present entries "totals" _ present, ReadsAs, List.forall₂_map_right_iff]
  refine ((List.forall₂_and_left slots entries).mpr ⟨refers, reads⟩).imp fun stored entry ⟨shared, same, held⟩ => ?_
  by_cases isTotals : stored.1 = "totals"
  · have here : after.slot (.part front.length) = some (.dict new) := by
      rw [Store.slot, now]
      simp
    rw [if_pos (same ▸ isTotals), shared.mpr isTotals]
    exact ⟨isTotals, here⟩
  · rw [if_neg (same ▸ isTotals)]
    refine ⟨same, ?_⟩
    cases slot : stored.2 with
    | value _ =>
      rw [slot] at held
      exact held
    | part address =>
      have elsewhere : address ≠ front.length := by
        rintro rfl
        exact isTotals (shared.mp slot)
      rw [slot, Store.slot, was] at held
      rw [Store.slot, now]
      rcases Nat.lt_or_gt_of_ne elsewhere with earlier | later
      · rwa [List.getElem?_append_left earlier] at held ⊢
      · obtain ⟨further, rfl⟩ : ∃ further, address = front.length + 1 + further := ⟨address - front.length - 1, by omega⟩
        rw [List.getElem?_append_right (by omega)] at held ⊢
        have offset : front.length + 1 + further - front.length = further + 1 := by omega
        rw [offset, List.getElem?_cons_succ] at held ⊢
        exact held

theorem modify_last {Held : Type} (front back : List Held) (last : Held) (change : Held → Held) :
    (front ++ last :: back).modify front.length change = front ++ change last :: back := by
  induction front with
  | nil => rfl
  | cons first rest ih =>
    rw [List.cons_append, List.length_cons, List.modify_succ_cons, ih]
    rfl

theorem run_ok {In Out : Type} (first : Run In) (next : In → Run Out) (store after : Store) (value : In)
    (ran : first store = .ok value after) : (first >>= next) store = next value after := by
  change EStateM.bind first next store = next value after
  rw [EStateM.bind, ran]

theorem run_error {In Out : Type} (first : Run In) (next : In → Run Out) (store after : Store) (refusal : Refusal)
    (ran : first store = .error refusal after) : (first >>= next) store = .error refusal after := by
  change EStateM.bind first next store = .error refusal after
  rw [EStateM.bind, ran]

theorem decided_ok {Answer : Type} (answer : Except Refusal Answer) (value : Answer) (same : answer = .ok value)
    (store : Store) : decided answer store = .ok value store := by rw [same, decided]

theorem decided_error {Answer : Type} (answer : Except Refusal Answer) (refusal : Refusal) (same : answer = .error refusal)
    (store : Store) : decided answer store = .error refusal store := by rw [same, decided]

structure Mirrors (before store : Store) (held : Dict) (completing : Completing) : Prop where
  slots : ∃ slots, store.records = before.records ++ [slots] ∧ ReadsAs store slots completing.entries ∧
    ∀ stored ∈ slots, stored.2 = .part before.parts.length ↔ stored.1 = "totals"
  parts : ∃ more, store.parts = before.parts ++ completing.totals :: more
  keys : keysOf completing.record = keysOf held

theorem Mirrors.kept {before store : Store} {held : Dict} {completing : Completing}
    (mirrors : Mirrors before store held completing) : Kept before store := by
  obtain ⟨slots, records, _⟩ := mirrors.slots
  obtain ⟨more, parts⟩ := mirrors.parts
  exact ⟨records ▸ List.prefix_append _ _, parts ▸ List.prefix_append _ _⟩

theorem entries_put (completing : Completing) (rules : SectionRules) (named : String × Resolution)
    (apart : named.1 ≠ "totals") (hasTotals : "totals" ∈ keysOf completing.record)
    (present : named.1 ∈ keysOf completing.record) :
    assign (assign completing.entries named.1 (.dict (sectionOf named.2))) "totals"
        (.dict (assign completing.totals rules.amountKey named.2.amountMicros)) =
      (putSection completing rules named).entries := by
  have still : "totals" ∈ keysOf (assign completing.record named.1 (.dict (sectionOf named.2))) := by
    rwa [assign_present_keys _ _ _ present]
  rw [Completing.entries, assign_comm _ _ _ _ _ apart.symm hasTotals present, assign_twice _ _ _ _ still]
  rfl

theorem complete_named_runs (before store : Store) (record : Nat) (held : Dict) (completing : Completing)
    (named : String × Resolution) (reads : before.receipt record = some held) (hasTotals : "totals" ∈ keysOf held)
    (mirrors : Mirrors before store held completing) :
    match completeSection held completing named with
    | .ok next => ∃ after, completeNamed record before.records.length named store = .ok () after ∧
        Mirrors before after held next
    | .error refusal => completeNamed record before.records.length named store = .error refusal store := by
  have still := receipt_kept before store mirrors.kept record held reads
  have first : receiptAt record store = .ok held store := by rw [receiptAt, still]
  rw [completeSection, completeNamed, run_ok _ _ store store held first]
  cases admission : admitCompletion held named with
  | error refusal => exact run_error _ _ store store refusal (decided_error _ refusal rfl store)
  | ok rules =>
    have admitted := (admit_ok held named rules).mp admission
    obtain ⟨_, was, _⟩ := admitted.was
    have apart := (ruled_amount named.1 rules admitted.ruled).2.2.1
    have inHeld := held_key held named.1 _ was
    obtain ⟨slots, records, readsNow, refers⟩ := mirrors.slots
    obtain ⟨more, parts⟩ := mirrors.parts
    have keys := mirrors.keys
    let part := store.parts.length
    let grown : Store := { store with parts := store.parts ++ [sectionOf named.2] }
    let changed := assign slots named.1 (.part part)
    let placed : Store := { grown with records := before.records ++ [changed] }
    let totals := assign completing.totals rules.amountKey named.2.amountMicros
    let after : Store := { placed with parts := before.parts ++ totals :: (more ++ [sectionOf named.2]) }
    have placing : setPart before.records.length named.1 part grown = .ok () placed := by
      simp only [setPart, grown, placed, records]
      rw [modify_last before.records [] slots]
    have placedParts : placed.parts = before.parts ++ completing.totals :: (more ++ [sectionOf named.2]) := by
      simp only [placed, grown, parts, List.append_assoc, List.cons_append]
    have refersStill : ∀ stored ∈ changed, stored.2 = .part before.parts.length ↔ stored.1 = "totals" := by
      intro stored member
      rcases (mem_assign slots named.1 (.part part) stored).mp member with rfl | ⟨old, _⟩
      · have fresh : part ≠ before.parts.length := by
          simp only [part, parts, List.length_append, List.length_cons]
          omega
        simp [fresh, apart]
      · exact refers stored old
    have readsPlaced : ReadsAs placed changed (assign completing.entries named.1 (.dict (sectionOf named.2))) := by
      apply reads_assign placed slots _ (reads_kept store placed (List.prefix_append _ _) slots _ readsNow)
      simp only [Store.slot, placed, grown, part, List.getElem?_concat_length, Option.map_some]
    have entriesKeys : keysOf completing.entries = keysOf held :=
      (assign_present_keys _ _ _ (keys ▸ hasTotals)).trans keys
    have hasCopied : "totals" ∈ keysOf (assign completing.entries named.1 (.dict (sectionOf named.2))) := by
      rw [assign_present_keys _ _ _ (entriesKeys ▸ inHeld), entriesKeys]
      exact hasTotals
    have lookedUp : changed.lookup "totals" = some (.part before.parts.length) := by
      rw [← reads_keys placed changed _ readsPlaced] at hasCopied
      obtain ⟨slot, found⟩ := (key_iff_lookup changed "totals").mp hasCopied
      rw [found, ← (refersStill ("totals", slot) (entry_of_lookup changed "totals" slot found)).mpr rfl]
    have writing : setIn before.records.length "totals" rules.amountKey named.2.amountMicros placed = .ok () after := by
      have here : placed.records[before.records.length]? = some changed := by
        simp only [placed, List.getElem?_concat_length]
      rw [setIn, here, Option.bind_some, lookedUp]
      simp only [placedParts, modify_last, after, totals]
    refine ⟨after, ?_, ?_⟩
    · rw [run_ok _ _ store store rules (decided_ok _ rules rfl store), run_ok _ _ store grown part rfl,
        run_ok _ _ grown placed () placing]
      exact writing
    · refine ⟨⟨changed, rfl, ?_, refersStill⟩, ⟨_, rfl⟩, ?_⟩
      · rw [← entries_put completing rules named apart (keys ▸ hasTotals) (keys ▸ inHeld)]
        exact reads_write placed after before.parts (more ++ [sectionOf named.2]) completing.totals totals placedParts rfl changed _
          readsPlaced hasCopied refersStill
      · rw [← keys]
        exact assign_present_keys _ _ _ (keys ▸ inHeld)

theorem complete_each_runs (before : Store) (record : Nat) (held : Dict) (reads : before.receipt record = some held)
    (hasTotals : "totals" ∈ keysOf held) (sections : List (String × Resolution)) (store : Store) (completing : Completing)
    (mirrors : Mirrors before store held completing) :
    match sections.foldlM (completeSection held) completing with
    | .ok done => ∃ after, completeEach record before.records.length sections store = .ok () after ∧
        Mirrors before after held done
    | .error refusal => ∃ after, completeEach record before.records.length sections store = .error refusal after ∧
        Kept before after := by
  induction sections generalizing store completing with
  | nil => exact ⟨store, rfl, mirrors⟩
  | cons named rest ih =>
    have step := complete_named_runs before store record held completing named reads hasTotals mirrors
    rw [List.foldlM_cons]
    cases completed : completeSection held completing named with
    | error refusal =>
      rw [completed] at step
      exact ⟨store, run_error _ _ store store refusal step, mirrors.kept⟩
    | ok next =>
      rw [completed] at step
      obtain ⟨after, ran, mirrorsNext⟩ := step
      have later := ih after next mirrorsNext
      have unfolded : completeEach record before.records.length (named :: rest) store =
          completeEach record before.records.length rest after := run_ok _ _ store after () ran
      rw [ok_bind, unfolded]
      exact later

theorem completed_receipt_runs (before : Store) (record : Nat) (held : Dict) (reads : before.receipt record = some held)
    (valid : validateReceipt (.dict held) = .ok ()) (sections : List (String × Resolution)) (provenance : Dict) :
    match completedRecord (.dict held) sections provenance with
    | .ok completed => ∃ made after, completedReceipt record sections provenance before = .ok made after ∧
        Kept before after ∧ after.receipt made = some completed
    | .error refusal => ∃ after, completedReceipt record sections provenance before = .error refusal after ∧
        Kept before after := by
  obtain ⟨totals, _, recorded, shaped, heldTotals, heldProvenance⟩ := held_parts held valid
  have guard := a_receipt_valid held valid
  have hasTotals := held_key held "totals" _ heldTotals
  have takesTotals := (subscript_record_ok held "totals" totals).mpr heldTotals
  have takesProvenance := (subscript_record_ok held "provenance" recorded).mpr heldProvenance
  obtain ⟨slots, found, read⟩ := Option.bind_eq_some_iff.mp reads
  have readsBefore := (read_iff before slots held).mp read
  let copied : Store := { before with records := before.records ++ [slots] }
  let grown : Store := { copied with parts := before.parts ++ [totals] }
  let start : Store := { grown with records := before.records ++ [assign slots "totals" (.part before.parts.length)] }
  have copying : copyRecord record before = .ok before.records.length copied := by rw [copyRecord, found]
  have placing : setPart before.records.length "totals" before.parts.length grown = .ok () start := by
    simp only [setPart, grown, copied, start, modify_last before.records [] slots]
  have mirrors : Mirrors before start held ⟨held, totals⟩ := by
    refine ⟨⟨_, rfl, ?_, ?_⟩, ⟨[], rfl⟩, rfl⟩
    · apply reads_assign start slots held (reads_kept before start (List.prefix_append _ _) slots held readsBefore)
      simp only [Store.slot, start, grown, List.getElem?_concat_length, Option.map_some]
    · intro stored member
      rcases (mem_assign _ _ _ stored).mp member with rfl | ⟨old, apart⟩
      · simp
      · obtain ⟨value, valued⟩ := reads_member before slots held readsBefore stored old
        have dangling : stored.2 ≠ .part before.parts.length := by
          intro same
          rw [same, Store.slot, List.getElem?_eq_none (Nat.le_refl _)] at valued
          cases valued
        simp [dangling, apart]
  have eachRan := complete_each_runs before record held reads hasTotals sections start ⟨held, totals⟩ mirrors
  have opening : ∀ rest : Nat → Run Nat, (do
      let held ← receiptAt record
      let _ ← decided (aReceipt (.dict held))
      let completing ← copyRecord record
      let totals ← decided (subscriptRecord held "totals")
      let part ← newPart totals
      setPart completing "totals" part
      rest completing : Run Nat) before = rest before.records.length start := by
    intro rest
    rw [run_ok _ _ before before held (by rw [receiptAt, reads]), run_ok _ _ before before held (decided_ok _ held guard before),
      run_ok _ _ before copied _ copying, run_ok _ _ copied copied totals (decided_ok _ totals takesTotals copied),
      run_ok _ _ copied grown _ rfl, run_ok _ _ grown start () placing]
  have recordNow : ∀ store, Kept before store → receiptAt record store = .ok held store := by
    intro store kept
    rw [receiptAt, receipt_kept before store kept record held reads]
  rw [completedReceipt, opening]
  simp only [completedRecord, guard, ok_bind, takesTotals, takesProvenance]
  cases folded : sections.foldlM (completeSection held) ⟨held, totals⟩ with
  | error refusal =>
    rw [folded] at eachRan
    obtain ⟨after, ran, kept⟩ := eachRan
    exact ⟨after, run_error _ _ start after refusal ran, kept⟩
  | ok done =>
    rw [folded] at eachRan
    obtain ⟨after, ran, mirrorsDone⟩ := eachRan
    have kept := mirrorsDone.kept
    rw [run_ok _ _ start after () ran, run_ok _ _ after after held (recordNow after kept),
      run_ok _ _ after after recorded (decided_ok _ recorded takesProvenance after), ok_bind]
    cases additive : admitProvenance recorded provenance with
    | error refusal =>
      exact ⟨after, run_error _ _ after after refusal (decided_error _ refusal rfl after), kept⟩
    | ok passed =>
      obtain ⟨last, records, readsLast, _⟩ := mirrorsDone.slots
      let merged : Store := { after with parts := after.parts ++ [assignAll recorded provenance] }
      let final : Store :=
        { merged with records := before.records ++ [assign last "provenance" (.part after.parts.length)] }
      have placed : setPart before.records.length "provenance" after.parts.length merged = .ok () final := by
        simp only [setPart, merged, final, records, modify_last before.records [] last]
      have readsFinal : final.receipt before.records.length =
          some (assign done.entries "provenance" (.dict (assignAll recorded provenance))) := by
        have here : final.records[before.records.length]? =
            some (assign last "provenance" (.part after.parts.length)) := by
          simp only [final, List.getElem?_concat_length]
        rw [Store.receipt, here, Option.bind_some, read_iff]
        apply reads_assign final last _ (reads_kept after final (List.prefix_append _ _) last _ readsLast)
        simp only [Store.slot, final, merged, List.getElem?_concat_length, Option.map_some]
      have keptFinal : Kept before final :=
        ⟨List.prefix_append _ _, kept.2.trans (List.prefix_append _ _)⟩
      have completedNow : receiptAt before.records.length final =
          .ok (assign done.entries "provenance" (.dict (assignAll recorded provenance))) final := by
        rw [receiptAt, readsFinal]
      rw [ok_bind, run_ok _ _ after after passed (decided_ok _ passed rfl after), run_ok _ _ after merged _ rfl,
        run_ok _ _ merged final () placed, run_ok _ _ final final _ completedNow]
      cases checked : validateReceipt (.dict (assign done.entries "provenance" (.dict (assignAll recorded provenance)))) with
      | error refusal =>
        exact ⟨final, run_error _ _ final final refusal (decided_error _ refusal rfl final), keptFinal⟩
      | ok shapedNow =>
        refine ⟨before.records.length, final, ?_, keptFinal, readsFinal⟩
        rw [run_ok _ _ final final shapedNow (decided_ok _ shapedNow rfl final)]
        rfl

def Answers (result : EStateM.Result Refusal Store Nat) (completed : Dict) : Prop :=
  ∃ made after, result = .ok made after ∧ after.receipt made = some completed

def Refused (result : EStateM.Result Refusal Store Nat) : Prop := ∃ refusal after, result = .error refusal after

def storeAfter : EStateM.Result Refusal Store Nat → Store
  | .ok _ after => after
  | .error _ after => after

def inTurn (record : Nat) (first second : String × Resolution) (provenance : Dict) : Run Nat := do
  let middle ← completedReceipt record [first] provenance
  completedReceipt middle [second] provenance

section

variable (before : Store) (record : Nat) (held : Dict) (reads : before.receipt record = some held)
  (valid : validateReceipt (.dict held) = .ok ())

include reads valid

theorem answers_iff (sections : List (String × Resolution)) (provenance completed : Dict) :
    Answers (completedReceipt record sections provenance before) completed ↔
      completedRecord (.dict held) sections provenance = .ok completed := by
  have runs := completed_receipt_runs before record held reads valid sections provenance
  cases answered : completedRecord (.dict held) sections provenance with
  | error refusal =>
    rw [answered] at runs
    obtain ⟨after, ran, _⟩ := runs
    rw [ran]
    exact ⟨fun ⟨_, _, impossible, _⟩ => (nomatch impossible), fun impossible => (nomatch impossible)⟩
  | ok done =>
    rw [answered] at runs
    obtain ⟨made, after, ran, _, read⟩ := runs
    rw [ran]
    constructor
    · rintro ⟨_, _, same, readAgain⟩
      cases same
      rw [read] at readAgain
      rw [Option.some.inj readAgain]
    · intro same
      rw [← Except.ok.inj same]
      exact ⟨made, after, rfl, read⟩

theorem record_kept (sections : List (String × Resolution)) (provenance : Dict) :
    Kept before (storeAfter (completedReceipt record sections provenance before)) := by
  have runs := completed_receipt_runs before record held reads valid sections provenance
  cases answered : completedRecord (.dict held) sections provenance with
  | error refusal =>
    rw [answered] at runs
    obtain ⟨after, ran, kept⟩ := runs
    rw [ran]
    exact kept
  | ok done =>
    rw [answered] at runs
    obtain ⟨made, after, ran, kept, _⟩ := runs
    rw [ran]
    exact kept

theorem refused_iff (sections : List (String × Resolution)) (provenance : Dict) :
    Refused (completedReceipt record sections provenance before) ↔
      ∀ completed, completedRecord (.dict held) sections provenance ≠ .ok completed := by
  have runs := completed_receipt_runs before record held reads valid sections provenance
  cases answered : completedRecord (.dict held) sections provenance with
  | error refusal =>
    rw [answered] at runs
    obtain ⟨after, ran, _⟩ := runs
    rw [ran]
    exact ⟨fun _ _ impossible => (nomatch impossible), fun _ => ⟨refusal, after, rfl⟩⟩
  | ok done =>
    rw [answered] at runs
    obtain ⟨made, after, ran, _⟩ := runs
    rw [ran]
    exact ⟨fun ⟨_, _, impossible⟩ => (nomatch impossible), fun impossible => absurd rfl (impossible done)⟩

theorem in_turn_answers (first second : String × Resolution) (provenance completed : Dict) :
    Answers (inTurn record first second provenance before) completed ↔
      ∃ middle, completedRecord (.dict held) [first] provenance = .ok middle ∧
        completedRecord (.dict middle) [second] provenance = .ok completed := by
  have runs := completed_receipt_runs before record held reads valid [first] provenance
  cases answered : completedRecord (.dict held) [first] provenance with
  | error refusal =>
    rw [answered] at runs
    obtain ⟨after, ran, _⟩ := runs
    rw [inTurn, run_error _ _ before after refusal ran]
    exact ⟨fun ⟨_, _, impossible, _⟩ => (nomatch impossible), fun ⟨_, impossible, _⟩ => (nomatch impossible)⟩
  | ok middle =>
    rw [answered] at runs
    obtain ⟨made, after, ran, _, read⟩ := runs
    obtain ⟨_, _, done⟩ := (completed_ok held valid [first] provenance middle).mp answered
    rw [inTurn, run_ok _ _ before after made ran, answers_iff after made middle read done.valid]
    constructor
    · intro next
      exact ⟨middle, rfl, next⟩
    · rintro ⟨_, same, next⟩
      cases same
      exact next

end

structure OnlyWhatWasOpen (held : Dict) (sections : List (String × Resolution)) (provenance completed : Dict) : Prop where
  admitted : ∀ named ∈ sections, ∃ rules, Admitted held rules named
  valid : validateReceipt (.dict completed) = .ok ()
  completedSections : ∀ named ∈ sections, completed.lookup named.1 = some (.dict (sectionOf named.2))
  elsewhere : ∀ key, key ∉ keysOf sections → key ≠ "totals" → key ≠ "provenance" →
    completed.lookup key = held.lookup key
  totals : ∃ was now, held.lookup "totals" = some (.dict was) ∧ completed.lookup "totals" = some (.dict now) ∧
    (∀ named ∈ sections, ∀ rules, rulesOf named.1 = some rules →
      now.lookup rules.amountKey = some named.2.amountMicros) ∧
    ∀ key, (∀ named ∈ sections, ∀ rules, rulesOf named.1 = some rules → key ≠ rules.amountKey) →
      now.lookup key = was.lookup key
  provenance : ∃ recorded merged, held.lookup "provenance" = some (.dict recorded) ∧
    completed.lookup "provenance" = some (.dict merged) ∧
    (∀ key value, recorded.lookup key = some value → ∃ still, merged.lookup key = some still ∧ value.same still = true) ∧
    ∀ key, key ∉ keysOf recorded → merged.lookup key = provenance.lookup key

theorem completed_only_what_was_open (held totals recorded : Dict) (formed : (Value.dict held).WellFormed)
    (sections : List (String × Resolution)) (distinct : (keysOf sections).Nodup) (provenance completed : Dict)
    (provenanceFormed : (Value.dict provenance).WellFormed)
    (done : Completed held totals recorded sections provenance completed) :
    OnlyWhatWasOpen held sections provenance completed := by
  obtain ⟨heldTotals, heldProvenance, admitted, additive, rfl, valid⟩ := done
  have ruled : ∀ named ∈ sections, ∃ rules, rulesOf named.1 = some rules := by
    intro named member
    obtain ⟨rules, its⟩ := admitted named member
    exact ⟨rules, its.ruled⟩
  refine ⟨admitted, valid, ?_, ?_, ⟨_, _, heldTotals, completed_totals _ _ _ _ _, ?_, ?_⟩,
    ⟨_, _, heldProvenance, completed_provenance _ _ _ _ _, ?_, ?_⟩⟩
  · intro named member
    obtain ⟨rules, its⟩ := ruled named member
    have names := ruled_amount named.1 rules its
    rw [completed_elsewhere _ _ _ _ _ _ names.2.2.1 names.2.2.2]
    exact (fold_named sections ⟨held, totals⟩ distinct ruled named member rules its).1
  · intro key apart notTotals notProvenance
    rw [completed_elsewhere _ _ _ _ _ key notTotals notProvenance]
    exact fold_other sections ⟨held, totals⟩ key apart
  · intro named member rules its
    exact (fold_named sections ⟨held, totals⟩ distinct ruled named member rules its).2
  · intro key apart
    exact fold_total_other sections ⟨held, totals⟩ key apart
  · intro key value found
    rw [lookup_assign_all recorded provenance provenanceFormed.1]
    cases given : provenance.lookup key with
    | none =>
      have recordedFormed := entries_well_formed held formed.2 "provenance" _ heldProvenance
      exact ⟨value, by rw [found]; rfl, same_self value (entries_well_formed recorded recordedFormed.2 key value found)⟩
    | some now => exact ⟨now, rfl, additive (key, now) (entry_of_lookup provenance key now given) value found⟩
  · intro key absent
    rw [lookup_assign_all recorded provenance provenanceFormed.1, no_key_no_value recorded key absent, Option.or_none]

theorem completion_changes_only_what_was_open (before : Store) (record : Nat) (held : Dict)
    (reads : before.receipt record = some held) (valid : validateReceipt (.dict held) = .ok ())
    (formed : (Value.dict held).WellFormed) (provenance : Dict) (provenanceFormed : (Value.dict provenance).WellFormed) :
    (∀ sections : List (String × Resolution), (keysOf sections).Nodup →
      (∀ completed, Answers (completedReceipt record sections provenance before) completed →
        OnlyWhatWasOpen held sections provenance completed) ∧
      (∀ named ∈ sections, ∀ part, held.lookup named.1 = some (.dict part) →
        part.lookup "status" = some (.text "waived") ∨ part.lookup "status" = some (.text "not_applicable") →
          Refused (completedReceipt record sections provenance before)) ∧
      (∀ recorded key value given, held.lookup "provenance" = some (.dict recorded) → recorded.lookup key = some value →
        provenance.lookup key = some given → value.same given = false →
          Refused (completedReceipt record sections provenance before)) ∧
      Kept before (storeAfter (completedReceipt record sections provenance before)) ∧
      (storeAfter (completedReceipt record sections provenance before)).receipt record = some held) ∧
    ∀ costing pricing : Resolution, ∀ completed,
      (Answers (inTurn record ("costing", costing) ("pricing", pricing) provenance before) completed ↔
        Answers (completedReceipt record [("costing", costing), ("pricing", pricing)] provenance before) completed) ∧
      (Answers (inTurn record ("pricing", pricing) ("costing", costing) provenance before) completed ↔
        Answers (completedReceipt record [("costing", costing), ("pricing", pricing)] provenance before) completed) ∧
      (Answers (completedReceipt record [("pricing", pricing), ("costing", costing)] provenance before) completed ↔
        Answers (completedReceipt record [("costing", costing), ("pricing", pricing)] provenance before) completed) := by
  constructor
  · intro sections distinct
    have kept := record_kept before record held reads valid sections provenance
    refine ⟨?_, ?_, ?_, kept, receipt_kept before _ kept record held reads⟩
    · intro completed answers
      obtain ⟨totals, recorded, done⟩ := (completed_ok held valid sections provenance completed).mp
        ((answers_iff before record held reads valid sections provenance completed).mp answers)
      exact completed_only_what_was_open held totals recorded formed sections distinct provenance completed provenanceFormed
        done
    · intro named member part was decidedStatus
      rw [refused_iff before record held reads valid]
      intro completed answered
      obtain ⟨_, _, done⟩ := (completed_ok held valid sections provenance completed).mp answered
      obtain ⟨rules, admitted⟩ := done.admitted named member
      obtain ⟨part', was', status⟩ := admitted.was
      obtain rfl := Value.dict.inj (Option.some.inj (was.symm.trans was'))
      rw [status] at decidedStatus
      rcases (rules_of_name named.1 rules).mp admitted.ruled with ⟨_, rfl⟩ | ⟨_, rfl⟩ <;> simp [costingRules, pricingRules] at decidedStatus
    · intro recorded key value given heldProvenance found added changed
      rw [refused_iff before record held reads valid]
      intro completed answered
      obtain ⟨_, recorded', done⟩ := (completed_ok held valid sections provenance completed).mp answered
      obtain rfl := Value.dict.inj (Option.some.inj (heldProvenance.symm.trans done.heldProvenance))
      have same := done.additive (key, given) (entry_of_lookup provenance key given added) value found
      rw [changed] at same
      cases same
  · intro costing pricing completed
    have names : "costing" ≠ "pricing" := by decide
    have apart : ("costing", costing).1 ≠ ("pricing", pricing).1 := names
    have swapped := swapped_iff held valid formed ("costing", costing) ("pricing", pricing) apart provenance completed
    rw [in_turn_answers before record held reads valid, in_turn_answers before record held reads valid,
      answers_iff before record held reads valid, answers_iff before record held reads valid]
    refine ⟨?_, ?_, swapped.symm⟩
    · exact in_turn_iff held valid formed _ _ apart provenance provenanceFormed completed
    · exact (in_turn_iff held valid formed _ _ apart.symm provenance provenanceFormed completed).trans swapped.symm

-- A usage row's receipt with both amounts open, as recording stores it.
def openParts : List Dict :=
  [[("method", .null), ("status", .text "unresolved"), ("detail", .dict [("components", .list [])])],
    [("method", .null), ("status", .text "unknown"), ("detail", .dict [])],
    [("provider_cost_micros", .null), ("billed_cost_micros", .null)],
    [("cost_rate_ids", .dict [])]]

def openStore : Store where
  records :=
    [[("receipt_schema_version", .value (.int 2)), ("pricing_engine_version", .value (.text "3.0.0")),
      ("subject_type", .value (.text "usage_event")), ("subject_id", .value (.text "e1")),
      ("effective_at", .value (.text "2026-01-01T00:00:00+00:00")), ("currency", .value (.text "usd")),
      ("costing", .part 0), ("pricing", .part 1), ("totals", .part 2), ("provenance", .part 3)]]
  parts := openParts

def openReceipt : Dict :=
  [("receipt_schema_version", .int 2), ("pricing_engine_version", .text "3.0.0"), ("subject_type", .text "usage_event"),
    ("subject_id", .text "e1"), ("effective_at", .text "2026-01-01T00:00:00+00:00"), ("currency", .text "usd")] ++
    ["costing", "pricing", "totals", "provenance"].zip (openParts.map .dict)

def suppliedCost : Resolution := ⟨.text "reported", .text "known", .int 40, .dict []⟩

def agreedPrice : Resolution := ⟨.text "direct_event_price", .text "known", .int 90, .dict []⟩

def resolvingRun : Dict := [("resolution_run_id", .text "r1")]

theorem open_receipt_completed :
    ∃ completed, Answers (completedReceipt 0 [("costing", suppliedCost), ("pricing", agreedPrice)] resolvingRun openStore)
        completed ∧
      OnlyWhatWasOpen openReceipt [("costing", suppliedCost), ("pricing", agreedPrice)] resolvingRun completed ∧
      Answers (inTurn 0 ("pricing", agreedPrice) ("costing", suppliedCost) resolvingRun openStore) completed := by
  have formed : (Value.dict openReceipt).WellFormed := by
    refine ⟨by decide, ?_⟩
    simp [openReceipt, openParts, EntriesWellFormed, Value.WellFormed, ItemsWellFormed, keysOf]
  have given : (Value.dict resolvingRun).WellFormed := by
    refine ⟨by decide, ?_⟩
    simp [resolvingRun, EntriesWellFormed, Value.WellFormed]
  have both := completion_changes_only_what_was_open openStore 0 openReceipt rfl rfl formed resolvingRun given
  have answered : ∃ completed, Answers
      (completedReceipt 0 [("costing", suppliedCost), ("pricing", agreedPrice)] resolvingRun openStore) completed :=
    ⟨_, _, _, rfl, rfl⟩
  obtain ⟨completed, answers⟩ := answered
  have whole := (both.1 [("costing", suppliedCost), ("pricing", agreedPrice)] (by decide)).1 completed answers
  exact ⟨completed, answers, whole, (both.2 suppliedCost agreedPrice completed).2.1.mpr answers⟩

end Ubb.Pricing.Stored
