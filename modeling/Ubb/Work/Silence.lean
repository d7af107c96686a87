import Ubb.Work.Sweeps

set_option autoImplicit false

namespace Ubb.Work.Sweeps

open Ubb.Library

theorem declaring_iff (declaration : Declaration) (task : TaskRow) :
    declaring declaration task = true ↔ declaration = declarationOf task := by
  obtain ⟨kind, key⟩ := declaration
  obtain ⟨id, parent, taskType, createdAt, status, reasonCode, lastEventAt, events⟩ := task
  rw [declaring, Bool.and_eq_true, decide_eq_true_eq, eq_comm]
  cases kind <;> cases parent <;> simp [declarationOf]

-- The filter over the table and the pair a reason is named from are one
-- reading of the ladder.
theorem past_a_window_eq (windows : Ladder) (now : Int) (task : TaskRow) :
    pastAWindow windows now task = elapsed (windowsOfAUnit windows task) now task := by
  unfold pastAWindow windowsOfAUnit
  cases found : windows.declared.find? (fun entry => entry.1 = declarationOf task) with
  | none =>
    have missing : ∀ entry ∈ windows.declared, declaring entry.1 task = false := by
      intro entry member
      have missed := List.find?_eq_none.mp found entry member
      rw [← Bool.not_eq_true, declaring_iff]
      simpa using missed
    have undeclared : windows.declared.any (fun entry => declaring entry.1 task) = false := by
      rw [List.any_eq_false]
      intro entry member
      simp [missing entry member]
    have unelapsed : windows.declared.any (fun entry => declaring entry.1 task && elapsed entry.2 now task) = false := by
      rw [List.any_eq_false]
      intro entry member
      simp [missing entry member]
    simp [undeclared, unelapsed]
  | some entry =>
    have member := List.mem_of_find?_eq_some found
    have named : entry.1 = declarationOf task := by simpa using List.find?_some found
    have declared : windows.declared.any (fun entry => declaring entry.1 task) = true :=
      List.any_eq_true.mpr ⟨entry, member, (declaring_iff entry.1 task).mpr named⟩
    have only : windows.declared.any (fun entry => declaring entry.1 task && elapsed entry.2 now task) =
        elapsed entry.2 now task := by
      rw [Bool.eq_iff_iff, List.any_eq_true]
      constructor
      · rintro ⟨other, otherMember, both⟩
        rw [Bool.and_eq_true, declaring_iff] at both
        have same := List.inj_on_of_nodup_map windows.distinct otherMember member (both.1.trans named.symm)
        exact same ▸ both.2
      · intro ran
        exact ⟨entry, member, by rw [Bool.and_eq_true, declaring_iff]; exact ⟨named, ran⟩⟩
    simp [declared, only]

def Heard (row : TaskRow) : Prop := ∀ stamp ∈ row.events, ∃ last, row.lastEventAt = some last ∧ stamp ≤ last

def Grown (before after : List TaskRow) : Prop :=
  ∀ row ∈ before, ∃ later ∈ after, later.id = row.id ∧ row.events <+: later.events

structure ReadSound (clock : Int) (tasks : List TaskRow) (sweep : Sweep) : Prop where
  now : sweep.now ≤ clock
  heard : ∀ row ∈ sweep.candidates, Heard row
  past : ∀ row ∈ sweep.candidates, row.lastEventAt = none ∨ pastAWindow sweep.windows sweep.now row = true
  grown : Grown sweep.candidates tasks

-- The lock orders the stamps of a row, so its heartbeat is its latest one.
structure Sound (tenant : Tenant) : Prop where
  ids : (tenant.tasks.map TaskRow.id).Nodup
  heard : ∀ row ∈ tenant.tasks, Heard row
  past : ∀ row ∈ tenant.tasks, ∀ last, row.lastEventAt = some last → last ≤ tenant.clock
  stamps : ∀ report ∈ tenant.reports, report.stamp ≤ tenant.clock
  ordered : ∀ report ∈ tenant.reports, ∀ row ∈ tenant.tasks, row.id ∈ report.rows → ∀ last, row.lastEventAt = some last →
    last ≤ report.stamp
  apart : ∀ first ∈ tenant.reports, ∀ second ∈ tenant.reports, first ≠ second → List.Disjoint first.rows second.rows
  sweeps : ∀ sweep ∈ tenant.sweeps, ReadSound tenant.clock tenant.tasks sweep

theorem grown_trans (first second third : List TaskRow) (front : Grown first second) (back : Grown second third) :
    Grown first third := by
  intro row member
  obtain ⟨middle, middleMember, middleId, middleEvents⟩ := front row member
  obtain ⟨last, lastMember, lastId, lastEvents⟩ := back middle middleMember
  exact ⟨last, lastMember, lastId.trans middleId, middleEvents.trans lastEvents⟩

theorem grown_refl (rows : List TaskRow) : Grown rows rows :=
  fun row member => ⟨row, member, rfl, List.prefix_rfl⟩

theorem grown_map (write : TaskRow → TaskRow) (rows : List TaskRow)
    (keeps : ∀ row, (write row).id = row.id ∧ row.events <+: (write row).events) : Grown rows (rows.map write) :=
  fun row member => ⟨write row, List.mem_map_of_mem member, (keeps row).1, (keeps row).2⟩

theorem read_sound_later (clock after : Int) (tasks moved : List TaskRow) (sweep : Sweep) (read : ReadSound clock tasks sweep)
    (later : clock ≤ after) (grown : Grown tasks moved) : ReadSound after moved sweep :=
  ⟨read.now.trans later, read.heard, read.past, grown_trans sweep.candidates tasks moved read.grown grown⟩

theorem task_member (tenant : Tenant) (id : Uuid) (row : TaskRow) (found : tenant.task id = some row) :
    row ∈ tenant.tasks ∧ row.id = id :=
  find_key_some TaskRow.id id tenant.tasks row found

theorem map_ids (write : TaskRow → TaskRow) (rows : List TaskRow) (keeps : ∀ row, (write row).id = row.id) :
    (rows.map write).map TaskRow.id = rows.map TaskRow.id := by
  rw [List.map_map]
  exact List.map_congr_left (fun row _ => keeps row)

theorem quiet_sound (tenant : Tenant) (sound : Sound tenant) (write : TaskRow → TaskRow)
    (keeps : ∀ row, (write row).id = row.id ∧ (write row).lastEventAt = row.lastEventAt ∧ (write row).events = row.events) :
    Sound { tenant with tasks := tenant.tasks.map write } := by
  have origin : ∀ row ∈ tenant.tasks.map write, ∃ before ∈ tenant.tasks,
      row.id = before.id ∧ row.lastEventAt = before.lastEventAt ∧ row.events = before.events := by
    intro row member
    obtain ⟨before, stored, rfl⟩ := List.mem_map.mp member
    exact ⟨before, stored, keeps before⟩
  refine ⟨?_, ?_, ?_, sound.stamps, ?_, sound.apart, ?_⟩
  · rw [map_ids write tenant.tasks (fun row => (keeps row).1)]
    exact sound.ids
  · intro row member stamp stamped
    obtain ⟨before, stored, _, last, events⟩ := origin row member
    rw [last]
    exact sound.heard before stored stamp (events ▸ stamped)
  · intro row member last stamped
    obtain ⟨before, stored, _, same, _⟩ := origin row member
    exact sound.past before stored last (same ▸ stamped)
  · intro report listed row member holds last stamped
    obtain ⟨before, stored, id, same, _⟩ := origin row member
    exact sound.ordered report listed before stored (id ▸ holds) last (same ▸ stamped)
  · intro sweep listed
    apply read_sound_later _ _ _ _ sweep (sound.sweeps sweep listed) le_rfl
    exact grown_map write tenant.tasks (fun row => ⟨(keeps row).1, by rw [(keeps row).2.2]⟩)

theorem flip_sound (tenant : Tenant) (sound : Sound tenant) (id : Uuid) (topLevel : Bool) (status cascaded : TaskStatus)
    (reason cascade : Option ReasonCode) :
    Sound { tenant with tasks := flipRows id topLevel status cascaded reason cascade tenant.tasks } := by
  apply quiet_sound tenant sound
  intro row
  split
  · exact ⟨rfl, rfl, rfl⟩
  · split <;> exact ⟨rfl, rfl, rfl⟩

theorem commit_sound (tenant : Tenant) (sound : Sound tenant) (report : Report) (listed : report ∈ tenant.reports) :
    Sound { tenant with
      tasks := accumulateCost report tenant.tasks
      reports := tenant.reports.filter (fun other => other.task ≠ report.task) } := by
  have origin : ∀ row ∈ accumulateCost report tenant.tasks, ∃ before ∈ tenant.tasks, row.id = before.id ∧
      ((before.id ∈ report.rows ∧ row = stampHeartbeat report.stamp before) ∨ (before.id ∉ report.rows ∧ row = before)) := by
    intro row member
    obtain ⟨before, stored, rfl⟩ := List.mem_map.mp member
    by_cases held : before.id ∈ report.rows
    · exact ⟨before, stored, by rw [if_pos held]; rfl, .inl ⟨held, if_pos held⟩⟩
    · exact ⟨before, stored, by rw [if_neg held], .inr ⟨held, if_neg held⟩⟩
  refine ⟨?_, ?_, ?_, ?_, ?_, ?_, ?_⟩
  · rw [accumulateCost, map_ids _ tenant.tasks]
    · exact sound.ids
    · intro row
      split <;> rfl
  · intro row member stamp stamped
    obtain ⟨before, stored, _, ⟨held, rfl⟩ | ⟨_, rfl⟩⟩ := origin row member
    · refine ⟨report.stamp, rfl, ?_⟩
      rcases List.mem_append.mp stamped with old | new
      · obtain ⟨last, had, below⟩ := sound.heard before stored stamp old
        exact below.trans (sound.ordered report listed before stored held last had)
      · exact (List.mem_singleton.mp new).le
    · exact sound.heard row stored stamp stamped
  · intro row member last stamped
    obtain ⟨before, stored, _, ⟨_, rfl⟩ | ⟨_, rfl⟩⟩ := origin row member
    · cases stamped
      exact sound.stamps report listed
    · exact sound.past row stored last stamped
  · intro other member
    exact sound.stamps other (List.mem_filter.mp member).1
  · intro other member row stampedRow holds last stamped
    obtain ⟨otherListed, different⟩ := List.mem_filter.mp member
    obtain ⟨before, stored, same, ⟨held, rfl⟩ | ⟨_, rfl⟩⟩ := origin row stampedRow
    · have distinct : other ≠ report := by
        rintro rfl
        simp at different
      exact absurd held (sound.apart other otherListed report listed distinct holds)
    · exact sound.ordered other otherListed row stored holds last stamped
  · intro first firstMember second secondMember different
    exact sound.apart first (List.mem_filter.mp firstMember).1 second (List.mem_filter.mp secondMember).1 different
  · intro sweep member
    apply read_sound_later _ _ _ _ sweep (sound.sweeps sweep member) le_rfl
    apply grown_map
    intro row
    split
    · exact ⟨rfl, List.prefix_append _ _⟩
    · exact ⟨rfl, List.prefix_rfl⟩

theorem lock_sound (tenant : Tenant) (sound : Sound tenant) (row : TaskRow)
    (free : (row.id :: row.parent.toList).any tenant.held = false) :
    Sound { tenant with reports := tenant.reports ++ [⟨row.id, row.parent, tenant.clock⟩] } := by
  have unheld : ∀ report ∈ tenant.reports, List.Disjoint report.rows (row.id :: row.parent.toList) := by
    intro report listed id mine wanted
    have missed := List.any_eq_false.mp free id wanted
    exact missed (List.any_eq_true.mpr ⟨report, listed, decide_eq_true mine⟩)
  refine ⟨sound.ids, sound.heard, sound.past, ?_, ?_, ?_, sound.sweeps⟩
  · intro report member
    rcases List.mem_append.mp member with old | new
    · exact sound.stamps report old
    · cases List.mem_singleton.mp new
      exact le_rfl
  · intro report member stored listed holds last stamped
    rcases List.mem_append.mp member with old | new
    · exact sound.ordered report old stored listed holds last stamped
    · cases List.mem_singleton.mp new
      exact sound.past stored listed last stamped
  · intro first firstMember second secondMember different
    rcases List.mem_append.mp firstMember with firstOld | firstNew
    · rcases List.mem_append.mp secondMember with secondOld | secondNew
      · exact sound.apart first firstOld second secondOld different
      · cases List.mem_singleton.mp secondNew
        exact unheld first firstOld
    · cases List.mem_singleton.mp firstNew
      rcases List.mem_append.mp secondMember with secondOld | secondNew
      · exact (unheld second secondOld).symm
      · exact absurd (List.mem_singleton.mp secondNew).symm different

theorem dropped_sound (tenant : Tenant) (sound : Sound tenant) (keep : Report → Bool) :
    Sound { tenant with reports := tenant.reports.filter keep } := by
  have kept : ∀ report ∈ tenant.reports.filter keep, report ∈ tenant.reports :=
    fun report member => (List.mem_filter.mp member).1
  exact ⟨sound.ids, sound.heard, sound.past, fun report member => sound.stamps report (kept report member),
    fun report member => sound.ordered report (kept report member),
    fun first firstMember second secondMember => sound.apart first (kept first firstMember) second (kept second secondMember),
    sound.sweeps⟩

theorem register_sound (tenant : Tenant) (sound : Sound tenant) (id : Uuid) (parent : Option Uuid) (taskType : String)
    (fresh : tenant.task id = none) :
    Sound { tenant with tasks := tenant.tasks ++ [⟨id, parent, taskType, tenant.clock, .active, none, none, []⟩] } := by
  refine ⟨?_, ?_, ?_, sound.stamps, ?_, sound.apart, ?_⟩
  · exact nodup_add_row TaskRow.id tenant.tasks _ sound.ids (find_key_none TaskRow.id id tenant.tasks fresh)
  · intro row member
    rcases List.mem_append.mp member with old | new
    · exact sound.heard row old
    · cases List.mem_singleton.mp new
      exact fun _ stamped => nomatch stamped
  · intro row member last stamped
    rcases List.mem_append.mp member with old | new
    · exact sound.past row old last stamped
    · cases List.mem_singleton.mp new
      cases stamped
  · intro report listed row member holds last stamped
    rcases List.mem_append.mp member with old | new
    · exact sound.ordered report listed row old holds last stamped
    · cases List.mem_singleton.mp new
      cases stamped
  · intro sweep listed
    apply read_sound_later _ _ _ _ sweep (sound.sweeps sweep listed) le_rfl
    exact fun row member => ⟨row, List.mem_append_left _ member, rfl, List.prefix_rfl⟩

theorem sweep_sound (tenant : Tenant) (sound : Sound tenant) (sweep : Sweep) (now : sweep.now = tenant.clock)
    (rows : ∀ row ∈ sweep.candidates, row ∈ tenant.tasks)
    (past : ∀ row ∈ sweep.candidates, row.lastEventAt = none ∨ pastAWindow sweep.windows sweep.now row = true) :
    Sound { tenant with sweeps := tenant.sweeps ++ [sweep] } := by
  refine ⟨sound.ids, sound.heard, sound.past, sound.stamps, sound.ordered, sound.apart, ?_⟩
  intro other member
  rcases List.mem_append.mp member with old | new
  · exact sound.sweeps other old
  · cases List.mem_singleton.mp new
    exact ⟨now.le, fun row listed => sound.heard row (rows row listed), past,
      fun row listed => grown_refl tenant.tasks row (rows row listed)⟩

theorem step_sound (tenant : Tenant) (event : Event) (sound : Sound tenant) : Sound (step tenant event) := by
  cases event with
  | tick passed =>
    have later : tenant.clock ≤ tenant.clock + passed := by omega
    exact ⟨sound.ids, sound.heard, fun row member last stamped => (sound.past row member last stamped).trans later,
      fun report listed => (sound.stamps report listed).trans later, sound.ordered, sound.apart,
      fun sweep listed => read_sound_later _ _ _ _ sweep (sound.sweeps sweep listed) later (grown_refl tenant.tasks)⟩
  | configure enforcing windows =>
    exact ⟨sound.ids, sound.heard, sound.past, sound.stamps, sound.ordered, sound.apart, sound.sweeps⟩
  | register id parent taskType =>
    rw [step]
    split
    · rename_i allowed
      exact register_sound tenant sound id parent taskType (by simpa using allowed.1)
    · exact sound
  | lockReport id =>
    rw [step]
    split
    · rename_i row found
      obtain ⟨_, named⟩ := task_member tenant id row found
      split
      · exact sound
      · rename_i free
        subst named
        exact lock_sound tenant sound row (Bool.eq_false_of_not_eq_true free)
    · exact sound
  | commitReport id =>
    rw [step]
    split
    · rename_i report found
      obtain ⟨listed, rfl⟩ := find_key_some Report.task id _ report found
      exact commit_sound tenant sound report listed
    · exact sound
  | rollBackReport id => exact dropped_sound tenant sound _
  | closeAbandonedTasks =>
    apply sweep_sound tenant sound
    · rfl
    · exact fun row listed => (List.mem_filter.mp (List.mem_filter.mp listed).1).1
    · intro row listed
      have chosen := (List.mem_filter.mp listed).2
      simp only [Bool.and_eq_true, Bool.or_eq_true, Option.isNone_iff_eq_none] at chosen
      exact chosen.2.imp id And.right
  | reapStaleTasks =>
    apply sweep_sound tenant sound
    · rfl
    · exact fun row listed => (List.mem_filter.mp (List.mem_filter.mp listed).1).1
    · intro row listed
      have chosen := (List.mem_filter.mp listed).2
      exact .inr (Bool.and_eq_true _ _ ▸ chosen).2
  | flip sweep id =>
    rw [step]
    split
    · exact flip_sound tenant sound id _ _ _ _ _
    · exact sound
  | finish id status cascaded reason cascade =>
    rw [step]
    split
    · split
      · exact flip_sound tenant sound id _ _ _ _ _
      · exact sound
    · exact sound

-- The step that ends a unit for its silence: the row the sweep read, the unit
-- as its lock finds it, and the window that was found to have run out.
def silenced (tenant : Tenant) : Event → Option (TaskRow × TaskRow × Nat)
  | .flip sweep id =>
      match tenant.reaped sweep id with
      | some (sweep, row, task) =>
          if row.lastEventAt.isSome ∧ reasonFor row sweep.windows sweep.now = .silenceWindow then
            (windowsOfAUnit sweep.windows row).silence.map (fun window => (row, task, window))
          else none
      | none => none
  | _ => none

def SparesTheLive (tenant : Tenant) (event : Event) : Prop :=
  match silenced tenant event with
  | some (_, task, window) => ∀ stamp ∈ task.events, stamp < tenant.clock - seconds window
  | none => True

-- What has been reported since the sweep read the row is as old as that.
def NoLateReport (tenant : Tenant) (event : Event) : Prop :=
  match silenced tenant event with
  | some (row, task, window) => ∀ stamp ∈ task.events.drop row.events.length, stamp < tenant.clock - seconds window
  | none => True

instance (tenant : Tenant) (event : Event) : Decidable (SparesTheLive tenant event) := by
  unfold SparesTheLive
  split <;> infer_instance

theorem reaped_rows (tenant : Tenant) (index : Nat) (id : Uuid) (sweep : Sweep) (row task : TaskRow)
    (reached : tenant.reaped index id = some (sweep, row, task)) :
    sweep ∈ tenant.sweeps ∧ row ∈ sweep.candidates ∧ task ∈ tenant.tasks ∧ task.id = row.id := by
  simp only [Tenant.reaped] at reached
  split at reached
  · rename_i pass unit passFound unitFound
    split at reached
    · rename_i candidate candidateFound
      split at reached
      · cases reached
        obtain ⟨listed, named⟩ := task_member tenant id task unitFound
        obtain ⟨candidateListed, candidateNamed⟩ := find_key_some TaskRow.id id _ row candidateFound
        exact ⟨List.mem_of_getElem? passFound, candidateListed, listed, named.trans candidateNamed.symm⟩
      · cases reached
    · cases reached
  · cases reached

theorem silent_row (windows : Ladder) (now : Int) (row : TaskRow) (past : pastAWindow windows now row = true)
    (silent : reasonFor row windows now = .silenceWindow) (window : Nat)
    (declared : (windowsOfAUnit windows row).silence = some window) (last : Int) (heard : row.lastEventAt = some last) :
    last < now - seconds window := by
  have inside : ¬row.createdAt < deadlineInstant (windowsOfAUnit windows row).absolute now := by
    intro beyond
    rw [reasonFor, if_pos beyond] at silent
    cases silent
  rw [past_a_window_eq, elapsed, declared, heard] at past
  simpa [inside] using past

theorem silenced_read (tenant : Tenant) (event : Event) (sound : Sound tenant) (row task : TaskRow) (window : Nat)
    (ended : silenced tenant event = some (row, task, window)) :
    row.events <+: task.events ∧ ∀ stamp ∈ row.events, stamp < tenant.clock - seconds window := by
  cases event with
  | flip index id =>
    simp only [silenced] at ended
    split at ended
    · rename_i sweep read current reached
      split at ended
      · rename_i silent
        obtain ⟨found, declared, same⟩ := Option.map_eq_some_iff.mp ended
        cases same
        obtain ⟨swept, candidate, listed, named⟩ := reaped_rows tenant index id sweep row task reached
        have reads := sound.sweeps sweep swept
        refine ⟨?_, ?_⟩
        · obtain ⟨later, laterListed, laterNamed, grown⟩ := reads.grown row candidate
          have one := List.inj_on_of_nodup_map sound.ids laterListed listed (laterNamed.trans named.symm)
          exact one ▸ grown
        · intro stamp stamped
          obtain ⟨last, heard, below⟩ := reads.heard row candidate stamp stamped
          have past := (reads.past row candidate).resolve_left (by rw [heard]; simp)
          have old := silent_row sweep.windows sweep.now row past silent.2 window declared last heard
          have clock := reads.now
          omega
      · cases ended
    · cases ended
  | _ => cases ended

theorem flip_spares_iff (tenant : Tenant) (event : Event) (sound : Sound tenant) :
    SparesTheLive tenant event ↔ NoLateReport tenant event := by
  unfold SparesTheLive NoLateReport
  cases ended : silenced tenant event with
  | none => rfl
  | some figures =>
    obtain ⟨row, task, window⟩ := figures
    obtain ⟨⟨later, whole⟩, old⟩ := silenced_read tenant event sound row task window ended
    simp only [← whole, List.drop_left, List.forall_mem_append]
    exact ⟨And.right, fun late => ⟨old, late⟩⟩

theorem new_tenant_sound (clock : Int) (enforcing : Bool) (windows : Ladder) : Sound (newTenant clock enforcing windows) := by
  constructor <;> simp [newTenant]

theorem reaps_no_live_unit_iff (clock : Int) (enforcing : Bool) (windows : Ladder) (events : List Event) :
    Along step SparesTheLive (newTenant clock enforcing windows) events ↔
      Along step NoLateReport (newTenant clock enforcing windows) events := by
  apply along_congr step Sound SparesTheLive NoLateReport
  · intro tenant event sound
    exact step_sound tenant event sound
  · intro tenant event sound
    exact flip_spares_iff tenant event sound
  · exact new_tenant_sound clock enforcing windows

-- The unit reports again between the sweep's read and its flip.
theorem reporting_unit_reaped : ¬∀ clock enforcing windows events,
    Along step SparesTheLive (newTenant clock enforcing windows) events := by
  intro always
  have run := always 0 true ⟨[], ⟨some 900, 86400⟩, List.nodup_nil⟩
    [.register ⟨"a"⟩ none "", .lockReport ⟨"a"⟩, .commitReport ⟨"a"⟩, .tick 901000000, .reapStaleTasks,
      .lockReport ⟨"a"⟩, .commitReport ⟨"a"⟩, .flip 0 ⟨"a"⟩]
  revert run
  decide

end Ubb.Work.Sweeps
