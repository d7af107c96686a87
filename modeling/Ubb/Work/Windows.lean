import Mathlib.Data.PNat.Basic
import Ubb.Work.Silence

set_option autoImplicit false

-- work/queries.py: the two windows of every kind of work, resolved from what
-- the tenant declares, and the sweepers' one filter over them.
namespace Ubb.Work.Sweeps

open Ubb.Library

def silenceWindowBackstopSeconds : Nat := 15 * 60

def absoluteDeadlineBackstopSeconds : Nat := 6 * 60 * 60

-- Both tables refuse a deadline of zero, and neither refuses a silence of zero.
structure TaskTypeRow where
  declaration : Declaration
  silenceWindowSeconds : Option Nat
  absoluteDeadlineSeconds : Option ℕ+
deriving DecidableEq

structure TenantRow where
  taskStaleSeconds : Option Nat
  taskAbsoluteDeadlineSeconds : Option ℕ+
deriving DecidableEq

-- What expiry_windows reads: the tenant's row, where it has one, and its
-- declarations under uq_task_type_key.
structure Settings where
  tenant : Option TenantRow
  taskTypes : List TaskTypeRow
  distinct : (taskTypes.map TaskTypeRow.declaration).Nodup
deriving DecidableEq

-- _rung: only an undeclared rung falls through, and a zero is no window.
def rung (declared beneath : Option Nat) : Option Nat :=
  match declared with
  | none => beneath
  | some 0 => none
  | some (declared + 1) => some (declared + 1)

theorem rung_stands (declared : Option ℕ+) (beneath : Nat) : (rung (declared.map PNat.val) (some beneath)).isSome = true := by
  cases declared with
  | none => rfl
  | some positive =>
    obtain ⟨seconds, above⟩ := positive
    cases seconds with
    | zero => exact absurd above (lt_irrefl 0)
    | succ seconds => rfl

def absoluteRung (declared : Option ℕ+) (beneath : Nat) : Nat :=
  (rung (declared.map PNat.val) (some beneath)).get (rung_stands declared beneath)

def Settings.fallback (settings : Settings) : ExpiryWindows where
  silence := rung (settings.tenant.bind TenantRow.taskStaleSeconds) (some silenceWindowBackstopSeconds)
  absolute := absoluteRung (settings.tenant.bind TenantRow.taskAbsoluteDeadlineSeconds) absoluteDeadlineBackstopSeconds

def TaskTypeRow.windows (row : TaskTypeRow) (beneath : ExpiryWindows) : ExpiryWindows where
  silence := rung row.silenceWindowSeconds beneath.silence
  absolute := absoluteRung row.absoluteDeadlineSeconds beneath.absolute

def expiryWindows (settings : Settings) : Ladder where
  declared := settings.taskTypes.map (fun row => (row.declaration, row.windows settings.fallback))
  fallback := settings.fallback
  distinct := by
    rw [List.map_map]
    exact settings.distinct

-- A window has run out once it is behind the instant; at the instant itself it
-- has not. Work that never reported is not silent.
def SilenceElapsed (pair : ExpiryWindows) (now : Int) (task : TaskRow) : Prop :=
  ∃ silence last, pair.silence = some silence ∧ task.lastEventAt = some last ∧ last + seconds silence < now

def LifetimeElapsed (pair : ExpiryWindows) (now : Int) (task : TaskRow) : Prop :=
  task.createdAt + seconds pair.absolute < now

theorem past_deadline_iff (pair : ExpiryWindows) (now : Int) (task : TaskRow) :
    task.createdAt < deadlineInstant pair.absolute now ↔ LifetimeElapsed pair now task := by
  unfold deadlineInstant LifetimeElapsed
  omega

theorem elapsed_iff (pair : ExpiryWindows) (now : Int) (task : TaskRow) :
    elapsed pair now task = true ↔ SilenceElapsed pair now task ∨ LifetimeElapsed pair now task := by
  rw [elapsed, Bool.or_eq_true, decide_eq_true_eq, past_deadline_iff, or_comm]
  apply or_congr_left
  unfold SilenceElapsed
  cases pair.silence with
  | none => simp
  | some silence =>
    cases task.lastEventAt with
    | none => simp
    | some last =>
      simp only [decide_eq_true_eq, Option.some.injEq]
      constructor
      · intro ran
        exact ⟨silence, last, rfl, rfl, by omega⟩
      · rintro ⟨_, _, rfl, rfl, ran⟩
        omega

theorem windows_of_a_declared_unit (settings : Settings) (task : TaskRow) (row : TaskTypeRow) (listed : row ∈ settings.taskTypes)
    (own : row.declaration = declarationOf task) :
    windowsOfAUnit (expiryWindows settings) task = row.windows settings.fallback := by
  have member : (row.declaration, row.windows settings.fallback) ∈ (expiryWindows settings).declared :=
    List.mem_map_of_mem listed
  have found := find_key_of_mem Prod.fst (expiryWindows settings).declared (expiryWindows settings).distinct _ member
  rw [windowsOfAUnit, ← own, found]
  rfl

theorem windows_of_an_undeclared_unit (settings : Settings) (task : TaskRow)
    (none_ : ∀ row ∈ settings.taskTypes, row.declaration ≠ declarationOf task) :
    windowsOfAUnit (expiryWindows settings) task = settings.fallback := by
  have absent : (expiryWindows settings).declared.find? (fun entry => entry.1 = declarationOf task) = none := by
    rw [List.find?_eq_none]
    intro entry member
    obtain ⟨row, listed, rfl⟩ := List.mem_map.mp member
    simpa using none_ row listed
  rw [windowsOfAUnit, absent]
  rfl

theorem reason_for_lifetime (windows : Ladder) (now : Int) (task : TaskRow) :
    reasonFor task windows now = .absoluteDeadline ↔ LifetimeElapsed (windowsOfAUnit windows task) now task := by
  rw [← past_deadline_iff, reasonFor]
  split <;> simp [*]

theorem reason_for_silence (windows : Ladder) (now : Int) (task : TaskRow) :
    reasonFor task windows now = .silenceWindow ↔ ¬LifetimeElapsed (windowsOfAUnit windows task) now task := by
  rw [← past_deadline_iff, reasonFor]
  split <;> simp [*]

theorem sweep_reads_each_units_own_windows (settings : Settings) (now : Int) (task : TaskRow) :
    let windows := expiryWindows settings
    let pair := windowsOfAUnit windows task
    (pastAWindow windows now task = true ↔ SilenceElapsed pair now task ∨ LifetimeElapsed pair now task) ∧
      (pastAWindow windows now task = true →
        (reasonFor task windows now = .silenceWindow ∧ SilenceElapsed pair now task) ∨
          (reasonFor task windows now = .absoluteDeadline ∧ LifetimeElapsed pair now task)) ∧
      (SilenceElapsed pair now task → ¬LifetimeElapsed pair now task → reasonFor task windows now = .silenceWindow) ∧
      (LifetimeElapsed pair now task → ¬SilenceElapsed pair now task → reasonFor task windows now = .absoluteDeadline) := by
  intro windows pair
  have selects : pastAWindow windows now task = true ↔ SilenceElapsed pair now task ∨ LifetimeElapsed pair now task := by
    rw [past_a_window_eq, elapsed_iff]
  have lifetime := reason_for_lifetime windows now task
  have silence := reason_for_silence windows now task
  refine ⟨selects, ?_, fun _ standing => silence.mpr standing, fun ran _ => lifetime.mpr ran⟩
  intro selected
  by_cases ran : LifetimeElapsed pair now task
  · exact .inr ⟨lifetime.mpr ran, ran⟩
  · exact .inl ⟨silence.mpr ran, (selects.mp selected).resolve_right ran⟩

end Ubb.Work.Sweeps
