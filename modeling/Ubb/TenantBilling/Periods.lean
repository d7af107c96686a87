import Ubb.TenantBilling.Model

set_option autoImplicit false

namespace Ubb.TenantBilling

open Ubb.Library

def TenantBillingPeriod.months (period : TenantBillingPeriod) : Date × Date := (period.periodStart, period.periodEnd)

-- What the two constraints and the only creator of rows keep true.
structure PeriodsSound (periods : List TenantBillingPeriod) : Prop where
  ids : (periods.map TenantBillingPeriod.id).Nodup
  bounded : ∀ period ∈ periods, period.id < periods.length
  monthly : ∀ period ∈ periods, ∃ date, period.months = (firstOfMonth date, firstOfNextMonth date)
  distinct : (periods.map TenantBillingPeriod.months).Nodup
  oneOpen : ∀ left ∈ periods, ∀ right ∈ periods, left.status = .opened → right.status = .opened → left = right

theorem same_row (periods : List TenantBillingPeriod) (sound : PeriodsSound periods) (left right : TenantBillingPeriod)
    (leftMember : left ∈ periods) (rightMember : right ∈ periods) (same : left.id = right.id) : left = right :=
  List.inj_on_of_nodup_map sound.ids leftMember rightMember same

theorem find_period_some (periodStart periodEnd : Date) (periods : List TenantBillingPeriod) (period : TenantBillingPeriod)
    (found : findPeriod periodStart periodEnd periods = some period) :
    period ∈ periods ∧ period.months = (periodStart, periodEnd) := by
  have matched := List.find?_some found
  rw [decide_eq_true_eq] at matched
  exact ⟨List.mem_of_find?_eq_some found, Prod.ext matched.1 matched.2⟩

theorem find_period_none (periodStart periodEnd : Date) (periods : List TenantBillingPeriod) :
    findPeriod periodStart periodEnd periods = none ↔ ∀ period ∈ periods, period.months ≠ (periodStart, periodEnd) := by
  rw [findPeriod, List.find?_eq_none]
  simp [TenantBillingPeriod.months]

theorem get_or_create_cases (today : Date) (periods base : List TenantBillingPeriod) (period : TenantBillingPeriod)
    (done : getOrCreateCurrentPeriod today periods = .ok (base, period)) :
    (base = periods ∧ findPeriod (firstOfMonth today) (firstOfNextMonth today) periods = some period) ∨
    (findPeriod (firstOfMonth today) (firstOfNextMonth today) periods = none ∧
      (∀ other ∈ periods, other.status ≠ .opened) ∧ base = periods ++ [period] ∧
      period = { id := periods.length, periodStart := firstOfMonth today, periodEnd := firstOfNextMonth today, status := .opened }) := by
  cases found : findPeriod (firstOfMonth today) (firstOfNextMonth today) periods with
  | some stored =>
      simp only [getOrCreateCurrentPeriod, found, Except.ok.injEq, Prod.mk.injEq] at done
      exact .inl ⟨done.1.symm, by rw [done.2]⟩
  | none =>
      by_cases blocked : periods.any (fun period => period.status = .opened) = true
      · simp [getOrCreateCurrentPeriod, insertPeriod, found, blocked] at done
      · simp only [getOrCreateCurrentPeriod, insertPeriod, found, Option.isSome_none, Bool.false_eq_true, blocked, or_self,
          if_false, Except.ok.injEq, Prod.mk.injEq] at done
        refine .inr ⟨rfl, ?_, ?_, done.2.symm⟩
        · intro other member isOpen
          exact blocked (List.any_eq_true.mpr ⟨other, member, by simpa using isOpen⟩)
        · rw [← done.1, done.2]

theorem add_usage_keeps (amount : Int) (events : Nat) (period : TenantBillingPeriod) :
    (addUsage amount events period).id = period.id ∧ (addUsage amount events period).months = period.months ∧
      (addUsage amount events period).status = period.status := by
  rw [addUsage]
  split
  · exact ⟨rfl, rfl, rfl⟩
  · exact ⟨rfl, rfl, rfl⟩

theorem update_usage_unmatched (periodId : Nat) (amount : Int) (events : Nat) (periods : List TenantBillingPeriod)
    (none_matched : (updateUsage periodId amount events periods).2 = 0) :
    (updateUsage periodId amount events periods).1 = periods := by
  rw [updateUsage] at none_matched ⊢
  rw [List.length_eq_zero_iff, List.filter_eq_nil_iff] at none_matched
  simp only [updateRow]
  conv_rhs => rw [← List.map_id periods]
  apply List.map_congr_left
  intro period member
  have missed := none_matched period member
  split
  · rename_i hit
    have isClosed : period.status ≠ .opened := by
      intro isOpen
      simp [hit, isOpen] at missed
    simp [addUsage, isClosed]
  · rfl

theorem accumulate_cases (today retryToday : Date) (billed : Option Int) (counts : Bool)
    (periods after : List TenantBillingPeriod) (done : accumulateUsage today retryToday billed counts periods = .ok after) :
    ∃ reading base period, (reading = today ∨ reading = retryToday) ∧
      getOrCreateCurrentPeriod reading periods = .ok (base, period) ∧
      after = (updateUsage period.id (billed.getD 0) counts.toNat base).1 := by
  rw [accumulateUsage] at done
  cases first : getOrCreateCurrentPeriod today periods with
  | error raised => simp [first] at done
  | ok pair =>
      obtain ⟨base, period⟩ := pair
      simp only [first] at done
      by_cases unmatched : (updateUsage period.id (billed.getD 0) counts.toNat base).2 = 0
      · simp only [if_pos unmatched, update_usage_unmatched _ _ _ _ unmatched] at done
        have baseEq : base = periods := by
          rcases get_or_create_cases today periods base period first with ⟨same, _⟩ | ⟨_, _, grown, created⟩
          · exact same
          · rw [updateUsage, List.length_eq_zero_iff, List.filter_eq_nil_iff] at unmatched
            have missed := unmatched period (by simp [grown])
            simp [created] at missed
        rw [baseEq] at done
        cases second : getOrCreateCurrentPeriod retryToday periods with
        | error raised => simp [second] at done
        | ok pair =>
            obtain ⟨retryBase, retryPeriod⟩ := pair
            simp only [second, Except.ok.injEq] at done
            exact ⟨retryToday, retryBase, retryPeriod, .inr rfl, second, done.symm⟩
      · simp only [if_neg unmatched, Except.ok.injEq] at done
        exact ⟨today, base, period, .inl rfl, first, done.symm⟩

theorem update_row_sound (target : Nat) (write : TenantBillingPeriod → TenantBillingPeriod) (periods : List TenantBillingPeriod)
    (keepsId : ∀ row, (write row).id = row.id) (keepsMonths : ∀ row, (write row).months = row.months)
    (keepsOpen : ∀ row, (write row).status = .opened → row.status = .opened) (sound : PeriodsSound periods) :
    PeriodsSound (updateRow TenantBillingPeriod.id target write periods) := by
  have source : ∀ row ∈ updateRow TenantBillingPeriod.id target write periods, ∃ old ∈ periods, row.id = old.id ∧
      row.months = old.months ∧ (row.status = .opened → old.status = .opened) ∧ (row = if old.id = target then write old else old) := by
    intro row member
    rcases mem_update_row TenantBillingPeriod.id target write periods row member with ⟨kept, missed⟩ | ⟨old, inside, hit, rfl⟩
    · exact ⟨row, kept, rfl, rfl, id, by rw [if_neg missed]⟩
    · exact ⟨old, inside, keepsId old, keepsMonths old, keepsOpen old, by rw [if_pos hit]⟩
  refine ⟨?_, ?_, ?_, ?_, ?_⟩
  · rw [update_row_map TenantBillingPeriod.id target write periods TenantBillingPeriod.id keepsId]
    exact sound.ids
  · intro row member
    obtain ⟨old, inside, sameId, _⟩ := source row member
    rw [sameId, updateRow, List.length_map]
    exact sound.bounded old inside
  · intro row member
    obtain ⟨old, inside, _, sameMonths, _⟩ := source row member
    rw [sameMonths]
    exact sound.monthly old inside
  · rw [update_row_map TenantBillingPeriod.id target write periods TenantBillingPeriod.months keepsMonths]
    exact sound.distinct
  · intro left leftMember right rightMember leftOpen rightOpen
    obtain ⟨oldLeft, insideLeft, _, _, wasLeft, leftEq⟩ := source left leftMember
    obtain ⟨oldRight, insideRight, _, _, wasRight, rightEq⟩ := source right rightMember
    have same := sound.oneOpen oldLeft insideLeft oldRight insideRight (wasLeft leftOpen) (wasRight rightOpen)
    rw [leftEq, rightEq, same]

theorem create_sound (today : Date) (periods : List TenantBillingPeriod) (period : TenantBillingPeriod)
    (missing : findPeriod (firstOfMonth today) (firstOfNextMonth today) periods = none)
    (noOpen : ∀ other ∈ periods, other.status ≠ .opened)
    (created : period = { id := periods.length, periodStart := firstOfMonth today, periodEnd := firstOfNextMonth today, status := .opened })
    (sound : PeriodsSound periods) : PeriodsSound (periods ++ [period]) := by
  have idEq : period.id = periods.length := by rw [created]
  have monthsEq : period.months = (firstOfMonth today, firstOfNextMonth today) := by rw [created]; rfl
  refine ⟨?_, ?_, ?_, ?_, ?_⟩
  · apply nodup_add_row TenantBillingPeriod.id periods period sound.ids
    intro old inside
    have below := sound.bounded old inside
    omega
  · intro row member
    rw [List.length_append, List.length_singleton]
    rcases List.mem_append.mp member with old | new
    · have below := sound.bounded row old
      omega
    · rw [List.mem_singleton.mp new]
      omega
  · intro row member
    rcases List.mem_append.mp member with old | new
    · exact sound.monthly row old
    · rw [List.mem_singleton.mp new]
      exact ⟨today, monthsEq⟩
  · apply nodup_add_row TenantBillingPeriod.months periods period sound.distinct
    rw [monthsEq]
    exact (find_period_none _ _ _).mp missing
  · intro left leftMember right rightMember leftOpen rightOpen
    rcases List.mem_append.mp leftMember with oldLeft | newLeft
    · exact absurd leftOpen (noOpen left oldLeft)
    · rcases List.mem_append.mp rightMember with oldRight | newRight
      · exact absurd rightOpen (noOpen right oldRight)
      · rw [List.mem_singleton.mp newLeft, List.mem_singleton.mp newRight]

theorem get_or_create_row (today : Date) (periods base : List TenantBillingPeriod) (period : TenantBillingPeriod)
    (sound : PeriodsSound periods) (had : getOrCreateCurrentPeriod today periods = .ok (base, period)) :
    PeriodsSound base ∧ period ∈ base ∧ period.months = (firstOfMonth today, firstOfNextMonth today) := by
  rcases get_or_create_cases today periods base period had with ⟨rfl, found⟩ | ⟨missing, noOpen, rfl, created⟩
  · exact ⟨sound, find_period_some _ _ _ _ found⟩
  · refine ⟨create_sound today periods period missing noOpen created sound, by simp, ?_⟩
    rw [created]
    rfl

theorem update_usage_sound (periodId : Nat) (amount : Int) (events : Nat) (periods : List TenantBillingPeriod)
    (sound : PeriodsSound periods) : PeriodsSound (updateUsage periodId amount events periods).1 :=
  update_row_sound periodId _ periods (fun row => (add_usage_keeps _ _ row).1) (fun row => (add_usage_keeps _ _ row).2.1)
    (fun row isOpen => (add_usage_keeps _ _ row).2.2 ▸ isOpen) sound

theorem accumulate_sound (today retryToday : Date) (billed : Option Int) (counts : Bool)
    (periods after : List TenantBillingPeriod) (sound : PeriodsSound periods)
    (done : accumulateUsage today retryToday billed counts periods = .ok after) : PeriodsSound after := by
  obtain ⟨reading, base, period, _, had, afterEq⟩ := accumulate_cases today retryToday billed counts periods after done
  rw [afterEq]
  exact update_usage_sound _ _ _ base (get_or_create_row reading periods base period sound had).1

end Ubb.TenantBilling
