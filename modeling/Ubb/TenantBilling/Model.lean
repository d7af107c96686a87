import Ubb.Core.Date
import Ubb.Core.Uuid
import Ubb.Library.KeyedRows
import Ubb.Library.Runs

set_option autoImplicit false

namespace Ubb.TenantBilling

open Ubb.Library

inductive PeriodStatus where
  | opened
  | closed
deriving DecidableEq, Repr

-- Period rows are never deleted, so a row's position is its identity.
structure TenantBillingPeriod where
  id : Nat
  periodStart : Date
  periodEnd : Date
  status : PeriodStatus
  totalBilledCostMicros : Int := 0
  recordedEvents : Nat := 0
deriving DecidableEq, Repr

inductive PostingKind where
  | meteredUsage
  | taskCharge
deriving DecidableEq, Repr

-- The columns of a posting the period's totals are taken over. Every bound
-- they are compared with is the start of a day, so the arrival instant is kept
-- as its date. The announced cost is the payload of its usage.recorded event.
structure Posting where
  id : Uuid
  kind : PostingKind
  createdAt : Date
  billedCostMicros : Option Int
  announcedCostMicros : Option Int
deriving DecidableEq, Repr

inductive PeriodError where
  | doesNotExist
deriving DecidableEq, Repr

def findPeriod (periodStart periodEnd : Date) (periods : List TenantBillingPeriod) : Option TenantBillingPeriod :=
  periods.find? (fun period => period.periodStart = periodStart ∧ period.periodEnd = periodEnd)

-- The INSERT of an open period under its two unique constraints: one row per
-- month, and one open row per tenant. The none result is the IntegrityError.
def insertPeriod (periodStart periodEnd : Date) (periods : List TenantBillingPeriod) : Option TenantBillingPeriod :=
  if (findPeriod periodStart periodEnd periods).isSome ∨ periods.any (fun period => period.status = .opened) then none
  else some { id := periods.length, periodStart := periodStart, periodEnd := periodEnd, status := .opened }

-- get_or_create reads again after a lost race and gives up with the
-- IntegrityError, which the caller answers with one more read.
def getOrCreateCurrentPeriod (today : Date) (periods : List TenantBillingPeriod) :
    Except PeriodError (List TenantBillingPeriod × TenantBillingPeriod) :=
  match findPeriod (firstOfMonth today) (firstOfNextMonth today) periods with
  | some period => .ok (periods, period)
  | none =>
      match insertPeriod (firstOfMonth today) (firstOfNextMonth today) periods with
      | some period => .ok (periods ++ [period], period)
      | none =>
          match findPeriod (firstOfMonth today) (firstOfNextMonth today) periods with
          | some period => .ok (periods, period)
          | none => .error .doesNotExist

def addUsage (billedCostMicros : Int) (events : Nat) (period : TenantBillingPeriod) : TenantBillingPeriod :=
  if period.status = .opened then
    { period with
      totalBilledCostMicros := period.totalBilledCostMicros + billedCostMicros
      recordedEvents := period.recordedEvents + events }
  else period

def updateUsage (periodId : Nat) (billedCostMicros : Int) (events : Nat) (periods : List TenantBillingPeriod) :
    List TenantBillingPeriod × Nat :=
  (updateRow TenantBillingPeriod.id periodId (addUsage billedCostMicros events) periods,
    (periods.filter (fun period => period.id = periodId ∧ period.status = .opened)).length)

-- Each of the two reads of the current period takes its own clock reading.
def accumulateUsage (today retryToday : Date) (billedCostMicros : Option Int) (countsAsEvent : Bool)
    (periods : List TenantBillingPeriod) : Except PeriodError (List TenantBillingPeriod) :=
  match getOrCreateCurrentPeriod today periods with
  | .error raised => .error raised
  | .ok (periods, period) =>
      let updated := updateUsage period.id (billedCostMicros.getD 0) countsAsEvent.toNat periods
      if updated.2 = 0 then
        match getOrCreateCurrentPeriod retryToday updated.1 with
        | .error raised => .error raised
        | .ok (periods, period) => .ok (updateUsage period.id (billedCostMicros.getD 0) countsAsEvent.toNat periods).1
      else .ok updated.1

def TenantBillingPeriod.Covers (period : TenantBillingPeriod) (date : Date) : Prop :=
  period.periodStart ≤ date ∧ date < period.periodEnd

instance (period : TenantBillingPeriod) (date : Date) : Decidable (period.Covers date) :=
  inferInstanceAs (Decidable (_ ∧ _))

def arrivals (period : TenantBillingPeriod) (postings : List Posting) : List Posting :=
  postings.filter (fun posting => period.Covers posting.createdAt)

structure PeriodTotals where
  totalBilledCostMicros : Int
  recordedEvents : Nat
deriving DecidableEq, Repr

-- get_period_totals on the arrival basis: unknown prices are passed over, and
-- only metered postings are counted.
def getPeriodTotals (period : TenantBillingPeriod) (postings : List Posting) : PeriodTotals where
  totalBilledCostMicros := ((arrivals period postings).map (fun posting => posting.billedCostMicros.getD 0)).sum
  recordedEvents := ((arrivals period postings).filter (fun posting => posting.kind = .meteredUsage)).length

-- The read a reconcile does not believe: no event found where the loaded row
-- counts some.
def Untrusted (loaded : TenantBillingPeriod) (totals : PeriodTotals) : Prop :=
  totals.recordedEvents = 0 ∧ 0 < loaded.recordedEvents

instance (loaded : TenantBillingPeriod) (totals : PeriodTotals) : Decidable (Untrusted loaded totals) :=
  inferInstanceAs (Decidable (_ ∧ _))

def writeTotals (totals : PeriodTotals) (period : TenantBillingPeriod) : TenantBillingPeriod :=
  { period with
    totalBilledCostMicros := totals.totalBilledCostMicros
    recordedEvents := totals.recordedEvents }

-- The drift compare looks at the instance the task loaded; the UPDATE it
-- leads to has no condition on the row.
def reconcileWrite (loaded : TenantBillingPeriod) (totals : PeriodTotals) (periods : List TenantBillingPeriod) :
    List TenantBillingPeriod :=
  if totals.totalBilledCostMicros ≠ loaded.totalBilledCostMicros ∨ totals.recordedEvents ≠ loaded.recordedEvents then
    updateRow TenantBillingPeriod.id loaded.id (writeTotals totals) periods
  else periods

def closeRow (period : TenantBillingPeriod) : TenantBillingPeriod :=
  if period.status = .opened then { period with status := .closed } else period

inductive JobStage where
  | loaded
  | read (totals : PeriodTotals)
  | reconciled
deriving DecidableEq, Repr

structure Job where
  id : Nat
  closes : Bool
  period : TenantBillingPeriod
  stage : JobStage
deriving DecidableEq, Repr

-- A posting is stamped at its INSERT and seen by nobody until its transaction
-- commits.
structure State where
  clock : Date
  inFlight : List Posting
  postings : List Posting
  periods : List TenantBillingPeriod
  jobs : List Job
deriving DecidableEq, Repr

def initialState (clock : Date) : State := ⟨clock, [], [], [], []⟩

-- What can happen next. A handler may have read the clock some time before its
-- statement runs; a task's calls load, read, write and close one at a time.
inductive Event where
  | tick (today : Date)
  | insert (postingId : Uuid) (kind : PostingKind) (billedCostMicros : Option Int)
  | commit (postingId : Uuid)
  | drop (postingId : Uuid)
  | resolve (postingId : Uuid) (billedCostMicros : Int)
  | handle (postingId : Uuid) (readAt : Date)
  | loadReconcile (jobId periodId : Nat)
  | loadClose (jobId periodId : Nat)
  | read (jobId : Nat) (held : Bool)
  | write (jobId : Nat)
  | finish (jobId : Nat)
deriving DecidableEq, Repr

def resolvePrice (billedCostMicros : Int) (posting : Posting) : Posting :=
  if posting.billedCostMicros = none then { posting with billedCostMicros := some billedCostMicros } else posting

def insertPosting (postingId : Uuid) (kind : PostingKind) (billedCostMicros : Option Int) (state : State) : State :=
  if (state.inFlight ++ state.postings).any (fun posting => posting.id = postingId) then state
  else { state with inFlight := state.inFlight ++ [⟨postingId, kind, state.clock, billedCostMicros, billedCostMicros⟩] }

def State.dropInsert (state : State) (postingId : Uuid) : State :=
  { state with inFlight := state.inFlight.filter (fun posting => posting.id ≠ postingId) }

def State.inserted (state : State) (postingId : Uuid) : Option Posting :=
  state.inFlight.find? (fun posting => posting.id = postingId)

def commitPosting (postingId : Uuid) (state : State) : State :=
  match state.inserted postingId with
  | none => state
  | some posting => { state with postings := state.postings ++ [posting] }.dropInsert postingId

def handleUsageRecorded (postingId : Uuid) (readAt : Date) (state : State) : State :=
  match state.postings.find? (fun posting => posting.id = postingId) with
  | none => state
  | some posting =>
      -- NegativeKnownPriceRefused.
      if posting.announcedCostMicros.any (fun cost => cost < 0) then state
      else
      match accumulateUsage readAt state.clock posting.announcedCostMicros (posting.kind = .meteredUsage) state.periods with
      | .ok periods => { state with periods := periods }
      | .error _ => state

def State.job (state : State) (jobId : Nat) : Option Job := state.jobs.find? (fun job => job.id = jobId)

def State.period (state : State) (periodId : Nat) : Option TenantBillingPeriod :=
  state.periods.find? (fun period => period.id = periodId)

def State.dropJob (state : State) (jobId : Nat) : State :=
  { state with jobs := state.jobs.filter (fun job => job.id ≠ jobId) }

def State.stageJob (state : State) (jobId : Nat) (stage : JobStage) : State :=
  { state with jobs := updateRow Job.id jobId (fun job => { job with stage := stage }) state.jobs }

def loadJob (jobId periodId : Nat) (closes : Bool) (state : State) : State :=
  match state.job jobId, state.period periodId with
  | none, some period =>
      if period.status = .opened ∧ (closes → period.periodEnd ≤ firstOfMonth state.clock) then
        { state with jobs := state.jobs ++ [⟨jobId, closes, period, .loaded⟩] }
      else state
  | _, _ => state

-- A held name refuses a close before anything is read. An untrusted read ends
-- a reconcile and lets a close go on without a write.
def readTotals (jobId : Nat) (held : Bool) (state : State) : State :=
  match state.job jobId with
  | some ⟨_, closes, period, .loaded⟩ =>
      if closes ∧ held then state.dropJob jobId
      else if Untrusted period (getPeriodTotals period state.postings) then
        if closes then state.stageJob jobId .reconciled else state.dropJob jobId
      else state.stageJob jobId (.read (getPeriodTotals period state.postings))
  | _ => state

def writeBack (jobId : Nat) (state : State) : State :=
  match state.job jobId with
  | some ⟨_, closes, period, .read totals⟩ =>
      let written := { state with periods := reconcileWrite period totals state.periods }
      if closes then written.stageJob jobId .reconciled else written.dropJob jobId
  | _ => state

def finishClose (jobId : Nat) (state : State) : State :=
  match state.job jobId with
  | some ⟨_, true, period, .reconciled⟩ =>
      { state with periods := updateRow TenantBillingPeriod.id period.id closeRow state.periods }.dropJob jobId
  | _ => state

def step (state : State) : Event → State
  | .tick today => if state.clock ≤ today then { state with clock := today } else state
  | .insert postingId kind billedCostMicros => insertPosting postingId kind billedCostMicros state
  | .commit postingId => commitPosting postingId state
  | .drop postingId => state.dropInsert postingId
  | .resolve postingId billedCostMicros =>
      { state with postings := updateRow Posting.id postingId (resolvePrice billedCostMicros) state.postings }
  | .handle postingId readAt => handleUsageRecorded postingId readAt state
  | .loadReconcile jobId periodId => loadJob jobId periodId false state
  | .loadClose jobId periodId => loadJob jobId periodId true state
  | .read jobId held => readTotals jobId held state
  | .write jobId => writeBack jobId state
  | .finish jobId => finishClose jobId state

def stateAfter (start : Date) (events : List Event) : State := run step (initialState start) events

end Ubb.TenantBilling
