import Ubb.Core.Uuid
import Ubb.Library.Agents
import Ubb.Library.Outcomes
import Ubb.Library.Runs
import Ubb.Membership.Addresses

set_option autoImplicit false

-- apps/platform/membership: who administers a tenant, from the invitation to
-- the first login and the removal.
namespace Ubb.Membership

open Ubb.Library

inductive Role where
  | admin
  | write
  | read
deriving DecidableEq, Repr

def roleNamed (name : String) : Option Role := [("admin", Role.admin), ("write", .write), ("read", .read)].lookup name

inductive MemberStatus where
  | pending
  | active
deriving DecidableEq, Repr

inductive InvitationStatus where
  | pending
  | accepted
  | revoked
deriving DecidableEq, Repr

structure Invitation where
  id : Nat
  tenant : Uuid
  email : String
  role : Role
  status : InvitationStatus
deriving DecidableEq, Repr

structure Member where
  id : Nat
  tenant : Uuid
  email : String
  role : Role
  status : MemberStatus
  clerkUserId : String
  invitation : Option Nat
deriving DecidableEq, Repr

def Member.address (member : Member) : Uuid × String := (member.tenant, member.email)

def Member.activeAdmin (member : Member) : Bool := decide (member.status = .active) && decide (member.role = .admin)

inductive Problem where
  | emailRequired
  | unknownRole (role : String)
  | alreadyAMember
  | alreadyInvited
  | invitationNotFound
  | invitationAccepted
  | memberNotFound
  | lastActiveAdmin
deriving DecidableEq, Repr

def Problem.code : Problem → String
  | .emailRequired | .unknownRole _ => "validation_error"
  | .alreadyAMember | .alreadyInvited | .invitationAccepted => "conflict"
  | .invitationNotFound | .memberNotFound => "not_found"
  | .lastActiveAdmin => "last_active_admin"

structure Claims where
  sub : String
  email : String
deriving DecidableEq, Repr

-- Where one resolution stands: its two reads are apart, and the activation is
-- a transaction of its own.
inductive Login where
  | unknownSubject
  | matched (member : Nat)
  | resolved (member : Option Nat)
deriving DecidableEq, Repr

-- Every tenant's rows. An invitation is never deleted, so its id is its place.
structure Roster where
  invitations : List Invitation
  members : List Member
  issued : Nat
  activations : List Nat

structure State extends Roster where
  logins : List (Agent Claims Login)

def Roster.memberOf (roster : Roster) (tenant : Uuid) (id : Nat) : Option Member :=
  roster.members.find? (fun member => decide (member.id = id) && decide (member.tenant = tenant))

def Roster.invitationOf (roster : Roster) (tenant : Uuid) (id : Nat) : Option Invitation :=
  roster.invitations.find? (fun invitation => decide (invitation.id = id) && decide (invitation.tenant = tenant))

def Roster.at (roster : Roster) (tenant : Uuid) (email : String) : Option Member :=
  roster.members.find? (fun member => decide (member.address = (tenant, email)))

def writeInvitation (invitations : List Invitation) (id : Nat) (write : Invitation → Invitation) : List Invitation :=
  updateRow Invitation.id id write invitations

def writeMember (members : List Member) (id : Nat) (write : Member → Member) : List Member := updateRow Member.id id write members

def Invitation.whilePending (write : Invitation → Invitation) (invitation : Invitation) : Invitation :=
  if invitation.status = .pending then write invitation else invitation

def linkedInvitation (invitations : List Invitation) (linked : Option Nat) (write : Invitation → Invitation) : List Invitation :=
  match linked with
  | none => invitations
  | some id => writeInvitation invitations id (Invitation.whilePending write)

def Invitation.revoked (invitation : Invitation) : Invitation := { invitation with status := .revoked }

def Invitation.accepted (invitation : Invitation) : Invitation := { invitation with status := .accepted }

def Invitation.regraded (role : Role) (invitation : Invitation) : Invitation := { invitation with role := role }

def Member.regraded (role : Role) (member : Member) : Member := { member with role := role }

def Member.activated (sub : String) (member : Member) : Member := { member with status := .active, clerkUserId := sub }

section

variable (casing : Casing)

-- A row is normalized again whenever it is saved.
def newInvitation (roster : Roster) (tenant : Uuid) (email : String) (role : Role) : Invitation :=
  ⟨roster.invitations.length, tenant, casing.normalizeEmail email, role, .pending⟩

def newMember (roster : Roster) (tenant : Uuid) (email : String) (role : Role) : Member :=
  ⟨roster.issued, tenant, casing.normalizeEmail email, role, .pending, "", some roster.invitations.length⟩

def inviteMember (roster : Roster) (tenant : Uuid) (email role : String) : Except Problem Roster := do
  let email := casing.normalizeEmail email
  refuseIf (email = "" ∨ '@' ∉ email.toList) .emailRequired
  let role ← ((roleNamed role).map Except.ok).getD (.error (.unknownRole role))
  match roster.at tenant email with
  | some existing => .error (if existing.status = .active then .alreadyAMember else .alreadyInvited)
  | none => .ok { roster with
      invitations := roster.invitations ++ [newInvitation casing roster tenant email role]
      members := roster.members ++ [newMember casing roster tenant email role]
      issued := roster.issued + 1 }

end

-- The invitation is pending, so its member is dropped only while pending too.
def revokeInvitation (roster : Roster) (tenant : Uuid) (invitationId : Nat) : Except Problem Roster :=
  match roster.invitationOf tenant invitationId with
  | none => .error .invitationNotFound
  | some invitation =>
      match invitation.status with
      | .revoked => .ok roster
      | .accepted => .error .invitationAccepted
      | .pending => .ok { roster with
          invitations := writeInvitation roster.invitations invitation.id Invitation.revoked
          members := match roster.members.find? (fun member =>
              decide (member.invitation = some invitation.id) && decide (member.status = .pending)) with
            | none => roster.members
            | some member => roster.members.filter (fun other => decide (other.id ≠ member.id)) }

-- The roster is the tenant's own, locked row by row in one order.
def Roster.ofTenant (roster : Roster) (tenant : Uuid) : List Member :=
  roster.members.filter (fun member => decide (member.tenant = tenant))

def guardLastActiveAdmin (lockedMembers : List Member) (member : Member) (newRole : Option Role) : Except Problem Unit :=
  refuseIf (member.activeAdmin ∧ newRole ≠ some .admin ∧
    lockedMembers.countP (fun other => decide (other.id ≠ member.id) && other.activeAdmin) = 0) .lastActiveAdmin

def changeMemberRole (roster : Roster) (tenant : Uuid) (memberId : Nat) (newRole : String) : Except Problem Roster := do
  let role ← ((roleNamed newRole).map Except.ok).getD (.error (.unknownRole newRole))
  match roster.memberOf tenant memberId with
  | none => .error .memberNotFound
  | some member =>
      if member.role = role then .ok roster
      else do
        guardLastActiveAdmin (roster.ofTenant tenant) member (some role)
        .ok { roster with
          members := writeMember roster.members member.id (Member.regraded role)
          invitations := if member.status = .pending then
              linkedInvitation roster.invitations member.invitation (Invitation.regraded role)
            else roster.invitations }

def removeMember (roster : Roster) (tenant : Uuid) (memberId : Nat) : Except Problem Roster :=
  match roster.memberOf tenant memberId with
  | none => .error .memberNotFound
  | some member => do
      guardLastActiveAdmin (roster.ofTenant tenant) member none
      .ok { roster with
        members := roster.members.filter (fun other => decide (other.id ≠ member.id))
        invitations := linkedInvitation roster.invitations member.invitation Invitation.revoked }

-- The owner joins as any teammate does; an address already there is left.
def bootstrapOwnerAdmin (casing : Casing) (roster : Roster) (tenant : Uuid) (ownerEmail : String) : Except Problem Roster :=
  let email := casing.normalizeEmail ownerEmail
  if email = "" then .ok roster
  else
    match roster.at tenant email with
    | some _ => .ok roster
    | none => inviteMember casing roster tenant email "admin"

def Roster.actives (roster : Roster) (sub : String) : List Member :=
  roster.members.filter (fun member => decide (member.status = .active) && decide (member.clerkUserId = sub))

def Roster.pendings (roster : Roster) (email : String) : List Member :=
  roster.members.filter (fun member => decide (member.status = .pending) && decide (member.email = email))

-- The first read: who the subject already is. Two memberships are refused.
def knownSubject (roster : Roster) (claims : Claims) : Login :=
  if claims.sub = "" then .resolved none
  else
    match roster.actives claims.sub with
    | [] => .unknownSubject
    | [member] => .resolved (some member.id)
    | _ => .resolved none

def awaitedMember (roster : Roster) (email : String) : Login :=
  if email = "" then .resolved none
  else
    match roster.pendings email with
    | [member] => .matched member.id
    | _ => .resolved none

-- Under the member's lock. A row that is gone raises, and the resolution
-- answers no one.
def activateMember (roster : Roster) (memberId : Nat) (sub : String) : Roster × Login :=
  match roster.members.find? (fun member => decide (member.id = memberId)) with
  | none => (roster, .resolved none)
  | some locked =>
      if locked.status = .active then (roster, .resolved (some locked.id))
      else
        ({ roster with
            members := writeMember roster.members locked.id (Member.activated sub)
            invitations := linkedInvitation roster.invitations locked.invitation Invitation.accepted
            activations := roster.activations ++ [locked.id] }, .resolved (some locked.id))

inductive Event where
  | invite (tenant : Uuid) (email role : String)
  | bootstrap (tenant : Uuid) (ownerEmail : String)
  | revoke (tenant : Uuid) (invitationId : Nat)
  | changeRole (tenant : Uuid) (memberId : Nat) (newRole : String)
  | remove (tenant : Uuid) (memberId : Nat)
  | login (claims : Claims)
  | lookUp (login : Nat)
  | activate (login : Nat)
deriving DecidableEq, Repr

def orKept (roster : Roster) : Except Problem Roster → Roster
  | .ok next => next
  | .error _ => roster

def State.administer (state : State) (outcome : Except Problem Roster) : State :=
  { state with toRoster := orKept state.toRoster outcome }

def State.reach (state : State) (id : Nat) (stage : Login) : State := { state with logins := moved state.logins id stage }

def Casing.claims (casing : Casing) (claims : Claims) : Claims :=
  ⟨strip claims.sub, casing.normalizeEmail claims.email⟩

def step (casing : Casing) (state : State) : Event → State
  | .invite tenant email role => state.administer (inviteMember casing state.toRoster tenant email role)
  | .bootstrap tenant ownerEmail => state.administer (bootstrapOwnerAdmin casing state.toRoster tenant ownerEmail)
  | .revoke tenant invitationId => state.administer (revokeInvitation state.toRoster tenant invitationId)
  | .changeRole tenant memberId newRole => state.administer (changeMemberRole state.toRoster tenant memberId newRole)
  | .remove tenant memberId => state.administer (removeMember state.toRoster tenant memberId)
  | .login claims =>
      { state with logins := joined state.logins (casing.claims claims) (knownSubject state.toRoster (casing.claims claims)) }
  | .lookUp id =>
      match agentNamed state.logins id with
      | some ⟨_, claims, .unknownSubject⟩ => state.reach id (awaitedMember state.toRoster claims.email)
      | _ => state
  | .activate id =>
      match agentNamed state.logins id with
      | some ⟨_, claims, .matched memberId⟩ =>
          let (roster, stage) := activateMember state.toRoster memberId claims.sub
          { state.reach id stage with toRoster := roster }
      | _ => state

def noMembers : State := ⟨⟨[], [], 0, []⟩, []⟩

end Ubb.Membership
