import Ubb.Membership.Model

set_option autoImplicit false

-- Members and invitations stay two sides of one record, and a tenant that has
-- an Admin keeps one.
namespace Ubb.Membership

open Ubb.Library

structure Joins (invitation : Invitation) (member : Member) : Prop where
  link : member.invitation = some invitation.id
  tenant : invitation.tenant = member.tenant
  email : invitation.email = member.email
  waiting : member.status = .pending → invitation.status = .pending ∧ invitation.role = member.role
  taken : member.status = .active → invitation.status = .accepted

structure Coherent (roster : Roster) : Prop where
  ids : (roster.members.map Member.id).Nodup
  fresh : ∀ member ∈ roster.members, member.id < roster.issued
  addresses : (roster.members.map Member.address).Nodup
  numbered : roster.invitations.map Invitation.id = List.range roster.invitations.length
  links : ∀ one ∈ roster.members, ∀ other ∈ roster.members, one.invitation = other.invitation → one = other
  linked : ∀ member ∈ roster.members, ∃ invitation ∈ roster.invitations, Joins invitation member
  awaited : ∀ invitation ∈ roster.invitations, invitation.status = .pending →
    ∃ member ∈ roster.members, member.invitation = some invitation.id
  once : roster.activations.Nodup
  past : ∀ id ∈ roster.activations, id < roster.issued
  announced : ∀ member ∈ roster.members, member.status = .active ↔ member.id ∈ roster.activations

def Canonical (casing : Casing) (roster : Roster) : Prop :=
  ∀ member ∈ roster.members, casing.normalizeEmail member.email = member.email

def Relieved (roster : Roster) (member : Member) : Prop :=
  member.activeAdmin = true →
    ∃ other ∈ roster.members, other.id ≠ member.id ∧ other.tenant = member.tenant ∧ other.activeAdmin = true

inductive Administered (casing : Casing) (roster next : Roster) : Prop
  | kept (members : next.members = roster.members) (invitations : next.invitations = roster.invitations)
      (issued : next.issued = roster.issued) (activations : next.activations = roster.activations)
  | invited (tenant : Uuid) (email : String) (role : Role) (canonical : casing.normalizeEmail email = email)
      (free : roster.at tenant email = none)
      (members : next.members = roster.members ++
        [⟨roster.issued, tenant, email, role, .pending, "", some roster.invitations.length⟩])
      (invitations : next.invitations = roster.invitations ++ [⟨roster.invitations.length, tenant, email, role, .pending⟩])
      (issued : next.issued = roster.issued + 1) (activations : next.activations = roster.activations)
  | dropped (member : Member) (inside : member ∈ roster.members) (relieved : Relieved roster member)
      (members : next.members = roster.members.filter (fun other => decide (other.id ≠ member.id)))
      (invitations : next.invitations = linkedInvitation roster.invitations member.invitation Invitation.revoked)
      (issued : next.issued = roster.issued) (activations : next.activations = roster.activations)
  | regraded (member : Member) (role : Role) (inside : member ∈ roster.members)
      (relieved : role ≠ .admin → Relieved roster member)
      (members : next.members = writeMember roster.members member.id (Member.regraded role))
      (invitations : next.invitations = if member.status = .pending then
          linkedInvitation roster.invitations member.invitation (Invitation.regraded role) else roster.invitations)
      (issued : next.issued = roster.issued) (activations : next.activations = roster.activations)

inductive RosterMove (casing : Casing) (roster next : Roster) : Prop
  | administered (act : Administered casing roster next)
  | activated (member : Member) (sub : String) (inside : member ∈ roster.members) (waiting : member.status = .pending)
      (members : next.members = writeMember roster.members member.id (Member.activated sub))
      (invitations : next.invitations = linkedInvitation roster.invitations member.invitation Invitation.accepted)
      (issued : next.issued = roster.issued) (activations : next.activations = roster.activations ++ [member.id])

theorem kept_self (casing : Casing) (roster : Roster) : Administered casing roster roster := .kept rfl rfl rfl rfl

theorem member_of_some (roster : Roster) (tenant : Uuid) (id : Nat) (member : Member)
    (found : roster.memberOf tenant id = some member) : member ∈ roster.members ∧ member.id = id ∧ member.tenant = tenant := by
  have matched := List.find?_some found
  rw [Bool.and_eq_true, decide_eq_true_iff, decide_eq_true_iff] at matched
  exact ⟨List.mem_of_find?_eq_some found, matched⟩

theorem guard_relieved (roster : Roster) (member : Member) (newRole : Option Role) (lost : newRole ≠ some .admin)
    (passed : guardLastActiveAdmin (roster.ofTenant member.tenant) member newRole = .ok ()) : Relieved roster member := by
  intro holds
  rw [guardLastActiveAdmin, refuse_if_eq_ok] at passed
  have stands : (roster.ofTenant member.tenant).countP (fun other => decide (other.id ≠ member.id) && other.activeAdmin) ≠ 0 :=
    fun none_left => passed ⟨holds, lost, none_left⟩
  obtain ⟨other, listed, stays⟩ := List.countP_pos_iff.mp (Nat.pos_of_ne_zero stands)
  rw [Roster.ofTenant, List.mem_filter, decide_eq_true_iff] at listed
  rw [Bool.and_eq_true, decide_eq_true_iff] at stays
  exact ⟨other, listed.1, stays.1, listed.2, stays.2⟩

section

variable (casing : Casing)

theorem invite_moves (roster next : Roster) (tenant : Uuid) (email role : String)
    (done : inviteMember casing roster tenant email role = .ok next) : Administered casing roster next := by
  simp only [inviteMember, bind_eq_ok] at done
  obtain ⟨_, _, level, _, created⟩ := done
  split at created
  · cases created
  · rename_i free
    cases created
    exact .invited tenant (casing.normalizeEmail email) level (normalize_email_idempotent casing email) free (by rw [newMember, normalize_email_idempotent casing])
      (by rw [newInvitation, normalize_email_idempotent casing]) rfl rfl

theorem or_kept_moves (roster : Roster) (outcome : Except Problem Roster)
    (moves : ∀ next, outcome = .ok next → Administered casing roster next) : Administered casing roster (orKept roster outcome) := by
  cases outcome with
  | error problem => exact kept_self casing roster
  | ok next => exact moves next rfl

theorem revoke_moves (roster next : Roster) (coherent : Coherent roster) (tenant : Uuid) (invitationId : Nat)
    (done : revokeInvitation roster tenant invitationId = .ok next) : Administered casing roster next := by
  rw [revokeInvitation] at done
  split at done
  · cases done
  · rename_i invitation found
    split at done
    · cases done
      exact kept_self casing roster
    · cases done
    · rename_i waiting
      have listed := List.mem_of_find?_eq_some found
      have distinct : (roster.invitations.map Invitation.id).Nodup := by
        rw [coherent.numbered]
        exact List.nodup_range
      obtain ⟨member, inside, link⟩ := coherent.awaited invitation listed waiting
      obtain ⟨other, otherListed, joins⟩ := coherent.linked member inside
      have same := List.inj_on_of_nodup_map distinct otherListed listed (Option.some.inj (joins.link.symm.trans link))
      subst same
      have pending : member.status = .pending := by
        cases status : member.status with
        | pending => rfl
        | active => cases waiting.symm.trans (joins.taken status)
      have unique : roster.members.find? (fun candidate =>
          decide (candidate.invitation = some other.id) && decide (candidate.status = .pending)) = some member := by
        cases search : roster.members.find? (fun candidate =>
            decide (candidate.invitation = some other.id) && decide (candidate.status = .pending)) with
        | none =>
          have missed := List.find?_eq_none.mp search member inside
          rw [link, pending] at missed
          simp at missed
        | some held =>
          have matched := List.find?_some search
          rw [Bool.and_eq_true, decide_eq_true_iff, decide_eq_true_iff] at matched
          rw [coherent.links held (List.mem_of_find?_eq_some search) member inside (matched.1.trans link.symm)]
      rw [unique] at done
      cases done
      refine .dropped member inside ?_ rfl ?_ rfl rfl
      · intro holds
        rw [Member.activeAdmin, pending] at holds
        cases holds
      · rw [link]
        apply List.map_congr_left
        intro row rowListed
        by_cases hit : row.id = other.id
        · have sameRow := List.inj_on_of_nodup_map distinct rowListed otherListed hit
          rw [if_pos hit, if_pos hit, Invitation.whilePending, sameRow, if_pos waiting]
        · rw [if_neg hit, if_neg hit]

theorem change_role_moves (roster next : Roster) (tenant : Uuid) (memberId : Nat) (newRole : String)
    (done : changeMemberRole roster tenant memberId newRole = .ok next) : Administered casing roster next := by
  simp only [changeMemberRole, bind_eq_ok] at done
  obtain ⟨role, _, changed⟩ := done
  split at changed
  · cases changed
  · rename_i member found
    obtain ⟨inside, _, owned⟩ := member_of_some roster tenant memberId member found
    split at changed
    · cases changed
      exact kept_self casing roster
    · rw [bind_eq_ok] at changed
      obtain ⟨_, passed, same⟩ := changed
      cases same
      subst owned
      refine .regraded member role inside ?_ rfl rfl rfl rfl
      intro lost
      exact guard_relieved roster member (some role) (fun same => lost (Option.some.inj same)) passed

theorem remove_moves (roster next : Roster) (tenant : Uuid) (memberId : Nat)
    (done : removeMember roster tenant memberId = .ok next) : Administered casing roster next := by
  rw [removeMember] at done
  split at done
  · cases done
  · rename_i member found
    obtain ⟨inside, _, owned⟩ := member_of_some roster tenant memberId member found
    rw [bind_eq_ok] at done
    obtain ⟨_, passed, same⟩ := done
    cases same
    subst owned
    exact .dropped member inside (guard_relieved roster member none nofun passed) rfl rfl rfl rfl

theorem activate_moves (roster : Roster) (memberId : Nat) (sub : String) :
    (activateMember roster memberId sub).1 = roster ∨
      ∃ locked ∈ roster.members, locked.status = .pending ∧ (activateMember roster memberId sub).1 = { roster with
        members := writeMember roster.members locked.id (Member.activated sub)
        invitations := linkedInvitation roster.invitations locked.invitation Invitation.accepted
        activations := roster.activations ++ [locked.id] } := by
  rw [activateMember]
  split
  · exact .inl rfl
  · rename_i locked found
    split
    · exact .inl rfl
    · rename_i waiting
      have pending : locked.status = .pending := by
        cases status : locked.status with
        | pending => rfl
        | active => exact absurd status waiting
      exact .inr ⟨locked, List.mem_of_find?_eq_some found, pending, rfl⟩

def Event.activates : Event → Bool
  | .activate _ => true
  | _ => false

theorem administered_step (state : State) (coherent : Coherent state.toRoster) (event : Event)
    (calm : event.activates = false) : Administered casing state.toRoster (step casing state event).toRoster := by
  cases event with
  | invite tenant email role =>
    exact or_kept_moves casing _ _ (fun next done => invite_moves casing state.toRoster next tenant email role done)
  | bootstrap tenant ownerEmail =>
    apply or_kept_moves casing
    intro next done
    rw [bootstrapOwnerAdmin] at done
    split at done
    · cases done
      exact kept_self casing state.toRoster
    · split at done
      · cases done
        exact kept_self casing state.toRoster
      · exact invite_moves casing state.toRoster next tenant _ "admin" done
  | revoke tenant invitationId =>
    exact or_kept_moves casing _ _ (fun next done => revoke_moves casing state.toRoster next coherent tenant invitationId done)
  | changeRole tenant memberId newRole =>
    exact or_kept_moves casing _ _ (fun next done => change_role_moves casing state.toRoster next tenant memberId newRole done)
  | remove tenant memberId =>
    exact or_kept_moves casing _ _ (fun next done => remove_moves casing state.toRoster next tenant memberId done)
  | login claims => exact kept_self casing state.toRoster
  | lookUp id =>
    rw [step]
    split
    · exact kept_self casing state.toRoster
    · exact kept_self casing state.toRoster
  | activate id => cases calm

theorem step_moves (state : State) (coherent : Coherent state.toRoster) (event : Event) :
    RosterMove casing state.toRoster (step casing state event).toRoster := by
  cases calm : event.activates with
  | false => exact .administered (administered_step casing state coherent event calm)
  | true =>
    cases event with
    | activate id =>
      rw [step]
      split
      · rename_i named claims memberId found
        show RosterMove casing state.toRoster (activateMember state.toRoster memberId claims.sub).1
        rcases activate_moves state.toRoster memberId claims.sub with same | ⟨locked, inside, waiting, same⟩
        · rw [same]
          exact .administered (kept_self casing state.toRoster)
        · rw [same]
          exact .activated locked claims.sub inside waiting rfl rfl rfl rfl
      · exact .administered (kept_self casing state.toRoster)
    | _ => cases calm

end

theorem joins_distinct (roster : Roster) (coherent : Coherent roster) (member : Member) (one other : Invitation)
    (oneListed : one ∈ roster.invitations) (otherListed : other ∈ roster.invitations)
    (oneLink : member.invitation = some one.id) (otherLink : member.invitation = some other.id) : one = other := by
  have distinct : (roster.invitations.map Invitation.id).Nodup := by
    rw [coherent.numbered]
    exact List.nodup_range
  exact List.inj_on_of_nodup_map distinct oneListed otherListed (Option.some.inj (oneLink.symm.trans otherLink))

theorem while_pending_id (write : Invitation → Invitation) (keeps : ∀ invitation, (write invitation).id = invitation.id)
    (invitation : Invitation) : (Invitation.whilePending write invitation).id = invitation.id := by
  rw [Invitation.whilePending]
  split
  · exact keeps invitation
  · rfl

theorem linked_ids (invitations : List Invitation) (linked : Option Nat) (write : Invitation → Invitation)
    (keeps : ∀ invitation, (write invitation).id = invitation.id) :
    (linkedInvitation invitations linked write).map Invitation.id = invitations.map Invitation.id := by
  cases linked with
  | none => rfl
  | some id =>
    exact update_row_map Invitation.id id _ invitations Invitation.id (while_pending_id write keeps)

theorem linked_mem (invitations : List Invitation) (id : Nat) (write : Invitation → Invitation) (found : Invitation)
    (member : found ∈ linkedInvitation invitations (some id) write) :
    (found ∈ invitations ∧ found.id ≠ id) ∨ ∃ row ∈ invitations, row.id = id ∧ found = Invitation.whilePending write row :=
  mem_update_row Invitation.id id _ invitations found member

theorem coherent_rewritten (roster next : Roster) (coherent : Coherent roster) (member : Member) (inside : member ∈ roster.members)
    (save : Member → Member) (write : Invitation → Invitation) (same : ∀ row, (save row).id = row.id)
    (address : ∀ row, (save row).address = row.address) (link : ∀ row, (save row).invitation = row.invitation)
    (keeps : ∀ row, (write row).id = row.id)
    (agrees : ∀ invitation, Joins invitation member → Joins (Invitation.whilePending write invitation) (save member))
    (members : next.members = writeMember roster.members member.id save)
    (invitations : next.invitations = linkedInvitation roster.invitations member.invitation write)
    (issued : next.issued = roster.issued) (once : next.activations.Nodup) (past : ∀ id ∈ next.activations, id < roster.issued)
    (others : ∀ other ∈ roster.members, other.id ≠ member.id → (other.id ∈ next.activations ↔ other.id ∈ roster.activations))
    (itself : (save member).status = .active ↔ member.id ∈ next.activations) : Coherent next := by
  obtain ⟨invitation, listed, joins⟩ := coherent.linked member inside
  rw [joins.link] at invitations
  -- Each row of the roster is an old one, rewritten if it is the member's.
  have rows : ∀ row ∈ next.members, (row ∈ roster.members ∧ row.id ≠ member.id) ∨ row = save member := by
    intro row listed
    rw [members] at listed
    rcases mem_update_row Member.id member.id save roster.members row listed with old | ⟨old, oldInside, hit, rfl⟩
    · exact .inl old
    · exact .inr (by rw [List.inj_on_of_nodup_map coherent.ids oldInside inside hit])
  have original : ∀ row ∈ next.members, ∃ old ∈ roster.members, row.id = old.id ∧ row.invitation = old.invitation := by
    intro row listed
    rcases rows row listed with ⟨old, _⟩ | rfl
    · exact ⟨row, old, rfl, rfl⟩
    · exact ⟨member, inside, same member, link member⟩
  have stays : ∀ old ∈ roster.members, ∃ row ∈ next.members, row.invitation = old.invitation := by
    intro old oldInside
    rw [members]
    by_cases hit : old.id = member.id
    · exact ⟨save old, List.mem_map.mpr ⟨old, oldInside, if_pos hit⟩, link old⟩
    · exact ⟨old, update_row_other Member.id member.id save roster.members old oldInside hit, rfl⟩
  refine ⟨?_, ?_, ?_, ?_, ?_, ?_, ?_, once, ?_, ?_⟩
  · rw [members, writeMember, update_row_map Member.id member.id save roster.members Member.id same]
    exact coherent.ids
  · intro row listed
    obtain ⟨old, oldInside, sameId, _⟩ := original row listed
    rw [issued, sameId]
    exact coherent.fresh old oldInside
  · rw [members, writeMember, update_row_map Member.id member.id save roster.members Member.address address]
    exact coherent.addresses
  · rw [invitations, linked_ids roster.invitations _ write keeps, coherent.numbered]
    rw [linkedInvitation, writeInvitation, updateRow, List.length_map]
  · intro one oneListed other otherListed sameLink
    obtain ⟨oldOne, oldOneInside, oneId, oneLink⟩ := original one oneListed
    obtain ⟨oldOther, oldOtherInside, otherId, otherLink⟩ := original other otherListed
    have sameOld := coherent.links oldOne oldOneInside oldOther oldOtherInside
      (oneLink.symm.trans (sameLink.trans otherLink))
    have sameId : one.id = other.id := by rw [oneId, otherId, sameOld]
    rcases rows one oneListed with ⟨oneOld, oneOther⟩ | oneSaved
    · rcases rows other otherListed with ⟨otherOld, _⟩ | otherSaved
      · exact List.inj_on_of_nodup_map coherent.ids oneOld otherOld sameId
      · exact absurd (by rw [sameId, otherSaved, same]) oneOther
    · rcases rows other otherListed with ⟨_, otherOther⟩ | otherSaved
      · exact absurd (by rw [← sameId, oneSaved, same]) otherOther
      · rw [oneSaved, otherSaved]
  · intro row rowListed
    rw [invitations]
    rcases rows row rowListed with ⟨old, other⟩ | rfl
    · obtain ⟨held, heldListed, heldJoins⟩ := coherent.linked row old
      refine ⟨held, ?_, heldJoins⟩
      apply update_row_other Invitation.id invitation.id _ roster.invitations held heldListed
      intro sameId
      have sameLink : row.invitation = member.invitation := by rw [heldJoins.link, joins.link, sameId]
      exact other (congrArg Member.id (coherent.links row old member inside sameLink))
    · exact ⟨Invitation.whilePending write invitation,
        List.mem_map.mpr ⟨invitation, listed, if_pos rfl⟩, agrees invitation joins⟩
  · intro held heldListed waiting
    rw [invitations] at heldListed
    rcases linked_mem roster.invitations invitation.id write held heldListed with ⟨old, _⟩ | ⟨row, rowListed, hit, rfl⟩
    · obtain ⟨holder, holderInside, holderLink⟩ := coherent.awaited held old waiting
      obtain ⟨still, stillListed, sameLink⟩ := stays holder holderInside
      exact ⟨still, stillListed, sameLink.trans holderLink⟩
    · obtain ⟨still, stillListed, sameLink⟩ := stays member inside
      refine ⟨still, stillListed, ?_⟩
      rw [sameLink, joins.link, while_pending_id write keeps, hit]
  · rw [issued]
    exact past
  · intro row rowListed
    rcases rows row rowListed with ⟨old, other⟩ | rfl
    · rw [others row old other]
      exact coherent.announced row old
    · rw [same]
      exact itself

theorem coherent_dropped (roster next : Roster) (coherent : Coherent roster) (member : Member) (inside : member ∈ roster.members)
    (members : next.members = roster.members.filter (fun other => decide (other.id ≠ member.id)))
    (invitations : next.invitations = linkedInvitation roster.invitations member.invitation Invitation.revoked)
    (issued : next.issued = roster.issued) (activations : next.activations = roster.activations) : Coherent next := by
  obtain ⟨invitation, listed, joins⟩ := coherent.linked member inside
  rw [joins.link] at invitations
  have rows : ∀ row ∈ next.members, row ∈ roster.members ∧ row.id ≠ member.id := by
    intro row rowListed
    rw [members, List.mem_filter, decide_eq_true_iff] at rowListed
    exact rowListed
  refine ⟨?_, ?_, ?_, ?_, ?_, ?_, ?_, ?_, ?_, ?_⟩
  · rw [members]
    exact coherent.ids.sublist (List.filter_sublist.map Member.id)
  · intro row rowListed
    rw [issued]
    exact coherent.fresh row (rows row rowListed).1
  · rw [members]
    exact coherent.addresses.sublist (List.filter_sublist.map Member.address)
  · rw [invitations, linked_ids roster.invitations _ Invitation.revoked (fun _ => rfl), coherent.numbered]
    rw [linkedInvitation, writeInvitation, updateRow, List.length_map]
  · intro one oneListed other otherListed
    exact coherent.links one (rows one oneListed).1 other (rows other otherListed).1
  · intro row rowListed
    obtain ⟨old, other⟩ := rows row rowListed
    obtain ⟨held, heldListed, heldJoins⟩ := coherent.linked row old
    refine ⟨held, ?_, heldJoins⟩
    rw [invitations]
    apply update_row_other Invitation.id invitation.id _ roster.invitations held heldListed
    intro sameId
    have sameLink : row.invitation = member.invitation := by rw [heldJoins.link, joins.link, sameId]
    exact other (congrArg Member.id (coherent.links row old member inside sameLink))
  · intro held heldListed waiting
    rw [invitations] at heldListed
    rcases linked_mem roster.invitations invitation.id Invitation.revoked held heldListed with
      ⟨old, unlike⟩ | ⟨row, rowListed, hit, rfl⟩
    · obtain ⟨holder, holderInside, holderLink⟩ := coherent.awaited held old waiting
      refine ⟨holder, ?_, holderLink⟩
      rw [members, List.mem_filter, decide_eq_true_iff]
      refine ⟨holderInside, ?_⟩
      intro sameId
      have sameHolder := List.inj_on_of_nodup_map coherent.ids holderInside inside sameId
      rw [sameHolder, joins.link, Option.some.injEq] at holderLink
      exact unlike holderLink.symm
    · rw [Invitation.whilePending] at waiting
      split at waiting
      · cases waiting
      · rename_i settled
        exact absurd waiting settled
  · rw [activations]
    exact coherent.once
  · rw [activations, issued]
    exact coherent.past
  · intro row rowListed
    rw [activations]
    exact coherent.announced row (rows row rowListed).1

theorem coherent_invited (roster next : Roster) (coherent : Coherent roster) (tenant : Uuid) (email : String) (role : Role)
    (free : roster.at tenant email = none)
    (members : next.members = roster.members ++
      [⟨roster.issued, tenant, email, role, .pending, "", some roster.invitations.length⟩])
    (invitations : next.invitations = roster.invitations ++ [⟨roster.invitations.length, tenant, email, role, .pending⟩])
    (issued : next.issued = roster.issued + 1) (activations : next.activations = roster.activations) : Coherent next := by
  have rows : ∀ row ∈ next.members, row ∈ roster.members ∨
      row = ⟨roster.issued, tenant, email, role, .pending, "", some roster.invitations.length⟩ := by
    intro row listed
    rw [members, List.mem_append, List.mem_singleton] at listed
    exact listed
  have below : ∀ invitation ∈ roster.invitations, invitation.id < roster.invitations.length := by
    intro invitation listed
    have named : invitation.id ∈ roster.invitations.map Invitation.id := List.mem_map_of_mem listed
    rwa [coherent.numbered, List.mem_range] at named
  have linkedBelow : ∀ member ∈ roster.members, member.invitation ≠ some roster.invitations.length := by
    intro member inside same
    obtain ⟨held, heldListed, heldJoins⟩ := coherent.linked member inside
    rw [heldJoins.link, Option.some.injEq] at same
    exact absurd same (Nat.ne_of_lt (below held heldListed))
  refine ⟨?_, ?_, ?_, ?_, ?_, ?_, ?_, ?_, ?_, ?_⟩
  · rw [members]
    exact nodup_add_row Member.id roster.members _ coherent.ids
      (fun other inside => Nat.ne_of_lt (coherent.fresh other inside))
  · intro row listed
    rw [issued]
    rcases rows row listed with old | rfl
    · exact Nat.lt_succ_of_lt (coherent.fresh row old)
    · exact Nat.lt_succ_self _
  · rw [members]
    exact nodup_add_row Member.address roster.members _ coherent.addresses
      (find_key_none Member.address (tenant, email) roster.members free)
  · rw [invitations, List.map_append, coherent.numbered, List.length_append, List.length_singleton, List.range_succ]
    rfl
  · intro one oneListed other otherListed sameLink
    rcases rows one oneListed with oneOld | rfl
    · rcases rows other otherListed with otherOld | rfl
      · exact coherent.links one oneOld other otherOld sameLink
      · exact absurd sameLink (linkedBelow one oneOld)
    · rcases rows other otherListed with otherOld | rfl
      · exact absurd sameLink.symm (linkedBelow other otherOld)
      · rfl
  · intro row listed
    rw [invitations]
    rcases rows row listed with old | rfl
    · obtain ⟨held, heldListed, heldJoins⟩ := coherent.linked row old
      exact ⟨held, List.mem_append_left _ heldListed, heldJoins⟩
    · exact ⟨_, List.mem_append_right _ List.mem_cons_self, rfl, rfl, rfl, fun _ => ⟨rfl, rfl⟩, nofun⟩
  · intro held heldListed waiting
    rw [invitations, List.mem_append, List.mem_singleton] at heldListed
    rw [members]
    rcases heldListed with old | rfl
    · obtain ⟨holder, holderInside, holderLink⟩ := coherent.awaited held old waiting
      exact ⟨holder, List.mem_append_left _ holderInside, holderLink⟩
    · exact ⟨_, List.mem_append_right _ List.mem_cons_self, rfl⟩
  · rw [activations]
    exact coherent.once
  · intro id listed
    rw [activations] at listed
    rw [issued]
    exact Nat.lt_succ_of_lt (coherent.past id listed)
  · intro row listed
    rw [activations]
    rcases rows row listed with old | rfl
    · exact coherent.announced row old
    · refine ⟨nofun, fun listed => ?_⟩
      exact absurd (coherent.past roster.issued listed) (Nat.lt_irrefl _)

theorem coherent_regraded (roster next : Roster) (coherent : Coherent roster) (member : Member) (role : Role)
    (inside : member ∈ roster.members) (members : next.members = writeMember roster.members member.id (Member.regraded role))
    (invitations : next.invitations = if member.status = .pending then
      linkedInvitation roster.invitations member.invitation (Invitation.regraded role) else roster.invitations)
    (issued : next.issued = roster.issued) (activations : next.activations = roster.activations) : Coherent next := by
  -- The invitation of an active member is no pending one, and is left alone.
  have written : next.invitations = linkedInvitation roster.invitations member.invitation (Invitation.regraded role) := by
    rw [invitations]
    split
    · rfl
    · rename_i settled
      obtain ⟨invitation, listed, joins⟩ := coherent.linked member inside
      have active : member.status = .active := by
        cases status : member.status with
        | pending => exact absurd status settled
        | active => rfl
      have distinct : (roster.invitations.map Invitation.id).Nodup := by
        rw [coherent.numbered]
        exact List.nodup_range
      rw [joins.link, linkedInvitation, writeInvitation, updateRow]
      conv_lhs => rw [← List.map_id roster.invitations]
      apply List.map_congr_left
      intro row rowListed
      split
      · rename_i hit
        have same := List.inj_on_of_nodup_map distinct rowListed listed hit
        rw [Invitation.whilePending, same, joins.taken active]
        rfl
      · rfl
  apply coherent_rewritten roster next coherent member inside (Member.regraded role) (Invitation.regraded role) (fun _ => rfl)
    (fun _ => rfl) (fun _ => rfl) (fun _ => rfl) ?_ members written issued
  · rw [activations]
    exact coherent.once
  · rw [activations]
    exact coherent.past
  · rw [activations]
    exact fun _ _ _ => Iff.rfl
  · rw [activations]
    exact coherent.announced member inside
  · intro invitation joins
    rw [Invitation.whilePending]
    split
    · rename_i waiting
      refine ⟨joins.link, joins.tenant, joins.email, fun _ => ⟨waiting, rfl⟩, ?_⟩
      intro active
      cases waiting.symm.trans (joins.taken active)
    · rename_i settled
      exact ⟨joins.link, joins.tenant, joins.email, fun pending => absurd (joins.waiting pending).1 settled, joins.taken⟩

theorem coherent_activated (roster next : Roster) (coherent : Coherent roster) (member : Member) (sub : String)
    (inside : member ∈ roster.members) (waiting : member.status = .pending)
    (members : next.members = writeMember roster.members member.id (Member.activated sub))
    (invitations : next.invitations = linkedInvitation roster.invitations member.invitation Invitation.accepted)
    (issued : next.issued = roster.issued) (activations : next.activations = roster.activations ++ [member.id]) :
    Coherent next := by
  have unannounced : member.id ∉ roster.activations := by
    intro announced
    cases waiting.symm.trans ((coherent.announced member inside).mpr announced)
  apply coherent_rewritten roster next coherent member inside (Member.activated sub) Invitation.accepted (fun _ => rfl)
    (fun _ => rfl) (fun _ => rfl) (fun _ => rfl) ?_ members invitations issued
  · rw [activations, List.nodup_append]
    refine ⟨coherent.once, List.nodup_singleton _, ?_⟩
    intro id announced other new same
    rw [List.mem_singleton] at new
    exact unannounced (by rw [← new, ← same]; exact announced)
  · intro id listed
    rw [activations, List.mem_append, List.mem_singleton] at listed
    rcases listed with old | rfl
    · exact coherent.past id old
    · exact coherent.fresh member inside
  · intro other _ unlike
    rw [activations, List.mem_append, List.mem_singleton]
    exact or_iff_left unlike
  · rw [activations]
    exact iff_of_true rfl (List.mem_append_right _ List.mem_cons_self)
  · intro invitation joins
    rw [Invitation.whilePending, if_pos (joins.waiting waiting).1]
    exact ⟨joins.link, joins.tenant, joins.email, nofun, fun _ => rfl⟩

theorem coherent_move (casing : Casing) (roster next : Roster) (coherent : Coherent roster) (move : RosterMove casing roster next) : Coherent next := by
  cases move with
  | administered act =>
    cases act with
    | kept members invitations issued activations =>
      refine ⟨?_, ?_, ?_, ?_, ?_, ?_, ?_, ?_, ?_, ?_⟩
      · rw [members]
        exact coherent.ids
      · rw [members, issued]
        exact coherent.fresh
      · rw [members]
        exact coherent.addresses
      · rw [invitations]
        exact coherent.numbered
      · rw [members]
        exact coherent.links
      · rw [members, invitations]
        exact coherent.linked
      · rw [members, invitations]
        exact coherent.awaited
      · rw [activations]
        exact coherent.once
      · rw [activations, issued]
        exact coherent.past
      · rw [members, activations]
        exact coherent.announced
    | invited tenant email role canonical free members invitations issued activations =>
      exact coherent_invited roster next coherent tenant email role free members invitations issued activations
    | dropped member inside relieved members invitations issued activations =>
      exact coherent_dropped roster next coherent member inside members invitations issued activations
    | regraded member role inside relieved members invitations issued activations =>
      exact coherent_regraded roster next coherent member role inside members invitations issued activations
  | activated member sub inside waiting members invitations issued activations =>
    exact coherent_activated roster next coherent member sub inside waiting members invitations issued activations

theorem no_members_coherent : Coherent noMembers.toRoster where
  ids := List.nodup_nil
  fresh := by simp [noMembers]
  addresses := List.nodup_nil
  numbered := rfl
  links := by simp [noMembers]
  linked := by simp [noMembers]
  awaited := by simp [noMembers]
  once := List.nodup_nil
  past := by simp [noMembers]
  announced := by simp [noMembers]

section

variable (casing : Casing)

theorem coherent_step (state : State) (coherent : Coherent state.toRoster) (event : Event) :
    Coherent (step casing state event).toRoster :=
  coherent_move casing state.toRoster _ coherent (step_moves casing state coherent event)

theorem run_coherent (events : List Event) : Coherent (run (step casing) noMembers events).toRoster :=
  run_invariant (step casing) (fun state => Coherent state.toRoster) (fun _ => True)
    (fun state event coherent _ => coherent_step casing state coherent event) noMembers events no_members_coherent (by simp)

theorem canonical_move (roster next : Roster) (canonical : Canonical casing roster) (move : RosterMove casing roster next) :
    Canonical casing next := by
  intro row listed
  cases move with
  | administered act =>
    cases act with
    | kept members invitations issued activations =>
      rw [members] at listed
      exact canonical row listed
    | invited tenant email role normal free members invitations issued activations =>
      rw [members, List.mem_append, List.mem_singleton] at listed
      rcases listed with old | rfl
      · exact canonical row old
      · exact normal
    | dropped member inside relieved members invitations issued activations =>
      rw [members, List.mem_filter] at listed
      exact canonical row listed.1
    | regraded member role inside relieved members invitations issued activations =>
      rw [members] at listed
      rcases mem_update_row Member.id member.id _ roster.members row listed with ⟨old, _⟩ | ⟨old, oldInside, _, rfl⟩
      · exact canonical row old
      · exact canonical old oldInside
  | activated member sub inside waiting members invitations issued activations =>
    rw [members] at listed
    rcases mem_update_row Member.id member.id _ roster.members row listed with ⟨old, _⟩ | ⟨old, oldInside, _, rfl⟩
    · exact canonical row old
    · exact canonical old oldInside

theorem run_canonical (events : List Event) : Canonical casing (run (step casing) noMembers events).toRoster := by
  have kept := run_invariant (step casing) (fun state => Coherent state.toRoster ∧ Canonical casing state.toRoster)
    (fun _ => True) (fun state event sound _ => ⟨coherent_step casing state sound.1 event,
      canonical_move casing state.toRoster _ sound.2 (step_moves casing state sound.1 event)⟩)
    noMembers events ⟨no_members_coherent, by simp [Canonical, noMembers]⟩ (by simp)
  exact kept.2

theorem roster_coherent (events : List Event) :
    let reached := run (step casing) noMembers events
    (reached.members.map Member.address).Nodup ∧
      (∀ member ∈ reached.members, casing.normalizeEmail member.email = member.email) ∧
      (∀ invitation ∈ reached.invitations, invitation.status = .pending ↔
        ∃! member, member ∈ reached.members ∧ member.status = .pending ∧ member.invitation = some invitation.id ∧
          member.address = (invitation.tenant, invitation.email) ∧ member.role = invitation.role) ∧
      (∀ invitation ∈ reached.invitations, invitation.status = .revoked →
        ∀ member ∈ reached.members, member.invitation ≠ some invitation.id) ∧
      reached.activations.Nodup ∧
      ∀ member ∈ reached.members, member.status = .active ↔ member.id ∈ reached.activations := by
  intro reached
  have coherent : Coherent reached.toRoster := run_coherent casing events
  refine ⟨coherent.addresses, run_canonical casing events, ?_, ?_, coherent.once, coherent.announced⟩
  · intro invitation listed
    constructor
    · intro waiting
      obtain ⟨member, inside, link⟩ := coherent.awaited invitation listed waiting
      obtain ⟨other, otherListed, joins⟩ := coherent.linked member inside
      have same := joins_distinct reached.toRoster coherent member other invitation otherListed listed joins.link link
      subst same
      have pending : member.status = .pending := by
        cases status : member.status with
        | pending => rfl
        | active => cases waiting.symm.trans (joins.taken status)
      refine ⟨member, ⟨inside, pending, link, ?_, (joins.waiting pending).2.symm⟩, ?_⟩
      · rw [Member.address, joins.tenant, joins.email]
      · rintro held ⟨heldInside, _, heldLink, _⟩
        exact coherent.links held heldInside member inside (heldLink.trans link.symm)
    · rintro ⟨member, ⟨inside, pending, link, _⟩, _⟩
      obtain ⟨other, otherListed, joins⟩ := coherent.linked member inside
      rw [← joins_distinct reached.toRoster coherent member other invitation otherListed listed joins.link link]
      exact (joins.waiting pending).1
  · intro invitation listed revoked member inside link
    obtain ⟨other, otherListed, joins⟩ := coherent.linked member inside
    have same := joins_distinct reached.toRoster coherent member other invitation otherListed listed joins.link link
    subst same
    cases status : member.status with
    | pending => cases revoked.symm.trans (joins.waiting status).1
    | active => cases revoked.symm.trans (joins.taken status)

def hasActiveAdmin (roster : Roster) (tenant : Uuid) : Bool :=
  roster.members.any (fun member => decide (member.tenant = tenant) && member.activeAdmin)

theorem has_active_admin_iff (roster : Roster) (tenant : Uuid) : hasActiveAdmin roster tenant = true ↔
    ∃ member ∈ roster.members, member.tenant = tenant ∧ member.activeAdmin = true := by
  rw [hasActiveAdmin, List.any_eq_true]
  simp only [Bool.and_eq_true, decide_eq_true_iff]

theorem admin_kept_move (roster next : Roster) (coherent : Coherent roster) (move : RosterMove casing roster next) (tenant : Uuid)
    (held : hasActiveAdmin roster tenant = true) : hasActiveAdmin next tenant = true := by
  rw [has_active_admin_iff] at held ⊢
  obtain ⟨admin, listed, owned, acts⟩ := held
  cases move with
  | administered act =>
    cases act with
    | kept members invitations issued activations =>
      rw [members]
      exact ⟨admin, listed, owned, acts⟩
    | invited tenant email role canonical free members invitations issued activations =>
      rw [members]
      exact ⟨admin, List.mem_append_left _ listed, owned, acts⟩
    | dropped member inside relieved members invitations issued activations =>
      rw [members]
      by_cases hit : admin.id = member.id
      · have same := List.inj_on_of_nodup_map coherent.ids listed inside hit
        subst same
        obtain ⟨other, otherListed, unlike, shares, otherActs⟩ := relieved acts
        exact ⟨other, List.mem_filter.mpr ⟨otherListed, decide_eq_true unlike⟩, shares.trans owned, otherActs⟩
      · exact ⟨admin, List.mem_filter.mpr ⟨listed, decide_eq_true hit⟩, owned, acts⟩
    | regraded member role inside relieved members invitations issued activations =>
      rw [members]
      by_cases hit : admin.id = member.id
      · have same := List.inj_on_of_nodup_map coherent.ids listed inside hit
        subst same
        by_cases raised : role = .admin
        · refine ⟨admin.regraded role, List.mem_map.mpr ⟨admin, inside, if_pos rfl⟩, owned, ?_⟩
          rw [Member.activeAdmin, Bool.and_eq_true] at acts ⊢
          exact ⟨acts.1, decide_eq_true raised⟩
        · obtain ⟨other, otherListed, unlike, shares, otherActs⟩ := relieved raised acts
          exact ⟨other, update_row_other Member.id admin.id _ roster.members other otherListed unlike, shares.trans owned, otherActs⟩
      · exact ⟨admin, update_row_other Member.id member.id _ roster.members admin listed hit, owned, acts⟩
  | activated member sub inside waiting members invitations issued activations =>
    rw [members]
    have unlike : admin.id ≠ member.id := by
      intro hit
      rw [List.inj_on_of_nodup_map coherent.ids listed inside hit, Member.activeAdmin, waiting] at acts
      cases acts
    exact ⟨admin, update_row_other Member.id member.id _ roster.members admin listed unlike, owned, acts⟩

theorem an_active_admin_remains (before after : List Event) (tenant : Uuid)
    (held : hasActiveAdmin (run (step casing) noMembers before).toRoster tenant = true) :
    hasActiveAdmin (run (step casing) noMembers (before ++ after)).toRoster tenant = true := by
  rw [run_append]
  have kept := run_invariant (step casing)
    (fun state => Coherent state.toRoster ∧ hasActiveAdmin state.toRoster tenant = true) (fun _ => True)
    (fun state event sound _ => ⟨coherent_step casing state sound.1 event,
      admin_kept_move casing state.toRoster _ sound.1 (step_moves casing state sound.1 event) tenant sound.2⟩)
    (run (step casing) noMembers before) after ⟨run_coherent casing before, held⟩ (by simp)
  exact kept.2

end

def ownerJoins : List Event :=
  [.bootstrap ⟨"t1"⟩ " Owner@x.com", .login ⟨"user_1", "owner@x.com"⟩, .lookUp 0, .activate 0]

theorem owner_stays_admin :
    hasActiveAdmin (run (step asciiCasing) noMembers (ownerJoins ++ [.remove ⟨"t1"⟩ 0, .changeRole ⟨"t1"⟩ 0 "read"])).toRoster
      ⟨"t1"⟩ =
      true :=
  an_active_admin_remains asciiCasing ownerJoins [.remove ⟨"t1"⟩ 0, .changeRole ⟨"t1"⟩ 0 "read"] ⟨"t1"⟩ (by decide)

end Ubb.Membership
