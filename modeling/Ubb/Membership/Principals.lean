import Ubb.Membership.Roster

set_option autoImplicit false

-- Which member a verified subject is, while invitations and logins go on.
namespace Ubb.Membership

open Ubb.Library

def Login.unfinished : Login → Bool
  | .unknownSubject | .matched _ => true
  | .resolved _ => false

def unfinishedLogins (state : State) (sub : String) : Nat :=
  counting (fun claims stage => decide (claims.sub = sub) && stage.unfinished) state.logins

def isBoundTo (sub : String) (member : Member) : Bool :=
  decide (member.status = .active) && decide (member.clerkUserId = sub)

def memberships (roster : Roster) (sub : String) : Nat := roster.members.countP (isBoundTo sub)

def LoginsApart (state : State) : Event → Prop
  | .login claims => unfinishedLogins state (strip claims.sub) = 0
  | _ => True

instance decidableLoginsApart (state : State) (event : Event) : Decidable (LoginsApart state event) := by
  cases event <;> (unfold LoginsApart; infer_instance)

structure Principals (state : State) : Prop extends Coherent state.toRoster where
  loginsNumbered : Numbered state.logins
  single : ∀ sub, sub ≠ "" → memberships state.toRoster sub + unfinishedLogins state sub ≤ 1
  named : ∀ login ∈ state.logins, login.stage.unfinished = true → login.work.sub ≠ ""
  bound : ∀ member ∈ state.members, member.status = .active → member.clerkUserId ≠ ""

theorem administered_memberships (casing : Casing) (roster next : Roster) (coherent : Coherent roster) (act : Administered casing roster next) (sub : String) :
    memberships next sub ≤ memberships roster sub := by
  rw [memberships, memberships]
  cases act with
  | kept members invitations issued activations => rw [members]
  | invited tenant email role canonical free members invitations issued activations =>
    rw [members, List.countP_append]
    exact Nat.le_of_eq rfl
  | dropped member inside relieved members invitations issued activations =>
    rw [members]
    exact List.filter_sublist.countP_le
  | regraded member role inside relieved members invitations issued activations =>
    have counted := count_update_row Member.id member.id (Member.regraded role) (isBoundTo sub) roster.members member coherent.ids
      inside rfl
    have same : isBoundTo sub (member.regraded role) = isBoundTo sub member := rfl
    rw [members, writeMember]
    rw [same] at counted
    omega

theorem administered_bound (casing : Casing) (roster next : Roster) (act : Administered casing roster next)
    (bound : ∀ member ∈ roster.members, member.status = .active → member.clerkUserId ≠ "") :
    ∀ member ∈ next.members, member.status = .active → member.clerkUserId ≠ "" := by
  intro row listed active
  cases act with
  | kept members invitations issued activations =>
    rw [members] at listed
    exact bound row listed active
  | invited tenant email role canonical free members invitations issued activations =>
    rw [members, List.mem_append, List.mem_singleton] at listed
    rcases listed with old | rfl
    · exact bound row old active
    · cases active
  | dropped member inside relieved members invitations issued activations =>
    rw [members, List.mem_filter] at listed
    exact bound row listed.1 active
  | regraded member role inside relieved members invitations issued activations =>
    rw [members] at listed
    rcases mem_update_row Member.id member.id _ roster.members row listed with ⟨old, _⟩ | ⟨old, oldInside, _, rfl⟩
    · exact bound row old active
    · exact bound old oldInside active

theorem known_subject_unfinished (roster : Roster) (claims : Claims) (goesOn : (knownSubject roster claims).unfinished = true) :
    claims.sub ≠ "" ∧ memberships roster claims.sub = 0 := by
  rw [knownSubject] at goesOn
  split at goesOn
  · cases goesOn
  · rename_i filled
    split at goesOn
    · rename_i none_yet
      rw [memberships, List.countP_eq_length_filter]
      exact ⟨filled, congrArg List.length none_yet⟩
    · cases goesOn
    · cases goesOn

theorem activate_finishes (roster : Roster) (memberId : Nat) (sub : String) :
    (activateMember roster memberId sub).2.unfinished = false := by
  rw [activateMember]
  split
  · rfl
  · split <;> rfl

theorem activate_memberships (roster : Roster) (coherent : Coherent roster) (memberId : Nat) (sub other : String) :
    memberships (activateMember roster memberId sub).1 other ≤ memberships roster other + (decide (sub = other)).toNat := by
  rcases activate_moves roster memberId sub with same | ⟨locked, inside, waiting, same⟩
  · rw [same]
    exact Nat.le_add_right _ _
  · have counted := count_update_row Member.id locked.id (Member.activated sub) (isBoundTo other) roster.members locked coherent.ids
      inside rfl
    have unbound : isBoundTo other locked = false := by
      rw [isBoundTo, waiting]
      rfl
    have after : isBoundTo other (locked.activated sub) = decide (sub = other) := Bool.true_and _
    rw [unbound, after, Bool.toNat_false, Nat.add_zero] at counted
    rw [same]
    exact Nat.le_of_eq counted

section

variable (casing : Casing)

theorem principals_kept (state next : State) (principals : Principals state) (logins : next.logins = state.logins)
    (act : Administered casing state.toRoster next.toRoster) (coherent : Coherent next.toRoster) : Principals next := by
  refine { coherent with loginsNumbered := ?_, single := ?_, named := ?_, bound := ?_ }
  · rw [logins]
    exact principals.loginsNumbered
  · intro sub filled
    have fewer := administered_memberships casing state.toRoster next.toRoster principals.toCoherent act sub
    have before := principals.single sub filled
    have same : unfinishedLogins next sub = unfinishedLogins state sub := by rw [unfinishedLogins, logins, unfinishedLogins]
    omega
  · rw [logins]
    exact principals.named
  · exact administered_bound casing state.toRoster next.toRoster act principals.bound

theorem awaited_or_resolved (state : State) (principals : Principals state) (login : Agent Claims Login)
    (named : agentNamed state.logins login.id = some login) (goesOn : login.stage.unfinished = true) (stage : Login) :
    ∀ sub, unfinishedLogins (state.reach login.id stage) sub + (decide (login.work.sub = sub)).toNat =
      unfinishedLogins state sub + (decide (login.work.sub = sub) && stage.unfinished).toNat := by
  intro sub
  have counted := counting_moved (fun claims (stage : Login) => decide (claims.sub = sub) && stage.unfinished) state.logins
    principals.loginsNumbered login.id login named stage
  rwa [goesOn, Bool.and_true] at counted

theorem named_after (state : State) (principals : Principals state) (login : Agent Claims Login)
    (named : agentNamed state.logins login.id = some login) (goesOn : login.stage.unfinished = true) (stage : Login) :
    ∀ other ∈ moved state.logins login.id stage, other.stage.unfinished = true → other.work.sub ≠ "" := by
  intro other listed unfinished
  rcases mem_moved state.logins principals.loginsNumbered login.id login named stage other listed with ⟨old, _⟩ | rfl
  · exact principals.named other old unfinished
  · exact principals.named login (named_mem state.logins login.id login named).1 goesOn

theorem principals_step (state : State) (principals : Principals state) (event : Event) (apart : LoginsApart state event) :
    Principals (step casing state event) := by
  have coherent := coherent_step casing state principals.toCoherent event
  cases event with
  | invite tenant email role =>
    exact principals_kept casing state _ principals rfl (administered_step casing state principals.toCoherent _ rfl) coherent
  | bootstrap tenant ownerEmail =>
    exact principals_kept casing state _ principals rfl (administered_step casing state principals.toCoherent _ rfl) coherent
  | revoke tenant invitationId =>
    exact principals_kept casing state _ principals rfl (administered_step casing state principals.toCoherent _ rfl) coherent
  | changeRole tenant memberId newRole =>
    exact principals_kept casing state _ principals rfl (administered_step casing state principals.toCoherent _ rfl) coherent
  | remove tenant memberId =>
    exact principals_kept casing state _ principals rfl (administered_step casing state principals.toCoherent _ rfl) coherent
  | login claims =>
    refine { coherent with
      loginsNumbered := joined_numbered _ _ _ principals.loginsNumbered, single := ?_, named := ?_, bound := principals.bound }
    · intro sub filled
      have counted : unfinishedLogins (step casing state (.login claims)) sub = unfinishedLogins state sub +
          (decide ((casing.claims claims).sub = sub) && (knownSubject state.toRoster (casing.claims claims)).unfinished).toNat :=
        counting_joined _ state.logins _ _
      have before := principals.single sub filled
      show memberships state.toRoster sub + _ ≤ 1
      rw [counted]
      cases goesOn : (knownSubject state.toRoster (casing.claims claims)).unfinished with
      | false =>
        rw [Bool.and_false]
        exact before
      | true =>
        obtain ⟨_, none_yet⟩ := known_subject_unfinished state.toRoster (casing.claims claims) goesOn
        by_cases same : (casing.claims claims).sub = sub
        · subst same
          have alone : unfinishedLogins state (casing.claims claims).sub = 0 := apart
          rw [none_yet, alone, decide_eq_true rfl]
          exact Nat.le_refl 1
        · rw [decide_eq_false same]
          exact before
    · intro login listed unfinished
      rcases mem_joined state.logins _ _ login listed with old | rfl
      · exact principals.named login old unfinished
      · exact (known_subject_unfinished state.toRoster (casing.claims claims) unfinished).1
  | lookUp id =>
    revert coherent
    rw [step]
    split
    · rename_i named claims found
      intro coherent
      obtain ⟨_, rfl⟩ := named_mem state.logins id _ found
      have counted := awaited_or_resolved state principals ⟨_, claims, .unknownSubject⟩ found rfl
        (awaitedMember state.toRoster claims.email)
      refine { coherent with
        loginsNumbered := moved_numbered _ _ _ principals.loginsNumbered, single := ?_,
        named := named_after state principals ⟨_, claims, .unknownSubject⟩ found rfl _, bound := principals.bound }
      intro sub filled
      have before := principals.single sub filled
      have moves := counted sub
      have most : (decide (claims.sub = sub) && (awaitedMember state.toRoster claims.email).unfinished).toNat ≤
          (decide (claims.sub = sub)).toNat := by
        cases decide (claims.sub = sub) with
        | false => exact Nat.le_refl 0
        | true => exact Bool.toNat_le _
      dsimp only at moves
      show memberships state.toRoster sub + unfinishedLogins (state.reach named (awaitedMember state.toRoster claims.email)) sub ≤ 1
      omega
    · exact fun _ => principals
  | activate id =>
    revert coherent
    rw [step]
    split
    · rename_i named claims memberId found
      intro coherent
      obtain ⟨inside, rfl⟩ := named_mem state.logins id _ found
      have finishes := activate_finishes state.toRoster memberId claims.sub
      have counted := awaited_or_resolved state principals ⟨_, claims, .matched memberId⟩ found rfl
        (activateMember state.toRoster memberId claims.sub).2
      refine { coherent with
        loginsNumbered := moved_numbered _ _ _ principals.loginsNumbered, single := ?_,
        named := named_after state principals ⟨_, claims, .matched memberId⟩ found rfl _, bound := ?_ }
      · intro sub filled
        have before := principals.single sub filled
        have moves := counted sub
        have more := activate_memberships state.toRoster principals.toCoherent memberId claims.sub sub
        rw [finishes, Bool.and_false, Bool.toNat_false, Nat.add_zero] at moves
        dsimp only at moves
        show memberships (activateMember state.toRoster memberId claims.sub).1 sub +
          unfinishedLogins (state.reach named (activateMember state.toRoster memberId claims.sub).2) sub ≤ 1
        omega
      · intro member listed active
        rcases activate_moves state.toRoster memberId claims.sub with same | ⟨locked, lockedInside, _, same⟩
        · exact principals.bound member (by rw [← same]; exact listed) active
        · have rows : member ∈ writeMember state.members locked.id (Member.activated claims.sub) := by
            have here : member ∈ (activateMember state.toRoster memberId claims.sub).1.members := listed
            rw [same] at here
            exact here
          rcases mem_update_row Member.id locked.id _ state.members member rows with ⟨old, _⟩ | ⟨old, _, _, rfl⟩
          · exact principals.bound member old active
          · exact principals.named _ inside rfl
    · exact fun _ => principals

theorem no_members_principals : Principals noMembers :=
  { no_members_coherent with
    loginsNumbered := rfl
    single := fun _ _ => Nat.zero_le 1
    named := by simp [noMembers]
    bound := by simp [noMembers] }

theorem subject_stays_one_member (events : List Event) (apart : Along (step casing) (LoginsApart) noMembers events)
    (member : Member) (inside : member ∈ (run (step casing) noMembers events).members) (active : member.status = .active)
    (email : String) :
    knownSubject (run (step casing) noMembers events).toRoster ⟨member.clerkUserId, email⟩ = .resolved (some member.id) := by
  have principals := along_invariant (step casing) Principals (LoginsApart)
    (fun state event principals here => principals_step casing state principals event here) noMembers events
    no_members_principals apart
  generalize run (step casing) noMembers events = reached at principals inside
  have filled := principals.bound member inside active
  have most := principals.single member.clerkUserId filled
  have listed : member ∈ reached.actives member.clerkUserId := by
    rw [Roster.actives, List.mem_filter, active]
    exact ⟨inside, by simp⟩
  have length : (reached.actives member.clerkUserId).length ≤ 1 := by
    have counted : (reached.actives member.clerkUserId).length = memberships reached.toRoster member.clerkUserId :=
      List.countP_eq_length_filter.symm
    omega
  rw [knownSubject, if_neg filled]
  cases actives : reached.actives member.clerkUserId with
  | nil =>
    rw [actives] at listed
    cases listed
  | cons first rest =>
    rw [actives] at listed length
    cases rest with
    | nil => rw [List.mem_singleton.mp listed]
    | cons second others => exact absurd length (by simp)

end

def invitedTwice : List Event :=
  ownerJoins ++ [.invite ⟨"t2"⟩ "owner@x.com" "read", .login ⟨"user_1", "owner@x.com"⟩, .lookUp 1, .activate 1]

theorem invited_twice_stays_owner :
    knownSubject (run (step asciiCasing) noMembers invitedTwice).toRoster ⟨"user_1", "owner@x.com"⟩ = .resolved (some 0) :=
  subject_stays_one_member asciiCasing invitedTwice (by decide)
    ⟨0, ⟨"t1"⟩, "owner@x.com", .admin, .active, "user_1", some 0⟩ (by decide) rfl "owner@x.com"

-- Two logins at once, with an invitation between their reads: the subject is
-- two members, and neither from then on.
example : knownSubject (run (step asciiCasing) noMembers
    [.bootstrap ⟨"t1"⟩ "owner@x.com", .login ⟨"user_1", "owner@x.com"⟩, .login ⟨"user_1", "owner@x.com"⟩, .lookUp 0, .activate 0,
      .invite ⟨"t2"⟩ "owner@x.com" "read", .lookUp 1, .activate 1]).toRoster ⟨"user_1", "owner@x.com"⟩ = .resolved none := by
  decide

end Ubb.Membership
