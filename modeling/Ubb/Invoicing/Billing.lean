import Ubb.Invoicing.Targets

set_option autoImplicit false

namespace Ubb.Invoicing

open Ubb.Library

structure Leads (mode next : Mode) (billing : Billing) (moved : Moved) : Prop where
  decides : next = mode ∨ (mode = .undecided ∧ next ≠ .undecided)
  lines : moved.row.lineSnapshot = billing.row.lineSnapshot
  carry : moved.row.carryInMicros = billing.row.carryInMicros
  grows : Grows billing.stripe moved.stripe
  stripe : StripeOk next (frozenCentLines billing.row) moved.stripe
  row : RowOk next moved.stripe moved.row
  stage : ∀ stage ∈ moved.stage, StageOk next (frozenCentLines billing.row) moved.stripe stage

theorem leads_ok (mode next : Mode) (billing : Billing) (pusher : Pusher) (moved : Moved) (ok : BillingOk mode billing)
    (member : pusher ∈ billing.pushers) (leads : Leads mode next billing moved) :
    BillingOk next
      { row := moved.row, stripe := moved.stripe
        pushers :=
          (moved.stage.map (fun stage => { pusher with stage := stage })).toList ++ billing.pushers.erase pusher } := by
  have sameLines : frozenCentLines moved.row = frozenCentLines billing.row := by
    rw [frozenCentLines, frozenCentLines, leads.lines, leads.carry]
  have holds : ∀ other, Holds billing.row other → Holds moved.row other := by
    intro other held
    rw [Holds, leads.lines, leads.carry]
    exact held
  have carried : ∀ stage, StageOk mode (frozenCentLines billing.row) billing.stripe stage →
      StageOk next (frozenCentLines billing.row) moved.stripe stage := by
    intro stage held
    apply stage_ok_grows next _ billing.stripe moved.stripe stage leads.grows
    rcases leads.decides with same | ⟨undecided, decided⟩
    · rw [same]
      exact held
    · rw [undecided] at held
      exact stage_ok_decided next _ billing.stripe stage held decided
  refine ⟨?_, leads.row, ?_⟩
  · show StripeOk next (frozenCentLines moved.row) moved.stripe
    rw [sameLines]
    exact leads.stripe
  · intro other inside
    show Holds moved.row other ∧ StageOk next (frozenCentLines moved.row) moved.stripe other.stage
    rw [sameLines]
    rcases List.mem_append.mp inside with new | old
    · rw [Option.mem_toList, Option.map_eq_some_iff] at new
      obtain ⟨stage, reached, rfl⟩ := new
      exact ⟨holds _ (ok.pushers pusher member).1, leads.stage stage reached⟩
    · obtain ⟨held, stage⟩ := ok.pushers other (List.mem_of_mem_erase old)
      exact ⟨holds other held, carried other.stage stage⟩

theorem goes_leads (mode : Mode) (billing : Billing) (stage : Stage) (ok : BillingOk mode billing)
    (reached : StageOk mode (frozenCentLines billing.row) billing.stripe stage) :
    Leads mode mode billing { row := billing.row, stripe := billing.stripe, stage := some stage } :=
  { decides := .inl rfl, lines := rfl, carry := rfl, grows := Grows.refl billing.stripe, stripe := ok.stripe
    row := ok.row
    stage := fun other member => by rw [← Option.mem_some.mp member]; exact reached }

theorem raised_leads (mode : Mode) (billing : Billing) (ok : BillingOk mode billing) :
    Leads mode mode billing { row := billing.row, stripe := billing.stripe, stage := some .raised } :=
  goes_leads mode billing .raised ok trivial

theorem kept_leads (mode : Mode) (billing : Billing) (row : UsageInvoice) (stage : Stage) (ok : BillingOk mode billing)
    (kept : RowKept billing.row row) (reached : StageOk mode (frozenCentLines billing.row) billing.stripe stage) :
    Leads mode mode billing { row := row, stripe := billing.stripe, stage := some stage } :=
  { decides := .inl rfl, lines := kept.lines, carry := kept.carry, grows := Grows.refl billing.stripe
    stripe := ok.stripe, row := kept_row_ok mode billing.stripe billing.row row kept ok.row
    stage := fun other member => by rw [← Option.mem_some.mp member]; exact reached }

theorem stripe_leads (mode : Mode) (billing : Billing) (next : Stripe) (stage : Stage) (ok : BillingOk mode billing)
    (grows : Grows billing.stripe next) (stripe : StripeOk mode (frozenCentLines billing.row) next)
    (reached : StageOk mode (frozenCentLines billing.row) next stage) :
    Leads mode mode billing { row := billing.row, stripe := next, stage := some stage } :=
  { decides := .inl rfl, lines := rfl, carry := rfl, grows := grows, stripe := stripe
    row := (stripe_moves_ok mode billing next grows stripe ok).row
    stage := fun other member => by rw [← Option.mem_some.mp member]; exact reached }

theorem mem_indexes_on (stripe : Stripe) (target : InvoiceId) (index : Nat) :
    index ∈ stripe.indexesOn target ↔ OnInvoice stripe target index := by
  rw [Stripe.indexesOn, List.mem_map]
  constructor
  · rintro ⟨item, member, same⟩
    rw [List.mem_filter, decide_eq_true_eq] at member
    exact ⟨item, member.1, member.2, same⟩
  · rintro ⟨item, member, here, same⟩
    exact ⟨item, List.mem_filter.mpr ⟨member, decide_eq_true here⟩, same⟩

theorem decided_of_route (mode : Mode) (stripe : Stripe) (family : KeyFamily) (target : InvoiceId)
    (route : Route mode stripe family target) : mode ≠ .undecided := by
  intro undecided
  rw [undecided] at route
  exact route

theorem own_route_target (mode : Mode) (stripe : Stripe) (family : KeyFamily) (target : InvoiceId)
    (route : Route mode stripe family target) (own : mode = .own) : target = .standalone := by
  rw [own] at route
  cases family with
  | standalone => exact route
  | consolidated renewal => exact route.elim
  | remainder renewal => exact route.elim

theorem known_own_is_standalone (lines : List CentLine) (stripe : Stripe) (id : InvoiceId)
    (ok : StripeOk .undecided lines stripe) (minted : id.minted = true) (known : stripe.known id = true) :
    id = .standalone := by
  cases id with
  | standalone => rfl
  | remainder renewal =>
      rw [ok.fresh rfl renewal] at known
      cases known
  | renewal number => cases minted

section

variable (mode : Mode) (billing : Billing) (pusher : Pusher) (answer : Option InvoiceId) (moved : Moved)
  (ok : BillingOk mode billing) (holds : Holds billing.row pusher)
  (advanced : advance billing.row billing.stripe pusher answer = some moved)

include ok holds advanced

theorem lookup_leads (pointer : Option InvoiceId) (kind : InvoiceKind) (here : pusher.stage = .lookup pointer kind)
    (stage : StageOk mode (frozenCentLines billing.row) billing.stripe (.lookup pointer kind)) :
    Leads mode mode billing moved := by
  have sameLines := holds_cent_lines billing.row pusher holds
  simp only [advance, here] at advanced
  by_cases nothing : pusher.centLines = []
  · rw [if_pos nothing, Option.some.injEq] at advanced
    subst advanced
    apply goes_leads mode billing _ ok
    rw [sameLines] at nothing
    exact nothing
  rw [if_neg nothing] at advanced
  have own : ∀ id, id.minted = true → (mode = .undecided → id = .standalone) →
      Leads mode mode billing
        { row := billing.row, stripe := billing.stripe
          stage := some (.persistOwn id (billing.stripe.finalized id) false) } :=
    fun id minted standalone => goes_leads mode billing _ ok ⟨minted, standalone, fun done => done⟩
  cases pointer with
  | some id =>
      simp only at advanced
      by_cases known : billing.stripe.known id = false
      · rw [if_pos known, Option.some.injEq] at advanced
        subst advanced
        exact raised_leads mode billing ok
      rw [if_neg known] at advanced
      rcases stage with impossible | ⟨decided, same⟩ | ⟨renewal, joined, same, consolidated⟩
      · cases impossible
      · rw [Option.some.injEq] at same
        subst same
        simp only [Option.some.injEq] at advanced
        subst advanced
        exact own .standalone rfl (fun _ => rfl)
      · rw [Option.some.injEq] at same
        subst same consolidated
        simp only [Option.some.injEq] at advanced
        subst advanced
        exact goes_leads mode billing _ ok (fun done => done)
  | none =>
      simp only at advanced
      by_cases answered : foundOwn billing.stripe answer
      · rw [if_pos answered] at advanced
        cases answer with
        | some id =>
            simp only [Option.some.injEq] at advanced
            subst advanced
            apply own id answered.1
            intro undecided
            have stripe := ok.stripe
            rw [undecided] at stripe
            exact known_own_is_standalone _ billing.stripe id stripe answered.1 answered.2
        | none =>
            simp only [Option.some.injEq] at advanced
            subst advanced
            exact goes_leads mode billing .resolve ok trivial
      · rw [if_neg answered] at advanced
        cases advanced

omit holds in
theorem resolve_leads (here : pusher.stage = .resolve) : Leads mode mode billing moved := by
  simp only [advance, here] at advanced
  cases answer with
  | none =>
      simp only [Option.some.injEq] at advanced
      subst advanced
      exact goes_leads mode billing .create ok trivial
  | some id =>
      cases id with
      | standalone => cases advanced
      | remainder renewal => cases advanced
      | renewal number =>
          simp only at advanced
          split at advanced
          · rw [Option.some.injEq] at advanced
            subst advanced
            exact goes_leads mode billing _ ok (fun impossible => by cases impossible)
          · cases advanced

omit holds in
theorem create_leads (here : pusher.stage = .create) : Leads mode mode billing moved := by
  simp only [advance, here, Option.some.injEq] at advanced
  subst advanced
  apply stripe_leads mode billing _ _ ok (create_invoice_grows billing.stripe .standalone)
  · apply create_invoice_ok mode _ billing.stripe .standalone _ ok.stripe
    intro _ renewal impossible
    cases impossible
  · exact ⟨rfl, fun _ => rfl, fun impossible => by cases impossible⟩

-- The write that decides: it lands on a row without a pointer, and the mode is
-- chosen, or on a row that points where the push points already.
omit advanced in
theorem persisted_leads (next : Mode) (target : InvoiceId) (kind : InvoiceKind) (stage : Stage)
    (pushing : billing.row.status = .pushing)
    (decides : next = mode ∨ (mode = .undecided ∧ next ≠ .undecided))
    (pointer : PointerOk next (persistTarget target kind billing.row))
    (reached : StripeOk next (frozenCentLines billing.row) billing.stripe →
      StageOk next (frozenCentLines billing.row) billing.stripe stage) :
    Leads mode next billing { row := persistTarget target kind billing.row, stripe := billing.stripe, stage := some stage } := by
  have written : persistTarget target kind billing.row =
      { billing.row with stripeInvoiceId := some target, pushPhase := .invoiceCreated, invoiceKind := kind } := by
    rw [persistTarget, whilePushing, if_pos pushing]
  have stripe : StripeOk next (frozenCentLines billing.row) billing.stripe := by
    rcases decides with same | ⟨undecided, decided⟩
    · rw [same]
      exact ok.stripe
    · have before := ok.stripe
      rw [undecided] at before
      exact stripe_ok_decided next _ billing.stripe before decided
  rw [written] at pointer ⊢
  refine ⟨decides, rfl, rfl, Grows.refl _, stripe, ⟨pointer, ?_, fun _ => holds.1, ok.row.pinned⟩, ?_⟩
  · intro pushed
    rw [pushing] at pushed
    cases pushed
  · intro other member
    rw [← Option.mem_some.mp member]
    exact reached stripe

theorem persist_own_leads (target : InvoiceId) (finalized created : Bool)
    (here : pusher.stage = .persistOwn target finalized created)
    (stage : StageOk mode (frozenCentLines billing.row) billing.stripe (.persistOwn target finalized created))
    (kept : billing.row.status = .pushing →
      billing.row.stripeInvoiceId = none ∨ billing.row.stripeInvoiceId = some target) :
    ∃ next, Leads mode next billing moved := by
  have sameLines := holds_cent_lines billing.row pusher holds
  obtain ⟨minted, standalone, done⟩ := stage
  simp only [advance, here, sameLines] at advanced
  by_cases pushing : billing.row.status = .pushing
  · rw [if_pos pushing, Option.some.injEq] at advanced
    subst advanced
    have settled : target = .standalone ∧ (Mode.own = mode ∨ (mode = .undecided ∧ Mode.own ≠ .undecided)) := by
      have pointer := ok.row.pointer
      cases decided : mode with
      | undecided => exact ⟨standalone decided, .inr ⟨rfl, by simp⟩⟩
      | own =>
          rw [decided, PointerOk] at pointer
          rcases kept pushing with absent | already
          · rw [absent] at pointer
            cases pointer
          · rw [already, Option.some.injEq] at pointer
            exact ⟨pointer, .inl rfl⟩
      | joined renewal =>
          -- The row points to a renewal, and a push for an invoice of ours is
          -- about to write: the case the condition leaves out.
          rw [decided, PointerOk, pushing] at pointer
          rcases pointer with pushed | ⟨same, _⟩
          · cases pushed
          · rcases kept pushing with absent | already
            · rw [absent] at same
              cases same
            · rw [same, Option.some.injEq] at already
              rw [← already] at minted
              cases minted
    obtain ⟨rfl, decides⟩ := settled
    refine ⟨.own, persisted_leads mode billing pusher ok holds .own _ _ _ pushing decides ?_ ?_⟩
    · simp [PointerOk, persistTarget, whilePushing, pushing]
    · intro stripe
      cases created with
      | true => exact ⟨rfl, fun line inside => .inl inside, fun _ _ served => served, by simp⟩
      | false =>
          cases finalized with
          | true => exact ⟨by simp, fun _ => rfl, (stripe.closed .standalone rfl (done rfl)).2⟩
          | false => exact ⟨rfl, fun line inside => .inl inside, fun _ _ served => served⟩
  · rw [if_neg pushing, Option.some.injEq] at advanced
    subst advanced
    exact ⟨mode, raised_leads mode billing ok⟩

theorem persist_consolidated_leads (renewal : Nat) (finalized : Bool)
    (here : pusher.stage = .persistConsolidated renewal finalized)
    (stage : StageOk mode (frozenCentLines billing.row) billing.stripe (.persistConsolidated renewal finalized))
    (kept : billing.row.status = .pushing →
      billing.row.stripeInvoiceId = none ∨ billing.row.stripeInvoiceId = some (.renewal renewal)) :
    ∃ next, Leads mode next billing moved := by
  have sameLines := holds_cent_lines billing.row pusher holds
  simp only [advance, here, sameLines] at advanced
  by_cases pushing : billing.row.status = .pushing
  · rw [if_pos pushing, Option.some.injEq] at advanced
    subst advanced
    have decides : Mode.joined renewal = mode ∨ (mode = .undecided ∧ Mode.joined renewal ≠ .undecided) := by
      have pointer := ok.row.pointer
      cases decided : mode with
      | undecided => exact .inr ⟨rfl, by simp⟩
      | own =>
          rw [decided, PointerOk] at pointer
          rcases kept pushing with absent | already
          · rw [absent] at pointer
            cases pointer
          · rw [already] at pointer
            cases pointer
      | joined other =>
          rw [decided, PointerOk, pushing] at pointer
          rcases pointer with pushed | ⟨same, _⟩
          · cases pushed
          · rcases kept pushing with absent | already
            · rw [absent] at same
              cases same
            · rw [same, Option.some.injEq, InvoiceId.renewal.injEq] at already
              rw [already]
              exact .inl rfl
    refine ⟨.joined renewal, persisted_leads mode billing pusher ok holds (.joined renewal) _ _ _ pushing decides ?_ ?_⟩
    · simp [PointerOk, persistTarget, whilePushing, pushing]
    · intro _
      cases finalized with
      | true => exact ⟨rfl, stage rfl⟩
      | false => exact ⟨⟨rfl, rfl⟩, fun line inside => .inl inside, fun _ _ served => served⟩
  · rw [if_neg pushing, Option.some.injEq] at advanced
    subst advanced
    exact ⟨mode, raised_leads mode billing ok⟩

omit holds in
theorem list_leads (family : KeyFamily) (target : InvoiceId) (todo : List CentLine)
    (here : pusher.stage = .list family target todo)
    (stage : StageOk mode (frozenCentLines billing.row) billing.stripe (.list family target todo)) :
    Leads mode mode billing moved := by
  obtain ⟨route, covered, absent⟩ := stage
  simp only [advance, here, Option.some.injEq] at advanced
  subst advanced
  apply goes_leads mode billing _ ok
  refine ⟨route, ?_, absent, ?_⟩
  · intro line member
    exact (covered line member).imp_right .inl
  · intro index member
    exact (mem_indexes_on billing.stripe target index).mp member

-- One line pinned. Its key may have made the item already, for this invoice;
-- if it has not, the invoice is still a draft and the item is new. A refusal
-- pins nothing.
omit holds in
theorem pin_leads (family : KeyFamily) (target : InvoiceId) (existing : List Nat) (line : CentLine) (rest : List CentLine)
    (here : pusher.stage = .pin family target existing (line :: rest))
    (stage : StageOk mode (frozenCentLines billing.row) billing.stripe (.pin family target existing (line :: rest))) :
    Leads mode mode billing moved := by
  obtain ⟨route, covered, absent, listed⟩ := stage
  have later : ∀ next : Stripe, Grows billing.stripe next → OnInvoice next target line.index →
      StageOk mode (frozenCentLines billing.row) next (.pin family target existing rest) := by
    intro next grows pinned
    have before : StageOk mode (frozenCentLines billing.row) next (.pin family target existing (line :: rest)) :=
      stage_ok_grows mode _ billing.stripe next _ grows ⟨route, covered, absent, listed⟩
    obtain ⟨nextRoute, nextCovered, nextAbsent, nextListed⟩ := before
    refine ⟨nextRoute, ?_, fun other member => nextAbsent other (List.mem_cons_of_mem line member), nextListed⟩
    intro other member
    rcases nextCovered other member with todo | served | done
    · rcases List.mem_cons.mp todo with same | still
      · rw [same]
        exact .inr (.inr pinned)
      · exact .inl still
    · exact .inr (.inl served)
    · exact .inr (.inr done)
  simp only [advance, here] at advanced
  by_cases already : line.index ∈ existing
  · rw [if_pos already, Option.some.injEq] at advanced
    subst advanced
    exact goes_leads mode billing _ ok (later billing.stripe (Grows.refl _) (listed line.index already))
  rw [if_neg already] at advanced
  cases created : billing.stripe.createItem family target line with
  | some next =>
      rw [created] at advanced
      simp only [Option.some.injEq] at advanced
      subst advanced
      rcases create_item_cases billing.stripe next family target line created with
        ⟨same, pinned⟩ | ⟨draft, unused, added⟩
      · rw [same]
        exact goes_leads mode billing _ ok (later billing.stripe (Grows.refl _) pinned)
      · have grows := append_item_grows billing.stripe
          { family := family, index := line.index, invoice := target, cents := line.cents } draft
        have stripe := stripe_ok_pinned mode _ billing.stripe
          { family := family, index := line.index, invoice := target, cents := line.cents } draft unused route
          (absent line (by simp)) ok.stripe
        rw [← added] at grows stripe
        apply stripe_leads mode billing next _ ok grows stripe
        apply later next grows
        rw [added]
        exact ⟨_, List.mem_append_right _ (List.mem_singleton.mpr rfl), rfl, rfl⟩
  | none =>
      rw [created] at advanced
      cases family with
      | standalone =>
          simp only [Option.some.injEq] at advanced
          subst advanced
          exact raised_leads mode billing ok
      | remainder renewal =>
          simp only [Option.some.injEq] at advanced
          subst advanced
          exact raised_leads mode billing ok
      | consolidated renewal =>
          simp only [Option.some.injEq] at advanced
          subst advanced
          apply goes_leads mode billing _ ok
          cases mode with
          | undecided => exact route.elim
          | own => exact route.elim
          | joined other => rw [route.1]; rfl

omit holds in
theorem pinned_leads (family : KeyFamily) (target : InvoiceId) (existing : List Nat)
    (here : pusher.stage = .pin family target existing [])
    (stage : StageOk mode (frozenCentLines billing.row) billing.stripe (.pin family target existing [])) :
    Leads mode mode billing moved := by
  obtain ⟨route, covered, _, _⟩ := stage
  have billed : ∀ line ∈ frozenCentLines billing.row, Billed billing.stripe line.index := by
    intro line member
    rcases covered line member with impossible | served | done
    · cases impossible
    · exact served_before_billed billing.stripe family line.index served
    · exact on_invoice_billed billing.stripe target line.index done
  simp only [advance, here] at advanced
  cases family with
  | standalone =>
      simp only [Option.some.injEq] at advanced
      subst advanced
      exact kept_leads mode billing _ _ ok (note_phase_kept .itemsPinned billing.row) ⟨route, billed⟩
  | consolidated renewal =>
      simp only [Option.some.injEq] at advanced
      subst advanced
      exact kept_leads mode billing _ _ ok (note_phase_kept .itemsPinned billing.row)
        ⟨decided_of_route mode _ _ target route, own_route_target mode _ _ target route, billed⟩
  | remainder renewal =>
      simp only [Option.some.injEq] at advanced
      subst advanced
      exact goes_leads mode billing _ ok ⟨route, billed⟩

omit holds in
theorem finalize_leads (family : KeyFamily) (target : InvoiceId) (here : pusher.stage = .finalize family target)
    (stage : StageOk mode (frozenCentLines billing.row) billing.stripe (.finalize family target)) :
    Leads mode mode billing moved := by
  obtain ⟨route, billed⟩ := stage
  have decided := decided_of_route mode billing.stripe family target route
  have noted : StageOk mode (frozenCentLines billing.row) billing.stripe (.note target) :=
    ⟨decided, own_route_target mode billing.stripe family target route, billed⟩
  simp only [advance, here] at advanced
  cases done : billing.stripe.finalizeInvoice family target with
  | none =>
      rw [done] at advanced
      simp only [Option.some.injEq] at advanced
      subst advanced
      exact raised_leads mode billing ok
  | some next =>
      rw [done] at advanced
      simp only [Option.some.injEq] at advanced
      subst advanced
      rcases finalize_invoice_cases billing.stripe next family target done with same | finished
      · rw [same]
        exact goes_leads mode billing _ ok noted
      · have grown := finish_grows billing.stripe target
        have finishedOk := finish_ok mode _ billing.stripe target (fun _ => ⟨decided, billed⟩) ok.stripe
        have grows : Grows billing.stripe next := by
          rw [finished]
          exact ⟨grown.items, grown.finalized, grown.closed⟩
        have stripe : StripeOk mode (frozenCentLines billing.row) next := by
          rw [finished]
          exact ⟨finishedOk.keys, finishedOk.routed, finishedOk.closed, finishedOk.fresh⟩
        exact stripe_leads mode billing next _ ok grows stripe
          (stage_ok_grows mode _ billing.stripe next (.note target) grows noted)

omit holds in
theorem recheck_leads (renewal : Nat) (here : pusher.stage = .recheck renewal)
    (stage : StageOk mode (frozenCentLines billing.row) billing.stripe (.recheck renewal)) :
    Leads mode mode billing moved := by
  simp only [advance, here] at advanced
  by_cases done : billing.stripe.finalized (.renewal renewal) = true
  · rw [if_pos done, Option.some.injEq] at advanced
    subst advanced
    exact goes_leads mode billing _ ok ⟨stage, done⟩
  · rw [if_neg done, Option.some.injEq] at advanced
    subst advanced
    exact raised_leads mode billing ok

theorem diff_leads (renewal : Nat) (here : pusher.stage = .diff renewal)
    (stage : StageOk mode (frozenCentLines billing.row) billing.stripe (.diff renewal)) :
    Leads mode mode billing moved := by
  have sameLines := holds_cent_lines billing.row pusher holds
  obtain ⟨joined, done⟩ := stage
  have split : ∀ line ∈ frozenCentLines billing.row,
      line ∈ (frozenCentLines billing.row).filter
        (fun line => decide (line.index ∉ billing.stripe.indexesOn (.renewal renewal))) ∨
      OnInvoice billing.stripe (.renewal renewal) line.index := by
    intro line member
    by_cases present : line.index ∈ billing.stripe.indexesOn (.renewal renewal)
    · exact .inr ((mem_indexes_on billing.stripe _ line.index).mp present)
    · exact .inl (List.mem_filter.mpr ⟨member, decide_eq_true present⟩)
  simp only [advance, here, sameLines] at advanced
  by_cases complete : (frozenCentLines billing.row).filter
      (fun line => decide (line.index ∉ billing.stripe.indexesOn (.renewal renewal))) = []
  · rw [if_pos complete, Option.some.injEq] at advanced
    subst advanced
    apply goes_leads mode billing _ ok
    refine ⟨by simp [joined], by simp [joined], ?_⟩
    intro line member
    rcases split line member with impossible | present
    · rw [complete] at impossible
      cases impossible
    · exact on_invoice_billed billing.stripe _ line.index present
  · rw [if_neg complete, Option.some.injEq] at advanced
    subst advanced
    apply goes_leads mode billing _ ok
    refine ⟨joined, done, split, ?_⟩
    intro line member present
    rw [List.mem_filter, decide_eq_true_eq] at member
    exact member.2 ((mem_indexes_on billing.stripe _ line.index).mpr present)

omit holds in
theorem find_remainder_leads (renewal : Nat) (missing : List CentLine) (here : pusher.stage = .findRemainder renewal missing)
    (stage : StageOk mode (frozenCentLines billing.row) billing.stripe (.findRemainder renewal missing)) :
    Leads mode mode billing moved := by
  obtain ⟨joined, done, covered, absent⟩ := stage
  simp only [advance, here] at advanced
  by_cases answered : foundOwn billing.stripe answer
  · rw [if_pos answered] at advanced
    cases answer with
    | none =>
        simp only [Option.some.injEq] at advanced
        subst advanced
        exact goes_leads mode billing _ ok ⟨joined, done, covered, absent⟩
    | some id =>
        simp only at advanced
        by_cases finished : billing.stripe.finalized id = true
        · rw [if_pos finished, Option.some.injEq] at advanced
          subst advanced
          apply goes_leads mode billing _ ok
          exact ⟨by simp [joined], by simp [joined], (ok.stripe.closed id answered.1 finished).2⟩
        · rw [if_neg finished, Option.some.injEq] at advanced
          subst advanced
          apply goes_leads mode billing _ ok
          refine ⟨?_, covered, absent⟩
          rw [joined]
          exact ⟨rfl, answered.1, done⟩
  · rw [if_neg answered] at advanced
    cases advanced

omit holds in
theorem create_remainder_leads (renewal : Nat) (missing : List CentLine)
    (here : pusher.stage = .createRemainder renewal missing)
    (stage : StageOk mode (frozenCentLines billing.row) billing.stripe (.createRemainder renewal missing)) :
    Leads mode mode billing moved := by
  have grows := create_invoice_grows billing.stripe (.remainder renewal)
  have after := stage_ok_grows mode _ billing.stripe _ (.createRemainder renewal missing) grows stage
  obtain ⟨joined, done, covered, absent⟩ := after
  simp only [advance, here, Option.some.injEq] at advanced
  subst advanced
  apply stripe_leads mode billing _ _ ok grows
  · apply create_invoice_ok mode _ billing.stripe (.remainder renewal) _ ok.stripe
    intro undecided
    rw [joined] at undecided
    cases undecided
  · refine ⟨?_, ?_, absent, by simp⟩
    · rw [joined]
      exact ⟨rfl, rfl, done⟩
    · intro line member
      exact (covered line member).imp_right .inl

omit holds in
theorem note_leads (target : InvoiceId) (here : pusher.stage = .note target)
    (stage : StageOk mode (frozenCentLines billing.row) billing.stripe (.note target)) :
    Leads mode mode billing moved := by
  simp only [advance, here, Option.some.injEq] at advanced
  subst advanced
  exact kept_leads mode billing _ _ ok (note_phase_kept .finalized billing.row) stage

omit holds in
theorem record_leads (invoice : Option InvoiceId) (here : pusher.stage = .record invoice)
    (stage : StageOk mode (frozenCentLines billing.row) billing.stripe (.record invoice)) :
    Leads mode mode billing moved := by
  simp only [advance, here, Option.some.injEq] at advanced
  subst advanced
  generalize centTotal (floorLines 0 pusher.lines pusher.carryIn).1 = cents
  generalize (floorLines 0 pusher.lines pusher.carryIn).2 = residual
  have recorded : ∀ row, RowOk mode billing.stripe row → row.lineSnapshot = billing.row.lineSnapshot →
      row.carryInMicros = billing.row.carryInMicros →
      Leads mode mode billing { row := row, stripe := billing.stripe, stage := none } := by
    intro row rowOk lines carry
    exact ⟨.inl rfl, lines, carry, Grows.refl _, ok.stripe, rowOk, by simp⟩
  by_cases pushing : billing.row.status = .pushing
  · rw [whilePushing, if_pos pushing]
    cases invoice with
    | none =>
        refine recorded (recordPush none cents residual billing.row) ?_ rfl rfl
        exact kept_row_ok mode billing.stripe billing.row _ ⟨rfl, rfl, rfl, rfl, by simp [recordPush, pushing]⟩ ok.row
    | some target =>
        obtain ⟨decided, standalone, billed⟩ := stage
        refine recorded (recordPush (some target) cents residual billing.row) ?_ rfl rfl
        refine ⟨?_, fun _ => billed, ok.row.started, ok.row.pinned⟩
        cases mode with
        | undecided => exact absurd rfl decided
        | own => rw [standalone rfl]; rfl
        | joined renewal => exact .inl rfl
  · rw [whilePushing, if_neg pushing]
    exact recorded _ ok.row rfl rfl

end

end Ubb.Invoicing
