import Ubb.Invoicing.Stripe

set_option autoImplicit false

namespace Ubb.Invoicing

open Ubb.Library

-- Where a row's lines go, once a push has persisted its target: to the invoice
-- the service mints, or to a renewal and, for what that one missed, to a
-- remainder.
inductive Mode where
  | undecided
  | own
  | joined (renewal : Nat)
deriving DecidableEq, Repr

def OnInvoice (stripe : Stripe) (target : InvoiceId) (index : Nat) : Prop :=
  ∃ item ∈ stripe.items, item.invoice = target ∧ item.index = index

def Billed (stripe : Stripe) (index : Nat) : Prop := ∃ item ∈ stripe.items, item.index = index

def ServedBefore (stripe : Stripe) : KeyFamily → Nat → Prop
  | .remainder renewal, index => OnInvoice stripe (.renewal renewal) index
  | _, _ => False

def Route (mode : Mode) (stripe : Stripe) (family : KeyFamily) (target : InvoiceId) : Prop :=
  match mode, family with
  | .own, .standalone => target = .standalone
  | .joined renewal, .consolidated other => other = renewal ∧ target = .renewal renewal
  | .joined renewal, .remainder other =>
      other = renewal ∧ target.minted = true ∧ stripe.finalized (.renewal renewal) = true
  | _, _ => False

structure Grows (before after : Stripe) : Prop where
  items : ∀ item ∈ before.items, item ∈ after.items
  finalized : ∀ id, before.finalized id = true → after.finalized id = true
  closed : ∀ item ∈ after.items, before.finalized item.invoice = true → item ∈ before.items

theorem Grows.refl (stripe : Stripe) : Grows stripe stripe := ⟨fun _ member => member, fun _ done => done, fun _ member _ => member⟩

theorem on_invoice_grows (before after : Stripe) (target : InvoiceId) (index : Nat) (grows : Grows before after)
    (held : OnInvoice before target index) : OnInvoice after target index := by
  obtain ⟨item, member, here⟩ := held
  exact ⟨item, grows.items item member, here⟩

theorem billed_grows (before after : Stripe) (index : Nat) (grows : Grows before after) (held : Billed before index) :
    Billed after index := by
  obtain ⟨item, member, here⟩ := held
  exact ⟨item, grows.items item member, here⟩

theorem on_invoice_billed (stripe : Stripe) (target : InvoiceId) (index : Nat) (held : OnInvoice stripe target index) :
    Billed stripe index := by
  obtain ⟨item, member, _, here⟩ := held
  exact ⟨item, member, here⟩

theorem served_before_billed (stripe : Stripe) (family : KeyFamily) (index : Nat)
    (served : ServedBefore stripe family index) : Billed stripe index := by
  cases family with
  | standalone => exact served.elim
  | consolidated renewal => exact served.elim
  | remainder renewal => exact on_invoice_billed stripe _ index served

theorem served_before_grows (before after : Stripe) (family : KeyFamily) (index : Nat) (grows : Grows before after)
    (served : ServedBefore before family index) : ServedBefore after family index := by
  cases family with
  | standalone => exact served
  | consolidated renewal => exact served
  | remainder renewal => exact on_invoice_grows before after _ index grows served

theorem route_grows (mode : Mode) (before after : Stripe) (family : KeyFamily) (target : InvoiceId)
    (grows : Grows before after) (route : Route mode before family target) : Route mode after family target := by
  cases mode with
  | undecided => exact route
  | own => cases family <;> exact route
  | joined renewal =>
      cases family with
      | standalone => exact route
      | consolidated other => exact route
      | remainder other => exact ⟨route.1, route.2.1, grows.finalized _ route.2.2⟩

-- A remainder is cut from a finalized renewal, so what the renewal lacked then
-- it lacks for good.
theorem not_served_grows (mode : Mode) (before after : Stripe) (family : KeyFamily) (target : InvoiceId) (index : Nat)
    (grows : Grows before after) (route : Route mode before family target)
    (absent : ¬ ServedBefore before family index) : ¬ ServedBefore after family index := by
  intro served
  cases family with
  | standalone => exact served
  | consolidated renewal => exact served
  | remainder other =>
      cases mode with
      | undecided => exact route
      | own => exact route
      | joined renewal =>
          obtain ⟨rfl, _, done⟩ := route
          obtain ⟨item, member, here, same⟩ := served
          exact absent ⟨item, grows.closed item member (by rw [here]; exact done), here, same⟩

-- What a push at a stage may rely on, `lines` being the row's frozen cent
-- lines. The stages before the target is persisted promise almost nothing.
def StageOk (mode : Mode) (lines : List CentLine) (stripe : Stripe) : Stage → Prop
  | .lookup pointer kind =>
      pointer = none ∨ (mode = .own ∧ pointer = some .standalone) ∨
        ∃ renewal, mode = .joined renewal ∧ pointer = some (.renewal renewal) ∧ kind = .consolidated
  | .resolve => True
  | .create => True
  | .persistOwn target finalized _ =>
      target.minted = true ∧ (mode = .undecided → target = .standalone) ∧
        (finalized = true → stripe.finalized target = true)
  | .persistConsolidated renewal finalized => finalized = true → stripe.finalized (.renewal renewal) = true
  | .list family target todo =>
      Route mode stripe family target ∧
        (∀ line ∈ lines, line ∈ todo ∨ ServedBefore stripe family line.index) ∧
        ∀ line ∈ todo, ¬ ServedBefore stripe family line.index
  | .pin family target existing todo =>
      Route mode stripe family target ∧
        (∀ line ∈ lines, line ∈ todo ∨ ServedBefore stripe family line.index ∨ OnInvoice stripe target line.index) ∧
        (∀ line ∈ todo, ¬ ServedBefore stripe family line.index) ∧
        ∀ index ∈ existing, OnInvoice stripe target index
  | .finalize family target =>
      Route mode stripe family target ∧ ∀ line ∈ lines, Billed stripe line.index
  | .recheck renewal => mode = .joined renewal
  | .diff renewal => mode = .joined renewal ∧ stripe.finalized (.renewal renewal) = true
  | .findRemainder renewal missing | .createRemainder renewal missing =>
      mode = .joined renewal ∧ stripe.finalized (.renewal renewal) = true ∧
        (∀ line ∈ lines, line ∈ missing ∨ OnInvoice stripe (.renewal renewal) line.index) ∧
        ∀ line ∈ missing, ¬ OnInvoice stripe (.renewal renewal) line.index
  | .note target | .record (some target) =>
      mode ≠ .undecided ∧ (mode = .own → target = .standalone) ∧ ∀ line ∈ lines, Billed stripe line.index
  | .record none => lines = []
  | .raised => True

theorem stage_ok_grows (mode : Mode) (lines : List CentLine) (before after : Stripe) (stage : Stage)
    (grows : Grows before after) (ok : StageOk mode lines before stage) : StageOk mode lines after stage := by
  cases stage with
  | lookup pointer kind => exact ok
  | resolve => exact ok
  | create => exact ok
  | persistOwn target finalized created =>
      exact ⟨ok.1, ok.2.1, fun done => grows.finalized target (ok.2.2 done)⟩
  | persistConsolidated renewal finalized => exact fun done => grows.finalized _ (ok done)
  | list family target todo =>
      obtain ⟨route, covered, absent⟩ := ok
      refine ⟨route_grows mode before after family target grows route, ?_, ?_⟩
      · intro line member
        exact (covered line member).imp_right (served_before_grows before after family line.index grows)
      · intro line member
        exact not_served_grows mode before after family target line.index grows route (absent line member)
  | pin family target existing todo =>
      obtain ⟨route, covered, absent, listed⟩ := ok
      refine ⟨route_grows mode before after family target grows route, ?_, ?_, ?_⟩
      · intro line member
        rcases covered line member with later | served | done
        · exact .inl later
        · exact .inr (.inl (served_before_grows before after family line.index grows served))
        · exact .inr (.inr (on_invoice_grows before after target line.index grows done))
      · intro line member
        exact not_served_grows mode before after family target line.index grows route (absent line member)
      · intro index member
        exact on_invoice_grows before after target index grows (listed index member)
  | finalize family target =>
      exact ⟨route_grows mode before after family target grows ok.1,
        fun line member => billed_grows before after line.index grows (ok.2 line member)⟩
  | recheck renewal => exact ok
  | diff renewal => exact ⟨ok.1, grows.finalized _ ok.2⟩
  | findRemainder renewal missing =>
      obtain ⟨joined, done, covered, absent⟩ := ok
      refine ⟨joined, grows.finalized _ done, ?_, ?_⟩
      · intro line member
        exact (covered line member).imp_right (on_invoice_grows before after _ line.index grows)
      · rintro line member ⟨item, inside, here, same⟩
        exact absent line member ⟨item, grows.closed item inside (by rw [here]; exact done), here, same⟩
  | createRemainder renewal missing =>
      obtain ⟨joined, done, covered, absent⟩ := ok
      refine ⟨joined, grows.finalized _ done, ?_, ?_⟩
      · intro line member
        exact (covered line member).imp_right (on_invoice_grows before after _ line.index grows)
      · rintro line member ⟨item, inside, here, same⟩
        exact absent line member ⟨item, grows.closed item inside (by rw [here]; exact done), here, same⟩
  | note target =>
      exact ⟨ok.1, ok.2.1, fun line member => billed_grows before after line.index grows (ok.2.2 line member)⟩
  | record invoice =>
      cases invoice with
      | none => exact ok
      | some target =>
          exact ⟨ok.1, ok.2.1, fun line member => billed_grows before after line.index grows (ok.2.2 line member)⟩
  | raised => trivial

theorem stage_ok_decided (mode : Mode) (lines : List CentLine) (stripe : Stripe) (stage : Stage)
    (ok : StageOk .undecided lines stripe stage) (decided : mode ≠ .undecided) : StageOk mode lines stripe stage := by
  cases stage with
  | lookup pointer kind =>
      rcases ok with absent | ⟨impossible, _⟩ | ⟨renewal, impossible, _⟩
      · exact .inl absent
      · cases impossible
      · cases impossible
  | resolve => trivial
  | create => trivial
  | persistOwn target finalized created => exact ⟨ok.1, fun undecided => absurd undecided decided, ok.2.2⟩
  | persistConsolidated renewal finalized => exact ok
  | list family target todo => exact ok.1.elim
  | pin family target existing todo => exact ok.1.elim
  | finalize family target => exact ok.1.elim
  | recheck renewal => cases ok
  | diff renewal => cases ok.1
  | findRemainder renewal missing => cases ok.1
  | createRemainder renewal missing => cases ok.1
  | note target => exact absurd rfl ok.1
  | record invoice =>
      cases invoice with
      | none => exact ok
      | some target => exact absurd rfl ok.1
  | raised => trivial

end Ubb.Invoicing
