import Mathlib.Data.Set.Basic
import SyncApp.Billing.Model

/-!
# Callbacks of a payment provider

`HandleCallback` of `server/internal/billing/billing.go`, for authentic notifications, which come
again and in any order.  What one does depends only on the payment's status and the subscription's
status and period end, `Outcome`.

Main results:

- `callbacks_confluent_iff`: the sets of callbacks whose outcome does not depend on the order.
-/

namespace SyncApp.Billing

open List

/-- `billing.Callback`, as far as the handler reads it. -/
structure Callback where
  providerRef : String
  status : PaymentStatus
  amountMinor : Int := 0
  paidAt : Int := 0
deriving DecidableEq

/-- The time that a callback stands for: the provider's, or the reading of our clock. -/
def Callback.time (cb : Callback) (now : Int) : Int := if cb.paidAt = 0 then now else cb.paidAt

/-- The handler refuses callbacks of another amount than the payment's. -/
def Callback.fits (cb : Callback) (amountMinor : Int) : Bool :=
  cb.amountMinor = 0 || cb.amountMinor = amountMinor

/-- `subscriptionPeriod`, in milliseconds. -/
def subscriptionPeriod : Int := 30 * 24 * 60 * 60 * 1000

/-- When a period ends that is paid for at some time, after one that ends at another. -/
def extendPeriod (currentPeriodEnd time : Int) : Int :=
  (if time < currentPeriodEnd then currentPeriodEnd else time) + subscriptionPeriod

/-- The subscription that a payment makes of the one that is there. -/
def renewed (existing : Option Subscription) (p : Payment) (time : Int) : Subscription :=
  let sub := existing.getD
    { userID := p.userID, plan := p.plan, status := .active, provider := p.provider,
      createdAt := time, updatedAt := time }
  { sub with
    plan := p.plan
    status := .active
    provider := p.provider
    currentPeriodEnd := extendPeriod sub.currentPeriodEnd time
    cancelAtPeriodEnd := false
    updatedAt := time
    createdAt := if sub.createdAt = 0 then time else sub.createdAt }

variable (st : Store)

def subscriptionAfterPayment (p : Payment) (time : Int) : Subscription :=
  renewed (st.getSubscription p.userID) p time

/-- What the handler returns: the first three are no errors. -/
inductive CallbackResult where
  | unknown
  | duplicate
  | applied
  | amountMismatch
  | notFound
deriving DecidableEq

/-- Whether the provider is told that the callback has been dealt with. -/
def CallbackResult.acknowledged : CallbackResult → Bool
  | .unknown | .duplicate | .applied => true
  | .amountMismatch | .notFound => false

/-- What the handler makes of the result of `ApplyPaymentStatus`. -/
def CallbackResult.ofChanged : Option Bool → CallbackResult
  | none => .notFound
  | some false => .duplicate
  | some true => .applied

def handleCallback (provider : String) (cb : Callback) (now : Int) : CallbackResult × Store :=
  match st.getPaymentByRef provider cb.providerRef with
  | none => (.unknown, st)
  | some payment =>
    if ¬ cb.fits payment.amountMinor then (.amountMismatch, st)
    else
      let time := cb.time now
      let sub :=
        if cb.status = .succeeded then some (subscriptionAfterPayment st payment time) else none
      let r := st.applyPaymentStatus provider cb.providerRef cb.status time sub
      (.ofChanged r.1, r.2)

/-! ## Outcomes -/

/-- What callbacks come to: the status of the payment, and the status and period end of
the buyer's subscription. -/
structure Outcome where
  status : PaymentStatus
  sub : Option (SubscriptionStatus × Int)
deriving DecidableEq

/-- When a period ends that is paid for next. -/
def Outcome.periodEnd (o : Outcome) (time : Int) : Int :=
  extendPeriod ((o.sub.map Prod.snd).getD 0) time

variable (amountMinor : Int) (o : Outcome)

/-- A callback for the payment, which is of a given amount. -/
def Outcome.next (d : Callback × Int) : Outcome :=
  if d.1.fits amountMinor && o.status.canTransitionTo d.1.status then
    { status := d.1.status
      sub :=
        if d.1.status = .succeeded then some (.active, o.periodEnd (d.1.time d.2)) else o.sub }
  else o

/-- Callbacks, each with the reading of the clock at its time, one after another. -/
def Outcome.run (ds : List (Callback × Int)) : Outcome :=
  ds.foldl (next amountMinor) o

/-- What there is to see of a payment. -/
def outcome (p : Payment) : Outcome where
  status := p.status
  sub := (st.getSubscription p.userID).map fun sub => (sub.status, sub.currentPeriodEnd)

/-- The status of the payment of a reference, and the status and the period end of an
account's subscription. -/
def Store.observe (provider ref userID : String) : Option Outcome :=
  (st.getPaymentByRef provider ref).map fun p =>
    ⟨p.status, (st.getSubscription userID).map fun sub => (sub.status, sub.currentPeriodEnd)⟩

variable {p : Payment} {provider ref : String} {st : Store} {cb : Callback}

lemma Store.observe_of_found (hp : st.getPaymentByRef provider ref = some p) :
    st.observe provider ref p.userID = some (outcome st p) := by
  unfold observe
  rw [hp]
  rfl

lemma renewed_userID {existing : Option Subscription}
    (h : ∀ sub, existing = some sub → sub.userID = p.userID) (time : Int) :
    (renewed existing p time).userID = p.userID := by
  cases existing with
  | none => rfl
  | some sub => exact h sub rfl

lemma renewed_periodEnd (st : Store) (p : Payment) (time : Int) :
    (subscriptionAfterPayment st p time).currentPeriodEnd = (outcome st p).periodEnd time := by
  unfold subscriptionAfterPayment renewed Outcome.periodEnd outcome
  cases st.getSubscription p.userID with
  | none | some => rfl

def Callback.sub (cb : Callback) (st : Store) (p : Payment) (time : Int) : Option Subscription :=
  if cb.status = .succeeded then some (subscriptionAfterPayment st p time) else none

lemma handleCallback_of_found {id : String}
    (href : st.paymentRefs (refKey provider cb.providerRef) = some id)
    (hid : st.payments id = some p) (now : Int) : (handleCallback st provider cb now).2 =
      if cb.fits p.amountMinor && p.status.canTransitionTo cb.status then
        st.settled id p cb.status (cb.time now) (cb.sub st p (cb.time now)) else st := by
  have hp := Store.getPaymentByRef_eq_some_iff.mpr ⟨id, href, hid⟩
  unfold handleCallback
  simp only [hp, Store.applyPaymentStatus_of_found href hid]
  cases cb.fits p.amountMinor with
  | false => rfl
  | true =>
    cases p.status.canTransitionTo cb.status with
    | false | true => rfl

lemma outcome_settled (id : String) (p : Payment) (cb : Callback) (time : Int) :
    outcome (st.settled id p cb.status time (cb.sub st p time))
        { p with status := cb.status, updatedAt := time } =
      { status := cb.status
        sub :=
          if cb.status = .succeeded then some (.active, (outcome st p).periodEnd time)
          else (outcome st p).sub } := by
  unfold Callback.sub
  by_cases hpaid : cb.status = .succeeded
  · have huser : (subscriptionAfterPayment st p time).userID = p.userID :=
      renewed_userID (st.subscriptions_user p.userID) time
    rw [if_pos hpaid, if_pos hpaid, ← renewed_periodEnd]
    simp only [outcome, Store.settled, Option.elim]
    rw [← huser, Store.getSubscription_putSubscription_self]
    rfl
  · rw [if_neg hpaid, if_neg hpaid]
    rfl

/-- A callback finds its payment again, and acts on the outcome. -/
lemma outcome_handleCallback (hp : st.getPaymentByRef provider cb.providerRef = some p)
    (now : Int) :
    ∃ p', (handleCallback st provider cb now).2.getPaymentByRef provider cb.providerRef = some p' ∧
      p'.amountMinor = p.amountMinor ∧ p'.userID = p.userID ∧
      outcome (handleCallback st provider cb now).2 p' =
        (outcome st p).next p.amountMinor (cb, now) := by
  rcases Store.getPaymentByRef_eq_some_iff.mp hp with ⟨id, href, hid⟩
  rw [handleCallback_of_found href hid]
  have hnext : (outcome st p).next p.amountMinor (cb, now) =
      if cb.fits p.amountMinor && p.status.canTransitionTo cb.status then
        outcome (st.settled id p cb.status (cb.time now) (cb.sub st p (cb.time now)))
          { p with status := cb.status, updatedAt := cb.time now }
      else outcome st p := by
    rw [outcome_settled]
    rfl
  rw [hnext]
  split
  · refine ⟨{ p with status := cb.status, updatedAt := cb.time now }, ?_, rfl, rfl, rfl⟩
    exact Store.getPaymentByRef_eq_some_iff.mpr
      ⟨id, by rw [Store.paymentRefs_settled, href], Store.payments_settled_self⟩
  · exact ⟨p, hp, rfl, rfl, rfl⟩

/-- Callbacks, one after another. -/
def deliver (st : Store) (provider : String) (ds : List (Callback × Int)) : Store :=
  ds.foldl (fun st d => (handleCallback st provider d.1 d.2).2) st

/-- Callbacks for one payment act on its outcome. -/
lemma outcome_deliver (hp : st.getPaymentByRef provider ref = some p) {ds : List (Callback × Int)}
    (hds : ∀ d ∈ ds, d.1.providerRef = ref) :
    ∃ p', (deliver st provider ds).getPaymentByRef provider ref = some p' ∧ p'.userID = p.userID ∧
      outcome (deliver st provider ds) p' = (outcome st p).run p.amountMinor ds := by
  induction ds generalizing st p with
  | nil => exact ⟨p, hp, rfl, rfl⟩
  | cons d ds ih =>
    rw [forall_mem_cons] at hds
    rcases hds with ⟨rfl, hds⟩
    rcases outcome_handleCallback hp d.2 with ⟨_, hp₁, hamount, huser₁, hnext⟩
    rcases ih hp₁ hds with ⟨p', hp', huser', hrun⟩
    refine ⟨p', hp', huser'.trans huser₁, hrun.trans ?_⟩
    rw [hnext, hamount]
    rfl

variable (status : PaymentStatus)

/-- A callback that is not refused and reports a given status. -/
def Callback.reports (cb : Callback) : Bool :=
  cb.fits amountMinor && cb.status = status

namespace Outcome

variable (amountMinor : Int) {o : Outcome}

/-- The payment has not been made, as far as is known. -/
def Unpaid (o : Outcome) : Prop := o.status = .pending ∨ o.status = .failed

/-- The outcome once the payment is made. -/
def paid (o : Outcome) (time : Int) : Outcome := ⟨.succeeded, some (.active, o.periodEnd time)⟩

lemma next_of_refunded (h : o.status = .refunded) (d : Callback × Int) :
    o.next amountMinor d = o := by
  unfold next PaymentStatus.canTransitionTo
  rw [h]
  cases d.1.status <;> simp

lemma next_of_succeeded (h : o.status = .succeeded) (d : Callback × Int) :
    o.next amountMinor d =
      if d.1.reports amountMinor .refunded then { o with status := .refunded } else o := by
  unfold next PaymentStatus.canTransitionTo Callback.reports
  rw [h]
  cases d.1.status <;> simp

lemma next_of_unpaid (h : o.Unpaid) (d : Callback × Int) :
    o.next amountMinor d = if d.1.reports amountMinor .succeeded then o.paid (d.1.time d.2)
      else if d.1.reports amountMinor .failed then { o with status := .failed }
      else o := by
  unfold next PaymentStatus.canTransitionTo Callback.reports paid
  rcases o with ⟨status, _⟩
  rcases h with h | h
  · cases h
    cases d.1.status <;> simp
  · cases h
    cases d.1.status <;> simp

lemma run_cons (d : Callback × Int) (ds : List (Callback × Int)) :
    o.run amountMinor (d :: ds) = (o.next amountMinor d).run amountMinor ds :=
  rfl

lemma run_append (ds ds' : List (Callback × Int)) :
    o.run amountMinor (ds ++ ds') = (o.run amountMinor ds).run amountMinor ds' :=
  foldl_append ..

lemma run_of_refunded (h : o.status = .refunded) (ds : List (Callback × Int)) :
    o.run amountMinor ds = o := by
  induction ds with
  | nil => rfl
  | cons d ds ih => rw [run_cons, next_of_refunded amountMinor h, ih]

lemma run_of_succeeded (h : o.status = .succeeded) (ds : List (Callback × Int)) :
    o.run amountMinor ds =
      if ds.any (·.1.reports amountMinor .refunded) then { o with status := .refunded } else o := by
  induction ds with
  | nil => rfl
  | cons d ds ih =>
    rw [run_cons, next_of_succeeded amountMinor h, any_cons]
    cases d.1.reports amountMinor .refunded with
    | true => exact run_of_refunded amountMinor rfl ds
    | false => exact ih

variable {ds : List (Callback × Int)}

/-- Without a report that the payment was made, nothing counts but a failure. -/
lemma run_of_unpaid (h : o.Unpaid) (hds : ds.any (·.1.reports amountMinor .succeeded) = false) :
    o.run amountMinor ds =
      if ds.any (·.1.reports amountMinor .failed) then { o with status := .failed } else o := by
  induction ds generalizing o with
  | nil => rfl
  | cons d ds ih =>
    rw [any_cons, Bool.or_eq_false_iff] at hds
    rw [run_cons, next_of_unpaid amountMinor h, hds.1, any_cons]
    cases d.1.reports amountMinor .failed with
    | true =>
      have hrest := ih (o := { o with status := .failed }) (.inr rfl) hds.2
      exact hrest.trans (ite_self _)
    | false => exact ih h hds.2

/-- Without a refund, the first report that the payment was made decides. -/
lemma run_of_paid (h : o.Unpaid) (hpaid : ds.any (·.1.reports amountMinor .succeeded) = true)
    (hkept : ds.any (·.1.reports amountMinor .refunded) = false) :
    ∃ d ∈ ds, d.1.reports amountMinor .succeeded = true ∧
      o.run amountMinor ds = o.paid (d.1.time d.2) := by
  induction ds generalizing o with
  | nil => cases hpaid
  | cons d ds ih =>
    rw [any_cons, Bool.or_eq_false_iff] at hkept
    rw [run_cons, next_of_unpaid amountMinor h]
    by_cases hd : d.1.reports amountMinor .succeeded = true
    · refine ⟨d, mem_cons_self, hd, ?_⟩
      rw [if_pos hd, run_of_succeeded amountMinor rfl, hkept.2]
      rfl
    · rw [any_cons, Bool.eq_false_iff.mpr hd, Bool.false_or] at hpaid
      rw [if_neg hd]
      split
      · rcases ih (o := { o with status := .failed }) (.inr rfl) hpaid hkept.2 with
          ⟨d', hd', hrep, hrun⟩
        exact ⟨d', mem_cons_of_mem d hd', hrep, hrun⟩
      · rcases ih h hpaid hkept.2 with ⟨d', hd', hrep, hrun⟩
        exact ⟨d', mem_cons_of_mem d hd', hrep, hrun⟩

end Outcome

/-! ## The order of callbacks -/

/-- Callbacks are delivered in some order, at readings of a clock that does not go
back. -/
structure Delivery (clock : Set Int) (cbs : List Callback) (ds : List (Callback × Int)) : Prop where
  perm : (ds.map Prod.fst).Perm cbs
  readings : ∀ d ∈ ds, d.2 ∈ clock
  ordered : ds.Pairwise fun d d' => d.2 ≤ d'.2

/-- The outcome of callbacks is the same in any order. -/
def Outcome.Confluent (clock : Set Int) (cbs : List Callback) : Prop :=
  ∀ ds ds', Delivery clock cbs ds → Delivery clock cbs ds' →
    o.run amountMinor ds = o.run amountMinor ds'

/-- The payment is settled before, or is never reported made, or is never reported
refunded and the reports that it was made extend the period alike. -/
def Outcome.Settles (clock : Set Int) (cbs : List Callback) : Prop :=
  o.status = .succeeded ∨ o.status = .refunded ∨
    cbs.any (·.reports amountMinor .succeeded) = false ∨
    cbs.any (·.reports amountMinor .refunded) = false ∧
      ∀ cb ∈ cbs, ∀ cb' ∈ cbs, cb.reports amountMinor .succeeded = true →
        cb'.reports amountMinor .succeeded = true → ∀ now ∈ clock, ∀ now' ∈ clock,
          o.periodEnd (cb.time now) = o.periodEnd (cb'.time now')

namespace Delivery

variable {clock : Set Int} {cbs : List Callback} {ds : List (Callback × Int)}

lemma at_once {now : Int} (hnow : now ∈ clock) (order : List Callback) (h : order.Perm cbs) :
    Delivery clock cbs (order.map fun cb => (cb, now)) where
  perm := by
    rw [map_map]
    exact (map_id order).symm ▸ h
  readings := by
    intro d hd
    rcases mem_map.mp hd with ⟨_, -, rfl⟩
    exact hnow
  ordered := by
    rw [pairwise_map]
    exact pairwise_of_forall fun _ _ => le_refl now

lemma any_eq (h : Delivery clock cbs ds) (f : Callback → Bool) :
    ds.any (fun d => f d.1) = cbs.any f := by
  rw [← h.perm.any_eq, any_map]
  rfl

end Delivery

lemma Callback.status_eq_of_reports {amountMinor : Int} {status : PaymentStatus}
    (h : cb.reports amountMinor status = true) : cb.status = status := by
  unfold reports at h
  rw [Bool.and_eq_true, decide_eq_true_eq] at h
  exact h.2

namespace Outcome

variable {amountMinor : Int} {o : Outcome} {clock : Set Int} {cbs : List Callback}

lemma unpaid_or_settled (o : Outcome) :
    o.Unpaid ∨ o.status = .succeeded ∨ o.status = .refunded := by
  unfold Unpaid
  cases o.status <;> simp

lemma confluent_of_settles (h : o.Settles amountMinor clock cbs) :
    o.Confluent amountMinor clock cbs := by
  intro ds ds' hds hds'
  rcases o.unpaid_or_settled with hunpaid | hsucc | hrefunded
  · rcases h with h | h | hnone | ⟨hkept, hsame⟩
    · rcases hunpaid with hunpaid | hunpaid <;> simp [hunpaid] at h
    · rcases hunpaid with hunpaid | hunpaid <;> simp [hunpaid] at h
    · rw [run_of_unpaid amountMinor hunpaid ((hds.any_eq _).trans hnone),
        run_of_unpaid amountMinor hunpaid ((hds'.any_eq _).trans hnone),
        hds.any_eq, hds'.any_eq]
    · cases hpaid : cbs.any (·.reports amountMinor .succeeded) with
      | false =>
        rw [run_of_unpaid amountMinor hunpaid ((hds.any_eq _).trans hpaid),
          run_of_unpaid amountMinor hunpaid ((hds'.any_eq _).trans hpaid),
          hds.any_eq, hds'.any_eq]
      | true =>
        rcases run_of_paid amountMinor hunpaid ((hds.any_eq _).trans hpaid)
          ((hds.any_eq _).trans hkept) with ⟨d, hd, hrep, hrun⟩
        rcases run_of_paid amountMinor hunpaid ((hds'.any_eq _).trans hpaid)
          ((hds'.any_eq _).trans hkept) with ⟨d', hd', hreports', hrun'⟩
        rw [hrun, hrun', paid, paid, hsame d.1 _ d'.1 _ hrep hreports' d.2 (hds.readings d hd)
          d'.2 (hds'.readings d' hd')]
        · exact hds.perm.subset (mem_map_of_mem hd)
        · exact hds'.perm.subset (mem_map_of_mem hd')
  · rw [run_of_succeeded amountMinor hsucc, run_of_succeeded amountMinor hsucc,
      hds.any_eq, hds'.any_eq]
  · rw [run_of_refunded amountMinor hrefunded, run_of_refunded amountMinor hrefunded]

variable {now : Int}

lemma run_at_once_first (hunpaid : o.Unpaid) {cb : Callback} (hcb : cb ∈ cbs)
    (hrep : cb.reports amountMinor .succeeded = true) (hnow : now ∈ clock) :
    ∃ ds, Delivery clock cbs ds ∧
      o.run amountMinor ds =
        if cbs.any (·.reports amountMinor .refunded) then
          { o.paid (cb.time now) with status := .refunded }
        else o.paid (cb.time now) := by
  have hperm : (cb :: cbs.erase cb).Perm cbs := (perm_cons_erase hcb).symm
  refine ⟨_, .at_once hnow _ hperm, ?_⟩
  have hcb' : cb.reports amountMinor .refunded = false := by
    rw [Bool.eq_false_iff]
    intro hrefund
    exact absurd ((Callback.status_eq_of_reports hrep).symm.trans
      (Callback.status_eq_of_reports hrefund)) (by decide)
  rw [map_cons, run_cons, next_of_unpaid amountMinor hunpaid, if_pos hrep,
    run_of_succeeded amountMinor rfl, ← hperm.any_eq, any_cons, hcb', Bool.false_or, any_map]
  rfl

lemma run_at_once_refunds (hunpaid : o.Unpaid)
    (hpaid : cbs.any (·.reports amountMinor .succeeded) = true) (hnow : now ∈ clock) :
    ∃ ds, Delivery clock cbs ds ∧ (o.run amountMinor ds).status = .succeeded := by
  generalize hrefund : Callback.reports amountMinor .refunded = refund
  have hperm : (cbs.filter refund ++ cbs.filter (!refund ·)).Perm cbs :=
    filter_append_perm refund cbs
  refine ⟨_, .at_once hnow _ hperm, ?_⟩
  have hother : ∀ status, status ≠ .refunded →
      (cbs.filter refund).any (·.reports amountMinor status) = false := by
    intro status hne
    rw [any_eq_false]
    intro cb hcb hstat
    have hcb' := (mem_filter.mp hcb).2
    rw [← hrefund] at hcb'
    exact hne ((Callback.status_eq_of_reports hstat).symm.trans
      (Callback.status_eq_of_reports hcb'))
  have hfirst : o.run amountMinor ((cbs.filter refund).map fun cb => (cb, now)) = o := by
    rw [run_of_unpaid amountMinor hunpaid]
    · rw [any_map]
      exact if_neg (by simpa using hother .failed (by decide))
    · rw [any_map]
      exact hother .succeeded (by decide)
  have hsome : ((cbs.filter (!refund ·)).map fun cb => (cb, now)).any
      (·.1.reports amountMinor .succeeded) = true := by
    rw [← hperm.any_eq, any_append, hother .succeeded (by decide), Bool.false_or] at hpaid
    rw [any_map]
    exact hpaid
  have hnone : ((cbs.filter (!refund ·)).map fun cb => (cb, now)).any
      (·.1.reports amountMinor .refunded) = false := by
    rw [any_map, any_eq_false]
    intro cb hcb hstat
    have hcb' := (mem_filter.mp hcb).2
    rw [← hrefund, Bool.not_eq_true'] at hcb'
    exact absurd (hcb'.symm.trans hstat) (by decide)
  rcases run_of_paid amountMinor hunpaid hsome hnone with ⟨d, -, -, hrun⟩
  rw [map_append, run_append, hfirst, hrun]
  rfl

/-- The order of callbacks does not matter exactly if they settle the payment. -/
lemma confluent_iff (hclock : clock.Nonempty) :
    o.Confluent amountMinor clock cbs ↔ o.Settles amountMinor clock cbs := by
  refine ⟨fun hconfluent => ?_, confluent_of_settles⟩
  rcases hclock with ⟨_, hnow⟩
  rcases o.unpaid_or_settled with hunpaid | hsucc | hrefunded
  · cases hpaid : cbs.any (·.reports amountMinor .succeeded) with
    | false => exact .inr (.inr (.inl hpaid))
    | true =>
      cases hrefund : cbs.any (·.reports amountMinor .refunded) with
      | false =>
        refine .inr (.inr (.inr ⟨hrefund, ?_⟩))
        intro cb hcb cb' hcb' hrep hreports' now₁ hnow₁ now₂ hnow₂
        rcases run_at_once_first hunpaid hcb hrep hnow₁ with ⟨ds, hds, hrun⟩
        rcases run_at_once_first hunpaid hcb' hreports' hnow₂ with ⟨ds', hds', hrun'⟩
        rw [hrefund] at hrun hrun'
        have hsame := hrun.symm.trans ((hconfluent ds ds' hds hds').trans hrun')
        simpa [paid] using hsame
      | true =>
        -- A payment before the refunds, and after them.
        rcases any_eq_true.mp hpaid with ⟨_, hcb, hrep⟩
        rcases run_at_once_first hunpaid hcb hrep hnow with ⟨ds, hds, hrun⟩
        rcases run_at_once_refunds hunpaid hpaid hnow with ⟨ds', hds', hstat⟩
        rw [← hconfluent ds ds' hds hds', hrun, hrefund] at hstat
        cases hstat
  · exact .inl hsucc
  · exact .inr (.inl hrefunded)

end Outcome

/-- The outcome of any callbacks for a payment, for it and its buyer's subscription, is the same in
every order if and only if the payment was settled before, or none reports that it was made, or none
reports a refund and all that report it extend the period alike. -/
theorem callbacks_confluent_iff (st : Store) (provider ref : String) (p : Payment)
    (hp : st.getPaymentByRef provider ref = some p) (cbs : List Callback)
    (hcbs : ∀ cb ∈ cbs, cb.providerRef = ref) (clock : Set Int) (hclock : clock.Nonempty) :
    (∀ ds ds', Delivery clock cbs ds → Delivery clock cbs ds' →
        (deliver st provider ds).observe provider ref p.userID =
          (deliver st provider ds').observe provider ref p.userID) ↔
      (outcome st p).Settles p.amountMinor clock cbs := by
  have hobserve : ∀ ds, Delivery clock cbs ds →
      (deliver st provider ds).observe provider ref p.userID =
        some ((outcome st p).run p.amountMinor ds) := by
    intro ds hds
    have href : ∀ d ∈ ds, d.1.providerRef = ref :=
      fun d hd => hcbs d.1 (hds.perm.subset (mem_map_of_mem hd))
    rcases outcome_deliver hp href with ⟨_, hp', huser, hrun⟩
    rw [← hrun, ← huser]
    exact Store.observe_of_found hp'
  rw [← Outcome.confluent_iff hclock]
  constructor
  · intro h ds ds' hds hds'
    have hsame := h ds ds' hds hds'
    rw [hobserve ds hds, hobserve ds' hds'] at hsame
    exact Option.some.inj hsame
  · intro h ds ds' hds hds'
    rw [hobserve ds hds, hobserve ds' hds', h ds ds' hds hds']

/-- A payment of account 7 that has not been made yet. -/
def openPayment : Payment where
  id := "100"
  userID := "7"
  plan := .premium
  provider := "stripe"
  providerRef := "pay-1"
  method := .card
  amountMinor := 399
  currency := "USD"
  status := .pending
  idempotencyKey := "key-1"
  createdAt := 4
  updatedAt := 4

def openStore : Store := (Store.new.createPayment openPayment).2.2

def openCallback : Callback := ⟨"pay-1", status, 399, 5⟩

/-- The payment is reported failed, and then made, twice. -/
def retried : List Callback :=
  [openCallback .failed, openCallback .succeeded, openCallback .succeeded]

theorem callbacks_confluent_iff_retried :
    (deliver openStore "stripe" (retried.map fun cb => (cb, 9))).observe "stripe" "pay-1" "7" =
      (deliver openStore "stripe" (retried.reverse.map fun cb => (cb, 9))).observe
        "stripe" "pay-1" "7" := by
  have hnow : (9 : Int) ∈ ({9} : Set Int) := rfl
  refine (callbacks_confluent_iff openStore "stripe" "pay-1" openPayment (by decide +kernel)
    retried (by decide) {9} ⟨9, hnow⟩).mpr (.inr (.inr (.inr ⟨by decide, ?_⟩))) _ _
    (.at_once hnow retried (.refl _)) (.at_once hnow retried.reverse retried.reverse_perm)
  intro cb hcb cb' hcb' _ _ now _ now' _
  have htime : ∀ cb ∈ retried, ∀ now, cb.time now = 5 := by
    intro cb hcb now
    simp only [retried, mem_cons, not_mem_nil, or_false] at hcb
    rcases hcb with rfl | rfl | rfl <;> rfl
  rw [htime cb hcb, htime cb' hcb']

/-- A refund that is reported before the payment is forgotten: the two orders end differently. -/
theorem refund_before_payment : (deliver openStore "stripe"
        [(openCallback .succeeded, 9), (openCallback .refunded, 9)]).observe "stripe" "pay-1" "7" =
      some ⟨.refunded, some (.active, 5 + subscriptionPeriod)⟩ ∧ (deliver openStore "stripe"
        [(openCallback .refunded, 9), (openCallback .succeeded, 9)]).observe "stripe" "pay-1" "7" =
      some ⟨.succeeded, some (.active, 5 + subscriptionPeriod)⟩ := by
  decide +kernel

end SyncApp.Billing
