import SyncApp.Foundations.JoinedKey
import SyncApp.Foundations.Tables

/-!
# Payments and subscriptions

The records of `server/internal/model/billing.go` and the calls of the in-memory billing store, each
of which is one critical section.  Money is in minor units and time in milliseconds.

Main results:

- `Store.applyPaymentStatus_of_found`: what a change of a payment's status writes.
-/

namespace SyncApp.Billing

open Foundations
open Function (update update_of_ne update_self)

inductive Plan where
  | free
  | premium
deriving DecidableEq

inductive PaymentMethod where
  | card
  | sbp
deriving DecidableEq

inductive SubscriptionStatus where
  | incomplete
  | active
  | pastDue
  | canceled
deriving DecidableEq

inductive PaymentStatus where
  | pending
  | succeeded
  | failed
  | refunded
deriving DecidableEq

def PaymentStatus.canTransitionTo (p next : PaymentStatus) : Bool :=
  if p = next then false
  else
    match p with
    | .pending => next = .succeeded || next = .failed
    | .succeeded => next = .refunded
    | .failed => next = .succeeded
    | .refunded => false

/-- The payment was made, whether or not it has been refunded since. -/
def PaymentStatus.made (p : PaymentStatus) : Bool := p = .succeeded || p = .refunded

variable {p : PaymentStatus}

lemma PaymentStatus.made_of_canTransitionTo {next : PaymentStatus}
    (h : p.canTransitionTo next = true) (hp : p.made = true) : next.made = true := by
  revert h hp
  cases p <;> cases next <;> decide

lemma PaymentStatus.not_made : ¬ p.made = true ↔ p.canTransitionTo .succeeded = true := by
  cases p <;> decide

structure Subscription where
  userID : String
  plan : Plan
  status : SubscriptionStatus
  currentPeriodEnd : Int := 0
  provider : String
  createdAt : Int
  updatedAt : Int
  cancelAtPeriodEnd : Bool := false
deriving DecidableEq

def Subscription.active (s : Subscription) (now : Int) : Bool :=
  s.plan = .premium &&
    match s.status with
    | .active | .pastDue => s.currentPeriodEnd = 0 || now < s.currentPeriodEnd
    | .incomplete | .canceled => false

structure Payment where
  id : String
  userID : String
  plan : Plan
  provider : String
  providerRef : String := ""
  method : PaymentMethod
  amountMinor : Int
  currency : String
  status : PaymentStatus
  idempotencyKey : String
  createdAt : Int
  updatedAt : Int
deriving DecidableEq

/-! ## The store -/

/-- The index of a payment at its provider. -/
def refKey (provider providerRef : String) : String := joinKey provider providerRef

/-- The billing tables.  Subscriptions are kept under their account, and the indexes lead
to payments that are there. -/
structure Store where
  subscriptions : String → Option Subscription
  payments : String → Option Payment
  paymentIdem : String → Option String
  paymentRefs : String → Option String
  subscriptions_user : ∀ userID sub, subscriptions userID = some sub → sub.userID = userID
  idem_found : ∀ key id, paymentIdem key = some id → (payments id).isSome
  refs_found : ∀ key id, paymentRefs key = some id → (payments id).isSome

lemma isSome_update {α : Type} {f : String → Option α} {k : String} (h : (f k).isSome)
    (k' : String) (a : α) : (update f k' (some a) k).isSome := by
  rcases eq_or_ne k k' with rfl | hne
  · rw [update_self]
    rfl
  · rw [update_of_ne hne]
    exact h

namespace Store

/-- Nothing is sold yet. -/
def new : Store where
  subscriptions := fun _ => none
  payments := fun _ => none
  paymentIdem := fun _ => none
  paymentRefs := fun _ => none
  subscriptions_user := nofun
  idem_found := nofun
  refs_found := nofun

variable (st : Store)

def getSubscription (userID : String) : Option Subscription := st.subscriptions userID

def putSubscription (sub : Subscription) : Store :=
  { st with
    subscriptions := update st.subscriptions sub.userID (some sub)
    subscriptions_user := by
      intro userID sub' h
      rcases update_cases h with ⟨rfl, hnew⟩ | ⟨-, hold⟩
      · exact congrArg Subscription.userID (Option.some.inj hnew).symm
      · exact st.subscriptions_user userID sub' hold }

/-- Write a payment under an identifier. -/
def putPayment (id : String) (p : Payment) : Store :=
  { st with
    payments := update st.payments id (some p)
    idem_found := fun key id' h => isSome_update (st.idem_found key id' h) id p
    refs_found := fun key id' h => isSome_update (st.refs_found key id' h) id p }

lemma isSome_putPayment (id : String) (p : Payment) :
    ((st.putPayment id p).payments id).isSome := by
  simp [putPayment]

/-- Lead a reference to a payment that is there. -/
def putRef (key id : String) (h : (st.payments id).isSome) : Store :=
  { st with
    paymentRefs := update st.paymentRefs key (some id)
    refs_found := by
      intro key' id' h'
      rcases update_cases h' with ⟨rfl, hnew⟩ | ⟨-, hold⟩
      · exact Option.some.inj hnew ▸ h
      · exact st.refs_found key' id' hold }

/-- Forget a reference. -/
def deleteRef (key : String) : Store :=
  { st with
    paymentRefs := update st.paymentRefs key none
    refs_found := by
      intro key' id' h'
      rcases update_cases h' with ⟨rfl, hnew⟩ | ⟨-, hold⟩
      · cases hnew
      · exact st.refs_found key' id' hold }

/-- Lead an idempotency key to a payment that is there. -/
def putIdem (key id : String) (h : (st.payments id).isSome) : Store :=
  { st with
    paymentIdem := update st.paymentIdem key (some id)
    idem_found := by
      intro key' id' h'
      rcases update_cases h' with ⟨rfl, hnew⟩ | ⟨-, hold⟩
      · exact Option.some.inj hnew ▸ h
      · exact st.idem_found key' id' hold }

/-- `CreatePayment`: the payment, whether it was there, and the store. -/
def createPayment (p : Payment) : Payment × Bool × Store :=
  let key := joinKey p.userID p.idempotencyKey
  match h : st.paymentIdem key with
  | some id => ((st.payments id).get (st.idem_found key id h), true, st)
  | none =>
    let st' := (st.putPayment p.id p).putIdem key p.id (st.isSome_putPayment p.id p)
    if p.providerRef = "" then (p, false, st')
    else
      (p, false, st'.putRef (refKey p.provider p.providerRef) p.id (st.isSome_putPayment p.id p))

variable (provider providerRef : String)

def getPaymentByRef : Option Payment :=
  (st.paymentRefs (refKey provider providerRef)).bind st.payments

/-- `AttachProviderRef`.  There is no result if the payment is not found. -/
def attachProviderRef (paymentID providerRef : String) : Option Store :=
  match st.payments paymentID with
  | none => none
  | some p =>
    let st' := if p.providerRef = "" then st else st.deleteRef (refKey p.provider p.providerRef)
    some ((st'.putPayment paymentID { p with providerRef := providerRef }).putRef
      (refKey p.provider providerRef) paymentID (st'.isSome_putPayment paymentID _))

/-- `ApplyPaymentStatus`: whether anything changed, unless the payment is not found,
and the store. -/
def applyPaymentStatus (next : PaymentStatus)
    (time : Int) (sub : Option Subscription) : Option Bool × Store :=
  match st.paymentRefs (refKey provider providerRef) with
  | none => (none, st)
  | some id =>
    match st.payments id with
    | none => (none, st)
    | some p =>
      if p.status.canTransitionTo next then
        let st' := st.putPayment id { p with status := next, updatedAt := time }
        match sub with
        | none => (some true, st')
        | some sub => (some true, st'.putSubscription sub)
      else (some false, st)

variable {st : Store} {p : Payment} {provider providerRef id id' : String} {next : PaymentStatus}
  {sub : Option Subscription} {time : Int}

lemma getPaymentByRef_eq_some_iff : st.getPaymentByRef provider providerRef = some p ↔
      ∃ id, st.paymentRefs (refKey provider providerRef) = some id ∧ st.payments id = some p := by
  unfold getPaymentByRef
  rw [Option.bind_eq_some_iff]

@[simp]
lemma getSubscription_putSubscription_self (sub : Subscription) :
    (st.putSubscription sub).getSubscription sub.userID = some sub :=
  update_self ..

lemma getSubscription_putSubscription_other {sub : Subscription} {userID : String}
    (hne : userID ≠ sub.userID) :
    (st.putSubscription sub).getSubscription userID = st.getSubscription userID :=
  update_of_ne hne ..

@[simp]
lemma payments_putPayment_self (id : String) (p : Payment) :
    (st.putPayment id p).payments id = some p :=
  update_self ..

/-- The store after a status has been applied to a payment. -/
def settled (st : Store) (id : String) (p : Payment) (next : PaymentStatus) (time : Int)
    (sub : Option Subscription) : Store :=
  let st' := st.putPayment id { p with status := next, updatedAt := time }
  sub.elim st' st'.putSubscription

@[simp]
lemma paymentRefs_settled : (st.settled id p next time sub).paymentRefs = st.paymentRefs := by
  cases sub with
  | none | some => rfl

lemma payments_settled (id : String) (p : Payment) (next : PaymentStatus) (time : Int)
    (sub : Option Subscription) : (st.settled id p next time sub).payments =
      update st.payments id (some { p with status := next, updatedAt := time }) := by
  cases sub with
  | none | some => rfl

@[simp]
lemma payments_settled_self : (st.settled id p next time sub).payments id =
      some { p with status := next, updatedAt := time } := by
  rw [payments_settled, update_self]

/-- Payments that are all of the premium plan, with a new version of one. -/
lemma premium_update {st st' : Store} (h : ∀ id q, st.payments id = some q → q.plan = .premium)
    (hpays : st'.payments = update st.payments id (some p))
    (hplan : p.plan = .premium) : ∀ id q, st'.payments id = some q → q.plan = .premium := by
  intro id' q hq
  rw [hpays] at hq
  rcases update_cases hq with ⟨rfl, hnew⟩ | ⟨-, hold⟩
  · exact Option.some.inj hnew ▸ hplan
  · exact h id' q hold

/-- A status is applied to the payment of the reference, if it is one that the payment can
come to. -/
theorem applyPaymentStatus_of_found (href : st.paymentRefs (refKey provider providerRef) = some id)
    (hp : st.payments id = some p) (next : PaymentStatus) (time : Int) (sub : Option Subscription) :
    st.applyPaymentStatus provider providerRef next time sub =
      if p.status.canTransitionTo next then (some true, st.settled id p next time sub)
      else (some false, st) := by
  unfold applyPaymentStatus settled
  simp only [href, hp]
  cases sub with
  | none | some => rfl

end Store

end SyncApp.Billing
