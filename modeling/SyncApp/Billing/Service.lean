import SyncApp.Billing.Callbacks
import SyncApp.Foundations.Machine

/-!
# Checkouts and callbacks side by side

`Checkout` and `HandleCallback` of `server/internal/billing/billing.go`, one store call at a time,
so that any number of them run side by side.  Callbacks are numbered as they come in.

Main results:

- `handler_uninterrupted`: a handler that nobody interrupts is `HandleCallback`.
-/

namespace SyncApp.Billing

open Foundations

/-! ## Checkouts -/

/-- `Provider`, as far as a checkout reads it. -/
structure Provider where
  name : String
  methods : List PaymentMethod
  methods_ne : methods ≠ []

/-- The configuration of the service: what a country is billed in, the prices of the premium
plan, and which provider serves a country. -/
structure Service where
  currencyFor : String → String
  prices : String → Option Int
  providerFor : String → Option Provider

/-- `CheckoutRequest`, as far as a checkout reads it. -/
structure CheckoutRequest where
  userID : String
  country : String
  method : Option PaymentMethod
  idempotencyKey : String

inductive CheckoutError where
  | noUser
  | noIdempotencyKey
  | noPrice (currency : String)
  | noProvider
  | badMethod (provider : String) (method : PaymentMethod)
  | chargeFailed
  | noProviderRef
  | notFound
deriving DecidableEq

/-- The first part of `Checkout`: the payment that it will create. -/
def Service.newPayment (svc : Service) (req : CheckoutRequest) (id : String) (now : Int) :
    Except CheckoutError Payment :=
  if req.userID = "" then .error .noUser
  else if req.idempotencyKey = "" then .error .noIdempotencyKey
  else
    let currency := svc.currencyFor req.country
    match svc.prices currency with
    | none => .error (.noPrice currency)
    | some amount =>
      match svc.providerFor req.country with
      | none => .error .noProvider
      | some provider =>
        let method := req.method.getD (provider.methods.head provider.methods_ne)
        if method ∈ provider.methods then
          .ok
            { id := id, userID := req.userID, plan := .premium, provider := provider.name,
              method := method, amountMinor := amount, currency := currency,
              status := .pending, idempotencyKey := req.idempotencyKey,
              createdAt := now, updatedAt := now }
        else .error (.badMethod provider.name method)

/-- How far a checkout has come. -/
inductive Progress where
  /-- The provider has been asked. -/
  | charging (p : Payment)
  /-- It has answered with its reference. -/
  | charged (p : Payment) (ref : String)
  /-- The reference is attached. -/
  | attached (p : Payment) (ref : String)
  /-- The buyer was seen without an active subscription. -/
  | unsubscribed (p : Payment) (ref : String)
  | finished (p : Payment) (ref : String)
  | deduplicated (p : Payment)
  | failed (e : CheckoutError)
deriving DecidableEq

/-- The payment and the reference of a checkout, once it is attached. -/
def Progress.attachedTo : Progress → Option (Payment × String)
  | .attached p ref | .unsubscribed p ref | .finished p ref => some (p, ref)
  | .charging _ | .charged _ _ | .deduplicated _ | .failed _ => none

/-- The subscription that `ensureIncompleteSubscription` writes. -/
def incompleteSubscription (p : Payment) : Subscription where
  userID := p.userID
  plan := .premium
  status := .incomplete
  provider := p.provider
  createdAt := p.createdAt
  updatedAt := p.createdAt

/-- How far the handler of a callback has come. -/
inductive Handler where
  /-- The payment is found. -/
  | found (provider : String) (cb : Callback) (p : Payment) (time : Int)
  /-- The subscription is read, if the callback reports a payment. -/
  | loaded (provider : String) (cb : Callback) (time : Int) (sub : Option Subscription)
  | returned (provider : String) (cb : Callback) (r : CallbackResult)
deriving DecidableEq

namespace Handler

def lookup (st : Store) (provider : String) (cb : Callback) (now : Int) : Handler :=
  match st.getPaymentByRef provider cb.providerRef with
  | none => .returned provider cb .unknown
  | some p =>
    if ¬ cb.fits p.amountMinor then .returned provider cb .amountMismatch
    else .found provider cb p (cb.time now)

def next (st : Store) : Handler → Handler × Store
  | .found provider cb p time => (.loaded provider cb time (cb.sub st p time), st)
  | .loaded provider cb time sub =>
    let r := st.applyPaymentStatus provider cb.providerRef cb.status time sub
    (.returned provider cb (.ofChanged r.1), r.2)
  | .returned provider cb r => (.returned provider cb r, st)

end Handler

theorem handler_uninterrupted (st : Store) (provider : String) (cb : Callback) (now : Int) :
    let first := (Handler.lookup st provider cb now).next st
    first.1.next first.2 =
      (.returned provider cb (handleCallback st provider cb now).1,
        (handleCallback st provider cb now).2) := by
  unfold Handler.lookup handleCallback
  cases st.getPaymentByRef provider cb.providerRef with
  | none => rfl
  | some p =>
    dsimp only
    cases cb.fits p.amountMinor with
    | false | true => rfl

/-- The store, the checkouts by the identifiers of their payments, and the callbacks. -/
structure World where
  store : Store
  checkouts : String → Option Progress
  handlers : List Handler

/-- What happens next. -/
inductive Event where
  /-- A client asks for a checkout. -/
  | checkout (req : CheckoutRequest) (id : String) (now : Int)
  /-- The provider answers a checkout, with its reference or with an error. -/
  | charge (id : String) (answer : Option String)
  /-- A checkout makes its next store call. -/
  | proceed (id : String)
  /-- A callback comes in. -/
  | callback (provider : String) (cb : Callback) (now : Int)
  /-- The handler of a callback makes its next store call. -/
  | handle (j : Nat)

namespace World

variable (svc : Service) (w : World) (id : String)

/-- How far a checkout has come. -/
def setCheckout (progress : Progress) : World :=
  { w with checkouts := Function.update w.checkouts id (some progress) }

def begin (req : CheckoutRequest) (id : String) (now : Int) : World :=
  match svc.newPayment req id now with
  | .error e => w.setCheckout id (.failed e)
  | .ok p =>
    let r := w.store.createPayment p
    if r.2.1 then w.setCheckout id (.deduplicated r.1)
    else { w.setCheckout id (.charging p) with store := r.2.2 }

def charge (answer : Option String) : World :=
  match w.checkouts id with
  | some (.charging p) =>
    match answer with
    | none => w.setCheckout id (.failed .chargeFailed)
    | some ref =>
      if ref = "" then w.setCheckout id (.failed .noProviderRef)
      else w.setCheckout id (.charged p ref)
  | _ => w

/-- The rest of `Checkout`, with `ensureIncompleteSubscription`. -/
def proceed : World :=
  match w.checkouts id with
  | some (.charged p ref) =>
    match w.store.attachProviderRef p.id ref with
    | none => w.setCheckout id (.failed .notFound)
    | some st => { w.setCheckout id (.attached p ref) with store := st }
  | some (.attached p ref) =>
    if (w.store.getSubscription p.userID).any (·.active p.createdAt) then
      w.setCheckout id (.finished p ref)
    else w.setCheckout id (.unsubscribed p ref)
  | some (.unsubscribed p ref) =>
    { w.setCheckout id (.finished p ref) with
      store := w.store.putSubscription (incompleteSubscription p) }
  | _ => w

/-- The handler of a callback goes on. -/
def handle (j : Nat) : World :=
  match w.handlers[j]? with
  | none => w
  | some h =>
    { w with store := (h.next w.store).2, handlers := w.handlers.set j (h.next w.store).1 }

def step : Event → Unit × World
  | .checkout req id now => ((), w.begin svc req id now)
  | .charge id answer => ((), w.charge id answer)
  | .proceed id => ((), w.proceed id)
  | .callback provider cb now =>
    ((), { w with handlers := w.handlers ++ [Handler.lookup w.store provider cb now] })
  | .handle j => ((), w.handle j)

/-- A store, and nothing under way. -/
def init (start : Store) : World := ⟨start, fun _ => none, []⟩

abbrev after (start : Store) (events : List Event) : World :=
  Machine.final (step svc) (init start) events

end World

end SyncApp.Billing
