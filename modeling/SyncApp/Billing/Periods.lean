import SyncApp.Billing.Checkout

/-!
# Paid periods

Every payment extends the buyer's period.  A callback's handler, `Cancel` and a checkout write a
subscription that they have read before, so what was written in between is lost.

Main results:

- `periods_exact_iff`: the runs in which every period end is the one that the payments give, one
  after another.
-/

namespace SyncApp.Billing

open Foundations List
open Function (update update_eq_self_iff update_of_ne update_self)

variable {p : PaymentStatus}

lemma PaymentStatus.made_eq_of_canTransitionTo {next : PaymentStatus}
    (h : p.canTransitionTo next = true) (hnext : next ≠ .succeeded) : next.made = p.made := by
  revert h hnext
  cases p <;> cases next <;> decide

/-! ## The expiry sweep -/

namespace Store

/-- A subscription that the sweep closes. -/
def lapsed (now : Int) (sub : Subscription) : Bool :=
  (sub.status = .active || sub.status = .pastDue) && sub.currentPeriodEnd ≠ 0 &&
    sub.currentPeriodEnd ≤ now

/-- The loop of `ExpireSubscriptions`, over the accounts in the given order. -/
def expireLoop (now : Int) (limit : Nat) : List String → List String → Store → List String × Store
  | [], out, st => (out, st)
  | userID :: order, out, st =>
    if limit ≤ out.length then (out, st)
    else
      match st.subscriptions userID with
      | none => expireLoop now limit order out st
      | some sub =>
        if lapsed now sub then
          expireLoop now limit order (out ++ [userID])
            (st.putSubscription { sub with status := .canceled, updatedAt := now })
        else expireLoop now limit order out st

variable (st : Store)

/-- `ExpireSubscriptions`: the accounts whose subscription was closed, and the store. -/
def expireSubscriptions (now limit : Int) (order : List String) : List String × Store :=
  expireLoop now (if limit ≤ 0 then 500 else limit.toNat) order [] st

/-- Whether an account's subscription is incomplete, and when its period ends. -/
def terms (userID : String) : Option (Bool × Int) :=
  (st.getSubscription userID).map fun sub => (sub.status = .incomplete, sub.currentPeriodEnd)

/-- When an account's period ends. -/
def periodEnd (userID : String) : Int := ((st.terms userID).map Prod.snd).getD 0

/-- The buyer of a payment, if it was made. -/
def madeBy (id : String) : Option String :=
  ((st.payments id).filter (·.status.made)).map (·.userID)

variable {st st' : Store}

lemma terms_congr (h : st'.subscriptions = st.subscriptions) : st'.terms = st.terms := by
  funext userID
  simp only [terms, getSubscription, h]

lemma terms_putSubscription (sub : Subscription) : (st.putSubscription sub).terms =
      update st.terms sub.userID (some (sub.status = .incomplete, sub.currentPeriodEnd)) := by
  funext userID
  rcases eq_or_ne userID sub.userID with rfl | hne
  · simp [terms]
  · rw [update_of_ne hne]
    simp only [terms, getSubscription_putSubscription_other hne]

variable {id : String} {p : Payment}

lemma madeBy_of_found (hp : st.payments id = some p) :
    st.madeBy id = if p.status.made = true then some p.userID else none := by
  unfold madeBy
  rw [hp, Option.filter_some]
  split <;> rfl

lemma madeBy_update (h : st'.payments = update st.payments id (some p)) : st'.madeBy =
      update st.madeBy id (if p.status.made = true then some p.userID else none) := by
  funext id'
  rcases eq_or_ne id' id with rfl | hne
  · rw [update_self]
    refine madeBy_of_found ?_
    rw [h, update_self]
  · simp only [madeBy, h, update_of_ne hne]

/-- A payment is written again, and is made as little or as much as before. -/
lemma madeBy_rewrite {p' : Payment} (hp : st.payments id = some p)
    (h : st'.payments = update st.payments id (some p'))
    (hmade : p'.status.made = p.status.made) (huser : p'.userID = p.userID) :
    st'.madeBy = st.madeBy := by
  rw [madeBy_update h, update_eq_self_iff, madeBy_of_found hp, hmade, huser]

lemma attachProviderRef_spec {ref : String} (h : st.attachProviderRef id ref = some st') :
    st'.subscriptions = st.subscriptions ∧ st'.madeBy = st.madeBy := by
  unfold attachProviderRef at h
  cases hq : st.payments id with
  | none =>
    rw [hq] at h
    cases h
  | some q =>
    simp only [hq, Option.some.injEq] at h
    rcases h with rfl
    by_cases href : q.providerRef = ""
    · simp only [if_pos href]
      exact ⟨rfl, madeBy_rewrite hq rfl rfl rfl⟩
    · simp only [if_neg href]
      exact ⟨rfl, madeBy_rewrite hq rfl rfl rfl⟩

lemma createPayment_spec (hnew : st.payments p.id = none) (href : p.providerRef = "")
    (hstat : p.status = .pending) : (st.createPayment p).2.2.subscriptions = st.subscriptions ∧
      (st.createPayment p).2.2.madeBy = st.madeBy ∨ (st.createPayment p).2.1 = true := by
  rcases st.createPayment_cases href with hdup | ⟨-, hpays, -, hsubs⟩
  · exact .inr hdup
  · refine .inl ⟨hsubs, ?_⟩
    rw [madeBy_update hpays, update_eq_self_iff, hstat]
    simp [madeBy, hnew, PaymentStatus.made]

/-- The sweep leaves periods and payments as they are. -/
lemma expireLoop_spec (now : Int) (limit : Nat) (order out : List String) (st : Store) :
    (expireLoop now limit order out st).2.terms = st.terms ∧
      (expireLoop now limit order out st).2.payments = st.payments := by
  induction order generalizing out st with
  | nil => exact ⟨rfl, rfl⟩
  | cons userID order ih =>
    unfold expireLoop
    split
    · exact ⟨rfl, rfl⟩
    cases hsub : st.subscriptions userID with
    | none => exact ih out st
    | some sub =>
      dsimp only
      split
      · next hlapsed =>
        have hnext := ih (out ++ [userID])
          (st.putSubscription { sub with status := .canceled, updatedAt := now })
        refine ⟨hnext.1.trans ?_, hnext.2⟩
        rw [terms_putSubscription, update_eq_self_iff]
        -- A lapsed subscription is not an incomplete one.
        have hstat : sub.status ≠ .incomplete := by
          intro hincomplete
          simp [lapsed, hincomplete] at hlapsed
        simp [terms, getSubscription, st.subscriptions_user userID sub hsub, hsub, hstat]
      · exact ih out st

end Store

/-! ## The books -/

/-- A payment that was made: by whom, and at what time. -/
structure Receipt where
  id : String
  userID : String
  time : Int

/-- How far a call of `Cancel` has come. -/
inductive Cancellation where
  | notFound
  /-- The subscription is read. -/
  | loaded (sub : Subscription)
  | returned (sub : Subscription)

/-- The service with its calls of `Cancel`, and the payments that were made so far. -/
structure Books where
  world : World
  cancels : List Cancellation
  paid : List Receipt

/-- What happens next. -/
inductive BooksEvent where
  | service (event : Event)
  /-- `Cancel` is called, and reads the subscription. -/
  | cancel (userID : String)
  /-- A call of `Cancel` writes the subscription. -/
  | confirm (k : Nat) (now : Int)
  | sweep (now limit : Int) (order : List String)

/-- The payment that a handler is about to mark as made, with the subscription that it is
about to write. -/
def World.paying (w : World) (j : Nat) : Option (Receipt × Option Subscription) :=
  match w.handlers[j]? with
  | some (.loaded provider cb time sub) =>
    if cb.status = .succeeded then
      (w.store.paymentRefs (refKey provider cb.providerRef)).bind fun id =>
        (w.store.payments id).bind fun q =>
          if q.status.canTransitionTo .succeeded then some (⟨id, q.userID, time⟩, sub) else none
    else none
  | _ => none

/-- The payment of a checkout that is about to write an incomplete subscription. -/
def World.resetting (w : World) (id : String) : Option Payment :=
  match w.checkouts id with
  | some (.unsubscribed p _) => some p
  | _ => none

namespace Books

variable (svc : Service) (b : Books)

/-- The payments that an event marks as made. -/
def receipts : Event → List Receipt
  | .handle j => ((b.world.paying j).map Prod.fst).toList
  | _ => []

def step (b : Books) : BooksEvent → Unit × Books
  | .service event =>
    ((), { b with world := (b.world.step svc event).2, paid := b.paid ++ b.receipts event })
  | .cancel userID =>
    let call :=
      match b.world.store.getSubscription userID with
      | none => Cancellation.notFound
      | some sub => .loaded sub
    ((), { b with cancels := b.cancels ++ [call] })
  | .confirm k now =>
    match b.cancels[k]? with
    | some (.loaded sub) =>
      let sub' := { sub with cancelAtPeriodEnd := true, updatedAt := now }
      ((), { b with
        world := { b.world with store := b.world.store.putSubscription sub' }
        cancels := b.cancels.set k (.returned sub') })
    | _ => ((), b)
  | .sweep now limit order =>
    ((), { b with
      world :=
        { b.world with store := (b.world.store.expireSubscriptions now limit order).2 } })

/-- A store, and nothing under way. -/
def init (start : Store) : Books := ⟨.init start, [], []⟩

variable (start : Store)

abbrev after (events : List BooksEvent) : Books :=
  Machine.final (step svc) (init start) events

/-- When an account's period ends. -/
abbrev periodEnd (b : Books) (userID : String) : Int := b.world.store.periodEnd userID

def timesOf (userID : String) : List Int :=
  (b.paid.filter (·.userID = userID)).map (·.time)

/-- The generator gives new identifiers. -/
def Fresh : BooksEvent → Prop
  | .service (.checkout _ id _) => b.world.store.payments id = none
  | _ => True

/-- An account's period end is the one that its payments give, one after another; if there are any,
its subscription is not incomplete. -/
def ExactFor (b : Books) (userID : String) : Prop :=
  b.periodEnd userID = (b.timesOf userID).foldl extendPeriod (start.periodEnd userID) ∧
    (b.timesOf userID ≠ [] → ∃ periodEnd, b.world.store.terms userID = some (false, periodEnd))

/-- No period is lost or given twice. -/
def Exact (b : Books) : Prop := ∀ userID, b.ExactFor start userID

/-- What is written is computed from the present subscription: a payment extends it, a cancellation
writes it back, and an incomplete one is written only where there is none. -/
def Current : BooksEvent → Prop
  | .service (.handle j) =>
    ∀ x ∈ b.world.paying j, x.2.map (fun sub => (sub.userID, sub.currentPeriodEnd)) =
      some (x.1.userID, extendPeriod (b.periodEnd x.1.userID) x.1.time)
  | .service (.proceed id) =>
    ∀ p ∈ b.world.resetting id, b.periodEnd p.userID = 0 ∧ b.timesOf p.userID = []
  | .confirm k _ =>
    match b.cancels[k]? with
    | some (.loaded sub) =>
      sub.currentPeriodEnd = b.periodEnd sub.userID ∧
        (sub.status = .incomplete → b.timesOf sub.userID = [])
    | _ => True
  | .service (.checkout _ _ _) | .service (.charge _ _) | .service (.callback _ _ _)
  | .cancel _ | .sweep _ _ _ => True

instance (b : Books) (event : BooksEvent) : Decidable (b.Fresh event) := by
  unfold Fresh
  split <;> infer_instance

instance (b : Books) (event : BooksEvent) : Decidable (b.Current event) := by
  unfold Current
  split <;> first | infer_instance | (split <;> infer_instance)

/-- The payments made in the run are those of the books, each of them once. -/
structure Recorded (start : Store) (b : Books) : Prop where
  nodup : (b.paid.map (·.id)).Nodup
  new : ∀ r ∈ b.paid, start.madeBy r.id = none
  made : ∀ id userID, b.world.store.madeBy id = some userID ↔
    start.madeBy id = some userID ∨ ∃ r ∈ b.paid, r.id = id ∧ r.userID = userID

end Books

/-! ## What an event does -/

/-- A handler that is about to apply a payment holds an active subscription for it, and
one that is about to apply anything else holds none. -/
def Handler.Holds : Handler → Prop
  | .loaded _ cb _ sub =>
    if cb.status = .succeeded then ∃ s, sub = some s ∧ s.status = .active else sub = none
  | .found _ _ _ _ | .returned _ _ _ => True

lemma Handler.Holds.lookup (st : Store) (provider : String) (cb : Callback) (now : Int) :
    (Handler.lookup st provider cb now).Holds := by
  unfold Handler.lookup
  split
  · trivial
  split
  · trivial
  · trivial

lemma Handler.Holds.next (h : Handler) (st : Store) : (h.next st).1.Holds := by
  cases h with
  | found provider cb =>
    simp only [Handler.next, Handler.Holds, Callback.sub]
    by_cases hpaid : cb.status = .succeeded
    · rw [if_pos hpaid, if_pos hpaid]
      exact ⟨_, rfl, rfl⟩
    · rw [if_neg hpaid, if_neg hpaid]
  | loaded | returned => trivial

namespace World

variable (svc : Service)

def Holding (w : World) : Prop := ∀ h ∈ w.handlers, h.Holds

variable {w : World}

lemma holding_step (hw : w.Holding) (event : Event) : (w.step svc event).2.Holding := by
  cases event with
  | checkout req i clock =>
    unfold Holding
    rw [step, (beside_begin svc w req i clock).handlers]
    exact hw
  | charge i answer =>
    unfold Holding
    rw [step, (beside_charge w i answer).handlers]
    exact hw
  | proceed i =>
    unfold Holding
    rw [step, (beside_proceed w i).handlers]
    exact hw
  | callback => exact forall_mem_append.mpr ⟨hw, forall_mem_singleton.mpr (.lookup w.store ..)⟩
  | handle j =>
    simp only [step, handle]
    cases hj : w.handlers[j]? with
    | none => exact hw
    | some h =>
      intro h' hh'
      rcases mem_or_eq_of_mem_set hh' with hold | rfl
      · exact hw h' hold
      · exact .next h w.store

/-- The store calls of a handler: a payment is made and its buyer's subscription written,
or neither. -/
lemma handle_cases (hw : w.Holding) (j : Nat) :
    (∃ r sub, w.paying j = some (r, some sub) ∧ sub.status = .active ∧ w.store.madeBy r.id = none ∧
        (w.handle j).store.terms =
          update w.store.terms sub.userID (some (false, sub.currentPeriodEnd)) ∧
        (w.handle j).store.madeBy = update w.store.madeBy r.id (some r.userID)) ∨
      w.paying j = none ∧ (w.handle j).store.terms = w.store.terms ∧
        (w.handle j).store.madeBy = w.store.madeBy := by
  unfold paying handle
  cases hj : w.handlers[j]? with
  | none => exact .inr ⟨rfl, rfl, rfl⟩
  | some h =>
    cases h with
    | found | returned => exact .inr ⟨rfl, rfl, rfl⟩
    | loaded provider cb time =>
      have hholds := hw _ (mem_of_getElem? hj)
      simp only [Handler.Holds] at hholds
      simp only [Handler.next]
      cases href : w.store.paymentRefs (refKey provider cb.providerRef) with
      | none => simp [Store.applyPaymentStatus, href]
      | some id =>
        rcases Option.isSome_iff_exists.mp (w.store.refs_found _ id href) with ⟨q, hq⟩
        rw [Store.applyPaymentStatus_of_found href hq]
        simp only [Option.bind_some, hq]
        by_cases hpaid : cb.status = .succeeded
        · rw [if_pos hpaid] at hholds
          rcases hholds with ⟨s, rfl, hactive⟩
          rw [if_pos hpaid, hpaid]
          by_cases hnext : q.status.canTransitionTo .succeeded = true
          · rw [if_pos hnext, if_pos hnext]
            refine .inl ⟨_, s, rfl, hactive, ?_, ?_, ?_⟩
            · rw [Store.madeBy_of_found hq, eq_false_of_ne_true (PaymentStatus.not_made.mpr hnext)]
              rfl
            · exact (Store.terms_putSubscription _).trans (by rw [hactive]; rfl)
            · exact Store.madeBy_update (Store.payments_settled id q .succeeded time (some s))
          · rw [if_neg hnext, if_neg hnext]
            exact .inr ⟨rfl, rfl, rfl⟩
        · rw [if_neg hpaid] at hholds
          rw [if_neg hpaid, hholds]
          refine .inr ⟨rfl, ?_⟩
          split
          · next hnext =>
            refine ⟨rfl, Store.madeBy_rewrite hq
              (Store.payments_settled id q cb.status time none) ?_ rfl⟩
            exact PaymentStatus.made_eq_of_canTransitionTo hnext hpaid
          · exact ⟨rfl, rfl⟩

/-- The store calls of a checkout: an incomplete subscription is written, or none. -/
lemma proceed_cases (w : World) (id : String) : (∃ p, w.resetting id = some p ∧
        (w.proceed id).store = w.store.putSubscription (incompleteSubscription p)) ∨
      w.resetting id = none ∧ (w.proceed id).store.terms = w.store.terms ∧
        (w.proceed id).store.madeBy = w.store.madeBy := by
  unfold resetting proceed
  cases hid : w.checkouts id with
  | none => exact .inr ⟨rfl, rfl, rfl⟩
  | some progress =>
    cases progress with
    | charged p ref =>
      refine .inr ⟨rfl, ?_⟩
      dsimp only
      cases hattach : w.store.attachProviderRef p.id ref with
      | none => exact ⟨rfl, rfl⟩
      | some =>
        rcases Store.attachProviderRef_spec hattach with ⟨hsubs, hmade⟩
        exact ⟨Store.terms_congr hsubs, hmade⟩
    | attached =>
      refine .inr ⟨rfl, ?_⟩
      dsimp only
      split
      · exact ⟨rfl, rfl⟩
      · exact ⟨rfl, rfl⟩
    | unsubscribed p => exact .inl ⟨p, rfl, rfl⟩
    | charging | finished | deduplicated | failed => exact .inr ⟨rfl, rfl, rfl⟩

lemma begin_spec {id : String} (hfresh : w.store.payments id = none) (req : CheckoutRequest)
    (now : Int) : (w.begin svc req id now).store.terms = w.store.terms ∧
      (w.begin svc req id now).store.madeBy = w.store.madeBy := by
  unfold begin
  cases hp : svc.newPayment req id now with
  | error => exact ⟨rfl, rfl⟩
  | ok =>
    rcases newPayment_eq_ok svc hp with ⟨rfl, -, href, hstat⟩
    dsimp only
    split
    · exact ⟨rfl, rfl⟩
    · next hdup =>
      rcases Store.createPayment_spec hfresh href hstat with ⟨hsubs, hmade⟩ | hdup'
      · exact ⟨Store.terms_congr hsubs, hmade⟩
      · exact absurd hdup' hdup

lemma charge_store (w : World) (id : String) (answer : Option String) :
    (w.charge id answer).store = w.store := by
  unfold charge
  split
  · split
    · rfl
    · split
      · rfl
      · rfl
  · rfl

end World

namespace Books

/-- What an event can do to the books, and when it is one that meets the condition. -/
inductive Act (b b' : Books) (current : Prop) : Prop where
  | quiet (terms : b'.world.store.terms = b.world.store.terms)
      (made : b'.world.store.madeBy = b.world.store.madeBy) (paid : b'.paid = b.paid)
      (holds : current)
  | write (userID : String) (incomplete : Bool) (periodEnd : Int)
      (terms : b'.world.store.terms =
        update b.world.store.terms userID (some (incomplete, periodEnd)))
      (made : b'.world.store.madeBy = b.world.store.madeBy) (paid : b'.paid = b.paid)
      (holds : current ↔
        periodEnd = b.periodEnd userID ∧ (incomplete = true → b.timesOf userID = []))
  | pay (r : Receipt) (userID : String) (periodEnd : Int)
      (terms : b'.world.store.terms = update b.world.store.terms userID (some (false, periodEnd)))
      (new : b.world.store.madeBy r.id = none)
      (made : b'.world.store.madeBy = update b.world.store.madeBy r.id (some r.userID))
      (paid : b'.paid = b.paid ++ [r])
      (holds : current ↔ userID = r.userID ∧ periodEnd = extendPeriod (b.periodEnd r.userID) r.time)

variable (svc : Service)

lemma act (b : Books) (event : BooksEvent) (hw : b.world.Holding)
    (hfresh : b.Fresh event) : Act b (b.step svc event).2 (b.Current event) := by
  cases event with
  | service event =>
    cases event with
    | checkout req id now =>
      rcases World.begin_spec svc hfresh req now with ⟨hterms, hmade⟩
      exact .quiet hterms hmade (append_nil _) trivial
    | charge id answer =>
      have hstore := b.world.charge_store id answer
      refine .quiet ?_ ?_ (append_nil _) trivial
      · simp only [step, World.step, hstore]
      · simp only [step, World.step, hstore]
    | callback => exact .quiet rfl rfl (append_nil _) trivial
    | proceed id =>
      simp only [Current]
      rcases b.world.proceed_cases id with ⟨p, hp, hstore⟩ | ⟨hp, hterms, hmade⟩
      · rw [hp]
        refine .write p.userID true 0 ?_ ?_ (append_nil _) ?_
        · simp only [step, World.step, hstore, Store.terms_putSubscription]
          rfl
        · simp only [step, World.step, hstore]
          rfl
        · simp [eq_comm (a := (0 : Int))]
      · refine .quiet hterms hmade (append_nil _) ?_
        simp [hp]
    | handle j =>
      simp only [Current]
      rcases World.handle_cases hw j with
        ⟨r, sub, hpaying, _, hnew, hterms, hmade⟩ | ⟨hpaying, hterms, hmade⟩
      · refine .pay r sub.userID sub.currentPeriodEnd hterms hnew hmade ?_ ?_
        · simp [step, receipts, hpaying]
        · simp [hpaying]
      · refine .quiet hterms hmade ?_ ?_
        · simp [step, receipts, hpaying]
        · simp [hpaying]
  | cancel => exact .quiet rfl rfl rfl trivial
  | confirm k =>
    simp only [Current, step]
    cases hk : b.cancels[k]? with
    | none => exact .quiet rfl rfl rfl trivial
    | some call =>
      cases call with
      | loaded sub =>
        refine .write sub.userID (sub.status = .incomplete) sub.currentPeriodEnd ?_ rfl rfl ?_
        · exact Store.terms_putSubscription _
        · simp
      | notFound | returned => exact .quiet rfl rfl rfl trivial
  | sweep now limit order =>
    rcases Store.expireLoop_spec now (if limit ≤ 0 then 500 else limit.toNat) order []
      b.world.store with ⟨hterms, hpays⟩
    refine .quiet hterms ?_ rfl trivial
    funext id
    simp only [step, Store.expireSubscriptions, Store.madeBy, hpays]

lemma recorded_init (start : Store) : (init start).Recorded start where
  nodup := nodup_nil
  new := fun _ h => absurd h not_mem_nil
  made := by simp [init, World.init]

variable {b b' : Books} {start : Store} {current : Prop}

lemma Recorded.congr (h : b.Recorded start) (hmade : b'.world.store.madeBy = b.world.store.madeBy)
    (hpaid : b'.paid = b.paid) : b'.Recorded start := by
  rcases h with ⟨nodup, new, made⟩
  constructor
  · rw [hpaid]
    exact nodup
  · rw [hpaid]
    exact new
  · rw [hmade, hpaid]
    exact made

lemma Recorded.act (h : b.Recorded start) (hact : Act b b' current) : b'.Recorded start := by
  cases hact with
  | quiet _ hmade hpaid _ | write _ _ _ _ hmade hpaid _ => exact h.congr hmade hpaid
  | pay r _ _ _ hnew hmade hpaid =>
    have hfirst : ∀ userID, b.world.store.madeBy r.id ≠ some userID := by simp [hnew]
    have habsent : r.id ∉ b.paid.map (·.id) := by
      intro hmem
      rcases mem_map.mp hmem with ⟨r', hr', hid⟩
      exact hfirst r'.userID ((h.made _ _).mpr (.inr ⟨r', hr', hid, rfl⟩))
    constructor
    · rw [hpaid, map_append, nodup_append]
      refine ⟨h.nodup, by simp, ?_⟩
      intro id hid id' hid'
      rw [map_singleton, mem_singleton] at hid'
      rintro rfl
      exact habsent (hid' ▸ hid)
    · intro r' hr'
      rw [hpaid, mem_append, mem_singleton] at hr'
      rcases hr' with hr' | rfl
      · exact h.new r' hr'
      · rw [Option.eq_none_iff_forall_ne_some]
        intro userID hstart
        exact hfirst userID ((h.made _ _).mpr (.inl hstart))
    · intro id userID
      rw [hmade, hpaid]
      rcases eq_or_ne id r.id with rfl | hne
      · have hold : ¬ (start.madeBy r.id = some userID ∨
            ∃ r' ∈ b.paid, r'.id = r.id ∧ r'.userID = userID) :=
          fun hmade => hfirst userID ((h.made _ _).mpr hmade)
        rw [not_or] at hold
        simp only [update_self, mem_append, mem_singleton, or_and_right,
          exists_or, exists_eq_left, hold.1, hold.2, false_or, Option.some.injEq, true_and]
      · rw [update_of_ne hne, h.made]
        simp [or_and_right, exists_or, hne.symm]

/-! ## Every period end is right -/

lemma lt_extendPeriod (currentPeriodEnd time : Int) :
    currentPeriodEnd < extendPeriod currentPeriodEnd time := by
  unfold extendPeriod subscriptionPeriod
  split <;> omega

lemma timesOf_append {r : Receipt} (h : b'.paid = b.paid ++ [r]) (userID : String) :
    b'.timesOf userID = b.timesOf userID ++ if r.userID = userID then [r.time] else [] := by
  unfold timesOf
  rw [h, filter_append, map_append]
  by_cases hr : r.userID = userID
  · simp [hr]
  · simp [hr]

section ExactFor

variable {start : Store} {b b' : Books} {userID : String}

lemma exactFor_congr (hterms : b'.world.store.terms userID = b.world.store.terms userID)
    (htimes : b'.timesOf userID = b.timesOf userID) :
    b'.ExactFor start userID ↔ b.ExactFor start userID := by
  simp only [ExactFor, periodEnd, Store.periodEnd, hterms, htimes]

lemma exactFor_of_terms {incomplete : Bool} {periodEnd : Int}
    (hterms : b.world.store.terms userID = some (incomplete, periodEnd)) : b.ExactFor start userID ↔
      periodEnd = (b.timesOf userID).foldl extendPeriod (start.periodEnd userID) ∧
        (b.timesOf userID ≠ [] → incomplete = false) := by
  simp [ExactFor, Store.periodEnd, hterms]

end ExactFor

/-- An event keeps the period ends right exactly if it meets the condition. -/
lemma Exact.act_iff (h : b.Exact start) (hact : Act b b' current) : b'.Exact start ↔ current := by
  cases hact with
  | quiet hterms _ hpaid hcurrent =>
    refine iff_of_true (fun userID => ?_) hcurrent
    refine (exactFor_congr (congrFun hterms userID) ?_).mpr (h userID)
    simp only [timesOf, hpaid]
  | write userID incomplete periodEnd hterms _ hpaid hcurrent =>
    have htimes : ∀ userID, b'.timesOf userID = b.timesOf userID := by
      simp only [timesOf, hpaid, implies_true]
    have hself : b'.ExactFor start userID ↔ current := by
      rw [hcurrent, exactFor_of_terms (by rw [hterms, update_self]), htimes, (h userID).1]
      cases incomplete <;> simp
    refine ⟨fun h' => hself.mp (h' userID), fun hcur userID' => ?_⟩
    rcases eq_or_ne userID' userID with rfl | hne
    · exact hself.mpr hcur
    · refine (exactFor_congr ?_ (htimes userID')).mpr (h userID')
      rw [hterms, update_of_ne hne]
  | pay r userID periodEnd hterms _ _ hpaid hcurrent =>
    have htimes := timesOf_append hpaid
    have hself : b'.timesOf r.userID = b.timesOf r.userID ++ [r.time] := by
      rw [htimes, if_pos rfl]
    rw [hcurrent]
    constructor
    · intro h'
      -- The buyer's period end has to change, so it is the buyer's that is written.
      have huser : userID = r.userID := by
        by_contra hne
        have hbuyer := (h' r.userID).1
        rw [hself, foldl_append, foldl_cons, foldl_nil, ← (h r.userID).1] at hbuyer
        simp only [Books.periodEnd, Store.periodEnd, hterms, update_of_ne (Ne.symm hne)] at hbuyer
        exact absurd hbuyer (Int.ne_of_lt (lt_extendPeriod _ _))
      rcases huser with rfl
      refine ⟨rfl, ?_⟩
      have hbuyer := (h' r.userID)
      rw [exactFor_of_terms (by rw [hterms, update_self]), hself, foldl_append,
        ← (h r.userID).1] at hbuyer
      exact hbuyer.1
    · rintro ⟨rfl, rfl⟩ userID'
      rcases eq_or_ne userID' r.userID with rfl | hne
      · rw [exactFor_of_terms (by rw [hterms, update_self]), hself, foldl_append,
          ← (h r.userID).1]
        exact ⟨rfl, fun _ => rfl⟩
      · refine (exactFor_congr ?_ ?_).mpr (h userID')
        · rw [hterms, update_of_ne hne]
        · rw [htimes, if_neg (Ne.symm hne), append_nil]

lemma holding_step (hw : b.world.Holding) (event : BooksEvent) :
    (b.step svc event).2.world.Holding := by
  cases event with
  | service event => exact World.holding_step svc hw event
  | cancel => exact hw
  | confirm =>
    simp only [step]
    split
    · exact hw
    · exact hw
  | sweep => exact hw

lemma recorded_after (start : Store) {events : List BooksEvent}
    (h : Machine.Guarded (step svc) Fresh (init start) events) :
    (after svc start events).Recorded start := by
  have hinv := Machine.guarded_final (step svc)
    (fun (b : Books) event (hb : b.world.Holding ∧ b.Recorded start) (hfresh : b.Fresh event) =>
      And.intro (holding_step svc hb.1 event) (hb.2.act (act svc b event hb.1 hfresh)))
    ⟨fun _ hh => absurd hh not_mem_nil, recorded_init start⟩ h
  exact hinv.2

end Books

open Books in
/-- The payments of a run are recorded once each, and the period ends are right throughout exactly
if every subscription is computed from the present one. -/
theorem periods_exact_iff (svc : Service) (start : Store) (events : List BooksEvent)
    (h : Machine.Guarded (step svc) Fresh (init start) events) :
    (after svc start events).Recorded start ∧
      ((∀ before rest, events = before ++ rest → (after svc start before).Exact start) ↔
        Machine.Guarded (step svc) Current (init start) events) := by
  refine ⟨recorded_after svc start h, ?_⟩
  refine Machine.forall_final_iff_guarded (step svc) (P := fun b => b.world.Holding) ?_ ?_ ?_
    (fun _ => ⟨rfl, fun h => absurd rfl h⟩) h
  · intro b event hw _
    exact holding_step svc hw event
  · intro b event hw hexact hfresh
    exact hexact.act_iff (act svc b event hw hfresh)
  · exact fun _ hh => absurd hh not_mem_nil

section Sample

/-- Account 7 asks for a checkout, which goes through to its end. -/
def placed (id key ref : String) (now : Int) : List BooksEvent :=
  [.service (.checkout ⟨"7", "US", none, key⟩ id now), .service (.charge id (some ref)),
    .service (.proceed id), .service (.proceed id), .service (.proceed id)]

/-- The provider reports a payment. -/
def reported (ref : String) : BooksEvent :=
  .service (.callback "stripe" ⟨ref, .succeeded, 399, 5⟩ 9)

/-- The handler of a callback makes its next store call. -/
def handled (j : Nat) : BooksEvent := .service (.handle j)

/-- Two checkouts are paid for, one after the other; the account cancels, and the first
payment is reported again. -/
def renewedOnce : List BooksEvent :=
  placed "100" "key-1" "pay-1" 4 ++ placed "101" "key-2" "pay-2" 4 ++
    [reported "pay-1", handled 0, handled 0, reported "pay-2", handled 1, handled 1,
      .cancel "7", .confirm 0 10, reported "pay-1", handled 2, handled 2, .sweep 10 0 ["7"]]

theorem periods_exact_iff_renewed : (Books.after shop .new renewedOnce).timesOf "7" = [5, 5] ∧
      (Books.after shop .new renewedOnce).Exact .new := by
  refine ⟨by decide +kernel, ?_⟩
  have hexact := (periods_exact_iff shop .new renewedOnce (by decide +kernel)).2.mpr
    (by decide +kernel)
  exact hexact renewedOnce [] (append_nil _).symm

/-- The callbacks of two payments overlap, and a period is lost; an account cancels while its
payment is handled, and is incomplete again; and a checkout after a paid period takes its end away.
-/
theorem period_lost :
    (let b := Books.after shop .new (placed "100" "key-1" "pay-1" 4 ++
        placed "101" "key-2" "pay-2" 4 ++ [reported "pay-1", reported "pay-2", handled 0, handled 1,
          handled 0, handled 1]);
      b.timesOf "7" = [5, 5] ∧
        ∀ order : List Int, order.Perm [5, 5] → b.periodEnd "7" ≠ order.foldl extendPeriod 0) ∧
    (let b := Books.after shop .new (placed "100" "key-1" "pay-1" 4 ++
        [.cancel "7", reported "pay-1", handled 0, handled 0, .confirm 0 10]);
      b.timesOf "7" = [5] ∧ b.world.store.terms "7" = some (true, 0)) ∧
    (let b := Books.after shop .new (placed "100" "key-1" "pay-1" 4 ++
        [reported "pay-1", handled 0, handled 0] ++
        placed "101" "key-2" "pay-2" (6 + subscriptionPeriod));
      b.timesOf "7" = [5] ∧ b.world.store.terms "7" = some (true, 0)) := by
  refine ⟨⟨by decide +kernel, ?_⟩, by decide +kernel, by decide +kernel⟩
  intro order hperm
  rw [perm_replicate.mp (show order.Perm (replicate 2 5) from hperm)]
  decide +kernel

end Sample

end SyncApp.Billing
