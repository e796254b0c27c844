import SyncApp.Billing.Service

/-!
# A checkout that is paid for

The checkout attaches the provider's reference, by which a callback names the payment, only when the
provider has answered.  And a checkout that has seen no active subscription writes an incomplete
one, even over an active one.

Main results:

- `paid_checkout_kept`: when a payment that was reported is recorded and its buyer active.
-/

namespace SyncApp.Billing

open Foundations List
open Function (update update_of_ne update_self)

/-! ## What the store calls keep -/

/-- References stay attached, payments keep buyer and provider, and what was made stays made.
Payments keep their own reference too, but for the one that is being attached to. -/
structure Store.Keeps (attaching : Option String) (st st' : Store) : Prop where
  refs : ∀ key i, st.paymentRefs key = some i → st'.paymentRefs key = some i
  rows : ∀ i q, st.payments i = some q → ∃ q', st'.payments i = some q' ∧
    q'.userID = q.userID ∧ q'.provider = q.provider ∧
    (q.status.made = true → q'.status.made = true) ∧
    (attaching ≠ some i → q'.providerRef = q.providerRef)

namespace Store

variable {st : Store} {attaching : Option String}

lemma Keeps.refl (attaching : Option String) (st : Store) : Keeps attaching st st :=
  ⟨fun _ _ h => h, fun _ q h => ⟨q, h, rfl, rfl, fun hmade => hmade, fun _ => rfl⟩⟩

variable {i : String} {q p : Payment} {st' : Store}

lemma keeps_putPayment {q' : Payment} (hq : st.payments i = some q) (huser : q'.userID = q.userID)
    (hprov : q'.provider = q.provider) (hmade : q.status.made = true → q'.status.made = true)
    (href : attaching ≠ some i → q'.providerRef = q.providerRef) :
    Keeps attaching st (st.putPayment i q') where
  refs := fun _ _ h => h
  rows := by
    intro i' q'' hq''
    rcases eq_or_ne i' i with rfl | hne
    · rcases Option.some.inj (hq''.symm.trans hq) with rfl
      exact ⟨q', payments_putPayment_self i' q', huser, hprov, hmade, href⟩
    · exact ⟨q'', (update_of_ne hne ..).trans hq'', rfl, rfl, fun h => h, fun _ => rfl⟩

lemma keeps_putSubscription (sub : Subscription) : Keeps none st (st.putSubscription sub) :=
  ⟨fun _ _ h => h, fun _ q h => ⟨q, h, rfl, rfl, fun hmade => hmade, fun _ => rfl⟩⟩

lemma Keeps.trans {st'' : Store} (h : Keeps attaching st st') (h' : Keeps attaching st' st'') :
    Keeps attaching st st'' where
  refs := fun key i hkey => h'.refs key i (h.refs key i hkey)
  rows := by
    intro i q hq
    rcases h.rows i q hq with ⟨q', hq', huser, hprov, hmade, href⟩
    rcases h'.rows i q' hq' with ⟨q'', hq'', huser', hprovider', hmade', href'⟩
    exact ⟨q'', hq'', huser'.trans huser, hprovider'.trans hprov, fun h => hmade' (hmade h),
      fun hne => (href' hne).trans (href hne)⟩

lemma keeps_settled (hq : st.payments i = some q) {next : PaymentStatus}
    (hnext : q.status.canTransitionTo next = true) (time : Int) (sub : Option Subscription) :
    Keeps none st (st.settled i q next time sub) := by
  have hput : Keeps none st (st.putPayment i { q with status := next, updatedAt := time }) :=
    keeps_putPayment hq rfl rfl (PaymentStatus.made_of_canTransitionTo hnext) fun _ => rfl
  cases sub with
  | none => exact hput
  | some sub => exact hput.trans (keeps_putSubscription sub)

/-- A payment without a reference is created, unless its idempotency key is known. -/
lemma createPayment_cases (st : Store) (href : p.providerRef = "") :
    (st.createPayment p).2.1 = true ∨ (st.createPayment p).2.1 = false ∧
        (st.createPayment p).2.2.payments = update st.payments p.id (some p) ∧
        (st.createPayment p).2.2.paymentRefs = st.paymentRefs ∧
        (st.createPayment p).2.2.subscriptions = st.subscriptions := by
  unfold createPayment
  dsimp only
  split
  · exact .inl rfl
  rw [if_pos href]
  exact .inr ⟨rfl, rfl, rfl, rfl⟩

lemma keeps_createPayment (hnew : st.payments p.id = none)
    (hpays : st'.payments = update st.payments p.id (some p))
    (hrefs : st'.paymentRefs = st.paymentRefs) : Keeps none st st' where
  refs := fun key i h => by rw [hrefs, h]
  rows := by
    intro i q hq
    have hne : i ≠ p.id := by
      rintro rfl
      rw [hnew] at hq
      cases hq
    refine ⟨q, ?_, rfl, rfl, fun h => h, fun _ => rfl⟩
    rw [hpays, update_of_ne hne, hq]

lemma attachProviderRef_of_found (hq : st.payments i = some q) (href : q.providerRef = "")
    (ref : String) :
    ∃ st', st.attachProviderRef i ref = some st' ∧
      st'.payments = update st.payments i (some { q with providerRef := ref }) ∧
      st'.paymentRefs = update st.paymentRefs (refKey q.provider ref) (some i) ∧
      st'.subscriptions = st.subscriptions := by
  refine ⟨(st.putPayment i { q with providerRef := ref }).putRef (refKey q.provider ref) i
    (st.isSome_putPayment i _), ?_, rfl, rfl, rfl⟩
  simp only [attachProviderRef, hq, if_pos href]

lemma keeps_attach {ref : String} (hq : st.payments i = some q)
    (hfree : st.paymentRefs (refKey q.provider ref) = none)
    (hpays : st'.payments = update st.payments i (some { q with providerRef := ref }))
    (hrefs : st'.paymentRefs = update st.paymentRefs (refKey q.provider ref) (some i)) :
    Keeps (some i) st st' where
  refs := by
    intro key i' hkey
    have hne : key ≠ refKey q.provider ref := by
      rintro rfl
      rw [hfree] at hkey
      cases hkey
    rw [hrefs, update_of_ne hne, hkey]
  rows := by
    intro i' q' hq'
    rcases eq_or_ne i' i with rfl | hne
    · rcases Option.some.inj (hq'.symm.trans hq) with rfl
      refine ⟨{ q' with providerRef := ref }, ?_, rfl, rfl, fun h => h, fun h => absurd rfl h⟩
      rw [hpays, update_self]
    · refine ⟨q', ?_, rfl, rfl, fun h => h, fun _ => rfl⟩
      rw [hpays, update_of_ne hne, hq']

end Store

/-! ## What holds in every run -/

/-- A checkout's payment is in the store, and found under its reference once that is
attached. -/
def Linked (st : Store) (id : String) : Progress → Prop
  | .charging p | .charged p _ =>
    p.id = id ∧ ∃ q, st.payments id = some q ∧ q.providerRef = "" ∧ q.provider = p.provider ∧
      q.userID = p.userID
  | .attached p ref | .unsubscribed p ref | .finished p ref =>
    st.paymentRefs (refKey p.provider ref) = some id ∧
      ∃ q, st.payments id = some q ∧ q.userID = p.userID
  | .deduplicated _ | .failed _ => True

variable {attaching : Option String} {id i : String} {st st' : Store} {h : Handler} {now : Int}
  {q : Payment}

lemma Linked.keep (hkeeps : st.Keeps attaching st') (hne : attaching ≠ some id)
    {progress : Progress} (h : Linked st id progress) : Linked st' id progress := by
  cases progress with
  | charging | charged =>
    rcases h with ⟨hid, q, hq, href, hprov, huser⟩
    rcases hkeeps.rows id q hq with ⟨q', hq', huser', hprovider', -, href'⟩
    exact ⟨hid, q', hq', (href' hne).trans href, hprovider'.trans hprov, huser'.trans huser⟩
  | attached | unsubscribed | finished =>
    rcases h with ⟨href, q, hq, huser⟩
    rcases hkeeps.rows id q hq with ⟨q', hq', huser', -⟩
    exact ⟨hkeeps.refs _ id href, q', hq', huser'.trans huser⟩
  | deduplicated | failed => trivial

/-- The handler works on a payment that is there, and holds a subscription of its buyer that is
active at the given time.  When it has returned, the payment is made. -/
def Handler.Sound (now : Int) (st : Store) : Handler → Prop
  | .found provider cb p time =>
    p.plan = .premium ∧ (cb.status = .succeeded → now < time + subscriptionPeriod) ∧
      ∃ id q, st.paymentRefs (refKey provider cb.providerRef) = some id ∧
        st.payments id = some q ∧ q.userID = p.userID
  | .loaded provider cb _ sub =>
    (cb.status = .succeeded → sub.isSome) ∧
      ∃ id q, st.paymentRefs (refKey provider cb.providerRef) = some id ∧
        st.payments id = some q ∧ ∀ s, sub = some s → s.userID = q.userID ∧ s.active now = true
  | .returned provider cb r =>
    cb.status = .succeeded → r.acknowledged = true → r ≠ .unknown →
      ∃ id q, st.paymentRefs (refKey provider cb.providerRef) = some id ∧
        st.payments id = some q ∧ q.status.made = true

lemma Handler.Sound.keep (hkeeps : st.Keeps attaching st') (hsound : h.Sound now st) :
    h.Sound now st' := by
  cases h with
  | found =>
    rcases hsound with ⟨hplan, htime, id, q, href, hq, huser⟩
    rcases hkeeps.rows id q hq with ⟨q', hq', huser', -⟩
    exact ⟨hplan, htime, id, q', hkeeps.refs _ id href, hq', huser'.trans huser⟩
  | loaded =>
    rcases hsound with ⟨hsome, id, q, href, hq, hsub⟩
    rcases hkeeps.rows id q hq with ⟨q', hq', huser', -⟩
    refine ⟨hsome, id, q', hkeeps.refs _ id href, hq', fun s hs => ?_⟩
    exact ⟨(hsub s hs).1.trans huser'.symm, (hsub s hs).2⟩
  | returned =>
    intro hpaid hack hknown
    rcases hsound hpaid hack hknown with ⟨id, q, href, hq, hmade⟩
    rcases hkeeps.rows id q hq with ⟨q', hq', -, -, hmade', -⟩
    exact ⟨id, q', hkeeps.refs _ id href, hq', hmade' hmade⟩

/-- The handler of a callback has not missed its payment. -/
def Handler.Knows (h : Handler) : Prop := ∀ provider cb, h ≠ .returned provider cb .unknown

lemma Handler.Knows.next (hknows : h.Knows) (st : Store) : (h.next st).1.Knows := by
  intro provider cb
  cases h with
  | found => exact nofun
  | loaded provider' cb' time sub =>
    intro heq
    simp only [Handler.next, Handler.returned.injEq] at heq
    rcases hchanged : (st.applyPaymentStatus provider' cb'.providerRef cb'.status time sub).1 with
      _ | _ | _ <;> rw [hchanged] at heq <;> cases heq.2.2
  | returned => exact hknows provider cb

/-- A subscription is active at a given time after a payment that was made less than a
period before. -/
lemma active_renewed {existing : Option Subscription} {p : Payment} (hplan : p.plan = .premium)
    {time : Int} (hnow : now < time + subscriptionPeriod) :
    (renewed existing p time).active now = true := by
  have hend : now < (renewed existing p time).currentPeriodEnd := by
    refine lt_of_lt_of_le hnow ?_
    simp only [renewed, extendPeriod]
    split <;> omega
  unfold Subscription.active
  have hstat : (renewed existing p time).status = .active := rfl
  have hplan' : (renewed existing p time).plan = .premium := hplan
  simp [hstat, hplan', hend]

/-- The payment is not refunded, and its buyer has an active subscription if it is made. -/
def Standing (now : Int) (st : Store) (id : String) : Prop :=
  ∀ q, st.payments id = some q → q.status ≠ .refunded ∧
    (q.status = .succeeded → ∃ sub, st.getSubscription q.userID = some sub ∧ sub.active now = true)

lemma Standing.settled (h : Standing now st id) {next : PaymentStatus} {sub : Option Subscription}
    (hrefund : next = .refunded → i ≠ id) (hsome : next = .succeeded → sub.isSome)
    (hsub : ∀ s, sub = some s → s.userID = q.userID ∧ s.active now = true) (time : Int) :
    Standing now (st.settled i q next time sub) id := by
  intro q' hq'
  rcases eq_or_ne id i with rfl | hne
  · rw [Store.payments_settled_self] at hq'
    rcases Option.some.inj hq' with rfl
    refine ⟨fun hnext => hrefund hnext rfl, fun hnext => ?_⟩
    rcases Option.isSome_iff_exists.mp (hsome hnext) with ⟨s, rfl⟩
    refine ⟨s, ?_, (hsub s rfl).2⟩
    rw [← (hsub s rfl).1]
    exact Store.getSubscription_putSubscription_self s
  · rw [Store.payments_settled, update_of_ne hne] at hq'
    refine ⟨(h q' hq').1, fun hpaid => ?_⟩
    cases sub with
    | none => exact (h q' hq').2 hpaid
    | some s =>
      -- A payment of the same buyer leaves an active subscription, too.
      rcases eq_or_ne q'.userID s.userID with heq | hother
      · refine ⟨s, ?_, (hsub s rfl).2⟩
        rw [heq]
        exact Store.getSubscription_putSubscription_self s
      · rcases (h q' hq').2 hpaid with ⟨sub, hget, hact⟩
        exact ⟨sub, (Store.getSubscription_putSubscription_other hother).trans hget, hact⟩

lemma Standing.attach {ref : String} (h : Standing now st id) (hq : st.payments i = some q)
    (hpays : st'.payments = update st.payments i (some { q with providerRef := ref }))
    (hsubs : st'.subscriptions = st.subscriptions) : Standing now st' id := by
  intro q' hq'
  unfold Store.getSubscription
  rw [hpays] at hq'
  rw [hsubs]
  rcases update_cases hq' with ⟨rfl, hnew⟩ | ⟨-, hold⟩
  · rcases Option.some.inj hnew with rfl
    exact h q hq
  · exact h q' hold

namespace World

variable (svc : Service)

/-- The generator gives new identifiers, a provider no two payments one reference, and the payments
reported were made less than a period before the given time. -/
def Genuine (now : Int) (w : World) : Event → Prop
  | .checkout _ id _ => w.checkouts id = none ∧ w.store.payments id = none
  | .proceed id =>
    match w.checkouts id with
    | some (.charged p ref) => w.store.paymentRefs (refKey p.provider ref) = none
    | _ => True
  | .callback _ cb clock => cb.status = .succeeded → now < cb.time clock + subscriptionPeriod
  | .charge _ _ | .handle _ => True

instance (now : Int) (w : World) (event : Event) : Decidable (w.Genuine now event) := by
  unfold Genuine
  split <;> first | infer_instance | (split <;> infer_instance)

/-- The payment is made, and is the given account's. -/
def paidBy (w : World) (id userID : String) : Bool :=
  (w.store.payments id).any fun q => q.userID = userID && q.status = .succeeded

/-- No refund is applied to the payment, and no incomplete subscription is written for its
buyer once it is made. -/
def Undisturbed (id : String) (w : World) : Event → Prop
  | .proceed id' =>
    match w.checkouts id' with
    | some (.unsubscribed p _) => w.paidBy id p.userID = false
    | _ => True
  | .handle j =>
    match w.handlers[j]? with
    | some (.loaded provider cb _ _) =>
      cb.status = .refunded → w.store.paymentRefs (refKey provider cb.providerRef) ≠ some id
    | _ => True
  | .checkout _ _ _ | .charge _ _ | .callback _ _ _ => True

instance (id : String) (w : World) (event : Event) : Decidable (w.Undisturbed id event) := by
  unfold Undisturbed
  split <;> first | infer_instance | (split <;> infer_instance)

/-- What holds in every run, with an eye on one payment. -/
structure Inv (now : Int) (id : String) (w : World) : Prop where
  linked : ∀ i progress, w.checkouts i = some progress → Linked w.store i progress
  premium : ∀ i q, w.store.payments i = some q → q.plan = .premium
  handlers : ∀ h ∈ w.handlers, h.Sound now w.store
  standing : w.checkouts id ≠ none → Standing now w.store id

lemma inv_init (now : Int) (id : String) {start : Store}
    (hstart : ∀ i q, start.payments i = some q → q.plan = .premium) : (init start).Inv now id where
  linked := fun _ _ h => absurd h.symm (Option.some_ne_none _)
  premium := hstart
  handlers := fun _ h => absurd h not_mem_nil
  standing := fun h => absurd rfl h

variable {now : Int} {id : String} {w : World}

variable {i ref provider : String} {progress : Progress} {st' : Store} {clock : Int} {p q : Payment}
  {req : CheckoutRequest} {cb : Callback} {j : Nat}

/-- A checkout goes on, with a store call that may attach a reference to its payment. -/
lemma Inv.move (hinv : w.Inv now id) (hkeeps : w.store.Keeps attaching st')
    (hown : ∀ i', i' ≠ i → attaching ≠ some i') (hlinked : Linked st' i progress)
    (hpremium : ∀ i' q, st'.payments i' = some q → q.plan = .premium)
    (hstand : (i = id ∨ w.checkouts id ≠ none) → Standing now st' id) :
    Inv now id { w.setCheckout i progress with store := st' } where
  linked := by
    intro i' progress' h
    simp only [setCheckout] at h
    rcases update_cases h with ⟨rfl, hnew⟩ | ⟨hne, hold⟩
    · exact Option.some.inj hnew ▸ hlinked
    · exact (hinv.linked i' progress' hold).keep hkeeps (hown i' hne)
  premium := hpremium
  handlers := fun h hh => (hinv.handlers h hh).keep hkeeps
  standing := by
    intro h
    refine hstand ?_
    simp only [setCheckout] at h
    rcases eq_or_ne i id with heq | hne
    · exact .inl heq
    rw [update_of_ne (Ne.symm hne)] at h
    exact .inr h

lemma Inv.setCheckout (hinv : w.Inv now id) (hlinked : Linked w.store i progress)
    (hstand : i = id → Standing now w.store id) : (w.setCheckout i progress).Inv now id :=
  hinv.move (.refl none w.store) (fun _ _ => nofun) hlinked hinv.premium
    fun h => h.elim hstand hinv.standing

lemma Inv.standing_of (hinv : w.Inv now id) (h : w.checkouts i = some progress) (heq : i = id) :
    Standing now w.store id :=
  hinv.standing (by rw [← heq, h]; exact Option.some_ne_none _)

/-- A payment that is there for a checkout is of the premium plan, and open. -/
lemma newPayment_eq_ok (h : svc.newPayment req i clock = .ok p) :
    p.id = i ∧ p.plan = .premium ∧ p.providerRef = "" ∧ p.status = .pending := by
  unfold Service.newPayment at h
  dsimp only at h
  split at h
  · cases h
  split at h
  · cases h
  split at h
  · cases h
  split at h
  · cases h
  split at h
  · rcases Except.ok.inj h with rfl
    exact ⟨rfl, rfl, rfl, rfl⟩
  · cases h

section

variable (hinv : w.Inv now id)
include hinv

lemma inv_begin (hgen : w.Genuine now (.checkout req i clock)) :
    (w.begin svc req i clock).Inv now id := by
  rcases hgen with ⟨-, hnew⟩
  have hstand : i = id → Standing now w.store id := by
    rintro rfl q hq
    rw [hnew] at hq
    cases hq
  unfold begin
  cases hp : svc.newPayment req i clock with
  | error => exact hinv.setCheckout trivial hstand
  | ok p =>
    rcases newPayment_eq_ok svc hp with ⟨rfl, hplan, href, hpend⟩
    dsimp only
    rcases w.store.createPayment_cases href with hdup | ⟨hdup, hpays, hrefs, hsubs⟩
    · rw [if_pos hdup]
      exact hinv.setCheckout trivial hstand
    rw [if_neg (by simp [hdup])]
    refine hinv.move (Store.keeps_createPayment hnew hpays hrefs) (fun _ _ => nofun)
      ⟨rfl, p, by rw [hpays, update_self], href, rfl, rfl⟩
      (Store.premium_update hinv.premium hpays hplan) fun hknown q hq => ?_
    rw [hpays] at hq
    rcases update_cases hq with ⟨rfl, hnew⟩ | ⟨hne, hold⟩
    · rcases Option.some.inj hnew with rfl
      rw [hpend]
      exact ⟨nofun, nofun⟩
    · unfold Store.getSubscription
      rw [hsubs]
      exact hinv.standing (hknown.resolve_left (Ne.symm hne)) q hold

lemma inv_charge (i : String) (answer : Option String) : (w.charge i answer).Inv now id := by
  unfold charge
  split
  · next p hp =>
    split
    · exact hinv.setCheckout trivial (hinv.standing_of hp)
    · split
      · exact hinv.setCheckout trivial (hinv.standing_of hp)
      · exact hinv.setCheckout (hinv.linked i (.charging p) hp) (hinv.standing_of hp)
  · exact hinv

lemma inv_attach (hprog : w.checkouts i = some (.charged p ref))
    (hfree : w.store.paymentRefs (refKey p.provider ref) = none) : (w.proceed i).Inv now id := by
  rcases hinv.linked i _ hprog with ⟨rfl, q, hq, href, hprov, huser⟩
  rcases Store.attachProviderRef_of_found hq href ref with ⟨_, hattach, hpays, hrefs, hsubs⟩
  unfold proceed
  simp only [hprog, hattach]
  rw [← hprov] at hfree
  refine hinv.move (Store.keeps_attach hq hfree hpays hrefs) (fun i' hne heq => ?_)
    ⟨?_, { q with providerRef := ref }, ?_, huser⟩
    (Store.premium_update hinv.premium hpays (hinv.premium p.id q hq)) fun hknown => ?_
  · exact hne (Option.some.inj heq).symm
  · rw [hrefs, ← hprov, update_self]
  · rw [hpays, update_self]
  · have hstand : Standing now w.store id :=
      hknown.elim (hinv.standing_of hprog) hinv.standing
    exact hstand.attach hq hpays hsubs

lemma inv_unsubscribed (hprog : w.checkouts i = some (.unsubscribed p ref))
    (hunpaid : w.paidBy id p.userID = false) : (w.proceed i).Inv now id := by
  unfold proceed
  simp only [hprog]
  have hkeeps := w.store.keeps_putSubscription (incompleteSubscription p)
  refine hinv.move hkeeps (fun _ _ => nofun)
    ((hinv.linked i (.unsubscribed p ref) hprog).keep hkeeps nofun) hinv.premium ?_
  intro hknown q hq
  have hstand : Standing now w.store id := hknown.elim (hinv.standing_of hprog) hinv.standing
  refine ⟨(hstand q hq).1, fun hpaid => ?_⟩
  have hother : q.userID ≠ p.userID := by
    intro heq
    have hq' : w.store.payments id = some q := hq
    simp [paidBy, hq', heq, hpaid] at hunpaid
  rcases (hstand q hq).2 hpaid with ⟨sub, hget, hact⟩
  exact ⟨sub, (Store.getSubscription_putSubscription_other hother).trans hget, hact⟩

lemma inv_proceed (hgen : w.Genuine now (.proceed i))
    (hundist : w.Undisturbed id (.proceed i)) : (w.proceed i).Inv now id := by
  cases hprog : w.checkouts i with
  | none =>
    unfold proceed
    simp only [hprog]
    exact hinv
  | some progress =>
    cases progress with
    | charged =>
      simp only [Genuine, hprog] at hgen
      exact inv_attach hinv hprog hgen
    | attached p ref =>
      unfold proceed
      simp only [hprog]
      split <;> exact hinv.setCheckout (hinv.linked i (.attached p ref) hprog)
        (hinv.standing_of hprog)
    | unsubscribed =>
      simp only [Undisturbed, hprog] at hundist
      exact inv_unsubscribed hinv hprog hundist
    | charging | finished | deduplicated | failed =>
      unfold proceed
      simp only [hprog]
      exact hinv

lemma inv_callback (hgen : w.Genuine now (.callback provider cb clock)) :
    (w.step svc (.callback provider cb clock)).2.Inv now id := by
  refine { hinv with
    handlers := forall_mem_append.mpr ⟨hinv.handlers, forall_mem_singleton.mpr ?_⟩ }
  unfold Handler.lookup
  cases hp : w.store.getPaymentByRef provider cb.providerRef with
  | none => exact fun _ _ hknown => absurd rfl hknown
  | some p =>
    rcases Store.getPaymentByRef_eq_some_iff.mp hp with ⟨i, href, hi⟩
    dsimp only
    split
    · exact fun _ hack => absurd hack (by decide)
    · exact ⟨hinv.premium i p hi, hgen, i, p, href, hi, rfl⟩

lemma Inv.setHandler (hkeeps : w.store.Keeps none st')
    (hpremium : ∀ i q, st'.payments i = some q → q.plan = .premium)
    (hstand : Standing now w.store id → Standing now st' id) (j : Nat) (next : Handler)
    (hsound : next.Sound now st') :
    Inv now id { w with store := st', handlers := w.handlers.set j next } where
  linked := fun i progress h =>
    (hinv.linked i progress h).keep hkeeps (Option.some_ne_none i).symm
  premium := hpremium
  standing := fun h => hstand (hinv.standing h)
  handlers := by
    intro h hh
    rcases mem_or_eq_of_mem_set hh with hmem | heq
    · exact (hinv.handlers h hmem).keep hkeeps
    · rw [heq]
      exact hsound

/-- The handler reads the subscription, and works out the one that is to be written. -/
lemma inv_found {time : Int} (hsound : (Handler.found provider cb p time).Sound now w.store) :
    Inv now id
      { w with
        handlers := w.handlers.set j (.loaded provider cb time (cb.sub w.store p time)) } := by
  rcases hsound with ⟨hplan, htime, i, q, href, hi, huser⟩
  refine hinv.setHandler (.refl none w.store) hinv.premium (fun h => h) j
    (.loaded provider cb time _) ⟨?_, i, q, href, hi, ?_⟩
  · intro hpaid
    simp [Callback.sub, hpaid]
  · intro s hs
    unfold Callback.sub at hs
    split at hs
    · next hpaid =>
      rcases Option.some.inj hs with rfl
      refine ⟨?_, active_renewed hplan (htime hpaid)⟩
      rw [huser]
      exact renewed_userID (w.store.subscriptions_user p.userID) time
    · cases hs

/-- The handler applies the status, and the payment can come to it. -/
lemma inv_settled {sub : Option Subscription}
    (href : w.store.paymentRefs (refKey provider cb.providerRef) = some i)
    (hi : w.store.payments i = some q) (hnext : q.status.canTransitionTo cb.status = true)
    (hrefund : cb.status = .refunded → i ≠ id) (hsome : cb.status = .succeeded → sub.isSome)
    (hsub : ∀ s, sub = some s → s.userID = q.userID ∧ s.active now = true) (time : Int) :
    Inv now id
      { w with
        store := w.store.settled i q cb.status time sub
        handlers := w.handlers.set j (.returned provider cb .applied) } := by
  refine hinv.setHandler (Store.keeps_settled hi hnext time sub)
    (Store.premium_update hinv.premium (Store.payments_settled i q _ _ _) (hinv.premium i q hi))
    (fun hstand => hstand.settled hrefund hsome hsub time) j
    (.returned provider cb .applied) fun hpaid _ _ => ?_
  refine ⟨i, { q with status := cb.status, updatedAt := time }, ?_, Store.payments_settled_self, ?_⟩
  · rw [Store.paymentRefs_settled, href]
  · simp [hpaid, PaymentStatus.made]

lemma inv_duplicate (href : w.store.paymentRefs (refKey provider cb.providerRef) = some i)
    (hi : w.store.payments i = some q) (hnext : ¬ q.status.canTransitionTo cb.status = true) :
    Inv now id { w with handlers := w.handlers.set j (.returned provider cb .duplicate) } := by
  refine hinv.setHandler (.refl none w.store) hinv.premium (fun h => h) j
    (.returned provider cb .duplicate) fun hpaid _ _ => ⟨i, q, href, hi, ?_⟩
  rw [hpaid] at hnext
  exact not_imp_comm.mp PaymentStatus.not_made.mp hnext

lemma inv_handle (hundist : w.Undisturbed id (.handle j)) : (w.handle j).Inv now id := by
  unfold handle
  cases hj : w.handlers[j]? with
  | none => exact hinv
  | some h =>
    have hsound := hinv.handlers h (mem_of_getElem? hj)
    cases h with
    | found => exact inv_found hinv hsound
    | loaded provider cb time =>
      rcases hsound with ⟨hsome, i, q, href, hi, hsub⟩
      simp only [Undisturbed, hj, href] at hundist
      simp only [Handler.next, Store.applyPaymentStatus_of_found href hi]
      split
      · next hnext =>
        exact inv_settled hinv href hi hnext
          (fun hrefund heq => hundist hrefund (congrArg some heq)) hsome hsub time
      · next hnext => exact inv_duplicate hinv href hi hnext
    | returned =>
      exact hinv.setHandler (.refl none w.store) hinv.premium (fun h => h) j (.returned ..) hsound

end

/-- The two conditions on a run. -/
def Allowed (now : Int) (id : String) (w : World) (event : Event) : Prop :=
  w.Genuine now event ∧ w.Undisturbed id event
deriving Decidable

lemma inv_step (w : World) (event : Event) (hinv : w.Inv now id)
    (hallow : w.Allowed now id event) : (w.step svc event).2.Inv now id := by
  cases event with
  | checkout => exact inv_begin svc hinv hallow.1
  | charge => exact inv_charge hinv ..
  | proceed => exact inv_proceed hinv hallow.1 hallow.2
  | callback => exact inv_callback svc hinv hallow.1
  | handle => exact inv_handle hinv hallow.2

/-! ## One checkout and one callback -/

def Attached (w : World) (id : String) (p : Payment) (ref : String) : Prop :=
  (w.checkouts id).bind Progress.attachedTo = some (p, ref)
deriving Decidable

lemma setCheckout_self (i : String) (progress : Progress) :
    (w.setCheckout i progress).checkouts i = some progress :=
  update_self ..

/-- A step of one checkout leaves the others and the callbacks. -/
structure Beside (i : String) (w w' : World) : Prop where
  checkouts : ∀ i', i' ≠ i → w'.checkouts i' = w.checkouts i'
  handlers : w'.handlers = w.handlers

lemma beside_setCheckout (w : World) (i : String) (progress : Progress) (st : Store) :
    Beside i w { w.setCheckout i progress with store := st } :=
  ⟨fun _ hne => update_of_ne hne .., rfl⟩

lemma beside_begin (w : World) (req : CheckoutRequest) (i : String) (clock : Int) :
    Beside i w (w.begin svc req i clock) := by
  unfold begin
  split
  · exact beside_setCheckout w i _ _
  dsimp only
  split <;> exact beside_setCheckout w i _ _

lemma beside_charge (w : World) (i : String) (answer : Option String) :
    Beside i w (w.charge i answer) := by
  unfold charge
  split
  · split
    · exact beside_setCheckout w i _ _
    · split <;> exact beside_setCheckout w i _ _
  · exact ⟨fun _ _ => rfl, rfl⟩

lemma beside_proceed (w : World) (i : String) : Beside i w (w.proceed i) := by
  unfold proceed
  split
  · split <;> exact beside_setCheckout w i _ _
  · split <;> exact beside_setCheckout w i _ _
  · exact beside_setCheckout w i _ _
  · exact ⟨fun _ _ => rfl, rfl⟩

lemma Inv.of_attached (hinv : w.Inv now id) (hatt : w.Attached i p ref) :
    w.store.paymentRefs (refKey p.provider ref) = some i ∧
      ∃ q, w.store.payments i = some q ∧ q.userID = p.userID := by
  rcases Option.bind_eq_some_iff.mp hatt with ⟨progress, hprog, hto⟩
  have hlinked := hinv.linked i progress hprog
  cases progress with
  | attached | unsubscribed | finished =>
    rcases Prod.mk.inj (Option.some.inj hto) with ⟨rfl, rfl⟩
    exact hlinked
  | charging | charged | deduplicated | failed => cases hto

/-- A callback that comes in once the reference is attached finds the payment. -/
lemma Inv.knows_lookup (hinv : w.Inv now id) (hatt : w.Attached i p cb.providerRef)
    (clock : Int) : (Handler.lookup w.store p.provider cb clock).Knows := by
  intro provider cb'
  rcases hinv.of_attached hatt with ⟨href, q, hq, -⟩
  have hfound := Store.getPaymentByRef_eq_some_iff.mpr ⟨i, href, hq⟩
  simp only [Handler.lookup, hfound]
  split
  · exact nofun
  · exact nofun

lemma attached_step (w : World) (event : Event) (hatt : w.Attached id p ref)
    (hgen : w.Genuine now event) : (w.step svc event).2.Attached id p ref := by
  unfold Attached at hatt ⊢
  cases event with
  | checkout req i clock =>
    have hne : id ≠ i := by
      rintro rfl
      rw [hgen.1] at hatt
      cases hatt
    simp only [step, (beside_begin svc w req i clock).checkouts id hne]
    exact hatt
  | charge i answer =>
    rcases eq_or_ne id i with rfl | hne
    · simp only [step, charge]
      split
      · next p' hp' =>
        rw [hp'] at hatt
        cases hatt
      · exact hatt
    · simp only [step, (beside_charge w i answer).checkouts id hne]
      exact hatt
  | proceed i =>
    rcases eq_or_ne id i with rfl | hne
    · simp only [step, proceed]
      split
      · next p' ref' hp' =>
        rw [hp'] at hatt
        cases hatt
      · next p' ref' hp' =>
        rw [hp'] at hatt
        split <;> rwa [setCheckout_self]
      · next p' ref' hp' =>
        rw [hp'] at hatt
        rw [setCheckout_self]
        exact hatt
      · exact hatt
    · simp only [step, (beside_proceed w i).checkouts id hne]
      exact hatt
  | callback => exact hatt
  | handle =>
    simp only [step, handle]
    split <;> exact hatt

lemma knows_step (w : World) (event : Event) (hknows : ∃ h, w.handlers[j]? = some h ∧ h.Knows) :
    ∃ h, (w.step svc event).2.handlers[j]? = some h ∧ h.Knows := by
  rcases hknows with ⟨h, hj, hknows⟩
  cases event with
  | checkout => exact ⟨h, by rw [step, (beside_begin svc w ..).handlers, hj], hknows⟩
  | charge => exact ⟨h, by rw [step, (beside_charge w ..).handlers, hj], hknows⟩
  | proceed i => exact ⟨h, by rw [step, (beside_proceed w i).handlers, hj], hknows⟩
  | callback =>
    refine ⟨h, ?_, hknows⟩
    simp only [step]
    rw [getElem?_append_left (List.getElem?_eq_some_iff.mp hj).1, hj]
  | handle j' =>
    simp only [step, handle]
    cases hj' : w.handlers[j']? with
    | none => exact ⟨h, hj, hknows⟩
    | some h' =>
      rcases eq_or_ne j' j with rfl | hne
      · rcases Option.some.inj (hj'.symm.trans hj) with rfl
        refine ⟨(h'.next w.store).1, ?_, hknows.next w.store⟩
        rw [getElem?_set_self (List.getElem?_eq_some_iff.mp hj).1]
      · exact ⟨h, by rw [getElem?_set_ne hne, hj], hknows⟩

/-- A reference is attached, and the handler of a callback has found the payment. -/
def Tracked (id : String) (p : Payment) (ref : String) (j : Nat) (w : World) : Prop :=
  w.Attached id p ref ∧ ∃ h, w.handlers[j]? = some h ∧ h.Knows

lemma tracked_step (w : World) (event : Event) (htrack : w.Tracked id p ref j)
    (hallow : w.Allowed now id event) : (w.step svc event).2.Tracked id p ref j :=
  ⟨attached_step svc w event htrack.1 hallow.1, knows_step svc w event htrack.2⟩

variable (hinv : w.Inv now id)
include hinv

lemma tracked_callback (hatt : w.Attached id p cb.providerRef) (clock : Int) :
    (w.step svc (.callback p.provider cb clock)).2.Tracked id p cb.providerRef w.handlers.length :=
  ⟨hatt, _, getElem?_concat_length, hinv.knows_lookup hatt clock⟩

/-- The payment of a callback whose handler has returned is made, and the buyer's
subscription is active. -/
lemma Inv.paid (htrack : w.Tracked id p cb.providerRef j) (hpaid : cb.status = .succeeded)
    {r : CallbackResult} (hreturned : w.handlers[j]? = some (.returned p.provider cb r))
    (hack : r.acknowledged = true) :
    ∃ q sub, w.store.payments id = some q ∧ q.userID = p.userID ∧ q.status = .succeeded ∧
      w.store.getSubscription p.userID = some sub ∧ sub.active now = true := by
  rcases htrack with ⟨hatt, h, hj, hknows⟩
  rcases Option.some.inj (hj.symm.trans hreturned) with rfl
  have hknown : r ≠ .unknown := by
    rintro rfl
    exact hknows p.provider cb rfl
  rcases hinv.handlers _ (mem_of_getElem? hj) hpaid hack hknown with ⟨i, q, href, hq, hmade⟩
  rcases hinv.of_attached hatt with ⟨href', _, hq', huser⟩
  rcases Option.some.inj (href.symm.trans href') with rfl
  rcases Option.some.inj (hq.symm.trans hq') with rfl
  have hknown : w.checkouts i ≠ none := by
    intro hnone
    unfold Attached at hatt
    rw [hnone] at hatt
    cases hatt
  rcases hinv.standing hknown q hq with ⟨hrefunded, hact⟩
  have hsucc : q.status = .succeeded := by
    simp only [PaymentStatus.made, Bool.or_eq_true, decide_eq_true_eq] at hmade
    exact hmade.resolve_right hrefunded
  rcases hact hsucc with ⟨sub, hsub, hnow⟩
  exact ⟨q, sub, hq, huser, hsucc, huser ▸ hsub, hnow⟩

end World

open World in
/-- In every interleaving: if a callback that reports the payment of a checkout made comes in after
the reference was attached, and is acknowledged, the payment is made and its buyer active from then
on, as long as no refund is applied and no incomplete subscription is written for the buyer. -/
theorem paid_checkout_kept (svc : Service) (start : Store)
    (hstart : ∀ i q, start.payments i = some q → q.plan = .premium) (now : Int) (id : String)
    (before later : List Event) (p : Payment) (cb : Callback) (clock : Int)
    (hrun : Machine.Guarded (step svc) (Allowed now id) (init start)
      (before ++ .callback p.provider cb clock :: later))
    (hatt : (after svc start before).Attached id p cb.providerRef)
    (hpaid : cb.status = .succeeded) (r : CallbackResult)
    (hreturned : (after svc start (before ++ .callback p.provider cb clock :: later)).handlers[
      (after svc start before).handlers.length]? = some (.returned p.provider cb r))
    (hack : r.acknowledged = true) : ∃ q sub,
      (after svc start (before ++ .callback p.provider cb clock :: later)).store.payments id =
          some q ∧ q.userID = p.userID ∧ q.status = .succeeded ∧
      (after svc start (before ++ .callback p.provider cb clock :: later)).store.getSubscription
          p.userID = some sub ∧ sub.active now = true := by
  have hinv := Machine.guarded_final (step svc) (inv_step svc) (inv_init now id hstart) hrun
  rw [Machine.guarded_append] at hrun
  rcases hrun with ⟨hpre, -, hlater⟩
  have hinv₀ := Machine.guarded_final (step svc) (inv_step svc) (inv_init now id hstart) hpre
  have htrack := Machine.guarded_final (step svc) (tracked_step svc)
    (tracked_callback svc hinv₀ hatt clock) hlater
  rw [← Machine.final_cons, ← Machine.final_append] at htrack
  exact hinv.paid htrack hpaid hreturned hack

/-- A service that sells in one currency, through one provider. -/
def shop : Service where
  currencyFor := fun _ => "USD"
  prices := fun currency => if currency = "USD" then some 399 else none
  providerFor := fun _ => some ⟨"stripe", [.card], cons_ne_nil _ _⟩

/-- Account 7 asks for a checkout. -/
def order : Event := .checkout ⟨"7", "US", none, "key-1"⟩ "100" 4

/-- The payment of this checkout, as the checkout knows it. -/
def orderPayment : Payment := { openPayment with providerRef := "" }

/-- The provider answers with its reference. -/
def answer : Event := .charge "100" (some "pay-1")

/-- The provider reports that the payment was made. -/
def report : Event := .callback "stripe" (openCallback .succeeded) 9

theorem paid_checkout_kept_in_order : ∃ q sub,
      (World.after shop .new ([order, answer, .proceed "100"] ++ report ::
          [.proceed "100", .proceed "100", .handle 0, .handle 0])).store.payments "100" = some q ∧
        q.userID = "7" ∧ q.status = .succeeded ∧
      (World.after shop .new ([order, answer, .proceed "100"] ++ report ::
          [.proceed "100", .proceed "100", .handle 0, .handle 0])).store.getSubscription "7" =
          some sub ∧ sub.active 20 = true :=
  paid_checkout_kept shop .new nofun 20 "100" [order, answer, .proceed "100"]
    [.proceed "100", .proceed "100", .handle 0, .handle 0] orderPayment (openCallback .succeeded) 9
    (by decide +kernel) (by decide +kernel) rfl .applied (by decide +kernel) rfl

/-- The callback comes in while the checkout waits for the provider: it is acknowledged, but the
payment stays open and the subscription incomplete. -/
theorem overtaking_callback_lost :
    (World.after shop .new [order]).checkouts "100" = some (.charging orderPayment) ∧
      let events := [order, report, answer, .proceed "100", .proceed "100", .proceed "100"]
      Machine.Guarded (World.step shop) (World.Genuine 20) (.init .new) events ∧
        (World.after shop .new events).handlers =
          [.returned "stripe" (openCallback .succeeded) .unknown] ∧
        CallbackResult.unknown.acknowledged = true ∧
        (World.after shop .new events).checkouts "100" = some (.finished orderPayment "pay-1") ∧
        (World.after shop .new events).store.observe "stripe" "pay-1" "7" =
          some ⟨.pending, some (.incomplete, 0)⟩ := by
  decide +kernel

end SyncApp.Billing
