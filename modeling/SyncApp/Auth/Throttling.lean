import SyncApp.Auth.Resumption
import SyncApp.Foundations.TokenBucket
import SyncApp.Messaging.Service

/-!
# Login attempts and their limiter

The gateway asks a limiter before it verifies a password.  The limiter has a bucket for each name in
lower case; the service looks the account up without spaces and a leading sign.

Main results:

- `Limiter.collections_unseen`: collecting idle buckets that are full again is not seen.
- `Gateway.logins_throttled`: the attempts on an account are within burst and rate if its name is
  spelled in one way.
-/

namespace SyncApp.Auth

open Foundations List Function
open Machine (final outputs)

/-! ## The limiter -/

structure Entry where
  b : Bucket
  lastSeen : ℚ

/-- `Limiter`, with times in seconds. -/
structure Limiter where
  buckets : String → Option Entry
  rate : ℚ
  burst : ℚ
  ttl : ℚ
  lastGC : ℚ

namespace Limiter

variable (ratePerSec burst now : ℚ)

def newBucket : Bucket := ⟨burst, burst, ratePerSec, now⟩

/-- `NewLimiter`. -/
def new : Limiter := ⟨fun _ => none, ratePerSec, burst, 600, now⟩

variable (l : Limiter)

def maybeGC (now : ℚ) : Limiter :=
  if now - l.lastGC < l.ttl then l
  else
    { l with
      lastGC := now
      buckets := fun k => (l.buckets k).filter fun e => now - e.lastSeen ≤ l.ttl }

def put (key : String) (entry : Option Entry) : Limiter :=
  { l with buckets := update l.buckets key entry }

def allow (l : Limiter) (key : String) (now : ℚ) : Bool × Limiter :=
  let b := (l.buckets key).elim (newBucket l.rate l.burst now) Entry.b
  let l := (l.put key (some ⟨b, now⟩)).maybeGC now
  -- The bucket itself is changed, in the table or no more in it.
  ((b.allow now).1, l.put key ((l.buckets key).map fun e => { e with b := (b.allow now).2 }))

/-- `Allow` of a limiter that never collects. -/
def allowUncollected (key : String) (now : ℚ) : Bool × Limiter :=
  let b := (l.buckets key).elim (newBucket l.rate l.burst now) Entry.b
  ((b.allow now).1, l.put key (some ⟨(b.allow now).2, now⟩))

/-- The tokens of a key; a bucket that is yet to be made is full. -/
def level (l : Limiter) (key : String) (now : ℚ) : ℚ :=
  (l.buckets key).elim l.burst fun e => e.b.level now

/-- A bucket of the limiter, seen since it was last refilled. -/
structure Entry.Of (rate burst now : ℚ) (e : Entry) : Prop where
  sound : e.b.Sound now
  capacity : e.b.capacity = burst
  refill : e.b.refill = rate
  last_le : e.b.last ≤ e.lastSeen

/-- A bucket that is idle long enough to be collected is full. -/
structure Lawful (l : Limiter) (now : ℚ) : Prop where
  rate_nonneg : 0 ≤ l.rate
  burst_nonneg : 0 ≤ l.burst
  ttl_nonneg : 0 ≤ l.ttl
  burst_le : l.burst ≤ l.ttl * l.rate
  entries : ∀ key e, l.buckets key = some e → Entry.Of l.rate l.burst now e

variable {l : Limiter} {key : String} {now later : ℚ} {e : Entry}

section

variable (h : l.Lawful now)
include h

lemma Lawful.mono (hle : now ≤ later) : l.Lawful later :=
  { h with
    entries := fun key e he =>
      { h.entries key e he with sound := (h.entries key e he).sound.mono hle } }

lemma Lawful.level_later (key : String) (hle : now ≤ later) :
    l.level key later = min l.burst (l.level key now + l.rate * (later - now)) := by
  unfold level
  cases he : l.buckets key with
  | none =>
    have hgain := mul_nonneg h.rate_nonneg (sub_nonneg.mpr hle)
    exact (min_eq_left (le_add_of_nonneg_right hgain)).symm
  | some e =>
    have hof := h.entries key e he
    rw [← hof.refill, ← hof.capacity]
    exact e.b.level_later hof.sound.refill_nonneg hle

lemma Lawful.level_nonneg (key : String) : 0 ≤ l.level key now := by
  unfold level
  cases he : l.buckets key with
  | none => exact h.burst_nonneg
  | some e => exact (h.entries key e he).sound.level_nonneg

lemma Lawful.level_le_burst (key : String) : l.level key now ≤ l.burst := by
  unfold level
  cases he : l.buckets key with
  | none => exact le_rfl
  | some e => exact (e.b.level_le_capacity now).trans_eq (h.entries key e he).capacity

/-- What was idle for the time to live has been refilled. -/
lemma Lawful.full (he : Entry.Of l.rate l.burst now e) (hidle : l.ttl < now - e.lastSeen) :
    e.b.level now = l.burst := by
  have hlast := he.last_le
  have hgain : l.ttl * l.rate ≤ (now - e.b.last) * l.rate :=
    mul_le_mul_of_nonneg_right (by linarith) h.rate_nonneg
  have htok := he.sound.tokens_nonneg
  have hburst := h.burst_le
  rw [Bucket.level, he.capacity, he.refill]
  exact min_eq_left (by linarith)

/-- A collection changes no level. -/
lemma Lawful.maybeGC : (l.maybeGC now).Lawful now ∧
    (l.maybeGC now).rate = l.rate ∧ (l.maybeGC now).burst = l.burst ∧
    ∀ key, (l.maybeGC now).level key now = l.level key now := by
  unfold Limiter.maybeGC
  split
  · exact ⟨h, rfl, rfl, fun _ => rfl⟩
  refine ⟨{ h with entries := fun key e he => ?_ }, rfl, rfl, fun key => ?_⟩
  · exact h.entries key e (Option.filter_eq_some_iff.mp he).1
  · unfold level
    dsimp only
    cases he : l.buckets key with
    | none => rfl
    | some e =>
      by_cases hkept : now - e.lastSeen ≤ l.ttl
      · simp [Option.filter, hkept]
      · simp [Option.filter, hkept, h.full (h.entries key e he) (not_le.mp hkept)]

end

/-- What was seen just now is not collected. -/
lemma maybeGC_seen {b : Bucket} (httl : 0 ≤ l.ttl) (he : l.buckets key = some ⟨b, now⟩) :
    (l.maybeGC now).buckets key = some ⟨b, now⟩ := by
  unfold Limiter.maybeGC
  split
  · exact he
  · simp [he, httl]

lemma Lawful.put (h : l.Lawful now) (he : Entry.Of l.rate l.burst now e) (key : String) :
    (l.put key (some e)).Lawful now := by
  refine { h with entries := fun k e' (he' : update l.buckets key (some e) k = _) => ?_ }
  rcases update_cases he' with ⟨-, he'⟩ | ⟨-, he'⟩
  · exact Option.some.inj he' ▸ he
  · exact h.entries k e' he'

/-- The bucket that an action finds has the tokens of its key. -/
lemma Lawful.found (h : l.Lawful now) (key : String) :
    let b := (l.buckets key).elim (newBucket l.rate l.burst now) Entry.b
    b.Sound now ∧ b.capacity = l.burst ∧ b.refill = l.rate ∧ b.level now = l.level key now := by
  unfold level
  cases he : l.buckets key with
  | none =>
    exact ⟨⟨h.rate_nonneg, h.burst_nonneg, le_rfl, le_rfl⟩, rfl, rfl, Bucket.level_last le_rfl⟩
  | some e =>
    have hof := h.entries key e he
    exact ⟨hof.sound, hof.capacity, hof.refill, rfl⟩

lemma level_put (l : Limiter) (key k : String) (e : Entry) (now : ℚ) :
    (l.put key (some e)).level k now = if k = key then e.b.level now else l.level k now := by
  unfold level put
  split
  · next hk => simp [hk]
  · next hk => simp [hk]

/-- The bucket that an action found is put back, into the table as it is by then. -/
lemma Lawful.spend (h : l.Lawful now) (key : String) {l' : Limiter} (h' : l'.Lawful now)
    (hrate : l'.rate = l.rate) (hburst : l'.burst = l.burst)
    (hlevels : ∀ k, k ≠ key → l'.level k now = l.level k now) :
    let b := (l.buckets key).elim (newBucket l.rate l.burst now) Entry.b
    (l'.put key (some ⟨(b.allow now).2, now⟩)).Lawful now ∧
      ∀ k, (l'.put key (some ⟨(b.allow now).2, now⟩)).level k now +
        (if k = key ∧ (b.allow now).1 then 1 else 0) = l.level k now := by
  obtain ⟨hs, hcapacity, hrefill, hlevel⟩ := h.found key
  generalize (l.buckets key).elim (newBucket l.rate l.burst now) Entry.b = b at *
  obtain ⟨hsound', htaken⟩ := hs.allow
  obtain ⟨hcapacity', hrefill', hlast⟩ := b.allow_settings now
  have hof : Entry.Of l'.rate l'.burst now ⟨(b.allow now).2, now⟩ :=
    ⟨hsound', hcapacity'.trans (hcapacity.trans hburst.symm),
      hrefill'.trans (hrefill.trans hrate.symm), hlast.le⟩
  refine ⟨h'.put hof key, fun k => ?_⟩
  rw [level_put]
  by_cases hk : k = key
  · simp [hk, ← hlevel, htaken]
  · simp [hk, hlevels]

/-- An action takes a token of its own key, if it is admitted. -/
lemma Lawful.allow (h : l.Lawful now) (key : String) :
    (l.allow key now).2.Lawful now ∧ (l.allow key now).2.rate = l.rate ∧
      (l.allow key now).2.burst = l.burst ∧ ∀ k, (l.allow key now).2.level k now +
        (if k = key ∧ (l.allow key now).1 then 1 else 0) = l.level k now := by
  unfold Limiter.allow
  obtain ⟨hs, hcapacity, hrefill, -⟩ := h.found key
  have hput := h.put (e := ⟨(l.buckets key).elim (newBucket l.rate l.burst now) Entry.b, now⟩)
    ⟨hs, hcapacity, hrefill, hs.last_le⟩ key
  obtain ⟨hlaw, hrate, hburst, hlevels⟩ := hput.maybeGC
  dsimp only
  rw [maybeGC_seen hput.ttl_nonneg (update_self key _ l.buckets), Option.map_some]
  have hspend := h.spend key hlaw hrate hburst fun k hk => by rw [hlevels, level_put, if_neg hk]
  exact ⟨hspend.1, hrate, hburst, hspend.2⟩

lemma Lawful.allow_fst (h : l.Lawful now) (key : String) :
    (l.allow key now).1 = decide (1 ≤ l.level key now) := by
  rw [← (h.found key).2.2.2]
  exact Bucket.allow_fst _ _

/-! ### Runs -/

/-- The times do not decrease and stay within these bounds. -/
structure Within {I : Type} (time : I → ℚ) (now till : ℚ) (is : List I) : Prop where
  sorted : is.Pairwise fun a b => time a ≤ time b
  bounds : ∀ a ∈ is, now ≤ time a ∧ time a ≤ till

section Runs

variable {S I O : Type} {step : S → I → O × S} {limiter : S → Limiter} {time : I → ℚ}
  {hit : O → Prop} [DecidablePred hit] {s : S} {i : I} {is before window : List I} {till : ℚ}

lemma Within.tail (h : Within time now till (i :: is)) : Within time (time i) till is :=
  ⟨h.sorted.of_cons, fun b hb =>
    ⟨rel_of_pairwise_cons h.sorted hb, (h.bounds b (.tail _ hb)).2⟩⟩

/-- A step that counts takes a token of the key. -/
def Spends (step : S → I → O × S) (limiter : S → Limiter) (time : I → ℚ) (hit : O → Prop)
    [DecidablePred hit] (key : String) : Prop :=
  ∀ s i, (limiter s).Lawful (time i) → (limiter (step s i).2).Lawful (time i) ∧
    (limiter (step s i).2).rate = (limiter s).rate ∧
    (limiter (step s i).2).burst = (limiter s).burst ∧
    (limiter (step s i).2).level key (time i) + (if hit (step s i).1 then 1 else 0) ≤
      (limiter s).level key (time i)

section

variable (hspends : Spends step limiter time hit key)
include hspends

section

variable (hlaw : (limiter s).Lawful now) (hle : now ≤ till) (h : Within time now till is)
include hlaw hle h

lemma Spends.final : (limiter (final step s is)).Lawful till ∧
      (limiter (final step s is)).rate = (limiter s).rate ∧
      (limiter (final step s is)).burst = (limiter s).burst := by
  induction is generalizing s now with
  | nil => exact ⟨hlaw.mono hle, rfl, rfl⟩
  | cons i is ih =>
    obtain ⟨hfrom, htill⟩ := h.bounds i (.head _)
    obtain ⟨hlaw, hrate, hburst, -⟩ := hspends s i (hlaw.mono hfrom)
    obtain ⟨hfinal, hrate', hburst'⟩ := ih hlaw htill h.tail
    exact ⟨hfinal, hrate'.trans hrate, hburst'.trans hburst⟩

/-- What counts was there or was refilled. -/
lemma Spends.countP_le : ((outputs step s is).countP hit : ℚ) ≤
      (limiter s).level key now + (limiter s).rate * (till - now) := by
  induction is generalizing s now with
  | nil =>
    exact add_nonneg (hlaw.level_nonneg key)
      (mul_nonneg hlaw.rate_nonneg (sub_nonneg.mpr hle))
  | cons i is ih =>
    obtain ⟨hfrom, htill⟩ := h.bounds i (.head _)
    have hrefilled := (hlaw.level_later key hfrom).trans_le (min_le_right _ _)
    obtain ⟨hlaw, hrate, -, _⟩ := hspends s i (hlaw.mono hfrom)
    have hrest := ih hlaw htill h.tail
    rw [hrate] at hrest
    rw [Machine.outputs_cons, countP_cons]
    push_cast
    simp only [decide_eq_true_eq]
    linarith

end

/-- In every stretch of time, what counts is within the burst and the rate. -/
lemma Spends.window_le {start begins span : ℚ} (hnew : (limiter s).Lawful start)
    (hstart : ∀ i ∈ before ++ window, start ≤ time i)
    (hsort : (before ++ window).Pairwise fun a b => time a ≤ time b) (hspan : 0 ≤ span)
    (hwin : ∀ i ∈ window, begins ≤ time i ∧ time i ≤ begins + span) :
    ((outputs step (Machine.final step s before) window).countP hit : ℚ) ≤
      (limiter s).burst + (limiter s).rate * span := by
  cases window with
  | nil => exact add_nonneg hnew.burst_nonneg (mul_nonneg hnew.rate_nonneg hspan)
  | cons i window =>
    obtain ⟨_, htill⟩ := hwin i (.head _)
    obtain ⟨hpast, hahead, hcross⟩ := pairwise_append.mp hsort
    have hprior : Within time start (time i) before :=
      ⟨hpast, fun b hb => ⟨hstart b (mem_append_left _ hb), hcross b hb i (.head _)⟩⟩
    have hinside : Within time (time i) (begins + span) (i :: window) := by
      refine ⟨hahead, fun b hb => ⟨?_, (hwin b hb).2⟩⟩
      rcases mem_cons.mp hb with rfl | hb
      · exact le_rfl
      · exact rel_of_pairwise_cons hahead hb
    obtain ⟨hlaw, hrate, hburst⟩ := hspends.final hnew (hstart i (by simp)) hprior
    have hlevel := hlaw.level_le_burst key
    have hspent : (limiter s).rate * (begins + span - time i) ≤ (limiter s).rate * span :=
      mul_le_mul_of_nonneg_left (by linarith) hnew.rate_nonneg
    have hcnt := hspends.countP_le hlaw htill hinside
    rw [hrate] at hcnt
    rw [hburst] at hlevel
    exact hcnt.trans (add_le_add hlevel hspent)

end

end Runs

/-- One call, with its key and its time. -/
def serve (l : Limiter) (call : String × ℚ) : (String × Bool) × Limiter :=
  ((call.1, (l.allow call.1 call.2).1), (l.allow call.1 call.2).2)

/-- One call of a limiter that never collects. -/
def serveUncollected (l : Limiter) (call : String × ℚ) : (String × Bool) × Limiter :=
  ((call.1, (l.allowUncollected call.1 call.2).1), (l.allowUncollected call.1 call.2).2)

lemma spends_serve (key : String) : Spends serve id Prod.snd (· = (key, true)) key := by
  intro l call h
  obtain ⟨hlaw, hrate, hburst, hlevel⟩ := h.allow call.1
  refine ⟨hlaw, hrate, hburst, ((hlevel key).le.trans' ?_)⟩
  refine add_le_add_right ?_ _
  simp only [serve, Prod.mk.injEq, eq_comm (a := key), id_eq, le_refl]

/-- Limiters with the same tokens give the same answers, whether or not they collect. -/
lemma outputs_serve_eq {l' : Limiter} {calls : List (String × ℚ)} (h : l.Lawful now)
    (h' : l'.Lawful now) (hrate : l'.rate = l.rate) (hburst : l'.burst = l.burst)
    (hlevels : ∀ key, l'.level key now = l.level key now)
    (hsort : calls.Pairwise fun a b => a.2 ≤ b.2) (hstart : ∀ call ∈ calls, now ≤ call.2) :
    outputs serve l calls = outputs serveUncollected l' calls := by
  induction calls generalizing l l' now with
  | nil => rfl
  | cons call calls ih =>
    have hfrom := hstart call (.head _)
    have hlevels' : ∀ key, l'.level key call.2 = l.level key call.2 := by
      intro key
      rw [h.level_later key hfrom, h'.level_later key hfrom, hlevels, hrate, hburst]
    have hans : (l'.allowUncollected call.1 call.2).1 = (l.allow call.1 call.2).1 := by
      rw [(h.mono hfrom).allow_fst, ← hlevels', ← (h'.mono hfrom).allow_fst]
      rfl
    obtain ⟨hnext, hrate₁, hburst₁, hspent⟩ := (h.mono hfrom).allow call.1
    have hspend := (h'.mono hfrom).spend call.1 (h'.mono hfrom) rfl rfl fun _ _ => rfl
    have hstays : ∀ key, (l'.allowUncollected call.1 call.2).2.level key call.2 =
        (l.allow call.1 call.2).2.level key call.2 := by
      intro key
      have hsum := (hspend.2 key).trans ((hlevels' key).trans (hspent key).symm)
      rw [← hans] at hsum
      exact add_right_cancel hsum
    have hrest := ih hnext hspend.1 (hrate.trans hrate₁.symm) (hburst.trans hburst₁.symm) hstays
      hsort.of_cons fun _ => rel_of_pairwise_cons hsort
    exact congrArg₂ (fun admitted rest => (call.1, admitted) :: rest) hans.symm hrest

/-- If a bucket fills up before it may be collected, the admitted calls of a key are within burst
and rate, and no collection is seen. -/
theorem collections_unseen {before window : List (String × ℚ)} {span : ℚ} (key : String)
    (start begins : ℚ) (hnew : ∀ key, l.buckets key = none) (hrate : 0 ≤ l.rate)
    (hburst : 0 ≤ l.burst)
    (httl : 0 ≤ l.ttl) (hfills : l.burst ≤ l.ttl * l.rate)
    (hstart : ∀ call ∈ before ++ window, start ≤ call.2)
    (hsort : (before ++ window).Pairwise fun a b => a.2 ≤ b.2) (hspan : 0 ≤ span)
    (hwin : ∀ call ∈ window, begins ≤ call.2 ∧ call.2 ≤ begins + span) :
    ((outputs serve (final serve l before) window).countP (· = (key, true)) : ℚ) ≤
        l.burst + l.rate * span ∧
      outputs serve l (before ++ window) = outputs serveUncollected l (before ++ window) := by
  have hlaw : l.Lawful start := ⟨hrate, hburst, httl, hfills, by simp [hnew]⟩
  exact ⟨(spends_serve key).window_le hlaw hstart hsort hspan hwin,
    outputs_serve_eq hlaw hlaw rfl rfl (fun _ => rfl) hsort hstart⟩

theorem collections_unseen_new : let l := new (1 / 100) 1 0
    ((outputs serve (final serve l [("a", 0)]) [("b", 601), ("a", 601)]).countP
      (· = ("a", true)) : ℚ)
        ≤ 1 + 1 / 100 * 0 ∧ outputs serve l ([("a", 0)] ++ [("b", 601), ("a", 601)]) =
      outputs serveUncollected l ([("a", 0)] ++ [("b", 601), ("a", 601)]) :=
  collections_unseen "a" 0 601 (fun _ => rfl) (by decide +kernel) (by decide +kernel)
    (by decide +kernel) (by decide +kernel) (by decide +kernel) (by decide +kernel) le_rfl
    (by decide +kernel)

/-- The bucket of a slow limiter is collected on a call of another key, and the next is full. -/
theorem collected_bucket_is_full : let l := new (1 / 1000) 1 0
    ((outputs serve l [("a", 0), ("b", 601), ("a", 601)]).countP (· = ("a", true)) : ℚ) = 2 ∧
      l.burst + l.rate * 601 < 2 := by
  decide +kernel

end Limiter

/-! ## The gateway -/

/-- What the attempts share: the limiter, of all connections, and the store. -/
structure Gateway where
  loginLimiter : Limiter
  store : Store

/-- An attempt to authenticate by a password, with its time in seconds. -/
structure Attempt where
  time : ℚ
  hello : Hello
  body : AuthBody
  world : World

namespace Gateway

/-- `New`, with the limiter of the logins. -/
def new (st : Store) (now : ℚ) : Gateway := ⟨.new 1 5 now, st⟩

section Attempts

variable (lower : String → String) (T : Tokens) (A : Accounts)

/-- `authByPasswordWithCode` with its limiter: `lower` is `strings.ToLower`. -/
def attempt (g : Gateway) (a : Attempt) : (Attempt × Except AuthError AuthOKBody) × Gateway :=
  let asked :=
    if a.body.register then (true, g.loginLimiter)
    else g.loginLimiter.allow (lower a.body.username) a.time
  let r := authByPasswordWithCode T A g.store a.hello a.body { a.world with allowed := asked.1 }
  ((a, r.1), ⟨asked.2, r.2⟩)

/-- A login attempt under such a name that was not turned away before its password was looked
at. -/
def Reached (named : String → Prop) (r : Attempt × Except AuthError AuthOKBody) : Prop :=
  r.1.body.register = false ∧ named r.1.body.username ∧ r.2 ≠ .error .loginThrottled

instance (named : String → Prop) [DecidablePred named] : DecidablePred (Reached named) := fun r =>
  inferInstanceAs (Decidable (r.1.body.register = false ∧ named r.1.body.username ∧
    r.2 ≠ .error .loginThrottled))

variable {g : Gateway} {attempts before window : List Attempt}

/-- An attempt that reached the password took a token of its spelling. -/
lemma spends_attempt (key : String) : Limiter.Spends (attempt lower T A) loginLimiter Attempt.time
    (Reached (lower · = key)) key := by
  intro g a h
  unfold attempt Reached
  by_cases hregister : a.body.register = true
  · simp [hregister, h]
  obtain ⟨hlaw, hrate, hburst, hlevel⟩ := h.allow (lower a.body.username)
  simp only [hregister, Bool.false_eq_true, if_false]
  refine ⟨hlaw, hrate, hburst, ?_⟩
  rw [← hlevel key]
  refine add_le_add_right ?_ _
  cases hasked : (g.loginLimiter.allow (lower a.body.username) a.time).1 with
  | true =>
    split
    · next hreach => simp [hreach.2.1]
    · split <;> norm_num
  | false => simp [authByPasswordWithCode, hregister]

lemma lawful_new (st : Store) (start : ℚ) : (new st start).loginLimiter.Lawful start where
  rate_nonneg := by norm_num [new, Limiter.new]
  burst_nonneg := by norm_num [new, Limiter.new]
  ttl_nonneg := by norm_num [new, Limiter.new]
  burst_le := by norm_num [new, Limiter.new]
  entries _ _ he := absurd he.symm (Option.some_ne_none _)

variable {lower T A} in
lemma attempted {r : Attempt × Except AuthError AuthOKBody}
    (hr : r ∈ outputs (attempt lower T A) g attempts) : r.1 ∈ attempts := by
  induction attempts generalizing g with
  | nil => exact absurd hr not_mem_nil
  | cons a attempts ih =>
    rcases mem_cons.mp hr with rfl | hr
    · exact .head _
    · exact .tail _ (ih hr)

variable {lower T A} in
/-- In every stretch of time, the attempts on an account that reach the password are within burst
and rate, if its name is spelled in one way up to upper case. -/
theorem logins_throttled {st : Store} {start span : ℚ} {account : String} (key : String)
    (begins : ℚ) (hstart : ∀ a ∈ before ++ window, start ≤ a.time)
    (hsort : (before ++ window).Pairwise fun a b => a.time ≤ b.time) (hspan : 0 ≤ span)
    (hwin : ∀ a ∈ window, begins ≤ a.time ∧ a.time ≤ begins + span)
    (hspelled : ∀ a ∈ window, a.body.register = false → A.handle a.body.username = account →
      lower a.body.username = key) : ((outputs (attempt lower T A)
        (final (attempt lower T A) (new st start) before) window).countP
          (Reached (A.handle · = account)) : ℚ) ≤
      (new st start).loginLimiter.burst + (new st start).loginLimiter.rate * span := by
  have hcnt := (spends_attempt lower T A key).window_le (lawful_new st start) hstart hsort
    hspan hwin
  refine le_trans (Nat.cast_le.mpr (countP_mono_left fun r hr hreach => ?_)) hcnt
  simp only [decide_eq_true_eq] at hreach ⊢
  exact ⟨hreach.1, hspelled r.1 (attempted hr) hreach.1 hreach.2.1, hreach.2.2⟩

end Attempts

namespace Sample

/-- Names are folded as the service does. -/
def accounts : Accounts :=
  { Auth.Sample.accounts with fold := fun u => Messaging.Service.trimSpace u.toLower }

def attempt (register : Bool) (username : String) : Attempt where
  time := 0
  hello := ⟨"phone", "web"⟩
  body := ⟨"", username, "secret", "", "", register⟩
  world := Auth.Sample.world 1 "s1" "t1" "t2"

/-- The answers after the account was registered. -/
def answers (usernames : List String) : List (Attempt × Except AuthError AuthOKBody) :=
  let step := Gateway.attempt String.toLower Auth.Sample.tokens accounts
  outputs step (final step (new Store.new 0) [attempt true "bob"]) (usernames.map (attempt false))

def names : List String := ["bob", "bob", "carol", "bob", "bob", "bob", "bob"]

end Sample

/-- Of six attempts on an account, with one on another between them, five reach the password. -/
theorem logins_throttled_bob :
    ((Sample.answers Sample.names).countP (Reached (Sample.accounts.handle · = "bob")) : ℚ) ≤
        (new Store.new 0).loginLimiter.burst + (new Store.new 0).loginLimiter.rate * 0 ∧
      (Sample.answers Sample.names).countP (Reached (Sample.accounts.handle · = "bob")) = 5 :=
  ⟨logins_throttled "bob" 0 (by decide +kernel) (by decide +kernel) le_rfl (by decide +kernel)
    (by decide +kernel), by decide +kernel⟩

/-- Six attempts on one account at one time reach the password, since a space before the name is
another bucket. -/
theorem spaced_name_not_throttled : let usernames := ["bob", "bob", "bob", "bob", "bob", " bob"]
    (∀ u ∈ usernames, Sample.accounts.handle u = "bob") ∧
      ((Sample.answers usernames).countP (Reached (Sample.accounts.handle · = "bob")) : ℚ) = 6 ∧
      (new Store.new 0).loginLimiter.burst + (new Store.new 0).loginLimiter.rate * 0 = 5 := by
  decide +kernel

end Gateway
end SyncApp.Auth
