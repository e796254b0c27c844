import SyncApp.Foundations.Cursor
import SyncApp.Foundations.JoinedKey
import SyncApp.Foundations.Window

/-!
# The queue of secret messages

The queue of `server/internal/store/memory/secretqueue.go`: for each device what it has not
acknowledged, oldest first.  Accounts have no bar in their identifiers.

Main results:

- `Store.pendingSecrets_eq`: a page is what comes after its cursor.
-/

namespace SyncApp.SecretQueue

open Foundations List
open Function (update update_of_ne update_self)

structure SecretEnvelope where
  id : String
  toUserID : KeyPart
  toDeviceID : String
  fromUserID : String
  fromDeviceID : String
  header : List UInt8
  ciphertext : List UInt8
  createdAt : Int
  expiresAt : Int
deriving DecidableEq

def secretKey (userID deviceID : String) : String := joinKey userID deviceID

/-- `secretQ`.  A queue that is not there is an empty one. -/
structure Store where
  secretQ : String → List SecretEnvelope

namespace Store

variable (s : Store)

def enqueueSecret (e : SecretEnvelope) (maxPerDevice : Int) : Store :=
  let k := secretKey e.toUserID.text e.toDeviceID
  let q :=
    if 0 < maxPerDevice then Window.push maxPerDevice.toNat (s.secretQ k) [e]
    else s.secretQ k ++ [e]
  { s with secretQ := update s.secretQ k q }

/-- The loop of `PendingSecrets`. -/
def pendingLoop (afterID : String) (limit : Nat) :
    Bool → List SecretEnvelope → List SecretEnvelope → List SecretEnvelope
  | _, out, [] => out
  | false, out, e :: q => pendingLoop afterID limit (e.id = afterID) out q
  | true, out, e :: q =>
    if (out ++ [e]).length = limit then out ++ [e]
    else pendingLoop afterID limit true (out ++ [e]) q

/-- The limit that a call of `PendingSecrets` works with. -/
def pageLimit (limit : Int) : Nat := if limit ≤ 0 then 100 else limit.toNat

def pendingSecrets (toUserID toDeviceID afterID : String) (limit : Int) : List SecretEnvelope :=
  pendingLoop afterID (pageLimit limit) (afterID = "") []
    (s.secretQ (secretKey toUserID toDeviceID))

/-- `AckSecrets`, with the number of envelopes that are gone. -/
def ackSecrets (toUserID toDeviceID : String) (ids : List String) : Nat × Store :=
  if ids = [] then (0, s)
  else
    let k := secretKey toUserID toDeviceID
    let kept := (s.secretQ k).filter fun e => e.id ∉ ids
    ((s.secretQ k).length - kept.length, { s with secretQ := update s.secretQ k kept })

/-- The inner loop of `PurgeExpiredSecrets`: what is kept of a queue, and how many
are gone so far. -/
def purgeQueue (now : Int) (limit : Nat) : Nat → List SecretEnvelope → List SecretEnvelope × Nat
  | n, [] => ([], n)
  | n, e :: q =>
    if e.expiresAt ≠ 0 ∧ e.expiresAt ≤ now ∧ n < limit then purgeQueue now limit (n + 1) q
    else
      let rest := purgeQueue now limit n q
      (e :: rest.1, rest.2)

/-- The outer loop of `PurgeExpiredSecrets`, in the order in which the queues are
visited. -/
def purgeLoop (now : Int) (limit : Nat) : Nat → List String → Store → Nat × Store
  | n, [], s => (n, s)
  | n, k :: visit, s =>
    let purged := purgeQueue now limit n (s.secretQ k)
    purgeLoop now limit purged.2 visit { s with secretQ := update s.secretQ k purged.1 }

def purgeExpiredSecrets (now : Int) (limit : Int) (visit : List String) : Nat × Store :=
  purgeLoop now (if limit ≤ 0 then 1000 else limit.toNat) 0 visit s

end Store

namespace Store

lemma pageLimit_pos (limit : Int) : 0 < pageLimit limit := by
  unfold pageLimit
  split
  · decide
  · omega

variable (s : Store) (e : SecretEnvelope) (maxPerDevice : Int) (afterID : String) (now : Int)
  {limit : Nat}

lemma pendingLoop_seen {out : List SecretEnvelope} (hout : out.length < limit)
    (q : List SecretEnvelope) :
    pendingLoop afterID limit true out q = out ++ q.take (limit - out.length) := by
  induction q generalizing out with
  | nil =>
    unfold pendingLoop
    rw [take_nil, append_nil]
  | cons e q ih =>
    have hroom : limit - out.length = (limit - (out.length + 1)) + 1 := by omega
    unfold pendingLoop
    rw [hroom, take_succ_cons, length_append, length_singleton]
    split
    · next hfull =>
      rw [hfull, Nat.sub_self, take_zero]
    · next hmore =>
      rw [ih (by rw [length_append, length_singleton]; omega), length_append,
        length_singleton, append_assoc]
      rfl

lemma pendingLoop_unseen (hlim : 0 < limit) (q : List SecretEnvelope) :
    pendingLoop afterID limit false [] q = (Cursor.afterCursor (·.id) afterID q).take limit := by
  induction q with
  | nil =>
    unfold pendingLoop Cursor.afterCursor
    rw [take_nil]
  | cons e q ih =>
    unfold pendingLoop Cursor.afterCursor
    by_cases hid : e.id = afterID
    · rw [if_pos hid, decide_eq_true hid, pendingLoop_seen afterID hlim]
      rfl
    · rw [if_neg hid, decide_eq_false hid]
      exact ih

theorem pendingSecrets_eq (toUserID toDeviceID afterID : String) (limit : Int) :
    s.pendingSecrets toUserID toDeviceID afterID limit =
      (Cursor.remaining (·.id) (s.secretQ (secretKey toUserID toDeviceID))
        (if afterID = "" then none else some afterID)).take (pageLimit limit) := by
  unfold pendingSecrets
  by_cases hafter : afterID = ""
  · rw [if_pos hafter, decide_eq_true hafter, pendingLoop_seen afterID (pageLimit_pos limit)]
    rfl
  · rw [if_neg hafter, decide_eq_false hafter, pendingLoop_unseen afterID (pageLimit_pos limit)]
    rfl

lemma purgeQueue_sublist (limit n : Nat) (q : List SecretEnvelope) :
    (purgeQueue now limit n q).1.Sublist q := by
  induction q generalizing n with
  | nil => exact List.Sublist.refl []
  | cons e q ih =>
    unfold purgeQueue
    split
    · exact (ih (n + 1)).cons e
    · exact (ih n).cons_cons e

lemma purgeLoop_sublist (limit n : Nat) (visit : List String) (s : Store) (k : String) :
    ((purgeLoop now limit n visit s).2.secretQ k).Sublist (s.secretQ k) := by
  induction visit generalizing n s with
  | nil => exact List.Sublist.refl _
  | cons v visit ih =>
    refine (ih _ _).trans ?_
    dsimp only
    rcases eq_or_ne k v with rfl | hne
    · rw [update_self]
      exact purgeQueue_sublist now limit n _
    · rw [update_of_ne hne]

lemma ackSecrets_sublist (toUserID toDeviceID : String) (ids : List String) (k : String) :
    ((s.ackSecrets toUserID toDeviceID ids).2.secretQ k).Sublist (s.secretQ k) := by
  unfold ackSecrets
  split
  · exact List.Sublist.refl _
  dsimp only
  rcases eq_or_ne k (secretKey toUserID toDeviceID) with rfl | hne
  · rw [update_self]
    exact filter_sublist
  · rw [update_of_ne hne]

lemma enqueueSecret_self :
    ∃ kept, kept.Sublist (s.secretQ (secretKey e.toUserID.text e.toDeviceID)) ∧
      (s.enqueueSecret e maxPerDevice).secretQ (secretKey e.toUserID.text e.toDeviceID) =
        kept ++ [e] := by
  unfold enqueueSecret
  dsimp only
  rw [update_self]
  split
  · next hmax =>
    refine ⟨_, (Window.rtake_suffix (maxPerDevice.toNat - 1) _).sublist, ?_⟩
    rw [Window.push_eq, Window.rtake_append_of_length_le]
    · rfl
    · rw [length_singleton]
      omega
  · exact ⟨_, List.Sublist.refl _, rfl⟩

lemma enqueueSecret_other {k : String} (hne : k ≠ secretKey e.toUserID.text e.toDeviceID) :
    (s.enqueueSecret e maxPerDevice).secretQ k = s.secretQ k := by
  unfold enqueueSecret
  dsimp only
  rw [update_of_ne hne]

end Store

end SyncApp.SecretQueue
