import Mathlib.Data.List.Sort
import SyncApp.KeyDirectory.Client

/-!
# Keys that the directory can still hand out

How the clients keep the private halves of what they have published: the web client as in
`SyncApp.KeyDirectory.Client`, Android with `datastore/SecretKeyStore.kt`, where a key that was used
takes its mark along, and iOS with `Persistence/Secret/SecretChatService.swift`, which keeps its
keys in a map and when that is full drops the first names.

Main results:

- `Client.grown_maintain`, `Client.applied_applyState`: what maintaining the keys and a reply do to
  the pool.
-/

namespace SyncApp.KeyDirectory

open Foundations Messaging List

/-- `preKeyBatch` of the iOS client. -/
def preKeyBatch : Nat := 50

/-- `preKeyLowWater` of the iOS client. -/
def preKeyLowWater : Nat := preKeyBatch / 4

namespace SecretStore

variable (s : SecretStore)

/-- `dropOneTimePreKey` on Android and `consumeOneTimePreKey` on iOS: the mark goes with
the key. -/
def consumeOneTimePreKey (k : Nat) : SecretStore :=
  { s with
    oneTimePreKeys := s.oneTimePreKeys.filter (· ≠ k)
    publishedPreKeys := s.publishedPreKeys.filter (· ≠ k) }

def rotateSignedPreKeyIfStale (now : Int) : SecretStore :=
  if signedPreKeyMaxAgeMs ≤ now - s.signedPreKeyCreatedAt then s.rotate now else s

def refillOneTimePreKeys : SecretStore :=
  s.mint (preKeyBatch - s.oneTimePreKeys.length)

/-- Keys are taken out of the pool, and their marks. -/
def discard (gone : List Nat) : SecretStore :=
  { s with
    oneTimePreKeys := s.oneTimePreKeys.filter fun k => k ∉ gone
    publishedPreKeys := s.publishedPreKeys.filter fun k => k ∉ gone }

section Names

variable {α : Type} [LE α] [DecidableLE α]

/-- `trimLocalPreKeys`: the keys whose names come first go. -/
def trimLocalPreKeys (name : Nat → α) (s : SecretStore) : SecretStore :=
  if maxLocalPreKeys < s.oneTimePreKeys.length then
    s.discard ((s.oneTimePreKeys.insertionSort fun a b => name a ≤ name b).take
      (s.oneTimePreKeys.length - maxLocalPreKeys))
  else s

/-- New keys in `apply`. -/
def topUpBatch (s : SecretStore) (left : Nat) : SecretStore :=
  if left ≤ preKeyLowWater then s.mint (preKeyBatch - left) else s

/-- `apply` of the iOS client. -/
def apply (name : Nat → α) (s : SecretStore) (state : KeyStateBody) (offered : List Nat) :
    SecretStore :=
  ((s.mark (keptKeys state.accepted offered)).topUpBatch
    state.oneTimePreKeysLeft).trimLocalPreKeys name

end Names

end SecretStore

/-- The clients.  Of the iOS client the order of the names of its keys matters, which are the
base64 texts of random bytes. -/
inductive Client (α : Type) where
  | web
  | android
  | ios (name : Nat → α)

namespace Client

variable {α : Type} [LE α] [DecidableLE α]

/-- The identity of a new device.  On iOS the pool is filled by the first publish. -/
def create (now : Int) : Client α → SecretStore
  | .web | .android => .createIdentity now
  | .ios _ => { SecretStore.createIdentity now with oneTimePreKeys := [], drawn := 3 }

variable (c : Client α) (s : SecretStore)

/-- `maintainKeys`, `maintain`, and what `publishOnce` begins with. -/
def maintain (now : Int) : SecretStore :=
  match c with
  | .web | .android => (s.maintainKeys now).2
  | .ios _ => (s.rotateSignedPreKeyIfStale now).refillOneTimePreKeys

/-- The one-time keys of a publish. -/
def offered : List Nat :=
  match c with
  | .web | .android => s.unpublishedPreKeys
  | .ios name => s.unpublishedPreKeys.insertionSort fun a b => name a ≤ name b

variable (state : KeyStateBody)

/-- `applyDirectoryState` and `apply`. -/
def applyState (sent : List Nat) : SecretStore :=
  match c with
  | .web | .android => s.applyDirectoryState state sent
  | .ios name => s.apply name state sent

/-- A message was opened with the key. -/
def consume (k : Nat) : SecretStore :=
  match c with
  | .web => s.dropOneTimePreKey k
  | .android | .ios _ => s.consumeOneTimePreKey k

/-- A key that is used leaves its mark behind. -/
def leavesMark : Client α → Bool
  | .web => true
  | .android | .ios _ => false

/-- The reply makes no room in the pool by name. -/
def NoTrim : Prop :=
  match c with
  | .web | .android => True
  | .ios _ =>
    (s.topUpBatch state.oneTimePreKeysLeft).oneTimePreKeys.length ≤ maxLocalPreKeys

instance (c : Client α) (s : SecretStore) (state : KeyStateBody) :
    Decidable (c.NoTrim s state) := by
  unfold NoTrim
  split <;> infer_instance

end Client

/-- A client, its entry in the directory, the reply that is on its way, the keys that peers were
handed, and the keys that the directory ever took. -/
structure Holder where
  store : SecretStore
  entry : DeviceKeys Nat
  pending : Option (List Nat × KeyStateBody)
  handed : List Nat
  received : List Nat

/-- What can happen. -/
inductive HolderEvent where
  | maintain (now : Int)
  | publish (now : Int)
  | reply
  | fetch (now : Int)
  | consume (k : Nat)

namespace Holder

variable {α : Type} [LE α] [DecidableLE α] (c : Client α)

/-- The keys of the frame that is not answered yet. -/
def sent (w : Holder) : List Nat :=
  match w.pending with
  | none => []
  | some (sent, _) => sent

/-- `KEY_PUBLISH` reaches the directory. -/
def publish (w : Holder) (now : Int) : Holder :=
  let sent := c.offered w.store
  let result := w.entry.publish now { w.store.publishBody with preKeys := sent }
  { w with
    entry := result.2
    pending := some (sent, keyStateBody now result.1)
    received := w.received ++ sent.take maxPreKeysPerPublish }

variable (w : Holder)

def step : HolderEvent → Unit × Holder
  | .maintain now => ((), { w with store := c.maintain w.store now })
  | .publish now => ((), w.publish c now)
  | .reply =>
    match w.pending with
    | none => ((), w)
    | some (sent, state) =>
      ((), { w with store := c.applyState w.store state sent, pending := none })
  | .fetch now =>
    if w.entry.expired now then ((), { w with entry := .new })
    else
      ((), { w with
        entry := { w.entry with oneTime := w.entry.oneTime.tail }
        handed := w.handed ++ w.entry.oneTime.head?.toList })
  | .consume k => ((), { w with store := c.consume w.store k })

/-- A device that has not published yet. -/
def new (now : Int) : Holder := ⟨c.create now, .new, none, [], []⟩

abbrev after (now : Int) (events : List HolderEvent) : Holder :=
  Machine.final (step c) (new c now) events

def Rotates (now : Int) : Prop :=
  signedPreKeyMaxAgeMs ≤ now - w.store.signedPreKeyCreatedAt

/-- The directory serves no signed prekey of the device, or the current one. -/
def ServesCurrent : Prop :=
  w.entry.signedPreKey = "" ∨ w.entry.signedPreKey = formatInt w.store.signedPreKey

/-- A client publishes when its last publish was answered; it replaces the signed prekey only when
the directory has the current one; its pool is not trimmed by name; and it is written to with keys
that the directory handed out. -/
def Orderly : HolderEvent → Prop
  | .maintain now => w.pending = none ∧ (w.Rotates now → w.ServesCurrent)
  | .publish _ => w.pending = none
  | .reply => ∀ p ∈ w.pending, c.NoTrim w.store p.2
  | .fetch _ => True
  | .consume k => k ∈ w.handed

instance (w : Holder) (event : HolderEvent) : Decidable (w.Orderly c event) :=
  match event with
  | .maintain _ =>
    inferInstanceAs (Decidable (_ ∧ (_ ≤ _ → w.entry.signedPreKey = _ ∨ _ = _)))
  | .publish _ => inferInstanceAs (Decidable (_ = _))
  | .reply => inferInstanceAs (Decidable (∀ _ ∈ _, _))
  | .fetch _ => isTrue trivial
  | .consume _ => inferInstanceAs (Decidable (_ ∈ _))

/-- No mark is left without its key: a key that is used is not marked where it would leave its mark,
and no key of a frame is used before it is answered. -/
def Clean : HolderEvent → Prop
  | .reply => ∀ p ∈ w.pending, ∀ k ∈ p.1, k ∈ w.store.oneTimePreKeys
  | .consume k => c.leavesMark = true → k ∉ w.store.publishedPreKeys
  | _ => True

instance (w : Holder) (event : HolderEvent) : Decidable (w.Clean c event) := by
  cases event <;> unfold Clean <;> infer_instance

end Holder

namespace DeviceKeys

variable {K : Type} (dk : DeviceKeys K) (now : Int)

lemma signedPreKey_publish (b : KeyPublishBody K) :
    (dk.publish now b).2.signedPreKey = b.signedPreKey := by
  unfold publish
  dsimp only
  split
  · rfl
  · next hsame => exact not_not.mp hsame

end DeviceKeys

/-! ## What the clients do to their pools -/

namespace SecretStore

/-- New keys in the pool, all of them drawn later: none, or few keys in all. -/
structure Grown (s s' : SecretStore) : Prop where
  pool : ∃ first n, s.drawn ≤ first ∧ s'.drawn = first + n ∧
    s'.oneTimePreKeys = s.oneTimePreKeys ++ range' first n ∧
    (n = 0 ∨ s'.oneTimePreKeys.length ≤ oneTimePreKeyCount)
  marks : s'.publishedPreKeys = s.publishedPreKeys

/-- A reply is applied: the frame is marked, `n` keys are new, and `gone` is taken out. -/
structure Applied (s : SecretStore) (left : Nat) (sent : List Nat) (n : Nat) (gone : List Nat)
    (s' : SecretStore) : Prop where
  pool : s'.oneTimePreKeys = (s.oneTimePreKeys ++ range' s.drawn n).filter fun k => k ∉ gone
  marks : s'.publishedPreKeys = (s.publishedPreKeys ∪ sent).filter fun k => k ∉ gone
  drawn : s'.drawn = s.drawn + n
  signedPreKey : s'.signedPreKey = s.signedPreKey
  previousSignedPreKey : s'.previousSignedPreKey = s.previousSignedPreKey
  few : n ≤ oneTimePreKeyCount
  low : n ≠ 0 → left ≤ oneTimePreKeyLowWater
  bounded : s'.oneTimePreKeys.length ≤ maxLocalPreKeys

variable {s : SecretStore}

lemma rotateSignedPreKeyIfStale_pool (s : SecretStore) (now : Int) :
    let t := s.rotateSignedPreKeyIfStale now
    s.drawn ≤ t.drawn ∧ t.oneTimePreKeys = s.oneTimePreKeys ∧
      t.publishedPreKeys = s.publishedPreKeys := by
  unfold rotateSignedPreKeyIfStale
  split
  · exact ⟨Nat.le_succ _, rfl, rfl⟩
  · exact ⟨Nat.le_refl _, rfl, rfl⟩

lemma grown_mint (s : SecretStore) (now : Int) {n : Nat}
    (hfew : n ≤ oneTimePreKeyCount - s.oneTimePreKeys.length) :
    s.Grown ((s.rotateSignedPreKeyIfStale now).mint n) := by
  rcases s.rotateSignedPreKeyIfStale_pool now with ⟨hdrawn, hpool, hmarks⟩
  refine ⟨⟨_, n, hdrawn, rfl, by rw [← hpool]; rfl, ?_⟩, hmarks⟩
  simp only [mint, length_append, length_range', hpool]
  omega

lemma grown_maintainKeys (s : SecretStore) (now : Int) : s.Grown (s.maintainKeys now).2 := by
  have hpool := (s.rotateSignedPreKeyIfStale_pool now).2.1
  have hmint := fun n hn => s.grown_mint now (n := n) hn
  unfold maintainKeys
  unfold rotateSignedPreKeyIfStale at hpool hmint
  dsimp only
  generalize (if signedPreKeyMaxAgeMs ≤ _ then s.rotate now else s) = t at hpool hmint ⊢
  split
  · exact { hmint _ (hpool ▸ Nat.le_refl _) with }
  have hnone := hmint 0 (Nat.zero_le _)
  rwa [mint, range'_zero, append_nil] at hnone

lemma grown_refill (s : SecretStore) (now : Int) :
    s.Grown (s.rotateSignedPreKeyIfStale now).refillOneTimePreKeys := by
  refine s.grown_mint now ?_
  rw [(s.rotateSignedPreKeyIfStale_pool now).2.1]
  exact Nat.sub_le_sub_right (by decide) _

lemma filter_notMem_take {l : List Nat} (h : l.Nodup) (m : Nat) :
    (l.filter fun k => k ∉ l.take m) = l.drop m := by
  have hsplit := take_append_drop m l
  have hgone : ∀ k ∈ l.take m, decide (k ∉ l.take m) = false := by
    intro k hk
    exact decide_eq_false (not_not.mpr hk)
  have hstay : ∀ k ∈ l.drop m, decide (k ∉ l.take m) = true := by
    intro k hk
    exact decide_eq_true fun hmem => disjoint_take_drop h (Nat.le_refl m) hmem hk
  calc
    (l.filter fun k => k ∉ l.take m) =
        (l.take m ++ l.drop m).filter fun k => k ∉ l.take m := by rw [hsplit]
    _ = l.drop m := Window.filter_append_right hgone hstay

/-- What is taken out to make room: the oldest keys. -/
def surplus (s : SecretStore) : List Nat :=
  s.oneTimePreKeys.take (s.oneTimePreKeys.length - maxLocalPreKeys)

lemma trim_eq_discard (h : s.oneTimePreKeys.Nodup) : s.trim = s.discard s.surplus := by
  unfold trim
  split
  · unfold discard surplus
    rw [filter_notMem_take h]
  · next hfits =>
    have hnone : s.surplus = [] := by
      unfold surplus
      rw [Nat.sub_eq_zero_of_le (Nat.le_of_not_lt hfits), take_zero]
    rw [hnone]
    unfold discard
    simp

lemma length_trim_le (s : SecretStore) : s.trim.oneTimePreKeys.length ≤ maxLocalPreKeys := by
  unfold trim
  split
  · rw [length_drop]
    omega
  · next hfits => exact Nat.le_of_not_lt hfits

/-- A directory that runs low is given new keys, and few of them. -/
lemma exists_mint (left : Nat) {low count : Nat} (hlow : low ≤ oneTimePreKeyLowWater)
    (hcnt : count ≤ oneTimePreKeyCount) : ∃ n, n ≤ oneTimePreKeyCount ∧
      (n ≠ 0 → left ≤ oneTimePreKeyLowWater) ∧
      ∀ t : SecretStore, (if left ≤ low then t.mint (count - left) else t) = t.mint n := by
  by_cases hleft : left ≤ low
  · exact ⟨count - left, (Nat.sub_le _ _).trans hcnt, fun _ => hleft.trans hlow,
      fun t => if_pos hleft⟩
  · refine ⟨0, Nat.zero_le _, fun hne => absurd rfl hne, fun t => ?_⟩
    simp [if_neg hleft, mint]

variable {state : KeyStateBody} {sent : List Nat}

lemma applied_applyDirectoryState (h : s.Drawn) (hacc : state.accepted = sent.length) :
    ∃ n, s.Applied state.oneTimePreKeysLeft sent n
      ((s.mark sent).topUp state.oneTimePreKeysLeft).surplus (s.applyDirectoryState state sent) ∧
      ((s.mark sent).topUp state.oneTimePreKeysLeft).oneTimePreKeys =
        s.oneTimePreKeys ++ range' s.drawn n := by
  rcases exists_mint state.oneTimePreKeysLeft (le_refl _) (le_refl _) with ⟨n, hfew, hlow, hmint⟩
  have heq : (s.mark sent).topUp state.oneTimePreKeysLeft = (s.mark sent).mint n := hmint _
  have hdrawn : ((s.mark sent).mint n).oneTimePreKeys.Nodup := (drawn_mint h n).nodup
  have hbounded := length_trim_le ((s.mark sent).mint n)
  refine ⟨n, ?_, by rw [heq]; rfl⟩
  unfold applyDirectoryState
  rw [hacc, keptKeys_of_accepted, heq]
  rw [trim_eq_discard hdrawn] at hbounded ⊢
  exact ⟨rfl, rfl, rfl, rfl, rfl, hfew, hlow, hbounded⟩

lemma applied_apply {α : Type} [LE α] [DecidableLE α] (name : Nat → α)
    (hacc : state.accepted = sent.length)
    (hroom : (s.topUpBatch state.oneTimePreKeysLeft).oneTimePreKeys.length ≤ maxLocalPreKeys) :
    ∃ n, s.Applied state.oneTimePreKeysLeft sent n [] (s.apply name state sent) := by
  rcases exists_mint state.oneTimePreKeysLeft (show preKeyLowWater ≤ _ by decide)
    (show preKeyBatch ≤ _ by decide) with ⟨n, hfew, hlow, hmint⟩
  have heq : ∀ t : SecretStore, t.topUpBatch state.oneTimePreKeysLeft = t.mint n := hmint
  rw [heq s] at hroom
  refine ⟨n, ?_⟩
  unfold apply
  rw [hacc, keptKeys_of_accepted, heq]
  have hfits : ¬ maxLocalPreKeys < ((s.mark sent).mint n).oneTimePreKeys.length :=
    Nat.not_lt.mpr hroom
  unfold trimLocalPreKeys
  rw [if_neg hfits]
  refine ⟨?_, ?_, rfl, rfl, rfl, hfew, hlow, hroom⟩
  · simp [mint, mark]
  · simp [mint, mark]

end SecretStore

namespace Client

variable {α : Type} (c : Client α) {s : SecretStore}

def OldestFirst : Client α → Prop
  | .web | .android => True
  | .ios _ => False

section

variable (s : SecretStore)

theorem grown_maintain (now : Int) : s.Grown (c.maintain s now) := by
  cases c with
  | web | android => exact s.grown_maintainKeys now
  | ios => exact s.grown_refill now

lemma signed_maintain (now : Int) : (signedPreKeyMaxAgeMs ≤ now - s.signedPreKeyCreatedAt ∧
        (c.maintain s now).previousSignedPreKey = some s.signedPreKey) ∨
      (¬ signedPreKeyMaxAgeMs ≤ now - s.signedPreKeyCreatedAt ∧
        (c.maintain s now).signedPreKey = s.signedPreKey ∧
        (c.maintain s now).previousSignedPreKey = s.previousSignedPreKey) := by
  by_cases haged : signedPreKeyMaxAgeMs ≤ now - s.signedPreKeyCreatedAt
  · refine .inl ⟨haged, ?_⟩
    cases c with
    | web | android =>
      simp only [Client.maintain, SecretStore.maintainKeys, if_pos haged]
      split
      · rfl
      · rfl
    | ios =>
      unfold Client.maintain SecretStore.rotateSignedPreKeyIfStale
      rw [if_pos haged]
      rfl
  · refine .inr ⟨haged, ?_⟩
    cases c with
    | web | android =>
      simp only [Client.maintain, SecretStore.maintainKeys, if_neg haged]
      split
      · exact ⟨rfl, rfl⟩
      · exact ⟨rfl, rfl⟩
    | ios =>
      unfold Client.maintain SecretStore.rotateSignedPreKeyIfStale
      rw [if_neg haged]
      exact ⟨rfl, rfl⟩

lemma pool_consume (k : Nat) :
    (c.consume s k).oneTimePreKeys = s.oneTimePreKeys.filter (· ≠ k) := by
  cases c with
  | web | android | ios => rfl

lemma marks_consume (k : Nat) : (c.consume s k).publishedPreKeys =
      if c.leavesMark then s.publishedPreKeys else s.publishedPreKeys.filter (· ≠ k) := by
  cases c with
  | web | android | ios => rfl

lemma rest_consume (k : Nat) :
    (c.consume s k).drawn = s.drawn ∧ (c.consume s k).signedPreKey = s.signedPreKey ∧
      (c.consume s k).previousSignedPreKey = s.previousSignedPreKey := by
  cases c with
  | web | android | ios => exact ⟨rfl, rfl, rfl⟩

end

variable [LE α] [DecidableLE α]

lemma perm_offered (s : SecretStore) : (c.offered s).Perm s.unpublishedPreKeys := by
  cases c with
  | web | android => exact .refl _
  | ios => exact perm_insertionSort _ _

lemma offered_of_oldestFirst (h : c.OldestFirst) (s : SecretStore) :
    c.offered s = s.unpublishedPreKeys := by
  cases c with
  | web | android => rfl
  | ios => cases h

/-- A reply is applied, and what is taken out is nothing, or the oldest keys. -/
theorem applied_applyState (h : s.Drawn) {state : KeyStateBody} {sent : List Nat}
    (hacc : state.accepted = sent.length) (hroom : c.NoTrim s state) :
    ∃ n gone, s.Applied state.oneTimePreKeysLeft sent n gone (c.applyState s state sent) ∧
      (gone = [] ∨ c.OldestFirst ∧ gone = (s.oneTimePreKeys ++ range' s.drawn n).take
          ((s.oneTimePreKeys ++ range' s.drawn n).length - maxLocalPreKeys)) := by
  have hweb : ∃ n gone,
      s.Applied state.oneTimePreKeysLeft sent n gone (s.applyDirectoryState state sent) ∧
        gone = (s.oneTimePreKeys ++ range' s.drawn n).take
          ((s.oneTimePreKeys ++ range' s.drawn n).length - maxLocalPreKeys) := by
    rcases SecretStore.applied_applyDirectoryState h hacc with ⟨n, happ, hpool⟩
    refine ⟨n, _, happ, ?_⟩
    unfold SecretStore.surplus
    rw [hpool]
  cases c with
  | web | android =>
    rcases hweb with ⟨n, gone, happ, hgone⟩
    exact ⟨n, gone, happ, .inr ⟨trivial, hgone⟩⟩
  | ios name =>
    rcases SecretStore.applied_apply name hacc hroom with ⟨n, happ⟩
    exact ⟨n, [], happ, .inl rfl⟩

end Client

end SyncApp.KeyDirectory
