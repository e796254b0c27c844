import SyncApp.KeyDirectory.Directory
import SyncApp.Messaging.Snowflake

/-!
# A device's own account of its one-time keys

`maintainKeys`, `applyDirectoryState`, `unpublishedPreKeys` and `dropOneTimePreKey` of
`client/src/entities/secret-chat/model.ts`, and the effect of `use-secret-chats.ts` that publishes.
A device offers the keys that it has not marked, and marks them by the number accepted.  A reload
finds what was in memory.

Main results:

- `marks_right_of_length_le`: the marks of a frame are right up to the directory's cap.
- `prekey_bookkeeping`: which keys are offered and marked, in every run.
-/

namespace SyncApp.KeyDirectory

open Foundations Messaging List

/-- `ONE_TIME_PREKEY_COUNT`. -/
def oneTimePreKeyCount : Nat := 100

/-- `ONE_TIME_PREKEY_LOW_WATER`. -/
def oneTimePreKeyLowWater : Nat := 25

/-- `SIGNED_PREKEY_MAX_AGE_MS`. -/
def signedPreKeyMaxAgeMs : Int := 7 * 24 * 60 * 60 * 1000

/-- `MAX_LOCAL_PREKEYS`. -/
def maxLocalPreKeys : Nat := 256

structure KeyStateBody where
  oneTimePreKeysLeft : Nat
  signedPreKeyAgeMs : Int
  accepted : Nat

def keyStateBody (now : Int) (st : DirectoryState) : KeyStateBody where
  oneTimePreKeysLeft := st.oneTimePreKeysLeft
  signedPreKeyAgeMs :=
    match st.signedPreKeyFirstSeen with
    | none => 0
    | some firstSeen => if 0 < now - firstSeen then now - firstSeen else 0
  accepted := st.accepted

lemma keyStateBody_accepted (now : Int) (st : DirectoryState) :
    (keyStateBody now st).accepted = st.accepted :=
  rfl

/-- The client's state: the identity with its pool, whether a bundle is to be published, and the
number of key pairs generated; a key pair is the number of its draw. -/
structure SecretStore where
  signedPreKey : Nat
  signedPreKeyCreatedAt : Int
  previousSignedPreKey : Option Nat
  oneTimePreKeys : List Nat
  publishedPreKeys : List Nat
  published : Bool
  drawn : Nat

/-- The keys that are marked for a frame: all of it, or its last ones. -/
def keptKeys {K : Type} (accepted : Nat) (sent : List K) : List K :=
  if sent.length ≤ accepted then sent else sent.drop (sent.length - accepted)

namespace SecretStore

variable (s : SecretStore) (now : Int)

/-- `createIdentity`: an identity key, a signing key, a signed prekey and the
pool. -/
def createIdentity : SecretStore where
  signedPreKey := 2
  signedPreKeyCreatedAt := now
  previousSignedPreKey := none
  oneTimePreKeys := range' 3 oneTimePreKeyCount
  publishedPreKeys := []
  published := false
  drawn := 3 + oneTimePreKeyCount

/-- The rotation of the signed prekey in `maintainKeys`. -/
def rotate : SecretStore :=
  { s with
    previousSignedPreKey := some s.signedPreKey, signedPreKey := s.drawn
    signedPreKeyCreatedAt := now, drawn := s.drawn + 1, published := false }

def mint (missing : Nat) : SecretStore :=
  { s with
    oneTimePreKeys := s.oneTimePreKeys ++ range' s.drawn missing
    drawn := s.drawn + missing }

/-- `maintainKeys`: whether anything changed, and the new state. -/
def maintainKeys : Bool × SecretStore :=
  let aged := signedPreKeyMaxAgeMs ≤ now - s.signedPreKeyCreatedAt
  let s := if aged then s.rotate now else s
  if s.oneTimePreKeys.length ≤ oneTimePreKeyLowWater then
    (true, { s.mint (oneTimePreKeyCount - s.oneTimePreKeys.length) with published := false })
  else (aged, s)

/-- The trimming of the pool in `applyDirectoryState`. -/
def trim : SecretStore :=
  if maxLocalPreKeys < s.oneTimePreKeys.length then
    let gone := s.oneTimePreKeys.take (s.oneTimePreKeys.length - maxLocalPreKeys)
    { s with
      oneTimePreKeys := s.oneTimePreKeys.drop (s.oneTimePreKeys.length - maxLocalPreKeys)
      publishedPreKeys := s.publishedPreKeys.filter fun k => k ∉ gone }
  else s

/-- The keys of a frame are marked.  The marks are a set, kept as a list. -/
def mark (kept : List Nat) : SecretStore :=
  { s with publishedPreKeys := s.publishedPreKeys ∪ kept }

/-- New keys for a directory that runs low. -/
def topUp (left : Nat) : SecretStore :=
  if left ≤ oneTimePreKeyLowWater then s.mint (oneTimePreKeyCount - left) else s

def applyDirectoryState (state : KeyStateBody) (sent : List Nat) : SecretStore :=
  let next := ((s.mark (keptKeys state.accepted sent)).topUp state.oneTimePreKeysLeft).trim
  let republish := state.oneTimePreKeysLeft ≤ oneTimePreKeyLowWater ∨
    signedPreKeyMaxAgeMs ≤ state.signedPreKeyAgeMs
  { next with published := ¬ republish }

def unpublishedPreKeys : List Nat :=
  s.oneTimePreKeys.filter fun k => k ∉ s.publishedPreKeys

def dropOneTimePreKey (k : Nat) : SecretStore :=
  { s with oneTimePreKeys := s.oneTimePreKeys.filter (· ≠ k) }

/-- The body of `KEY_PUBLISH`.  The texts of the long-term keys are those of their
numbers. -/
def publishBody : KeyPublishBody Nat where
  identityKey := formatInt 0
  signingKey := formatInt 1
  signedPreKey := formatInt s.signedPreKey
  signedPreKeySig := formatInt s.signedPreKey
  preKeys := s.unpublishedPreKeys

end SecretStore

/-- The client, its entry in the directory, the reply on its way, the keys that peers were handed,
those that ever reached the directory, and those of them whose frames were not answered. -/
structure Device where
  store : SecretStore
  entry : DeviceKeys Nat
  pending : Option (List Nat × KeyStateBody)
  handed : List Nat
  received : List Nat
  unanswered : List Nat

/-- What can happen to a device. -/
inductive DeviceEvent where
  /-- The publishing effect runs.  A request that is still open is given up. -/
  | effect (now : Int) (arrives : Bool)
  /-- The reply arrives. -/
  | reply
  /-- The reply is lost, or comes too late. -/
  | lost
  /-- The page is loaded again. -/
  | reload
  /-- A peer fetches the device's keys. -/
  | fetch (now : Int)
  /-- A message was opened with a one-time key. -/
  | drop (k : Nat)

namespace Device

variable (w : Device)

def offers : List Nat := w.store.unpublishedPreKeys

/-- `KEY_PUBLISH` reaches the directory. -/
def publish (w : Device) (now : Int) : Device :=
  let result := w.entry.publish now w.store.publishBody
  { w with
    entry := result.2
    pending := some (w.offers, keyStateBody now result.1)
    received := w.received ++ w.offers
    unanswered := w.unanswered ++ w.offers }

/-- The effect of `useSecretKeyPublisher`. -/
def effect (now : Int) (arrives : Bool) : Device :=
  let maintained := w.store.maintainKeys now
  let w := { w with store := maintained.2, pending := none }
  if maintained.1 then w
  else if w.store.published then w
  else if arrives then w.publish now
  else w

def step : DeviceEvent → Unit × Device
  | .effect now arrives => ((), w.effect now arrives)
  | .reply =>
    match w.pending with
    | none => ((), w)
    | some (sent, state) =>
      ((), { w with
        store := w.store.applyDirectoryState state sent, pending := none
        unanswered := w.unanswered.filter fun k => k ∉ sent })
  | .lost => ((), { w with pending := none })
  | .reload => ((), { w with store := { w.store with published := false }, pending := none })
  | .fetch now =>
    -- An entry past its time is forgotten.
    if w.entry.expired now then ((), { w with entry := .new })
    else
      ((), { w with
        entry := { w.entry with oneTime := w.entry.oneTime.tail }
        handed := w.handed ++ w.entry.oneTime.head?.toList })
  | .drop k => ((), { w with store := w.store.dropOneTimePreKey k })

/-- A device that has not published yet. -/
def new (now : Int) : Device := ⟨.createIdentity now, .new, none, [], [], []⟩

abbrev after (now : Int) (events : List DeviceEvent) : Device :=
  Machine.final step (new now) events

end Device

/-- The marks of a frame are the keys of the frame that the directory holds then. -/
def MarksRight {K : Type} (existing sent : List K) : Prop :=
  ∀ k ∈ sent, k ∈ keptKeys (appendCapped existing sent).2 sent ↔ k ∈ (appendCapped existing sent).1

variable {K : Type} {sent : List K}

/-- A frame within the cap is held and marked as a whole. -/
theorem marks_right_of_length_le (existing : List K) (h : sent.length ≤ maxPreKeysPerPublish) :
    MarksRight existing sent := by
  intro k hk
  have htake : sent.take maxPreKeysPerPublish = sent := take_of_length_le h
  unfold keptKeys
  rw [appendCapped_snd, appendCapped_fst, htake, if_pos (Nat.le_refl _)]
  exact ⟨fun _ => mem_append_right _ hk, fun _ => hk⟩

/-- For a frame of keys that the directory does not hold, the marks are right only within the cap:
of a longer one the last key is marked and not held. -/
lemma marks_right_iff [DecidableEq K] {existing : List K} (hnodup : sent.Nodup)
    (hnew : ∀ k ∈ existing, k ∉ sent) :
    MarksRight existing sent ↔ sent.length ≤ maxPreKeysPerPublish := by
  constructor
  · intro hright
    by_contra hlong
    rw [Nat.not_le] at hlong
    have hne : sent ≠ [] := ne_nil_of_length_pos (Nat.zero_lt_of_lt hlong)
    have hlast := getLast_mem hne
    have hdrop : ∀ n, n < sent.length → sent.getLast hne ∈ sent.drop n := by
      intro n hn
      have hmem := getLast_mem (ne_nil_of_length_pos
        (Nat.lt_of_lt_of_eq (Nat.sub_pos_of_lt hn) length_drop.symm))
      rwa [getLast_drop] at hmem
    have hmarked : sent.getLast hne ∈ keptKeys (appendCapped existing sent).2 sent := by
      unfold keptKeys
      rw [appendCapped_snd, length_take, Nat.min_eq_left hlong.le,
        if_neg (Nat.not_le.mpr hlong)]
      exact hdrop _ (Nat.sub_lt (Nat.zero_lt_of_lt hlong) (by decide))
    have hheld : sent.getLast hne ∈ sent.filter fun k => k ∈ (appendCapped existing sent).1 :=
      mem_filter.mpr ⟨hlast, decide_eq_true ((hright _ hlast).mp hmarked)⟩
    rw [filter_mem_appendCapped hnodup hnew] at hheld
    exact disjoint_take_drop hnodup (Nat.le_refl _) hheld (hdrop _ hlong)
  · exact marks_right_of_length_le existing

/-! ## The pool -/

namespace SecretStore

variable {s : SecretStore}

/-- The keys of the pool differ, and they and the marks were drawn before. -/
structure Drawn (s : SecretStore) : Prop where
  nodup : s.oneTimePreKeys.Nodup
  pool : ∀ k ∈ s.oneTimePreKeys, k < s.drawn
  marks : ∀ k ∈ s.publishedPreKeys, k < s.drawn

lemma lt_of_mem_range' {k k' first n : Nat} (h : k < first) (hk' : k' ∈ range' first n) :
    k < k' :=
  h.trans_le (mem_range'_1.mp hk').1

lemma drawn_createIdentity (now : Int) : (createIdentity now).Drawn where
  nodup := nodup_range'
  pool := by
    intro k hk
    exact (mem_range'_1.mp hk).2
  marks := nofun

section

variable (h : s.Drawn)
include h

lemma drawn_mint (n : Nat) : (s.mint n).Drawn where
  nodup := by
    refine nodup_append.mpr ⟨h.nodup, nodup_range', ?_⟩
    exact fun k hk k' hk' => (lt_of_mem_range' (h.pool k hk) hk').ne
  pool := by
    exact forall_mem_append.mpr ⟨fun k hk => Nat.lt_add_right n (h.pool k hk),
      fun k hk => (mem_range'_1.mp hk).2⟩
  marks := fun k hk => Nat.lt_add_right n (h.marks k hk)

lemma unpublished_mint (n : Nat) :
    (s.mint n).unpublishedPreKeys = s.unpublishedPreKeys ++ range' s.drawn n := by
  unfold unpublishedPreKeys mint
  rw [filter_append]
  congr 1
  exact filter_eq_self.mpr fun k hk => decide_eq_true fun hmark =>
    (lt_of_mem_range' (h.marks k hmark) hk).ne rfl

lemma drawn_trim : s.trim.Drawn := by
  unfold trim
  split
  · generalize s.oneTimePreKeys.length - maxLocalPreKeys = surplus
    constructor
    · exact h.nodup.sublist (drop_sublist surplus s.oneTimePreKeys)
    · exact fun k hk => h.pool k (mem_of_mem_drop hk)
    · exact fun k hk => h.marks k (mem_filter.mp hk).1
  · exact h

lemma unpublished_trim : s.trim.unpublishedPreKeys.Sublist s.unpublishedPreKeys := by
  unfold trim
  split
  · generalize s.oneTimePreKeys.length - maxLocalPreKeys = surplus
    unfold unpublishedPreKeys
    have hsame : ∀ k ∈ s.oneTimePreKeys.drop surplus,
        decide (k ∉ s.publishedPreKeys.filter fun k => k ∉ s.oneTimePreKeys.take surplus) =
          decide (k ∉ s.publishedPreKeys) := by
      intro k hk
      have hkept : k ∉ s.oneTimePreKeys.take surplus := fun hgone =>
        disjoint_take_drop h.nodup (Nat.le_refl surplus) hgone hk
      simp [mem_filter, hkept]
    rw [filter_congr hsame]
    exact (drop_sublist surplus s.oneTimePreKeys).filter _
  · exact List.Sublist.refl _

end

/-- Keys may have been generated, and nothing else became unpublished. -/
structure Renewed (s s' : SecretStore) : Prop where
  drawn : s'.Drawn
  later : s.drawn ≤ s'.drawn
  offers : ∀ k ∈ s'.unpublishedPreKeys, k ∈ s.unpublishedPreKeys ∨ s.drawn ≤ k
  few : s'.unpublishedPreKeys.length ≤ oneTimePreKeyCount

lemma length_unpublished_le (s : SecretStore) :
    s.unpublishedPreKeys.length ≤ s.oneTimePreKeys.length :=
  length_filter_le _ _

lemma renewed_mint (h : s.Drawn) {n : Nat}
    (hfew : s.unpublishedPreKeys.length + n ≤ oneTimePreKeyCount) : Renewed s (s.mint n) where
  drawn := drawn_mint h n
  later := Nat.le_add_right _ _
  offers := by
    intro k hk
    rw [unpublished_mint h] at hk
    rcases mem_append.mp hk with hk | hk
    · exact .inl hk
    · exact .inr (mem_range'_1.mp hk).1
  few := by
    rw [unpublished_mint h, length_append, length_range']
    exact hfew

lemma Renewed.of_rotate {now : Int} {s' : SecretStore} (h : Renewed (s.rotate now) s') :
    Renewed s s' where
  drawn := h.drawn
  later := (Nat.le_succ _).trans h.later
  offers := fun k hk => (h.offers k hk).imp id Nat.le_of_succ_le
  few := h.few

section

variable (h : s.Drawn) (hfew : s.unpublishedPreKeys.length ≤ oneTimePreKeyCount)
include h hfew

lemma renewed_refill (changed : Bool) :
    Renewed s (if s.oneTimePreKeys.length ≤ oneTimePreKeyLowWater then
      (true, { s.mint (oneTimePreKeyCount - s.oneTimePreKeys.length) with published := false })
      else (changed, s)).2 := by
  split
  · next hlow =>
    have hle := s.length_unpublished_le
    have hrenew := renewed_mint h (n := oneTimePreKeyCount - s.oneTimePreKeys.length) (by
      omega)
    exact ⟨⟨hrenew.drawn.nodup, hrenew.drawn.pool, hrenew.drawn.marks⟩, hrenew.later,
      hrenew.offers, hrenew.few⟩
  · exact ⟨h, Nat.le_refl _, fun k hk => .inl hk, hfew⟩

lemma renewed_maintainKeys (now : Int) : Renewed s (s.maintainKeys now).2 := by
  unfold maintainKeys
  by_cases haged : signedPreKeyMaxAgeMs ≤ now - s.signedPreKeyCreatedAt
  · simp only [if_pos haged]
    have hrotated : (s.rotate now).Drawn := ⟨h.nodup,
      fun k hk => Nat.lt_succ_of_lt (h.pool k hk), fun k hk => Nat.lt_succ_of_lt (h.marks k hk)⟩
    exact (renewed_refill hrotated hfew _).of_rotate
  · simp only [if_neg haged]
    exact renewed_refill h hfew _

end

/-- The marks of a frame that was accepted as a whole. -/
lemma keptKeys_of_accepted {K : Type} (sent : List K) : keptKeys sent.length sent = sent :=
  if_pos (Nat.le_refl _)

variable {sent : List Nat}

lemma drawn_mark (h : s.Drawn) (hsent : ∀ k ∈ sent, k < s.drawn) : (s.mark sent).Drawn := by
  refine ⟨h.nodup, h.pool, fun k hk => ?_⟩
  rcases mem_union_iff.mp hk with hk | hk
  · exact h.marks k hk
  · exact hsent k hk

lemma unpublished_mark (hsent : ∀ k ∈ s.unpublishedPreKeys, k ∈ sent) :
    (s.mark sent).unpublishedPreKeys = [] := by
  refine filter_eq_nil_iff.mpr fun k hk => ?_
  simp only [mark, decide_eq_true_eq, not_not, mem_union_iff]
  by_cases hmark : k ∈ s.publishedPreKeys
  · exact .inl hmark
  · exact .inr (hsent k (mem_filter.mpr ⟨hk, decide_eq_true hmark⟩))

lemma renewed_topUp (h : s.Drawn) (hnone : s.unpublishedPreKeys = []) (left : Nat) :
    Renewed s (s.topUp left) := by
  unfold topUp
  split
  · refine renewed_mint h ?_
    rw [hnone, length_nil, Nat.zero_add]
    exact Nat.sub_le _ _
  · refine ⟨h, Nat.le_refl _, fun k hk => .inl hk, ?_⟩
    rw [hnone]
    exact Nat.zero_le _

lemma drawn_eq_trim (s : SecretStore) : s.trim.drawn = s.drawn := by
  unfold trim
  split
  · rfl
  · rfl

/-- After the reply to a frame that held all offered keys only new ones are offered. -/
lemma renewed_applyDirectoryState (h : s.Drawn) {state : KeyStateBody}
    (hsent : ∀ k ∈ s.unpublishedPreKeys, k ∈ sent) (hdrawn : ∀ k ∈ sent, k < s.drawn)
    (hacc : state.accepted = sent.length) :
    Renewed (s.mark sent) (s.applyDirectoryState state sent) := by
  have htopped := renewed_topUp (drawn_mark h hdrawn) (unpublished_mark hsent)
    state.oneTimePreKeysLeft
  unfold applyDirectoryState
  rw [hacc, keptKeys_of_accepted]
  generalize (s.mark sent).topUp state.oneTimePreKeysLeft = topped at htopped ⊢
  have htrim := drawn_trim htopped.drawn
  have hoffers := unpublished_trim htopped.drawn
  refine ⟨{ htrim with }, ?_, ?_, ?_⟩
  · exact htopped.later.trans (drawn_eq_trim topped).ge
  · exact fun k hk => htopped.offers k (hoffers.subset hk)
  · exact hoffers.length_le.trans htopped.few

end SecretStore

/-! ## The account -/

namespace Device

/-- What the device and the directory know of each other. -/
structure Accounted (w : Device) : Prop where
  drawn : w.store.Drawn
  received : ∀ k ∈ w.received, k < w.store.drawn
  unanswered : ∀ k ∈ w.unanswered, k ∈ w.received
  known : ∀ k, k ∈ w.entry.oneTime ∨ k ∈ w.handed → k ∈ w.received
  again : ∀ k ∈ w.offers, (k ∈ w.received ↔ k ∈ w.unanswered)
  few : w.offers.length ≤ oneTimePreKeyCount
  pending : ∀ sent state, w.pending = some (sent, state) →
    (∀ k ∈ w.offers, k ∈ sent) ∧ (∀ k ∈ sent, k ∈ w.received) ∧ state.accepted = sent.length

lemma accounted_new (now : Int) : (new now).Accounted where
  drawn := SecretStore.drawn_createIdentity now
  received := nofun
  unanswered := nofun
  known := by
    rintro k (hk | hk)
    · exact hk
    · exact hk
  again := fun k _ => Iff.rfl
  few := (SecretStore.createIdentity now).length_unpublished_le
  pending := nofun

variable {w : Device}

section

variable (h : w.Accounted)
include h

/-- New keys in the pool, and no open request. -/
lemma Accounted.renew {s : SecretStore} (hs : w.store.Renewed s) :
    Accounted { w with store := s, pending := none } where
  drawn := hs.drawn
  received := fun k hk => (h.received k hk).trans_le hs.later
  unanswered := h.unanswered
  known := h.known
  again := by
    intro k hk
    rcases hs.offers k hk with hold | hnew
    · exact h.again k hold
    · have hnot : k ∉ w.received := fun hmem => Nat.not_lt.mpr hnew (h.received k hmem)
      exact iff_of_false hnot fun hmem => hnot (h.unanswered k hmem)
  few := hs.few
  pending := nofun

lemma accounted_publish (now : Int) : (w.publish now).Accounted where
  drawn := h.drawn
  received := by
    exact forall_mem_append.mpr ⟨h.received, fun k hk => h.drawn.pool k (mem_filter.mp hk).1⟩
  unanswered := by
    exact forall_mem_append.mpr ⟨fun k hk => mem_append_left _ (h.unanswered k hk),
      fun _ => mem_append_right _⟩
  known := by
    rintro k (hk | hk)
    · simp only [publish] at hk
      rw [DeviceKeys.oneTime_publish, appendCapped_fst] at hk
      rcases mem_append.mp hk with hk | hk
      · exact mem_append_left _ (h.known k (.inl ((Window.rtake_suffix _ _).subset hk)))
      · exact mem_append_right _ (mem_of_mem_take hk)
    · exact mem_append_left _ (h.known k (.inr hk))
  again := fun k hk => iff_of_true (mem_append_right _ hk) (mem_append_right _ hk)
  few := h.few
  pending := by
    intro sent state hpend
    rcases hpend with ⟨rfl, rfl⟩
    refine ⟨fun k hk => hk, fun k hk => mem_append_right _ hk, ?_⟩
    have hcap : w.store.publishBody.preKeys.length ≤ maxPreKeysPerPublish := h.few.trans (by decide)
    rw [keyStateBody_accepted, DeviceKeys.accepted_publish, take_of_length_le hcap]
    rfl

lemma accounted_effect (now : Int) (arrives : Bool) : (w.effect now arrives).Accounted := by
  have hrenew := h.renew (SecretStore.renewed_maintainKeys h.drawn h.few now)
  unfold effect
  dsimp only
  split
  · exact hrenew
  split
  · exact hrenew
  · split
    · exact accounted_publish hrenew now
    · exact hrenew

lemma accounted_reply {sent : List Nat} {state : KeyStateBody}
    (hpend : w.pending = some (sent, state)) :
    Accounted { w with
      store := w.store.applyDirectoryState state sent, pending := none
      unanswered := w.unanswered.filter fun k => k ∉ sent } := by
  rcases h.pending sent state hpend with ⟨hoffers, hsent, hacc⟩
  have hrenew := SecretStore.renewed_applyDirectoryState h.drawn hoffers
    (fun k hk => h.received k (hsent k hk)) hacc
  refine ⟨hrenew.drawn, fun k hk => (h.received k hk).trans_le hrenew.later,
    fun k hk => h.unanswered k (mem_filter.mp hk).1, h.known, ?_, hrenew.few, nofun⟩
  intro k hk
  rcases hrenew.offers k hk with hold | hnew
  · rw [SecretStore.unpublished_mark hoffers] at hold
    cases hold
  · have hnot : k ∉ w.received := fun hmem => Nat.not_lt.mpr hnew (h.received k hmem)
    exact iff_of_false hnot fun hmem => hnot (h.unanswered k (mem_filter.mp hmem).1)

lemma accounted_fetch {entry : DeviceKeys Nat} {handed : List Nat}
    (hknown : ∀ k, k ∈ entry.oneTime ∨ k ∈ handed → k ∈ w.entry.oneTime ∨ k ∈ w.handed) :
    Accounted { w with entry := entry, handed := handed } :=
  { h with known := fun k hk => h.known k (hknown k hk) }

lemma accounted_drop (k : Nat) : Accounted { w with store := w.store.dropOneTimePreKey k } := by
  have hsub : (w.store.dropOneTimePreKey k).unpublishedPreKeys.Sublist w.offers :=
    (filter_sublist).filter _
  refine ⟨⟨h.drawn.nodup.sublist filter_sublist, fun k hk => ?_, h.drawn.marks⟩, h.received,
    h.unanswered, h.known, fun k hk => h.again k (hsub.subset hk), hsub.length_le.trans h.few, ?_⟩
  · exact h.drawn.pool k (mem_filter.mp hk).1
  · intro sent state hpend
    rcases h.pending sent state hpend with ⟨hoffers, hrest⟩
    exact ⟨fun k hk => hoffers k (hsub.subset hk), hrest⟩

end

lemma accounted_step (w : Device) (ev : DeviceEvent) (h : w.Accounted) :
    (w.step ev).2.Accounted := by
  cases ev with
  | effect => exact accounted_effect h ..
  | reply =>
    simp only [step]
    split
    · exact h
    · next sent state hpend => exact accounted_reply h hpend
  | lost => exact { h with pending := nofun }
  | reload =>
    exact ⟨⟨h.drawn.nodup, h.drawn.pool, h.drawn.marks⟩, h.received, h.unanswered, h.known,
      h.again, h.few, nofun⟩
  | fetch =>
    simp only [step]
    split
    · refine accounted_fetch h fun k hk => ?_
      rcases hk with hk | hk
      · cases hk
      · exact .inr hk
    · refine accounted_fetch h fun k hk => ?_
      rcases hk with hk | hk
      · exact .inl (mem_of_mem_tail hk)
      · rcases mem_append.mp hk with hk | hk
        · exact .inr hk
        · exact .inl (mem_of_mem_head? (Option.mem_toList.mp hk))
  | drop k => exact accounted_drop h k

lemma accounted_after (now : Int) (events : List DeviceEvent) : (after now events).Accounted :=
  Machine.invariant_final step accounted_step (accounted_new now) events

end Device

/-- Along every run: the marks of the frame sent next will be right; no key of it is held or was
handed out, unless it was in a frame that was not answered; and all keys of such a frame have
reached the directory.  For other frames the marks are right exactly within the cap. -/
theorem prekey_bookkeeping (now : Int) (events : List DeviceEvent) :
    let w := Device.after now events
    (∀ existing, MarksRight existing w.offers) ∧
      (∀ k ∈ w.offers, k ∉ w.unanswered → k ∉ w.entry.oneTime ∧ k ∉ w.handed) ∧
      (∀ k ∈ w.offers, k ∈ w.unanswered ↔ k ∈ w.received) ∧
      ∀ existing sent : List Nat, sent.Nodup → (∀ k ∈ existing, k ∉ sent) →
        (MarksRight existing sent ↔ sent.length ≤ maxPreKeysPerPublish) := by
  have h := Device.accounted_after now events
  refine ⟨fun existing => marks_right_of_length_le existing (h.few.trans (by decide)), ?_,
    fun k hk => (h.again k hk).symm, fun existing sent hnodup hnew => marks_right_iff hnodup hnew⟩
  intro k hk hans
  have hnew : k ∉ (Device.after now events).received :=
    fun hrecv => hans ((h.again k hk).mp hrecv)
  exact ⟨fun hheld => hnew (h.known k (.inl hheld)), fun hhanded => hnew (h.known k (.inr hhanded))⟩

/-- Peers fetch most of the keys, and the device is told so when it is loaded again. -/
def runningLow : List DeviceEvent :=
  [.effect 0 true, .reply] ++ replicate 80 (.fetch 1) ++
    [.reload, .effect 2 true, .reply, .drop 3]

theorem prekey_bookkeeping_running_low : (Device.after 0 runningLow).offers = range' 103 80 ∧
      (∀ k ∈ (Device.after 0 runningLow).offers,
        k ∉ (Device.after 0 runningLow).entry.oneTime ∧ k ∉ (Device.after 0 runningLow).handed) ∧
      MarksRight (Device.after 0 runningLow).entry.oneTime (Device.after 0 runningLow).offers ∧
      MarksRight [7] [8, 9] := by
  have hrun := prekey_bookkeeping 0 runningLow
  have hset : (Device.after 0 runningLow).unanswered = [] := by decide +kernel
  refine ⟨by decide +kernel, fun k hk => hrun.2.1 k hk ?_, hrun.1 _,
    (hrun.2.2.2 [7] [8, 9] (by decide) (by decide)).mpr (by decide)⟩
  rw [hset]
  exact not_mem_nil

/-- The reply to the first frame is lost, and the frame is sent again. -/
def offeredTwice : List DeviceEvent :=
  [.effect 0 true, .lost, .effect 1 true] ++ replicate 101 (.fetch 2)

/-- A frame whose reply is lost is offered again, and its first key handed out twice.  Beyond the
cap other keys are held than are marked. -/
theorem prekey_handed_out_twice : (Device.after 0 (offeredTwice.take 2)).offers =
        (Device.after 0 (offeredTwice.take 2)).entry.oneTime ∧
      (Device.after 0 offeredTwice).handed.count 3 = 2 ∧ ¬ MarksRight [] (range 200) := by
  refine ⟨by decide +kernel, by decide +kernel, fun hright => ?_⟩
  have hlast := hright 199 (by decide)
  revert hlast
  decide +kernel

end SyncApp.KeyDirectory
