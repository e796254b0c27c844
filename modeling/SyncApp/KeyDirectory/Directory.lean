import SyncApp.Foundations.JoinedKey
import SyncApp.Foundations.Window

/-!
# The key directory

`memoryDir` of `server/internal/keydir/keydir.go`.  The one-time keys of a device are a queue with
two caps: a publish adds its first keys only, and the queue keeps the last ones.  Keys are of any
type; times are in milliseconds.

Main results:

- `appendCapped_fst`, `appendCapped_snd`: what a publish adds and reports.
- `MemoryDir.stored_publish_self`: what is stored after it.
-/

namespace SyncApp.KeyDirectory

open Foundations List
open Function (update update_of_ne update_self)

variable {K : Type}

def maxOneTimePreKeys : Nat := 256

def maxPreKeysPerPublish : Nat := 128

def entryTTL : Int := 90 * 24 * 60 * 60 * 1000

structure KeyPublishBody (K : Type) where
  identityKey : String
  signingKey : String
  signedPreKey : String
  signedPreKeySig : String
  preKeys : List K

structure KeyBundleBody (K : Type) where
  userID : String
  deviceID : String
  identityKey : String
  signingKey : String
  signedPreKey : String
  signedPreKeySig : String
  oneTimePreKey : Option K

/-- `State`: what the directory holds after a publish. -/
structure DirectoryState where
  oneTimePreKeysLeft : Nat
  accepted : Nat
  signedPreKeyFirstSeen : Option Int

structure DeviceKeys (K : Type) where
  identityKey : String
  signingKey : String
  signedPreKey : String
  signedPreKeySig : String
  spkFirstSeen : Option Int
  oneTime : List K
  expires : Option Int

/-- The entry is past its time. -/
def DeviceKeys.expired (dk : DeviceKeys K) (now : Int) : Bool :=
  match dk.expires with
  | none => false
  | some expires => expires < now

structure MemoryDir (K : Type) where
  bundles : String → Option (DeviceKeys K)
  devices : String → List String

def key (userID deviceID : String) : String := joinKey userID deviceID

def survivors (pushed left : Nat) : Nat := if pushed < left then pushed else left

/-- `appendCapped`: the first keys of the frame are added, the last ones of all
stay. -/
def appendCapped (existing incoming : List K) : List K × Nat :=
  let incoming :=
    if maxPreKeysPerPublish < incoming.length then incoming.take maxPreKeysPerPublish else incoming
  let pushed := incoming.length
  let out := Window.push maxOneTimePreKeys existing incoming
  (out, survivors pushed out.length)

/-- What a publish does to the entry of a device. -/
def DeviceKeys.publish (dk : DeviceKeys K) (now : Int) (b : KeyPublishBody K) :
    DirectoryState × DeviceKeys K :=
  let dk := { dk with identityKey := b.identityKey, signingKey := b.signingKey }
  let dk :=
    if dk.signedPreKey ≠ b.signedPreKey then
      { dk with
        signedPreKey := b.signedPreKey, signedPreKeySig := b.signedPreKeySig
        spkFirstSeen := some now }
    else { dk with signedPreKeySig := b.signedPreKeySig }
  let appended := appendCapped dk.oneTime b.preKeys
  let dk := { dk with oneTime := appended.1, expires := some (now + entryTTL) }
  (⟨dk.oneTime.length, appended.2, dk.spkFirstSeen⟩, dk)

/-- An entry before its first publish. -/
def DeviceKeys.new : DeviceKeys K := ⟨"", "", "", "", none, [], none⟩

namespace MemoryDir

def publish (d : MemoryDir K) (now : Int) (userID deviceID : String) (b : KeyPublishBody K) :
    DirectoryState × MemoryDir K :=
  let k := key userID deviceID
  let published := ((d.bundles k).getD .new).publish now b
  (published.1,
    { bundles := update d.bundles k (some published.2)
      devices :=
        if (d.bundles k).isNone then
          update d.devices userID (d.devices userID ++ [deviceID])
        else d.devices })

variable (d : MemoryDir K)

def forgetLocked (userID deviceID : String) : MemoryDir K :=
  { bundles := update d.bundles (key userID deviceID) none
    devices := update d.devices userID ((d.devices userID).erase deviceID) }

def fetch (now : Int) (userID deviceID : String) : Option (KeyBundleBody K) × MemoryDir K :=
  match d.bundles (key userID deviceID) with
  | none => (none, d)
  | some dk =>
    if dk.identityKey = "" then (none, d)
    else if dk.expired now then (none, d.forgetLocked userID deviceID)
    else
      (some
        { userID := userID, deviceID := deviceID, identityKey := dk.identityKey
          signingKey := dk.signingKey, signedPreKey := dk.signedPreKey
          signedPreKeySig := dk.signedPreKeySig, oneTimePreKey := dk.oneTime.head? },
        { d with
          bundles := update d.bundles (key userID deviceID)
            (some { dk with oneTime := dk.oneTime.tail }) })

/-- An empty directory. -/
def new : MemoryDir K := ⟨fun _ => none, fun _ => []⟩

/-- The one-time keys of an entry. -/
def stored (entry : String) : List K :=
  match d.bundles entry with
  | none => []
  | some dk => dk.oneTime

end MemoryDir

/-! ## The queue of one-time keys -/

variable (existing incoming : List K)

lemma take_cap :
    (if maxPreKeysPerPublish < incoming.length then incoming.take maxPreKeysPerPublish
      else incoming) = incoming.take maxPreKeysPerPublish := by
  split
  · rfl
  · next h => rw [take_of_length_le (Nat.le_of_not_lt h)]

lemma length_take_cap_le : (incoming.take maxPreKeysPerPublish).length ≤ maxOneTimePreKeys := by
  rw [length_take]
  exact (Nat.min_le_left _ _).trans (by decide)

/-- The queue after a publish: the first keys of the frame, behind what is still kept
of the others. -/
theorem appendCapped_fst : (appendCapped existing incoming).1 =
      existing.rtake (maxOneTimePreKeys - (incoming.take maxPreKeysPerPublish).length) ++
        incoming.take maxPreKeysPerPublish := by
  unfold appendCapped
  dsimp only
  rw [take_cap, Window.push_eq, Window.rtake_append_of_length_le (length_take_cap_le incoming)]

theorem appendCapped_snd :
    (appendCapped existing incoming).2 = (incoming.take maxPreKeysPerPublish).length := by
  have hfst := congrArg length (appendCapped_fst existing incoming)
  rw [length_append] at hfst
  unfold appendCapped at hfst ⊢
  dsimp only at hfst ⊢
  rw [take_cap] at hfst ⊢
  unfold survivors
  split
  · rfl
  · omega

lemma length_appendCapped_le : (appendCapped existing incoming).1.length ≤ maxOneTimePreKeys := by
  unfold appendCapped
  dsimp only
  rw [Window.push_eq, Window.length_rtake]
  exact Nat.min_le_left _ _

/-- The keys of a frame that are held after it, if none of them was held before. -/
lemma filter_mem_appendCapped [DecidableEq K] {existing incoming : List K}
    (hnodup : incoming.Nodup) (hnew : ∀ k ∈ existing, k ∉ incoming) :
    (incoming.filter fun k => k ∈ (appendCapped existing incoming).1) =
      incoming.take maxPreKeysPerPublish := by
  have hsplit := take_append_drop maxPreKeysPerPublish incoming
  have hfirst : ∀ k ∈ incoming.take maxPreKeysPerPublish,
      k ∈ (appendCapped existing incoming).1 := by
    intro k hk
    rw [appendCapped_fst]
    exact mem_append_right _ hk
  have hrest : ∀ k ∈ incoming.drop maxPreKeysPerPublish,
      k ∉ (appendCapped existing incoming).1 := by
    intro k hk hmem
    rw [appendCapped_fst] at hmem
    rcases mem_append.mp hmem with hkept | htake
    · exact hnew k ((Window.rtake_suffix _ _).subset hkept) (mem_of_mem_drop hk)
    · rw [← hsplit] at hnodup
      exact (nodup_append.mp hnodup).2.2 k htake k hk rfl
  generalize (appendCapped existing incoming).1 = held at hfirst hrest ⊢
  calc
    (incoming.filter fun k => k ∈ held) =
        (incoming.take maxPreKeysPerPublish ++ incoming.drop maxPreKeysPerPublish).filter
          fun k => k ∈ held := by rw [hsplit]
    _ = incoming.take maxPreKeysPerPublish :=
        Window.filter_append_left (fun k hk => decide_eq_true (hfirst k hk))
          (fun k hk => decide_eq_false (hrest k hk))

namespace DeviceKeys

variable (dk : DeviceKeys K) (now : Int) (b : KeyPublishBody K)

lemma oneTime_publish : (dk.publish now b).2.oneTime = (appendCapped dk.oneTime b.preKeys).1 := by
  unfold publish
  dsimp only
  split <;> rfl

lemma accepted_publish :
    (dk.publish now b).1.accepted = (b.preKeys.take maxPreKeysPerPublish).length := by
  rw [← appendCapped_snd dk.oneTime]
  unfold publish
  dsimp only
  split <;> rfl

end DeviceKeys

namespace MemoryDir

section

variable (d : MemoryDir K) (now : Int) (userID deviceID : String) (b : KeyPublishBody K)

theorem stored_publish_self : (d.publish now userID deviceID b).2.stored (key userID deviceID) =
      (appendCapped (d.stored (key userID deviceID)) b.preKeys).1 := by
  have hentry : d.stored (key userID deviceID) =
      ((d.bundles (key userID deviceID)).getD .new).oneTime := by
    unfold stored
    cases d.bundles (key userID deviceID) with
    | none | some => rfl
  rw [hentry]
  unfold publish stored
  dsimp only
  rw [update_self, ← DeviceKeys.oneTime_publish]

lemma accepted_publish : (d.publish now userID deviceID b).1.accepted =
      (b.preKeys.take maxPreKeysPerPublish).length :=
  DeviceKeys.accepted_publish _ now b

end

variable {deviceID entry userID : String} (d : MemoryDir K) (now : Int)

lemma stored_publish_other (b : KeyPublishBody K) (hne : entry ≠ key userID deviceID) :
    (d.publish now userID deviceID b).2.stored entry = d.stored entry := by
  unfold publish stored
  dsimp only
  rw [update_of_ne hne]

lemma stored_forgetLocked_self (userID deviceID : String) :
    (d.forgetLocked userID deviceID).stored (key userID deviceID) = [] := by
  unfold forgetLocked stored
  dsimp only
  rw [update_self]

lemma stored_forgetLocked_other (hne : entry ≠ key userID deviceID) :
    (d.forgetLocked userID deviceID).stored entry = d.stored entry := by
  unfold forgetLocked stored
  dsimp only
  rw [update_of_ne hne]

def handsOut (result : Option (KeyBundleBody K) × MemoryDir K) : Option K :=
  result.1.bind (·.oneTimePreKey)

/-- What a fetch can do to the queue of its entry. -/
inductive Fetched (d : MemoryDir K) (userID deviceID : String) :
    Option (KeyBundleBody K) × MemoryDir K → Prop where
  /-- Nothing is handed out, and the queue stays as it is or is dropped. -/
  | nothing {result : Option (KeyBundleBody K) × MemoryDir K} (hout : handsOut result = none)
      (hstored : result.2.stored (key userID deviceID) = d.stored (key userID deviceID) ∨
        result.2.stored (key userID deviceID) = []) : Fetched d userID deviceID result
  /-- The first key is handed out and leaves the queue. -/
  | first {result : Option (KeyBundleBody K) × MemoryDir K} {k : K}
      (hout : handsOut result = some k)
      (hstored : d.stored (key userID deviceID) =
        k :: result.2.stored (key userID deviceID)) : Fetched d userID deviceID result

lemma fetch_cases (userID deviceID : String) :
    Fetched d userID deviceID (d.fetch now userID deviceID) := by
  unfold fetch
  cases hentry : d.bundles (key userID deviceID) with
  | none => exact .nothing rfl (.inl rfl)
  | some dk =>
    dsimp only
    split
    · exact .nothing rfl (.inl rfl)
    split
    · exact .nothing rfl (.inr (stored_forgetLocked_self d userID deviceID))
    cases hqueue : dk.oneTime with
    | nil =>
      refine .nothing rfl (.inl ?_)
      simp [stored, hentry, hqueue]
    | cons k rest =>
      refine .first (k := k) rfl ?_
      simp [stored, hentry, hqueue]

lemma stored_fetch_other (hne : entry ≠ key userID deviceID) :
    (d.fetch now userID deviceID).2.stored entry = d.stored entry := by
  unfold fetch
  split
  · rfl
  split
  · rfl
  split
  · exact stored_forgetLocked_other d hne
  · unfold stored
    dsimp only
    rw [update_of_ne hne]

end MemoryDir
end SyncApp.KeyDirectory
