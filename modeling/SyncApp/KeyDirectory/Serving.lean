import SyncApp.KeyDirectory.Directory
import SyncApp.Messaging.Snowflake

/-!
# One-time keys are served once

Any number of devices publish and any number of peers fetch, one device of a user after the other.
For each entry, what was handed out followed by what is stored are entries of what was offered, in
that order.

Main results:

- `Service.served_step`: every call keeps this.
- `prekeys_served_once`: no key is handed out twice.
-/

namespace SyncApp.KeyDirectory

open Foundations Messaging List
open Function (update update_of_ne update_self)

variable {K : Type}

/-- The text of an account's number. -/
def accountID (n : Int) : KeyPart := ⟨formatInt n, bar_notMem_formatInt n⟩

/-- A one-time key that was handed out: to whom, and from which entry. -/
structure Handout (K : Type) where
  peer : Nat
  entry : String
  preKey : K

/-- The directory, the devices that peers are still going to ask for, the keys that
each device has offered so far and those that were handed out. -/
structure Service (K : Type) where
  dir : MemoryDir K
  pending : Nat → List (String × String)
  offered : KeyPart → String → List K
  handed : List (Handout K)

/-- What devices and peers do.  Accounts publish under their own identifiers; peers may
ask for anything. -/
inductive Request (K : Type) where
  | publish (now : Int) (account : KeyPart) (deviceID : String) (b : KeyPublishBody K)
  | fetch (now : Int) (peer : Nat) (userID deviceID : String)
  /-- `FetchAll` copies the list of devices. -/
  | fetchAll (peer : Nat) (userID : String)
  /-- `FetchAll` fetches the next of them. -/
  | fetchNext (now : Int) (peer : Nat)
  | forget (userID deviceID : String)

/-- What a request returns. -/
inductive Response (K : Type) where
  | state (st : DirectoryState)
  | bundle (b : Option (KeyBundleBody K))
  | none

namespace Service

variable (s : Service K)

/-- The keys that were handed out from an entry. -/
def handedFrom (entry : String) : List K :=
  (s.handed.filter fun h => h.entry = entry).map (·.preKey)

def fetch (s : Service K) (now : Int) (peer : Nat) (userID deviceID : String) :
    Response K × Service K :=
  let result := s.dir.fetch now userID deviceID
  let handout := (MemoryDir.handsOut result).map fun k => ⟨peer, key userID deviceID, k⟩
  (.bundle result.1, { s with dir := result.2, handed := s.handed ++ handout.toList })

def step : Request K → Response K × Service K
  | .publish now account deviceID b =>
    let result := s.dir.publish now account.text deviceID b
    (.state result.1,
      { s with
        dir := result.2
        offered := update s.offered account
          (update (s.offered account) deviceID (s.offered account deviceID ++ b.preKeys)) })
  | .fetch now peer userID deviceID => s.fetch now peer userID deviceID
  | .fetchAll peer userID =>
    (.none, { s with
      pending := update s.pending peer
        ((s.dir.devices userID).map fun deviceID => (userID, deviceID)) })
  | .fetchNext now peer =>
    match s.pending peer with
    | [] => (.none, s)
    | (userID, deviceID) :: rest =>
      { s with pending := update s.pending peer rest }.fetch now peer userID deviceID
  | .forget userID deviceID => (.none, { s with dir := s.dir.forgetLocked userID deviceID })

/-- An empty directory. -/
def new : Service K := ⟨.new, fun _ => [], fun _ _ => [], []⟩

abbrev after (requests : List (Request K)) : Service K := Machine.final step new requests

/-- A publish offers keys that its device has not offered before. -/
def Fresh : Request K → Prop
  | .publish _ account deviceID b => (s.offered account deviceID ++ b.preKeys).Nodup
  | _ => True

instance [DecidableEq K] (s : Service K) (r : Request K) : Decidable (s.Fresh r) := by
  unfold Fresh
  split <;> infer_instance

/-! ## What is handed out and what is stored -/

/-- What was handed out and what is stored come from what was offered, in order. -/
structure Served (s : Service K) : Prop where
  nodup : ∀ account deviceID, (s.offered account deviceID).Nodup
  queue : ∀ (account : KeyPart) deviceID,
    (s.handedFrom (key account.text deviceID) ++ s.dir.stored (key account.text deviceID)).Sublist
      (s.offered account deviceID)
  bound : ∀ entry, (s.dir.stored entry).length ≤ maxOneTimePreKeys
  /-- Only what an account has published can be handed out. -/
  owned : ∀ entry, s.handedFrom entry ≠ [] ∨ s.dir.stored entry ≠ [] →
    ∃ (account : KeyPart) (deviceID : String), entry = key account.text deviceID

lemma served_new : (new : Service K).Served where
  nodup := fun _ _ => nodup_nil
  queue := fun _ _ => List.Sublist.refl []
  bound := fun _ => Nat.zero_le _
  owned := by
    rintro entry (h | h)
    · exact absurd rfl h
    · exact absurd rfl h

variable {s : Service K}

section

variable (h : s.Served)
include h

lemma Served.shrink {dir : MemoryDir K}
    (hstored : ∀ entry, (dir.stored entry).Sublist (s.dir.stored entry))
    (pending : Nat → List (String × String)) :
    Served { s with dir := dir, pending := pending } where
  nodup := h.nodup
  queue := fun account deviceID =>
    ((hstored _).append_left _).trans (h.queue account deviceID)
  bound := fun entry => (hstored entry).length_le.trans (h.bound entry)
  owned := by
    rintro entry (hentry | hentry)
    · exact h.owned entry (.inl hentry)
    · refine h.owned entry (.inr fun hnil => hentry ?_)
      have hsub := hstored entry
      rw [hnil] at hsub
      exact sublist_nil.mp hsub

/-- A key may move from what is stored to what was handed out. -/
lemma Served.move {s' : Service K} (hoff : s'.offered = s.offered)
    (htogether : ∀ entry, s'.handedFrom entry ++ s'.dir.stored entry =
      s.handedFrom entry ++ s.dir.stored entry)
    (hless : ∀ entry, (s'.dir.stored entry).length ≤ (s.dir.stored entry).length) : s'.Served where
  nodup := hoff ▸ h.nodup
  queue := by
    intro account deviceID
    rw [htogether, hoff]
    exact h.queue account deviceID
  bound := fun entry => (hless entry).trans (h.bound entry)
  owned := by
    intro entry hentry
    refine h.owned entry ?_
    by_contra hnone
    simp only [ne_eq, not_or, not_not] at hnone
    have hnil := htogether entry
    rw [hnone.1, hnone.2, append_nil, append_eq_nil_iff] at hnil
    rcases hentry with hentry | hentry
    · exact hentry hnil.1
    · exact hentry hnil.2

lemma served_forget (userID deviceID : String) :
    Served { s with dir := s.dir.forgetLocked userID deviceID } := by
  refine h.shrink (fun entry => ?_) s.pending
  rcases eq_or_ne entry (key userID deviceID) with rfl | hne
  · rw [MemoryDir.stored_forgetLocked_self]
    exact nil_sublist _
  · rw [MemoryDir.stored_forgetLocked_other _ hne]

/-- A publish adds at the end of what was offered and of what is stored. -/
lemma served_publish (now : Int) (account : KeyPart) (deviceID : String) (b : KeyPublishBody K)
    (hfresh : s.Fresh (.publish now account deviceID b)) :
    (s.step (.publish now account deviceID b)).2.Served where
  nodup := by
    intro account' deviceID'
    simp only [step]
    rcases eq_or_ne account' account with rfl | hacct
    · rw [update_self]
      rcases eq_or_ne deviceID' deviceID with rfl | hdev
      · rw [update_self]
        exact hfresh
      · rw [update_of_ne hdev]
        exact h.nodup account' deviceID'
    · rw [update_of_ne hacct]
      exact h.nodup account' deviceID'
  queue := by
    intro account' deviceID'
    simp only [step]
    by_cases hsame : account' = account ∧ deviceID' = deviceID
    · rcases hsame with ⟨rfl, rfl⟩
      rw [update_self, update_self, MemoryDir.stored_publish_self,
        appendCapped_fst, ← append_assoc]
      refine List.Sublist.append ?_ (take_sublist _ _)
      exact (((Window.rtake_suffix _ _).sublist).append_left _).trans (h.queue account' deviceID')
    · have hentry : key account'.text deviceID' ≠ key account.text deviceID :=
        fun heq => hsame (joinKey_inj.mp heq)
      rw [MemoryDir.stored_publish_other _ _ _ hentry]
      rcases eq_or_ne account' account with rfl | hacct
      · have hdev : deviceID' ≠ deviceID := fun heq => hsame ⟨rfl, heq⟩
        rw [update_self, update_of_ne hdev]
        exact h.queue account' deviceID'
      · rw [update_of_ne hacct]
        exact h.queue account' deviceID'
  bound := by
    intro entry
    simp only [step]
    rcases eq_or_ne entry (key account.text deviceID) with rfl | hne
    · rw [MemoryDir.stored_publish_self]
      exact length_appendCapped_le _ _
    · rw [MemoryDir.stored_publish_other _ _ _ hne]
      exact h.bound entry
  owned := by
    intro entry hentry
    simp only [step] at hentry
    rcases eq_or_ne entry (key account.text deviceID) with rfl | hne
    · exact ⟨account, deviceID, rfl⟩
    · rw [MemoryDir.stored_publish_other _ _ _ hne] at hentry
      exact h.owned entry hentry

/-- A fetch moves the first stored key to what was handed out, or hands out nothing. -/
lemma served_fetch (now : Int) (peer : Nat) (userID deviceID : String) :
    (s.fetch now peer userID deviceID).2.Served := by
  have hcases := s.dir.fetch_cases now userID deviceID
  have hother := fun entry (hne : entry ≠ key userID deviceID) =>
    s.dir.stored_fetch_other now hne
  unfold fetch
  cases hcases with
  | nothing hout hstored =>
    dsimp only
    rw [hout, Option.map_none, Option.toList_none, append_nil]
    refine h.shrink (fun entry => ?_) s.pending
    rcases eq_or_ne entry (key userID deviceID) with rfl | hne
    · rcases hstored with hstored | hstored
      · rw [hstored]
      · rw [hstored]
        exact nil_sublist _
    · rw [hother entry hne]
  | @first k hout hstored =>
    dsimp only
    rw [hout, Option.map_some, Option.toList_some]
    refine h.move rfl (fun entry => ?_) (fun entry => ?_)
    · unfold handedFrom
      rw [filter_append, map_append, append_assoc]
      rcases eq_or_ne (key userID deviceID) entry with rfl | hne
      · rw [hstored, filter_singleton, decide_eq_true rfl]
        rfl
      · rw [hother entry hne.symm, filter_singleton, decide_eq_false hne]
        rfl
    · rcases eq_or_ne entry (key userID deviceID) with rfl | hne
      · rw [hstored]
        exact Nat.le_succ _
      · rw [hother entry hne]

end

theorem served_step (s : Service K) (r : Request K) (h : s.Served) (hfresh : s.Fresh r) :
    (s.step r).2.Served := by
  cases r with
  | publish => exact served_publish h _ _ _ _ hfresh
  | fetch => exact served_fetch h ..
  | fetchAll => exact h.shrink (fun _ => List.Sublist.refl _) _
  | fetchNext now peer =>
    simp only [step]
    split
    · exact h
    · exact served_fetch (h.shrink (fun _ => List.Sublist.refl _) _) now peer _ _
  | forget => exact served_forget h ..

lemma served_after {requests : List (Request K)}
    (h : Machine.Guarded step Fresh new requests) : (after requests).Served :=
  Machine.guarded_final step served_step served_new h

lemma Served.handedFrom_nodup (h : s.Served) (entry : String) : (s.handedFrom entry).Nodup := by
  by_cases hnil : s.handedFrom entry = []
  · rw [hnil]
    exact nodup_nil
  · rcases h.owned entry (.inl hnil) with ⟨account, deviceID, rfl⟩
    have hsub := (sublist_append_left _ _).trans (h.queue account deviceID)
    exact hsub.nodup (h.nodup account deviceID)

/-- The accepted keys are those that the directory holds. -/
lemma Served.accepted_eq [DecidableEq K] (h : s.Served) (now : Int) (account : KeyPart)
    (deviceID : String) (b : KeyPublishBody K)
    (hfresh : s.Fresh (.publish now account deviceID b)) :
    (s.dir.publish now account.text deviceID b).1.accepted = (b.preKeys.filter fun k =>
        k ∈ (s.dir.publish now account.text deviceID b).2.stored
          (key account.text deviceID)).length := by
  have hnew := nodup_append.mp hfresh
  have hold : ∀ k ∈ s.dir.stored (key account.text deviceID), k ∉ b.preKeys := by
    intro k hk hkey
    have hoff := (h.queue account deviceID).subset (mem_append_right _ hk)
    exact hnew.2.2 k hoff k hkey rfl
  rw [MemoryDir.accepted_publish, MemoryDir.stored_publish_self,
    filter_mem_appendCapped hnew.2.1 hold]

end Service

open Service in
/-- Along every run in which devices offer new keys: no key is handed out twice; keys are handed out
in the order of publishing; no entry holds more than its bound; and a publish reports how many of
its keys are held. -/
theorem prekeys_served_once [DecidableEq K] (requests : List (Request K))
    (h : Machine.Guarded step Fresh new requests) :
    (∀ entry, ((after requests).handedFrom entry).Nodup) ∧
      (∀ (account : KeyPart) deviceID,
        ((after requests).handedFrom (key account.text deviceID)).Sublist
          ((after requests).offered account deviceID)) ∧
      (∀ entry, ((after requests).dir.stored entry).length ≤ maxOneTimePreKeys) ∧
      ∀ now (account : KeyPart) deviceID b,
        (after requests).Fresh (.publish now account deviceID b) →
        let result := (after requests).dir.publish now account.text deviceID b
        result.1.accepted =
          (b.preKeys.filter fun k =>
            k ∈ result.2.stored (key account.text deviceID)).length := by
  have hserved := served_after h
  refine ⟨hserved.handedFrom_nodup, fun account deviceID => ?_, hserved.bound, ?_⟩
  · exact (sublist_append_left _ _).trans (hserved.queue account deviceID)
  · exact fun now account deviceID b hfresh => hserved.accepted_eq now account deviceID b hfresh

/-- Two peers fetch from one device, which publishes again in between. -/
def twoPeers : List (Request Nat) :=
  [.publish 0 (accountID 7) "phone" ⟨"id", "sig", "spk", "mac", [10, 11]⟩,
    .fetch 1 0 "7" "phone", .fetchAll 1 "7",
    .publish 2 (accountID 7) "phone" ⟨"id", "sig", "spk", "mac", [12]⟩, .fetchNext 3 1]

theorem prekeys_served_once_two_peers :
    (Service.after twoPeers).handedFrom "7|phone" = [10, 11] ∧
      ((Service.after twoPeers).handedFrom "7|phone").Nodup ∧
      ((Service.after twoPeers).dir.publish 4 "7" "phone"
        ⟨"id", "sig", "spk", "mac", [13]⟩).1.accepted = 1 := by
  have hserved := prekeys_served_once twoPeers (by decide +kernel)
  refine ⟨by decide +kernel, hserved.1 _, ?_⟩
  have hacc := hserved.2.2.2 4 (accountID 7) "phone" ⟨"id", "sig", "spk", "mac", [13]⟩
    (by decide +kernel)
  exact hacc.trans (by decide +kernel)

end SyncApp.KeyDirectory
