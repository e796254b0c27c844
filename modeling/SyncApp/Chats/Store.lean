import Mathlib.Data.List.AList
import Mathlib.Data.String.Basic
import SyncApp.Foundations.Keyset
import SyncApp.Messaging.Store

/-!
# Memberships

The part of `server/internal/store/memory` that keeps who is in a chat, with which role and
settings.  Where the source sorts what it reads off a map, so does the model.

Main results:

- `Store.listMemberIDsPage_eq`: a page of members is one of a set in order.
- `Store.filed_addMember`, `Store.filed_setMemberRole`: memberships stay filed under their accounts.
-/

namespace SyncApp.Chats

open Foundations Messaging
open AList (lookup_insert lookup_insert_ne mem_keys)

inductive MemberRole where
  | owner
  | admin
  | member
deriving DecidableEq

structure MemberFlags where
  mutedUntil : Int
  pinned : Bool
  archived : Bool

def MemberFlags.mutedAt (f : MemberFlags) (now : Int) : Bool :=
  f.mutedUntil ≠ 0 ∧ f.mutedUntil > now

structure ChatMember where
  chatID : String
  userID : String
  role : MemberRole
  joinedAt : Int
  muted : Bool
  flags : MemberFlags

abbrev Members := AList fun _ : String => ChatMember

/-- `memory.Store`, with the memberships. -/
structure Store where
  log : Messaging.Store
  members : AList fun _ : String => Members

namespace Store

def new : Store := ⟨.new, ∅⟩

variable (s : Store) (chatID : String)

/-- The members of a chat; none if it has no entry. -/
def membersOf : Members := (s.members.lookup chatID).getD ∅

def setMembers (members : Members) : Store :=
  { s with members := s.members.insert chatID members }

def memberIDs : List String := (s.membersOf chatID).keys

def getChat (id : String) : Except StoreError Chat :=
  match s.log.chats id with
  | none => .error .notFound
  | some c => .ok c

def addMember (m : ChatMember) : Store :=
  s.setMembers m.chatID ((s.membersOf m.chatID).insert m.userID m)

variable (chatID userID : String)

def removeMember : Store :=
  match s.members.lookup chatID with
  | none => s
  | some members => s.setMembers chatID (members.erase userID)

def pageLimit (limit : Int) : Nat := if limit ≤ 0 then 500 else limit.toNat

def listMemberIDsPage (chatID afterUserID : String) (limit : Int) : List String :=
  let limit := pageLimit limit
  let ids := (s.memberIDs chatID).filter (afterUserID < ·)
  let ids := ids.insertionSort (· ≤ ·)
  if ids.length > limit then ids.take limit else ids

def listMembersPage (chatID afterUserID : String) (limit : Int) : List ChatMember :=
  (s.listMemberIDsPage chatID afterUserID limit).filterMap (s.membersOf chatID).lookup

def getMember : Except StoreError ChatMember :=
  match (s.membersOf chatID).lookup userID with
  | none => .error .notFound
  | some m => .ok m

def setMemberRole (role : MemberRole) : Except StoreError Unit × Store :=
  match (s.membersOf chatID).lookup userID with
  | none => (.error .notFound, s)
  | some m => (.ok (), s.setMembers chatID ((s.membersOf chatID).insert userID { m with role }))

def countMembersWithRole (chatID : String) (role : MemberRole) : Nat :=
  (s.membersOf chatID).entries.countP fun m => m.2.role = role

variable (s : Store) (chatID : String) {limit : Nat} (chatID' userID : String)

theorem listMemberIDsPage_eq (after : String) (h : 0 < limit) :
    s.listMemberIDsPage chatID after limit =
      (Keyset.after (s.memberIDs chatID) after).take limit := by
  have hlim : pageLimit (limit : Int) = limit := by
    unfold pageLimit
    rw [if_neg (by omega), Int.toNat_natCast]
  unfold listMemberIDsPage Keyset.after
  rw [hlim]
  dsimp only
  split
  · rfl
  · next hshort => rw [List.take_of_length_le (by omega)]

lemma empty_lt {id : String} (h : id ≠ "") : "" < id := by
  rw [String.lt_iff_toList_lt]
  cases hid : id.toList with
  | nil => exact absurd (String.toList_eq_nil_iff.mp hid) h
  | cons c cs => exact List.nil_lt_cons c cs

/-- Everyone in the chat has an identifier that is not empty. -/
def Named (s : Store) : Prop := ∀ chatID, "" ∉ s.memberIDs chatID

@[simp]
lemma membersOf_setMembers (members : Members) : (s.setMembers chatID members).membersOf chatID' =
      if chatID' = chatID then members else s.membersOf chatID' := by
  unfold setMembers membersOf
  rcases eq_or_ne chatID' chatID with rfl | hne
  · rw [lookup_insert, if_pos rfl, Option.getD_some]
  · rw [lookup_insert_ne hne, if_neg hne]

lemma membersOf_addMember (m : ChatMember) : (s.addMember m).membersOf chatID' =
      if chatID' = m.chatID then (s.membersOf m.chatID).insert m.userID m
      else s.membersOf chatID' :=
  membersOf_setMembers ..

lemma membersOf_removeMember : (s.removeMember chatID userID).membersOf chatID' =
      if chatID' = chatID then (s.membersOf chatID).erase userID else s.membersOf chatID' := by
  unfold removeMember
  split
  · next hnone =>
    split
    · next heq =>
      subst heq
      simp [membersOf, hnone]
      rfl
    · rfl
  · next members hsome =>
    rw [membersOf_setMembers]
    have hmembers : s.membersOf chatID = members := by simp [membersOf, hsome]
    rw [hmembers]

lemma membersOf_setMemberRole (role : MemberRole) :
    (s.setMemberRole chatID userID role).2.membersOf chatID' =
      match (s.membersOf chatID).lookup userID with
      | none => s.membersOf chatID'
      | some m =>
        if chatID' = chatID then (s.membersOf chatID).insert userID { m with role }
        else s.membersOf chatID' := by
  unfold setMemberRole
  cases (s.membersOf chatID).lookup userID with
  | none => rfl
  | some => exact membersOf_setMembers ..

/-- Every membership is filed under its own account. -/
def Filed (s : Store) : Prop :=
  ∀ chatID userID m, (s.membersOf chatID).lookup userID = some m → m.userID = userID

lemma filed_empty (log : Messaging.Store) : Filed ⟨log, ∅⟩ := by
  intro chatID userID m hm
  simp [membersOf] at hm

theorem filed_addMember {s : Store} (h : s.Filed) (m : ChatMember) : (s.addMember m).Filed := by
  intro chatID userID m' hm'
  rw [membersOf_addMember] at hm'
  split at hm'
  · rcases eq_or_ne userID m.userID with rfl | hne
    · rw [lookup_insert] at hm'
      rw [Option.some.inj hm']
    · rw [lookup_insert_ne hne] at hm'
      exact h m.chatID userID m' hm'
  · exact h chatID userID m' hm'

theorem filed_setMemberRole {s : Store} (h : s.Filed) (chatID userID : String)
    (role : MemberRole) : (s.setMemberRole chatID userID role).2.Filed := by
  intro chatID' userID' m' hm'
  rw [membersOf_setMemberRole] at hm'
  cases hold : (s.membersOf chatID).lookup userID with
  | none =>
    rw [hold] at hm'
    exact h chatID' userID' m' hm'
  | some m =>
    rw [hold] at hm'
    dsimp only at hm'
    split at hm'
    · rcases eq_or_ne userID' userID with rfl | hne
      · rw [lookup_insert] at hm'
        rw [← Option.some.inj hm']
        exact h chatID userID' m hold
      · rw [lookup_insert_ne hne] at hm'
        exact h chatID userID' m' hm'
    · exact h chatID' userID' m' hm'

/-- A page from the start that is not full has every member. -/
lemma mem_listMembersPage (hlim : 0 < limit)
    (hshort : (s.listMembersPage chatID "" limit).length < limit) (m : ChatMember) :
    m ∈ s.listMembersPage chatID "" limit ↔
      ∃ userID, userID ≠ "" ∧ (s.membersOf chatID).lookup userID = some m := by
  have hpage := s.listMemberIDsPage_eq chatID "" hlim
  -- Every account on the page has a row, so the page of rows is as long as that of accounts.
  have hlen : (s.listMembersPage chatID "" limit).length =
      (s.listMemberIDsPage chatID "" limit).length := by
    refine List.filterMap_length_eq_length.mpr fun id hid => ?_
    rw [hpage] at hid
    rw [AList.lookup_isSome, mem_keys]
    exact (Keyset.mem_after.mp (List.mem_of_mem_take hid)).1
  have hall : (Keyset.after (s.memberIDs chatID) "").length ≤ limit := by
    rw [hlen, hpage, List.length_take] at hshort
    omega
  rw [List.take_of_length_le hall] at hpage
  simp only [listMembersPage, hpage, List.mem_filterMap, Keyset.mem_after]
  constructor
  · rintro ⟨userID, ⟨-, hlt⟩, hm⟩
    exact ⟨userID, fun heq => absurd hlt (heq ▸ lt_irrefl _), hm⟩
  · rintro ⟨userID, hne, hm⟩
    refine ⟨userID, ⟨?_, empty_lt hne⟩, hm⟩
    exact mem_keys.mp (AList.lookup_isSome.mp (by rw [hm]; rfl))

end Store
end SyncApp.Chats
