import Mathlib.Data.List.AList
import Mathlib.Data.List.DropRight
import Mathlib.Data.List.Sort
import SyncApp.Messaging.Service

/-!
# The address book

The contacts service of `server/internal/contact` over the in-memory store.  One row says both that
an account is a contact and that it is blocked, and calls about either create and delete it.

Main results:

- `means_what_was_done`: blocks are those asked for, and contacts as well if only contacts are
  unblocked.
-/

namespace SyncApp.Contacts

open Foundations List
open Messaging.Service (trimSpace)

structure Contact where
  ownerID : String
  userID : String
  name : String
  blocked : Bool
  createdAt : Int
  updatedAt : Int
deriving DecidableEq

/-- The contacts of `memory.Store`: the rows of each owner by account. -/
abbrev Store := String → AList fun _ : String => Contact

namespace Store

variable (s : Store) (ownerID userID : String)

def getContact : Option Contact := (s ownerID).lookup userID

/-- Replace the row of an owner and an account. -/
def alter (f : Option Contact → Option Contact) : Store :=
  Function.update s ownerID
    (match f (s.getContact ownerID userID) with
    | none => (s ownerID).erase userID
    | some c => (s ownerID).insert userID c)

/-- The row that a contact is written as: the time and the block of the row before it stay. -/
def upserted (c : Contact) : Option Contact → Contact
  | none => c
  | some prev => { c with createdAt := prev.createdAt, blocked := prev.blocked }

def upsertContact (c : Contact) : Store :=
  s.alter c.ownerID c.userID fun prev => some (upserted c prev)

def deleteContact : Store :=
  s.alter ownerID userID fun _ => none

/-- `ListContacts`.  Rows of one time are in the order of the map, which Go leaves open. -/
def listContacts (ownerID : String) (since : Int) (limit : Nat) : List Contact :=
  let rows := ((s ownerID).entries.map (·.2)).filter fun c => since < c.updatedAt
  (rows.insertionSort fun a b => a.updatedAt ≤ b.updatedAt).take limit

def setBlocked (blocked : Bool) (now : Int) : Store :=
  s.alter ownerID userID fun row =>
    some { row.getD ⟨ownerID, userID, "", false, now, 0⟩ with blocked, updatedAt := now }

def isBlocked : Bool :=
  ((s.getContact ownerID userID).map Contact.blocked).getD false

end Store

/-! ## The service -/

inductive ContactError where
  | badName
  | self
  | notFound

/-- The accounts: identifiers by identifier and by name. -/
structure Users where
  getUser : String → Option String
  getUserByUsername : String → Option String

def resolve (users : Users) (target : String) : Option String :=
  let target := trimSpace target
  if target = "" then none
  else
    match target.toList with
    | '@' :: username => users.getUserByUsername (String.ofList username)
    | _ => users.getUser target

def maxNameLen : Nat := 100

def syncPageSize : Nat := 500

def add (users : Users) (s : Store) (ownerID target name : String) (now : Int) :
    Except ContactError Contact × Store :=
  let name := trimSpace name
  if name.length > maxNameLen then (.error .badName, s)
  else
    match resolve users target with
    | none => (.error .notFound, s)
    | some u =>
      if u = ownerID then (.error .self, s)
      else
        let c : Contact := ⟨ownerID, u, name, false, now, now⟩
        (.ok c, s.upsertContact c)

def remove (users : Users) (s : Store) (ownerID target : String) :
    Except ContactError Unit × Store :=
  match resolve users target with
  | none => (.error .notFound, s)
  | some u =>
    if s.isBlocked ownerID u then
      -- the row stays, so that the block survives
      (.ok (), s.upsertContact ⟨ownerID, u, "", true, 0, 0⟩)
    else (.ok (), s.deleteContact ownerID u)

def setBlocked (users : Users) (s : Store) (ownerID target : String) (blocked : Bool)
    (now : Int) : Except ContactError Unit × Store :=
  match resolve users target with
  | none => (.error .notFound, s)
  | some u =>
    if u = ownerID then (.error .self, s) else (.ok (), s.setBlocked ownerID u blocked now)

variable (s : Store)

def isContact (ownerID userID : String) : Bool :=
  match s.getContact ownerID userID with
  | none => false
  | some c => !c.blocked

/-- One page of an owner's contacts changed after a time, with the next cursor. -/
def sync (ownerID : String) (since : Int) : List Contact × Int :=
  let rows := s.listContacts ownerID since (syncPageSize + 1)
  match rows.drop syncPageSize with
  | [] => (rows, rows.foldl (fun high c => max high c.updatedAt) since)
  | next :: _ =>
    let page := (rows.take syncPageSize).rdropWhile fun c => c.updatedAt = next.updatedAt
    match page.getLast? with
    | none => (rows.take syncPageSize, next.updatedAt)
    | some last => (page, last.updatedAt)

inductive Call where
  | add (ownerID target name : String) (now : Int)
  | remove (ownerID target : String)
  | setBlocked (ownerID target : String) (blocked : Bool) (now : Int)

/-- One call, with the contact that `Add` returns. -/
def serve : Users × Call → Option Contact × Store
  | (users, .add ownerID target name now) =>
    ((add users s ownerID target name now).1.toOption, (add users s ownerID target name now).2)
  | (users, .remove ownerID target) => (none, (remove users s ownerID target).2)
  | (users, .setBlocked ownerID target blocked now) =>
    (none, (setBlocked users s ownerID target blocked now).2)

/-- What an owner has said of an account: added and not removed since, and blocked. -/
structure Wish where
  added : Bool
  blocked : Bool

/-- The owner and another account. -/
def other (users : Users) (ownerID target : String) : Option (String × String) :=
  match resolve users target with
  | none => none
  | some u => if u = ownerID then none else some (ownerID, u)

/-- The owner and the account that a call acts on; none if it is refused. -/
def acts : Users × Call → Option (String × String)
  | (users, .add ownerID target name _) =>
    if (trimSpace name).length > maxNameLen then none else other users ownerID target
  | (users, .remove ownerID target) => (resolve users target).map (ownerID, ·)
  | (users, .setBlocked ownerID target _ _) => other users ownerID target

def Call.asks : Call → Wish → Wish
  | .add .., w => { w with added := true }
  | .remove .., w => { w with added := false }
  | .setBlocked _ _ blocked _, w => { w with blocked }

/-- What a call makes of the row it acts on. -/
def Call.writes (o u : String) : Call → Option Contact → Option Contact
  | .add _ _ name now, row => some (Store.upserted ⟨o, u, trimSpace name, false, now, now⟩ row)
  | .remove .., row =>
    if (row.map Contact.blocked).getD false then some (Store.upserted ⟨o, u, "", true, 0, 0⟩ row)
    else none
  | .setBlocked _ _ blocked now, row =>
    some { row.getD ⟨o, u, "", false, now, 0⟩ with blocked, updatedAt := now }

def Call.unblocks : Call → Bool
  | .setBlocked _ _ blocked _ => !blocked
  | _ => false

/-- The store, and what the owners have asked for so far. -/
structure Book where
  store : Store
  wishes : String → String → Wish

def Book.empty : Book := ⟨fun _ => ∅, fun _ _ => ⟨false, false⟩⟩

def Book.step (b : Book) (e : Users × Call) : Option Contact × Book :=
  ((serve b.store e).1,
    { store := (serve b.store e).2
      wishes := fun o u => if acts e = some (o, u) then e.2.asks (b.wishes o u) else b.wishes o u })

lemma Store.getContact_alter (o' u' o u : String)
    (f : Option Contact → Option Contact) : (s.alter o' u' f).getContact o u =
      if o' = o ∧ u' = u then f (s.getContact o u) else s.getContact o u := by
  unfold alter getContact
  rcases eq_or_ne o' o with rfl | ho
  · rcases eq_or_ne u' u with rfl | hu
    · cases f ((s o').lookup u') <;> simp
    · cases f ((s o').lookup u') <;> simp [hu, hu.symm]
  · simp [ho, Function.update_of_ne ho.symm]

lemma getContact_serve (e : Users × Call) (o u : String) :
    (serve s e).2.getContact o u =
      if acts e = some (o, u) then e.2.writes o u (s.getContact o u) else s.getContact o u := by
  rcases e with ⟨users, call⟩
  cases call with
  | add o' target name =>
    by_cases hname : (trimSpace name).length > maxNameLen
    · simp [serve, add, acts, hname]
    cases hv : resolve users target with
    | none => simp [serve, add, acts, other, hname, hv]
    | some v =>
      by_cases hself : v = o'
      · simp [serve, add, acts, other, hname, hv, hself]
      simp only [serve, add, acts, other, hname, hv, hself, Store.upsertContact,
        Store.getContact_alter, if_false, Option.some.injEq, Prod.mk.injEq]
      split_ifs with hkey
      · rw [← hkey.1, ← hkey.2]
        rfl
      · rfl
  | remove o' target =>
    cases hv : resolve users target with
    | none => simp [serve, remove, acts, hv]
    | some =>
      simp only [serve, remove, acts, hv, Option.map_some, Option.some.injEq, Prod.mk.injEq]
      split_ifs with hblock hkey hkey <;>
        simp only [Store.upsertContact, Store.deleteContact, Store.getContact_alter, hkey]
      · rw [hkey.1, hkey.2] at hblock
        exact (if_pos hblock).symm
      · rfl
      · rw [hkey.1, hkey.2] at hblock
        exact (if_neg hblock).symm
      · rfl
  | setBlocked o' target =>
    cases hv : resolve users target with
    | none => simp [serve, setBlocked, acts, other, hv]
    | some v =>
      by_cases hself : v = o'
      · simp [serve, setBlocked, acts, other, hv, hself]
      simp only [serve, setBlocked, acts, other, hv, hself, Store.setBlocked,
        Store.getContact_alter, if_false, Option.some.injEq, Prod.mk.injEq]
      split_ifs with hkey
      · rw [← hkey.1, ← hkey.2]
        rfl
      · rfl

lemma isContact_eq (o u : String) : isContact s o u = (s.getContact o u).any (!·.blocked) := by
  unfold isContact
  cases s.getContact o u with
  | none => rfl
  | some => rfl

namespace Call

variable (call : Call) (o u : String) {row : Option Contact} {w : Wish}

/-- The flag of the row that a call leaves is the one asked for. -/
lemma blocked_writes (h : (row.map Contact.blocked).getD false = w.blocked) :
    ((call.writes o u row).map Contact.blocked).getD false = (call.asks w).blocked := by
  cases call with
  | add =>
    cases row with
    | none => exact h
    | some => exact h
  | remove =>
    dsimp only [writes, asks]
    split
    · next hblock =>
      cases row with
      | none => cases hblock
      | some => exact h
    · next hblock =>
      rw [← h]
      exact (Bool.eq_false_iff.mpr hblock).symm
  | setBlocked => rfl

/-- A row is written under its owner and account. -/
lemma keyed_writes {o u : String} (h : ∀ c, row = some c → c.ownerID = o ∧ c.userID = u)
    {c : Contact} (hc : call.writes o u row = some c) : c.ownerID = o ∧ c.userID = u := by
  cases call with
  | add =>
    cases hc
    cases row with
    | none => exact ⟨rfl, rfl⟩
    | some => exact ⟨rfl, rfl⟩
  | remove =>
    dsimp only [writes] at hc
    split at hc
    · cases hc
      cases row with
      | none => exact ⟨rfl, rfl⟩
      | some => exact ⟨rfl, rfl⟩
    · cases hc
  | setBlocked =>
    cases hc
    cases row with
    | none => exact ⟨rfl, rfl⟩
    | some c => exact h c rfl

/-- The row that a call leaves is a contact's if it should be, but for an unblocked stranger. -/
lemma listed_writes_iff (hblock : (row.map Contact.blocked).getD false = w.blocked)
    (hlisted : row.any (!·.blocked) = (w.added && !w.blocked)) :
    (call.writes o u row).any (!·.blocked) = ((call.asks w).added && !(call.asks w).blocked) ↔
      (call.unblocks = true → w.added = true) := by
  cases call with
  | add o' target name now =>
    have hkept := blocked_writes (.add o' target name now) o u hblock
    refine iff_of_true ?_ nofun
    simpa [writes, asks] using hkept
  | remove =>
    refine iff_of_true ?_ nofun
    dsimp only [writes, asks]
    split
    · next hkept =>
      cases row with
      | none => cases hkept
      | some => simpa [Store.upserted] using hkept
    · rfl
  | setBlocked _ _ blocked =>
    cases blocked with
    | true => simp [writes, asks, unblocks]
    | false => simp [writes, asks, unblocks]

end Call

/-! ## Runs -/

namespace Book

/-- The blocked flags are those asked for, and every row is kept under its owner and account. -/
structure Blocks (b : Book) : Prop where
  blocked : ∀ o u, b.store.isBlocked o u = (b.wishes o u).blocked
  keyed : ∀ o u c, b.store.getContact o u = some c → c.ownerID = o ∧ c.userID = u

/-- The contacts are the accounts that were added, and not removed or blocked since. -/
def Lists (b : Book) : Prop :=
  ∀ o u, isContact b.store o u = ((b.wishes o u).added && !(b.wishes o u).blocked)

/-- An account is unblocked only while it is a contact. -/
def Unblocks (b : Book) (e : Users × Call) : Prop :=
  ∀ p ∈ acts e, e.2.unblocks = true → (b.wishes p.1 p.2).added = true

variable {b : Book} {e : Users × Call}

lemma Blocks.step (h : b.Blocks) (e : Users × Call) : (b.step e).2.Blocks := by
  constructor
  · intro o u
    unfold Store.isBlocked
    dsimp only [Book.step]
    rw [getContact_serve]
    split_ifs
    · exact e.2.blocked_writes o u (h.blocked o u)
    · exact h.blocked o u
  · intro o u c hc
    dsimp only [Book.step] at hc
    rw [getContact_serve] at hc
    split_ifs at hc
    · exact e.2.keyed_writes (h.keyed o u) hc
    · exact h.keyed o u c hc

/-- At the row a call acts on, the book stays right exactly if the call unblocks no stranger. -/
lemma lists_step_iff (hblocks : b.Blocks) (h : b.Lists) : (b.step e).2.Lists ↔ b.Unblocks e := by
  have hat : ∀ o u, acts e = some (o, u) →
      (isContact (b.step e).2.store o u =
          (((b.step e).2.wishes o u).added && !((b.step e).2.wishes o u).blocked) ↔
        (e.2.unblocks = true → (b.wishes o u).added = true)) := by
    intro o u hacts
    rw [isContact_eq]
    dsimp only [Book.step]
    rw [getContact_serve, if_pos hacts, if_pos hacts]
    exact e.2.listed_writes_iff o u (hblocks.blocked o u) ((isContact_eq ..).symm.trans (h o u))
  constructor
  · intro hlists p hp
    exact (hat p.1 p.2 hp).mp (hlists p.1 p.2)
  · intro hguard o u
    by_cases hacts : acts e = some (o, u)
    · exact (hat o u hacts).mpr (hguard (o, u) hacts)
    have hlisted := h o u
    rw [isContact_eq] at hlisted ⊢
    dsimp only [Book.step]
    rwa [getContact_serve, if_neg hacts, if_neg hacts]

lemma blocks_final (events : List (Users × Call)) :
    (Machine.final Book.step .empty events).Blocks := by
  apply Machine.invariant_final
  · exact fun b e h => h.step e
  · constructor
    · intro o u
      rfl
    · intro o u c h
      cases h

end Book

lemma mem_sync {s : Store} {ownerID : String} {since : Int} {c : Contact}
    (h : c ∈ (sync s ownerID since).1) : ∃ userID, s.getContact ownerID userID = some c := by
  have hrows : c ∈ s.listContacts ownerID since (syncPageSize + 1) := by
    unfold sync at h
    dsimp only at h
    split at h
    · exact h
    · split at h
      · exact mem_of_mem_take h
      · exact mem_of_mem_take ((List.rdropWhile_prefix _ _).subset h)
  have hmem := (mem_filter.mp (mem_insertionSort _ |>.mp (mem_of_mem_take hrows))).1
  rcases mem_map.mp hmem with ⟨⟨userID, _⟩, hentry, rfl⟩
  exact ⟨userID, AList.mem_lookup_iff.mpr hentry⟩

lemma blocked_of_serve {s : Store} {e : Users × Call} {c : Contact}
    (h : (serve s e).1 = some c) : c.blocked = false ∧ acts e = some (c.ownerID, c.userID) := by
  rcases e with ⟨_, call⟩
  cases call with
  | add =>
    dsimp only [serve, add] at h
    dsimp only [acts, other]
    split_ifs at h ⊢ with hname
    · cases h
    · split at h
      · cases h
      · next u hu =>
        split_ifs at h with hself
        · cases h
        · cases h
          simp [hself]
  | remove | setBlocked => cases h

/-- A synced contact and a contact that `Add` returns report the block of their account;
the latter only if there is none. -/
lemma reports {b : Book} (hblocks : b.Blocks) :
    (∀ o since, ∀ c ∈ (sync b.store o since).1, c.blocked = b.store.isBlocked o c.userID) ∧
      ∀ e c, (b.step e).1 = some c → (c.blocked = (b.step e).2.store.isBlocked c.ownerID c.userID ↔
          (b.wishes c.ownerID c.userID).blocked = false) := by
  constructor
  · intro o since c hc
    rcases mem_sync hc with ⟨u, hu⟩
    rw [(hblocks.keyed o u c hu).2, Store.isBlocked, hu]
    rfl
  · intro e c hc
    have hadd := blocked_of_serve hc
    rw [(hblocks.step e).blocked]
    rcases e with ⟨_, _ | _ | _⟩
    · simp [Book.step, hadd.1, hadd.2, Call.asks]
    · cases hc
    · cases hc

/-- After every sequence of calls, an account is blocked exactly if the last call about that said
so, and synced contacts say the same.  The contacts are those added, and neither removed nor blocked
since, exactly if only contacts are unblocked; `Add` reports a block only if there is none. -/
theorem means_what_was_done (events : List (Users × Call)) :
    let after := Machine.final Book.step .empty
    let b := after events
    (∀ o u, b.store.isBlocked o u = (b.wishes o u).blocked) ∧
      (∀ o since, ∀ c ∈ (sync b.store o since).1, c.blocked = b.store.isBlocked o c.userID) ∧
      ((∀ before rest, events = before ++ rest → (after before).Lists) ↔
        Machine.Guarded Book.step Book.Unblocks .empty events) ∧
      ∀ e c, (b.step e).1 = some c →
        (c.blocked = (b.step e).2.store.isBlocked c.ownerID c.userID ↔
          (b.wishes c.ownerID c.userID).blocked = false) := by
  intro after b
  have hblocks := Book.blocks_final events
  refine ⟨hblocks.blocked, (reports hblocks).1, ?_, (reports hblocks).2⟩
  refine Machine.forall_final_iff_guarded _ (fun s e h _ => Book.Blocks.step h e)
    (fun s e hb hl _ => Book.lists_step_iff hb hl) (Book.blocks_final []) ?_
    (Machine.guarded_true ..)
  intro o u
  rfl

namespace Sample

/-- Accounts whose names are their identifiers. -/
def users : Users := ⟨some, some⟩

def calls (cs : List Call) : Book := Machine.final Book.step .empty (cs.map ((users, ·)))

end Sample

open Sample in
/-- A stranger who is unblocked, and a contact who is removed while blocked and then unblocked, are
contacts; `Add` reports no block of a blocked account. -/
theorem unblocked_is_contact :
    (let b := calls [.setBlocked "alice" "bob" true 1, .setBlocked "alice" "bob" false 2]
     isContact b.store "alice" "bob" = true ∧ (b.wishes "alice" "bob").added = false) ∧
    (let b := calls [.add "alice" "bob" "Bob" 1, .setBlocked "alice" "bob" true 2,
       .remove "alice" "bob", .setBlocked "alice" "bob" false 3]
     isContact b.store "alice" "bob" = true ∧ (b.wishes "alice" "bob").added = false) ∧
    (let r := (calls [.setBlocked "alice" "bob" true 1]).step (users, .add "alice" "bob" "Bob" 2)
     r.1 = some ⟨"alice", "bob", "Bob", false, 2, 2⟩ ∧
       r.2.store.isBlocked "alice" "bob" = true) := by
  decide +kernel

end SyncApp.Contacts
