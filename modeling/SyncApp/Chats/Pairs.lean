import SyncApp.Chats.Store
import SyncApp.GroupCommit.Tables

/-!
# Pair chats on both stores

The calls on pair chats and memberships on the in-memory store and on
`server/internal/store/postgres`, where a call is one transaction.  Only the columns that tell chats
and members apart are kept.

Main results:

- `Store.pair_calls_agree`: the two stores answer regular calls alike.
-/

namespace SyncApp.Chats

open Foundations Machine Messaging
open Function (update)
open Messaging.Store (directKey pairKey)

structure ChatRow where
  id : String
  type : Option ChatType
  ownerID : String

abbrev Roles := String → String → Option MemberRole

def Roles.set (roles : Roles) (chatID userID : String) (role : Option MemberRole) : Roles :=
  update roles chatID (update (roles chatID) userID role)

lemma Roles.set_apply (roles : Roles) (chatID userID : String) (role : Option MemberRole)
    (c u : String) :
    roles.set chatID userID role c u = if c = chatID ∧ u = userID then role else roles c u := by
  unfold Roles.set
  by_cases hc : c = chatID
  · subst hc
    by_cases hu : u = userID
    · simp [hu]
    · simp [hu]
  · simp [hc]

inductive PairCall where
  | getOrCreatePair (type : Option ChatType) (userA userB newID : String) (now : Int)
  | getDirect (userA userB : String)
  | addMember (m : ChatMember)
  | removeMember (chatID userID : String)
  | setMemberRole (chatID userID : String) (role : MemberRole)
  | getMember (chatID userID : String)
  | listMembers (chatID : String)

/-- What a call returns.  Neither store promises an order of members, so a list of them is the
role of each account on it. -/
inductive Reply where
  | failed
  | done
  | chat (row : ChatRow)
  | role (role : MemberRole)
  | members (roleOf : String → Option MemberRole)

def Reply.of (f : α → Reply) : Option α → Reply := (·.elim .failed f)

@[simp]
lemma Reply.of_map (f : β → Reply) (g : α → β) (o : Option α) :
    of f (o.map g) = of (f ∘ g) o := by
  cases o with
  | none | some => rfl

namespace Store

def row (c : Chat) : ChatRow := ⟨c.id, some c.type, c.ownerID⟩

def roles (s : Store) : Roles := fun chatID userID =>
  ((s.membersOf chatID).lookup userID).map (·.role)

def joining (chatID userID : String) (role : MemberRole) (now : Int) : ChatMember :=
  ⟨chatID, userID, role, now, false, ⟨0, false, false⟩⟩

/-- `GetOrCreatePair`: a new chat gets both members. -/
def getOrCreatePair (s : Store) (type : Option ChatType) (userA userB newID : String)
    (now : Int) : Option Chat × Store :=
  let out := s.log.getOrCreatePair type userA userB newID now
  match s.log.directIndex (pairKey (type.getD .direct) userA userB) with
  | some _ => (out.1, s)
  | none =>
    (out.1, (addMember { s with log := out.2 } (joining newID userA .owner now)).addMember
      (joining newID userB .member now))

def serve (s : Store) : PairCall → Reply × Store
  | .getOrCreatePair type userA userB newID now =>
    let out := s.getOrCreatePair type userA userB newID now
    (.of (.chat ∘ row) out.1, out.2)
  | .getDirect userA userB =>
    (.of (.chat ∘ row) ((s.log.directIndex (directKey userA userB)).bind s.log.chats), s)
  | .addMember m => (.done, s.addMember m)
  | .removeMember chatID userID => (.done, s.removeMember chatID userID)
  | .setMemberRole chatID userID role =>
    let out := s.setMemberRole chatID userID role
    (.of (fun _ => .done) out.1.toOption, out.2)
  | .getMember chatID userID => (.of (.role ·.role) (s.getMember chatID userID).toOption, s)
  | .listMembers chatID => (.members (s.roles chatID), s)

end Store

/-- `itoa` of `atoi`: what is left of an identifier in a column. -/
def column (id : String) : String := toString (GroupCommit.atoi id)

/-- The tables `chats`, `direct_index` and `chat_members`, by their primary keys. -/
structure Tables where
  chats : String → Option ChatRow
  directIndex : String → Option String
  members : Roles

namespace Tables

variable (t : Tables)

/-- `AddMember`: nothing happens on a conflict, and the chat is a foreign key. -/
def addMember (chatID userID : String) (role : MemberRole) : Option Tables :=
  if (t.chats (column chatID)).isNone then none
  else if (t.members (column chatID) (column userID)).isSome then some t
  else some { t with members := t.members.set (column chatID) (column userID) (some role) }

/-- `GetOrCreatePair`.  The answer for a new chat says that it is direct. -/
def getOrCreatePair (type : Option ChatType) (userA userB newID : String) : Reply × Tables :=
  let key := pairKey (type.getD .direct) userA userB
  match t.directIndex key with
  | some id => (.of .chat (t.chats id), t)
  | none =>
    let id := column newID
    if (t.chats id).isSome then (.failed, t)
    else
      let created := { t with
        chats := update t.chats id (some ⟨id, type, column userA⟩)
        directIndex := update t.directIndex key (some id) }
      let seeded := created.addMember newID userA .owner >>= fun t' =>
        if userB = userA then some t' else t'.addMember newID userB .member
      (.of (fun _ => .chat ⟨newID, some .direct, userA⟩) seeded, seeded.getD t)

def serve : PairCall → Reply × Tables
  | .getOrCreatePair type userA userB newID _ => t.getOrCreatePair type userA userB newID
  | .getDirect userA userB => (.of .chat ((t.directIndex (directKey userA userB)).bind t.chats), t)
  | .addMember m =>
    let t' := t.addMember m.chatID m.userID m.role
    (.of (fun _ => .done) t', t'.getD t)
  | .removeMember chatID userID =>
    (.done, { t with members := t.members.set (column chatID) (column userID) none })
  | .setMemberRole chatID userID role =>
    if (t.members (column chatID) (column userID)).isNone then (.failed, t)
    else (.done, { t with members := t.members.set (column chatID) (column userID) (some role) })
  | .getMember chatID userID => (.of .role (t.members (column chatID) (column userID)), t)
  | .listMembers chatID => (.members (t.members (column chatID)), t)

end Tables

/-! ## Both stores -/

namespace Store

/-- The tables with the rows of the store. -/
def tables (s : Store) : Tables := ⟨Option.map row ∘ s.log.chats, s.log.directIndex, s.roles⟩

/-- A call that Postgres treats alike: a chat that it creates is direct, between two accounts and
new, and nobody joins an unknown chat or again in another role. -/
def Regular (s : Store) : PairCall → Prop
  | .getOrCreatePair type userA userB newID _ =>
    s.log.directIndex (pairKey (type.getD .direct) userA userB) = none →
      type = some .direct ∧ userA ≠ userB ∧ column userA = userA ∧ column userB = userB ∧
        column newID = newID ∧ s.log.chats newID = none ∧ s.roles newID userA = none ∧
        s.roles newID userB = none
  | .getDirect .. => True
  | .addMember m =>
    column m.chatID = m.chatID ∧ column m.userID = m.userID ∧ s.log.chats m.chatID ≠ none ∧
      ∀ role ∈ s.roles m.chatID m.userID, role = m.role
  | .removeMember chatID userID | .setMemberRole chatID userID _ | .getMember chatID userID =>
    column chatID = chatID ∧ column userID = userID
  | .listMembers chatID => column chatID = chatID

variable {s : Store} {m : ChatMember} {chatID userID : String}

lemma tables_insert : (s.setMembers chatID ((s.membersOf chatID).insert userID m)).tables =
      { s.tables with members := s.roles.set chatID userID (some m.role) } := by
  refine congrArg (Tables.mk _ _) (funext fun c => funext fun u => ?_)
  rw [Roles.set_apply]
  by_cases hc : c = chatID
  · subst hc
    by_cases hu : u = userID
    · simp [roles, ← hu]
    · simp [roles, hu]
  · simp [roles, hc]

lemma tables_removeMember : (s.removeMember chatID userID).tables =
    { s.tables with members := s.roles.set chatID userID none } := by
  have hlog : (s.removeMember chatID userID).log = s.log := by
    unfold removeMember
    split <;> rfl
  rw [tables, hlog]
  refine congrArg (Tables.mk _ _) (funext fun c => funext fun u => ?_)
  rw [Roles.set_apply]
  by_cases hc : c = chatID
  · subst hc
    by_cases hu : u = userID
    · simp [roles, membersOf_removeMember, ← hu]
    · simp [roles, membersOf_removeMember, hu]
  · simp [roles, membersOf_removeMember, hc]

lemma tables_addMember (h : s.Regular (.addMember m)) :
    s.tables.addMember m.chatID m.userID m.role = some (s.addMember m).tables := by
  rcases h with ⟨hchat, huser, hexists, hrole⟩
  have hsome : (s.tables.chats m.chatID).isNone = false := by
    simpa [tables] using Option.isSome_iff_ne_none.mpr hexists
  unfold Tables.addMember addMember
  rw [hchat, huser, hsome, if_neg Bool.false_ne_true, tables_insert]
  split
  · next hold =>
    obtain ⟨r, hr⟩ : ∃ r, s.roles m.chatID m.userID = some r := Option.isSome_iff_exists.mp hold
    rw [← hrole r hr, ← hr, Roles.set, Function.update_eq_self, Function.update_eq_self]
    rfl
  · rfl

lemma tables_addMember_both {a b : ChatMember} (ha : s.Regular (.addMember a))
    (hchat : b.chatID = a.chatID) (hb : column b.userID = b.userID)
    (hfree : s.roles a.chatID b.userID = none) (hne : a.userID ≠ b.userID) :
    (s.tables.addMember a.chatID a.userID a.role).bind
      (·.addMember b.chatID b.userID b.role) = some ((s.addMember a).addMember b).tables := by
  have hroles : (s.addMember a).roles = s.roles.set a.chatID a.userID (some a.role) :=
    congrArg Tables.members tables_insert
  rw [tables_addMember ha]
  refine tables_addMember ⟨hchat ▸ ha.1, hb, hchat ▸ ha.2.2.1, ?_⟩
  rw [hroles, hchat]
  simp [Roles.set, hne.symm, hfree]

lemma serve_tables {call : PairCall} (h : s.Regular call) :
    s.tables.serve call = ((s.serve call).1, (s.serve call).2.tables) := by
  cases call with
  | getOrCreatePair type userA userB newID now =>
    simp only [Tables.serve, serve, Tables.getOrCreatePair, getOrCreatePair,
      Messaging.Store.getOrCreatePair]
    cases hkey : s.log.directIndex (pairKey (type.getD .direct) userA userB) with
    | some id => simp [tables, hkey]
    | none =>
      rcases h hkey with ⟨rfl, hne, hA, hB, hID, hnew, hfreeA, hfreeB⟩
      have hchats : update s.tables.chats newID (some ⟨newID, some .direct, userA⟩) =
          Option.map row ∘ update s.log.chats newID
            (some ⟨newID, .direct, "", userA, now, 0, ""⟩) := by
        rw [Function.comp_update]
        rfl
      simp only [hA, hID, show s.tables.directIndex _ = _ from hkey, hne.symm, if_false]
      rw [if_neg (by simp [tables, hnew]), hchats]
      have hboth := tables_addMember_both (s := ⟨{ s.log with
          chats := update s.log.chats newID (some ⟨newID, .direct, "", userA, now, 0, ""⟩)
          directIndex := update s.log.directIndex (pairKey .direct userA userB) (some newID) },
          s.members⟩)
        (a := joining newID userA .owner now) (b := joining newID userB .member now)
        ⟨hID, hA, by simp [joining], fun _ hrole => by cases hfreeA.symm.trans hrole⟩ rfl hB
        hfreeB hne
      exact congrArg (fun t => (Reply.of (fun _ => .chat ⟨newID, some .direct, userA⟩) t,
        t.getD s.tables)) hboth
  | getDirect userA userB =>
    simp only [Tables.serve, serve, tables]
    rw [← Reply.of_map, Option.map_bind]
  | addMember m =>
    simp only [Tables.serve, tables_addMember h]
    rfl
  | removeMember chatID userID =>
    simp only [Tables.serve, h.1, h.2]
    exact congrArg (Reply.done, ·) tables_removeMember.symm
  | setMemberRole chatID userID role =>
    simp only [Tables.serve, serve, setMemberRole, h.1, h.2]
    cases hm : (s.membersOf chatID).lookup userID with
    | none =>
      rw [if_pos (by simp [tables, roles, hm])]
      rfl
    | some m =>
      rw [if_neg (by simp [tables, roles, hm])]
      rw [tables_insert]
      rfl
  | getMember chatID userID =>
    simp only [Tables.serve, serve, getMember, h.1, h.2, tables, roles]
    cases (s.membersOf chatID).lookup userID with
    | none | some => rfl
  | listMembers chatID =>
    rw [Tables.serve, show column chatID = chatID from h]
    rfl

/-- On calls that are all regular, the stores give the same answers. -/
theorem pair_calls_agree (s : Store) (calls : List PairCall) (h : Guarded serve Regular s calls) :
    outputs Tables.serve s.tables calls = outputs serve s calls := by
  refine (outputs_eq_of_simulation (R := fun s t => t = s.tables) serve ?_ rfl h).symm
  rintro s _ call rfl hcall
  rw [serve_tables hcall]
  exact ⟨rfl, rfl⟩

theorem pair_calls_agree_twice :
    let call := PairCall.getOrCreatePair (some .direct) "1" "2" "5" 0
    outputs Tables.serve new.tables [call, call] = outputs serve new [call, call] :=
  pair_calls_agree _ _
    ⟨fun _ => ⟨rfl, by decide, rfl, rfl, rfl, rfl, rfl, rfl⟩, fun h => (by cases h), trivial⟩

/-- A secret chat with oneself, where the owner is then added as an administrator. -/
theorem stores_differ :
    let calls := [.getOrCreatePair (some .secret) "1" "1" "5" 0, .getMember "5" "1",
      .addMember (joining "5" "1" .admin 0), .getMember "5" "1"]
    outputs serve new calls =
        [.chat ⟨"5", some .secret, "1"⟩, .role .member, .done, .role .admin] ∧
      outputs Tables.serve new.tables calls =
        [.chat ⟨"5", some .direct, "1"⟩, .role .owner, .done, .role .owner] :=
  ⟨rfl, rfl⟩

end Store

end SyncApp.Chats
