import SyncApp.Chats.Store
import SyncApp.Foundations.Interleaving
import SyncApp.Foundations.JoinedKey

/-!
# Who may do what: the cached authorization view

`authView`, `roleOf`, `invalidate` and the membership changes of `server/internal/chat/chat.go`, and
`Join` and `SetRole` of `server/internal/invite/invite.go`, one action at a time.  The invite
service has the store itself for `SetMemberRole` (`wiring.go`).  Counts of changes and the answers
are kept beside.

Main results:

- `changes_effective`: when every look-up answers with a role that was not changed before it began.
-/

namespace SyncApp.Chats

open Foundations Foundations.Interleaving List
open Messaging (ChatType Chat StoreError)
open Function (update update_of_ne update_self)

/-- `authCacheTTL`, in milliseconds. -/
def authCacheTTL : Int := 5000

def maxCachedMembers : Nat := 2000

/-- `authEntry`: a chat's authorization view, without roles for a large chat.  The last field says
after how many changes it was read. -/
structure AuthEntry where
  type : ChatType
  roles : String → Option MemberRole
  large : Bool
  expires : Int
  version : Nat

/-- `memberRole`: one user's role in a large chat, if they are a member. -/
structure MemberRoleEntry where
  role : Option MemberRole
  expires : Int
  version : Nat

/-- An answer of `roleOf`, with the last change that views had been dropped for when the call
began. -/
structure Answer where
  chatID : String
  userID : String
  floor : Nat
  role : Option MemberRole
deriving DecidableEq

/-- A node's chat service and its store. -/
structure Node where
  store : Store
  cache : String → Option AuthEntry
  roleCache : String → Option MemberRoleEntry
  clock : Int
  /-- The changes of each chat so far. -/
  writes : String → Nat
  /-- The last change of each chat that has taken effect. -/
  announced : String → Nat
  /-- The roles after each change. -/
  past : String → Nat → String → Option MemberRole
  /-- A view was stored that is older than a change its chat's views had been dropped for. -/
  late : Bool
  /-- A role was written past the chat service. -/
  bypassed : Bool
  answers : List Answer

def Store.roleIn (s : Store) (chatID userID : String) : Option MemberRole :=
  ((s.membersOf chatID).lookup userID).map ChatMember.role

namespace Node

/-- A node that has just started. -/
def new (store : Store) : Node where
  store := store
  cache := fun _ => none
  roleCache := fun _ => none
  clock := 0
  writes := fun _ => 0
  announced := fun _ => 0
  past := fun chatID _ => store.roleIn chatID
  late := false
  bypassed := false
  answers := []

variable (s : Node) (chatID : String)

/-- The cached view of a chat, unless it has expired. -/
def cachedView : Option AuthEntry :=
  match s.cache chatID with
  | none => none
  | some e => if s.clock < e.expires then some e else none

def addRole (roles : String → Option MemberRole) (m : ChatMember) : String → Option MemberRole :=
  update roles m.userID (some m.role)

def rolesOf (members : List ChatMember) : String → Option MemberRole :=
  members.foldl addRole fun _ => none

/-- The view `authView` builds: it reads one member more than it is willing to keep. -/
def readView (type : ChatType) : AuthEntry :=
  let members := s.store.listMembersPage chatID "" (maxCachedMembers + 1 : Nat)
  let large := members.length > maxCachedMembers
  { type := type
    roles := if large then fun _ => none else rolesOf members
    large := large
    expires := s.clock + authCacheTTL
    version := s.writes chatID }

def cacheView (e : AuthEntry) : Node :=
  { s with
    cache := update s.cache chatID (some e)
    late := s.late || decide (e.version < s.announced chatID) }

/-- The memoized role of a user, unless it has expired. -/
def cachedRole (key : String) : Option MemberRoleEntry :=
  match s.roleCache key with
  | none => none
  | some mr => if s.clock < mr.expires then some mr else none

/-- The role `roleOf` reads by the primary key. -/
def readRole (chatID userID : String) : MemberRoleEntry :=
  { role :=
      match s.store.getMember chatID userID with
      | .error _ => none
      | .ok m => some m.role
    expires := s.clock + authCacheTTL
    version := s.writes chatID }

def cacheRole (chatID userID : String) (mr : MemberRoleEntry) : Node :=
  { s with
    roleCache := update s.roleCache (joinKey chatID userID) (some mr)
    late := s.late || decide (mr.version < s.announced chatID) }

/-- `invalidate`, after a change. -/
def invalidate (change : Nat) : Node :=
  { s with
    cache := update s.cache chatID none
    roleCache := fun key =>
      if (chatID ++ "|").toList.isPrefixOf key.toList then none else s.roleCache key
    announced := update s.announced chatID (max (s.announced chatID) change) }

/-- A membership change reaches the store. -/
def changed (store : Store) : Node :=
  { s with
    store := store
    writes := update s.writes chatID (s.writes chatID + 1)
    past := update s.past chatID
      (update (s.past chatID) (s.writes chatID + 1) (store.roleIn chatID)) }

/-- The store's `SetMemberRole`. -/
def setMemberRole (s : Node) (chatID userID : String) (role : MemberRole) : Node :=
  match s.store.setMemberRole chatID userID role with
  | (.error _, _) => s
  | (.ok _, store) => s.changed chatID store

/-- The store's `SetMemberRole`, with no view dropped: the change has returned. -/
def bypass (chatID userID : String) (role : MemberRole) : Node :=
  match s.store.setMemberRole chatID userID role with
  | (.error _, _) => s
  | (.ok _, store) =>
    { s.changed chatID store with
      announced := update s.announced chatID (s.writes chatID + 1)
      bypassed := true }

def answer (a : Answer) : Node := { s with answers := s.answers ++ [a] }

/-- `sweepLocked`, which drops expired views and, under its ceiling, any. -/
def sweep (views roles : String → Bool) : Node :=
  { s with
    cache := fun chatID => if views chatID then none else s.cache chatID
    roleCache := fun key => if roles key then none else s.roleCache key }

/-- The process starts again. -/
def restart : Node :=
  { s with cache := fun _ => none, roleCache := fun _ => none }

end Node

/-! ## The calls -/

/-- The errors of the two services. -/
inductive AccessError where
  | store (e : StoreError)
  /-- `ErrForbidden`. -/
  | forbidden
  /-- `ErrLastOwner`. -/
  | lastOwner
  /-- `ErrInvalidLink`. -/
  | invalidLink
deriving DecidableEq

variable (chat : KeyPart)

def authView : Task Node (Except AccessError AuthEntry) :=
  .read fun s =>
    match s.cachedView chat.text with
    | some e => .done (.ok e)
    | none =>
      .read fun s =>
        match s.store.getChat chat.text with
        | .error e => .done (.error (.store e))
        | .ok c =>
          .read fun s =>
            let e := s.readView chat.text c.type
            .write (fun s => s.cacheView chat.text e) (.done (.ok e))

variable (userID : String)

/-- The part of `roleOf` that is for large chats. -/
def memberRole : Task Node MemberRoleEntry :=
  .read fun s =>
    match s.cachedRole (joinKey chat.text userID) with
    | some mr => .done mr
    | none =>
      .read fun s =>
        let mr := s.readRole chat.text userID
        .write (fun s => s.cacheRole chat.text userID mr) (.done mr)

/-- Answer a look-up. -/
def reply (floor : Nat) (type : ChatType) (role : Option MemberRole) :
    Task Node (Except AccessError (ChatType × Option MemberRole)) :=
  .write (fun s => s.answer ⟨chat.text, userID, floor, role⟩) (.done (.ok (type, role)))

/-- `roleOf`: the chat's type and the user's role, if they are a member. -/
def roleOf : Task Node (Except AccessError (ChatType × Option MemberRole)) :=
  .read fun s =>
    let floor := s.announced chat.text
    (authView chat).bind fun
      | .error e => .done (.error e)
      | .ok e =>
        if e.large then
          (memberRole chat userID).bind fun mr => reply chat userID floor e.type mr.role
        else reply chat userID floor e.type (e.roles userID)

def addMember (chat : KeyPart) (m : ChatMember) : Task Node (Except AccessError Unit) :=
  .act (fun s => s.changed chat.text (s.store.addMember { m with chatID := chat.text })) fun s =>
    .write (fun t => t.invalidate chat.text (s.writes chat.text + 1)) (.done (.ok ()))

def setMemberRole (chat : KeyPart) (userID : String) (role : MemberRole) :
    Task Node (Except AccessError Unit) :=
  .act (fun s => s.setMemberRole chat.text userID role) fun s =>
    match (s.store.setMemberRole chat.text userID role).1 with
    | .error e => .done (.error (.store e))
    | .ok _ => .write (fun t => t.invalidate chat.text (s.writes chat.text + 1)) (.done (.ok ()))

/-- `chat.Get`. -/
def getChat (chat : KeyPart) : Task Node (Except AccessError Unit) :=
  .read fun s =>
    match s.store.getChat chat.text with
    | .error e => .done (.error (.store e))
    | .ok _ => .done (.ok ())

variable (link used : Option KeyPart)

/-- `invite.Join`, given the chat `GetInvite` finds for the link and the one
`UseInvite` returns for it. -/
def join (userID : String) (now : Int) : Task Node (Except AccessError Unit) :=
  match link with
  | none => .done (.error .invalidLink)
  | some chat =>
    (roleOf chat userID).bind fun
      | .error e => .done (.error e)
      | .ok (_, some _) => getChat chat
      | .ok (_, none) =>
        match used with
        | none => .done (.error .invalidLink)
        | some chat =>
          (addMember chat ⟨chat.text, userID, .member, now, false, ⟨0, false, false⟩⟩).bind
            fun
              | .error e => .done (.error e)
              | .ok _ => getChat chat

def MemberRole.rank : MemberRole → Nat
  | .owner => 3
  | .admin => 2
  | .member => 1

def requireRole (actorID : String) (least : MemberRole) : Task Node (Except AccessError Unit) :=
  (roleOf chat actorID).bind fun
    | .error e => .done (.error e)
    | .ok (_, none) => .done (.error .forbidden)
    | .ok (_, some role) =>
      if role.rank < least.rank then .done (.error .forbidden) else .done (.ok ())

/-- The store call `invite.SetRole` ends with. -/
def writeRole (targetID : String) (role : MemberRole) : Task Node (Except AccessError Unit) :=
  .act (fun s => s.bypass chat.text targetID role) fun s =>
    match (s.store.setMemberRole chat.text targetID role).1 with
    | .error e => .done (.error (.store e))
    | .ok _ => .done (.ok ())

/-- `invite.SetRole`.  A text that names no role is `none`. -/
def setRole (actorID targetID : String) (role : Option MemberRole) :
    Task Node (Except AccessError Unit) :=
  (requireRole chat actorID .owner).bind fun
    | .error e => .done (.error e)
    | .ok _ =>
      match role with
      | none => .done (.error .forbidden)
      | some .owner => writeRole chat targetID .owner
      | some role =>
        (roleOf chat targetID).bind fun
          | .error e => .done (.error e)
          | .ok (_, none) => .done (.error .forbidden)
          | .ok (_, some .owner) =>
            .read fun s =>
              if s.store.countMembersWithRole chat.text .owner ≤ 1 then
                .done (.error .lastOwner)
              else writeRole chat targetID role
          | .ok (_, some _) => writeRole chat targetID role

/-- What a node can be asked to do, and what happens to it by itself. -/
inductive Call where
  | roleOf (chat : KeyPart) (userID : String)
  | addMember (chat : KeyPart) (m : ChatMember)
  | setMemberRole (chat : KeyPart) (userID : String) (role : MemberRole)
  | join (link used : Option KeyPart) (userID : String) (now : Int)
  | setRole (chat : KeyPart) (actorID targetID : String) (role : Option MemberRole)
  | sweep (views roles : String → Bool)
  | tick (now : Int)

/-- The calls as they run. -/
def Call.task : Call → Task Node (Except AccessError Unit)
  | .roleOf chat userID => (Chats.roleOf chat userID).bind fun r => .done (r.map fun _ => ())
  | .addMember chat m => Chats.addMember chat m
  | .setMemberRole chat userID role => Chats.setMemberRole chat userID role
  | .join link used userID now => Chats.join link used userID now
  | .setRole chat actorID targetID role => Chats.setRole chat actorID targetID role
  | .sweep views roles => .write (fun s => s.sweep views roles) (.done (.ok ()))
  | .tick now => .write (fun s => { s with clock := now }) (.done (.ok ()))

def run (store : Store) (events : List (Event Call)) : Node :=
  (Pool.after Call.task Node.restart ⟨.new store, []⟩ events).state

/-! ## What a node keeps -/

namespace Node

/-- No view was stored late and no role written past the chat service. -/
def Sound (s : Node) : Prop := s.late = false ∧ s.bypassed = false
deriving Decidable

/-- How a node may change under a call: nothing that happened is undone. -/
structure Grows (s t : Node) : Prop where
  announced : ∀ chatID, s.announced chatID ≤ t.announced chatID
  writes : ∀ chatID, s.writes chatID ≤ t.writes chatID
  past : ∀ chatID n, n ≤ s.writes chatID → t.past chatID n = s.past chatID n
  sound : t.Sound → s.Sound

lemma Grows.refl (s : Node) : s.Grows s :=
  ⟨fun _ => le_rfl, fun _ => le_rfl, fun _ _ _ => rfl, id⟩

lemma Grows.trans {s t u : Node} (hst : s.Grows t) (htu : t.Grows u) : s.Grows u where
  announced chatID := (hst.announced chatID).trans (htu.announced chatID)
  writes chatID := (hst.writes chatID).trans (htu.writes chatID)
  past chatID n hn := by
    rw [htu.past chatID n (hn.trans (hst.writes chatID)), hst.past chatID n hn]
  sound := hst.sound ∘ htu.sound

/-- A view has the roles the chat had after the change it was read after. -/
structure ViewAt (s : Node) (chatID : String) (e : AuthEntry) : Prop where
  le : e.version ≤ s.writes chatID
  roles : e.large = false → ∀ userID ≠ "", e.roles userID = s.past chatID e.version userID

structure RoleAt (s : Node) (chatID userID : String) (mr : MemberRoleEntry) : Prop where
  le : mr.version ≤ s.writes chatID
  role : mr.role = s.past chatID mr.version userID

/-- An answer is a role the user had after some change, not before the last one that had taken
effect when the call began. -/
def Current (s : Node) (a : Answer) : Prop :=
  ∃ n, a.floor ≤ n ∧ n ≤ s.writes a.chatID ∧ (a.userID ≠ "" → a.role = s.past a.chatID n a.userID)

variable {chatID userID : String} {e : AuthEntry} {mr : MemberRoleEntry} {a : Answer}
  {store : Store}

variable {s t : Node}

lemma ViewAt.mono (h : s.ViewAt chatID e) (hst : s.Grows t) : t.ViewAt chatID e where
  le := h.le.trans (hst.writes chatID)
  roles hsmall userID hne := by
    rw [hst.past chatID e.version h.le]
    exact h.roles hsmall userID hne

lemma RoleAt.mono (h : s.RoleAt chatID userID mr) (hst : s.Grows t) :
    t.RoleAt chatID userID mr where
  le := h.le.trans (hst.writes chatID)
  role := by
    rw [hst.past chatID mr.version h.le]
    exact h.role

lemma Current.mono (h : s.Current a) (hst : s.Grows t) : t.Current a := by
  rcases h with ⟨n, hfloor, hn, hrole⟩
  refine ⟨n, hfloor, hn.trans (hst.writes a.chatID), ?_⟩
  rw [hst.past a.chatID n hn]
  exact hrole

/-- What holds of a node at any time. -/
structure Consistent (s : Node) : Prop where
  filed : s.store.Filed
  present : ∀ chatID, s.past chatID (s.writes chatID) = s.store.roleIn chatID
  announced : ∀ chatID, s.announced chatID ≤ s.writes chatID
  views : ∀ chatID e, s.cache chatID = some e →
    s.ViewAt chatID e ∧ (s.Sound → s.announced chatID ≤ e.version)
  roles : ∀ (chat : KeyPart) userID mr, s.roleCache (joinKey chat.text userID) = some mr →
    s.RoleAt chat.text userID mr ∧ (s.Sound → s.announced chat.text ≤ mr.version)
  answers : s.Sound → ∀ a ∈ s.answers, s.Current a

lemma consistent_new (h : store.Filed) : (new store).Consistent where
  filed := h
  present _ := rfl
  announced _ := le_rfl
  views _ _ he := nomatch he
  roles _ _ _ hmr := nomatch hmr
  answers _ := by simp [new]

lemma foldl_addRole {members : List ChatMember} {g roles : String → Option MemberRole}
    (hg : ∀ m ∈ members, g m.userID = some m.role) (userID : String) :
    members.foldl addRole roles userID =
      if userID ∈ members.map ChatMember.userID then g userID else roles userID := by
  induction members generalizing roles with
  | nil => simp
  | cons m rest ih =>
    rw [foldl_cons, ih fun m' hm' => hg m' (mem_cons_of_mem m hm')]
    by_cases hrest : userID ∈ rest.map ChatMember.userID
    · simp [hrest]
    by_cases hself : userID = m.userID
    · rw [if_neg hrest, if_pos (by simp [hself]), hself, addRole,
        update_self, hg m mem_cons_self]
    · simp [hrest, hself, addRole]

/-- A view of a chat that is not large has every role. -/
lemma rolesOf_page (h : store.Filed)
    (hshort : (store.listMembersPage chatID "" (maxCachedMembers + 1 : Nat)).length ≤
      maxCachedMembers) (hne : userID ≠ "") :
    rolesOf (store.listMembersPage chatID "" (maxCachedMembers + 1 : Nat)) userID =
      store.roleIn chatID userID := by
  have hmem := store.mem_listMembersPage chatID (Nat.succ_pos maxCachedMembers)
    (Nat.lt_succ_of_le hshort)
  unfold rolesOf
  rw [foldl_addRole (g := store.roleIn chatID)]
  · split
    · rfl
    · next habsent =>
      -- Whoever is not on the page is no member.
      cases hlook : (store.membersOf chatID).lookup userID with
      | none => simp [Store.roleIn, hlook]
      | some m =>
        refine absurd (mem_map.mpr ⟨m, (hmem m).mpr ⟨userID, hne, hlook⟩, ?_⟩) habsent
        exact h chatID userID m hlook
  · intro m hm
    rcases (hmem m).mp hm with ⟨id, -, hid⟩
    rw [h chatID id m hid, Store.roleIn, hid, Option.map_some]

lemma Consistent.readView {s : Node} (h : s.Consistent) (chatID : String) (type : ChatType) :
    s.ViewAt chatID (s.readView chatID type) where
  le := le_rfl
  roles hsmall userID hne := by
    have hshort := of_decide_eq_false hsmall
    simp only [Node.readView, if_neg hshort]
    rw [h.present, rolesOf_page h.filed (not_lt.mp hshort) hne]

lemma Consistent.readRole {s : Node} (h : s.Consistent) (chatID userID : String) :
    s.RoleAt chatID userID (s.readRole chatID userID) where
  le := le_rfl
  role := by
    simp only [Node.readRole]
    rw [h.present, Store.getMember, Store.roleIn]
    cases (s.store.membersOf chatID).lookup userID with
    | none | some => rfl

/-! ### The actions -/

variable {s t : Node}

/-- After an action a node is still consistent if what the action stored or answered is in order;
what was there before is by itself. -/
lemma Consistent.step (h : s.Consistent) (hgrows : s.Grows t) (hfiled : t.store.Filed)
    (hpresent : ∀ chatID, t.past chatID (t.writes chatID) = t.store.roleIn chatID)
    (hann : ∀ chatID, t.announced chatID ≤ t.writes chatID)
    (hviews : ∀ chatID e, t.cache chatID = some e →
      s.cache chatID = some e ∧ (t.Sound → t.announced chatID = s.announced chatID) ∨
        s.ViewAt chatID e ∧ (t.Sound → t.announced chatID ≤ e.version))
    (hroles : ∀ (chat : KeyPart) userID mr, t.roleCache (joinKey chat.text userID) = some mr →
      s.roleCache (joinKey chat.text userID) = some mr ∧
          (t.Sound → t.announced chat.text = s.announced chat.text) ∨
        s.RoleAt chat.text userID mr ∧ (t.Sound → t.announced chat.text ≤ mr.version))
    (hans : ∀ a ∈ t.answers, a ∈ s.answers ∨ (s.Sound → s.Current a)) : t.Consistent := by
  refine ⟨hfiled, hpresent, hann, ?_, ?_, ?_⟩
  · intro chatID e he
    rcases hviews chatID e he with ⟨hold, hsame⟩ | ⟨hview, hfresh⟩
    · rcases h.views chatID e hold with ⟨hview, hfresh⟩
      refine ⟨hview.mono hgrows, fun hs => ?_⟩
      rw [hsame hs]
      exact hfresh (hgrows.sound hs)
    · exact ⟨hview.mono hgrows, hfresh⟩
  · intro chat userID mr hmr
    rcases hroles chat userID mr hmr with ⟨hold, hsame⟩ | ⟨hrole, hfresh⟩
    · rcases h.roles chat userID mr hold with ⟨hrole, hfresh⟩
      refine ⟨hrole.mono hgrows, fun hs => ?_⟩
      rw [hsame hs]
      exact hfresh (hgrows.sound hs)
    · exact ⟨hrole.mono hgrows, hfresh⟩
  · intro hs a ha
    have hpre := hgrows.sound hs
    rcases hans a ha with hold | hnew
    · exact (h.answers hpre a hold).mono hgrows
    · exact (hnew hpre).mono hgrows

lemma sound_cacheView :
    (s.cacheView chatID e).Sound ↔ s.Sound ∧ s.announced chatID ≤ e.version := by
  simp only [Sound, cacheView, Bool.or_eq_false_iff, decide_eq_false_iff_not, not_lt]
  tauto

lemma sound_cacheRole :
    (s.cacheRole chatID userID mr).Sound ↔ s.Sound ∧ s.announced chatID ≤ mr.version := by
  simp only [Sound, cacheRole, Bool.or_eq_false_iff, decide_eq_false_iff_not, not_lt]
  tauto

lemma grows_cacheView (s : Node) (chatID : String) (e : AuthEntry) :
    s.Grows (s.cacheView chatID e) :=
  ⟨fun _ => le_rfl, fun _ => le_rfl, fun _ _ _ => rfl, fun h => (sound_cacheView.mp h).1⟩

lemma grows_cacheRole (s : Node) (chatID userID : String) (mr : MemberRoleEntry) :
    s.Grows (s.cacheRole chatID userID mr) :=
  ⟨fun _ => le_rfl, fun _ => le_rfl, fun _ _ _ => rfl, fun h => (sound_cacheRole.mp h).1⟩

lemma Consistent.cacheView (h : s.Consistent) (he : s.ViewAt chatID e) :
    (s.cacheView chatID e).Consistent := by
  refine h.step (s.grows_cacheView chatID e) h.filed h.present h.announced ?_
    (fun _ _ _ hmr => .inl ⟨hmr, fun _ => rfl⟩) (fun _ ha => .inl ha)
  intro chatID' e' he'
  rcases eq_or_ne chatID' chatID with rfl | hne
  · simp only [Node.cacheView, update_self, Option.some.injEq] at he'
    subst he'
    exact .inr ⟨he, fun hs => (sound_cacheView.mp hs).2⟩
  · simp only [Node.cacheView, update_of_ne hne] at he'
    exact .inl ⟨he', fun _ => rfl⟩

lemma Consistent.cacheRole (h : s.Consistent) {chat : KeyPart}
    (hmr : s.RoleAt chat.text userID mr) : (s.cacheRole chat.text userID mr).Consistent := by
  refine h.step (s.grows_cacheRole chat.text userID mr) h.filed h.present h.announced
    (fun _ _ he => .inl ⟨he, fun _ => rfl⟩) ?_ (fun _ ha => .inl ha)
  intro chat' userID' mr' hmr'
  by_cases hkey : joinKey chat'.text userID' = joinKey chat.text userID
  · simp only [Node.cacheRole, hkey, update_self, Option.some.injEq] at hmr'
    subst hmr'
    rcases joinKey_inj.mp hkey with ⟨rfl, rfl⟩
    exact .inr ⟨hmr, fun hs => (sound_cacheRole.mp hs).2⟩
  · simp only [Node.cacheRole, update_of_ne hkey] at hmr'
    exact .inl ⟨hmr', fun _ => rfl⟩

lemma grows_answer (s : Node) (a : Answer) : s.Grows (s.answer a) :=
  ⟨fun _ => le_rfl, fun _ => le_rfl, fun _ _ _ => rfl, id⟩

lemma Consistent.answer (h : s.Consistent) (ha : s.Sound → s.Current a) :
    (s.answer a).Consistent := by
  refine h.step (s.grows_answer a) h.filed h.present h.announced
    (fun _ _ he => .inl ⟨he, fun _ => rfl⟩) (fun _ _ _ hmr => .inl ⟨hmr, fun _ => rfl⟩) ?_
  exact forall_mem_append.mpr ⟨fun _ => .inl, forall_mem_singleton.mpr (.inr ha)⟩

lemma grows_tick (s : Node) (now : Int) : s.Grows { s with clock := now } :=
  ⟨fun _ => le_rfl, fun _ => le_rfl, fun _ _ _ => rfl, id⟩

lemma Consistent.tick (h : s.Consistent) (now : Int) : Consistent { s with clock := now } :=
  h.step (s.grows_tick now) h.filed h.present h.announced
    (fun _ _ he => .inl ⟨he, fun _ => rfl⟩) (fun _ _ _ hmr => .inl ⟨hmr, fun _ => rfl⟩)
    (fun _ ha => .inl ha)

lemma grows_sweep (s : Node) (views roles : String → Bool) : s.Grows (s.sweep views roles) :=
  ⟨fun _ => le_rfl, fun _ => le_rfl, fun _ _ _ => rfl, id⟩

lemma Consistent.sweep (h : s.Consistent) (views roles : String → Bool) :
    (s.sweep views roles).Consistent := by
  refine h.step (s.grows_sweep views roles) h.filed h.present h.announced ?_ ?_
    (fun _ ha => .inl ha)
  · intro chatID e he
    exact .inl ⟨(Option.ite_none_left_eq_some.mp he).2, fun _ => rfl⟩
  · intro chat userID mr hmr
    exact .inl ⟨(Option.ite_none_left_eq_some.mp hmr).2, fun _ => rfl⟩

lemma Consistent.restart (h : s.Consistent) : s.restart.Consistent :=
  h.step ⟨fun _ => le_rfl, fun _ => le_rfl, fun _ _ _ => rfl, id⟩ h.filed h.present h.announced
    (fun _ _ he => nomatch he) (fun _ _ _ hmr => nomatch hmr) (fun _ ha => .inl ha)

/-- A key of a chat's memoized roles is one that `invalidate` drops. -/
lemma isPrefixOf_joinKey (chatID userID : String) :
    (chatID ++ "|").toList.isPrefixOf (joinKey chatID userID).toList = true := by
  have hkey : (joinKey chatID userID).toList = (chatID ++ "|").toList ++ userID.toList :=
    String.toList_append
  rw [hkey, isPrefixOf_iff_prefix]
  exact prefix_append ..

lemma grows_invalidate (s : Node) (chatID : String) (change : Nat) :
    s.Grows (s.invalidate chatID change) := by
  refine ⟨?_, fun _ => le_rfl, fun _ _ _ => rfl, id⟩
  intro chatID'
  rcases eq_or_ne chatID' chatID with rfl | hne
  · simp [Node.invalidate]
  · simp [Node.invalidate, hne]

lemma Consistent.invalidate (h : s.Consistent) {change : Nat}
    (hchange : change ≤ s.writes chatID) : (s.invalidate chatID change).Consistent := by
  refine h.step (s.grows_invalidate chatID change) h.filed h.present ?_ ?_ ?_ (fun _ ha => .inl ha)
  · intro chatID'
    rcases eq_or_ne chatID' chatID with rfl | hne
    · simpa [Node.invalidate] using ⟨h.announced chatID', hchange⟩
    · simpa [Node.invalidate, hne] using h.announced chatID'
  · intro chatID' e he
    have hne : chatID' ≠ chatID := by
      rintro rfl
      simp [Node.invalidate] at he
    simp only [Node.invalidate, update_of_ne hne] at he
    exact .inl ⟨he, fun _ => update_of_ne hne ..⟩
  · intro chat userID mr hmr
    rcases Option.ite_none_left_eq_some.mp hmr with ⟨hkey, hold⟩
    have hne : chat.text ≠ chatID := by
      rintro rfl
      exact hkey (isPrefixOf_joinKey chat.text userID)
    exact .inl ⟨hold, fun _ => update_of_ne hne ..⟩

lemma grows_changed (s : Node) (chatID : String) (store : Store) :
    s.Grows (s.changed chatID store) := by
  refine ⟨fun _ => le_rfl, ?_, ?_, id⟩
  · intro chatID'
    rcases eq_or_ne chatID' chatID with rfl | hne
    · simp [Node.changed]
    · simp [Node.changed, hne]
  · intro chatID' n hn
    rcases eq_or_ne chatID' chatID with rfl | hne
    · simp [Node.changed, update_of_ne (Nat.ne_of_lt (Nat.lt_succ_of_le hn))]
    · simp [Node.changed, hne]

lemma Consistent.changed (h : s.Consistent) (hfiled : store.Filed)
    (hfr : ∀ chatID', chatID' ≠ chatID → store.membersOf chatID' = s.store.membersOf chatID') :
    (s.changed chatID store).Consistent := by
  have hgrows := s.grows_changed chatID store
  refine h.step hgrows hfiled ?_ (fun chatID' => (h.announced chatID').trans (hgrows.writes _))
    (fun _ _ he => .inl ⟨he, fun _ => rfl⟩) (fun _ _ _ hmr => .inl ⟨hmr, fun _ => rfl⟩)
    (fun _ ha => .inl ha)
  intro chatID'
  rcases eq_or_ne chatID' chatID with rfl | hne
  · simp [Node.changed]
  have hsame : store.roleIn chatID' = s.store.roleIn chatID' := by
    funext userID
    rw [Store.roleIn, hfr chatID' hne, Store.roleIn]
  simpa [Node.changed, hne, hsame] using h.present chatID'

lemma Consistent.addMember (h : s.Consistent) {m : ChatMember} (hm : m.chatID = chatID) :
    (s.changed chatID (s.store.addMember m)).Consistent := by
  refine h.changed (Store.filed_addMember h.filed m) ?_
  intro chatID' hne
  rw [Store.membersOf_addMember, if_neg (hm ▸ hne)]

lemma Consistent.setRole (h : s.Consistent) (chatID userID : String) (role : MemberRole) :
    (s.changed chatID (s.store.setMemberRole chatID userID role).2).Consistent := by
  refine h.changed (Store.filed_setMemberRole h.filed chatID userID role) ?_
  intro chatID' hne
  rw [Store.membersOf_setMemberRole]
  cases (s.store.membersOf chatID).lookup userID with
  | none => rfl
  | some => exact if_neg hne

lemma setMemberRole_ok {role : MemberRole}
    (h : (s.store.setMemberRole chatID userID role).1 = .ok ()) :
    s.setMemberRole chatID userID role =
      s.changed chatID (s.store.setMemberRole chatID userID role).2 := by
  unfold Node.setMemberRole
  generalize s.store.setMemberRole chatID userID role = r at h
  rcases r with ⟨e, _⟩
  cases h
  rfl

lemma grows_setMemberRole (s : Node) (chatID userID : String) (role : MemberRole) :
    s.Grows (s.setMemberRole chatID userID role) := by
  unfold Node.setMemberRole
  split
  · exact .refl s
  · exact s.grows_changed ..

variable (h : s.Consistent) (chatID userID : String) (role : MemberRole)
include h

lemma Consistent.setMemberRole : (s.setMemberRole chatID userID role).Consistent := by
  have hset := h.setRole chatID userID role
  unfold Node.setMemberRole
  split
  · exact h
  · next heq =>
    rw [heq] at hset
    exact hset

/-- A role that is written past the chat service leaves the node as consistent as it can be: no
longer sound. -/
lemma Consistent.bypass :
    s.Grows (s.bypass chatID userID role) ∧ (s.bypass chatID userID role).Consistent := by
  have hset := h.setRole chatID userID role
  unfold Node.bypass
  split
  · exact ⟨.refl s, h⟩
  · next store heq =>
    rw [heq] at hset
    have hunsound : ∀ {t : Node} {p : Prop}, t.bypassed = true → t.Sound → p :=
      fun ht hs => Bool.noConfusion (ht.symm.trans hs.2)
    have hgrows := s.grows_changed chatID store
    have hann : ∀ chatID', s.announced chatID' ≤
        update s.announced chatID (s.writes chatID + 1) chatID' := by
      intro chatID'
      rcases eq_or_ne chatID' chatID with rfl | hne
      · rw [update_self]
        exact (h.announced chatID').trans (Nat.le_succ _)
      · rw [update_of_ne hne]
    refine ⟨⟨hann, hgrows.writes, hgrows.past, hunsound rfl⟩, ?_⟩
    refine hset.step ⟨hann, fun _ => le_rfl, fun _ _ _ => rfl, hunsound rfl⟩ hset.filed
      hset.present ?_ (fun _ _ he => .inl ⟨he, hunsound rfl⟩)
      (fun _ _ _ hmr => .inl ⟨hmr, hunsound rfl⟩) (fun _ ha => .inl ha)
    intro chatID'
    rcases eq_or_ne chatID' chatID with rfl | hne
    · simp [Node.changed]
    · simpa [Node.changed, hne] using h.announced chatID'

end Node

/-! ## The calls are safe -/

/-- What the calls on a node keep to. -/
def discipline : Discipline Node := ⟨Node.Consistent, Node.Grows, Node.Grows.refl, Node.Grows.trans⟩

/-- Nothing is asked of a result. -/
def anyResult {α : Type} (_ : α) (_ : Node) : Prop := True

variable {s : Node} {floor : Nat}

lemma safe_done {α : Type} {a : α} : Safe discipline anyResult (.done a) s :=
  .done fun _ _ _ => trivial

lemma cachedView_eq_some {chatID : String} {e : AuthEntry} (h : s.cachedView chatID = some e) :
    s.cache chatID = some e := by
  unfold Node.cachedView at h
  split at h
  · cases h
  · next e' he' =>
    split at h
    · rw [he', h]
    · cases h

lemma cachedRole_eq_some {key : String} {mr : MemberRoleEntry} (h : s.cachedRole key = some mr) :
    s.roleCache key = some mr := by
  unfold Node.cachedRole at h
  split at h
  · cases h
  · next mr' hmr' =>
    split at h
    · rw [hmr', h]
    · cases h

variable (chat : KeyPart) (userID actorID targetID : String) (role : MemberRole)

/-- The view `authView` returns is of the chat as it was when the call began, or later. -/
lemma safe_authView (hfloor : floor ≤ s.announced chat.text) :
    Safe discipline (fun r t => ∀ e, r = .ok e →
      t.ViewAt chat.text e ∧ (t.Sound → floor ≤ e.version)) (authView chat) s := by
  refine .read fun t hst ht => ?_
  cases hcached : t.cachedView chat.text with
  | some e =>
    -- A view that is still there is as new as every change that has taken effect.
    rcases ht.views chat.text e (cachedView_eq_some hcached) with ⟨hview, hfresh⟩
    refine .done fun u htu _ e' he' => ?_
    cases he'
    refine ⟨hview.mono htu, fun hs => ?_⟩
    exact (hfloor.trans (hst.announced chat.text)).trans (hfresh (htu.sound hs))
  | none =>
    refine .read fun u htu hu => ?_
    cases hget : u.store.getChat chat.text with
    | error => exact .done fun _ _ _ e' he' => nomatch he'
    | ok c =>
      refine .read fun v huv hv => ?_
      -- A view that is read now is as new as every change there has been.
      have hview := hv.readView chat.text c.type
      have hfresh : floor ≤ (v.readView chat.text c.type).version :=
        (hfloor.trans ((hst.trans (htu.trans huv)).announced chat.text)).trans
          (hv.announced chat.text)
      refine .write fun w hvw hw => ?_
      refine ⟨w.grows_cacheView .., hw.cacheView (hview.mono hvw), ?_⟩
      refine .done fun x hwx _ e' he' => ?_
      cases he'
      exact ⟨(hview.mono hvw).mono ((w.grows_cacheView ..).trans hwx), fun _ => hfresh⟩

lemma safe_memberRole (hfloor : floor ≤ s.announced chat.text) :
    Safe discipline (fun mr t => t.RoleAt chat.text userID mr ∧ (t.Sound → floor ≤ mr.version))
      (memberRole chat userID) s := by
  refine .read fun t hst ht => ?_
  cases hcached : t.cachedRole (joinKey chat.text userID) with
  | some mr =>
    rcases ht.roles chat userID mr (cachedRole_eq_some hcached) with ⟨hrole, hfresh⟩
    refine .done fun u htu _ => ⟨hrole.mono htu, fun hs => ?_⟩
    exact (hfloor.trans (hst.announced chat.text)).trans (hfresh (htu.sound hs))
  | none =>
    refine .read fun u htu hu => ?_
    have hrole := hu.readRole chat.text userID
    have hfresh : floor ≤ (u.readRole chat.text userID).version :=
      (hfloor.trans ((hst.trans htu).announced chat.text)).trans (hu.announced chat.text)
    refine .write fun v huv hv => ?_
    refine ⟨v.grows_cacheRole .., hv.cacheRole (hrole.mono huv), ?_⟩
    exact .done fun w hvw _ =>
      ⟨(hrole.mono huv).mono ((v.grows_cacheRole ..).trans hvw), fun _ => hfresh⟩

lemma safe_reply (floor : Nat) (type : ChatType) (role : Option MemberRole)
    (h : ∀ t, s.Grows t → t.Sound → t.Current ⟨chat.text, userID, floor, role⟩) :
    Safe discipline anyResult (reply chat userID floor type role) s :=
  .write fun t hst ht => ⟨t.grows_answer _, ht.answer (h t hst), safe_done⟩

/-- A look-up is safe among any other calls. -/
lemma safe_roleOf (s : Node) : Safe discipline anyResult (roleOf chat userID) s := by
  refine .read fun t hst ht => ?_
  refine (safe_authView chat (le_refl (t.announced chat.text))).bind fun r u htu hu hpost => ?_
  cases r with
  | error => exact safe_done
  | ok e =>
    rcases hpost e rfl with ⟨hview, hfresh⟩
    dsimp only
    split
    · next hlarge =>
      refine (safe_memberRole chat userID (htu.announced chat.text)).bind
        fun mr v huv hv hrole => ?_
      apply safe_reply
      intro w hvw hs
      refine ⟨mr.version, hrole.2 (hvw.sound hs), (hrole.1.mono hvw).le, fun _ => ?_⟩
      exact (hrole.1.mono hvw).role
    · next hsmall =>
      apply safe_reply
      intro v huv hs
      refine ⟨e.version, hfresh (huv.sound hs), (hview.mono huv).le, fun hne => ?_⟩
      exact (hview.mono huv).roles (Bool.eq_false_of_not_eq_true hsmall) userID hne

lemma safe_invalidate {change : Nat} (hchange : change ≤ s.writes chat.text) :
    Safe discipline anyResult (.write (fun t => t.invalidate chat.text change)
        (.done (.ok ())) : Task Node (Except AccessError Unit)) s :=
  .write fun t hst ht => ⟨t.grows_invalidate .., ht.invalidate (hchange.trans (hst.writes _)),
    safe_done⟩

lemma safe_addMember (m : ChatMember) (s : Node) :
    Safe discipline anyResult (addMember chat m) s := by
  intro t hst ht
  refine ⟨t.grows_changed .., ht.addMember rfl, safe_invalidate chat ?_⟩
  simp [Node.changed]

lemma safe_setMemberRole (s : Node) :
    Safe discipline anyResult (setMemberRole chat userID role) s := by
  intro t hst ht
  refine ⟨t.grows_setMemberRole .., ht.setMemberRole .., ?_⟩
  dsimp only
  cases hset : (t.store.setMemberRole chat.text userID role).1 with
  | error => exact safe_done
  | ok =>
    apply safe_invalidate
    rw [Node.setMemberRole_ok hset]
    simp [Node.changed]

lemma safe_getChat (s : Node) : Safe discipline anyResult (getChat chat) s := by
  refine .read fun t hst ht => ?_
  cases t.store.getChat chat.text with
  | error | ok => exact safe_done

lemma safe_join (userID : String) (now : Int) (s : Node) :
    Safe discipline anyResult (join link used userID now) s := by
  cases link with
  | none => exact safe_done
  | some chat =>
    refine (safe_roleOf chat userID s).bind fun r t hst ht _ => ?_
    match r, used with
    | .error e, _ => exact safe_done
    | .ok (_, some _), _ => exact safe_getChat chat t
    | .ok (_, none), none => exact safe_done
    | .ok (_, none), some chat =>
      refine (safe_addMember chat _ t).bind fun r u htu hu _ => ?_
      cases r with
      | error => exact safe_done
      | ok => exact safe_getChat chat u

lemma safe_requireRole (least : MemberRole) (s : Node) :
    Safe discipline anyResult (requireRole chat actorID least) s := by
  refine (safe_roleOf chat actorID s).bind fun r t hst ht _ => ?_
  match r with
  | .error e | .ok (_, none) => exact safe_done
  | .ok (_, some role) =>
    dsimp only
    split
    · exact safe_done
    · exact safe_done

lemma safe_writeRole (s : Node) : Safe discipline anyResult (writeRole chat targetID role) s := by
  intro t hst ht
  rcases ht.bypass chat.text targetID role with ⟨hgrows, hcons⟩
  refine ⟨hgrows, hcons, ?_⟩
  dsimp only
  cases (t.store.setMemberRole chat.text targetID role).1 with
  | error | ok => exact safe_done

lemma safe_setRole (role : Option MemberRole) (s : Node) :
    Safe discipline anyResult (setRole chat actorID targetID role) s := by
  refine (safe_requireRole chat actorID .owner s).bind fun r t hst ht _ => ?_
  cases r with
  | error => exact safe_done
  | ok =>
    rcases role with _ | (_ | _ | _)
    case none => exact safe_done
    case some.owner => exact safe_writeRole _ _ _ _
    case some.admin | some.member =>
      -- The target is looked up, and the owners are counted if the target is one.
      refine (safe_roleOf chat targetID t).bind fun r u htu hu _ => ?_
      match r with
      | .error e | .ok (_, none) => exact safe_done
      | .ok (_, some .owner) =>
        refine .read fun v huv hv => ?_
        split
        · exact safe_done
        · exact safe_writeRole _ _ _ _
      | .ok (_, some .admin) | .ok (_, some .member) => exact safe_writeRole _ _ _ _

lemma safe_task (call : Call) (s : Node) : Safe discipline anyResult call.task s := by
  cases call with
  | roleOf => exact (safe_roleOf _ _ s).bind fun _ _ _ _ _ => safe_done
  | addMember chat m => exact safe_addMember chat m s
  | setMemberRole => exact safe_setMemberRole _ _ _ s
  | join => exact safe_join _ _ _ _ s
  | setRole => exact safe_setRole _ _ _ _ s
  | sweep => exact .write fun t hst ht => ⟨t.grows_sweep .., ht.sweep .., safe_done⟩
  | tick => exact .write fun t hst ht => ⟨t.grows_tick .., ht.tick .., safe_done⟩

lemma consistent_run {store : Store} (hstore : store.Filed) (events : List (Event Call)) :
    (run store events).Consistent := by
  have hstart : Pool.Safe discipline anyResult
      (⟨.new store, []⟩ : Pool Node (Except AccessError Unit)) :=
    ⟨Node.consistent_new hstore, by simp⟩
  exact (safe_final safe_task (fun _ h => h.restart) hstart events).inv

/-- Unless a view is stored late or a role is written past the chat service, no look-up answers with
a role older than the last change in effect when it began. -/
theorem changes_effective {store : Store} (hstore : store.Filed) (events : List (Event Call))
    (hs : (run store events).Sound) (a : Answer) (ha : a ∈ (run store events).answers) :
    ∃ n, a.floor ≤ n ∧ n ≤ (run store events).writes a.chatID ∧
      (a.userID ≠ "" → a.role = (run store events).past a.chatID n a.userID) :=
  (consistent_run hstore events).answers hs a ha

/-- A group with an owner and an admin. -/
def sampleStore : Store :=
  let chat : Chat := ⟨"g", .group, "", "o", 0, 0, ""⟩
  let log := { Messaging.Store.new with chats := fun id => if id = "g" then some chat else none }
  let member (userID : String) (role : MemberRole) : ChatMember :=
    ⟨"g", userID, role, 0, false, ⟨0, false, false⟩⟩
  ((⟨log, ∅⟩ : Store).addMember (member "o" .owner)).addMember (member "a" .admin)

lemma filed_sampleStore : sampleStore.Filed :=
  Store.filed_addMember (Store.filed_addMember (Store.filed_empty _) _) _

def sampleChat : KeyPart := ⟨"g", by decide⟩

/-- A call that runs to its end with nothing in between. -/
def whole (index : Nat) (call : Call) : List (Event Call) :=
  .start call :: replicate 20 (.run index)

theorem changes_effective_demotion :
    let events := whole 0 (.roleOf sampleChat "a") ++
      whole 1 (.setMemberRole sampleChat "a" .member) ++ whole 2 (.roleOf sampleChat "a")
    let a : Answer := ⟨"g", "a", 1, some .member⟩
    a ∈ (run sampleStore events).answers ∧ ∃ n, a.floor ≤ n ∧
      n ≤ (run sampleStore events).writes a.chatID ∧
      (a.userID ≠ "" → a.role = (run sampleStore events).past a.chatID n a.userID) := by
  refine ⟨by decide +kernel, ?_⟩
  exact changes_effective filed_sampleStore _ (by decide +kernel) _ (by decide +kernel)

/-- The owner demotes the admin through the invite service, between two look-ups. -/
def inviteDemotion : List (Event Call) :=
  whole 0 (.roleOf sampleChat "a") ++
    whole 1 (.setRole sampleChat "o" "a" (some .member)) ++ whole 2 (.roleOf sampleChat "a")

/-- The admin is demoted through the chat service while a look-up has read the view but not yet
stored it. -/
def overtaken : List (Event Call) :=
  (.start (.roleOf sampleChat "a") :: replicate 4 (.run 0)) ++
    whole 1 (.setMemberRole sampleChat "a" .member) ++ replicate 20 (.run 0) ++
    whole 2 (.roleOf sampleChat "a")

/-- A role that the invite service has set, and one whose change a slow look-up overtook, are not
seen by later look-ups. -/
theorem stale_roles : let stale : Answer := ⟨"g", "a", 1, some .admin⟩
    (stale ∈ (run sampleStore inviteDemotion).answers ∧
      (run sampleStore inviteDemotion).writes "g" = 1 ∧
      (run sampleStore inviteDemotion).past "g" 1 "a" = some .member) ∧
    (stale ∈ (run sampleStore overtaken).answers ∧ (run sampleStore overtaken).writes "g" = 1 ∧
      (run sampleStore overtaken).past "g" 1 "a" = some .member) := by
  decide +kernel

end SyncApp.Chats
