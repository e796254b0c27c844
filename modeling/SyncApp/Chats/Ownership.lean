import SyncApp.Chats.Authorization

/-!
# The last owner of a chat

`SetRole` refuses to demote the last owner.  It takes the role of its target from the cached view
and the number of owners from the store, and drops no view when it has written.

Main results:

- `last_owner_kept`: calls that do not overlap and find fresh views leave an owner.
-/

namespace SyncApp.Chats

open Foundations Foundations.Interleaving List Function
open Messaging (ChatType)

/-! ## Owners -/

variable (s : Store)

/-- The chat has an owner. -/
def Store.Headed (chatID : String) : Prop :=
  ∃ userID, s.roleIn chatID userID = some .owner

lemma Store.roleIn_setMemberRole (chatID userID : String) (role : MemberRole)
    (chatID' userID' : String) : (s.setMemberRole chatID userID role).2.roleIn chatID' userID' =
      if chatID' = chatID ∧ userID' = userID then (s.roleIn chatID userID).map fun _ => role
      else s.roleIn chatID' userID' := by
  unfold Store.roleIn
  rw [membersOf_setMemberRole]
  cases hold : (s.membersOf chatID).lookup userID with
  | none =>
    dsimp only
    split_ifs with hsame
    · rw [hsame.1, hsame.2, hold]
      rfl
    · rfl
  | some =>
    by_cases hchat : chatID' = chatID
    · rcases eq_or_ne userID' userID with rfl | huser
      · simp [hchat]
      · simp [hchat, huser]
    · simp [hchat]

lemma Store.other_owner {s : Store} {chatID : String}
    (h : 1 < s.countMembersWithRole chatID .owner) (userID : String) :
    ∃ other ≠ userID, s.roleIn chatID other = some .owner := by
  have howner : ∀ m ∈ (s.membersOf chatID).entries.filter fun m => m.2.role = .owner,
      s.roleIn chatID m.1 = some .owner := by
    intro m hm
    rcases mem_filter.mp hm with ⟨hmem, hrole⟩
    rw [roleIn, AList.mem_lookup_iff.mpr hmem, Option.map_some, of_decide_eq_true hrole]
  have hkeys : ((s.membersOf chatID).entries.filter fun m => m.2.role = .owner).NodupKeys :=
    (s.membersOf chatID).nodupKeys.sublist filter_sublist
  unfold countMembersWithRole at h
  rw [countP_eq_length_filter] at h
  generalize (s.membersOf chatID).entries.filter _ = owners at h howner hkeys
  rcases owners with _ | ⟨a, _ | ⟨b, rest⟩⟩
  · simp at h
  · simp at h
  · by_cases ha : a.1 = userID
    · refine ⟨b.1, fun hb => ?_, howner b (by simp)⟩
      exact (nodupKeys_cons.mp hkeys).1 (by simp [ha, hb])
    · exact ⟨a.1, ha, howner a (by simp)⟩

/-- The target of a change becomes an owner, is none, or is not the only one. -/
def MayWrite (chat : KeyPart) (targetID : String) (role : MemberRole) : Prop :=
  role = .owner ∨ (∃ r ≠ MemberRole.owner, s.roleIn chat.text targetID = some r) ∨
    ∃ other ≠ targetID, s.roleIn chat.text other = some .owner

lemma Store.Headed.setMemberRole {s : Store} {chatID targetID : String} {chat : KeyPart}
    {role : MemberRole} (h : s.Headed chatID) (hmay : MayWrite s chat targetID role) :
    (s.setMemberRole chat.text targetID role).2.Headed chatID := by
  rcases h with ⟨owner, howner⟩
  by_cases hsame : chatID = chat.text ∧ owner = targetID
  · rcases hsame with ⟨rfl, rfl⟩
    rcases hmay with rfl | ⟨r, hne, hr⟩ | ⟨other, hne, hother⟩
    · exact ⟨owner, by rw [roleIn_setMemberRole, if_pos ⟨rfl, rfl⟩, howner]; rfl⟩
    · exact absurd (Option.some.inj (hr.symm.trans howner)) hne
    · exact ⟨other, by rw [roleIn_setMemberRole, if_neg fun heq => hne heq.2, hother]⟩
  · exact ⟨owner, by rw [roleIn_setMemberRole, if_neg hsame, howner]⟩

def Store.Has (chat : KeyPart) (userID : String) (role : Option MemberRole) : Prop :=
  ∀ r, role = some r → s.roleIn chat.text userID = some r

/-- No view of the chat that has not expired gives a member another role than the stored one. -/
structure Node.Fresh (s : Node) (chat : KeyPart) : Prop where
  views : ∀ e, s.cachedView chat.text = some e → e.large = false →
    ∀ userID, s.store.Has chat userID (e.roles userID)
  roles : ∀ userID mr, s.cachedRole (joinKey chat.text userID) = some mr →
    s.store.Has chat userID mr.role

namespace Node

variable {s : Node} {chat : KeyPart} {userID : String}

lemma has_readView (hfiled : s.store.Filed) (type : ChatType) (chat : KeyPart)
    (hsmall : (s.readView chat.text type).large = false) (userID : String) :
    s.store.Has chat userID ((s.readView chat.text type).roles userID) := by
  intro r hr
  simp only [readView, if_neg (of_decide_eq_false hsmall), rolesOf] at hr
  rw [foldl_addRole (g := s.store.roleIn chat.text)] at hr
  · split at hr
    · exact hr
    · cases hr
  · intro m hm
    rcases mem_filterMap.mp hm with ⟨id, -, hid⟩
    rw [hfiled chat.text id m hid, Store.roleIn, hid, Option.map_some]

lemma has_readRole (s : Node) (chat : KeyPart) (userID : String) :
    s.store.Has chat userID (s.readRole chat.text userID).role := by
  unfold Store.Has readRole Store.getMember Store.roleIn
  cases (s.store.membersOf chat.text).lookup userID with
  | none | some => simp

lemma Fresh.cacheView (h : s.Fresh chat) {e : AuthEntry}
    (he : e.large = false → ∀ userID, s.store.Has chat userID (e.roles userID)) :
    (s.cacheView chat.text e).Fresh chat := by
  refine ⟨fun e' he' => ?_, h.roles⟩
  have hcached : update s.cache chat.text (some e) chat.text = some e' :=
    cachedView_eq_some he'
  rw [update_self, Option.some.injEq] at hcached
  exact hcached ▸ he

lemma Fresh.cacheRole (h : s.Fresh chat) {mr : MemberRoleEntry}
    (hmr : s.store.Has chat userID mr.role) : (s.cacheRole chat.text userID mr).Fresh chat := by
  refine ⟨h.views, fun userID' mr' hmr' => ?_⟩
  have hcached : update s.roleCache (joinKey chat.text userID) (some mr)
      (joinKey chat.text userID') = some mr' := cachedRole_eq_some hmr'
  rcases eq_or_ne userID' userID with rfl | hne
  · rw [update_self, Option.some.injEq] at hcached
    exact hcached ▸ hmr
  have hkey : joinKey chat.text userID' ≠ joinKey chat.text userID :=
    fun heq => hne (joinKey_inj.mp heq).2
  unfold cachedRole Node.cacheRole at hmr'
  dsimp only at hmr'
  rw [update_of_ne hkey] at hmr'
  exact h.roles userID' mr' hmr'

end Node

/-! ## The calls -/

/-- The members are filed as they should, and no view of the chat says anything else. -/
structure Node.Sure (s : Node) (chat : KeyPart) : Prop where
  filed : s.store.Filed
  fresh : s.Fresh chat

/-- What a call that only looks does: the store is as it was, and fresh views stay fresh. -/
structure Looks (s : Node) (chat : KeyPart) (t : Node) : Prop where
  store : t.store = s.store
  fresh : s.Sure chat → t.Fresh chat

section Calls

variable {s t : Node} {chat : KeyPart} {userID : String}

lemma Looks.refl (s : Node) (chat : KeyPart) : Looks s chat s := ⟨rfl, Node.Sure.fresh⟩

lemma ensures_authView (h : Looks s chat t) :
    Ensures (Looks s chat) (fun r u => Looks s chat u ∧ (s.Sure chat → ∀ e, r = .ok e →
      e.large = false → ∀ userID, s.store.Has chat userID (e.roles userID))) (authView chat) t := by
  refine .read h ?_
  cases hcached : t.cachedView chat.text with
  | some e =>
    refine ⟨h, fun hsure e' he' => ?_⟩
    cases he'
    exact h.store ▸ (h.fresh hsure).views e hcached
  | none =>
    refine .read h ?_
    cases t.store.getChat chat.text with
    | error => exact ⟨h, fun _ e' he' => by cases he'⟩
    | ok c =>
      have hread : s.Sure chat → _ := fun hsure =>
        Node.has_readView (h.store ▸ hsure.filed) c.type chat
      have hlooks : Looks s chat (t.cacheView chat.text (t.readView chat.text c.type)) :=
        ⟨h.store, fun hsure => (h.fresh hsure).cacheView (hread hsure)⟩
      refine .read h (.write hlooks ⟨hlooks, fun hsure e' he' => ?_⟩)
      cases he'
      exact h.store ▸ hread hsure

lemma ensures_memberRole (h : Looks s chat t) (userID : String) :
    Ensures (Looks s chat) (fun mr u => Looks s chat u ∧
      (s.Sure chat → s.store.Has chat userID mr.role)) (memberRole chat userID) t := by
  refine .read h ?_
  cases hcached : t.cachedRole (joinKey chat.text userID) with
  | some mr => exact ⟨h, fun hsure => h.store ▸ (h.fresh hsure).roles userID mr hcached⟩
  | none =>
    have hread := t.has_readRole chat userID
    have hlooks : Looks s chat (t.cacheRole chat.text userID (t.readRole chat.text userID)) :=
      ⟨h.store, fun hsure => (h.fresh hsure).cacheRole hread⟩
    exact .read h (.write hlooks ⟨hlooks, fun _ => h.store ▸ hread⟩)

/-- A look-up among fresh views answers with the stored role. -/
lemma ensures_roleOf (h : Looks s chat t) (userID : String) :
    Ensures (Looks s chat) (fun r u => Looks s chat u ∧ (s.Sure chat → ∀ type role,
      r = .ok (type, role) → s.store.Has chat userID role)) (roleOf chat userID) t := by
  have hreply : ∀ (floor : Nat) (type : ChatType) (role : Option MemberRole) (u : Node),
      Looks s chat u → (s.Sure chat → s.store.Has chat userID role) →
      Ensures (Looks s chat) (fun r u => Looks s chat u ∧ (s.Sure chat → ∀ type role,
        r = .ok (type, role) → s.store.Has chat userID role))
        (reply chat userID floor type role) u := by
    intro floor type role u hu hrole
    have hlooks : Looks s chat (u.answer ⟨chat.text, userID, floor, role⟩) :=
      ⟨hu.store, fun hsure => ⟨(hu.fresh hsure).views, (hu.fresh hsure).roles⟩⟩
    refine .write hlooks ⟨hlooks, fun hsure type' role' hr => ?_⟩
    cases hr
    exact hrole hsure
  refine .read h ((ensures_authView h).bind fun r u hu => ?_)
  cases r with
  | error => exact ⟨hu.1, fun _ _ _ hr => by cases hr⟩
  | ok e =>
    dsimp only
    split
    · exact (ensures_memberRole hu.1 userID).bind fun mr v hv => hreply _ _ _ v hv.1 hv.2
    · next hsmall =>
      exact hreply _ _ _ u hu.1 fun hsure =>
        hu.2 hsure e rfl (Bool.eq_false_of_not_eq_true hsmall) userID

lemma ensures_requireRole (s : Node) (chat : KeyPart) (actorID : String) (least : MemberRole) :
    Ensures (Looks s chat) (fun r u => Looks s chat u ∧ (s.Sure chat → r = .ok () →
      ∃ role, s.store.roleIn chat.text actorID = some role ∧ least.rank ≤ role.rank))
      (requireRole chat actorID least) s := by
  refine (ensures_roleOf (.refl s chat) actorID).bind fun r u hu => ?_
  match r with
  | .error e | .ok (_, none) => exact ⟨hu.1, fun _ hr => by cases hr⟩
  | .ok (_, some role) =>
    dsimp only
    split
    · exact ⟨hu.1, fun _ hr => by cases hr⟩
    · next hrank =>
      exact ⟨hu.1, fun hsure _ => ⟨role, hu.2 hsure _ _ rfl role rfl, not_lt.mp hrank⟩⟩

/-- What holds while the call looks, and after the one write it may make, holds with each action.
Among fresh views it succeeds only for an owner and leaves one. -/
lemma ensures_setRole {inv : Node → Prop} {targetID : String}
    (hlooks : ∀ t, Looks s chat t → inv t)
    (hwrites : ∀ t role, Looks s chat t → (s.Sure chat → MayWrite s.store chat targetID role) →
      inv (t.bypass chat.text targetID role)) (actorID : String) (role : Option MemberRole) :
    Ensures inv (fun r t => inv t ∧ (s.Sure chat → r = .ok () →
      s.store.roleIn chat.text actorID = some .owner)) (setRole chat actorID targetID role) s := by
  refine ((ensures_requireRole s chat actorID .owner).mono hlooks fun _ _ => id).bind
    fun r t ht => ?_
  cases r with
  | error => exact ⟨hlooks t ht.1, fun _ hr => by cases hr⟩
  | ok =>
    have howner : s.Sure chat → s.store.roleIn chat.text actorID = some .owner := by
      intro hsure
      rcases ht.2 hsure rfl with ⟨role, hrole, hrank⟩
      cases role with
      | owner => exact hrole
      | admin | member => exact absurd hrank (by decide)
    have hwrite : ∀ (role : MemberRole) u, Looks s chat u →
        (s.Sure chat → MayWrite s.store chat targetID role) →
        Ensures inv (fun r t => inv t ∧ (s.Sure chat → r = .ok () →
          s.store.roleIn chat.text actorID = some .owner)) (writeRole chat targetID role) u := by
      intro role u hu hmay
      refine ⟨hwrites u role hu hmay, ?_⟩
      dsimp only
      cases (u.store.setMemberRole chat.text targetID role).1 with
      | error => exact ⟨hwrites u role hu hmay, fun _ hr => by cases hr⟩
      | ok => exact ⟨hwrites u role hu hmay, fun hsure _ => howner hsure⟩
    rcases role with _ | (_ | _ | _)
    case none => exact ⟨hlooks t ht.1, fun _ hr => by cases hr⟩
    case some.owner => exact hwrite .owner t ht.1 fun _ => .inl rfl
    case some.admin | some.member =>
      -- The target is looked up, and the owners are counted if the target is one.
      refine ((ensures_roleOf ht.1 targetID).mono hlooks fun _ _ => id).bind fun r u hu => ?_
      match r with
      | .error e | .ok (_, none) => exact ⟨hlooks u hu.1, fun _ hr => by cases hr⟩
      | .ok (_, some .owner) =>
        refine .read (hlooks u hu.1) ?_
        split
        · exact ⟨hlooks u hu.1, fun _ hr => by cases hr⟩
        · next hcnt =>
          rw [hu.1.store] at hcnt
          exact hwrite _ u hu.1 fun _ =>
            .inr (.inr (Store.other_owner (not_le.mp hcnt) targetID))
      | .ok (type, some .admin) =>
        exact hwrite _ u hu.1 fun hsure =>
          .inr (.inl ⟨.admin, by decide, hu.2 hsure _ _ rfl .admin rfl⟩)
      | .ok (type, some .member) =>
        exact hwrite _ u hu.1 fun hsure =>
          .inr (.inl ⟨.member, by decide, hu.2 hsure _ _ rfl .member rfl⟩)

lemma bypass_store (s : Node) (chatID userID : String) (role : MemberRole) :
    (s.bypass chatID userID role).store = (s.store.setMemberRole chatID userID role).2 := by
  unfold Node.bypass Store.setMemberRole
  cases (s.store.membersOf chatID).lookup userID with
  | none | some => rfl

end Calls

/-! ## One call after the other -/

/-- A call that runs to its end. -/
def serve (s : Node) (call : Call) : Except AccessError Unit × Node := call.task.alone s

/-- Nobody joins or is changed past the invite service, whose calls begin among fresh views. -/
def Careful (s : Node) : Call → Prop
  | .setRole chat _ _ _ => s.Fresh chat
  | .roleOf _ _ | .sweep _ _ | .tick _ => True
  | .addMember _ _ | .setMemberRole _ _ _ | .join _ _ _ _ => False

/-- The members are filed as they should, and the chat has an owner. -/
structure Kept (chatID : String) (s : Node) : Prop where
  filed : s.store.Filed
  headed : s.store.Headed chatID

variable {chatID : String} {s t : Node}

lemma Kept.of_store (h : Kept chatID s) (heq : t.store = s.store) : Kept chatID t :=
  ⟨heq ▸ h.filed, heq ▸ h.headed⟩

lemma Kept.setRole (h : Kept chatID s) {chat : KeyPart} (hnew : s.Fresh chat)
    (actorID targetID : String) (role : Option MemberRole) :
    Ensures (Kept chatID) (fun r t => Kept chatID t ∧ (r = .ok () →
      s.store.roleIn chat.text actorID = some .owner)) (setRole chat actorID targetID role) s := by
  have hsure : s.Sure chat := ⟨h.filed, hnew⟩
  refine (ensures_setRole (fun t ht => h.of_store ht.store) ?_ actorID role).mono (fun _ => id)
    fun _ _ hr => ⟨hr.1, hr.2 hsure⟩
  intro t role ht hmay
  constructor
  · rw [bypass_store, ht.store]
    exact Store.filed_setMemberRole h.filed chat.text targetID role
  · rw [bypass_store, ht.store]
    exact h.headed.setMemberRole (hmay hsure)

lemma Kept.task {call : Call} (h : Kept chatID s) (hcall : Careful s call) :
    Ensures (Kept chatID) (fun _ => Kept chatID) call.task s := by
  cases call with
  | roleOf chat userID =>
    exact ((ensures_roleOf (.refl s chat) userID).mono (fun t ht => h.of_store ht.store)
      fun _ _ => id).bind fun r t ht => h.of_store ht.1.store
  | setRole chat actorID targetID role =>
    exact (h.setRole hcall actorID targetID role).mono (fun _ => id) fun _ _ hr => hr.1
  | sweep | tick => exact .write (h.of_store rfl) (h.of_store rfl)
  | addMember | setMemberRole | join => exact hcall.elim

/-- If calls do not overlap and begin among fresh views, a chat has an owner at all times, and a
role is changed only by one. -/
theorem last_owner_kept {store : Store} (hfiled : store.Filed) (hheaded : store.Headed chatID)
    {before : List Call} {call : Call}
    (hrun : Machine.Guarded serve Careful (.new store) (before ++ [call])) :
    let s := Machine.final serve (.new store) before
    (∀ n, (call.task.cut n s).store.Headed chatID) ∧
      ∀ chat actorID targetID role, call = .setRole chat actorID targetID role →
        (serve s call).1 = .ok () → s.store.roleIn chat.text actorID = some .owner := by
  rcases (Machine.guarded_append ..).mp hrun with ⟨hpre, hcall, -⟩
  have hstep : ∀ s call, Kept chatID s → Careful s call → Kept chatID (serve s call).2 :=
    fun s call hs hc => (hs.task hc).alone
  have hkept := Machine.guarded_final serve hstep ⟨hfiled, hheaded⟩ hpre
  refine ⟨fun n => ((hkept.task hcall).cut hkept n).headed, ?_⟩
  rintro chat actorID targetID role rfl
  exact (hkept.setRole hcall actorID targetID role).alone.2

/-- Views that were filled by a look-up are fresh. -/
lemma careful_after_look {store : Store} (hfiled : store.Filed) (chat : KeyPart)
    (userID actorID targetID : String) (role : Option MemberRole) :
    Machine.Guarded serve Careful (.new store)
      ([.roleOf chat userID] ++ [.setRole chat actorID targetID role]) := by
  have hemp : (Node.new store).Fresh chat :=
    ⟨fun _ he => absurd he (Option.some_ne_none _).symm,
      fun _ _ hmr => absurd hmr (Option.some_ne_none _).symm⟩
  have hlooks := (ensures_roleOf (.refl (.new store) chat) userID).alone
  refine ⟨trivial, ?_, trivial⟩
  unfold serve Call.task
  rw [Task.alone_bind]
  exact hlooks.1.fresh ⟨hfiled, hemp⟩

/-- The sample chat with two owners. -/
def ownersStore : Store := (sampleStore.setMemberRole "g" "a" .owner).2

/-- With the roles in the view: one of two owners is demoted, and the only owner is not. -/
theorem last_owner_kept_demotion :
    (let s := Machine.final serve (.new ownersStore) [.roleOf sampleChat "a"]
    let call : Call := .setRole sampleChat "o" "a" (some .member)
    (s.cachedView "g").bind (·.roles "a") = some .owner ∧ (serve s call).1 = .ok () ∧
      ∀ n, (call.task.cut n s).store.Headed "g") ∧
    let s := Machine.final serve (.new sampleStore) [.roleOf sampleChat "a"]
    let call : Call := .setRole sampleChat "o" "o" (some .member)
    (s.cachedView "g").bind (·.roles "o") = some .owner ∧ (serve s call).1 = .error .lastOwner ∧
      ∀ n, (call.task.cut n s).store.Headed "g" := by
  have howners : ownersStore.Filed := Store.filed_setMemberRole filed_sampleStore "g" "a" .owner
  refine ⟨⟨by decide +kernel, by decide +kernel, ?_⟩, by decide +kernel, by decide +kernel, ?_⟩
  · exact (last_owner_kept howners ⟨"o", by decide +kernel⟩
      (careful_after_look howners sampleChat "a" "o" "a" (some .member))).1
  · exact (last_owner_kept filed_sampleStore ⟨"o", by decide +kernel⟩
      (careful_after_look filed_sampleStore sampleChat "a" "o" "o" (some .member))).1

/-- The owner promotes the admin and resigns, and with the view that still calls them owner and
admin demotes the new owner. -/
def resignation : List (Event Call) :=
  whole 0 (.setRole sampleChat "o" "a" (some .owner)) ++
    whole 1 (.setRole sampleChat "o" "o" (some .member)) ++
    whole 2 (.setRole sampleChat "o" "a" (some .member))

/-- Two owners demote each other: one has counted them and not yet written. -/
def mutualDemotion : List (Event Call) :=
  whole 0 (.setRole sampleChat "o" "a" (some .owner)) ++
    .restart :: .start (.setRole sampleChat "o" "a" (some .member)) ::
    replicate 10 (.run 0) ++ whole 1 (.setRole sampleChat "a" "o" (some .member)) ++ [.run 0]

/-- A chat is left without an owner by calls one after the other, and by two that overlap, with
every view fresh. -/
theorem last_owner_demoted : sampleStore.countMembersWithRole "g" .owner = 1 ∧
      (run sampleStore (resignation.take 42)).store.roleIn "g" "o" = some .member ∧
      (run sampleStore resignation).store.countMembersWithRole "g" .owner = 0 ∧
      (run sampleStore mutualDemotion).store.countMembersWithRole "g" .owner = 0 := by
  decide +kernel

end SyncApp.Chats
