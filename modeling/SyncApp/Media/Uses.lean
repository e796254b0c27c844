import SyncApp.Messaging.Rows

/-!
# The uses of a blob

`MayFetch` of `server/internal/gateway/media_authz.go`, which takes a reference for a permission
whoever made it, and the collector of `server/internal/media/gc.go`, which asks the message log
alone whether a blob is used and deletes it in a later step.

Main results:

- `holds_step`: the ways in which a blob gets into a chat.
- `Site.deletes_unused`: when a sweep deletes only what nothing uses.
- `Site.not_granted`: a blob that is not brought to a user's chats stays out of reach.
-/

namespace SyncApp.Media

open Foundations Messaging List Store
open Function (update)
open Machine (Guarded final)

/-- A message names the blob by itself or by its attachment. -/
def names (ref mediaRef : String) (attachment : Option Attachment) : Bool :=
  mediaRef = ref || attachment.any fun a => a.mediaRef = ref || a.thumbRef = ref

def refers (ref : String) (m : Message) : Bool := !m.deleted && names ref m.mediaRef m.attachment

def holds (s : Store) (ref chatID : String) : Bool := (s.messages chatID).any (refers ref)

/-- A store, and the order in which the map of its chats is visited. -/
structure Shard where
  store : Store
  order : List String
  nodup : order.Nodup
  visited : ∀ chatID, store.messages chatID ≠ [] → chatID ∈ order

/-- `MediaRefChats` of the in-memory store, whose map of chats is visited in this order. -/
def mediaRefChats (s : Store) (order : List String) (ref : String) (limit : Nat) : List String :=
  if ref = "" then [] else (order.filter (holds s ref)).take (if limit = 0 then 32 else limit)

def Shard.mediaRefChats (sh : Shard) : String → Nat → List String :=
  Media.mediaRefChats sh.store sh.order

def mediaAuthChatLimit : Nat := 32

/-- `store.MediaChatResolver`: the chats from which a blob is reachable, or an error. -/
abbrev MediaChatResolver : Type := String → Nat → Option (List String)

/-- `MayFetch`.  The user store says whether the blob is an avatar if it is an `AvatarRefFinder`,
the log which chats refer to it if it is a resolver, and the chat service who is a member. -/
def mayFetch (resolver : Option MediaChatResolver) (avatarRefExists : Option Answer)
    (isMember : String → Answer) (userID ref : String) : Answer :=
  if userID = "" ∨ ref = "" then some false
  else if avatarRefExists = some none then none
  else if avatarRefExists = some (some true) then some true
  else
    match resolver with
    -- A node that cannot resolve blobs is left with the signed reference.
    | none => some true
    | some mediaRefChats =>
      (mediaRefChats ref mediaAuthChatLimit).map (·.any (isMember · = some true))

/-- Each of these chats has one message, with the blob `m`. -/
def crowd (chats : List String) (h : chats.Nodup) : Shard where
  store := { new with messages := fun c => if c ∈ chats then
    [⟨"1", c, "u", 1, "", "m", none, "", "", 0, none, 0, false, false, 0, 0⟩] else [] }
  order := chats
  nodup := h
  visited c h := by
    by_contra hc
    exact h (if_neg hc)

lemma holds_crowd {chats : List String} (h : chats.Nodup) (chatID : String) :
    holds (crowd chats h).store "m" chatID = true ↔ chatID ∈ chats := by
  simp only [holds, crowd]
  split
  · next hin => exact iff_of_true rfl hin
  · next hout => exact iff_of_false (by simp) hout

/-- The request brings the blob into the chat by its reference. -/
def carries (ref chatID : String) : ServiceOp → Prop
  | .send input .. => input.chatID = chatID ∧ names ref input.mediaRef input.attachment = true
  | _ => False

/-- The request copies a message of a chat that its user may read into another chat. -/
def copies (source chatID : String) : ServiceOp → Prop
  | .forward _ srcChatID _ dstChatID _ isMember .. =>
    srcChatID = source ∧ dstChatID = chatID ∧ isMember = some true
  | _ => False

variable {ref chatID : String} {s s' : Store} {sv : Service}

lemma holds_of_mem_mediaRefChats {order : List String} {limit : Nat}
    (h : chatID ∈ mediaRefChats s order ref limit) : holds s ref chatID = true := by
  unfold mediaRefChats at h
  split at h
  · cases h
  · exact (mem_filter.mp (mem_of_mem_take h)).2

lemma holds_eq_any (s : Store) (ref chatID : String) :
    holds s ref chatID = ((s.messages chatID).map (refers ref)).any id := by
  rw [any_map]
  rfl

lemma holds_of_faded (h : s.Faded s') (hholds : holds s' ref chatID = true) :
    holds s ref chatID = true := by
  rcases any_eq_true.mp hholds with ⟨m', hm', hrefers⟩
  rcases RowLog.exists_of_mem_right (h chatID) hm' with ⟨m, hm, hfades⟩
  refine any_eq_true.mpr ⟨m, hm, ?_⟩
  rcases hfades.content with hgone | ⟨hdel, -, hmedia, hatt⟩
  · simp [refers, hgone.deleted] at hrefers
  · rwa [refers, hdel, hmedia, hatt] at hrefers

lemma holds_edit {userID editedID msgID text : String} {now : Int} {clock : Clock} :
    holds (sv.edit userID editedID msgID text now clock).2.store ref chatID =
      holds sv.store ref chatID := by
  cases hget : sv.store.getMessage editedID msgID with
  | none => simp only [Service.edit, hget]
  | some cur =>
    by_cases hsender : cur.senderID = userID
    · rw [holds_eq_any, sv.edit_messages text now clock hget hsender, holds_eq_any]
      split
      · have hsame : ∀ m, refers ref (edited text now m) = refers ref m := fun _ => rfl
        rw [RowLog.map_updateFirst fun m _ => hsame m]
      · rfl
    · simp only [Service.edit, hget]
      rw [if_pos hsender]

lemma holds_send {input : SendInput} {canPost : Answer} {now : Int} {clock clockOb : Clock}
    (h : holds (sv.send input canPost now clock clockOb).2.store ref chatID = true) :
    holds sv.store ref chatID = true ∨
      input.chatID = chatID ∧ names ref input.mediaRef input.attachment = true := by
  have hcases := sv.send_cases input canPost now clock clockOb
  generalize sv.send input canPost now clock clockOb = out at hcases h
  cases hcases with
  | refused | spent => exact .inl h
  | stored c hm =>
    rw [holds_eq_any, stageOutbox_messages, append_messages] at h
    split at h
    · next heq =>
      rw [map_appendRow fun _ => rfl, any_append, Bool.or_eq_true, ← heq,
        ← holds_eq_any, hm] at h
      have hchat : input.chatID = chatID := by rw [heq, hm, Service.newMessage]
      exact h.imp_right fun hnew => ⟨hchat, (Bool.or_false _).symm.trans hnew⟩
    · exact .inl ((holds_eq_any ..).trans h)

/-- A chat that holds the blob after a request did so before, or the request has carried the blob
there, by reference or with a copy. -/
theorem holds_step (op : ServiceOp) (h : holds (sv.step op).2.store ref chatID = true) :
    holds sv.store ref chatID = true ∨ carries ref chatID op ∨
      ∃ source, copies source chatID op ∧ holds sv.store ref source = true := by
  cases op with
  | send => exact (holds_send h).imp_right .inl
  | edit => exact .inl (holds_edit ▸ h)
  | delete => exact .inl (holds_of_faded (sv.delete_faded ..).1 h)
  | forward userID srcChatID srcMsgID dstChatID dedupKey isMember canPost now clock clockOb =>
    simp only [Service.step] at h
    rcases sv.forward_cases userID srcChatID srcMsgID dstChatID dedupKey isMember canPost now clock
      clockOb with ⟨_, hrefused⟩ | ⟨src, _, hmember, hget, hlive, hsend⟩
    · rw [hrefused] at h
      exact .inl h
    · rw [hsend] at h
      rcases holds_send h with hpre | ⟨hdst, hnames⟩
      · exact .inl hpre
      · refine .inr (.inr ⟨srcChatID, ⟨rfl, hdst, hmember⟩, ?_⟩)
        refine any_eq_true.mpr ⟨src, mem_of_find?_eq_some hget, ?_⟩
        rw [refers, hlive]
        exact hnames
  | expireDue now limit order =>
    exact .inl (holds_of_faded (faded_expireChats now _ order _) h)
  | deleteAccount userID now =>
    exact .inl (holds_of_faded (sv.store.faded_deleteAccount userID now) h)
  | markSent | purgeSent => exact .inl h
  | _ =>
    exact .inl (holds_of_faded (.of_messages (sv.step_beside rfl).messages) h)

/-- The message service with the avatars, the media of scheduled messages, the stored blobs, and
those that a sweep has found unused and goes on to delete. -/
structure Site where
  service : Service
  avatarRef : String → String
  scheduled : String → String × Option Attachment
  blobs : List String
  unused : List String

inductive Act where
  | request (op : ServiceOp)
  | updateProfile (userID avatarRef : String)
  -- A scheduled message is stored, or it is gone and its media is the empty one.
  | schedule (id chatID mediaRef : String) (attachment : Option Attachment)
  | upload (ref : String)
  | check (ref : String) (order : List String)
  | delete (ref : String)

namespace Site

/-- The site after an act, and the blobs that the act deletes. -/
def step (w : Site) : Act → List String × Site
  | .request op => ([], { w with service := (w.service.step op).2 })
  | .updateProfile userID ref => ([], { w with avatarRef := update w.avatarRef userID ref })
  | .schedule id _ mediaRef attachment =>
    ([], { w with scheduled := update w.scheduled id (mediaRef, attachment) })
  | .upload ref => ([], { w with blobs := ref :: w.blobs })
  | .check ref order =>
    -- `MediaRefExists` visits the chats of the message log.
    if ref = "" ∨ ref ∉ w.blobs ∨ order.any (holds w.service.store ref) then ([], w)
    else ([], { w with unused := ref :: w.unused })
  | .delete ref =>
    if ref ∈ w.unused then
      ([ref], { w with blobs := w.blobs.filter (· ≠ ref), unused := w.unused.filter (· ≠ ref) })
    else ([], w)

variable (chats : String → Prop)

/-- The act does not use the reference for an avatar, and brings the blob into these chats neither
by its reference nor with a message of another chat. -/
def Abstains (ref : String) : Act → Prop
  | .request op => ∀ chatID, chats chatID →
    ¬ carries ref chatID op ∧ ∀ source, copies source chatID op → chats source
  | .updateProfile _ new => new ≠ ref
  | .schedule _ chatID mediaRef attachment => chats chatID → names ref mediaRef attachment = false
  | _ => True

/-- Neither one of these chats nor an avatar has the blob. -/
def Hidden (ref : String) (w : Site) : Prop :=
  (∀ chatID, chats chatID → holds w.service.store ref chatID ≠ true) ∧
    ∀ userID, w.avatarRef userID ≠ ref

variable {w : Site} {acts : List Act} {chats : String → Prop}

lemma forall_update {β : Type} {f : String → β} {key : String} {new : β} (p : β → Prop)
    (h : ∀ x, p (f x)) (hnew : p new) (x : String) : p (update f key new x) := by
  rw [Function.update_apply]
  split
  · exact hnew
  · exact h x

lemma Hidden.step (h : w.Hidden chats ref) {act : Act} (hact : Abstains chats ref act) :
    (w.step act).2.Hidden chats ref := by
  cases act with
  | request op =>
    refine ⟨fun chatID hin hholds => ?_, h.2⟩
    rcases holds_step op hholds with hpre | hcarry | ⟨source, hcopies, hpre⟩
    · exact h.1 chatID hin hpre
    · exact (hact chatID hin).1 hcarry
    · exact h.1 source ((hact chatID hin).2 source hcopies) hpre
  | updateProfile => exact ⟨h.1, forall_update (· ≠ ref) h.2 hact⟩
  | schedule | upload => exact h
  | check | delete =>
    simp only [Site.step]
    split <;> exact h

/-! ## Deleting blobs -/

/-- No scheduled message has the blob. -/
def Unscheduled (w : Site) (ref : String) : Prop :=
  ∀ id, names ref (w.scheduled id).1 (w.scheduled id).2 = false

/-- No live message, no avatar and no scheduled message has the blob. -/
def Unused (w : Site) (ref : String) : Prop :=
  w.Hidden (fun _ => True) ref ∧ w.Unscheduled ref

/-- Only messages have the blob that is checked, and nothing takes a blob up that was found
unused. -/
def Careful (w : Site) : Act → Prop
  | .check ref order =>
    (∀ chatID, w.service.store.messages chatID ≠ [] → chatID ∈ order) ∧
      (∀ userID, w.avatarRef userID ≠ ref) ∧ w.Unscheduled ref
  | act => ∀ ref ∈ w.unused, Abstains (fun _ => True) ref act

def Sound (w : Site) : Prop := ∀ ref ∈ w.unused, w.Unused ref

lemma Sound.step (h : w.Sound) (act : Act) (hact : w.Careful act) : (w.step act).2.Sound := by
  intro ref href
  cases act with
  | request | updateProfile | upload =>
    exact ⟨(h ref href).1.step (hact ref href), (h ref href).2⟩
  | schedule =>
    refine ⟨(h ref href).1.step (hact ref href), fun id => ?_⟩
    exact forall_update (fun media : String × Option Attachment =>
      names ref media.1 media.2 = false) (h ref href).2 (hact ref href trivial) id
  | check checked order =>
    simp only [Site.step] at href ⊢
    split at href
    · next hskip =>
      rw [if_pos hskip]
      exact h ref href
    · next hclear =>
      rw [if_neg hclear]
      rcases mem_cons.mp href with rfl | hold
      · refine ⟨⟨fun chatID _ hholds => ?_, hact.2.1⟩, hact.2.2⟩
        refine hclear (.inr (.inr (any_eq_true.mpr ⟨chatID, hact.1 chatID ?_, hholds⟩)))
        intro hnil
        simp [holds, hnil] at hholds
      · exact h ref hold
  | delete =>
    simp only [Site.step] at href ⊢
    split at href
    · next hin =>
      rw [if_pos hin]
      exact h ref (mem_filter.mp href).1
    · next hout =>
      rw [if_neg hout]
      exact h ref href

/-- Where nothing but messages has the blobs that are checked, and none is taken up between check
and deletion, no blob in use is deleted. -/
theorem deletes_unused (act : Act) (hstart : w.unused = []) (hrun : Guarded step Careful w acts) :
    ∀ ref ∈ (step (final step w acts) act).1, (final step w acts).Unused ref := by
  have hs : (final step w acts).Sound := by
    refine Machine.guarded_final step (fun _ act h hact => Sound.step h act hact) ?_ hrun
    intro ref href
    rw [hstart] at href
    cases href
  intro ref href
  cases act with
  | delete =>
    simp only [step] at href
    split at href
    · next hin => exact mem_singleton.mp href ▸ hs _ hin
    · cases href
  | check =>
    simp only [step] at href
    split at href <;> cases href
  | request | updateProfile | schedule | upload => cases href

/-- A site where the chat `b` has the blob `m`. -/
def site : Site :=
  ⟨⟨(crowd ["b"] (by decide)).store, nodeOne⟩, fun _ => "", fun _ => ("", none), ["m"], []⟩

theorem deletes_unused_upload :
    let w := final step site [.upload "n", .check "n" ["b"]]
    (step w (.delete "n")).1 = ["n"] ∧ w.Unused "n" := by
  have hrun : Guarded step Careful site [.upload "n", .check "n" ["b"]] := by
    refine ⟨nofun, ⟨fun c hc => ?_, fun _ => by simp [site, step], fun _ => rfl⟩, trivial⟩
    by_contra hout
    exact hc (if_neg hout)
  exact ⟨by decide, deletes_unused (.delete "n") rfl hrun "n" (by decide)⟩

/-- A blob is deleted that is an avatar. -/
theorem deletes_avatar :
    let w := final step site [.upload "n", .updateProfile "u" "n", .check "n" ["b"]]
    (step w (.delete "n")).1 = ["n"] ∧ w.avatarRef "u" = "n" := by
  decide

/-- What `MayFetch` answers at the site, with the store's own resolver and avatar finder. -/
def mayFetch (w : Site) (order users : List String) (isMember : String → Answer)
    (userID ref : String) : Answer :=
  Media.mayFetch (some fun ref limit => some (mediaRefChats w.service.store order ref limit))
    (some (some (users.any (w.avatarRef · = ref)))) isMember userID ref

/-- A blob that is no avatar and in no chat of a user is not granted to them, as long as nobody
makes it an avatar or brings it into a chat of theirs. -/
theorem not_granted (acts : List Act) {isMember : String → Answer}
    (h : w.Hidden (isMember · = some true) ref)
    (hrun : ∀ act ∈ acts, Abstains (isMember · = some true) ref act)
    (order users : List String) (userID : String) :
    (final step w acts).mayFetch order users isMember userID ref = some false := by
  have hhidden : (final step w acts).Hidden (isMember · = some true) ref := by
    induction acts generalizing w with
    | nil => exact h
    | cons act acts ih =>
      exact ih (h.step (hrun act mem_cons_self)) fun a ha => hrun a (mem_cons_of_mem _ ha)
  have havatar : users.any ((final step w acts).avatarRef · = ref) = false := by
    simp [hhidden.2]
  unfold mayFetch Media.mayFetch
  split
  · rfl
  rw [havatar, if_neg nofun, if_neg nofun]
  refine congrArg some (any_eq_false.mpr fun chatID hchat hin => ?_)
  exact hhidden.1 chatID (of_decide_eq_true hin) (holds_of_mem_mediaRefChats hchat)

/-- The user `u` of the chat `a` writes, copies, schedules and changes their avatar; others bring
the blob `m` of the chat `b` into `c`. -/
def busy : List Act :=
  [.request (.createChat (groupChat "a")), .request (.createChat (groupChat "c")),
    .request (.send ⟨"u", "a", "", "hi", "k", "", none, none, 0⟩ (some true) 0 atEpoch atEpoch),
    .request (.forward "u" "a" "4096" "a" "" (some true) (some true) 0 atEpoch atEpoch),
    .schedule "1" "a" "k" none, .updateProfile "u" "k",
    .request (.forward "v" "b" "1" "c" "" (some true) (some true) 0 atEpoch atEpoch),
    .request (.send ⟨"v", "c", "", "", "m", "", none, none, 0⟩ (some true) 0 atEpoch atEpoch)]

/-- The blob that was brought into `c` is refused to `u`, who is in `a`. -/
theorem not_granted_site :
    let w := final step site busy
    mediaRefChats w.service.store ["a", "b", "c"] "m" 32 = ["b", "c"] ∧
      mediaRefChats w.service.store ["a", "b", "c"] "k" 32 = ["a"] ∧
      w.mayFetch ["a", "b", "c"] ["u", "v"] (fun c => some (c = "a")) "u" "m" = some false := by
  refine ⟨by decide +kernel, by decide +kernel,
    not_granted busy ⟨fun c hc => ?_, fun _ => by simp [site]⟩ ?_ _ _ "u"⟩
  · rw [of_decide_eq_true (Option.some.inj hc)]
    decide
  · simp [busy, Abstains, carries, copies, names]

/-- A user makes the blob of a chat that they are not in their avatar, and is given it. -/
theorem granted_by_avatar :
    let fetch (w : Site) := w.mayFetch ["b"] ["u"] (fun c => some (c = "a")) "u" "m"
    fetch site = some false ∧ fetch (site.step (.updateProfile "u" "m")).2 = some true := by
  decide

end Site
end SyncApp.Media
