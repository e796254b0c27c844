import SyncApp.Chats.Summaries
import SyncApp.Messaging.Snowflake

/-!
# Who sees an account's presence

`directPeers` of `server/internal/fanout/fanout.go` walks the account's chats in pages of two
hundred and gathers the other sides of the direct ones.  It asks for the next page without the
activity of the last chat, so what comes back was active at time zero or before.

Main results:

- `directPeers_eq`: only the first page of active chats is gathered from.
- `directPeers_exact`: when every 1:1 peer is returned.
-/

namespace SyncApp.Fanout

open Foundations Chats List
open Messaging (Chat)
open Or (inl inr)
open Store (memberIDs membersOf)

def presencePageSize : Nat := 200

def maxPresencePages : Nat := 10

/-- The loop over the rows of a page: the last chat that was seen, and the peers so far. -/
def gather (userID : String) : List ChatSummary → String × List String → String × List String
  | [], acc => acc
  | sum :: page, (after, out) =>
    match sum.chat with
    | none => gather userID page (after, out)
    | some c =>
      if c.type ≠ .direct ∨ sum.peerID = "" ∨ sum.peerID = userID then
        gather userID page (c.id, out)
      else if sum.peerID ∈ out then gather userID page (c.id, out)
      else gather userID page (c.id, out ++ [sum.peerID])

/-- The loop over the pages. -/
def peerPages (s : Store) (userID : String) : Nat → String × List String → List String
  | 0, (_, out) => out
  | pages + 1, (after, out) =>
    let page := userChats s userID after presencePageSize
    if page.length = 0 then out
    else
      let acc := gather userID page (after, out)
      if page.length < presencePageSize then acc.2 else peerPages s userID pages acc

def directPeers (s : Store) (userID : String) : List String :=
  peerPages s userID maxPresencePages ("", [])

variable {s : Store} {userID : String}

/-- A row shows the other side of a direct chat. -/
def Shows (userID : String) (sum : ChatSummary) (peer : String) : Prop :=
  ∃ c, sum.chat = some c ∧ c.type = .direct ∧ sum.peerID = peer ∧ peer ≠ "" ∧ peer ≠ userID

variable {peer after : String} {sum : ChatSummary} {out : List String}

lemma Shows.unique {peer' : String} (h : Shows userID sum peer) (h' : Shows userID sum peer') :
    peer = peer' := by
  rcases h with ⟨c, -, -, rfl, -⟩
  rcases h' with ⟨_, -, -, rfl, -⟩
  rfl

lemma gather_cons (userID : String) (sum : ChatSummary) (page : List ChatSummary) (after : String)
    (out : List String) : (∃ after' peer, Shows userID sum peer ∧ peer ∉ out ∧
        gather userID (sum :: page) (after, out) = gather userID page (after', out ++ [peer])) ∨
      ∃ after', (∀ peer, Shows userID sum peer → peer ∈ out) ∧
        gather userID (sum :: page) (after, out) = gather userID page (after', out) := by
  rw [gather]
  cases hchat : sum.chat with
  | none =>
    refine inr ⟨after, ?_, rfl⟩
    rintro peer ⟨c, hc, -⟩
    simp [hchat] at hc
  | some c =>
    dsimp only
    split
    · next hskip =>
      refine inr ⟨c.id, ?_, rfl⟩
      rintro peer ⟨c', hc', htype, rfl, hne, hself⟩
      obtain rfl : c = c' := by simpa [hchat] using hc'
      rcases hskip with hskip | hskip | hskip
      · exact absurd htype hskip
      · exact absurd hskip hne
      · exact absurd hskip hself
    · next hpeer =>
      rw [not_or, not_or, not_not] at hpeer
      split
      · next hdup =>
        refine inr ⟨c.id, ?_, rfl⟩
        rintro peer ⟨c', hc', htype, rfl, hne, hself⟩
        exact hdup
      · next hnew =>
        exact inl ⟨c.id, sum.peerID, ⟨c, hchat, hpeer.1, rfl, hpeer.2.1, hpeer.2.2⟩, hnew, rfl⟩

section

variable (userID : String) (page : List ChatSummary) (after : String)

lemma mem_gather (out : List String) (peer : String) :
    peer ∈ (gather userID page (after, out)).2 ↔
      peer ∈ out ∨ ∃ sum ∈ page, Shows userID sum peer := by
  induction page generalizing after out with
  | nil => simp [gather]
  | cons sum page ih =>
    rcases gather_cons userID sum page after out with
      ⟨_, _, hshows, _, hgather⟩ | ⟨_, hshows, hgather⟩
    · rw [hgather, ih, mem_append, mem_singleton, exists_mem_cons_iff]
      constructor
      · rintro ((hold | rfl) | hpage)
        · exact inl hold
        · exact inr (inl hshows)
        · exact inr (inr hpage)
      · rintro (hold | hsum | hpage)
        · exact inl (inl hold)
        · exact inl (inr (hsum.unique hshows))
        · exact inr hpage
    · rw [hgather, ih, exists_mem_cons_iff]
      constructor
      · rintro (hold | hpage)
        · exact inl hold
        · exact inr (inr hpage)
      · rintro (hold | hsum | hpage)
        · exact inl hold
        · exact inl (hshows peer hsum)
        · exact inr hpage

lemma nodup_gather (h : out.Nodup) : (gather userID page (after, out)).2.Nodup := by
  induction page generalizing after out with
  | nil => exact h
  | cons sum page ih =>
    rcases gather_cons userID sum page after out with
      ⟨after', new, _, hnew, hgather⟩ | ⟨after', _, hgather⟩
    · rw [hgather]
      refine ih after' ?_
      rw [nodup_append]
      refine ⟨h, nodup_singleton new, ?_⟩
      rintro peer hpeer peer' hpeer' rfl
      exact hnew (mem_singleton.mp hpeer' ▸ hpeer)
    · rw [hgather]
      exact ih after' h

lemma length_gather (out : List String) :
    (gather userID page (after, out)).2.length ≤ out.length + page.length := by
  induction page generalizing after out with
  | nil => exact Nat.le_refl _
  | cons sum page ih =>
    rcases gather_cons userID sum page after out with
      ⟨after', new, _, _, hgather⟩ | ⟨after', _, hgather⟩
    · have hrest := ih after' (out ++ [new])
      rw [length_append, length_singleton] at hrest
      rw [hgather, length_cons]
      omega
    · have hrest := ih after' out
      rw [hgather, length_cons]
      omega

end

/-- What gathering a page preserves, the walk preserves. -/
lemma peerPages_invariant {motive : List String → Prop} (hpage : ∀ after out, motive out →
      motive (gather userID (userChats s userID after presencePageSize) (after, out)).2)
    (pages : Nat) (after : String) (h : motive out) :
    motive (peerPages s userID pages (after, out)) := by
  induction pages generalizing after out with
  | zero => exact h
  | succ pages ih =>
    have hgather := hpage after out h
    unfold peerPages
    dsimp only
    split
    · exact h
    · split
      · exact hgather
      · exact ih _ hgather

lemma directPeers_subset (h : peer ∈ directPeers s userID) :
    ∃ sum ∈ s.listed userID false, Shows userID sum peer := by
  refine peerPages_invariant
    (motive := fun out => ∀ peer ∈ out, ∃ sum ∈ s.listed userID false, Shows userID sum peer)
    ?_ maxPresencePages "" (by simp) peer h
  intro after out hout peer hpeer
  rcases (mem_gather _ _ _ _ _).mp hpeer with hold | ⟨sum, hsum, hshows⟩
  · exact hout peer hold
  · exact ⟨sum, s.mem_userChatSummaries userID hsum, hshows⟩

lemma subset_peerPages (pages : Nat) (after : String) (h : peer ∈ out) :
    peer ∈ peerPages s userID pages (after, out) := by
  refine peerPages_invariant ?_ pages after h
  intro after out hout
  exact (mem_gather _ _ _ _ _).mpr (inl hout)

lemma first_userChats :
    userChats s userID "" presencePageSize = (s.listed userID false).take presencePageSize := by
  unfold userChats userChatPage
  exact s.first_page userID (by decide) false

lemma first_page_subset (hsum : sum ∈ (s.listed userID false).take presencePageSize)
    (h : Shows userID sum peer) : peer ∈ directPeers s userID := by
  unfold directPeers
  rw [maxPresencePages, peerPages]
  rw [first_userChats]
  have hgather := (mem_gather userID ((s.listed userID false).take presencePageSize)
    "" [] peer).mpr (inr ⟨sum, hsum, h⟩)
  split
  · next hnone =>
    rw [length_eq_zero_iff] at hnone
    rw [hnone] at hsum
    cases hsum
  · split
    · exact hgather
    · exact subset_peerPages _ _ hgather

/-- The other side of a direct chat that the account has not archived. -/
def DirectPeer (s : Store) (userID peer : String) : Prop :=
  peer ≠ "" ∧ peer ≠ userID ∧ ∃ chatID me c, (s.membersOf chatID).lookup userID = some me ∧
    me.flags.archived = false ∧ s.log.chats chatID = some c ∧ c.type = .direct ∧
    peer ∈ s.memberIDs chatID

lemma directPeer_of_shows (hsum : sum ∈ s.listed userID false) (h : Shows userID sum peer) :
    DirectPeer s userID peer := by
  rcases h with ⟨c, hchat, htype, rfl, hne, hself⟩
  rcases (s.mem_summaryRows userID).mp ((s.listed_perm userID false).mem_iff.mp hsum) with
    ⟨chatID, members, hmembers, hrow⟩
  rcases s.summaryOf_eq_some userID hrow with ⟨me, c', hme, harch, hc', hchat', hpeer, -⟩
  obtain rfl : c = c' := by simpa [hchat] using hchat'
  have hof : s.membersOf chatID = members := by simp [membersOf, hmembers]
  refine ⟨hne, hself, chatID, me, c, hof ▸ hme, harch, hc', htype, ?_⟩
  rw [htype, if_pos (by decide)] at hpeer
  cases hfind : members.keys.find? fun uid => uid ≠ userID with
  | none =>
    rw [hfind] at hpeer
    exact absurd hpeer hne
  | some =>
    rw [hfind, Option.getD_some] at hpeer
    rw [hpeer, memberIDs, hof]
    exact mem_of_find?_eq_some hfind

/-- The row of a chat that has been active. -/
def Active (sum : ChatSummary) : Prop :=
  0 < sum.lastActivityAt ∧ ∃ c, sum.chat = some c ∧ c.id ≠ ""

lemma gather_after (userID : String) {page : List ChatSummary} (hpage : ∀ sum ∈ page, Active sum)
    (after : String) (out : List String) (h : page ≠ [] ∨ after ≠ "") :
    (gather userID page (after, out)).1 ≠ "" := by
  induction page generalizing after out with
  | nil => exact h.resolve_left (by simp)
  | cons sum page ih =>
    rcases (hpage sum mem_cons_self).2 with ⟨c, hchat, hid⟩
    have hrest := fun out => ih (fun sum hsum => hpage sum (mem_cons_of_mem _ hsum)) c.id out
      (inr hid)
    rw [gather, hchat]
    dsimp only
    split
    · exact hrest _
    · split
      · exact hrest _
      · exact hrest _

/-- If the chats have all been active, only those of the first page are gathered from. -/
theorem directPeers_eq (h : ∀ sum ∈ s.listed userID false, Active sum) :
    directPeers s userID =
      (gather userID ((s.listed userID false).take presencePageSize) ("", [])).2 := by
  unfold directPeers
  rw [maxPresencePages, peerPages]
  dsimp only
  rw [first_userChats]
  split
  · next hnone =>
    rw [length_eq_zero_iff.mp hnone]
    rfl
  · next hsome =>
    split
    · rfl
    have hne : (s.listed userID false).take presencePageSize ≠ [] := by
      rwa [ne_eq, ← length_eq_zero_iff]
    have hafter := gather_after userID
      (fun sum hsum => h sum (mem_of_mem_take hsum)) "" [] (inl hne)
    have hnext : userChats s userID _ presencePageSize = [] :=
      s.no_page_after_zero userID hafter _ false fun sum hsum => (h sum hsum).1
    rw [peerPages, hnext, length_nil, if_pos rfl]

/-! ## 1:1 peers -/

/-- Another member of a 1:1 chat of the account, archived or secret ones included. -/
def OneToOnePeer (s : Store) (userID peer : String) : Prop :=
  peer ≠ userID ∧ ∃ chatID c, userID ∈ s.memberIDs chatID ∧ s.log.chats chatID = some c ∧
    is1To1 c.type = true ∧ peer ∈ s.memberIDs chatID

/-- Every 1:1 peer is the other side of a direct chat among the first page of those that the account
has not archived. -/
def Shown (s : Store) (userID : String) : Prop :=
  ∀ peer, OneToOnePeer s userID peer →
    ∃ sum ∈ (s.listed userID false).take presencePageSize, Shows userID sum peer

lemma DirectPeer.oneToOne (h : DirectPeer s userID peer) : OneToOnePeer s userID peer := by
  rcases h with ⟨-, hself, chatID, me, c, hme, -, hc, htype, hpeer⟩
  refine ⟨hself, chatID, c, ?_, hc, htype ▸ rfl, hpeer⟩
  exact AList.lookup_isSome.mp (Option.isSome_iff_exists.mpr ⟨me, hme⟩)

/-- Nobody is returned twice, or without being the other side of a direct chat.  Every 1:1 peer is
returned if all are shown on the first page, and, where the chats have been active, only then. -/
theorem directPeers_exact (s : Store) (userID : String) :
    (directPeers s userID).Nodup ∧
      (∀ peer ∈ directPeers s userID, DirectPeer s userID peer) ∧
      (Shown s userID → ∀ peer, OneToOnePeer s userID peer → peer ∈ directPeers s userID) ∧
      ((∀ sum ∈ s.listed userID false, Active sum) →
        (∀ peer, OneToOnePeer s userID peer → peer ∈ directPeers s userID) → Shown s userID) := by
  refine ⟨?_, fun peer hmem => ?_, fun hshown peer hpeer => ?_, fun hact hall peer hpeer => ?_⟩
  · exact peerPages_invariant (fun after _ => nodup_gather userID _ after) maxPresencePages ""
      nodup_nil
  · rcases directPeers_subset hmem with ⟨sum, hsum, hshows⟩
    exact directPeer_of_shows hsum hshows
  · rcases hshown peer hpeer with ⟨_, hsum, hshows⟩
    exact first_page_subset hsum hshows
  · have hmem := hall peer hpeer
    rw [directPeers_eq hact] at hmem
    exact ((mem_gather ..).mp hmem).resolve_left (by simp)

section Sample

variable (i : Nat)

/-- The identifier of a chat, and of the other side. -/
def chatName : String := Messaging.formatInt (1000 + i)

/-- The other side of a chat. -/
def peerName : String := Messaging.formatInt (5000 + i)

/-- A membership without settings. -/
def plainMember (chatID userID : String) : ChatMember :=
  ⟨chatID, userID, .member, 5, false, ⟨0, false, false⟩⟩

/-- Account 1 and the other side. -/
def pairOf : Members :=
  ((∅ : Members).insert "1" (plainMember (chatName i) "1")).insert (peerName i)
    (plainMember (chatName i) (peerName i))

lemma chatName_injective : Function.Injective chatName := by
  intro i j h
  have hnumber := Messaging.formatInt_injective h
  omega

/-- Account 1 has so many direct chats, all of the same time. -/
def manyChats (n : Nat) : Store where
  log := { Messaging.Store.new with
    chats := fun id =>
      if id ∈ (range n).map chatName then some ⟨id, .direct, "", "1", 5, 0, ""⟩ else none }
  members := ⟨(range n).map fun i => ⟨chatName i, pairOf i⟩, by
    rw [List.NodupKeys, keys, map_map]
    exact nodup_range.map chatName_injective⟩

lemma peerName_injective : Function.Injective peerName := by
  intro i j h
  have hnumber := Messaging.formatInt_injective h
  omega

lemma peerName_ne : peerName i ≠ "1" := by
  intro h
  have hone : Messaging.formatInt 1 = "1" := by decide
  rw [← hone] at h
  have hnumber := Messaging.formatInt_injective h
  omega

variable {n i : Nat}

lemma chats_manyChats {chatID : String} {c : Chat} (h : (manyChats n).log.chats chatID = some c) :
    ∃ i < n, chatID = chatName i ∧ c = ⟨chatName i, .direct, "", "1", 5, 0, ""⟩ := by
  simp only [manyChats] at h
  split at h
  · next hmem =>
    rcases mem_map.mp hmem with ⟨i, hi, rfl⟩
    exact ⟨i, mem_range.mp hi, rfl, (Option.some.inj h).symm⟩
  · cases h

lemma membersOf_manyChats (h : i < n) : (manyChats n).membersOf (chatName i) = pairOf i := by
  have hlook : (manyChats n).members.lookup (chatName i) = some (pairOf i) :=
    AList.mem_lookup_iff.mpr (mem_map.mpr ⟨i, mem_range.mpr h, rfl⟩)
  rw [membersOf, hlook, Option.getD_some]

lemma mem_pairOf {uid : String} : uid ∈ (pairOf i).keys ↔ uid = "1" ∨ uid = peerName i := by
  rw [pairOf, ← AList.mem_keys, AList.mem_insert, AList.mem_insert, or_comm]
  simp

lemma directPeer_manyChats (h : i < n) : DirectPeer (manyChats n) "1" (peerName i) := by
  have hmine : (pairOf i).lookup "1" = some (plainMember (chatName i) "1") := by
    rw [pairOf, AList.lookup_insert_ne (Ne.symm (peerName_ne i)), AList.lookup_insert]
  have hchat : chatName i ∈ (range n).map chatName :=
    mem_map_of_mem (mem_range.mpr h)
  refine ⟨Messaging.formatInt_ne_empty _, peerName_ne i, chatName i,
    plainMember (chatName i) "1", _, ?_, rfl, if_pos hchat, rfl, ?_⟩
  · rw [membersOf_manyChats h]
    exact hmine
  · rw [memberIDs, membersOf_manyChats h, mem_pairOf]
    exact inr rfl

lemma length_listed_manyChats (n : Nat) : ((manyChats n).listed "1" false).length ≤ n := by
  rw [((manyChats n).listed_perm "1" false).length_eq]
  refine (length_filterMap_le ..).trans ?_
  simp [manyChats]

lemma active_manyChats (n : Nat) : ∀ sum ∈ (manyChats n).listed "1" false, Active sum := by
  intro sum hsum
  rcases ((manyChats n).mem_summaryRows "1").mp
      (((manyChats n).listed_perm "1" false).mem_iff.mp hsum) with ⟨chatID, members, -, hrow⟩
  rcases (manyChats n).summaryOf_eq_some "1" hrow with ⟨_, c, -, -, hc, hchat, -, hactivity⟩
  rcases chats_manyChats hc with ⟨i, -, rfl, rfl⟩
  have hname : chatName i ≠ "" := Messaging.formatInt_ne_empty _
  have hquiet : (manyChats n).lastLive (chatName i) = none := rfl
  refine ⟨?_, _, hchat, hname⟩
  rw [hactivity, hquiet]
  simp

/-- With two hundred and one direct chats, which is far within the cap, there is a peer who is
not gathered. -/
theorem second_page_lost :
    ((manyChats 201).listed "1" false).length ≤ maxPresencePages * presencePageSize ∧
      ∃ peer, OneToOnePeer (manyChats 201) "1" peer ∧
        peer ∉ directPeers (manyChats 201) "1" := by
  refine ⟨(length_listed_manyChats 201).trans (by decide), ?_⟩
  by_contra hall
  have hsubset : (range 201).map peerName ⊆ directPeers (manyChats 201) "1" := by
    intro peer hpeer
    rcases mem_map.mp hpeer with ⟨i, hi, rfl⟩
    by_contra hlost
    exact hall ⟨peerName i, (directPeer_manyChats (mem_range.mp hi)).oneToOne, hlost⟩
  have hnodup : ((range 201).map peerName).Nodup := nodup_range.map peerName_injective
  have hlen := (subperm_of_subset hnodup hsubset).length_le
  have hpage := length_gather "1" (((manyChats 201).listed "1" false).take presencePageSize) "" []
  rw [directPeers_eq (active_manyChats 201), length_map, length_range] at hlen
  rw [length_take, length_nil, presencePageSize] at hpage
  unfold presencePageSize at hlen
  omega

/-- Account 1 has two direct chats, which are shown on one page. -/
theorem directPeers_exact_two :
    ∀ peer, OneToOnePeer (manyChats 2) "1" peer → peer ∈ directPeers (manyChats 2) "1" := by
  refine (directPeers_exact (manyChats 2) "1").2.2.1 ?_
  rintro peer ⟨hself, chatID, c, -, hc, -, hpeer⟩
  rcases chats_manyChats hc with ⟨i, hi, rfl, -⟩
  rw [memberIDs, membersOf_manyChats hi, mem_pairOf] at hpeer
  rw [hpeer.resolve_left hself]
  exact (by decide +kernel : ∀ i < 2, ∃ sum ∈ ((manyChats 2).listed "1" false).take 200,
    ∃ c ∈ sum.chat, c.type = .direct ∧ sum.peerID = peerName i ∧ peerName i ≠ "" ∧
      peerName i ≠ "1") i hi

end Sample

end SyncApp.Fanout
