import Mathlib.Data.List.Perm.Subperm
import SyncApp.Media.Uses

/-!
# Blobs in many chats

`MediaRefChats` of `server/internal/store/sharded/sharded.go` and of the in-memory store.  Both stop
at the chats that they were asked for, and `MayFetch` asks for thirty-two.

Main results:

- `mem_gather`, `length_gather`: what the loop over the shards collects.
- `granted_to_members`: when all members of the chats of a blob are granted it.
-/

namespace SyncApp.Media

open Foundations Messaging

/-- The loops of the sharded `MediaRefChats`: chats not seen yet, until there are enough. -/
def gather (limit : Nat) : List String → List String → List String
  | out, [] => out
  | out, chatID :: rest =>
    if chatID ∈ out then gather limit out rest
    else if out.length + 1 = limit then out ++ [chatID]
    else gather limit (out ++ [chatID]) rest

inductive Log where
  | single (sh : Shard)
  | sharded (shards : List Shard)

namespace Log

def shards : Log → List Shard
  | .single sh => [sh]
  | .sharded shards => shards

def mediaRefChats (log : Log) (ref : String) (limit : Nat) : List String :=
  match log with
  | .single sh => sh.mediaRefChats ref limit
  | .sharded shards =>
    let limit := if limit = 0 then 32 else limit
    gather limit [] (shards.flatMap (·.mediaRefChats ref limit))

/-- The log as a resolver: neither of the stores fails. -/
def resolver (log : Log) : MediaChatResolver := fun ref limit => some (log.mediaRefChats ref limit)

/-- A live message of the chat refers to the blob. -/
def Holds (log : Log) (ref chatID : String) : Prop :=
  ∃ sh ∈ log.shards, holds sh.store ref chatID = true

end Log

variable {ref chatID userID : String} {limit : Nat} {chats out rest : List String} {log : Log}

/-- Where no more chats refer to the blob than are asked for, none is left out. -/
theorem mem_gather (hlen : chats.length ≤ limit) (hnodup : out.Nodup)
    (hall : ∀ c ∈ out ++ rest, c ∈ chats) {c : String} (hc : c ∈ out ++ rest) :
    c ∈ gather limit out rest := by
  induction rest generalizing out with
  | nil => simpa [gather] using hc
  | cons a rest ih =>
    unfold gather
    split
    · next hin =>
      refine ih hnodup (fun d hd => hall d ?_) ?_
      · simp only [List.mem_append, List.mem_cons] at hd ⊢
        tauto
      · simp only [List.mem_append, List.mem_cons] at hc ⊢
        rcases hc with hc | rfl | hc
        · exact .inl hc
        · exact .inl hin
        · exact .inr hc
    · next hout =>
      have hsnoc : (out ++ [a]).Nodup := RowLog.nodup_snoc hnodup hout
      rw [List.append_cons] at hall hc
      split
      · next hfull =>
        -- What was collected are as many chats as there are.
        have hsub : out ++ [a] ⊆ chats := fun d hd => hall d (List.mem_append_left _ hd)
        have hperm := (hsnoc.subperm hsub).perm_of_length_le (by simpa [hfull] using hlen)
        exact hperm.mem_iff.mpr (hall c hc)
      · exact ih hsnoc hall hc

/-- No more chats are collected than are asked for. -/
theorem length_gather (hlen : out.length < limit) : (gather limit out rest).length ≤ limit := by
  induction rest generalizing out with
  | nil => exact hlen.le
  | cons a rest ih =>
    unfold gather
    split
    · exact ih hlen
    split
    · next hfull =>
      rw [List.length_append, List.length_singleton]
      exact hfull.le
    · next hmore =>
      refine ih ?_
      rw [List.length_append, List.length_singleton]
      exact Nat.lt_of_le_of_ne hlen hmore

lemma mem_mediaRefChats {sh : Shard} (href : ref ≠ "") (hlim : limit ≠ 0)
    (hall : ∀ c, holds sh.store ref c = true → c ∈ chats) (hlen : chats.length ≤ limit) :
    chatID ∈ sh.mediaRefChats ref limit ↔ holds sh.store ref chatID = true := by
  have hsub : sh.order.filter (holds sh.store ref) ⊆ chats := fun c hc =>
    hall c (List.mem_filter.mp hc).2
  have hshort := ((sh.nodup.filter _).subperm hsub).length_le.trans hlen
  rw [Shard.mediaRefChats, mediaRefChats, if_neg href, if_neg hlim,
    List.take_of_length_le hshort, List.mem_filter, and_iff_right_iff_imp]
  intro hholds
  refine sh.visited chatID fun hnil => ?_
  simp [holds, hnil] at hholds

namespace Log

lemma length_mediaRefChats (log : Log) (ref : String) (hlim : 0 < limit) :
    (log.mediaRefChats ref limit).length ≤ limit := by
  cases log with
  | single sh =>
    rw [mediaRefChats, Shard.mediaRefChats, Media.mediaRefChats, if_neg hlim.ne']
    split
    · exact Nat.zero_le _
    · exact List.length_take_le ..
  | sharded shards =>
    rw [mediaRefChats, if_neg hlim.ne']
    exact length_gather hlim

/-- Where no more chats hold the blob than are asked for, each of them is found. -/
lemma mem_mediaRefChats_of_holds (href : ref ≠ "") (hlim : limit ≠ 0)
    (hall : ∀ c, log.Holds ref c → c ∈ chats) (hlen : chats.length ≤ limit)
    (hholds : log.Holds ref chatID) : chatID ∈ log.mediaRefChats ref limit := by
  have hfound : ∀ sh ∈ log.shards, ∀ c,
      c ∈ sh.mediaRefChats ref limit ↔ holds sh.store ref c = true := fun sh hsh _ =>
    mem_mediaRefChats href hlim (fun c hc => hall c ⟨sh, hsh, hc⟩) hlen
  rcases hholds with ⟨sh, hsh, hchat⟩
  cases log with
  | single =>
    obtain rfl := List.mem_singleton.mp hsh
    exact (hfound _ hsh chatID).mpr hchat
  | sharded shards =>
    rw [mediaRefChats, if_neg hlim]
    refine mem_gather hlen .nil (fun c hc => ?_) ?_
    · rcases List.mem_flatMap.mp hc with ⟨sh', hsh', hc⟩
      exact hall c ⟨sh', hsh', (hfound sh' hsh' c).mp hc⟩
    · exact List.mem_flatMap.mpr ⟨sh, hsh, (hfound sh hsh chatID).mpr hchat⟩

end Log

/-- Where a blob is no avatar, it is granted to the members of the chats that are found. -/
lemma mayFetch_eq {avatarRefExists : Option Answer} (huser : userID ≠ "") (href : ref ≠ "")
    (herror : avatarRefExists ≠ some none) (havatar : avatarRefExists ≠ some (some true))
    (isMember : String → Answer) :
    mayFetch (some log.resolver) avatarRefExists isMember userID ref =
      some ((log.mediaRefChats ref mediaAuthChatLimit).any (isMember · = some true)) := by
  rw [mayFetch, if_neg (not_or.mpr ⟨huser, href⟩), if_neg herror, if_neg havatar]
  rfl

/-- A blob is granted to every member of a chat that holds it exactly where it is an avatar, or no
more chats hold it than are asked for. -/
theorem granted_to_members (log : Log) {avatarRefExists : Option Answer} (huser : userID ≠ "")
    (href : ref ≠ "") (herror : avatarRefExists ≠ some none) :
    (∀ (isMember : String → Answer) (chatID : String), isMember chatID = some true →
      log.Holds ref chatID →
      mayFetch (some log.resolver) avatarRefExists isMember userID ref = some true) ↔
    avatarRefExists = some (some true) ∨
      ∃ chats : List String, chats.length ≤ mediaAuthChatLimit ∧
        ∀ chatID, log.Holds ref chatID → chatID ∈ chats := by
  by_cases havatar : avatarRefExists = some (some true)
  · refine iff_of_true (fun isMember _ _ _ => ?_) (.inl havatar)
    rw [mayFetch, if_neg (not_or.mpr ⟨huser, href⟩), if_neg herror, if_pos havatar]
  constructor
  · intro hgrant
    refine .inr ⟨_, log.length_mediaRefChats ref (by decide), fun chatID hholds => ?_⟩
    -- A user who is in no other chat is granted the blob only if this chat was found.
    have hany := hgrant (fun c => some (c = chatID)) chatID (by simp) hholds
    rw [mayFetch_eq huser href herror havatar] at hany
    rcases List.any_eq_true.mp (Option.some.inj hany) with ⟨c, hc, hmember⟩
    have heq : c = chatID := by simpa using hmember
    exact heq ▸ hc
  · rintro (h | ⟨chats, hfew, hall⟩) isMember chatID hmember hholds
    · exact absurd h havatar
    · have hfound := Log.mem_mediaRefChats_of_holds href (by decide) hall hfew hholds
      rw [mayFetch_eq huser href herror havatar]
      exact congrArg some (List.any_eq_true.mpr ⟨chatID, hfound, decide_eq_true hmember⟩)

/-- The blob `m` lies in three chats of two shards. -/
def scattered : Log := .sharded [crowd ["a", "b"] (by decide), crowd ["c"] (by decide)]

/-- A member of one of the three chats is granted the blob. -/
theorem granted_to_members_scattered :
    scattered.mediaRefChats "m" mediaAuthChatLimit = ["a", "b", "c"] ∧
      mayFetch (some scattered.resolver) (some (some false)) (fun c => some (c = "c")) "u" "m" =
        some true := by
  have hall : ∀ c, scattered.Holds "m" c → c ∈ ["a", "b", "c"] := by
    rintro c ⟨sh, hsh, hc⟩
    rcases List.mem_pair.mp hsh with rfl | rfl
    · exact List.mem_append_left ["c"] ((holds_crowd _ c).mp hc)
    · exact List.mem_append_right ["a", "b"] ((holds_crowd _ c).mp hc)
  have hlast : scattered.Holds "m" "c" :=
    ⟨_, List.mem_cons_of_mem _ (List.mem_singleton_self _), by decide⟩
  exact ⟨by decide, (granted_to_members scattered (by decide) (by decide) (by decide)).mpr
    (.inr ⟨_, by decide, hall⟩) _ "c" rfl hlast⟩

/-- Thirty-three chats with the blob. -/
def thirtyThree : Shard := crowd ((List.range 33).map toString) (by decide +kernel)

/-- A member of the last of them is not given it. -/
theorem member_refused : (Log.single thirtyThree).Holds "m" "32" ∧
    mayFetch (some (Log.single thirtyThree).resolver) (some (some false))
      (fun c => some (c = "32")) "u" "m" = some false := by
  exact ⟨⟨_, List.mem_singleton_self _, by decide +kernel⟩, by decide +kernel⟩

end SyncApp.Media
