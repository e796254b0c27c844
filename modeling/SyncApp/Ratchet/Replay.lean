import SyncApp.Ratchet.Positions
import SyncApp.Ratchet.Sample

/-!
# A message opens at most once

The keys a session can still use are in its store or at positions its receiving chains have not
reached; no earlier success used one of them.

Main results:

- `Ledger.decrypt`: a success uses a key that no earlier one used.
- `replay_refused`: a frame that was opened is refused in every later state.
-/

namespace SyncApp.Ratchet

open Foundations
open List (append_assoc mem_cons mem_map nodup_append)
open Session (call passed passedBy passed_append skipCount)
open List.Nodup (map_on of_append_left)

/-- `log` lists the keys passed so far and `used` those that opened a message.  A stored key was
passed, not used, and is under one name only. -/
structure Ledger (log used : List Bytes) (m : EvictingMap Bytes Bytes) : Prop where
  stored : ∀ name key, m.lookup name = some key → key ∈ log ∧ key ∉ used
  unique : ∀ name name' key, m.lookup name = some key → m.lookup name' = some key → name = name'
  used_log : ∀ key ∈ used, key ∈ log

namespace Ledger

variable {log used : List Bytes} {m : EvictingMap Bytes Bytes}

lemma empty : Ledger [] [] (EvictingMap.empty : EvictingMap Bytes Bytes) := by
  refine ⟨?_, ?_, ?_⟩
  · intro name key h
    simp at h
  · intro name name' key h
    simp at h
  · intro key h
    simp at h

variable {key : Bytes} {P : Primitives} {s : Session}

lemma store {cap : Nat} (h : Ledger log used m) (name : Bytes) (hnew : key ∉ log) :
    Ledger (log ++ [key]) used (m.store cap name key) := by
  refine ⟨?_, ?_, ?_⟩
  · intro name' key' hlook
    rcases EvictingMap.lookup_store_eq_some hlook with ⟨-, rfl⟩ | ⟨-, hold⟩
    · exact ⟨by simp, fun hused => hnew (h.used_log _ hused)⟩
    · rcases h.stored name' key' hold with ⟨hlog, hused⟩
      exact ⟨by simp [hlog], hused⟩
  · intro n n' key' hn hn'
    rcases EvictingMap.lookup_store_eq_some hn with ⟨rfl, rfl⟩ | ⟨-, hold⟩
    · rcases EvictingMap.lookup_store_eq_some hn' with ⟨rfl, -⟩ | ⟨-, hold'⟩
      · rfl
      · exact absurd (h.stored _ _ hold').1 hnew
    · rcases EvictingMap.lookup_store_eq_some hn' with ⟨-, rfl⟩ | ⟨-, hold'⟩
      · exact absurd (h.stored _ _ hold).1 hnew
      · exact h.unique n n' key' hold hold'
  · intro key' hused
    simp [h.used_log key' hused]

lemma consume {name : Bytes} (h : Ledger log used m) (hlook : m.lookup name = some key) :
    Ledger log (key :: used) (m.consume name) := by
  have hold : ∀ {n k}, (m.consume name).lookup n = some k → n ≠ name ∧ m.lookup n = some k := by
    intro n k hn
    by_cases hname : n = name
    · subst hname
      simp at hn
    · rw [EvictingMap.lookup_consume_ne m hname] at hn
      exact ⟨hname, hn⟩
  refine ⟨?_, ?_, ?_⟩
  · intro n k hn
    rcases hold hn with ⟨hname, hn⟩
    rcases h.stored n k hn with ⟨hlog, hused⟩
    refine ⟨hlog, ?_⟩
    rw [mem_cons, not_or]
    refine ⟨?_, hused⟩
    rintro rfl
    exact hname (h.unique n name k hn hlook)
  · intro n n' k hn hn'
    exact h.unique n n' k (hold hn).2 (hold hn').2
  · intro k hk
    rcases mem_cons.mp hk with rfl | hk
    · exact (h.stored name k hlook).1
    · exact h.used_log k hk

lemma use (h : Ledger log used m) (hnew : key ∉ log) : Ledger (log ++ [key]) (key :: used) m := by
  refine ⟨?_, h.unique, ?_⟩
  · intro name key' hlook
    rcases h.stored name key' hlook with ⟨hlog, hused⟩
    refine ⟨by simp [hlog], ?_⟩
    rw [mem_cons, not_or]
    refine ⟨?_, hused⟩
    rintro rfl
    exact hnew hlog
  · intro key' hkey
    rcases mem_cons.mp hkey with rfl | hkey
    · simp
    · simp [h.used_log key' hkey]

lemma skipBy {ck : Bytes} (hckr : s.ckr = some ck) (h : Ledger log used s.skipped) (k : Nat)
    (hnodup : (log ++ KeyChain.keys (kdfCK P) ck k).Nodup) :
    Ledger (log ++ KeyChain.keys (kdfCK P) ck k) used (s.skipBy P k).skipped := by
  induction k with
  | zero => simpa using h
  | succ k ih =>
    rw [KeyChain.keys_succ, ← append_assoc] at hnodup ⊢
    rw [Session.skipBy_succ_skipped hckr]
    rcases nodup_append.mp hnodup with ⟨hleft, -, hdisj⟩
    apply Ledger.store (ih hleft)
    intro hmem
    exact hdisj _ hmem _ (by simp) rfl

lemma skipMessageKeys {t : Session} {upTo : UInt32} (hskip : s.skipMessageKeys P upTo = .ok t)
    (h : Ledger log used s.skipped)
    (hnodup : (log ++ KeyChain.keys (kdfCK P) (s.ckr.getD []) (s.skipCount upTo)).Nodup) :
    Ledger (log ++ KeyChain.keys (kdfCK P) (s.ckr.getD []) (s.skipCount upTo)) used t.skipped := by
  rcases Session.skipMessageKeys_eq_ok hskip with ⟨-, rfl⟩
  cases hckr : s.ckr with
  | none => simpa [skipCount, hckr] using h
  | some =>
    simp only [hckr, Option.getD_some] at hnodup ⊢
    exact h.skipBy hckr _ hnodup

end Ledger

variable {P : Primitives} {hdr : Header} {keys : Option KeyPair} {log used : List Bytes}
  {s s₀ : Session} {sk : Bytes}

/-- The key a session reaches after catching up, and the ledger there. -/
lemma Ledger.caughtUp {t : Session} {ck : Bytes} (hcatch : Session.CaughtUp P s keys hdr t)
    (hckr : t.ckr = some ck) (h : Ledger log used s.skipped) : ∃ before, (if s.sameDHr hdr.dh then
          KeyChain.keys (kdfCK P) (s.ckr.getD []) (s.skipCount hdr.n + 1) else
          KeyChain.keys (kdfCK P) (s.ckr.getD []) (s.skipCount hdr.pn) ++
            KeyChain.keys (kdfCK P) (s.ratchetChain P hdr) (hdr.n.toNat + 1)) =
        before ++ [(kdfCK P ck).2] ∧
      ((log ++ before).Nodup → Ledger (log ++ before) used t.skipped) := by
  cases hcatch with
  | same hsame hskip =>
    refine ⟨KeyChain.keys (kdfCK P) (s.ckr.getD []) (s.skipCount hdr.n), ?_, ?_⟩
    · rw [if_pos hsame, KeyChain.keys_succ]
      rcases Session.skipMessageKeys_eq_ok hskip with ⟨-, rfl⟩
      cases hs : s.ckr with
      | none => simp [skipCount, hs] at hckr
      | some =>
        rw [Session.skipBy_ckr hs] at hckr
        rw [← Option.some.inj hckr]
        rfl
    · exact Ledger.skipMessageKeys hskip h
  | @ratchet s₁ s₂ s₃ _ hnew hold hrecv hsend hskip =>
    rcases caughtUp_ratchet hold hrecv hsend hskip with
      ⟨hskipped, hchain, hcnt, -, hck⟩
    refine ⟨KeyChain.keys (kdfCK P) (s.ckr.getD []) (s.skipCount hdr.pn) ++
        KeyChain.keys (kdfCK P) (s.ratchetChain P hdr) hdr.n.toNat, ?_, ?_⟩
    · rw [if_neg (by simp [hnew]), KeyChain.keys_succ, ← append_assoc]
      rw [hck] at hckr
      rw [← Option.some.inj hckr]
      rfl
    · intro hnodup
      rw [← append_assoc] at hnodup ⊢
      have hmiddle := Ledger.skipMessageKeys hold h (of_append_left hnodup)
      rw [← hskipped] at hmiddle
      have hlast := Ledger.skipMessageKeys hskip hmiddle
      rw [hcnt, hchain] at hlast
      exact hlast hnodup

/-- A successful `Decrypt` uses a key that no earlier one used, and the
ledger goes on. -/
theorem Ledger.decrypt {ct pt : Bytes} (h : Ledger log used s.skipped)
    (hnodup : (log ++ s.passedBy P keys hdr ct).Nodup)
    (hok : (s.decrypt P keys hdr ct).1 = .ok pt) :
    ∃ key, key ∉ used ∧ aeadOpen P key hdr.bytes ct = some pt ∧
      Ledger (log ++ s.passedBy P keys hdr ct) (key :: used)
        (s.decrypt P keys hdr ct).2.skipped := by
  unfold passedBy at hnodup ⊢
  rw [hok] at hnodup ⊢
  cases hstored : s.trySkipped P hdr ct with
  | some result =>
    -- A stored key: no chain moves and the key leaves the store.
    rcases result with ⟨pt', _⟩
    rcases Session.trySkipped_eq_some hstored with ⟨key, hlook, hopen, rfl⟩
    have hdec : s.decrypt P keys hdr ct =
        (.ok pt', { s with skipped := s.skipped.consume (skKey hdr.dh hdr.n) }) := by
      rw [Session.decrypt, hstored]
    rw [hdec] at hok ⊢
    rw [Except.ok.inj hok] at hopen
    refine ⟨key, (h.stored _ _ hlook).2, hopen, ?_⟩
    simpa using h.consume hlook
  | none =>
    simp only [hstored, Option.isSome_none, Bool.false_eq_true, if_false] at hnodup ⊢
    have hcases := Session.decrypt_cases P s keys hdr ct
    generalize s.decrypt P keys hdr ct = r at hcases hok ⊢
    cases hcases with
    | refused => cases hok
    | stored hlook hopen => simp [Session.trySkipped, hlook, hopen] at hstored
    | @next ck pt' hckr hsame hn hopen =>
      cases hok
      have hcnt : s.skipCount hdr.n = 0 := by simp [skipCount, hn]
      rw [if_pos hsame, hcnt, hckr, KeyChain.keys_one] at hnodup ⊢
      rcases nodup_append.mp hnodup with ⟨-, -, hdisj⟩
      have hnew : (kdfCK P ck).2 ∉ log := fun hmem =>
        hdisj _ hmem _ (by simp) rfl
      exact ⟨(kdfCK P ck).2, fun hused => hnew (h.used_log _ hused), hopen, h.use hnew⟩
    | @caughtUp t ck pt' hcatch hckr hopen =>
      cases hok
      rcases Ledger.caughtUp hcatch hckr h with ⟨before, hpass, hledger⟩
      rw [hpass, ← append_assoc] at hnodup ⊢
      rcases nodup_append.mp hnodup with ⟨hleft, -, hdisj⟩
      have hnew : (kdfCK P ck).2 ∉ log ++ before := fun hmem =>
        hdisj _ hmem _ (by simp) rfl
      refine ⟨(kdfCK P ck).2, ?_, hopen, (hledger hleft).use hnew⟩
      intro hused
      exact hnew (List.mem_append_left _ (h.used_log _ hused))

/-! ## Whole runs -/

lemma Ledger.after (h : Ledger log used s.skipped) (calls : List Call)
    (hnodup : (log ++ s.passed P calls).Nodup) : ∃ used', used ⊆ used' ∧
      Ledger (log ++ s.passed P calls) used' (s.after P calls).skipped := by
  induction calls generalizing s log used with
  | nil => exact ⟨used, fun _ hk => hk, by simpa [passed] using h⟩
  | cons c calls ih =>
    cases c with
    | encrypt => exact ih h hnodup
    | decrypt keys hdr ct =>
      simp only [passed, ← append_assoc] at hnodup ⊢
      have hfirst := of_append_left hnodup
      cases hout : (s.decrypt P keys hdr ct).1 with
      | ok =>
        rcases h.decrypt hfirst hout with ⟨_, -, -, hledger⟩
        rcases ih hledger hnodup with ⟨used', hsub, hlast⟩
        exact ⟨used', fun k hk => hsub (List.mem_cons_of_mem _ hk), hlast⟩
      | error =>
        have hsame := Session.decrypt_of_error hout
        have hnone : s.passedBy P keys hdr ct = [] := by
          simp [passedBy, hout]
        rw [hnone, List.append_nil] at hnodup ⊢
        have hafter : s.after P (.decrypt keys hdr ct :: calls) = s.after P calls := by
          simp [call, hsame]
        simp only [call, hsame] at hnodup
        simp only [call, hsame, hafter]
        exact ih h hnodup

lemma passed_nodup (hnew : Created P sk s₀) (calls : List Call)
    (hdistinct : ∀ p ∈ s₀.positions P (s₀.startTrail P) calls,
      ∀ q ∈ s₀.positions P (s₀.startTrail P) calls, p.key P sk = q.key P sk → p = q) :
    (s₀.passed P calls).Nodup := by
  rcases (Follows.created hnew).after calls with ⟨hkeys, hnodup⟩
  rw [hkeys]
  exact map_on hdistinct (by simpa using hnodup)

lemma Created.ledger (hnew : Created P sk s₀) : Ledger [] [] s₀.skipped := by
  cases hnew with
  | initiator h =>
    rcases newInitiatorSession_eq_ok h with ⟨-, _, _, -, -, rfl⟩
    exact Ledger.empty
  | responder => exact Ledger.empty

/-- Once `Decrypt` has succeeded on a header and ciphertext, no later call on them does, whatever
happens in between.  Distinct positions that the run passes have distinct keys, and a ciphertext
opens under one of them only. -/
theorem replay_refused {P : Primitives} {sk : Bytes} {s₀ : Session} (hnew : Created P sk s₀)
    (first between : List Call) (keys keys' : Option KeyPair) (hdr : Header) (ct pt : Bytes)
    (hdistinct : ∀ p ∈ s₀.positions P (s₀.startTrail P)
        (first ++ .decrypt keys hdr ct :: between ++ [.decrypt keys' hdr ct]),
      ∀ q ∈ s₀.positions P (s₀.startTrail P)
        (first ++ .decrypt keys hdr ct :: between ++ [.decrypt keys' hdr ct]),
      p.key P sk = q.key P sk → p = q) (hideal : ∀ p ∈ s₀.positions P (s₀.startTrail P)
        (first ++ .decrypt keys hdr ct :: between ++ [.decrypt keys' hdr ct]),
      ∀ q ∈ s₀.positions P (s₀.startTrail P)
        (first ++ .decrypt keys hdr ct :: between ++ [.decrypt keys' hdr ct]),
      (aeadOpen P (p.key P sk) hdr.bytes ct).isSome →
      (aeadOpen P (q.key P sk) hdr.bytes ct).isSome → p.key P sk = q.key P sk)
    (hopened : ((s₀.after P first).decrypt P keys hdr ct).1 = .ok pt) :
    ∃ e, ((s₀.after P (first ++ .decrypt keys hdr ct :: between)).decrypt P keys' hdr ct).1 =
      .error e := by
  have hnodup := passed_nodup hnew _ hdistinct
  have hkeys := ((Follows.created hnew).after
    (first ++ .decrypt keys hdr ct :: between ++ [.decrypt keys' hdr ct])).1
  have hone : ∀ key ∈ s₀.passed P
        (first ++ .decrypt keys hdr ct :: between ++ [.decrypt keys' hdr ct]),
      ∀ key' ∈ s₀.passed P (first ++ .decrypt keys hdr ct :: between ++ [.decrypt keys' hdr ct]),
      (aeadOpen P key hdr.bytes ct).isSome → (aeadOpen P key' hdr.bytes ct).isSome →
        key = key' := by
    rw [hkeys]
    intro key hkey key' hkey'
    rcases mem_map.mp hkey with ⟨p, hp, rfl⟩
    rcases mem_map.mp hkey' with ⟨q, hq, rfl⟩
    exact hideal p hp q hq
  rw [passed_append, passed_append] at hnodup hone
  have hbetween := of_append_left hnodup
  rcases hnew.ledger.after first (by simpa using of_append_left hbetween) with
    ⟨_, -, hledger₁⟩
  simp only [passed, ← append_assoc] at hbetween
  rcases hledger₁.decrypt (of_append_left hbetween) hopened with
    ⟨key, -, hkey, hledger₂⟩
  rcases hledger₂.after between hbetween with ⟨used₃, hsub, hledger₃⟩
  have hused : key ∈ used₃ := hsub List.mem_cons_self
  have hafter : s₀.after P (first ++ .decrypt keys hdr ct :: between) =
      Session.after P ((s₀.after P first).decrypt P keys hdr ct).2 between := by
    rw [Session.after, Machine.final_append]
    rfl
  simp only [passed, List.append_nil, ← append_assoc] at hnodup hone
  rw [hafter] at hnodup hone ⊢
  cases hout : ((Session.after P ((s₀.after P first).decrypt P keys hdr ct).2 between).decrypt
      P keys' hdr ct).1 with
  | error e => exact ⟨e, rfl⟩
  | ok =>
    -- A second success would use a key the first one has used.
    exfalso
    rcases hledger₃.decrypt hnodup hout with ⟨key', hfresh, hkey', hledger₄⟩
    have heq : key = key' := by
      apply hone key _ key' _
      · simp [hkey]
      · simp [hkey']
      · exact List.mem_append_left _ (hledger₃.used_log key hused)
      · exact hledger₄.used_log key' List.mem_cons_self
    exact hfresh (heq ▸ hused)

open Sample in
/-- A frame that arrived early, then the one before it, then the first again. -/
theorem replay_refused_out_of_order : ∃ e, ((bob.after primitives
      [.decrypt (some replyKey) (frame 1 [42]).1 (frame 1 [42]).2, .encrypt [3],
        .decrypt none (frame 0 [41]).1 (frame 0 [41]).2]).decrypt primitives none
          (frame 1 [42]).1 (frame 1 [42]).2).1 = .error e := by
  refine replay_refused (.responder preKey) []
    [.encrypt [3], .decrypt none (frame 0 [41]).1 (frame 0 [41]).2] (some replyKey) none
    (frame 1 [42]).1 (frame 1 [42]).2 [42] ?_ ?_ ?_
  · decide +kernel
  · decide +kernel
  · decide +kernel

end SyncApp.Ratchet
