import Mathlib.Data.List.Chain
import Mathlib.Data.Nat.Digits.Defs
import SyncApp.Foundations.Machine

/-!
# Identifiers

The generator of `server/pkg/id`.  The readings of the clock are inputs: the first one, and by how
much the reading that ends the wait for the next millisecond passes the earliest one accepted.

Main results:

- `ids_increase`: identifiers increase whatever the clock does.
- `formatInt_injective`: as texts they are distinct too.
-/

namespace SyncApp.Messaging

open String (ofList ofList_injective)

/-- `Epoch`: the start of 2024 in unix milliseconds. -/
def epoch : Int := 1704067200000

def maxNode : Nat := 1023

def maxSeq : Nat := 4095

/-- The first millisecond that does not fit the time bits. -/
def horizon : Int := epoch + 2 ^ 41

/-- `Generator`, with the ranges of its fields. -/
structure Generator where
  node : Nat
  lastMs : Int
  sequence : Nat
  node_le : node ≤ maxNode
  lastMs_nonneg : 0 ≤ lastMs
  sequence_le : sequence ≤ maxSeq

/-- `NewGenerator`; {lean}`none` for a node out of range. -/
def newGenerator (node : Int) : Option Generator :=
  if h : 0 ≤ node ∧ node ≤ maxNode then
    some ⟨node.toNat, 0, 0, by omega, le_refl _, Nat.zero_le _⟩
  else none

/-- The clock as one draw reads it: the first reading, and how far past the
earliest acceptable one the reading is that ends the wait, if there is a wait. -/
structure Clock where
  now : Int
  spun : Nat

/-- The identifier of a millisecond, a node and a sequence number, a 64-bit integer.  The fields do
not overlap, so joining them is adding them. -/
def idOf (node : Nat) (ms : Int) (sequence : Nat) : Int :=
  Int.bmod ((ms - epoch) * 2 ^ 22 + node * 2 ^ 12 + sequence) (2 ^ 64)

namespace Generator

variable (g : Generator) (clock : Clock)

/-- The millisecond and sequence number of the next identifier. -/
def tick : Int × Nat :=
  -- A clock that moved backwards is waited out.
  let now := if clock.now < g.lastMs then g.lastMs else clock.now
  if now = g.lastMs then
    let sequence := (g.sequence + 1) % (maxSeq + 1)
    if sequence = 0 then (g.lastMs + 1 + clock.spun, sequence) else (now, sequence)
  else (now, 0)

/-- The ways the clock and the sequence number advance. -/
lemma tick_cases : (g.lastMs < (g.tick clock).1 ∧ (g.tick clock).2 = 0) ∨
      ((g.tick clock).1 = g.lastMs ∧ (g.tick clock).2 = g.sequence + 1 ∧
        g.sequence + 1 ≤ maxSeq) := by
  have hle := g.sequence_le
  unfold tick
  generalize hnow : (if clock.now < g.lastMs then g.lastMs else clock.now) = now
  by_cases hsame : now = g.lastMs
  · rw [if_pos hsame]
    by_cases hfull : (g.sequence + 1) % (maxSeq + 1) = 0
    · left
      rw [if_pos hfull]
      exact ⟨by dsimp only; omega, hfull⟩
    · right
      rw [if_neg hfull]
      unfold maxSeq at *
      exact ⟨hsame, by dsimp only; omega, by omega⟩
  · left
    rw [if_neg hsame]
    exact ⟨by dsimp only; omega, rfl⟩

/-- The generator after a draw. -/
def advance : Generator where
  node := g.node
  lastMs := (g.tick clock).1
  sequence := (g.tick clock).2
  node_le := g.node_le
  lastMs_nonneg := by
    have h := g.lastMs_nonneg
    rcases g.tick_cases clock with ⟨_, -⟩ | ⟨heq, -, -⟩ <;> omega
  sequence_le := by
    rcases g.tick_cases clock with ⟨-, _⟩ | ⟨-, _, _⟩ <;> omega

/-- The identifier drawn last. -/
def lastID : Int := idOf g.node g.lastMs g.sequence

def next : Int × Generator :=
  ((g.advance clock).lastID, g.advance clock)

end Generator

/-- `strconv.FormatInt` in base ten. -/
def formatInt : Int → String
  | .ofNat n => ofList (Nat.toDigits 10 n)
  | .negSucc n => ofList ('-' :: Nat.toDigits 10 (n + 1))

def Generator.nextString (g : Generator) (clock : Clock) : String × Generator :=
  (formatInt (g.next clock).1, (g.next clock).2)

lemma toDigits_inj {m n : Nat} (h : Nat.toDigits 10 m = Nat.toDigits 10 n) : m = n := by
  have hvalue := congrArg (fun digits => Nat.ofDigitChars 10 digits 0) h
  simpa only [Nat.ofDigitChars_ten_toDigits] using hvalue

lemma minus_notMem_toDigits (n : Nat) : '-' ∉ Nat.toDigits 10 n := by
  intro h
  exact absurd (Nat.isDigit_of_mem_toDigits (by decide) (by decide) h) (by decide)

theorem formatInt_injective : Function.Injective formatInt := by
  intro a b h
  cases a with
  | ofNat m =>
    cases b with
    | ofNat => rw [toDigits_inj (ofList_injective h)]
    | negSucc =>
      refine absurd ?_ (minus_notMem_toDigits m)
      rw [ofList_injective h]
      exact List.mem_cons_self
  | negSucc =>
    cases b with
    | ofNat n =>
      refine absurd ?_ (minus_notMem_toDigits n)
      rw [← ofList_injective h]
      exact List.mem_cons_self
    | negSucc =>
      have hdigits := (List.cons.inj (ofList_injective h)).2
      rw [Nat.succ_injective (toDigits_inj hdigits)]

/-- The text of a number consists of digits, but for a minus sign. -/
lemma bar_notMem_formatInt (a : Int) : '|' ∉ (formatInt a).toList := by
  have hdigits : ∀ n, '|' ∉ Nat.toDigits 10 n := by
    intro n h
    exact absurd (Nat.isDigit_of_mem_toDigits (by decide) (by decide) h) (by decide)
  cases a with
  | ofNat n =>
    rw [formatInt, String.toList_ofList]
    exact hdigits n
  | negSucc =>
    rw [formatInt, String.toList_ofList, List.mem_cons, not_or]
    exact ⟨by decide, hdigits _⟩

lemma formatInt_ne_empty (a : Int) : formatInt a ≠ "" := by
  have hemp : ("" : String) = ofList [] := rfl
  intro h
  cases a with
  | ofNat => exact Nat.toDigits_ne_nil (ofList_injective (h.trans hemp))
  | negSucc => exact absurd (ofList_injective (h.trans hemp)) (List.cons_ne_nil _ _)

namespace Generator

variable {g : Generator} {clock : Clock}

lemma lastMs_le_advance (g : Generator) (clock : Clock) :
    g.lastMs ≤ (g.advance clock).lastMs := by
  rcases g.tick_cases clock with ⟨hlt, -⟩ | ⟨heq, -, -⟩
  · exact le_of_lt hlt
  · exact le_of_eq heq.symm

lemma lastID_eq (h : g.lastMs < horizon) :
    g.lastID = (g.lastMs - epoch) * 2 ^ 22 + g.node * 2 ^ 12 + g.sequence := by
  have hnode := g.node_le
  have hms := g.lastMs_nonneg
  have hseq := g.sequence_le
  unfold maxNode at hnode
  unfold maxSeq at hseq
  unfold horizon epoch at h
  unfold lastID idOf epoch
  apply Int.bmod_eq_of_le_mul_two
  · omega
  · omega

/-- Before the horizon every identifier is larger than the one before it. -/
lemma lastID_lt_next (h : (g.advance clock).lastMs < horizon) : g.lastID < (g.next clock).1 := by
  have hle := g.lastMs_le_advance clock
  have hseq := g.sequence_le
  rw [next, lastID_eq h, lastID_eq (lt_of_le_of_lt hle h)]
  unfold maxSeq at hseq
  have hnode : (g.advance clock).node = g.node := rfl
  rcases g.tick_cases clock with ⟨hlt, _⟩ | ⟨heq, hnext, -⟩
  · have hms : g.lastMs < (g.advance clock).lastMs := hlt
    omega
  · have hms : (g.advance clock).lastMs = g.lastMs := heq
    have hsucc : (g.advance clock).sequence = g.sequence + 1 := hnext
    omega

/-- The texts of identifiers drawn so far. -/
def Issued (g : Generator) (id : String) : Prop := ∃ n : Int, id = formatInt n ∧ n ≤ g.lastID

lemma Issued.advance {id : String} (hid : g.Issued id)
    (h : (g.advance clock).lastMs < horizon) : (g.advance clock).Issued id := by
  rcases hid with ⟨n, rfl, hn⟩
  exact ⟨n, rfl, le_trans hn (le_of_lt (lastID_lt_next h))⟩

lemma issued_next (g : Generator) (clock : Clock) :
    (g.nextString clock).2.Issued (g.nextString clock).1 :=
  ⟨_, rfl, le_refl _⟩

lemma Issued.ne_empty {id : String} (hid : g.Issued id) : id ≠ "" := by
  rcases hid with ⟨n, rfl, -⟩
  exact formatInt_ne_empty n

lemma not_issued_next (h : (g.advance clock).lastMs < horizon) :
    ¬ g.Issued (g.nextString clock).1 := by
  rintro ⟨n, htext, hn⟩
  have hlt := lastID_lt_next h
  rw [formatInt_injective htext] at hlt
  exact absurd hn (not_le_of_gt hlt)

/-- A generator some draws later.  As long as the clock has not left its bits,
everything issued before counts as issued. -/
structure Later (g g' : Generator) : Prop where
  lastMs_le : g.lastMs ≤ g'.lastMs
  issued : g'.lastMs < horizon → ∀ id, g.Issued id → g'.Issued id

namespace Later

lemma refl (g : Generator) : Later g g :=
  ⟨le_refl _, fun _ _ hid => hid⟩

lemma trans {g g' g'' : Generator} (h : Later g g') (h' : Later g' g'') : Later g g'' where
  lastMs_le := le_trans h.lastMs_le h'.lastMs_le
  issued hbound id hid :=
    h'.issued hbound id (h.issued (lt_of_le_of_lt h'.lastMs_le hbound) id hid)

lemma nextString (g : Generator) (clock : Clock) : Later g (g.nextString clock).2 where
  lastMs_le := g.lastMs_le_advance clock
  issued hbound _ hid := hid.advance hbound

end Later

/-- An identifier drawn on the way from one generator to a later one. -/
structure Draws (g g' : Generator) (id : String) : Prop where
  drawn : ∃ (h : Generator) (clock : Clock),
    g.Later h ∧ id = (h.nextString clock).1 ∧ (h.nextString clock).2.Later g'

namespace Draws

variable {g' : Generator} {id : String}

lemma first (hlater : (g.nextString clock).2.Later g') : g.Draws g' (g.nextString clock).1 :=
  ⟨⟨g, clock, .refl g, rfl, hlater⟩⟩

lemma not_issued (hdraws : g.Draws g' id) (hbound : g'.lastMs < horizon) : ¬ g.Issued id := by
  rcases hdraws.drawn with ⟨h, clock, hlater, rfl, hlater'⟩
  have hnext : (h.advance clock).lastMs < horizon := lt_of_le_of_lt hlater'.lastMs_le hbound
  intro hissued
  apply not_issued_next hnext
  exact hlater.issued (lt_of_le_of_lt (h.lastMs_le_advance clock) hnext) _ hissued

lemma issued (hdraws : g.Draws g' id) (hbound : g'.lastMs < horizon) : g'.Issued id := by
  rcases hdraws.drawn with ⟨h, clock, -, rfl, hlater⟩
  exact hlater.issued hbound _ (h.issued_next clock)

end Draws

end Generator

/-- `TimeOf`, in unix milliseconds. -/
def timeOf (id : Int) : Int := (id >>> (22 : Nat)) + epoch

namespace Generator

open Foundations.Machine

variable {g : Generator} {clocks : List Clock}

lemma timeOf_lastID (h : g.lastMs < horizon) : timeOf g.lastID = g.lastMs := by
  have hnode := g.node_le
  have hseq := g.sequence_le
  unfold maxNode at hnode
  unfold maxSeq at hseq
  rw [timeOf, Int.shiftRight_eq_div_pow, lastID_eq h]
  omega

lemma lastMs_le_final (g : Generator) (clocks : List Clock) :
    g.lastMs ≤ (final next g clocks).lastMs := by
  induction clocks generalizing g with
  | nil => exact le_refl _
  | cons clock clocks ih => exact le_trans (g.lastMs_le_advance clock) (ih _)

lemma reading_le_final (g : Generator) {clock : Clock} (h : clock ∈ clocks) :
    clock.now ≤ (final next g clocks).lastMs := by
  induction clocks generalizing g with
  | nil => cases h
  | cons first clocks ih =>
    rcases List.mem_cons.mp h with rfl | h
    · refine le_trans ?_ (lastMs_le_final _ clocks)
      simp only [next, advance, tick]
      split_ifs <;> omega
    · exact ih _ h

lemma outputs_increase (h : (final next g clocks).lastMs < horizon) :
    (g.lastID :: outputs next g clocks).IsChain (· < ·) := by
  induction clocks generalizing g with
  | nil => exact .singleton _
  | cons clock clocks ih =>
    exact .cons_cons (lastID_lt_next (lt_of_le_of_lt (lastMs_le_final _ clocks) h)) (ih h)

/-- Whatever is drawn is the last identifier of some generator of the same node. -/
lemma exists_lastID {id : Int} (h : (final next g clocks).lastMs < horizon)
    (hid : id ∈ outputs next g clocks) :
    ∃ g' : Generator, g'.node = g.node ∧ g'.lastMs < horizon ∧ g'.lastID = id := by
  induction clocks generalizing g with
  | nil => cases hid
  | cons clock clocks ih =>
    rcases List.mem_cons.mp hid with rfl | hid
    · exact ⟨g.advance clock, rfl, lt_of_le_of_lt (lastMs_le_final _ clocks) h, rfl⟩
    · exact ih (g := g.advance clock) h hid

lemma lastID_ne {g' : Generator} (h : g.lastMs < horizon) (h' : g'.lastMs < horizon)
    (hne : g.node ≠ g'.node) : g.lastID ≠ g'.lastID := by
  have hnode := g.node_le
  have hnode' := g'.node_le
  have hseq := g.sequence_le
  have hseq' := g'.sequence_le
  unfold maxNode at hnode hnode'
  unfold maxSeq at hseq hseq'
  rw [lastID_eq h, lastID_eq h']
  omega

end Generator

open Foundations.Machine Generator in
/-- Whatever the clock shows within its range: a generator's identifiers increase, another node
draws none of them, and the time of one is not before any reading used up to then. -/
theorem ids_increase (g g' : Generator) (clocks clocks' : List Clock)
    (hrange : (final next g clocks).lastMs < horizon)
    (hrange' : (final next g' clocks').lastMs < horizon) :
    (outputs next g clocks).Pairwise (· < ·) ∧
      (g.node ≠ g'.node → ∀ id ∈ outputs next g clocks, id ∉ outputs next g' clocks') ∧
      ∀ before clock after, clocks = before ++ clock :: after →
        (final next g before).lastMs ≤ timeOf ((final next g before).next clock).1 ∧
          ∀ earlier ∈ before, earlier.now ≤ timeOf ((final next g before).next clock).1 := by
  refine ⟨(List.isChain_iff_pairwise.mp (outputs_increase hrange)).tail, ?_, ?_⟩
  · intro hne id hid hid'
    rcases exists_lastID hrange hid with ⟨h, hnode, hms, rfl⟩
    rcases exists_lastID hrange' hid' with ⟨h', hnode', hms', heq⟩
    exact lastID_ne hms hms' (by rwa [hnode, hnode']) heq.symm
  · rintro before clock after rfl
    rw [final_append, final_cons] at hrange
    have htime : timeOf ((final next g before).next clock).1 = _ :=
      timeOf_lastID (lt_of_le_of_lt (lastMs_le_final _ after) hrange)
    have hle := (final next g before).lastMs_le_advance clock
    rw [htime]
    exact ⟨hle, fun earlier hmem => le_trans (reading_le_final g hmem) hle⟩

/-- The clock steps back, and two draws fall into one millisecond. -/
theorem ids_increase_back : timeOf (Generator.next ⟨3, 0, 0, by decide, by decide, by decide⟩
    ⟨epoch + 7, 0⟩).1 = epoch + 7 ∧
      (Foundations.Machine.outputs Generator.next ⟨3, 0, 0, by decide, by decide, by decide⟩
        [⟨epoch + 7, 0⟩, ⟨epoch + 2, 0⟩, ⟨epoch + 7, 0⟩]).Pairwise (· < ·) :=
  ⟨by decide, (ids_increase _ ⟨4, 0, 0, by decide, by decide, by decide⟩ _ [] (by decide)
    (by decide)).1⟩

end SyncApp.Messaging
