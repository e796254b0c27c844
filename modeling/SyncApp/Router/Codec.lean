import SyncApp.Foundations.Framing

/-!
# Deliveries between nodes

The encoding of `server/internal/router/codec.go`, over bytes.  A decoder refuses its input, or
reads outside of it: the outer `none`.  Its cursor latches an error and goes on; it refines a parser
that stops at the first.  The reader of legacy documents is an argument.

Main results:

- `decodeNodeDelivery_eq`: the decoder is the parser.
- `codec_exact`: what is read back, refused and allocated.
-/

namespace SyncApp.Router

open Foundations List
open Option (bind_some getD_some map_some)
open UInt16 (ofNat)
open Parser.Yields (bind pure)
open Parser.Reads (bind pure times)
open BigEndian (decode encode)

structure NodeDelivery where
  users : List (List UInt8)
  deviceID : List UInt8
  type : UInt16
  body : List UInt8

variable (b : List UInt8)

def appendUint16 (v : UInt16) : List UInt8 := b ++ encode 2 v.toNat

def appendUint32 (v : UInt32) : List UInt8 := b ++ encode 4 v.toNat

def appendLenPrefixed (b s : List UInt8) : List UInt8 :=
  appendUint16 b (ofNat s.length) ++ s

def nodeDeliveryV1 : UInt8 := 0x01

namespace NodeDelivery

def encode (n : NodeDelivery) : List UInt8 :=
  let b := [nodeDeliveryV1]
  let b := appendUint16 b n.type
  let b := appendLenPrefixed b n.deviceID
  let b := appendUint16 b (ofNat n.users.length)
  let b := n.users.foldl appendLenPrefixed b
  let b := appendUint32 b (UInt32.ofNat n.body.length)
  b ++ n.body

structure Fits (n : NodeDelivery) : Prop where
  device : n.deviceID.length < 65536
  count : n.users.length < 65536
  users : ∀ u ∈ n.users, u.length < 65536
  body : n.body.length < 4294967296

end NodeDelivery

/-- The bytes from one index to another, if they are there. -/
def slice (i j : Nat) : Option (List UInt8) :=
  if i ≤ j ∧ j ≤ b.length then some ((b.drop i).take (j - i)) else none

/-- The number in the first bytes, if there are so many. -/
def readUint (width : Nat) (b : List UInt8) : Option Nat :=
  if width ≤ b.length then some (decode (b.take width)) else none

structure Reader where
  b : List UInt8
  i : Nat
  err : Bool

namespace Reader

variable (r : Reader)

def remaining : Nat := if r.err ∨ r.i > r.b.length then 0 else r.b.length - r.i

/-- The fixed-width reads. -/
def uint (width : Nat) (r : Reader) : Option (Nat × Reader) :=
  if r.remaining < width then some (0, { r with err := true })
  else do
    let b ← slice r.b r.i r.b.length
    let v ← readUint width b
    some (v, { r with i := r.i + width })

def uint16 : Option (UInt16 × Reader) := do
  let (v, r) ← r.uint 2
  some (ofNat v, r)

def uint32 : Option (UInt32 × Reader) := do
  let (v, r) ← r.uint 4
  some (UInt32.ofNat v, r)

/-- The second half of `str`. -/
def take (n : Nat) (r : Reader) : Option (List UInt8 × Reader) :=
  if r.err ∨ n > r.remaining then some ([], { r with err := true })
  else do
    let s ← slice r.b r.i (r.i + n)
    some (s, { r with i := r.i + n })

def str : Option (List UInt8 × Reader) := do
  let (n, r) ← r.uint16
  r.take n.toNat

/-- The loop over the recipients. -/
def strs : Nat → Reader → Option (List (List UInt8) × Reader)
  | 0, r => some ([], r)
  | n + 1, r => do
      let (s, r) ← r.str
      let (ss, r) ← strs n r
      some (s :: ss, r)

end Reader

structure LegacyDelivery where
  userID : List UInt8
  deviceID : List UInt8
  type : UInt16
  body : List UInt8

/-- Why a decoder refuses its input. -/
inductive DecodeError where
  | badNodeDelivery
  | json (message : String)

/-- What a decoder that does not stop the program has done: the entries it has allocated for
recipients, and its result. -/
structure Decoding where
  allocated : Nat
  result : Except DecodeError NodeDelivery

section Decoder

variable (unmarshal : List UInt8 → Except String LegacyDelivery)

def decodeLegacyJSON (b : List UInt8) : Decoding :=
  match unmarshal b with
  | .error message => ⟨0, .error (.json message)⟩
  | .ok legacy =>
    let users := if legacy.userID ≠ [] then [legacy.userID] else []
    ⟨users.length, .ok ⟨users, legacy.deviceID, legacy.type, legacy.body⟩⟩

/-- `DecodeNodeDelivery` after the count of recipients. -/
def decodeTail (type : UInt16) (deviceID : List UInt8) (count : Nat) (r : Reader) :
    Option Decoding :=
  if count > 0 ∧ count * 2 > r.remaining then some ⟨0, .error .badNodeDelivery⟩
  else do
    let (users, r) ← r.strs count
    let (bodyLen, r) ← r.uint32
    let bodyLen := bodyLen.toNat
    if r.err ∨ bodyLen > r.remaining then some ⟨count, .error .badNodeDelivery⟩
    else
      let body ← slice r.b r.i (r.i + bodyLen)
      some ⟨count, .ok ⟨users, deviceID, type, body⟩⟩

def decodeNodeDelivery (b : List UInt8) : Option Decoding :=
  match b with
  | [] => some ⟨0, .error .badNodeDelivery⟩
  | first :: _ =>
    if first = 0x7b then some (decodeLegacyJSON unmarshal b)
    else if first ≠ nodeDeliveryV1 then some ⟨0, .error .badNodeDelivery⟩
    else do
      let r : Reader := ⟨b, 1, false⟩
      let (type, r) ← r.uint16
      let (deviceID, r) ← r.str
      let (count, r) ← r.uint16
      decodeTail type deviceID count.toNat r

end Decoder

namespace DeliveryParser

/-- Two bytes. -/
def word16 : Parser UInt16 := (Parser.word 2).bind fun n => .pure (ofNat n)

/-- Four bytes. -/
def word32 : Parser UInt32 := (Parser.word 4).bind fun n => .pure (UInt32.ofNat n)

/-- A string after its length. -/
def str : Parser (List UInt8) := word16.bind fun n => Parser.chunk n.toNat

/-- The part before the recipients. -/
def header : Parser (UInt16 × List UInt8 × UInt16) :=
  word16.bind fun type => str.bind fun deviceID => word16.bind fun count =>
    .pure (type, deviceID, count)

/-- The part after the header. -/
def rest (head : UInt16 × List UInt8 × UInt16) : Parser NodeDelivery :=
  (str.times head.2.2.toNat).bind fun users => word32.bind fun bodyLen =>
    (Parser.chunk bodyLen.toNat).bind fun body => .pure ⟨users, head.2.1, head.1, body⟩

/-- A delivery, after its marker. -/
def delivery : Parser NodeDelivery := header.bind rest

lemma reads_word16 (v : UInt16) : word16.Reads (encode 2 v.toNat) v := by
  have hread := (Parser.reads_word (w := 2) v.toNat_lt).bind
    (f := fun n => .pure (ofNat n)) (pure _)
  rwa [append_nil, UInt16.ofNat_toNat] at hread

lemma reads_word32 (v : UInt32) : word32.Reads (encode 4 v.toNat) v := by
  have hread := (Parser.reads_word (w := 4) v.toNat_lt).bind
    (f := fun n => .pure (UInt32.ofNat n)) (pure _)
  rwa [append_nil, UInt32.ofNat_toNat] at hread

lemma reads_str {s : List UInt8} (h : s.length < 65536) :
    str.Reads (appendLenPrefixed [] s) s := by
  refine (reads_word16 (ofNat s.length)).bind (Parser.reads_chunk ?_)
  exact (UInt16.toNat_ofNat_of_lt' h).symm

lemma yields_str : str.Yields fun s => s.length < 65536 := by
  refine bind (P := fun _ => True) (fun _ _ _ _ => trivial) fun n _ => ?_
  intro b s more hrun
  rw [Parser.yields_chunk n.toNat b s more hrun]
  exact n.toNat_lt

lemma consumes_word16 : word16.Consumes 2 :=
  ((Parser.consumes_chunk 2).bind fun _ => Parser.consumes_pure _).bind
    fun _ => Parser.consumes_pure _

lemma consumes_str : str.Consumes 2 := by
  refine consumes_word16.bind (k := 0) fun n b s more hrun => ?_
  have hchunk := Parser.consumes_chunk n.toNat b s more hrun
  omega

lemma consumes_header : header.Consumes 6 :=
  consumes_word16.bind fun _ => consumes_str.bind fun _ => consumes_word16.bind fun _ =>
    Parser.consumes_pure _

lemma foldl_appendLenPrefixed (users : List (List UInt8)) (b : List UInt8) :
    users.foldl appendLenPrefixed b = b ++ users.flatMap (appendLenPrefixed []) := by
  induction users generalizing b with
  | nil => simp
  | cons u users ih =>
    rw [foldl_cons, ih, flatMap_cons]
    simp [appendLenPrefixed, appendUint16]

variable (n : NodeDelivery)

/-- What follows the marker. -/
def unmarked : List UInt8 :=
  (encode 2 n.type.toNat ++ (appendLenPrefixed [] n.deviceID ++
    (encode 2 (ofNat n.users.length).toNat ++ []))) ++
  (n.users.flatMap (appendLenPrefixed []) ++
    (encode 4 (UInt32.ofNat n.body.length).toNat ++ (n.body ++ [])))

lemma encode_eq : n.encode = nodeDeliveryV1 :: unmarked n := by
  unfold NodeDelivery.encode unmarked
  dsimp only
  rw [foldl_appendLenPrefixed]
  simp [appendLenPrefixed, appendUint16, appendUint32]

lemma head_encode : n.encode.head? ≠ some 0x7b := by
  rw [encode_eq]
  simp [nodeDeliveryV1]

lemma reads_delivery {n : NodeDelivery} (h : n.Fits) : delivery.Reads (unmarked n) n := by
  have hcnt : (ofNat n.users.length).toNat = n.users.length :=
    UInt16.toNat_ofNat_of_lt' h.count
  have hbody : (UInt32.ofNat n.body.length).toNat = n.body.length :=
    UInt32.toNat_ofNat_of_lt' h.body
  have hhdr := (reads_word16 n.type).bind
    (f := fun type => str.bind fun deviceID => word16.bind fun count =>
      .pure (type, deviceID, count))
    ((reads_str h.device).bind ((reads_word16 (ofNat n.users.length)).bind
      (pure _)))
  refine bind hhdr ?_
  have husers : (str.times (ofNat n.users.length).toNat).Reads
      (n.users.flatMap (appendLenPrefixed [])) n.users := by
    rw [hcnt]
    exact times n.users fun u hu => reads_str (h.users u hu)
  exact husers.bind ((reads_word32 (UInt32.ofNat n.body.length)).bind
    ((Parser.reads_chunk hbody.symm).bind (pure n)))

lemma yields_delivery : delivery.Yields NodeDelivery.Fits := by
  have hhdr : header.Yields fun head => head.2.1.length < 65536 :=
    bind (P := fun _ => True) (fun _ _ _ _ => trivial) fun type _ =>
      yields_str.bind fun deviceID hdev =>
        bind (P := fun _ => True) (fun _ _ _ _ => trivial) fun count _ =>
          pure hdev
  refine hhdr.bind fun head hdev => ?_
  refine (yields_str.times head.2.2.toNat).bind fun users husers => ?_
  refine bind (P := fun _ => True) (fun _ _ _ _ => trivial) fun bodyLen _ => ?_
  refine (Parser.yields_chunk bodyLen.toNat).bind fun body hbody => pure ?_
  exact {
    device := hdev
    count := husers.1 ▸ head.2.2.toNat_lt
    users := husers.2
    body := hbody ▸ bodyLen.toNat_lt }

end DeliveryParser

/-! ## The cursor refines the parser -/

namespace Reader

/-- Where the cursor stands in the bytes: before the rest that is given, or after an error. -/
def At (b : List UInt8) (r : Reader) : Option (List UInt8) → Prop
  | none => r.b = b ∧ r.err = true
  | some rest => r.b = b ∧ r.err = false ∧ r.i ≤ b.length ∧ b.drop r.i = rest

/-- An operation does not read outside of the bytes, and reads what the parser does.  After an
error it goes on, with an error. -/
def Refines {α : Type} (op : Reader → Option (α × Reader)) (p : Parser α) : Prop :=
  ∀ b r o, At b r o → ∃ v r', op r = some (v, r') ∧
    At b r' ((o.bind p.run).map Prod.snd) ∧ ∀ y ∈ o.bind p.run, v = y.1

variable {b rest : List UInt8} {o : Option (List UInt8)} {r : Reader} {n : Nat} {α : Type}

lemma remaining_of_at (h : At b r o) : r.remaining = (o.getD []).length := by
  unfold remaining
  cases o with
  | none => simp [h.2]
  | some =>
    rcases h with ⟨rfl, herr, _, rfl⟩
    rw [if_neg (by simp [herr]; omega), getD_some, length_drop]

lemma slice_of_at (h : At b r (some rest)) (hn : n ≤ rest.length) :
    slice r.b r.i (r.i + n) = some (rest.take n) := by
  rcases h with ⟨rfl, _, _, rfl⟩
  rw [length_drop] at hn
  rw [slice, if_pos ⟨by omega, by omega⟩, Nat.add_sub_cancel_left]

lemma At.advance (h : At b r (some rest)) (hn : n ≤ rest.length) :
    At b { r with i := r.i + n } (some (rest.drop n)) := by
  rcases h with ⟨rfl, herr, _, rfl⟩
  rw [length_drop] at hn
  have hbound : r.i + n ≤ r.b.length := by omega
  refine ⟨rfl, herr, hbound, ?_⟩
  rw [drop_drop]

lemma At.fail (h : At b r o) : At b { r with err := true } none := by
  cases o with
  | none | some => exact ⟨h.1, rfl⟩

lemma Refines.pure (a : α) : Refines (fun r => some (a, r)) (.pure a) := by
  intro b r o h
  refine ⟨a, r, rfl, ?_⟩
  cases o with
  | none => simpa using h
  | some => simpa [Parser.pure] using h

/-- Operations one after the other read what the parsers do one after the other. -/
lemma Refines.bind {β : Type} {op : Reader → Option (α × Reader)} {p : Parser α}
    {next : α → Reader → Option (β × Reader)} {f : α → Parser β} (hp : Refines op p)
    (hf : ∀ a, Refines (next a) (f a)) :
    Refines (fun r => (op r).bind fun x => next x.1 x.2) (p.bind f) := by
  intro b r o h
  rcases hp b r o h with ⟨v, r', hop, hat, hv⟩
  rcases hf v b r' _ hat with ⟨w, r'', hnext, hat', hw⟩
  refine ⟨w, r'', ?_, ?_⟩
  · simp only [hop, bind_some, hnext]
  · -- The second parser runs on what the first one leaves.
    have hrun : o.bind (p.bind f).run = ((o.bind p.run).map Prod.snd).bind (f v).run := by
      cases hparse : o.bind p.run with
      | none =>
        cases o with
        | none => rfl
        | some =>
          rw [bind_some] at hparse
          simp [Parser.run_bind, hparse]
      | some y =>
        cases o with
        | none => cases hparse
        | some =>
          have hvy : v = y.1 := hv y hparse
          rw [bind_some] at hparse
          simp [Parser.run_bind, hparse, hvy]
    rw [hrun]
    exact ⟨hat', hw⟩

lemma refines_uint {width : Nat} (hwidth : 0 < width) :
    Refines (uint width) (Parser.word width) := by
  intro b r o h
  have hrem := remaining_of_at h
  unfold uint
  by_cases hshort : r.remaining < width
  · rw [if_pos hshort]
    refine ⟨0, _, rfl, ?_⟩
    have hnone : o.bind (Parser.word width).run = none := by
      cases o with
      | none => rfl
      | some =>
        rw [hrem, getD_some] at hshort
        simp [Parser.word, Parser.run_bind, Parser.chunk, hshort]
    rw [hnone]
    exact ⟨h.fail, by simp⟩
  · rw [if_neg hshort]
    cases o with
    | none =>
      simp at hrem
      omega
    | some rest =>
      rw [hrem, getD_some, Nat.not_lt] at hshort
      have hall : slice r.b r.i r.b.length = some rest := by
        have hslice := slice_of_at h (Nat.le_refl rest.length)
        have hend : r.i + rest.length = r.b.length := by
          rcases h with ⟨rfl, _, _, rfl⟩
          rw [length_drop]
          omega
        rwa [hend, take_length] at hslice
      refine ⟨decode (rest.take width), { r with i := r.i + width }, ?_, ?_⟩
      · simp [hall, readUint, hshort]
      · have hrun : (Parser.word width).run rest =
            some (decode (rest.take width), rest.drop width) := by
          simp [Parser.word, Parser.run_bind, Parser.chunk, Parser.pure, hshort]
        rw [bind_some, hrun]
        exact ⟨h.advance hshort, by simp⟩

lemma refines_uint16 : Refines uint16 DeliveryParser.word16 :=
  (refines_uint (by decide)).bind fun n => Refines.pure (ofNat n)

lemma refines_uint32 : Refines uint32 DeliveryParser.word32 :=
  (refines_uint (by decide)).bind fun n => Refines.pure (UInt32.ofNat n)

lemma refines_take (n : Nat) : Refines (take n) (Parser.chunk n) := by
  intro b r o h
  have hrem := remaining_of_at h
  unfold take
  cases o with
  | none =>
    rw [if_pos (Or.inl h.2)]
    exact ⟨[], _, rfl, h.fail, by simp⟩
  | some rest =>
    rw [getD_some] at hrem
    by_cases hshort : n > r.remaining
    · rw [if_pos (Or.inr hshort)]
      have hnone : (Parser.chunk n).run rest = none :=
        Parser.run_chunk_of_lt (by omega)
      refine ⟨[], _, rfl, ?_⟩
      rw [bind_some, hnone]
      exact ⟨h.fail, by simp⟩
    · have hn : n ≤ rest.length := by omega
      have herr : r.err = false := h.2.1
      refine ⟨rest.take n, { r with i := r.i + n }, ?_, ?_⟩
      · rw [if_neg (by simp [herr]; omega), slice_of_at h hn]
        rfl
      · rw [bind_some, Parser.run_chunk_of_le hn]
        exact ⟨h.advance hn, by simp⟩

lemma refines_str : Refines str DeliveryParser.str :=
  refines_uint16.bind fun n => refines_take n.toNat

lemma refines_strs (n : Nat) : Refines (strs n) (DeliveryParser.str.times n) := by
  induction n with
  | zero => exact Refines.pure []
  | succ n ih => exact refines_str.bind fun s => ih.bind fun ss => Refines.pure (s :: ss)

end Reader

/-! ## The decoder -/

section Decoder

variable (unmarshal : List UInt8 → Except String LegacyDelivery)

/-- What a parser makes of its input. -/
def outcome (x : Option (NodeDelivery × List UInt8)) : Except DecodeError NodeDelivery :=
  match x with
  | none => .error .badNodeDelivery
  | some (n, _) => .ok n

variable {b : List UInt8} {r : Reader} {n : NodeDelivery}

lemma decodeTail_of_err (h : r.At b none) (type : UInt16) (deviceID : List UInt8) (count : Nat) :
    decodeTail type deviceID count r = some ⟨0, .error .badNodeDelivery⟩ := by
  unfold decodeTail
  have hrem := Reader.remaining_of_at h
  rw [Option.getD_none, length_nil] at hrem
  by_cases hcnt : count > 0
  · rw [if_pos ⟨hcnt, by omega⟩]
  obtain rfl : count = 0 := by omega
  rcases Reader.refines_uint32 b r none h with ⟨v, r', hop, hat, _⟩
  have herr : r'.err = true := hat.2
  simp [Reader.strs, hop, herr]

/-- After a header the decoder reads the recipients and the body as the parser does. -/
lemma decodeTail_eq {rest : List UInt8} (h : r.At b (some rest))
    (head : UInt16 × List UInt8 × UInt16) :
    ∃ allocated ≤ rest.length, decodeTail head.1 head.2.1 head.2.2.toNat r =
      some ⟨allocated, outcome ((DeliveryParser.rest head).run rest)⟩ := by
  have hrem := Reader.remaining_of_at h
  rw [getD_some] at hrem
  unfold decodeTail DeliveryParser.rest
  rw [Parser.run_bind]
  by_cases hcnt : head.2.2.toNat > 0 ∧ head.2.2.toNat * 2 > r.remaining
  · -- The parser runs out of bytes among the recipients.
    refine ⟨0, Nat.zero_le _, ?_⟩
    rw [if_pos hcnt]
    cases hrun : (DeliveryParser.str.times head.2.2.toNat).run rest with
    | none => rfl
    | some x =>
      have hcons := DeliveryParser.consumes_str.times head.2.2.toNat rest x.1 x.2 hrun
      omega
  · refine ⟨head.2.2.toNat, by omega, ?_⟩
    rw [if_neg hcnt]
    rcases Reader.refines_strs head.2.2.toNat b r _ h with ⟨users, r₁, hop₁, hat₁, husers⟩
    rcases Reader.refines_uint32 b r₁ _ hat₁ with ⟨bodyLen, r₂, hop₂, hat₂, hbodyLen⟩
    simp only [hop₁, hop₂, Option.bind_eq_bind, bind_some]
    rw [bind_some] at hat₂ hbodyLen husers
    cases hrun₁ : (DeliveryParser.str.times head.2.2.toNat).run rest with
    | none =>
      rw [hrun₁] at hat₂
      rw [if_pos (Or.inl hat₂.2)]
      rfl
    | some x =>
      rw [hrun₁, map_some, bind_some] at hat₂ hbodyLen
      rw [bind_some, Parser.run_bind]
      cases hrun₂ : DeliveryParser.word32.run x.2 with
      | none =>
        rw [hrun₂] at hat₂
        rw [if_pos (Or.inl hat₂.2)]
        rfl
      | some y =>
        rw [hrun₂, map_some] at hat₂
        obtain rfl : users = x.1 := husers x hrun₁
        obtain rfl : bodyLen = y.1 := hbodyLen y hrun₂
        have hleft := Reader.remaining_of_at hat₂
        rw [getD_some] at hleft
        rw [bind_some, Parser.run_bind]
        by_cases hshort : y.1.toNat > r₂.remaining
        · rw [if_pos (Or.inr hshort), Parser.run_chunk_of_lt (by omega)]
          rfl
        · have herr : r₂.err = false := hat₂.2.1
          have hbody : y.1.toNat ≤ y.2.length := by omega
          rw [if_neg (by simp [herr]; omega), Reader.slice_of_at hat₂ hbody,
            Parser.run_chunk_of_le hbody]
          rfl

/-- The decoder reads what the parser does, and refuses what the parser refuses. -/
theorem decodeNodeDelivery_eq (rest : List UInt8) :
    ∃ allocated ≤ rest.length, decodeNodeDelivery unmarshal (nodeDeliveryV1 :: rest) =
      some ⟨allocated, outcome (DeliveryParser.delivery.run rest)⟩ := by
  have hstart : Reader.At (nodeDeliveryV1 :: rest) ⟨nodeDeliveryV1 :: rest, 1, false⟩ (some rest) :=
    ⟨rfl, rfl, by simp, rfl⟩
  have hhdr : Reader.Refines
      (fun r => r.uint16.bind fun x => x.2.str.bind fun y => y.2.uint16.bind fun z =>
        some ((x.1, y.1, z.1), z.2)) DeliveryParser.header :=
    Reader.refines_uint16.bind fun type => Reader.refines_str.bind fun deviceID =>
      Reader.refines_uint16.bind fun count => Reader.Refines.pure (type, deviceID, count)
  rcases hhdr _ _ _ hstart with ⟨head, r, hop, hat, hhead⟩
  have hdec : decodeNodeDelivery unmarshal (nodeDeliveryV1 :: rest) =
      decodeTail head.1 head.2.1 head.2.2.toNat r := by
    have hbind := congrArg
      (Option.bind · fun w => decodeTail w.1.1 w.1.2.1 w.1.2.2.toNat w.2) hop
    simp only [Option.bind_assoc, bind_some] at hbind
    unfold decodeNodeDelivery
    dsimp only
    exact hbind
  rw [hdec, DeliveryParser.delivery, Parser.run_bind]
  rw [bind_some] at hat hhead
  cases hrun : DeliveryParser.header.run rest with
  | none =>
    rw [hrun] at hat
    exact ⟨0, Nat.zero_le _, decodeTail_of_err hat _ _ _⟩
  | some x =>
    rw [hrun, map_some] at hat
    obtain rfl : head = x.1 := hhead x hrun
    rcases decodeTail_eq hat x.1 with ⟨allocated, _, htail⟩
    have hcons := DeliveryParser.consumes_header rest x.1 x.2 hrun
    exact ⟨allocated, by omega, htail⟩

/-- The result of decoding bytes, if the program goes on. -/
def decodes (b : List UInt8) : Option (Except DecodeError NodeDelivery) :=
  (decodeNodeDelivery unmarshal b).map Decoding.result

/-- What is decoded fits, unless it came from a legacy document. -/
lemma fits_of_decodes (h : decodes unmarshal b = some (.ok n)) (hb : b.head? ≠ some 0x7b) :
    n.Fits := by
  rcases Option.map_eq_some_iff.mp h with ⟨d, hdec, hn⟩
  cases b with
  | nil =>
    cases hdec
    cases hn
  | cons first rest =>
    by_cases hfirst : first = nodeDeliveryV1
    · subst hfirst
      rcases decodeNodeDelivery_eq unmarshal rest with ⟨_, _, hparse⟩
      rw [hparse, Option.some.injEq] at hdec
      subst hdec
      cases hrun : DeliveryParser.delivery.run rest with
      | none => simp [outcome, hrun] at hn
      | some x =>
        obtain rfl : x.1 = n := by simpa [outcome, hrun] using hn
        exact DeliveryParser.yields_delivery rest x.1 x.2 hrun
    · have hlegacy : first ≠ 0x7b := by simpa using hb
      simp only [decodeNodeDelivery, if_neg hlegacy, if_pos hfirst, Option.some.injEq]
        at hdec
      subst hdec
      cases hn

/-- What decoding gives: nothing stops the program, and the entries that are allocated are no
more than the bytes. -/
lemma decode_total (b : List UInt8) :
    ∃ d, decodeNodeDelivery unmarshal b = some d ∧ d.allocated ≤ b.length := by
  cases b with
  | nil => exact ⟨_, rfl, Nat.le_refl 0⟩
  | cons first rest =>
    by_cases hlegacy : first = 0x7b
    · refine ⟨decodeLegacyJSON unmarshal (first :: rest), ?_, ?_⟩
      · simp only [decodeNodeDelivery, if_pos hlegacy]
      · unfold decodeLegacyJSON
        split
        · exact Nat.zero_le _
        · split <;> simp
    · by_cases hfirst : first = nodeDeliveryV1
      · subst hfirst
        rcases decodeNodeDelivery_eq unmarshal rest with ⟨_, hallocated, hdec⟩
        exact ⟨_, hdec, Nat.le_succ_of_le hallocated⟩
      · refine ⟨⟨0, .error .badNodeDelivery⟩, ?_, Nat.zero_le _⟩
        simp only [decodeNodeDelivery, if_neg hlegacy, if_pos hfirst]

lemma decodes_encode (h : n.Fits) : decodes unmarshal n.encode = some (.ok n) := by
  have hrun := DeliveryParser.reads_delivery h []
  rw [append_nil] at hrun
  rcases decodeNodeDelivery_eq unmarshal (DeliveryParser.unmarked n) with
    ⟨_, _, hdec⟩
  rw [decodes, DeliveryParser.encode_eq, hdec, hrun]
  rfl

lemma decodes_cut (h : n.Fits) (hb : b <+: n.encode) (hne : b ≠ n.encode) :
    decodes unmarshal b = some (.error .badNodeDelivery) := by
  rw [DeliveryParser.encode_eq] at hb hne
  cases b with
  | nil => rfl
  | cons first rest =>
    rw [cons_prefix_cons] at hb
    rcases hb with ⟨rfl, hrest⟩
    have hcut : rest ≠ DeliveryParser.unmarked n := fun heq => hne (congrArg _ heq)
    have hrun := (DeliveryParser.reads_delivery h).run_cut hrest hcut
    rcases decodeNodeDelivery_eq unmarshal rest with ⟨_, _, hdec⟩
    rw [decodes, hdec, hrun]
    rfl

/-- The encoding is exact and the decoder total. -/
structure ExactCodec : Prop where
  roundTrip : ∀ n : NodeDelivery, n.Fits → decodes unmarshal n.encode = some (.ok n)
  cutShort : ∀ n : NodeDelivery, n.Fits → ∀ b, b <+: n.encode → b ≠ n.encode →
    ∃ e, decodes unmarshal b = some (.error e)
  inBounds : ∀ b, ∃ d, decodeNodeDelivery unmarshal b = some d ∧ d.allocated ≤ b.length
  again : ∀ b n, decodes unmarshal b = some (.ok n) →
    (decodes unmarshal n.encode = some (.ok n) ↔ n.Fits)
  fits : ∀ b n, decodes unmarshal b = some (.ok n) → b.head? ≠ some 0x7b → n.Fits

/-- Deliveries that fit are read back, what is cut short is refused, and the decoder neither reads
outside of its input nor allocates more entries than that has bytes.  What is decoded survives
encoding if and only if it fits, as it does unless it came from a legacy document. -/
theorem codec_exact : ExactCodec unmarshal where
  roundTrip := fun n h => decodes_encode unmarshal h
  cutShort := fun n h b hb hne => ⟨_, decodes_cut unmarshal h hb hne⟩
  inBounds := decode_total unmarshal
  again := by
    intro b n _
    constructor
    · intro hagain
      exact fits_of_decodes unmarshal hagain (DeliveryParser.head_encode n)
    · exact decodes_encode unmarshal
  fits := fun b n => fits_of_decodes unmarshal

end Decoder

section Sample

/-- The start of a document that names an account first. -/
def userField : List UInt8 := [0x7b, 0x22, 0x75, 0x22, 0x3a, 0x22]

/-- A reader of the documents that have an account, in small letters, and nothing else. -/
def lettersOnly (b : List UInt8) : Except String LegacyDelivery :=
  let user := (b.drop userField.length).takeWhile fun byte => 0x61 ≤ byte ∧ byte ≤ 0x7a
  if b = userField ++ user ++ [0x22, 0x7d] then .ok ⟨user, [], 0, []⟩
  else .error "invalid character"

def twoRecipients : NodeDelivery := ⟨[[0x37], [0x38, 0x39]], [], 5, [0x68, 0x69]⟩

theorem codec_exact_two : twoRecipients.encode.length = 20 ∧
      decodes lettersOnly twoRecipients.encode = some (.ok twoRecipients) ∧
      ∃ e, decodes lettersOnly (twoRecipients.encode.take 19) = some (.error e) := by
  have hfits : twoRecipients.Fits := by
    constructor <;> decide
  have hexact := codec_exact lettersOnly
  exact ⟨by decide, hexact.roundTrip twoRecipients hfits,
    hexact.cutShort twoRecipients hfits _ (List.take_prefix ..) (by decide)⟩

/-- A document whose account has so many letters. -/
def longUser (k : Nat) : List UInt8 := userField ++ replicate k 0x61 ++ [0x22, 0x7d]

lemma decodes_longUser {k : Nat} (hk : 0 < k) :
    decodes lettersOnly (longUser k) = some (.ok ⟨[replicate k 0x61], [], 0, []⟩) := by
  have huser : ((longUser k).drop userField.length).takeWhile
      (fun byte => 0x61 ≤ byte ∧ byte ≤ 0x7a) = replicate k 0x61 := by
    rw [longUser, append_assoc, drop_left, takeWhile_append_of_pos]
    · simp
    · intro byte hbyte
      rw [eq_of_mem_replicate hbyte]
      decide
  have hletters : lettersOnly (longUser k) = .ok ⟨replicate k 0x61, [], 0, []⟩ := by
    unfold lettersOnly
    rw [huser]
    exact if_pos rfl
  have hne : replicate k (0x61 : UInt8) ≠ [] := by simp; omega
  have hlegacy : decodeNodeDelivery lettersOnly (longUser k) =
      some (decodeLegacyJSON lettersOnly (longUser k)) := by
    unfold decodeNodeDelivery
    exact if_pos rfl
  rw [decodes, hlegacy, decodeLegacyJSON, hletters]
  simp [hne]

/-- A document whose account has 65536 letters is decoded, but its delivery is not read back. -/
theorem legacy_cut : ∃ n, decodes lettersOnly (longUser 65536) = some (.ok n) ∧
      decodes lettersOnly n.encode ≠ some (.ok n) := by
  refine ⟨_, decodes_longUser (by decide), fun hagain => ?_⟩
  have hfits := fits_of_decodes lettersOnly hagain (DeliveryParser.head_encode _)
  have hlen := hfits.users _ mem_cons_self
  rw [length_replicate] at hlen
  omega

end Sample

end SyncApp.Router
