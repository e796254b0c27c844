import Mathlib.Data.Nat.Digits.Lemmas
import SyncApp.Foundations.Framing

/-!
# Frames

`server/pkg/wire/frame.go` and `compress.go`.  The compression libraries are arguments, lossless
within the decoder's limit.  The size limit is applied to what is sent when a frame is encoded, and
to what it expands to when it is decoded.

Main results:

- `frames_delivered`: which frames are read back.
-/

namespace SyncApp.Wire

open Foundations List
open BigEndian (decode encode)
open UInt32 (ofNat size)

inductive ZstdError where
  | decoderSizeExceeded
  | windowSizeExceeded
  | other (message : String)
deriving DecidableEq

/-- What a gzip reader gives until it ends, and the error it ends with, if any. -/
structure GzipStream where
  out : List UInt8
  err : Option String

structure Compression where
  /-- `zstdEnc.EncodeAll`. -/
  zstdEncodeAll : List UInt8 → List UInt8
  /-- `zstdDec.DecodeAll` of a decoder with a limit. -/
  zstdDecodeAll : Nat → List UInt8 → Except ZstdError (List UInt8)
  /-- All that is written through `gzip.NewWriter`. -/
  gzipWrite : List UInt8 → Except String (List UInt8)
  /-- `gzip.NewReader`. -/
  gzipNewReader : List UInt8 → Except String GzipStream

/-- What is compressed is what it was, within the limit of the decoder. -/
structure Lossless (c : Compression) : Prop where
  zstd : ∀ limit payload, payload.length ≤ limit →
    c.zstdDecodeAll limit (c.zstdEncodeAll payload) = .ok payload
  gzip : ∀ payload packed, c.gzipWrite payload = .ok packed →
    c.gzipNewReader packed = .ok ⟨payload, none⟩

/-- Why a frame is refused. -/
inductive WireError where
  | unexpectedEOF
  | eof
  | badMagic
  | badVersion (got want : UInt8)
  | tooLarge
  | zstd (err : ZstdError)
  | gzip (message : String)
deriving DecidableEq

def magic0 : UInt8 := 0x53

def magic1 : UInt8 := 0x43

def version : UInt8 := 0x01

def headerSize : Nat := 8

def maxPayloadSize : Nat := 16777216

def flagCompressed : UInt8 := 1

def flagZstd : UInt8 := 2

section Codec

variable (c : Compression) (b : List UInt8)

def zstdCompress : List UInt8 := c.zstdEncodeAll b

def gzipCompress : Except WireError (List UInt8) :=
  match c.gzipWrite b with
  | .error message => .error (.gzip message)
  | .ok packed => .ok packed

variable (flags : UInt8) (payload : List UInt8)

/-- The payload that is sent, which the flags choose. -/
def compress : Except WireError (List UInt8) :=
  if flags &&& flagZstd ≠ 0 then .ok (zstdCompress c payload)
  else if flags &&& flagCompressed ≠ 0 then gzipCompress c payload
  else .ok payload

def encodeFrame : Except WireError (List UInt8) := do
  let payload ← compress c flags payload
  if payload.length > maxPayloadSize then .error .tooLarge
  else
    .ok ([magic0, magic1, version, flags] ++ encode 4 (ofNat payload.length).toNat ++ payload)

/-- `WriteFrame`: what is written, in one piece.  The buffer it is put together in comes
from a pool, with whatever was in it. -/
def writeFrame (pooled : List UInt8) (flags : UInt8) (payload : List UInt8) :
    Except WireError Stream := do
  let payload ← compress c flags payload
  if payload.length > maxPayloadSize then .error .tooLarge
  else
    let buf := pooled.take 0 ++ [magic0, magic1, version, flags, 0, 0, 0, 0]
    let buf := buf.take 4 ++ encode 4 (ofNat payload.length).toNat ++ buf.drop 8
    .ok [buf ++ payload]

/-- `parseHeader`, of the eight bytes of a header. -/
def parseHeader (hdr : List UInt8) (max : Int) : Except WireError (UInt8 × UInt32) :=
  if hdr.getD 0 0 ≠ magic0 ∨ hdr.getD 1 0 ≠ magic1 then .error .badMagic
  else if hdr.getD 2 0 ≠ version then .error (.badVersion (hdr.getD 2 0) version)
  else
    let n := ofNat (decode ((hdr.drop 4).take 4))
    let max := if max > maxPayloadSize ∨ max ≤ 0 then (maxPayloadSize : Int) else max
    if (n.toNat : Int) > max then .error .tooLarge else .ok (hdr.getD 3 0, n)

def decodeRawFrame (max : Int) : Except WireError (UInt8 × List UInt8) :=
  if b.length < headerSize then .error .unexpectedEOF
  else do
    let (flags, n) ← parseHeader (b.take headerSize) max
    if b.length < headerSize + n.toNat then .error .unexpectedEOF
    else .ok (flags, (b.drop headerSize).take n.toNat)

def zstdDecompress : Except WireError (List UInt8) :=
  match c.zstdDecodeAll maxPayloadSize b with
  | .error .decoderSizeExceeded => .error .tooLarge
  | .error .windowSizeExceeded => .error .tooLarge
  | .error (.other message) => .error (.zstd (.other message))
  | .ok out => if out.length > maxPayloadSize then .error .tooLarge else .ok out

/-- `io.ReadAll` of `io.LimitReader`: an error after the limit is not seen. -/
def GzipStream.readAll (s : GzipStream) (limit : Nat) : Except String (List UInt8) :=
  if limit ≤ s.out.length then .ok (s.out.take limit)
  else
    match s.err with
    | some message => .error message
    | none => .ok s.out

def gzipDecompress : Except WireError (List UInt8) :=
  match c.gzipNewReader b with
  | .error message => .error (.gzip message)
  | .ok s =>
    match s.readAll (maxPayloadSize + 1) with
    | .error message => .error (.gzip message)
    | .ok out => if out.length > maxPayloadSize then .error .tooLarge else .ok out

def decompress : Except WireError (List UInt8) :=
  if flags &&& flagZstd ≠ 0 then zstdDecompress c payload
  else if flags &&& flagCompressed ≠ 0 then gzipDecompress c payload
  else .ok payload

def decodeFrame : Except WireError (List UInt8) := do
  let (flags, raw) ← decodeRawFrame b maxPayloadSize
  decompress c flags raw

variable (s : Stream) (n : Nat)

/-- `io.ReadFull`. -/
def ioReadFull : Except WireError (List UInt8) × Stream :=
  match s.readFull n with
  | (.ok b, s) => (.ok b, s)
  | (.error b, s) => (.error (if b = [] then .eof else .unexpectedEOF), s)

def readRawFrame (max : Int) : Except WireError (UInt8 × List UInt8) × Stream :=
  match ioReadFull s headerSize with
  | (.error e, s) => (.error e, s)
  | (.ok hdr, s) =>
    match parseHeader hdr max with
    | .error e => (.error e, s)
    | .ok (flags, n) =>
      match ioReadFull s n.toNat with
      | (.error e, s) => (.error e, s)
      | (.ok buf, s) => (.ok (flags, buf), s)

def readFrame : Except WireError (List UInt8) × Stream :=
  match readRawFrame s maxPayloadSize with
  | (.error e, s) => (.error e, s)
  | (.ok (flags, raw), s) => (decompress c flags raw, s)

/-- So many frames, one after the other. -/
def readFrames : Nat → Stream → List (Except WireError (List UInt8)) × Stream
  | 0, s => ([], s)
  | n + 1, s =>
    let (payload, s) := readFrame c s
    let (payloads, s) := readFrames n s
    (payload :: payloads, s)

def header : List UInt8 :=
  [magic0, magic1, version, flags] ++ encode 4 (ofNat n).toNat

lemma length_header : (header flags n).length = headerSize := by
  simp [header, headerSize]

variable {n : Nat} {s : Stream} {more : List UInt8}

lemma toNat_ofNat_size (h : n ≤ maxPayloadSize) : (ofNat n).toNat = n := by
  unfold maxPayloadSize at h
  exact UInt32.toNat_ofNat_of_lt' (by unfold size; omega)

lemma parseHeader_header (h : n ≤ maxPayloadSize) :
    parseHeader (header flags n) maxPayloadSize = .ok (flags, ofNat n) := by
  have hsize := toNat_ofNat_size h
  have hn : decode (((header flags n).drop 4).take 4) = n := by
    have hfour : ((header flags n).drop 4).take 4 = encode 4 n := by
      rw [header, hsize]
      simp [encode]
    unfold maxPayloadSize at h
    rw [hfour, BigEndian.decode_encode (by omega)]
  have hmagic : ¬((header flags n).getD 0 0 ≠ magic0 ∨ (header flags n).getD 1 0 ≠ magic1) := by
    simp [header]
  have hversion : ¬(header flags n).getD 2 0 ≠ version := by simp [header]
  have hflags : (header flags n).getD 3 0 = flags := by simp [header]
  rw [parseHeader, if_neg hmagic, if_neg hversion]
  rw [hn, ite_self, if_neg (by omega), hflags]

variable {c} {flags : UInt8} {payload raw frame : List UInt8}

lemma ok_bind {α β : Type} (a : α) (f : α → Except WireError β) : (Except.ok a >>= f) = f a :=
  rfl

lemma encodeFrame_ok :
    encodeFrame c flags payload = .ok frame ↔ ∃ raw, compress c flags payload = .ok raw ∧
      raw.length ≤ maxPayloadSize ∧ frame = header flags raw.length ++ raw := by
  unfold encodeFrame
  cases hcompress : compress c flags payload with
  | error =>
    constructor
    · intro h
      cases h
    · rintro ⟨raw, hraw, -⟩
      cases hraw
  | ok raw =>
    rw [ok_bind]
    by_cases hsize : raw.length > maxPayloadSize
    · rw [if_pos hsize]
      constructor
      · intro h
        cases h
      · rintro ⟨raw', hraw, _, -⟩
        cases hraw
        omega
    · rw [if_neg hsize]
      constructor
      · intro h
        cases h
        exact ⟨raw, rfl, by omega, rfl⟩
      · rintro ⟨_, hraw, -, rfl⟩
        cases hraw
        rfl

lemma writeFrame_eq (pooled : List UInt8) (h : encodeFrame c flags payload = .ok frame) :
    writeFrame c pooled flags payload = .ok [frame] := by
  rcases encodeFrame_ok.mp h with ⟨_, hraw, _, rfl⟩
  unfold writeFrame
  rw [hraw]
  rw [ok_bind, if_neg (by omega)]
  simp [header]

lemma decodeRawFrame_frame (flags : UInt8) (h : raw.length ≤ maxPayloadSize) :
    decodeRawFrame (header flags raw.length ++ raw) maxPayloadSize = .ok (flags, raw) := by
  have hlen := length_header flags raw.length
  have hsize := toNat_ofNat_size h
  unfold decodeRawFrame
  rw [length_append, hlen, if_neg (by omega), ← hlen, take_left,
    parseHeader_header flags h]
  rw [ok_bind]
  dsimp only
  rw [hsize, if_neg (by omega), drop_left, take_length]

lemma decodeFrame_frame (c : Compression) (flags : UInt8) (h : raw.length ≤ maxPayloadSize) :
    decodeFrame c (header flags raw.length ++ raw) = decompress c flags raw := by
  rw [decodeFrame, decodeRawFrame_frame flags h]
  rfl

lemma ioReadFull_eq (h : n ≤ s.flatten.length) :
    ∃ s', ioReadFull s n = (.ok (s.flatten.take n), s') ∧ s'.flatten = s.flatten.drop n := by
  rcases Stream.readFull_eq s n h with ⟨s', hread, hrest⟩
  refine ⟨s', ?_, hrest⟩
  rw [ioReadFull, hread]

/-- A frame at the front of a stream gives its flags and what was sent, and the rest is left. -/
lemma readRawFrame_frame (flags : UInt8) (h : raw.length ≤ maxPayloadSize)
    (hs : s.flatten = header flags raw.length ++ (raw ++ more)) :
    ∃ s', readRawFrame s maxPayloadSize = (.ok (flags, raw), s') ∧ s'.flatten = more := by
  have hlen := length_header flags raw.length
  have hfirst : headerSize ≤ s.flatten.length := by
    rw [hs, length_append, hlen]
    omega
  rcases ioReadFull_eq hfirst with ⟨s₁, hread₁, hrest₁⟩
  rw [hs, ← hlen, take_left] at hread₁
  rw [hs, ← hlen, drop_left] at hrest₁
  have hsecond : raw.length ≤ s₁.flatten.length := by
    rw [hrest₁, length_append]
    omega
  rcases ioReadFull_eq hsecond with ⟨s₂, hread₂, hrest₂⟩
  rw [hrest₁, take_left] at hread₂
  rw [hrest₁, drop_left] at hrest₂
  refine ⟨s₂, ?_, hrest₂⟩
  rw [readRawFrame, ← hlen, hread₁]
  dsimp only
  rw [parseHeader_header flags h]
  dsimp only
  rw [toNat_ofNat_size h, hread₂]

/-! ## Payloads -/

lemma length_of_decompress (h : decompress c flags raw = .ok payload)
    (hsize : raw.length ≤ maxPayloadSize) : payload.length ≤ maxPayloadSize := by
  unfold decompress at h
  split at h
  · unfold zstdDecompress at h
    split at h
    all_goals try cases h
    split at h
    · cases h
    · cases h
      omega
  · split at h
    · unfold gzipDecompress at h
      split at h
      · cases h
      split at h
      · cases h
      split at h
      · cases h
      · cases h
        omega
    · cases h
      exact hsize

lemma decompress_of_le (hc : Lossless c) (hraw : compress c flags payload = .ok raw)
    (hload : payload.length ≤ maxPayloadSize) : decompress c flags raw = .ok payload := by
  unfold compress at hraw
  unfold decompress
  by_cases hzstd : flags &&& flagZstd ≠ 0
  · rw [if_pos hzstd] at hraw ⊢
    cases hraw
    rw [zstdDecompress, zstdCompress, hc.zstd maxPayloadSize payload hload]
    exact if_neg (by omega)
  · rw [if_neg hzstd] at hraw ⊢
    by_cases hgzip : flags &&& flagCompressed ≠ 0
    · rw [if_pos hgzip] at hraw ⊢
      unfold gzipCompress at hraw
      cases hwrite : c.gzipWrite payload with
      | error =>
        rw [hwrite] at hraw
        cases hraw
      | ok =>
        rw [hwrite] at hraw
        cases hraw
        have hall : (GzipStream.mk payload none).readAll (maxPayloadSize + 1) = .ok payload :=
          if_neg (by simp; omega)
        rw [gzipDecompress, hc.gzip payload raw hwrite]
        dsimp only
        rw [hall]
        exact if_neg (by omega)
    · rw [if_neg hgzip] at hraw ⊢
      exact hraw.symm ▸ rfl

/-- A frame that was encoded is decoded to its payload if and only if that is within the
limit. -/
lemma decodeFrame_iff (hc : Lossless c) (h : encodeFrame c flags payload = .ok frame) :
    decodeFrame c frame = .ok payload ↔ payload.length ≤ maxPayloadSize := by
  rcases encodeFrame_ok.mp h with ⟨_, hraw, hsize, rfl⟩
  rw [decodeFrame_frame c flags hsize]
  constructor
  · intro hload
    exact length_of_decompress hload hsize
  · exact decompress_of_le hc hraw

structure Sent (c : Compression) where
  flags : UInt8
  payload : List UInt8
  frame : List UInt8
  encoded : encodeFrame c flags payload = .ok frame

/-- Frames whose payloads are within the limit are read off a stream one after the other. -/
lemma readFrames_sent (hc : Lossless c) (sent : List (Sent c))
    (hsent : ∀ m ∈ sent, m.payload.length ≤ maxPayloadSize)
    (hs : s.flatten = sent.flatMap Sent.frame ++ more) :
    ∃ s', readFrames c sent.length s = (sent.map fun m => .ok m.payload, s') ∧
      s'.flatten = more := by
  induction sent generalizing s with
  | nil => exact ⟨s, rfl, hs⟩
  | cons m sent ih =>
    rcases encodeFrame_ok.mp m.encoded with ⟨_, hraw, hsize, hfr⟩
    have hload := hsent m mem_cons_self
    rw [flatMap_cons, hfr, append_assoc, append_assoc] at hs
    rcases readRawFrame_frame m.flags hsize hs with ⟨s₁, hread, hrest⟩
    rcases ih (fun m' hm' => hsent m' (mem_cons_of_mem _ hm')) hrest with
      ⟨s₂, hreads, hlast⟩
    refine ⟨s₂, ?_, hlast⟩
    have hfirst : readFrame c s = (.ok m.payload, s₁) := by
      rw [readFrame, hread]
      dsimp only
      rw [decompress_of_le hc hraw hload]
    rw [length_cons, readFrames, hfirst]
    dsimp only
    rw [hreads]
    rfl

end Codec

/-- What the encoder accepts is delivered. -/
structure Delivered (c : Compression) : Prop where
  decoded : ∀ m : Sent c, decodeFrame c m.frame = .ok m.payload ↔ m.payload.length ≤ maxPayloadSize
  written : ∀ (m : Sent c) pooled, writeFrame c pooled m.flags m.payload = .ok [m.frame]
  read : ∀ sent : List (Sent c), (∀ m ∈ sent, m.payload.length ≤ maxPayloadSize) →
    ∀ (s : Stream) more, s.flatten = sent.flatMap Sent.frame ++ more →
      ∃ s', readFrames c sent.length s = (sent.map fun m => .ok m.payload, s') ∧ s'.flatten = more

/-- With lossless compression, a frame is decoded to its payload if and only if the payload is
within the limit; it is written as it is encoded; and frames within the limit are read off a stream
in order. -/
theorem frames_delivered (c : Compression) (hc : Lossless c) : Delivered c where
  decoded := fun m => decodeFrame_iff hc m.encoded
  written := fun m pooled => writeFrame_eq pooled m.encoded
  read := fun sent hsent _ _ hs => readFrames_sent hc sent hsent hs

section Sample

variable (payload : List UInt8)

/-- Zeros are packed into their number, and everything else is kept. -/
def packZeros : List UInt8 :=
  if payload = replicate payload.length 0 then
    0 :: (Nat.digits 256 payload.length).map UInt8.ofNat
  else 1 :: payload

/-- What was packed. -/
def unpackZeros : List UInt8 → List UInt8
  | [] => []
  | mark :: rest =>
    if mark = 0 then replicate (Nat.ofDigits 256 (rest.map UInt8.toNat)) 0 else rest

lemma unpackZeros_packZeros : unpackZeros (packZeros payload) = payload := by
  unfold packZeros
  split
  · next hzeros =>
    have hdigits : ((Nat.digits 256 payload.length).map UInt8.ofNat).map UInt8.toNat =
        Nat.digits 256 payload.length := by
      rw [map_map]
      conv_rhs => rw [← map_id (Nat.digits 256 payload.length)]
      refine map_congr_left fun digit hdigit => ?_
      exact UInt8.toNat_ofNat_of_lt' (Nat.digits_lt_base (by decide) hdigit)
    rw [unpackZeros, if_pos rfl, hdigits, Nat.ofDigits_digits]
    exact hzeros.symm
  · rw [unpackZeros, if_neg (by decide)]

/-- A compression that packs zeros. -/
def zeroPacking : Compression where
  zstdEncodeAll := packZeros
  zstdDecodeAll limit b :=
    if (unpackZeros b).length ≤ limit then .ok (unpackZeros b) else .error .decoderSizeExceeded
  gzipWrite b := .ok (packZeros b)
  gzipNewReader b := .ok ⟨unpackZeros b, none⟩

lemma lossless_zeroPacking : Lossless zeroPacking where
  zstd := by
    intro limit payload h
    simp [zeroPacking, unpackZeros_packZeros, h]
  gzip := by
    intro payload packed h
    cases h
    simp [zeroPacking, unpackZeros_packZeros]

/-- Two payloads, the first one compressed. -/
def twoSent : List (Sent zeroPacking) :=
  [⟨flagZstd, [0, 0, 0], [0x53, 0x43, 1, 2, 0, 0, 0, 2, 0, 3], by decide +kernel⟩,
    ⟨0, [7], [0x53, 0x43, 1, 0, 0, 0, 0, 1, 7], by decide +kernel⟩]

/-- They are read off a stream that arrives in three pieces. -/
theorem frames_delivered_two : ∃ s', readFrames zeroPacking 2
        [[0x53, 0x43, 1], [2, 0, 0, 0, 2, 0, 3, 0x53, 0x43, 1, 0], [0, 0, 0, 1, 7]] =
      ([.ok [0, 0, 0], .ok [7]], s') ∧ s'.flatten = [] :=
  (frames_delivered zeroPacking lossless_zeroPacking).read twoSent (by decide) _ [] (by decide)

/-- One zero more than the limit. -/
def oversize : List UInt8 := replicate (maxPayloadSize + 1) 0

lemma length_packZeros_oversize : (packZeros oversize).length ≤ maxPayloadSize := by
  have hzeros : oversize = replicate oversize.length 0 := by
    rw [oversize, length_replicate]
  have hdigits : (Nat.digits 256 oversize.length).length ≤ 4 := by
    rw [Nat.digits_length_le_iff (by decide), oversize, length_replicate, maxPayloadSize]
    decide
  rw [packZeros, if_pos hzeros, length_cons, length_map, maxPayloadSize]
  omega

/-- Whatever is packed within the limit and is itself beyond it is encoded, with either
compression, and refused when it is decoded. -/
lemma refused_of_lt {payload : List UInt8} (hpacked : (packZeros payload).length ≤ maxPayloadSize)
    (hload : maxPayloadSize < payload.length) {flags : UInt8}
    (hflags : flags = flagZstd ∨ flags = flagCompressed) :
    ∃ frame, encodeFrame zeroPacking flags payload = .ok frame ∧
      decodeFrame zeroPacking frame = .error .tooLarge := by
  refine ⟨_, encodeFrame_ok.mpr ⟨packZeros payload, ?_, hpacked, rfl⟩, ?_⟩
  · rcases hflags with rfl | rfl
    · exact if_pos (by decide)
    · rfl
  · rw [decodeFrame_frame zeroPacking flags hpacked]
    rcases hflags with rfl | rfl
    · rw [decompress, if_pos (by decide)]
      simp [zstdDecompress, zeroPacking, unpackZeros_packZeros, Nat.not_le_of_lt hload]
    · rw [decompress, if_neg (by decide), if_pos (by decide)]
      simp [gzipDecompress, zeroPacking, unpackZeros_packZeros, GzipStream.readAll,
        Nat.succ_le_of_lt hload]

/-- One zero more than the limit is encoded, and refused when it is decoded. -/
theorem oversize_refused : ∃ frame, encodeFrame zeroPacking flagZstd oversize = .ok frame ∧
      decodeFrame zeroPacking frame = .error .tooLarge := by
  have hlen : oversize.length = maxPayloadSize + 1 := length_replicate
  exact refused_of_lt length_packZeros_oversize (by omega) (Or.inl rfl)

end Sample

end SyncApp.Wire
