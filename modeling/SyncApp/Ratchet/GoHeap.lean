import SyncApp.Foundations.Memory
import SyncApp.Foundations.Proc
import SyncApp.Ratchet.Calls

/-!
# Sessions in memory

The Go session is a struct behind a pointer with a map and a slice, which copies share, and
`Decrypt` works on such a copy.  Here `pkg/e2e/ratchet.go` has that sharing: structs, maps and
arrays are objects in memory, and a call that fails leaves memory as far as it got.  No function
writes through a byte slice, so these are values.
-/

namespace SyncApp.Ratchet

open Foundations

/-- The struct behind a session pointer.  The key pair is a pointer, which is nil
when the key source fails; the map and the order are references. -/
structure SessionCell where
  dhs : Option KeyPair
  dhr : Option Bytes
  rk : Bytes
  cks : Option Bytes
  ckr : Option Bytes
  ns : UInt32
  nr : UInt32
  pn : UInt32
  skipped : Nat
  skippedOrder : Slice
deriving Inhabited

/-- The session value a struct shows, given what its references lead to. -/
def SessionCell.value (c : SessionCell) (live : AList fun _ : Bytes => Bytes)
    (order : List Bytes) : Session where
  dhs := c.dhs.getD ⟨[], []⟩
  dhr := c.dhr
  rk := c.rk
  cks := c.cks
  ckr := c.ckr
  ns := c.ns
  nr := c.nr
  pn := c.pn
  skipped := ⟨live, order⟩

/-- `sameDHr` on a struct. -/
def SessionCell.sameDHr (c : SessionCell) (dhPub : Bytes) : Bool := c.dhr = some dhPub

/-- Memory: structs, maps, and the arrays behind slices. -/
structure Heap where
  sessions : Region SessionCell
  maps : Region (AList fun _ : Bytes => Bytes)
  arrays : Region (List Bytes)

namespace Heap

def session (h : Heap) (p : Nat) : Session :=
  let c := h.sessions.read p
  c.value (h.maps.read c.skipped) (c.skippedOrder.toList h.arrays)

/-- Programs of the package. -/
abbrev GoProc := Proc Heap SessionError

/-- Read the struct behind a pointer. -/
def cell (p : Nat) : GoProc SessionCell := do
  let h ← get
  return h.sessions.read p

/-- Memory with the struct behind a pointer replaced. -/
def setCell (h : Heap) (p : Nat) (c : SessionCell) : Heap :=
  { h with sessions := h.sessions.write p c }

/-- Assign fields of the struct behind a pointer. -/
def update (p : Nat) (f : SessionCell → SessionCell) : GoProc Unit :=
  modify fun h => h.setCell p (f (h.sessions.read p))

/-- The eviction loop of `storeSkipped`, with a bound on its rounds. -/
def evictLoop (arrays : Region (List Bytes)) :
    Nat → (AList fun _ : Bytes => Bytes) → Slice → (AList fun _ : Bytes => Bytes) × Slice
  | 0, live, order => (live, order)
  | fuel + 1, live, order =>
    if maxSkippedKeys < live.keys.length ∧ 0 < order.length then
      let oldest := (order.toList arrays).headD []
      evictLoop arrays fuel (live.erase oldest) order.tail
    else (live, order)

/-- Memory with the map, the order and the arrays of a session's store replaced. -/
def setStore (h : Heap) (p : Nat) (live : AList fun _ : Bytes => Bytes) (order : Slice)
    (arrays : Region (List Bytes)) : Heap :=
  { sessions := h.sessions.write p { h.sessions.read p with skippedOrder := order },
    maps := h.maps.write (h.sessions.read p).skipped live,
    arrays := arrays }

variable (grow : Nat → Nat)

/-- The order slice with a key noted in it, unless the map has the key already. -/
def noteKey (p : Nat) (key : Bytes) (h : Heap) : Region (List Bytes) × Slice :=
  let c := h.sessions.read p
  if key ∈ h.maps.read c.skipped then (h.arrays, c.skippedOrder)
  else c.skippedOrder.append grow h.arrays key

/-- `storeSkipped`: the order slice may be extended in place, and the map is
written in place. -/
def storeSkipped (p : Nat) (key msgKey : Bytes) (h : Heap) : Heap :=
  let noted := h.noteKey grow p key
  let live := (h.maps.read (h.sessions.read p).skipped).insert key msgKey
  let out := evictLoop noted.1 noted.2.length live noted.2
  h.setStore p out.1 out.2 noted.1

variable (P : Primitives) (p : Nat)

/-- `trySkipped`: deletes from the map in place once the message opened. -/
def trySkipped (hdr : Header) (ct : Bytes) (h : Heap) : Option (Bytes × Heap) :=
  let c := h.sessions.read p
  match (h.maps.read c.skipped).lookup (skKey hdr.dh hdr.n) with
  | none => none
  | some key =>
    match aeadOpen P key hdr.bytes ct with
    | none => none
    | some pt =>
      let live := (h.maps.read c.skipped).erase (skKey hdr.dh hdr.n)
      some (pt, h.setStore p live c.skippedOrder h.arrays)

/-! ## Ratchet steps -/

/-- One round of the skip loop. -/
def skipOne : GoProc Unit := do
  let c ← cell p
  let out := kdfCK P (c.ckr.getD [])
  update p fun c => { c with ckr := some out.1 }
  modify (storeSkipped grow p (skKey (c.dhr.getD []) c.nr) out.2)
  update p fun c => { c with nr := c.nr + 1 }

/-- The loop of `skipMessageKeys`. -/
def skipLoop (grow : Nat → Nat) (P : Primitives) (p : Nat) (upTo : UInt32) :
    Nat → GoProc Unit
  | 0 => pure ()
  | fuel + 1 => do
      let c ← cell p
      if c.nr < upTo then do
        skipOne grow P p
        skipLoop grow P p upTo fuel
      else pure ()

def skipMessageKeys (upTo : UInt32) : GoProc Unit := do
  let c ← cell p
  if c.ckr = none then pure ()
  else if maxSkip < (upTo - c.nr).toNat then throw .tooManySkipped
  else skipLoop grow P p upTo (upTo.toNat - c.nr.toNat)

/-- First half of `dhRatchet`.  The counters and the peer key are assigned
before the agreement can fail. -/
def ratchetReceive (hdr : Header) : GoProc Unit := do
  match publicKeyFromBytes hdr.dh with
  | none => throw .invalidPublicKey
  | some newDHr =>
    update p fun c => { c with pn := c.ns, ns := 0, nr := 0, dhr := some newDHr }
    let c ← cell p
    match P.x25519 (c.dhs.getD ⟨[], []⟩).priv newDHr with
    | none => throw .lowOrderPoint
    | some dhOut =>
      let out := kdfRK P c.rk dhOut
      update p fun c => { c with rk := out.1, ckr := some out.2 }

variable (keys : Option KeyPair)

/-- Second half of `dhRatchet`.  A failing key source leaves a nil key pair
behind. -/
def ratchetSend : GoProc Unit := do
  update p fun c => { c with dhs := keys }
  match keys with
  | none => throw .keySource
  | some dhs =>
    let c ← cell p
    match P.x25519 dhs.priv (c.dhr.getD []) with
    | none => throw .lowOrderPoint
    | some dhOut =>
      let out := kdfRK P c.rk dhOut
      update p fun c => { c with rk := out.1, cks := some out.2 }

/-- The DH ratchet of `advance`, taken when the header carries a new key. -/
def ratchetIfNew (hdr : Header) : GoProc Unit := do
  let c ← cell p
  if c.sameDHr hdr.dh then pure ()
  else do
    skipMessageKeys grow P p hdr.pn
    ratchetReceive P p hdr
    ratchetSend P p keys

/-- `advance`.  The chain has moved before the message is known to open. -/
def advance (hdr : Header) (ct : Bytes) : GoProc Bytes := do
  ratchetIfNew grow P p keys hdr
  skipMessageKeys grow P p hdr.n
  let c ← cell p
  match c.ckr with
  | none => throw .decrypt
  | some ckr =>
    let out := kdfCK P ckr
    update p fun c => { c with ckr := some out.1, nr := c.nr + 1 }
    match aeadOpen P out.2 hdr.bytes ct with
    | none => throw .decrypt
    | some pt => return pt

/-- `clone`: the struct is copied, the map and the order get objects of their
own. -/
def clone (h : Heap) : Heap :=
  let c := h.sessions.read p
  let order := c.skippedOrder.copy grow h.arrays
  { sessions := h.sessions.alloc { c with skipped := h.maps.size, skippedOrder := order.2 },
    maps := h.maps.alloc (h.maps.read c.skipped),
    arrays := order.1 }

/-- A new struct with an empty map and a nil order. -/
def allocSession (dhs : KeyPair) (dhr : Option Bytes) (rk : Bytes) (h : Heap) : Heap :=
  { sessions := h.sessions.alloc
      { dhs := some dhs, dhr := dhr, rk := rk, cks := none, ckr := none, ns := 0, nr := 0,
        pn := 0, skipped := h.maps.size, skippedOrder := Slice.nil },
    maps := h.maps.alloc ∅,
    arrays := h.arrays }

def newInitiatorSession (sk theirSignedPreKey : Bytes) (keys : Option KeyPair) : GoProc Nat := do
  match publicKeyFromBytes theirSignedPreKey with
  | none => throw .invalidPublicKey
  | some dhr =>
    match keys with
    | none => throw .keySource
    | some dhs =>
      let h ← get
      let p := h.sessions.size
      set (h.allocSession dhs (some dhr) sk)
      match P.x25519 dhs.priv dhr with
      | none => throw .lowOrderPoint
      | some dhOut =>
        let out := kdfRK P sk dhOut
        update p fun c => { c with rk := out.1, cks := some out.2 }
        return p

def newResponderSession (sk : Bytes) (signedPreKey : KeyPair) (h : Heap) : Nat × Heap :=
  (h.sessions.size, h.allocSession signedPreKey none sk)

/-- A pointer and the memory in which a constructor made it, on top of whatever
was there before. -/
inductive Created (P : Primitives) (sk : Bytes) : Nat → Heap → Prop where
  | initiator {theirSignedPreKey : Bytes} {keys : Option KeyPair} {h h' : Heap} {p : Nat}
      (hnew : (newInitiatorSession P sk theirSignedPreKey keys).exec h = (.ok p, h')) :
      Created P sk p h'
  | responder (signedPreKey : KeyPair) (h : Heap) :
      Created P sk (newResponderSession sk signedPreKey h).1
        (newResponderSession sk signedPreKey h).2

def encrypt (plaintext : Bytes) (h : Heap) : (Header × Bytes) × Heap :=
  let c := h.sessions.read p
  let out := kdfCK P (c.cks.getD [])
  let hdr : Header := { dh := (c.dhs.getD ⟨[], []⟩).pub, pn := c.pn, n := c.ns, raw := none }
  let ad := hdr.bytes
  (({ hdr with raw := some ad }, aeadSeal P out.2 ad plaintext),
    h.setCell p { c with cks := some out.1, ns := c.ns + 1 })

def decrypt (grow : Nat → Nat) (P : Primitives) (p : Nat) (keys : Option KeyPair)
    (hdr : Header) (ct : Bytes) (h : Heap) : Except SessionError Bytes × Heap :=
  match h.trySkipped P p hdr ct with
  | some (pt, h') => (.ok pt, h')
  | none =>
    let c := h.sessions.read p
    if c.ckr ≠ none ∧ c.sameDHr hdr.dh = true ∧ hdr.n = c.nr then
      let out := kdfCK P (c.ckr.getD [])
      match aeadOpen P out.2 hdr.bytes ct with
      | none => (.error .decrypt, h)
      | some pt => (.ok pt, h.setCell p { c with ckr := some out.1, nr := c.nr + 1 })
    else
      let trial := h.sessions.size
      match (advance grow P trial keys hdr ct).exec (h.clone grow p) with
      | (.error e, h') => (.error e, h')
      -- The struct is copied back; from here on both share the trial's objects.
      | (.ok pt, h') => (.ok pt, h'.setCell p (h'.sessions.read trial))

/-- One call on the session behind a pointer. -/
def call (h : Heap) : Call → Reply × Heap
  | .encrypt plaintext =>
    let out := h.encrypt P p plaintext
    (.sealed out.1.1 out.1.2, out.2)
  | .decrypt keys hdr ct =>
    let out := h.decrypt grow P p keys hdr ct
    (.opened out.1, out.2)

end Heap
end SyncApp.Ratchet
