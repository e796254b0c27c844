import Mathlib.Data.List.Count
import Mathlib.Data.List.Induction
import SyncApp.Foundations.RefIndex
import SyncApp.Foundations.JoinedKey
import SyncApp.Foundations.Machine

/-!
# The router of one node

The in-memory router of `server/internal/router/router.go` counts on each node the connections of
every account, and of every device under account and device joined.

Main results:

- `router_reflects`: the answers are the outstanding bindings.
-/

namespace SyncApp.Router

open Foundations List Function
open RefIndex (count_dec count_empty count_inc mem_nodes)

structure MemoryRouter where
  users : RefIndex String String
  devices : RefIndex String String

namespace MemoryRouter

/-- `NewMemory`. -/
def new : MemoryRouter := ⟨.empty, .empty⟩

def deviceKey (userID deviceID : String) : String := joinKey userID deviceID

variable (m : MemoryRouter) (userID deviceID nodeID : String)

def bind : MemoryRouter :=
  let users := m.users.inc userID nodeID
  if deviceID = "" then { m with users := users }
  else { users := users, devices := m.devices.inc (deviceKey userID deviceID) nodeID }

def decRef (index : RefIndex String String) (key nodeID : String) : RefIndex String String :=
  index.dec key nodeID

def unbind : MemoryRouter where
  users := decRef m.users userID nodeID
  devices :=
    if deviceID ≠ "" then decRef m.devices (deviceKey userID deviceID) nodeID else m.devices

def nodesFor (userID : String) : List String := m.users.nodes userID

/-- `NodesForMany`.  An account that is offline has no entry. -/
def nodesForMany (userIDs : List String) : String → Option (List String) :=
  userIDs.foldl
    (fun out userID =>
      let nodes := m.users.nodes userID
      if nodes.length = 0 then out else update out userID (some nodes))
    fun _ => none

def nodesForDevice (userID deviceID : String) : List String :=
  if deviceID = "" then m.nodesFor userID else m.devices.nodes (deviceKey userID deviceID)

variable (m : MemoryRouter) (userID deviceID nodeID : String) (userIDs : List String)
  (user node : String)

lemma count_users_bind :
    (m.bind userID deviceID nodeID).users.count user node =
      m.users.count user node + if user = userID ∧ node = nodeID then 1 else 0 := by
  unfold bind
  split
  · exact count_inc ..
  · exact count_inc ..

lemma count_devices_bind (key node : String) :
    (m.bind userID deviceID nodeID).devices.count key node = m.devices.count key node +
        if deviceID ≠ "" ∧ key = deviceKey userID deviceID ∧ node = nodeID then 1 else 0 := by
  unfold bind
  split
  · next h => simp [h]
  · next h =>
    rw [count_inc]
    simp [h]

lemma count_users_unbind :
    (m.unbind userID deviceID nodeID).users.count user node =
      m.users.count user node - if user = userID ∧ node = nodeID then 1 else 0 :=
  count_dec ..

lemma count_devices_unbind (key node : String) :
    (m.unbind userID deviceID nodeID).devices.count key node = m.devices.count key node -
        if deviceID ≠ "" ∧ key = deviceKey userID deviceID ∧ node = nodeID then 1 else 0 := by
  unfold unbind
  dsimp only
  split
  · next h =>
    rw [decRef, count_dec]
    simp [h]
  · next h => simp [h]

lemma mem_nodesFor {m : MemoryRouter} {userID nodeID : String} :
    nodeID ∈ m.nodesFor userID ↔ 0 < m.users.count userID nodeID :=
  mem_nodes

lemma mem_nodesForDevice {m : MemoryRouter} {userID deviceID nodeID : String}
    (h : deviceID ≠ "") : nodeID ∈ m.nodesForDevice userID deviceID ↔
      0 < m.devices.count (deviceKey userID deviceID) nodeID := by
  rw [nodesForDevice, if_neg h]
  exact mem_nodes

lemma nodesForMany_concat : m.nodesForMany (userIDs ++ [userID]) =
      if m.nodesFor userID = [] then m.nodesForMany userIDs
      else update (m.nodesForMany userIDs) userID (some (m.nodesFor userID)) := by
  unfold nodesForMany nodesFor
  rw [foldl_append, foldl_cons, foldl_nil]
  simp only [length_eq_zero_iff]

lemma nodesForMany_eq : m.nodesForMany userIDs user =
      if user ∈ userIDs ∧ m.nodesFor user ≠ [] then some (m.nodesFor user) else none := by
  induction userIDs using reverseRecOn with
  | nil => simp [nodesForMany]
  | append_singleton userIDs userID ih =>
    rw [nodesForMany_concat]
    by_cases hnone : m.nodesFor userID = []
    · rw [if_pos hnone, ih]
      rcases eq_or_ne user userID with rfl | hne
      · simp [hnone]
      · simp [hne]
    · rw [if_neg hnone]
      rcases eq_or_ne user userID with rfl | hne
      · simp [hnone]
      · simp [ih, hne]

end MemoryRouter

open MemoryRouter (count_devices_bind count_devices_unbind count_users_bind
  count_users_unbind deviceKey mem_nodesFor mem_nodesForDevice)

/-! ## Runs -/

/-- A connection of an account, with its device and its node. -/
structure Binding where
  user : KeyPart
  device : String
  node : String
deriving DecidableEq

lemma Binding.user_iff (b : Binding) (user : KeyPart) (node : String) :
    (user.text = b.user.text ∧ node = b.node) ↔ (b.user = user ∧ b.node = node) := by
  rw [KeyPart.text_inj, eq_comm (a := b.user), eq_comm (a := b.node)]

lemma Binding.device_iff (b : Binding) (user : KeyPart) {device : String} (h : device ≠ "")
    (node : String) : (b.device ≠ "" ∧ deviceKey user.text device =
        deviceKey b.user.text b.device ∧ node = b.node) ↔
      (b.user = user ∧ b.device = device ∧ b.node = node) := by
  unfold deviceKey
  rw [joinKey_inj]
  constructor
  · rintro ⟨-, ⟨rfl, rfl⟩, rfl⟩
    exact ⟨rfl, rfl, rfl⟩
  · rintro ⟨rfl, rfl, rfl⟩
    exact ⟨h, ⟨rfl, rfl⟩, rfl⟩

inductive RouterOp where
  | bind (b : Binding)
  | unbind (b : Binding)

structure Tracked where
  router : MemoryRouter
  outstanding : List Binding

namespace Tracked

/-- One call. -/
def step (t : Tracked) : RouterOp → Unit × Tracked
  | .bind b => ((), ⟨t.router.bind b.user.text b.device b.node, b :: t.outstanding⟩)
  | .unbind b => ((), ⟨t.router.unbind b.user.text b.device b.node, t.outstanding.erase b⟩)

/-- No connections. -/
def new : Tracked := ⟨.new, []⟩

abbrev after (ops : List RouterOp) : Tracked := Machine.final step new ops

/-- An unbind matches an earlier bind that is outstanding. -/
def Matched (t : Tracked) : RouterOp → Prop
  | .bind _ => True
  | .unbind b => b ∈ t.outstanding

instance decidableMatched (t : Tracked) : (op : RouterOp) → Decidable (t.Matched op)
  | .bind _ => isTrue trivial
  | .unbind b => inferInstanceAs (Decidable (b ∈ t.outstanding))

/-- The counts are those of the outstanding bindings. -/
structure Counted (t : Tracked) : Prop where
  users : ∀ (user : KeyPart) (node : String), t.router.users.count user.text node =
    t.outstanding.countP fun b => b.user = user ∧ b.node = node
  devices : ∀ (user : KeyPart) (device node : String), device ≠ "" →
    t.router.devices.count (deviceKey user.text device) node =
      t.outstanding.countP fun b => b.user = user ∧ b.device = device ∧ b.node = node

lemma counted_new : new.Counted where
  users := fun _ _ => count_empty ..
  devices := fun _ _ _ _ => count_empty ..

lemma Counted.step {t : Tracked} (h : t.Counted) {op : RouterOp} (hop : t.Matched op) :
    (t.step op).2.Counted := by
  cases op with
  | bind b =>
    constructor
    · intro user node
      simp only [Tracked.step, count_users_bind]
      rw [h.users, if_congr (Binding.user_iff b user node) rfl rfl]
      simp [countP_cons]
    · intro user device node hdev
      simp only [Tracked.step, count_devices_bind]
      rw [h.devices user device node hdev,
        if_congr (Binding.device_iff b user hdev node) rfl rfl]
      simp [countP_cons]
  | unbind b =>
    have hmem : b ∈ t.outstanding := hop
    constructor
    · intro user node
      simp only [Tracked.step, count_users_unbind]
      rw [h.users, if_congr (Binding.user_iff b user node) rfl rfl]
      simp [countP_erase, hmem]
    · intro user device node hdev
      simp only [Tracked.step, count_devices_unbind]
      rw [h.devices user device node hdev,
        if_congr (Binding.device_iff b user hdev node) rfl rfl]
      simp [countP_erase, hmem]

/-- The router's answers are the outstanding bindings, and an unbind, whether or not it
matches a bind, changes no answer for another account, device or node. -/
structure Reflects (t : Tracked) : Prop where
  nodup : ∀ user, (t.router.nodesFor user).Nodup
  nodesFor : ∀ (user : KeyPart) (node : String),
    node ∈ t.router.nodesFor user.text ↔ ∃ b ∈ t.outstanding, b.user = user ∧ b.node = node
  nodesForDevice : ∀ (user : KeyPart) (device node : String), device ≠ "" →
    (node ∈ t.router.nodesForDevice user.text device ↔
      ∃ b ∈ t.outstanding, b.user = user ∧ b.device = device ∧ b.node = node)
  nodesForMany : ∀ (userIDs : List String) (user : String),
    t.router.nodesForMany userIDs user =
      if user ∈ userIDs ∧ t.router.nodesFor user ≠ [] then some (t.router.nodesFor user) else none
  others : ∀ (b : Binding) (user : KeyPart) (node : String), user ≠ b.user ∨ node ≠ b.node →
    (node ∈ (t.router.unbind b.user.text b.device b.node).nodesFor user.text ↔
      node ∈ t.router.nodesFor user.text)
  otherDevices : ∀ (b : Binding) (user : KeyPart) (device node : String), device ≠ "" →
    user ≠ b.user ∨ device ≠ b.device ∨ node ≠ b.node →
    (node ∈ (t.router.unbind b.user.text b.device b.node).nodesForDevice user.text device ↔
      node ∈ t.router.nodesForDevice user.text device)

lemma Counted.reflects {t : Tracked} (h : t.Counted) : t.Reflects where
  nodup := fun user => RefIndex.nodup_nodes ..
  nodesFor := by
    intro user node
    rw [mem_nodesFor, h.users, countP_pos_iff]
    simp
  nodesForDevice := by
    intro user device node hdev
    rw [mem_nodesForDevice hdev, h.devices user device node hdev,
      countP_pos_iff]
    simp
  nodesForMany := MemoryRouter.nodesForMany_eq t.router
  others := by
    intro b user node hother
    rw [mem_nodesFor, mem_nodesFor, count_users_unbind,
      if_neg, Nat.sub_zero]
    rw [Binding.user_iff]
    rintro ⟨rfl, rfl⟩
    simp at hother
  otherDevices := by
    intro b user device node hdev hother
    rw [mem_nodesForDevice hdev, mem_nodesForDevice hdev,
      count_devices_unbind, if_neg, Nat.sub_zero]
    rw [Binding.device_iff b user hdev]
    rintro ⟨rfl, rfl, rfl⟩
    simp at hother

end Tracked

open Tracked

/-- After any calls in which every unbind matches a bind, the router's answers are the
outstanding bindings. -/
theorem router_reflects (ops : List RouterOp) (h : Machine.Guarded step Matched new ops) :
    (after ops).Reflects := by
  have hcnt : (after ops).Counted :=
    Machine.guarded_final step (fun _ _ ht hop => ht.step hop) counted_new h
  exact hcnt.reflects

section Sample

def sevenOn (device node : String) : Binding := ⟨⟨"7", by decide⟩, device, node⟩

/-- Two connections of one device, one of another, and one that names no device; the first
one ends. -/
def fourConnections : List RouterOp :=
  [.bind (sevenOn "phone" "n1"), .bind (sevenOn "phone" "n1"), .bind (sevenOn "web" "n2"),
    .bind (sevenOn "" "n3"), .unbind (sevenOn "phone" "n1")]

theorem router_reflects_four : (after fourConnections).outstanding =
        [sevenOn "" "n3", sevenOn "web" "n2", sevenOn "phone" "n1"] ∧
      (after fourConnections).Reflects :=
  ⟨by decide +kernel, router_reflects fourConnections (by decide +kernel)⟩

/-- With a bar in an account's identifier, two devices have one key: a binding of one is an answer
for the other, and an unbind takes it away.  No device stands for all. -/
theorem device_keys_collide :
    let bound := MemoryRouter.new.bind "a|b" "c" "n"
    bound.nodesForDevice "a" "b|c" = ["n"] ∧
      (bound.unbind "a" "b|c" "n").nodesForDevice "a|b" "c" = [] ∧
      bound.nodesForDevice "a|b" "" = ["n"] := by
  decide +kernel

end Sample

end SyncApp.Router
