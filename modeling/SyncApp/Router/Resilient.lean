import Mathlib.Algebra.Order.Group.Int
import Mathlib.Data.List.Perm.Basic
import SyncApp.Breaker
import SyncApp.Foundations.HashStore
import SyncApp.Router.Memory

/-!
# The router of a cluster

The registry of `server/internal/router/redis.go`, and the router of `resilient.go` that reaches it
through a breaker and keeps its own connections beside it.  A call may fail before or after the
script has run.  Connections of an account on a node share a count, so unbinding one that was not
counted takes away another's.

Main results:

- `bound_stays_visible`: when a connected account is found.
- `nodesFor_degraded`: what is answered without the registry.
-/

namespace SyncApp.Router

open Foundations List
open HashStore (value value_hincrby value_pexpire)

abbrev Registry := HashStore String String

namespace Registry

def routeKey (userID : String) : String := "route:" ++ userID

def deviceRouteKey (userID deviceID : String) : String := "route:" ++ userID ++ "|" ++ deviceID

/-- The keys that a connection is counted under. -/
def keysOf (userID deviceID : String) : List String :=
  if deviceID = "" then [routeKey userID] else [routeKey userID, deviceRouteKey userID deviceID]

/-- What `bindLua` does to one key. -/
def bindKey (nodeID : String) (deadline : Nat) (s : Registry) (key : String) : Registry :=
  (s.hincrby key nodeID 1).2.pexpire key deadline

/-- What `unbindLua` does to one key. -/
def unbindKey (nodeID : String) (s : Registry) (key : String) : Registry :=
  let (n, s) := s.hincrby key nodeID (-1)
  let s := if n ≤ 0 then s.hdel key nodeID else s
  if s.hlen key = 0 then s.del key else s

variable (ttl : Nat) (s : Registry) (keys : List String)

def bindLua (nodeID : String) (deadline : Nat) : Registry :=
  keys.foldl (bindKey nodeID deadline) s

def unbindLua (nodeID : String) : Registry :=
  keys.foldl (unbindKey nodeID) s

variable (userID deviceID nodeID : String)

/-- `Bind` of the shared router. -/
def bind (now : Nat) : Registry :=
  s.bindLua (keysOf userID deviceID) nodeID (now + ttl)

/-- `Unbind` of the shared router. -/
def unbind : Registry :=
  s.unbindLua (keysOf userID deviceID) nodeID

/-- `Refresh` of the shared router. -/
def refresh (userID deviceID : String) (now : Nat) : Registry :=
  (keysOf userID deviceID).foldl (fun s key => s.pexpire key (now + ttl)) s

/-- `NodesFor` of the shared router. -/
def nodesFor (userID : String) : List String := s.hkeys (routeKey userID)

/-- `NodesForDevice` of the shared router. -/
def nodesForDevice (userID deviceID : String) : List String :=
  if deviceID = "" then s.nodesFor userID else s.hkeys (deviceRouteKey userID deviceID)

variable (s : Registry) (nodeID : String) (keys : List String) (key field : String) (deadline : Nat)
  (key' userID deviceID : String)

lemma value_bindKey :
    (bindKey nodeID deadline s key').value key field =
      s.value key field + if key = key' ∧ field = nodeID then 1 else 0 := by
  rw [bindKey, value_pexpire, value_hincrby]

lemma value_unbindKey : (unbindKey nodeID s key').value key field =
      if key = key' ∧ field = nodeID then max (s.value key' nodeID - 1) 0
      else s.value key field := by
  have hn : (s.hincrby key' nodeID (-1)).1 = s.value key' nodeID - 1 := rfl
  unfold unbindKey
  dsimp only
  rw [HashStore.del_of_hlen, hn]
  split
  · next hlast =>
    rw [HashStore.value_hdel, value_hincrby]
    split
    · omega
    · simp
  · next hlast =>
    rw [value_hincrby]
    split
    · next heq =>
      rcases heq with ⟨rfl, rfl⟩
      omega
    · simp

lemma value_bindLua :
    (s.bindLua keys nodeID deadline).value key nodeID = s.value key nodeID + keys.count key := by
  unfold bindLua
  induction keys generalizing s with
  | nil => simp
  | cons key' keys ih =>
    rw [foldl_cons, ih, value_bindKey, count_cons]
    by_cases hkey : key = key'
    · simp [hkey]
      omega
    · simp [hkey, Ne.symm hkey]

lemma value_bindLua_of_ne (h : field ≠ nodeID) :
    (s.bindLua keys nodeID deadline).value key field = s.value key field := by
  unfold bindLua
  induction keys generalizing s with
  | nil => rfl
  | cons key' keys ih =>
    rw [foldl_cons, ih, value_bindKey]
    simp [h]

lemma le_value_unbindLua :
    s.value key nodeID - keys.count key ≤ (s.unbindLua keys nodeID).value key nodeID := by
  unfold unbindLua
  induction keys generalizing s with
  | nil => simp
  | cons key' keys ih =>
    refine le_trans ?_ (ih _)
    rw [value_unbindKey, count_cons]
    by_cases hkey : key = key'
    · subst hkey
      simp
      omega
    · simp [hkey, Ne.symm hkey]

lemma value_unbindLua_of_ne (h : field ≠ nodeID) :
    (s.unbindLua keys nodeID).value key field = s.value key field := by
  unfold unbindLua
  induction keys generalizing s with
  | nil => rfl
  | cons key' keys ih =>
    rw [foldl_cons, ih, value_unbindKey]
    simp [h]

lemma value_refresh (now : Nat) :
    (s.refresh ttl userID deviceID now).value key field = s.value key field := by
  unfold refresh
  induction keysOf userID deviceID generalizing s with
  | nil => rfl
  | cons key' keys ih => rw [foldl_cons, ih, value_pexpire]

/-- A connection is counted once under each of its keys. -/
lemma nodup_keysOf : (keysOf userID deviceID).Nodup := by
  unfold keysOf
  split
  · simp
  rw [nodup_cons, mem_singleton]
  refine ⟨fun heq => ?_, nodup_singleton _⟩
  have hlength := congrArg String.length heq
  have hbar : "|".length = 1 := by decide
  simp only [routeKey, deviceRouteKey, String.length_append] at hlength
  omega

end Registry

open Registry (keysOf routeKey)

/-- What becomes of a call to the registry: it may fail before its script has run there, or
after. -/
inductive PrimaryOutcome where
  | ok
  | lost
  | late
deriving DecidableEq

/-- A call that is made: the time at the registry, the times by the node's clock at which it is
begun and done, and what becomes of it. -/
structure Attempt where
  now : Nat
  started : Int
  finished : Int
  outcome : PrimaryOutcome

/-- The call, which says whether it succeeded. -/
def PrimaryOutcome.call (outcome : PrimaryOutcome) (fn : Registry → Registry) (s : Registry) :
    Bool × Registry :=
  match outcome with
  | .ok => (true, fn s)
  | .lost => (false, s)
  | .late => (false, fn s)

/-- `resilientRouter`, without the shared router. -/
structure Resilient where
  localView : MemoryRouter
  br : Breaker

namespace Resilient

/-- `NewResilient`. -/
def new : Resilient := ⟨.new, .new 5 5000⟩

/-- `viaBreaker`.  Its error is dropped. -/
def viaBreaker (r : Resilient) (s : Registry) (a : Attempt) (fn : Registry → Registry) :
    Resilient × Registry :=
  let (_, br, s) := r.br.doCall a.started a.finished (a.outcome.call fn) s
  ({ r with br := br }, s)

def bind (ttl : Nat) (r : Resilient) (s : Registry) (a : Attempt)
    (userID deviceID nodeID : String) : Resilient × Registry :=
  { r with localView := r.localView.bind userID deviceID nodeID }.viaBreaker s a fun s =>
    s.bind ttl userID deviceID nodeID a.now

def unbind (r : Resilient) (s : Registry) (a : Attempt) (userID deviceID nodeID : String) :
    Resilient × Registry :=
  { r with localView := r.localView.unbind userID deviceID nodeID }.viaBreaker s a fun s =>
    s.unbind userID deviceID nodeID

/-- `Refresh`.  The local router has nothing to refresh. -/
def refresh (ttl : Nat) (r : Resilient) (s : Registry) (a : Attempt) (userID deviceID : String) :
    Resilient × Registry :=
  r.viaBreaker s a fun s => s.refresh ttl userID deviceID a.now

/-- The lookups: the shared view first, and the local one if that fails. -/
def lookup {R : Type} (r : Resilient) (s : Registry) (a : Attempt) (shared : Registry → R)
    (own : MemoryRouter → R) : R × Resilient :=
  let (allowed, br) := r.br.allow a.started
  if allowed then
    if a.outcome = .ok then (shared s, { r with br := br.success })
    else (own r.localView, { r with br := br.failure a.finished })
  else (own r.localView, { r with br := br })

def nodesFor (r : Resilient) (s : Registry) (a : Attempt) (userID : String) :
    List String × Resilient :=
  r.lookup s a (·.nodesFor userID) (·.nodesFor userID)

def nodesForDevice (r : Resilient) (s : Registry) (a : Attempt) (userID deviceID : String) :
    List String × Resilient :=
  r.lookup s a (·.nodesForDevice userID deviceID) (·.nodesForDevice userID deviceID)

/-- The script of a call runs at the registry. -/
def Reaches (r : Resilient) (a : Attempt) : Prop :=
  (r.br.allow a.started).1 = true ∧ a.outcome ≠ .lost
deriving Decidable

variable (r : Resilient) (s : Registry) (a : Attempt) (fn : Registry → Registry)

lemma viaBreaker_registry : (r.viaBreaker s a fn).2 = if r.Reaches a then fn s else s := by
  unfold viaBreaker Reaches
  rw [Breaker.doCall_state]
  rcases a with ⟨_, _, _, outcome⟩
  cases outcome with
  | ok | lost | late => simp [PrimaryOutcome.call]

lemma viaBreaker_localView : (r.viaBreaker s a fn).1.localView = r.localView :=
  rfl

lemma lookup_localView {R : Type} (shared : Registry → R) (own : MemoryRouter → R) :
    (r.lookup s a shared own).2.localView = r.localView := by
  unfold lookup
  dsimp only
  split
  · split
    · rfl
    · rfl
  · rfl

end Resilient

/-! ## The connections of a node -/

/-- A connection of the node, with the keys of the registry it is counted under: those its
bind has reached and that have not expired since. -/
structure Conn where
  user : String
  device : String
  held : List String
deriving DecidableEq

/-- A call that the registry gets. -/
inductive SharedCall where
  | bind (userID deviceID nodeID : String)
  | unbind (userID deviceID nodeID : String)
  | refresh (userID deviceID : String)

namespace SharedCall

def Elsewhere (node : String) : SharedCall → Prop
  | .bind _ _ nodeID => nodeID ≠ node
  | .unbind _ _ nodeID => nodeID ≠ node
  | .refresh _ _ => True

def run (ttl now : Nat) (s : Registry) : SharedCall → Registry
  | .bind userID deviceID nodeID => s.bind ttl userID deviceID nodeID now
  | .unbind userID deviceID nodeID => s.unbind userID deviceID nodeID
  | .refresh userID deviceID => s.refresh ttl userID deviceID now

/-- The counts of a node are its own. -/
lemma Elsewhere.value_run {node : String} {call : SharedCall} (h : call.Elsewhere node)
    (ttl now : Nat) (s : Registry) (key : String) :
    (call.run ttl now s).value key node = s.value key node := by
  cases call with
  | bind => exact Registry.value_bindLua_of_ne _ _ _ _ _ _ (Ne.symm h)
  | unbind => exact Registry.value_unbindLua_of_ne _ _ _ _ _ (Ne.symm h)
  | refresh => exact Registry.value_refresh ..

end SharedCall

/-- What happens to the connections of a node and to the registry.  A connection is named by
its place, and calls of a connection that is not there do nothing. -/
inductive NodeEvent (node : String) where
  | bind (user device : String) (a : Attempt)
  | unbind (i : Nat) (a : Attempt)
  | refresh (i : Nat) (a : Attempt)
  | lookup (user device : String) (a : Attempt)
  | elsewhere (call : SharedCall) (h : call.Elsewhere node) (now : Nat)

/-- The time at the registry. -/
def NodeEvent.now {node : String} : NodeEvent node → Nat
  | .bind _ _ a => a.now
  | .unbind _ a => a.now
  | .refresh _ a => a.now
  | .lookup _ _ a => a.now
  | .elsewhere _ _ now => now

/-- The registry, the router of a node and its connections. -/
structure Cluster where
  registry : Registry
  router : Resilient
  conns : List Conn

namespace Cluster

variable (ttl : Nat) (node : String)

/-- What has expired is gone, and no longer held. -/
def sweep (c : Cluster) (now : Nat) : Cluster where
  registry := c.registry.sweep now
  router := c.router
  conns := c.conns.map fun conn =>
    { conn with held := conn.held.filter fun key => ¬ c.registry.Expired now key }

/-- The event, with what has expired gone. -/
def run (c : Cluster) : NodeEvent node → List String × Cluster
  | .bind user device a =>
    let (router, registry) := c.router.bind ttl c.registry a user device node
    let held := if c.router.Reaches a then keysOf user device else []
    ([], ⟨registry, router, ⟨user, device, held⟩ :: c.conns⟩)
  | .unbind i a =>
    match c.conns[i]? with
    | none => ([], c)
    | some conn =>
      let (router, registry) := c.router.unbind c.registry a conn.user conn.device node
      ([], ⟨registry, router, c.conns.eraseIdx i⟩)
  | .refresh i a =>
    match c.conns[i]? with
    | none => ([], c)
    | some conn =>
      let (router, registry) := c.router.refresh ttl c.registry a conn.user conn.device
      ([], ⟨registry, router, c.conns⟩)
  | .lookup user device a =>
    let (nodes, router) := c.router.nodesForDevice c.registry a user device
    (nodes, { c with router := router })
  | .elsewhere call _ now => ([], { c with registry := call.run ttl now c.registry })

def step (c : Cluster) (event : NodeEvent node) : List String × Cluster :=
  (c.sweep event.now).run ttl node event

/-- Nobody is connected. -/
def new : Cluster := ⟨.empty, .new, []⟩

variable (events : List (NodeEvent node))

abbrev after : Cluster :=
  Machine.final (step ttl node) new events

/-- The connections that are counted under a key. -/
def holders (c : Cluster) (key : String) : Nat := c.conns.countP fun conn => key ∈ conn.held

/-- The registry counts at least the connections that hold a key. -/
def Covered (key : String) (c : Cluster) : Prop := (c.holders key : Int) ≤ c.registry.value key node

/-- An unbind that reaches the registry takes away a count that its own connection holds. -/
def Owned (key : String) (c : Cluster) (event : NodeEvent node) : Prop :=
  match event with
  | .unbind i a =>
    ∀ conn ∈ (c.sweep a.now).conns[i]?, c.router.Reaches a →
      key ∈ keysOf conn.user conn.device → key ∈ conn.held
  | _ => True

instance decidableOwned (key : String) (c : Cluster) :
    (event : NodeEvent node) → Decidable (Owned node key c event) := fun _ => by
  unfold Owned
  split <;> infer_instance

variable {c : Cluster} {key : String} {i : Nat}

lemma covered_sweep (h : Covered node key c) (now : Nat) : Covered node key (c.sweep now) := by
  unfold Covered holders sweep at *
  rw [HashStore.value_sweep]
  split
  · next hexp => simp [Function.comp_def, hexp]
  · next hexp => simpa [Function.comp_def, hexp] using h

lemma countP_eraseIdx {conns : List Conn} {conn : Conn} (h : conns[i]? = some conn)
    (p : Conn → Bool) :
    (conns.eraseIdx i).countP p + (if p conn then 1 else 0) = conns.countP p := by
  rcases List.getElem?_eq_some_iff.mp h with ⟨hlt, hget⟩
  have hperm := getElem_cons_eraseIdx_perm hlt
  rw [← hperm.countP_eq, countP_cons, hget]

section

variable (h : Covered node key c)
include h

lemma covered_bind (user device : String) (a : Attempt) :
    Covered node key (c.run ttl node (.bind user device a)).2 := by
  unfold Covered holders at *
  simp only [run, Resilient.bind, Resilient.viaBreaker_registry, countP_cons]
  change ((_ + if decide (key ∈ if c.router.Reaches a then _ else _) then 1 else 0 : Nat) : Int) ≤
    value (if c.router.Reaches a then _ else _) key node
  by_cases hreach : c.router.Reaches a
  · have hcnt := (Registry.nodup_keysOf user device).count (a := key)
    rw [if_pos hreach, if_pos hreach, Registry.bind, Registry.value_bindLua, hcnt]
    simp only [decide_eq_true_eq]
    omega
  · rw [if_neg hreach, if_neg hreach]
    simpa using h

lemma covered_unbind {a : Attempt}
    (howned : ∀ conn ∈ c.conns[i]?, c.router.Reaches a → key ∈ keysOf conn.user conn.device →
      key ∈ conn.held) :
    Covered node key (c.run ttl node (.unbind i a)).2 := by
  simp only [run]
  split
  · exact h
  · next conn hconn =>
    unfold Covered holders at *
    have hclosed := countP_eraseIdx hconn fun conn => key ∈ conn.held
    simp only [Resilient.unbind, Resilient.viaBreaker_registry]
    change _ ≤ value (if c.router.Reaches a then _ else _) key node
    by_cases hreach : c.router.Reaches a
    · -- What the registry takes away is what this connection held.
      rw [if_pos hreach]
      have hless := Registry.le_value_unbindLua c.registry node
        (keysOf conn.user conn.device) key
      have hcnt := (Registry.nodup_keysOf conn.user conn.device).count (a := key)
      have hheld := howned conn hconn hreach
      rw [hcnt] at hless
      refine le_trans ?_ hless
      by_cases hkey : key ∈ keysOf conn.user conn.device
      · simp only [hkey, hheld hkey, decide_true, if_true] at hclosed ⊢
        omega
      · simp only [hkey, if_false]
        omega
    · rw [if_neg hreach]
      omega

lemma covered_run (event : NodeEvent node)
    (howned : ∀ i a, event = .unbind i a → ∀ conn ∈ c.conns[i]?, c.router.Reaches a →
      key ∈ keysOf conn.user conn.device → key ∈ conn.held) :
    Covered node key (c.run ttl node event).2 := by
  cases event with
  | bind => exact covered_bind ttl node h ..
  | unbind i a => exact covered_unbind ttl node h (howned i a rfl)
  | refresh =>
    simp only [run]
    split
    · exact h
    unfold Covered holders at *
    simp only [Resilient.refresh, Resilient.viaBreaker_registry]
    split
    · rwa [Registry.value_refresh]
    · exact h
  | lookup => exact h
  | elsewhere call helse now =>
    unfold Covered holders at *
    rw [← helse.value_run ttl now] at h
    exact h

lemma covered_step {event : NodeEvent node} (howned : Owned node key c event) :
    Covered node key (c.step ttl node event).2 := by
  refine covered_run ttl node (covered_sweep node h event.now) event ?_
  rintro i a rfl conn hconn
  exact howned conn hconn

end

/-! ## The local view -/

/-- The local view counts the connections of this node, and nothing else. -/
def Tallied (c : Cluster) : Prop :=
  ∀ user n, c.router.localView.users.count user n =
    if n = node then c.conns.countP fun conn => conn.user = user else 0

lemma tallied_sweep (h : Tallied node c) (now : Nat) : Tallied node (c.sweep now) := by
  intro user n
  have hsame := h user n
  simpa [sweep, Function.comp_def] using hsame

lemma tallied_run (h : Tallied node c) (event : NodeEvent node) :
    Tallied node (c.run ttl node event).2 := by
  cases event with
  | bind =>
    intro user' n
    simp only [run, Resilient.bind, Resilient.viaBreaker_localView,
      MemoryRouter.count_users_bind, countP_cons]
    rw [h user' n]
    by_cases hn : n = node
    · simp [hn, eq_comm]
    · simp [hn]
  | unbind i a =>
    simp only [run]
    split
    · exact h
    · next conn hconn =>
      intro user' n
      have hclosed := countP_eraseIdx hconn fun conn => conn.user = user'
      simp only [Resilient.unbind, Resilient.viaBreaker_localView,
        MemoryRouter.count_users_unbind]
      rw [h user' n]
      by_cases hn : n = node
      · simp only [hn, if_true, and_true, decide_eq_true_eq, eq_comm (a := user')] at hclosed ⊢
        omega
      · simp [hn]
  | refresh =>
    simp only [run]
    split
    · exact h
    · exact h
  | lookup =>
    intro user' n
    simp only [run, Resilient.nodesForDevice, Resilient.lookup_localView]
    exact h user' n
  | elsewhere => exact h

lemma tallied_after : Tallied node (after ttl node events) := by
  refine Machine.invariant_final (step ttl node) (fun c event h => ?_) ?_ events
  · exact tallied_run ttl node (tallied_sweep node h event.now) event
  · intro user n
    simp [new, Resilient.new, MemoryRouter.new]

end Cluster

open Cluster

/-- Whenever the registry does not answer a lookup the answer is the node itself, for the accounts
connected to it. -/
theorem nodesFor_degraded (ttl : Nat) (node : String) (events : List (NodeEvent node))
    (a : Attempt) (user n : String)
    (h : ((after ttl node events).router.br.allow a.started).1 = false ∨ a.outcome ≠ .ok) :
    let c := after ttl node events
    n ∈ (c.router.nodesFor c.registry a user).1 ↔
      n = node ∧ ∃ conn ∈ c.conns, conn.user = user := by
  intro c
  have hlocal : (c.router.nodesFor c.registry a user).1 = c.router.localView.nodesFor user := by
    unfold Resilient.nodesFor Resilient.lookup
    rcases h with hopen | hfailed
    · simp [c, hopen]
    · simp only [hfailed, if_false]
      split <;> rfl
  rw [hlocal, MemoryRouter.mem_nodesFor, tallied_after ttl node events user n]
  by_cases hn : n = node
  · simp only [hn, if_true, true_and, countP_pos_iff, decide_eq_true_eq]
    rfl
  · simp [hn]

/-- If every unbind that reaches the registry takes away what its own connection holds, a connection
that was counted and has not expired is visible. -/
theorem bound_stays_visible (ttl : Nat) (node user : String) (events : List (NodeEvent node))
    (h : Machine.Guarded (step ttl node) (Owned node (routeKey user)) new events) :
    ∀ conn ∈ (after ttl node events).conns, routeKey user ∈ conn.held →
      node ∈ (after ttl node events).registry.nodesFor user := by
  have hcovered : Covered node (routeKey user) (after ttl node events) :=
    Machine.guarded_final (step ttl node) (fun _ _ hc howned => covered_step ttl node hc howned)
      (by simp [Covered, holders, new]) h
  intro conn hconn hheld
  have hholders : 0 < (after ttl node events).holders (routeKey user) :=
    countP_pos_iff.mpr ⟨conn, hconn, by simpa using hheld⟩
  apply HashStore.mem_hkeys
  unfold Covered at hcovered
  omega

section Sample

/-- A call that is begun and done at once. -/
def Attempt.at_ (now : Nat) (outcome : PrimaryOutcome) : Attempt := ⟨now, now, now, outcome⟩

/-- Two connections of an account are counted.  The first one's heartbeat keeps the account's key
but not the other device's, and it is closed. -/
def recovery : List (NodeEvent "n1") :=
  [.bind "7" "phone" (.at_ 0 .ok), .bind "7" "web" (.at_ 1 .late), .refresh 1 (.at_ 40000 .ok),
    .elsewhere (.bind "7" "tablet" "n2") (by simp [SharedCall.Elsewhere]) 50000,
    .lookup "7" "web" (.at_ 70000 .ok),
    .unbind 1 (.at_ 80000 .ok)]

theorem bound_stays_visible_recovery :
    (after 60000 "n1" recovery).conns = [⟨"7", "web", ["route:7"]⟩] ∧
      "n1" ∈ (after 60000 "n1" recovery).registry.nodesFor "7" := by
  have hconns : (after 60000 "n1" recovery).conns = [⟨"7", "web", ["route:7"]⟩] := by
    decide +kernel
  refine ⟨hconns, bound_stays_visible 60000 "n1" "7" recovery (by decide +kernel)
    ⟨"7", "web", ["route:7"]⟩ ?_ (by decide)⟩
  decide

theorem nodesFor_degraded_recovery : "n1" ∈ ((after 60000 "n1" recovery).router.nodesFor
    (after 60000 "n1" recovery).registry (.at_ 90000 .lost) "7").1 :=
  (nodesFor_degraded 60000 "n1" recovery (.at_ 90000 .lost) "7" "n1" (.inr (by decide))).mpr
    ⟨rfl, ⟨"7", "web", ["route:7"]⟩, by decide +kernel, rfl⟩

/-- A second connection of the account, whose bind does not reach the registry, is closed. -/
def outage : List (NodeEvent "n1") :=
  [.bind "7" "phone" (.at_ 0 .ok), .bind "7" "web" (.at_ 1 .lost), .unbind 0 (.at_ 2 .ok)]

/-- The second connection takes away the count of the first, which is open. -/
theorem lost_bind_hides :
    (after 60000 "n1" outage).conns = [⟨"7", "phone", ["route:7", "route:7|phone"]⟩] ∧
      (after 60000 "n1" outage).registry.nodesFor "7" = [] := by
  decide +kernel

end Sample

end SyncApp.Router
