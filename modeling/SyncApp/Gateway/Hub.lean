import SyncApp.Router.Memory

/-!
# Reaching a connected device

`register` of `server/internal/gateway/conn.go` puts a connection into the node's hub and then binds
it in the registry; `close` does the reverse.  The hub has one connection of a device, the registry
counts all.

Main results:

- `Node.device_reached`: when a device that is bound is reached.
-/

namespace SyncApp.Gateway

open Foundations List Machine
open Router.MemoryRouter (count_users_bind count_users_unbind mem_nodesFor)

/-- A connection, as the hub has it. -/
structure Sink where
  num : Nat
  userID : String
  deviceID : String
deriving DecidableEq

/-- Where the hub has a connection. -/
def Sink.place (c : Sink) : String × String := (c.userID, c.deviceID)

/-- The hub of a node and the registry, with the connections that are registered and those that are
bound. -/
structure Node where
  hub : List Sink
  router : Router.MemoryRouter
  registered : List Sink
  bound : List Sink

inductive NodeEvent where
  | register (c : Sink)
  | bind (c : Sink)
  | unbind (c : Sink)
  | unregister (c : Sink)

namespace Node

variable (nodeID : String) (w : Node) (userID : String)

def new : Node := ⟨[], .new, [], []⟩

/-- The connections that `Route` sends to. -/
def route : List Sink := w.hub.filter (·.userID = userID)

/-- The connection that `RouteDevice` sends to. -/
def routeDevice (deviceID : String) : Option Sink := w.hub.find? (·.place = (userID, deviceID))

def isOnline : Bool := (w.route userID).length > 0

/-- The two parts of `register` and of `close`. -/
def step (w : Node) : NodeEvent → Unit × Node
  | .register c => ((), { w with
      hub := w.hub.filter (·.place ≠ c.place) ++ [c]
      registered := c :: w.registered })
  | .bind c => ((), { w with
      router := w.router.bind c.userID c.deviceID nodeID
      bound := c :: w.bound })
  | .unbind c => ((), { w with
      router := w.router.unbind c.userID c.deviceID nodeID
      bound := w.bound.erase c })
  | .unregister c => ((), { w with
      hub := w.hub.filter (· ≠ c)
      registered := w.registered.filter (· ≠ c) })

abbrev after (events : List NodeEvent) : Node := final (step nodeID) new events

/-- What is unbound was bound, and of a device the connection that the hub has closes last. -/
def Orderly : NodeEvent → Prop
  | .unbind c => c ∈ w.bound
  | .unregister c => c ∈ w.hub → ∀ c' ∈ w.registered, c'.place = c.place → c' = c
  | _ => True

structure Sound (w : Node) : Prop where
  registered : w.hub ⊆ w.registered
  reached : ∀ c ∈ w.registered, ∃ c' ∈ w.hub, c'.place = c.place
  counted : ∀ user, w.router.users.count user nodeID = w.bound.countP (·.userID = user)

variable {nodeID w} {event : NodeEvent}

lemma Sound.step (h : w.Sound nodeID) (hord : w.Orderly event) :
    (w.step nodeID event).2.Sound nodeID := by
  cases event with
  | register c =>
    refine ⟨?_, ?_, h.counted⟩
    · intro c' hc'
      rcases mem_append.mp hc' with hold | hnew
      · exact mem_cons_of_mem _ (h.registered (mem_of_mem_filter hold))
      · exact mem_singleton.mp hnew ▸ mem_cons_self
    · intro c' hc'
      by_cases hsame : c'.place = c.place
      · exact ⟨c, mem_append_right _ (mem_singleton_self c), hsame.symm⟩
      rcases mem_cons.mp hc' with rfl | hold
      · exact absurd rfl hsame
      rcases h.reached c' hold with ⟨d, hd, hplace⟩
      refine ⟨d, mem_append_left _ (mem_filter.mpr ⟨hd, decide_eq_true ?_⟩), hplace⟩
      exact hplace ▸ hsame
  | bind c =>
    refine ⟨h.registered, h.reached, fun user => ?_⟩
    simp [Node.step, count_users_bind, h.counted, countP_cons, eq_comm]
  | unbind c =>
    have hmem : c ∈ w.bound := hord
    refine ⟨h.registered, h.reached, fun user => ?_⟩
    simp [Node.step, count_users_unbind, h.counted, countP_erase, hmem, eq_comm]
  | unregister c =>
    refine ⟨filter_subset _ h.registered, ?_, h.counted⟩
    intro c' hc'
    rcases mem_filter.mp hc' with ⟨hold, hne⟩
    rcases h.reached c' hold with ⟨d, hd, hplace⟩
    refine ⟨d, mem_filter.mpr ⟨hd, decide_eq_true ?_⟩, hplace⟩
    rintro rfl
    exact of_decide_eq_true hne (hord hd c' hold hplace.symm)

/-- In every orderly run a device with a registered connection is reached by one of its own, and
where no connection is between the two parts, the hub has the accounts bound. -/
theorem device_reached (nodeID : String) (events : List NodeEvent)
    (hrun : Guarded (step nodeID) Orderly new events) :
    let w := after nodeID events
    (∀ c ∈ w.registered, ∃ c' ∈ w.registered, c'.place = c.place ∧ c' ∈ w.route c.userID ∧
      w.routeDevice c.userID c.deviceID = some c') ∧
    ((∀ c, c ∈ w.registered ↔ c ∈ w.bound) →
      ∀ user, w.isOnline user ↔ nodeID ∈ w.router.nodesFor user) := by
  intro w
  have h : w.Sound nodeID := guarded_final (step nodeID) (fun _ _ h hord => h.step hord)
    ⟨nofun, nofun, fun _ => RefIndex.count_empty ..⟩ hrun
  constructor
  · intro c hc
    rcases h.reached c hc with ⟨d, hd, hplace⟩
    have hsome : (w.routeDevice c.userID c.deviceID).isSome :=
      find?_isSome.mpr ⟨d, hd, decide_eq_true hplace⟩
    rcases Option.isSome_iff_exists.mp hsome with ⟨c', hfind⟩
    have hc' := mem_of_find?_eq_some hfind
    have hsame : c'.place = (c.userID, c.deviceID) := by simpa using find?_some hfind
    refine ⟨c', h.registered hc', hsame, mem_filter.mpr ⟨hc', ?_⟩, hfind⟩
    exact decide_eq_true (congrArg Prod.fst hsame)
  · intro hquiet user
    rw [mem_nodesFor, h.counted, countP_pos_iff, isOnline, decide_eq_true_eq, gt_iff_lt,
      length_pos_iff_exists_mem]
    constructor
    · rintro ⟨c, hc⟩
      rcases mem_filter.mp hc with ⟨hc, huser⟩
      exact ⟨c, (hquiet c).mp (h.registered hc), huser⟩
    · rintro ⟨c, hc, huser⟩
      rcases h.reached c ((hquiet c).mpr hc) with ⟨d, hd, hplace⟩
      refine ⟨d, mem_filter.mpr ⟨hd, decide_eq_true ?_⟩⟩
      exact (congrArg Prod.fst hplace).trans (of_decide_eq_true huser)

/-- A device connects twice, and one of its connections closes. -/
def closing (num : Nat) : List NodeEvent :=
  [.register ⟨1, "u", "d"⟩, .bind ⟨1, "u", "d"⟩, .register ⟨2, "u", "d"⟩, .bind ⟨2, "u", "d"⟩,
    .unbind ⟨num, "u", "d"⟩, .unregister ⟨num, "u", "d"⟩]

theorem device_reached_second : ∃ c ∈ (after "n" (closing 1)).registered, c.place = ("u", "d") ∧
    c ∈ (after "n" (closing 1)).route "u" ∧
      (after "n" (closing 1)).routeDevice "u" "d" = some c := by
  have hreplaced : (⟨1, "u", "d"⟩ : Sink) ∉ [⟨2, "u", "d"⟩] := by decide
  exact (device_reached "n" (closing 1) ⟨trivial, trivial, trivial, trivial,
    mem_cons_of_mem _ mem_cons_self, fun hhub => absurd hhub hreplaced, trivial⟩).1
    ⟨2, "u", "d"⟩ (by decide)

/-- If the second one closes first, the hub has none, and the registry counts the other. -/
theorem first_connection_lost :
    let w := after "n" (closing 2)
    w.registered = [⟨1, "u", "d"⟩] ∧ w.routeDevice "u" "d" = none ∧ w.route "u" = [] ∧
      w.isOnline "u" = false ∧ w.router.nodesFor "u" = ["n"] := by
  decide

end Node

end SyncApp.Gateway
