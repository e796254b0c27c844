import Mathlib.Data.List.AList
import SyncApp.SecretQueue.Relay

/-!
# A secret message on its way

A secret message is published to the channels of its nodes, handed to the connection that the hub
has for the device, waits in its lane and is written.  It can be lost at each point, and is queued
only if the registry knows no node.

Main results:

- `Cluster.next_step`: what a step does to a connection.
- `Cluster.Stored.after`: what is queued stays stored.
- `handleSecretSend_eq_relay`: the gateway answers as the relay does.
-/

namespace SyncApp.SecretQueue

open Foundations List
open Function (update update_of_ne update_self)
open History (queue)

/-- A `SECRET_RECV`, with the number of the request that it comes of.  The latter is not on
the wire. -/
structure SecretRecv where
  tag : Nat
  toUserID : String
  toDeviceID : String
  fromUserID : String
  fromDeviceID : String
  header : List UInt8
  cipher : List UInt8

/-- What waits in the lane of a connection: a secret message, or one of the other frames of that
lane. -/
inductive Frame where
  | secret (m : SecretRecv)
  | other

/-- The request that a frame comes of. -/
def Frame.tag : Frame → Option Nat
  | .secret m => some m.tag
  | .other => none

/-- A connection with its lane `outMid` and what its writer has written of it. -/
structure Socket where
  node : String
  userID : String
  deviceID : String
  lane : List Frame
  written : List Frame
  closed : Bool

namespace Socket

variable (sk : Socket)

/-- The message waits in the lane. -/
def Holds (tag : Nat) : Prop := some tag ∈ sk.lane.map Frame.tag
deriving Decidable

/-- The message is on the wire. -/
def Wrote (tag : Nat) : Prop := some tag ∈ sk.written.map Frame.tag
deriving Decidable

/-- `close`, as far as the connection goes. -/
def close : Socket := { sk with closed := true }

/-- `Send` on the lane: a connection whose lane is full is dropped. -/
def send (maxInflight : Nat) (f : Frame) (sk : Socket) : Socket :=
  if sk.lane.length < maxInflight then { sk with lane := sk.lane ++ [f] } else sk.close

/-- `writeOne` on the next frame of the lane, as the writer loop calls it; the write may
fail. -/
def writeOne (ok : Bool) (sk : Socket) : Socket :=
  if sk.closed then sk
  else
    match sk.lane with
    | [] => sk
    | f :: lane =>
      if ok then { sk with lane := lane, written := sk.written ++ [f] }
      else { sk with lane := lane }.close

end Socket

/-! ## The cluster -/

/-- `router.NodeDelivery`, on the channel of its node. -/
structure NodeDelivery where
  node : String
  userID : String
  deviceID : String
  body : SecretRecv

/-- The connections ever made, the hub of each node, what its channel has accepted and not handed
over, and the queue; the number of requests, and the envelopes that were acknowledged, evicted or
expired. -/
structure Cluster where
  sockets : List Socket
  hub : String → String → AList fun _ : String => Nat
  bus : List NodeDelivery
  history : History
  sent : Nat
  left : List SecretEnvelope

/-- What a request meets: the answer of the registry (none if it fails), the channels that accept
a publish, and whether the queue takes a row. -/
structure Weather where
  nodes : Option (List String)
  accepts : String → Bool
  stores : Bool

namespace Cluster

/-- Nothing is connected and nothing queued. -/
def new : Cluster := ⟨[], fun _ _ => ∅, [], .new, 0, []⟩

/-- `Send` on a connection. -/
def sendTo (maxInflight : Nat) (f : Frame) (c : Cluster) (conn : Nat) : Cluster :=
  { c with sockets := c.sockets.modify conn (Socket.send maxInflight f) }

variable (c : Cluster)

/-- The connections of an account on a node are set. -/
def setDevices (node userID : String) (devs : AList fun _ : String => Nat) :
    String → String → AList fun _ : String => Nat :=
  update c.hub node (update (c.hub node) userID devs)

/-- `Hub.Register`: the device's connection on this node is the new one. -/
def register (node userID deviceID : String) : Cluster :=
  { c with
    sockets := c.sockets ++ [⟨node, userID, deviceID, [], [], false⟩]
    hub := c.setDevices node userID ((c.hub node userID).insert deviceID c.sockets.length) }

/-- What `Hub.Register` returns: the connection leaves the hub unless another has replaced
it. -/
def unregister (conn : Nat) : Cluster :=
  match c.sockets[conn]? with
  | none => c
  | some sk =>
    if (c.hub sk.node sk.userID).lookup sk.deviceID = some conn then
      { c with
        hub := c.setDevices sk.node sk.userID ((c.hub sk.node sk.userID).erase sk.deviceID) }
    else c

/-- The handler of `StartDelivery`: `RouteDevice`, or `Route` for all devices. -/
def deliver (maxInflight : Nat) (c : Cluster) (nd : NodeDelivery) : Cluster :=
  if nd.deviceID ≠ "" then
    match (c.hub nd.node nd.userID).lookup nd.deviceID with
    | none => c
    | some conn => c.sendTo maxInflight (.secret nd.body) conn
  else
    ((c.hub nd.node nd.userID).entries.map Sigma.snd).foldl
      (fun c conn => c.sendTo maxInflight (.secret nd.body) conn) c

/-- `publishToNodes`.  Errors are not looked at. -/
def publishToNodes (accepts : String → Bool) (nodes : List String)
    (body : SecretRecv) : Nat × Cluster :=
  (nodes.length,
    { c with
      bus := c.bus ++ (nodes.filter accepts).map (⟨·, body.toUserID, body.toDeviceID, body⟩) })

def routeToDevice (w : Weather) (body : SecretRecv) : Nat × Cluster :=
  match w.nodes with
  | none => (0, c)
  | some nodes => c.publishToNodes w.accepts nodes body

/-- `queueSecret`.  What the row displaces is evicted. -/
def queueSecret (w : Weather) (env : SecretEnvelope) : Bool × Cluster :=
  if w.stores then
    let q := c.history.queue env.toUserID env.toDeviceID
    (true,
      { c with
        history := (c.history.step (.enqueue env maxQueuedPerDevice)).2
        left := c.left ++ q.take (q.length + 1 - maxQueuedPerDevice.toNat) })
  else (false, c)

/-- The message as it goes to the nodes. -/
def recv (s : Send) (header cipher : List UInt8) : SecretRecv where
  tag := c.sent
  toUserID := s.body.toUserID
  toDeviceID := s.body.toDeviceID
  fromUserID := s.conn.userID.text
  fromDeviceID := s.conn.deviceID
  header := header
  cipher := cipher

/-- `handleSecretSend`, after the payload is decoded. -/
def relaySecret (s : Send) (w : Weather) (recipient : KeyPart)
    (header cipher : List UInt8) : SecretAckBody × Cluster :=
  let routed := c.routeToDevice w (c.recv s header cipher)
  if routed.1 = 0 then
    let queued := routed.2.queueSecret w (s.envelope recipient header cipher)
    (⟨s.body.toUserID, s.body.toDeviceID, routed.1, queued.1⟩, queued.2)
  else (⟨s.body.toUserID, s.body.toDeviceID, routed.1, false⟩, routed.2)

def handleSecretSend (s : Send) (w : Weather) : Except ErrorReply SecretAckBody × Cluster :=
  if hto : validID s.body.toUserID = true then
    if ¬ validDeviceID s.body.toDeviceID then
      (.error ⟨.badArg, "invalid recipient device"⟩, c)
    else if s.body.toUserID ≠ s.conn.userID.text ∧ s.blocked then
      (.error ⟨.forbidden, "blocked"⟩, c)
    else
      match secretPayload s.body with
      | none => (.error ⟨.badArg, "bad ratchet payload"⟩, c)
      | some (header, cipher) =>
        let r := c.relaySecret s w (s.recipient hto) header cipher
        (.ok r.1, r.2)
  else (.error ⟨.badArg, "invalid recipient"⟩, c)

end Cluster

/-- What happens in the cluster: connections come and go, frames are sent and written, channels hand
over or lose what they accepted, messages are sent, and the queue is read, acknowledged and purged.
-/
inductive ClusterEvent where
  | register (node userID deviceID : String)
  | close (conn : Nat)
  | unregister (conn : Nat)
  | push (conn : Nat)
  | write (conn : Nat) (ok : Bool)
  | deliver (index : Nat)
  | lose (index : Nat)
  | send (s : Send) (w : Weather)
  | sync (user : KeyPart) (deviceID afterID : String) (limit : Int)
  | ack (user : KeyPart) (deviceID : String) (ids : List String)
  | purge (now limit : Int) (visit : List String)

namespace Cluster

/-- The reply of a step, if it has one, and the state after it. -/
def step (maxInflight : Nat) (c : Cluster) :
    ClusterEvent → Option (Except ErrorReply SecretAckBody) × Cluster
  | .register node userID deviceID => (none, c.register node userID deviceID)
  | .close conn => (none, { c with sockets := c.sockets.modify conn Socket.close })
  | .unregister conn => (none, c.unregister conn)
  | .push conn => (none, c.sendTo maxInflight .other conn)
  | .write conn ok => (none, { c with sockets := c.sockets.modify conn (Socket.writeOne ok) })
  | .deliver index =>
    match c.bus[index]? with
    | none => (none, c)
    | some nd => (none, { c with bus := c.bus.eraseIdx index }.deliver maxInflight nd)
  | .lose index => (none, { c with bus := c.bus.eraseIdx index })
  | .send s w =>
    let r := c.handleSecretSend s w
    (some r.1, { r.2 with sent := c.sent + 1 })
  | .sync user deviceID afterID limit =>
    (none, { c with history := (c.history.step (.pending user deviceID afterID limit)).2 })
  | .ack user deviceID ids =>
    (none,
      { c with
        history := (c.history.step (.ack user deviceID ids)).2
        left := c.left ++ (c.history.queue user deviceID).filter fun e => e.id ∈ ids })
  | .purge now limit visit =>
    (none,
      { c with
        history := (c.history.step (.purge now limit visit)).2
        left := c.left ++ visit.flatMap fun k =>
          (c.history.store.secretQ k).filter fun e => e.expiresAt ≠ 0 ∧ e.expiresAt ≤ now })

abbrev after (maxInflight : Nat) (c : Cluster) (events : List ClusterEvent) : Cluster :=
  Machine.final (step maxInflight) c events

/-! ## What a step does to the connections -/

end Cluster

/-- A connection later on: it is of the same device, what is written stays written, what is closed
stays closed, and what waits in an open one's lane waits or is written. -/
structure Socket.Next (sk sk' : Socket) : Prop where
  node : sk'.node = sk.node
  userID : sk'.userID = sk.userID
  deviceID : sk'.deviceID = sk.deviceID
  closed : sk.closed = true → sk'.closed = true
  wrote : ∀ tag, sk.Wrote tag → sk'.Wrote tag
  holds : ∀ tag, sk.Holds tag → sk'.closed = true ∨ sk'.Holds tag ∨ sk'.Wrote tag

namespace Socket

variable (sk : Socket)

lemma Next.refl : sk.Next sk :=
  ⟨rfl, rfl, rfl, id, fun _ => id, fun _ h => .inr (.inl h)⟩

lemma Next.trans {sk sk' sk'' : Socket} (h : sk.Next sk') (h' : sk'.Next sk'') :
    sk.Next sk'' where
  node := h'.node.trans h.node
  userID := h'.userID.trans h.userID
  deviceID := h'.deviceID.trans h.deviceID
  closed hclosed := h'.closed (h.closed hclosed)
  wrote tag hwrote := h'.wrote tag (h.wrote tag hwrote)
  holds tag hholds := by
    rcases h.holds tag hholds with hclosed | hholds | hwrote
    · exact .inl (h'.closed hclosed)
    · exact h'.holds tag hholds
    · exact .inr (.inr (h'.wrote tag hwrote))

lemma next_close : sk.Next sk.close :=
  ⟨rfl, rfl, rfl, fun _ => rfl, fun _ => id, fun _ _ => .inl rfl⟩

lemma holds_append (f : Frame) {tag : Nat} (h : sk.Holds tag) :
    Holds { sk with lane := sk.lane ++ [f] } tag := by
  unfold Holds
  rw [map_append]
  exact mem_append_left _ h

lemma next_send (maxInflight : Nat) (f : Frame) (sk : Socket) :
    sk.Next (sk.send maxInflight f) := by
  unfold send
  split
  · exact ⟨rfl, rfl, rfl, id, fun _ => id, fun _ h => .inr (.inl (sk.holds_append f h))⟩
  · exact sk.next_close

lemma next_writeOne (ok : Bool) (sk : Socket) : sk.Next (sk.writeOne ok) := by
  unfold writeOne
  split
  · exact .refl sk
  split
  · exact .refl sk
  · next f lane hlane =>
    split
    · refine ⟨rfl, rfl, rfl, id, ?_, ?_⟩
      · intro tag hwrote
        unfold Wrote
        rw [map_append]
        exact mem_append_left _ hwrote
      · intro tag hholds
        unfold Holds at hholds
        rw [hlane, map_cons, mem_cons] at hholds
        rcases hholds with hhead | hrest
        · refine .inr (.inr ?_)
          unfold Wrote
          rw [map_append, hhead]
          exact mem_append_right _ (mem_singleton_self _)
        · exact .inr (.inl hrest)
    · exact ⟨rfl, rfl, rfl, fun _ => rfl, fun _ => id, fun _ _ => .inl rfl⟩

end Socket

namespace Cluster

/-- Every connection is later what it was or goes on from there. -/
def Next (c c' : Cluster) : Prop :=
  ∀ (conn : Nat) (sk : Socket), c.sockets[conn]? = some sk →
    ∃ sk', c'.sockets[conn]? = some sk' ∧ sk.Next sk'

variable {c c' : Cluster} {index : Nat} {env e : SecretEnvelope}

lemma Next.of_eq (h : c'.sockets = c.sockets) : c.Next c' := by
  intro conn sk hsk
  exact ⟨sk, h ▸ hsk, .refl sk⟩

lemma Next.trans {c'' : Cluster} (h : c.Next c') (h' : c'.Next c'') : c.Next c'' := by
  intro conn sk hsk
  rcases h conn sk hsk with ⟨sk', hsk', hnext⟩
  rcases h' conn sk' hsk' with ⟨sk'', hsk'', hnext'⟩
  exact ⟨sk'', hsk'', hnext.trans hnext'⟩

lemma Next.modify {f : Socket → Socket} (hf : ∀ sk : Socket, sk.Next (f sk))
    (h : c'.sockets = c.sockets.modify index f) : c.Next c' := by
  intro conn sk hsk
  rw [h, getElem?_modify]
  split
  · exact ⟨f sk, by rw [hsk]; rfl, hf sk⟩
  · exact ⟨sk, by rw [hsk]; rfl, .refl sk⟩

variable (maxInflight : Nat)

lemma next_sendTo (f : Frame) (c : Cluster) (conn : Nat) : c.Next (c.sendTo maxInflight f conn) :=
  .modify (Socket.next_send maxInflight f) rfl

lemma next_deliver (c : Cluster) (nd : NodeDelivery) : c.Next (c.deliver maxInflight nd) := by
  unfold deliver
  split
  · split
    · exact .of_eq rfl
    · exact c.next_sendTo maxInflight _ _
  · generalize (c.hub nd.node nd.userID).entries.map Sigma.snd = conns
    induction conns generalizing c with
    | nil => exact .of_eq rfl
    | cons conn conns ih => exact (c.next_sendTo maxInflight _ conn).trans (ih _)

/-- A request leaves the connections and the hubs alone, and adds to the channels. -/
lemma handleSecretSend_frame (c : Cluster) (s : Send) (w : Weather) :
    (c.handleSecretSend s w).2.sockets = c.sockets ∧ (c.handleSecretSend s w).2.hub = c.hub ∧
      c.bus ⊆ (c.handleSecretSend s w).2.bus := by
  have hroute : ∀ body, (c.routeToDevice w body).2.sockets = c.sockets ∧
      (c.routeToDevice w body).2.hub = c.hub ∧ c.bus ⊆ (c.routeToDevice w body).2.bus := by
    intro body
    unfold routeToDevice
    split
    · exact ⟨rfl, rfl, List.Subset.refl _⟩
    · exact ⟨rfl, rfl, subset_append_left _ _⟩
  unfold handleSecretSend
  split
  · split
    · exact ⟨rfl, rfl, List.Subset.refl _⟩
    split
    · exact ⟨rfl, rfl, List.Subset.refl _⟩
    split
    · exact ⟨rfl, rfl, List.Subset.refl _⟩
    unfold relaySecret
    dsimp only
    split
    · unfold queueSecret
      split
      · exact hroute _
      · exact hroute _
    · exact hroute _
  · exact ⟨rfl, rfl, List.Subset.refl _⟩

theorem next_step (c : Cluster) (event : ClusterEvent) : c.Next (c.step maxInflight event).2 := by
  cases event with
  | register =>
    intro conn sk hsk
    refine ⟨sk, ?_, .refl sk⟩
    exact (getElem?_append_left (List.getElem?_eq_some_iff.mp hsk).1).trans hsk
  | close => exact .modify Socket.next_close rfl
  | unregister =>
    refine .of_eq ?_
    simp only [step, unregister]
    split
    · rfl
    · split
      · rfl
      · rfl
  | push conn => exact c.next_sendTo maxInflight .other conn
  | write conn ok => exact .modify (Socket.next_writeOne ok) rfl
  | deliver index =>
    simp only [step]
    split
    · exact .of_eq rfl
    · next nd _ =>
      have herase : c.Next { c with bus := c.bus.eraseIdx index } := .of_eq rfl
      exact herase.trans (next_deliver maxInflight _ nd)
  | lose => exact .of_eq rfl
  | send s w => exact .of_eq (c.handleSecretSend_frame s w).1
  | sync | ack | purge => exact .of_eq rfl

/-- The hub of a node lists connections of that node, each under its account and device. -/
def Registered (c : Cluster) : Prop :=
  ∀ (node userID deviceID : String) (conn : Nat), (c.hub node userID).lookup deviceID = some conn →
    ∃ sk, c.sockets[conn]? = some sk ∧ sk.node = node ∧ sk.userID = userID ∧ sk.deviceID = deviceID

lemma Registered.next (h : c.Registered) (hnext : c.Next c')
    (hhub : ∀ node userID deviceID conn, (c'.hub node userID).lookup deviceID = some conn →
      (c.hub node userID).lookup deviceID = some conn) : c'.Registered := by
  intro node userID deviceID conn hlook
  rcases h node userID deviceID conn (hhub _ _ _ _ hlook) with ⟨sk, hsk, hnode, huser, hdev⟩
  rcases hnext conn sk hsk with ⟨sk', hsk', hnext⟩
  exact ⟨sk', hsk', hnext.node.trans hnode, hnext.userID.trans huser, hnext.deviceID.trans hdev⟩

lemma setDevices_apply (c : Cluster) (node userID : String)
    (devs : AList fun _ : String => Nat) (node' userID' : String) :
    c.setDevices node userID devs node' userID' =
      if node' = node ∧ userID' = userID then devs else c.hub node' userID' := by
  unfold setDevices
  rcases eq_or_ne node' node with rfl | hnode
  · rcases eq_or_ne userID' userID with rfl | huser
    · rw [update_self, update_self, if_pos ⟨rfl, rfl⟩]
    · rw [update_self, update_of_ne huser, if_neg fun h => huser h.2]
  · rw [update_of_ne hnode, if_neg fun h => hnode h.1]

lemma lookup_unregister {node userID deviceID : String} {conn : Nat}
    (h : ((c.unregister index).hub node userID).lookup deviceID = some conn) :
    (c.hub node userID).lookup deviceID = some conn := by
  unfold unregister at h
  split at h
  · exact h
  · next sk hsk =>
    split at h
    · dsimp only at h
      rw [setDevices_apply] at h
      split at h
      · next hsame =>
        rcases hsame with ⟨rfl, rfl⟩
        rcases eq_or_ne deviceID sk.deviceID with rfl | hne
        · rw [AList.lookup_erase] at h
          cases h
        · rwa [AList.lookup_erase_ne hne] at h
      · exact h
    · exact h

lemma Registered.register (h : c.Registered) (node userID deviceID : String) :
    (c.register node userID deviceID).Registered := by
  intro node' userID' deviceID' conn hlook
  have hold : (c.hub node' userID').lookup deviceID' = some conn →
      ∃ sk, (c.register node userID deviceID).sockets[conn]? = some sk ∧ sk.node = node' ∧
        sk.userID = userID' ∧ sk.deviceID = deviceID' := by
    intro hlook
    rcases h node' userID' deviceID' conn hlook with ⟨sk, hsk, hsame⟩
    refine ⟨sk, ?_, hsame⟩
    exact (getElem?_append_left (List.getElem?_eq_some_iff.mp hsk).1).trans hsk
  unfold Cluster.register at hlook
  dsimp only at hlook
  rw [setDevices_apply] at hlook
  split at hlook
  · next hsame =>
    rcases hsame with ⟨rfl, rfl⟩
    rcases eq_or_ne deviceID' deviceID with rfl | hne
    · rw [AList.lookup_insert] at hlook
      cases hlook
      refine ⟨⟨node', userID', deviceID', [], [], false⟩, ?_, rfl, rfl, rfl⟩
      exact getElem?_concat_length
    · rw [AList.lookup_insert_ne hne] at hlook
      exact hold hlook
  · exact hold hlook

lemma deliver_eq (c : Cluster) (nd : NodeDelivery) :
    ∃ sockets, c.deliver maxInflight nd = { c with sockets := sockets } := by
  unfold deliver
  split
  · split
    · exact ⟨_, rfl⟩
    · exact ⟨_, rfl⟩
  · generalize (c.hub nd.node nd.userID).entries.map Sigma.snd = conns
    induction conns generalizing c with
    | nil => exact ⟨_, rfl⟩
    | cons conn conns ih =>
      rcases ih (c.sendTo maxInflight (.secret nd.body) conn) with ⟨sockets, hsockets⟩
      exact ⟨sockets, hsockets⟩

lemma Registered.step (h : c.Registered) (maxInflight : Nat) (event : ClusterEvent) :
    (c.step maxInflight event).2.Registered := by
  have hnext := c.next_step maxInflight event
  cases event with
  | register node userID deviceID => exact h.register node userID deviceID
  | unregister => exact h.next hnext fun _ _ _ _ => lookup_unregister
  | deliver index =>
    refine h.next hnext ?_
    intro node userID deviceID conn hlook
    simp only [Cluster.step] at hlook
    split at hlook
    · exact hlook
    · next nd _ =>
      rcases deliver_eq maxInflight { c with bus := c.bus.eraseIdx index } nd with ⟨_, heq⟩
      rwa [heq] at hlook
  | send s w =>
    refine h.next hnext ?_
    intro node userID deviceID conn hlook
    simp only [Cluster.step] at hlook
    rwa [(c.handleSecretSend_frame s w).2.1] at hlook
  | _ => exact h.next hnext fun _ _ _ _ => id

/-! ## The queue -/

/-- The row is in the queue of its device, or was acknowledged, evicted or expired. -/
def Stored (c : Cluster) (env : SecretEnvelope) : Prop :=
  env ∈ c.history.queue env.toUserID env.toDeviceID ∨ env ∈ c.left
deriving Decidable

lemma stored_queueSecret_self (c : Cluster) {w : Weather} (hstores : w.stores = true)
    (env : SecretEnvelope) : (c.queueSecret w env).2.Stored env := by
  unfold queueSecret
  rw [if_pos hstores]
  rcases c.history.store.enqueueSecret_self env maxQueuedPerDevice with ⟨_, _, heq⟩
  refine .inl ?_
  simp only [History.step, queue]
  rw [heq]
  exact mem_append_right _ (mem_singleton_self _)

lemma Stored.queueSecret (h : c.Stored env) (w : Weather) (env' : SecretEnvelope) :
    (c.queueSecret w env').2.Stored env := by
  unfold Cluster.queueSecret
  split
  · rcases h with hqueue | hleft
    · by_cases hkey : secretKey env.toUserID.text env.toDeviceID =
          secretKey env'.toUserID.text env'.toDeviceID
      · have hsame := joinKey_inj.mp hkey
        rw [hsame.1, hsame.2] at hqueue
        have hsplit := take_append_drop
          ((c.history.queue env'.toUserID env'.toDeviceID).length + 1 - maxQueuedPerDevice.toNat)
          (c.history.queue env'.toUserID env'.toDeviceID)
        rw [← hsplit] at hqueue
        rcases mem_append.mp hqueue with hevicted | hkept
        · exact .inr (mem_append_right _ hevicted)
        refine .inl ?_
        simp only [History.step, queue, Store.enqueueSecret]
        rw [hkey, update_self, if_pos (by decide), Window.push_eq, rtake.eq_1,
          length_append, length_singleton, drop_append]
        exact mem_append_left _ hkept
      · refine .inl ?_
        simp only [History.step, queue]
        rwa [Store.enqueueSecret_other _ _ _ hkey]
    · exact .inr (mem_append_left _ hleft)
  · exact h

lemma Stored.ack (h : c.Stored env) (maxInflight : Nat) (user : KeyPart) (deviceID : String)
    (ids : List String) : (c.step maxInflight (.ack user deviceID ids)).2.Stored env := by
  rcases h with hqueue | hleft
  · simp only [Cluster.step, Stored, History.step, queue, Store.ackSecrets]
    split
    · exact .inl hqueue
    dsimp only
    by_cases hkey : secretKey env.toUserID.text env.toDeviceID = secretKey user.text deviceID
    · unfold queue at hqueue
      rw [hkey] at hqueue ⊢
      rw [update_self]
      by_cases hid : env.id ∈ ids
      · exact .inr (mem_append_right _ (mem_filter.mpr ⟨hqueue, decide_eq_true hid⟩))
      · exact .inl (mem_filter.mpr ⟨hqueue, decide_eq_true hid⟩)
    · rw [update_of_ne hkey]
      exact .inl hqueue
  · exact .inr (mem_append_left _ hleft)

lemma mem_purgeQueue (now : Int) (limit n : Nat) {q : List SecretEnvelope} (he : e ∈ q) :
    e ∈ (Store.purgeQueue now limit n q).1 ∨ e.expiresAt ≠ 0 ∧ e.expiresAt ≤ now := by
  induction q generalizing n with
  | nil => cases he
  | cons e' q ih =>
    unfold Store.purgeQueue
    split
    · next hexp =>
      rcases mem_cons.mp he with rfl | hrest
      · exact .inr ⟨hexp.1, hexp.2.1⟩
      · exact ih _ hrest
    · rcases mem_cons.mp he with rfl | hrest
      · exact .inl mem_cons_self
      · exact (ih _ hrest).imp_left (mem_cons_of_mem _)

lemma mem_purgeLoop {now : Int} {limit n : Nat} {visit : List String} {st : Store} {k : String}
    (he : e ∈ st.secretQ k) : e ∈ (Store.purgeLoop now limit n visit st).2.secretQ k ∨
      k ∈ visit ∧ e.expiresAt ≠ 0 ∧ e.expiresAt ≤ now := by
  induction visit generalizing n st with
  | nil => exact .inl he
  | cons v visit ih =>
    rcases eq_or_ne k v with rfl | hne
    · rcases mem_purgeQueue now limit n he with hkept | hexp
      · refine (ih ?_).imp_right (And.imp_left (mem_cons_of_mem _))
        dsimp only
        rwa [update_self]
      · exact .inr ⟨mem_cons_self, hexp⟩
    · refine (ih ?_).imp_right (And.imp_left (mem_cons_of_mem _))
      dsimp only
      rwa [update_of_ne hne]

variable (h : c.Stored env)
include h

lemma Stored.purge (maxInflight : Nat) (now limit : Int) (visit : List String) :
    (c.step maxInflight (.purge now limit visit)).2.Stored env := by
  rcases h with hqueue | hleft
  · rcases mem_purgeLoop hqueue with hkept | ⟨hvisited, hexp⟩
    · exact .inl hkept
    · refine .inr (mem_append_right _ ?_)
      exact mem_flatMap.mpr ⟨_, hvisited, mem_filter.mpr ⟨hqueue, decide_eq_true hexp⟩⟩
  · exact .inr (mem_append_left _ hleft)

lemma Stored.relaySecret (s : Send) (w : Weather) (recipient : KeyPart)
    (header cipher : List UInt8) : (c.relaySecret s w recipient header cipher).2.Stored env := by
  have hrouted : ∀ body, (c.routeToDevice w body).2.Stored env := by
    intro body
    unfold routeToDevice
    split
    · exact h
    · exact h
  unfold Cluster.relaySecret
  dsimp only
  split
  · exact (hrouted _).queueSecret w _
  · exact hrouted _

lemma Stored.step (maxInflight : Nat) (event : ClusterEvent) :
    (c.step maxInflight event).2.Stored env := by
  cases event with
  | ack => exact h.ack maxInflight ..
  | purge => exact h.purge maxInflight ..
  | send s w =>
    simp only [Cluster.step, handleSecretSend]
    split
    · split
      · exact h
      split
      · exact h
      · split
        · exact h
        · exact h.relaySecret s w _ _ _
    · exact h
  | deliver index =>
    simp only [Cluster.step]
    split
    · exact h
    · next nd _ =>
      rcases deliver_eq maxInflight { c with bus := c.bus.eraseIdx index } nd with ⟨_, heq⟩
      rw [heq]
      exact h
  | unregister =>
    simp only [Cluster.step, unregister]
    split
    · exact h
    · split
      · exact h
      · exact h
  | register => exact h
  | close | push | write | lose | sync => exact h

theorem Stored.after (maxInflight : Nat) (events : List ClusterEvent) :
    (c.after maxInflight events).Stored env := by
  have hstep : ∀ c event, Stored c env → Stored (Cluster.step maxInflight c event).2 env := by
    intro c event h
    exact h.step maxInflight event
  exact Machine.invariant_final (Cluster.step maxInflight) hstep h events

end Cluster

/-- With the registry's current answer and a queue that takes the row, the gateway answers as in
`Relay.handleSecretSend` and queues the same. -/
theorem handleSecretSend_eq_relay (g : Relay) (c : Cluster) (s : Send) (accepts : String → Bool)
    (hhist : c.history = g.history) : (c.handleSecretSend s
        ⟨some (g.router.nodesForDevice s.body.toUserID s.body.toDeviceID), accepts, true⟩).1 =
      (g.handleSecretSend s).1 ∧ (c.handleSecretSend s
        ⟨some (g.router.nodesForDevice s.body.toUserID s.body.toDeviceID), accepts,
          true⟩).2.history = (g.handleSecretSend s).2.history := by
  unfold Cluster.handleSecretSend Relay.handleSecretSend
  split
  · split
    · exact ⟨rfl, hhist⟩
    split
    · exact ⟨rfl, hhist⟩
    cases secretPayload s.body with
    | none => exact ⟨rfl, hhist⟩
    | some payload =>
      rcases payload with ⟨_, _⟩
      unfold Cluster.relaySecret Cluster.routeToDevice Cluster.publishToNodes
        Relay.routeToDevice
      dsimp only
      split
      · unfold Cluster.queueSecret Relay.queueSecret
        rw [if_pos rfl, hhist]
        exact ⟨rfl, rfl⟩
      · exact ⟨rfl, hhist⟩
  · exact ⟨rfl, hhist⟩

end SyncApp.SecretQueue
