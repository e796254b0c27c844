import SyncApp.SecretQueue.Delivery

/-!
# Accepted secret messages

Whether a message is queued is decided from the registry, before anything is delivered.  A copy is
followed from the channel of its node to the lane of a connection and on to the wire.

Main results:

- `accepted_secret_kept`: an accepted message is kept if one copy gets through.
-/

namespace SyncApp.SecretQueue

open Foundations List
open Cluster (new)

/-! ## Copies -/

namespace Cluster

/-- A copy of a message: the request it comes of, the node it goes to, and the device that it is
for. -/
structure Copy where
  tag : Nat
  node : String
  userID : String
  deviceID : String

def Copy.Is (k : Copy) (nd : NodeDelivery) : Prop :=
  nd.body.tag = k.tag ∧ nd.node = k.node ∧ nd.userID = k.userID ∧ nd.deviceID = k.deviceID
deriving Decidable

def Copy.At (k : Copy) (sk : Socket) : Prop :=
  sk.node = k.node ∧ sk.userID = k.userID ∧ sk.deviceID = k.deviceID
deriving Decidable

/-- Where a copy can be that is not lost: on the channel of its node, in the lane of an open
connection of its device, or on the wire of one. -/
inductive Carried (c : Cluster) (k : Copy) : Prop where
  | channel (nd : NodeDelivery) (hmem : nd ∈ c.bus) (his : k.Is nd)
  | lane (conn : Nat) (sk : Socket) (hsk : c.sockets[conn]? = some sk) (hat : k.At sk)
      (hopen : sk.closed = false) (hholds : sk.Holds k.tag)
  | wire (conn : Nat) (sk : Socket) (hsk : c.sockets[conn]? = some sk) (hat : k.At sk)
      (hwrote : sk.Wrote k.tag)

/-- The hub has an open connection for the delivery, and its lane has room. -/
def Reachable (maxInflight : Nat) (c : Cluster) (nd : NodeDelivery) : Prop :=
  ∃ conn ∈ (c.hub nd.node nd.userID).lookup nd.deviceID, ∃ sk ∈ c.sockets[conn]?,
    sk.closed = false ∧ sk.lane.length < maxInflight
deriving Decidable

/-- The step hits the copy: it closes the connection in whose lane it waits, or hands it to a node
without an open connection or with a full lane, or the channel loses it. -/
def Hits (maxInflight : Nat) (k : Copy) (c : Cluster) (event : ClusterEvent) : Prop :=
  (∃ p ∈ c.sockets.zip (c.step maxInflight event).2.sockets,
      k.At p.1 ∧ p.1.Holds k.tag ∧ p.1.closed = false ∧ p.2.closed = true) ∨
    match event with
    | .deliver index => ∃ nd ∈ c.bus[index]?, k.Is nd ∧ ¬ c.Reachable maxInflight nd
    | .lose index => ∃ nd ∈ c.bus[index]?, k.Is nd
    | _ => False

instance (maxInflight : Nat) (k : Copy) (c : Cluster) (event : ClusterEvent) :
    Decidable (Hits maxInflight k c event) := by
  unfold Hits
  split <;> infer_instance

variable {c : Cluster} {k : Copy} {nd : NodeDelivery} {maxInflight : Nat}

lemma mem_eraseIdx_of_not_is {index : Nat} (hmem : nd ∈ c.bus) (his : k.Is nd)
    (hnot : ∀ nd' ∈ c.bus[index]?, ¬ k.Is nd') : nd ∈ c.bus.eraseIdx index := by
  rcases mem_iff_getElem?.mp hmem with ⟨i, hi⟩
  refine mem_eraseIdx_iff_getElem?.mpr ⟨i, ?_, hi⟩
  rintro rfl
  exact hnot nd hi his

variable (hreg : c.Registered) (hdevice : k.deviceID ≠ "")
include hreg hdevice

/-- A copy that is on the way to a connection with room is in its lane afterwards. -/
lemma carried_deliver (his : k.Is nd) (hreach : c.Reachable maxInflight nd)
    (bus : List NodeDelivery) : ({ c with bus := bus }.deliver maxInflight nd).Carried k := by
  rcases his with ⟨htag, hnode, huser, hdev⟩
  rcases hreach with ⟨conn, hconn, sk, hsk, hopen, hroom⟩
  rcases hreg _ _ _ _ hconn with ⟨_, hsk', hat⟩
  cases hsk.symm.trans hsk'
  refine .lane conn { sk with lane := sk.lane ++ [.secret nd.body] } ?_ ?_ hopen ?_
  · unfold deliver
    rw [if_pos (hdev ▸ hdevice)]
    rw [hconn]
    unfold sendTo
    rw [getElem?_modify_eq, hsk]
    exact congrArg some (if_pos hroom)
  · exact ⟨hat.1.trans hnode, hat.2.1.trans huser, hat.2.2.trans hdev⟩
  · unfold Socket.Holds
    rw [map_append]
    exact mem_append_right _ (mem_singleton.mpr (congrArg some htag).symm)

/-- A copy that a step does not hit goes on. -/
lemma Carried.step (hcarr : c.Carried k) {event : ClusterEvent}
    (hspared : ¬ Hits maxInflight k c event) : (c.step maxInflight event).2.Carried k := by
  rcases not_or.mp hspared with ⟨hclosed, hchannel⟩
  have hnext := c.next_step maxInflight event
  cases hcarr with
  | channel nd hmem his =>
    cases event with
    | deliver index =>
      simp only [Cluster.step]
      split
      · exact .channel nd hmem his
      · next nd' hnd' =>
        by_cases his' : k.Is nd'
        · have hreach : c.Reachable maxInflight nd' := by
            by_contra hunreachable
            exact hchannel ⟨nd', hnd', his', hunreachable⟩
          exact carried_deliver hreg hdevice his' hreach _
        · have hstays : nd ∈ c.bus.eraseIdx index := by
            refine mem_eraseIdx_of_not_is hmem his ?_
            intro nd'' hnd''
            cases hnd'.symm.trans hnd''
            exact his'
          rcases deliver_eq maxInflight { c with bus := c.bus.eraseIdx index } nd' with
            ⟨_, heq⟩
          rw [heq]
          exact .channel nd hstays his
    | lose =>
      refine .channel nd (mem_eraseIdx_of_not_is hmem his ?_) his
      intro nd' hnd' his'
      exact hchannel ⟨nd', hnd', his'⟩
    | send s w => exact .channel nd ((c.handleSecretSend_frame s w).2.2 hmem) his
    | unregister =>
      refine .channel nd ?_ his
      simp only [Cluster.step, unregister]
      split
      · exact hmem
      · split
        · exact hmem
        · exact hmem
    | _ => exact .channel nd hmem his
  | lane conn sk hsk hat hopen hholds =>
    rcases hnext conn sk hsk with ⟨sk', hsk', hgoes⟩
    have hat' : k.At sk' :=
      ⟨hgoes.node.trans hat.1, hgoes.userID.trans hat.2.1, hgoes.deviceID.trans hat.2.2⟩
    have hopen' : sk'.closed = false := by
      by_contra hnot
      rw [Bool.not_eq_false] at hnot
      refine hclosed ⟨(sk, sk'), ?_, hat, hholds, hopen, hnot⟩
      exact mem_iff_getElem?.mpr ⟨conn, getElem?_zip_eq_some.mpr ⟨hsk, hsk'⟩⟩
    rcases hgoes.holds _ hholds with hshut | hwaits | hwrote
    · rw [hopen'] at hshut
      cases hshut
    · exact .lane conn sk' hsk' hat' hopen' hwaits
    · exact .wire conn sk' hsk' hat' hwrote
  | wire conn sk hsk hat hwrote =>
    rcases hnext conn sk hsk with ⟨sk', hsk', hgoes⟩
    exact .wire conn sk' hsk'
      ⟨hgoes.node.trans hat.1, hgoes.userID.trans hat.2.1, hgoes.deviceID.trans hat.2.2⟩
      (hgoes.wrote _ hwrote)

lemma Carried.after (hcarr : c.Carried k) {events : List ClusterEvent}
    (hspared : Machine.Guarded (Cluster.step maxInflight)
      (fun c event => ¬ Hits maxInflight k c event) c events) :
    (c.after maxInflight events).Carried k := by
  have hstep : ∀ c event, Registered c ∧ c.Carried k → ¬ Hits maxInflight k c event →
      Registered (c.step maxInflight event).2 ∧ (c.step maxInflight event).2.Carried k := by
    intro c event h hnot
    exact ⟨h.1.step maxInflight event, h.2.step h.1 hdevice hnot⟩
  exact (Machine.guarded_final (Cluster.step maxInflight) hstep ⟨hreg, hcarr⟩ hspared).2

end Cluster

/-! ## Accepted messages -/

namespace Cluster

/-- The message is on the wire of a connection of its device. -/
def Written (c : Cluster) (tag : Nat) (userID deviceID : String) : Prop :=
  ∃ sk ∈ c.sockets, sk.userID = userID ∧ sk.deviceID = deviceID ∧ sk.Wrote tag

/-- The message is still on a channel or in the lane of an open connection. -/
def Underway (c : Cluster) (tag : Nat) : Prop :=
  (∃ nd ∈ c.bus, nd.body.tag = tag) ∨ ∃ sk ∈ c.sockets, sk.closed = false ∧ sk.Holds tag
deriving Decidable

variable {c : Cluster} {cipher header : List UInt8} {recipient : KeyPart} {s : Send} {w : Weather}

lemma Carried.written_or_underway {k : Copy} (h : c.Carried k) :
    c.Written k.tag k.userID k.deviceID ∨ c.Underway k.tag := by
  cases h with
  | channel nd hmem his => exact .inr (.inl ⟨nd, hmem, his.1⟩)
  | lane conn sk hsk hat hopen hholds =>
    exact .inr (.inr ⟨sk, mem_of_getElem? hsk, hopen, hholds⟩)
  | wire conn sk hsk hat hwrote =>
    exact .inl ⟨sk, mem_of_getElem? hsk, hat.2.1, hat.2.2, hwrote⟩

/-- None of the failures takes the message: no node is listed and the queue takes it, or a listed
node's channel accepts it and no later step hits this copy. -/
def Spared (maxInflight : Nat) (c : Cluster) (s : Send) (w : Weather)
    (events : List ClusterEvent) : Prop :=
  (w.nodes.getD [] = [] ∧ w.stores = true) ∨
    ∃ node ∈ w.nodes.getD [], w.accepts node = true ∧
      Machine.Guarded (step maxInflight)
        (fun c' event => ¬ Hits maxInflight ⟨c.sent, node, s.body.toUserID, s.body.toDeviceID⟩ c'
          event)
        (c.step maxInflight (.send s w)).2 events

lemma registered_after (maxInflight : Nat) (events : List ClusterEvent) :
    (new.after maxInflight events).Registered :=
  Machine.invariant_final _ (fun _ event h => h.step maxInflight event) nofun events

/-- What an accepted request has done: it has queued the message if no node is listed, and
otherwise published it. -/
lemma relaySecret_listed_none (hnone : w.nodes.getD [] = []) (hstores : w.stores = true) :
    (c.relaySecret s w recipient header cipher).2.Stored (s.envelope recipient header cipher) := by
  have hcnt : (c.routeToDevice w (c.recv s header cipher)).1 = 0 := by
    unfold routeToDevice
    cases hnodes : w.nodes with
    | none => rfl
    | some =>
      rw [hnodes] at hnone
      exact congrArg length hnone
  unfold relaySecret
  rw [if_pos hcnt]
  exact stored_queueSecret_self _ hstores _

lemma relaySecret_listed {node : String} (hnode : node ∈ w.nodes.getD [])
    (haccepts : w.accepts node = true) : (c.relaySecret s w recipient header cipher).2.Carried
      ⟨c.sent, node, s.body.toUserID, s.body.toDeviceID⟩ := by
  cases hnodes : w.nodes with
  | none =>
    rw [hnodes] at hnode
    cases hnode
  | some nodes =>
    rw [hnodes] at hnode
    have hrouted : c.routeToDevice w (c.recv s header cipher) =
        c.publishToNodes w.accepts nodes (c.recv s header cipher) := by
      unfold routeToDevice
      rw [hnodes]
    have hcnt : (c.routeToDevice w (c.recv s header cipher)).1 ≠ 0 := by
      rw [hrouted]
      exact Nat.ne_of_gt (length_pos_of_mem hnode)
    unfold relaySecret
    rw [if_neg hcnt, hrouted]
    refine .channel ⟨node, s.body.toUserID, s.body.toDeviceID, c.recv s header cipher⟩ ?_
      ⟨rfl, rfl, rfl, rfl⟩
    refine mem_append_right _ (mem_map.mpr ⟨node, ?_, rfl⟩)
    exact mem_filter.mpr ⟨hnode, haccepts⟩

lemma handleSecretSend_eq_ok {ack : SecretAckBody} (hok : (c.handleSecretSend s w).1 = .ok ack) :
    ∃ (recipient : KeyPart) (header cipher : List UInt8), recipient.text = s.body.toUserID ∧
      secretPayload s.body = some (header, cipher) ∧ c.handleSecretSend s w =
        (.ok (c.relaySecret s w recipient header cipher).1,
          (c.relaySecret s w recipient header cipher).2) := by
  unfold handleSecretSend at hok ⊢
  split at hok
  · next hto =>
    rw [dif_pos hto]
    split at hok
    · cases hok
    · next hval =>
      rw [if_neg hval]
      split at hok
      · cases hok
      · next hblock =>
        rw [if_neg hblock]
        split at hok
        · cases hok
        · next header cipher hload =>
          exact ⟨s.recipient hto, header, cipher, rfl, hload, rfl⟩
  · cases hok

end Cluster

open Cluster in
/-- An accepted message to a device that none of the failures takes is, at every later moment, in
the queue (or was acknowledged, evicted or expired there), on the wire of a connection of the
device, or underway. -/
theorem accepted_secret_kept (maxInflight : Nat) (before events : List ClusterEvent) (s : Send)
    (w : Weather) {ack : SecretAckBody} (hdevice : s.body.toDeviceID ≠ "")
    (hok : ((new.after maxInflight before).step maxInflight (.send s w)).1 = some (.ok ack))
    (hspared : Spared maxInflight (new.after maxInflight before) s w events) :
    ∃ (recipient : KeyPart) (header cipher : List UInt8), recipient.text = s.body.toUserID ∧
      secretPayload s.body = some (header, cipher) ∧
      ((new.after maxInflight (before ++ .send s w :: events)).Stored
          (s.envelope recipient header cipher) ∨
        (new.after maxInflight (before ++ .send s w :: events)).Written
          (new.after maxInflight before).sent s.body.toUserID s.body.toDeviceID ∨
        (new.after maxInflight (before ++ .send s w :: events)).Underway
          (new.after maxInflight before).sent) := by
  rcases handleSecretSend_eq_ok (Option.some.inj hok) with
    ⟨recipient, header, cipher, hto, hload, heq⟩
  refine ⟨recipient, header, cipher, hto, hload, ?_⟩
  have hreg := registered_after maxInflight before
  have hsplit : new.after maxInflight (before ++ .send s w :: events) =
      ((new.after maxInflight before).step maxInflight (.send s w)).2.after maxInflight events :=
    Machine.final_append _ _ _ _
  rw [hsplit]
  generalize new.after maxInflight before = c at hreg hspared heq ⊢
  have hstep : (c.step maxInflight (.send s w)).2 =
      { (c.relaySecret s w recipient header cipher).2 with sent := c.sent + 1 } := by
    simp only [Cluster.step]
    rw [heq]
  rcases hspared with ⟨hnone, hstores⟩ | ⟨node, hnode, haccepts, hrun⟩
  · have hstored : (c.step maxInflight (.send s w)).2.Stored
        (s.envelope recipient header cipher) := by
      rw [hstep]
      exact relaySecret_listed_none hnone hstores
    exact .inl (hstored.after maxInflight events)
  · have hcarr : (c.step maxInflight (.send s w)).2.Carried
        ⟨c.sent, node, s.body.toUserID, s.body.toDeviceID⟩ := by
      have hpub : (c.relaySecret s w recipient header cipher).2.Carried
          ⟨c.sent, node, s.body.toUserID, s.body.toDeviceID⟩ :=
        relaySecret_listed hnode haccepts
      rw [hstep]
      cases hpub with
      | channel nd hmem his => exact .channel nd hmem his
      | lane conn sk hsk hat hopen hholds => exact .lane conn sk hsk hat hopen hholds
      | wire conn sk hsk hat hwrote => exact .wire conn sk hsk hat hwrote
    have hlater := Carried.after (hreg.step maxInflight _) hdevice hcarr hrun
    exact .inr hlater.written_or_underway

namespace Cluster

/-- The message is nowhere: not in the queue of the device and not dismissed from it, on no
channel and no wire, and in the lane of no open connection. -/
def Lost (c : Cluster) (tag : Nat) (user : KeyPart) (deviceID : String) : Prop :=
  c.history.queue user deviceID = [] ∧ c.left = [] ∧ c.bus = [] ∧
    ∀ sk ∈ c.sockets, ¬ sk.Wrote tag ∧ (sk.closed = true ∨ ¬ sk.Holds tag)
deriving Decidable

end Cluster

/-- The registry lists one node. -/
def listed (accepts : Bool) : Weather := ⟨some ["node-1"], fun _ => accepts, true⟩

/-- The phone of account 7 is connected, a message for it is delivered and written. -/
theorem accepted_secret_kept_connected :
    (new.after 8 [.register "node-1" "7" "phone", .send (toSeven "phone") (listed true),
      .deliver 0, .write 0 true]).Written 0 "7" "phone" := by
  have hok : ((new.after 8 [.register "node-1" "7" "phone"]).step 8
      (.send (toSeven "phone") (listed true))).1 = some (.ok ⟨"7", "phone", 1, false⟩) := by
    decide +kernel
  rcases accepted_secret_kept 8 [.register "node-1" "7" "phone"] [.deliver 0, .write 0 true]
    (toSeven "phone") (listed true) (by decide) hok
    (.inr ⟨"node-1", by decide, rfl, by decide +kernel⟩) with
    ⟨recipient, header, cipher, hto, hload, hstored | hwritten | hunderway⟩
  · cases (KeyPart.text_inj.mp hto : recipient = account 7)
    cases hload
    exact absurd hstored (by decide +kernel)
  · exact hwritten
  · exact absurd hunderway (by decide +kernel)

/-- Five runs in which an accepted message is lost: the node listed has no connection of the phone;
the publish fails; the lane is full; the connection is closed before the message is written; and no
node is listed, and the queue does not take it. -/
theorem accepted_secrets_lost :
    let accepted := fun (run : List ClusterEvent) (w : Weather) =>
      ((new.after 1 run).step 1 (.send (toSeven "phone") w)).1
    let phone : List ClusterEvent := [.register "node-1" "7" "phone"]
    (accepted [] (listed true) = some (.ok ⟨"7", "phone", 1, false⟩) ∧
        (new.after 1 [.send (toSeven "phone") (listed true), .deliver 0]).Lost 0
          (account 7) "phone") ∧
      (accepted phone (listed false) = some (.ok ⟨"7", "phone", 1, false⟩) ∧
        (new.after 1 (phone ++ [.send (toSeven "phone") (listed false)])).Lost 0
          (account 7) "phone") ∧
      (accepted (phone ++ [.push 0]) (listed true) = some (.ok ⟨"7", "phone", 1, false⟩) ∧
        (new.after 1 (phone ++ [.push 0, .send (toSeven "phone") (listed true),
          .deliver 0])).Lost 0 (account 7) "phone") ∧
      (accepted phone (listed true) = some (.ok ⟨"7", "phone", 1, false⟩) ∧
        (new.after 1 (phone ++ [.send (toSeven "phone") (listed true), .deliver 0,
          .close 0])).Lost 0 (account 7) "phone") ∧
      (accepted [] ⟨some [], fun _ => true, false⟩ = some (.ok ⟨"7", "phone", 0, false⟩) ∧
        (new.after 1 [.send (toSeven "phone") ⟨some [], fun _ => true, false⟩]).Lost 0
          (account 7) "phone") := by
  decide +kernel

end SyncApp.SecretQueue
