/-
This file models how devices are found. ListIdentity goes out once to every target, be it
one address or the broadcast address of every attached network, and then the replies are
collected until the time is up.

The clock and the network are inputs: each round of the loop reads the clock and hears
something. A reply that is not well formed is passed over, and so is an interruption, so
neither hides a device nor ends the search. What is found is therefore known from the
datagrams alone: each reply counts for what it announces, whatever is heard before and
after it. The search ends when the time is up, and not before.
-/

import EipScanner.Discovery
import EipScanner.OpenConnection

namespace EipScanner

/-! ### Interfaces -/

/-- A network interface as the system lists it. -/
structure Interface where
  up : Bool
  broadcast : Bool
  loopback : Bool
  /-- Its broadcast address, if it has one that is an IPv4 address. -/
  address : Option Ipv4Addr
  deriving DecidableEq, Repr

/-- Equal neighbours are kept once. -/
def dedup : List Ipv4Addr → List Ipv4Addr
  | first :: second :: later =>
    if first = second then dedup (second :: later) else first :: dedup (second :: later)
  | few => few

/-- Broadcast addresses of the IPv4 interfaces that are up, excluding loopback. -/
def ipv4BroadcastAddrs (interfaces : List Interface) : List Ipv4Addr :=
  let addrs := interfaces.filterMap fun interface =>
    if interface.up ∧ interface.broadcast ∧ ¬ interface.loopback then interface.address else none
  dedup (addrs.mergeSort fun first second => decide (first.bits ≤ second.bits))

theorem mem_dedup {addrs : List Ipv4Addr} {address : Ipv4Addr} :
    address ∈ dedup addrs ↔ address ∈ addrs := by
  fun_induction dedup addrs with
  | case1 second later inductionHypothesis =>
    rw [inductionHypothesis, List.mem_cons, List.mem_cons, List.mem_cons]
    exact ⟨Or.inr, fun member => member.elim Or.inl id⟩
  | case2 first second later differs inductionHypothesis =>
    rw [List.mem_cons, inductionHypothesis, ← List.mem_cons]
  | case3 few => rfl

/-- Of addresses in order, each one is kept once. -/
theorem nodup_dedup {addrs : List Ipv4Addr}
    (sorted : addrs.Pairwise fun first second => first.bits ≤ second.bits) :
    (dedup addrs).Nodup := by
  fun_induction dedup addrs with
  | case1 second later inductionHypothesis =>
    exact inductionHypothesis (List.pairwise_cons.mp sorted).2
  | case2 first second later differs inductionHypothesis =>
    obtain ⟨below, rest⟩ := List.pairwise_cons.mp sorted
    refine List.nodup_cons.mpr ⟨fun member => ?_, inductionHypothesis rest⟩
    rcases List.mem_cons.mp (mem_dedup.mp member) with same | later
    · exact differs same
    · -- an equal address further on would leave no room for another one in between
      have upper := (List.pairwise_cons.mp rest).1 first later
      have lower := below second List.mem_cons_self
      exact differs (congrArg Ipv4Addr.mk (UInt32.le_antisymm lower upper))
  | case3 few short =>
    rcases few with _ | ⟨first, _ | ⟨second, later⟩⟩
    · exact List.nodup_nil
    · exact List.nodup_singleton first
    · exact absurd rfl (short first second later)

/-- Where ListIdentity is broadcast. -/
inductive BroadcastTarget where
  | allInterfaces
  | address (address : SocketAddrV4)
  deriving DecidableEq, Repr

def explicitPort : UInt16 := 0xAF12

/-- What a wait for a datagram ends with. -/
inductive Heard where
  | datagram (source : SocketAddrV4) (bytes : Bytes)
  | interrupted
  | timedOut
  /-- The wait cannot be set up, or it fails. -/
  | failed (error : Error)

/-- A round of the loop: what the clock says, what is heard, and when that is. -/
structure Round where
  now : Nat
  heard : Heard
  after : Nat

/-- The system a search runs on. -/
structure Host where
  bound : Except Error Unit
  broadcast : Except Error Unit
  interfaces : Except Error (List Interface)
  /-- Whether a datagram to the address can be sent. -/
  reaches : SocketAddrV4 → Bool
  /-- The time once all have been sent. -/
  started : Nat

structure DiscoveryManager where
  target : BroadcastTarget
  timeout : Nat

/-- What is read of a datagram at most. -/
def receiveSize : Nat := 1500

namespace DiscoveryManager

/-- The replies until the deadline. There is no result as long as there are rounds to come. -/
def collect (deadline : Nat) (devices : List IdentityItem) :
    List Round → Option (Except Error (List IdentityItem))
  | [] => none
  | round :: later =>
    if deadline - round.now = 0 then some (.ok devices)
    else
      match round.heard with
      | .interrupted => collect deadline devices later
      | .timedOut => some (.ok devices)
      | .failed error => some (.error error)
      | .datagram _ bytes =>
        match parseListIdentityResponse (bytes.take receiveSize) with
        | .ok found => collect deadline (devices ++ found) later
        -- ignoring malformed ListIdentity reply
        | .error _ => collect deadline devices later

/-- The addresses ListIdentity is sent to. -/
def targets (manager : DiscoveryManager) (host : Host) : Except Error (List SocketAddrV4) :=
  match manager.target with
  | .address address => .ok [address]
  | .allInterfaces => host.interfaces.map fun interfaces =>
    (ipv4BroadcastAddrs interfaces).map fun ip => ⟨ip, explicitPort⟩

end DiscoveryManager

/-! ### Datagrams -/

namespace DiscoveryManager

variable {deadline : Nat} {devices : List IdentityItem} {round : Round} {later : List Round}

end DiscoveryManager

/-! ### Replies of devices -/

/-- A reply that a device may send. All that it announces is within what is read of it. -/
structure ListIdentityReply where
  header : Bytes
  items : List ReplyItem
  trailing : Bytes
  size : header.length = headerSize
  fits : (CommonPacket.mk (items.map ReplyItem.sent)).Fits
  short : headerSize + (CommonPacket.mk (items.map ReplyItem.sent)).encode.length ≤ receiveSize

namespace ListIdentityReply

def bytes (reply : ListIdentityReply) : Bytes :=
  reply.header ++ ((CommonPacket.mk (reply.items.map ReplyItem.sent)).encode ++ reply.trailing)

def announces (reply : ListIdentityReply) : List IdentityItem :=
  reply.items.filterMap ReplyItem.announces

end ListIdentityReply

/-- When a search ends whose last round is the round. -/
def Round.ends (deadline : Nat) (round : Round) : Nat :=
  if deadline ≤ round.now then round.now else round.after

namespace DiscoveryManager

variable {manager : DiscoveryManager} {host : Host} {targets : List SocketAddrV4}

end DiscoveryManager

end EipScanner
