import Mathlib.Data.Fintype.Basic
import RsNetty.Channel.Datagram
import RsNetty.Pipeline.Codec

/-!
# Sockets on a network

UDP promises little: a datagram that one of the sockets has sent may arrive at the socket it is for,
at any time and any number of times, or not at all. It arrives unchanged and with the address of its
sender. Datagrams from anywhere else may be anything.
-/

namespace RsNetty

variable {ι : Type}

/-- The address of a socket. -/
def DatagramChannel.addr {P : DatagramStages} (s : DatagramChannel P) : SocketAddr := s.rt.localAddr

/-- The datagrams that a task has sent so far. -/
def DatagramChannel.sent {P : DatagramStages} (s : DatagramChannel P) : List (SocketAddr × Bytes) :=
  s.rt.io.socket.sent

/-- The sockets, each with its task and its channel. -/
abbrev UdpNetwork (P : ι → DatagramStages) := (i : ι) → DatagramChannel (P i)

inductive NetworkAction (P : ι → DatagramStages) where
  /-- Anything that happens at one socket but the arrival of a datagram of another one. -/
  | act (i : ι) (action : DatagramAction (P i).Write)
  /-- A datagram that a socket has sent, by its number, arrives at this one. -/
  | arrive (i sender : ι) (number : Nat)

namespace UdpNetwork

variable {P : ι → DatagramStages} [Fintype ι] [DecidableEq ι]

/-- The action does not bring a datagram under the address of one of the sockets. -/
def isLocal {W : Type} (s : UdpNetwork P) : DatagramAction W → Bool
  | .recvFrom (.ok (_, peerAddr)) => decide (∀ i, (s i).addr ≠ peerAddr)
  | _ => true

/-- A step of one of the sockets. -/
def stepAt (i : ι) (action : DatagramAction (P i).Write) (s : UdpNetwork P) :
    Option (UdpNetwork P) :=
  ((s i).step action).map (Function.update s i)

def step : Machine (UdpNetwork P) (NetworkAction P) := fun s action =>
  match action with
  | .act i action => if s.isLocal action then s.stepAt i action else none
  | .arrive i sender number =>
    match (s sender).sent[number]? with
    | some (peerAddr, datagram) =>
      if peerAddr = (s i).addr then s.stepAt i (.recvFrom (.ok (datagram, (s sender).addr)))
      else none
    | none => none

end UdpNetwork

/-! ## Handlers right behind their codecs -/

/-- What the task of a socket is spawned with, where there are no stages. -/
structure DatagramNode : Type 1 where
  H : Type
  Item : Type
  CurrentOut : Type
  codec : DatagramCodec Item CurrentOut
  read : DatagramInfo → H → Item → HandlerFuture H (SocketAddr × CurrentOut)
  handler : H
  id : UInt64
  localAddr : SocketAddr
  faults : List (Option String)
  config : UdpSocketConfig
  outboundQueueSize : Nat
  hasShutdown : Bool

def DatagramNode.stages (node : DatagramNode) : DatagramStages := node.codec.stages node.read

def DatagramNode.spawn (node : DatagramNode) : DatagramChannel node.stages :=
  .new node.id node.localAddr { faults := node.faults } (node.codec.pipeline node.read node.handler)
    node.config node.outboundQueueSize node.hasShutdown

/-- The sockets before anything has happened. -/
def UdpNetwork.new (nodes : ι → DatagramNode) : UdpNetwork fun i => (nodes i).stages :=
  fun i => (nodes i).spawn

end RsNetty
