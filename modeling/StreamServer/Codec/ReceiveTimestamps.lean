import StreamServer.Codec.Parse
import StreamServer.Codec.PacketBuilder
import StreamServer.State.AckHandlers

/-! Receive timestamps: the times an endpoint keeps of the packets it received, and its reading of
the times that the peer's ACK frames report. -/
namespace StreamServer.Codec
open Protocol State Common

def kMaxReceivedPktsTimestampsStored : Nat := 25

structure RecvdPacketInfo where
  pktNum : Nat
  timeStamp : TimePoint
  deriving DecidableEq, Repr

structure TimestampedAckState extends AckState where
  lastRecvdPacketInfo : Option RecvdPacketInfo := none
  recvdPacketInfos : List RecvdPacketInfo := []

/-- The new state and the distance to the packet that was expected. A packet that arrives late has
no timestamp stored. -/
def updateLargestReceivedPacketNum (ackState : TimestampedAckState) (packetNum : PacketNum)
    (receivedTime : TimePoint) : Except Error (TimestampedAckState × Nat) := do
  let expectedNextPacket := match ackState.largestRecvdPacketNum with
    | some largest => largest + 1
    | none => 0
  let largest := max (ackState.largestRecvdPacketNum.getD packetNum) packetNum
  let acks ← ackState.acks.insertRange packetNum packetNum
  let infos := if packetNum ≥ expectedNextPacket then
      (if ackState.recvdPacketInfos.length = kMaxReceivedPktsTimestampsStored then
        ackState.recvdPacketInfos.drop 1 else ackState.recvdPacketInfos) ++ [⟨packetNum,receivedTime⟩]
    else ackState.recvdPacketInfos
  return ({ackState with
      largestRecvdPacketNum := some largest
      acks := acks
      largestRecvdPacketTime :=
        if largest = packetNum then some receivedTime else ackState.largestRecvdPacketTime
      lastRecvdPacketInfo := some ⟨packetNum,receivedTime⟩
      recvdPacketInfos := infos},
    if expectedNextPacket = 0 then 0
    else if packetNum > expectedNextPacket then packetNum - expectedNextPacket
    else expectedNextPacket - packetNum)

/-- The map from packets to times, as the assignments made to it. -/
abbrev ReceiveTimes := List (Nat × Nat)

def ReceiveTimes.size (times : ReceiveTimes) : Nat := (times.map Prod.fst).dedup.length

/-- The walk over the ranges of a frame. The subtractions are those made so far, each with the value
it was made from; the source does not keep them. -/
structure TimestampWalk where
  receivedPacketNum : PacketNum := 0
  receiveTimeStamp : Nat := 0
  packetReceiveTimeStamps : ReceiveTimes := []
  returned : Bool := false
  subtractions : List (Nat × Nat) := []
  deriving DecidableEq, Repr

namespace TimestampWalk

end TimestampWalk

end StreamServer.Codec
