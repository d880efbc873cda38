import StreamServer.State.ConnectionState

/-! What the acknowledgement and loss paths tell the congestion controller. Of the details
an acknowledged packet keeps for each stream only the packet index of the stream is read. -/
namespace StreamServer.State
open Protocol

structure AckPacket where
  packetNum : PacketNum
  nonDsrPacketSequenceNumber : Nat := 0
  outstandingPacketMetadata : OutstandingPacketMetadata
  detailsPerStream : List (StreamId × Option Nat) := []
  lastAckedPacketInfo : Option LastAckedPacketInfo := none
  isAppLimited : Bool := false
  deriving DecidableEq, Repr

structure AckEvent where
  ackTime : TimePoint
  adjustedAckTime : TimePoint
  ackDelay : Microseconds
  packetNumberSpace : PacketNumberSpace
  largestAckedPacket : PacketNum
  implicit : Bool := false
  ackedBytes : Nat := 0
  totalBytesAcked : Nat := 0
  largestNewlyAckedPacket : Option PacketNum := none
  largestNewlyAckedPacketSentTime : TimePoint := 0
  rttSample : Option Microseconds := none
  rttSampleNoAckDelay : Option Microseconds := none
  largestNewlyAckedPacketAppLimited : Bool := false
  ackedPackets : List AckPacket := []
  deriving DecidableEq, Repr

structure LossEvent where
  lossTime : TimePoint
  largestLostPacketNum : Option PacketNum := none
  lostPacketNumbers : List PacketNum := []
  lostBytes : Nat := 0
  lostPackets : Nat := 0
  largestLostSentTime : Option TimePoint := none
  smallestLostSentTime : Option TimePoint := none
  persistentCongestion : Bool := false
  deriving DecidableEq, Repr

def LossEvent.addLostPacket (event : LossEvent) (packet : OutstandingPacket) :
    Except Error LossEvent :=
  if maxUint64 - event.lostBytes < packet.metadata.encodedSize then
    .error (.internal .lostBytesOverflow "LossEvent: lostBytes overflow")
  else .ok {event with
    largestLostPacketNum := some (max packet.number (event.largestLostPacketNum.getD packet.number))
    lostPacketNumbers := event.lostPacketNumbers ++ [packet.number]
    lostBytes := event.lostBytes + packet.metadata.encodedSize
    lostPackets := event.lostPackets + 1
    largestLostSentTime :=
      some (max packet.metadata.time (event.largestLostSentTime.getD packet.metadata.time))
    smallestLostSentTime :=
      some (min packet.metadata.time (event.smallestLostSentTime.getD packet.metadata.time))}

end StreamServer.State
