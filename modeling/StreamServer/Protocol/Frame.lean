import StreamServer.Common.IntervalSet

/-! The frames of the transport: those recorded for a written packet and those
decoded from a received one. Buffers are byte lists; the blob of a knob frame is
a chain of them, since its announced length is that of the first buffer only. -/
namespace StreamServer.Protocol
open Common

def kMaxConnectionIdSize : Nat := 20
def kStatelessResetTokenLength : Nat := 16

inductive FrameType where
  | padding | ping | ack | ackEcn | rstStream | stopSending | cryptoFrame | newToken
  | stream | streamFin | streamLen | streamLenFin | streamOff | streamOffFin | streamOffLen
  | streamOffLenFin
  | maxData | maxStreamData | maxStreamsBidi | maxStreamsUni | dataBlocked | streamDataBlocked
  | streamsBlockedBidi | streamsBlockedUni | newConnectionId | retireConnectionId
  | pathChallenge | pathResponse | connectionClose | connectionCloseAppErr | handshakeDone
  | datagram | datagramLen | knob | immediateAck | ackFrequency
  | groupStream | groupStreamFin | groupStreamLen | groupStreamLenFin | groupStreamOff
  | groupStreamOffFin | groupStreamOffLen | groupStreamOffLenFin | ackReceiveTimestamps
  deriving DecidableEq, Repr

namespace FrameType

def value : FrameType → Nat
  | padding => 0x00 | ping => 0x01 | ack => 0x02 | ackEcn => 0x03 | rstStream => 0x04
  | stopSending => 0x05 | cryptoFrame => 0x06 | newToken => 0x07
  | stream => 0x08 | streamFin => 0x09 | streamLen => 0x0a | streamLenFin => 0x0b
  | streamOff => 0x0c | streamOffFin => 0x0d | streamOffLen => 0x0e | streamOffLenFin => 0x0f
  | maxData => 0x10 | maxStreamData => 0x11 | maxStreamsBidi => 0x12 | maxStreamsUni => 0x13
  | dataBlocked => 0x14 | streamDataBlocked => 0x15 | streamsBlockedBidi => 0x16
  | streamsBlockedUni => 0x17 | newConnectionId => 0x18 | retireConnectionId => 0x19
  | pathChallenge => 0x1A | pathResponse => 0x1B | connectionClose => 0x1C
  | connectionCloseAppErr => 0x1D | handshakeDone => 0x1E | datagram => 0x30
  | datagramLen => 0x31 | knob => 0x1550 | immediateAck => 0xAC | ackFrequency => 0xAF
  | groupStream => 0x32 | groupStreamFin => 0x33 | groupStreamLen => 0x34
  | groupStreamLenFin => 0x35 | groupStreamOff => 0x36 | groupStreamOffFin => 0x37
  | groupStreamOffLen => 0x38 | groupStreamOffLenFin => 0x39 | ackReceiveTimestamps => 0xB0

def all : List FrameType :=
  [padding,ping,ack,ackEcn,rstStream,stopSending,cryptoFrame,newToken,stream,streamFin,streamLen,
    streamLenFin,streamOff,streamOffFin,streamOffLen,streamOffLenFin,maxData,maxStreamData,
    maxStreamsBidi,maxStreamsUni,dataBlocked,streamDataBlocked,streamsBlockedBidi,
    streamsBlockedUni,newConnectionId,retireConnectionId,pathChallenge,pathResponse,
    connectionClose,connectionCloseAppErr,handshakeDone,datagram,datagramLen,knob,immediateAck,
    ackFrequency,groupStream,groupStreamFin,groupStreamLen,groupStreamLenFin,groupStreamOff,
    groupStreamOffFin,groupStreamOffLen,groupStreamOffLenFin,ackReceiveTimestamps]

def ofValue? (value : Nat) : Option FrameType := all.find? fun frameType => frameType.value == value

theorem ofValue?_value (frameType : FrameType) : ofValue? frameType.value = some frameType := by
  cases frameType <;> rfl

end FrameType

structure ConnectionId where
  bytes : Bytes
  bounded : bytes.length ≤ kMaxConnectionIdSize
  deriving DecidableEq, Repr

/-- The connection id of no bytes. -/
def ConnectionId.empty : ConnectionId := ⟨[],by decide⟩

structure StatelessResetToken where
  bytes : Bytes
  size : bytes.length = kStatelessResetTokenLength
  deriving DecidableEq, Repr

structure RstStreamFrame where
  streamId : StreamId
  errorCode : Nat
  offset : Nat
  deriving DecidableEq, Repr

structure AckBlock where
  startPacket : PacketNum
  endPacket : PacketNum
  deriving DecidableEq, Repr

structure RecvdPacketsTimestampsRange where
  gap : Nat
  timestampDeltaCount : Nat
  deltas : List Nat
  deriving DecidableEq, Repr

structure ReadAckFrame where
  largestAcked : PacketNum
  ackDelay : Microseconds := 0
  implicit : Bool := false
  ackBlocks : List AckBlock := []
  frameType : FrameType := .ack
  maybeLatestRecvdPacketTime : Option Microseconds := none
  maybeLatestRecvdPacketNum : Option PacketNum := none
  recvdPacketsTimestampRanges : List RecvdPacketsTimestampsRange := []
  deriving DecidableEq, Repr

structure WriteAckFrame where
  ackBlocks : List Interval := []
  ackDelay : Microseconds := 0
  deriving DecidableEq, Repr

structure WriteStreamFrame where
  streamId : StreamId
  offset : Nat
  len : Nat
  fin : Bool
  fromBufMeta : Bool := false
  streamGroupId : Option Nat := none
  streamPacketIdx : Nat := 0
  deriving DecidableEq, Repr

structure ReadStreamFrame where
  streamId : StreamId
  offset : Nat
  data : Bytes
  fin : Bool
  streamGroupId : Option Nat := none
  deriving DecidableEq, Repr

structure WriteCryptoFrame where
  offset : Nat
  len : Nat
  deriving DecidableEq, Repr

structure ReadCryptoFrame where
  offset : Nat
  data : Bytes
  deriving DecidableEq, Repr

structure NewConnectionIdFrame where
  sequenceNumber : Nat
  retirePriorTo : Nat
  connectionId : ConnectionId
  token : StatelessResetToken
  deriving DecidableEq, Repr

structure KnobFrame where
  knobSpace : Nat
  id : Nat
  len : Nat
  blob : List Bytes
  deriving DecidableEq, Repr

def KnobFrame.make (knobSpace id : Nat) (blob : List Bytes) : KnobFrame :=
  ⟨knobSpace,id,(blob.headD []).length,blob⟩

structure AckFrequencyFrame where
  sequenceNumber : Nat
  packetTolerance : Nat
  updateMaxAckDelay : Nat
  reorderThreshold : Nat
  deriving DecidableEq, Repr

inductive QuicSimpleFrame where
  | stopSending (streamId : StreamId) (errorCode : Nat)
  | pathChallenge (pathData : Nat)
  | pathResponse (pathData : Nat)
  | newConnectionId (frame : NewConnectionIdFrame)
  | maxStreams (maxStreams : Nat) (isForBidirectional : Bool)
  | retireConnectionId (sequenceNumber : Nat)
  | handshakeDone
  | knob (frame : KnobFrame)
  | ackFrequency (frame : AckFrequencyFrame)
  | newToken (token : Bytes)
  deriving DecidableEq, Repr

inductive QuicErrorCode where
  | application (code : Nat)
  | transport (code : Nat)
  | localError (code : Nat)
  deriving DecidableEq, Repr

structure ConnectionCloseFrame where
  errorCode : QuicErrorCode
  reasonPhrase : Bytes
  closingFrameType : Nat := 0
  deriving DecidableEq, Repr

inductive QuicWriteFrame where
  | padding (numFrames : Nat)
  | rstStream (frame : RstStreamFrame)
  | connectionClose (frame : ConnectionCloseFrame)
  | maxData (maximumData : Nat)
  | maxStreamData (streamId : StreamId) (maximumData : Nat)
  | dataBlocked (dataLimit : Nat)
  | streamDataBlocked (streamId : StreamId) (dataLimit : Nat)
  | streamsBlocked (streamLimit : Nat) (isForBidirectional : Bool)
  | ack (frame : WriteAckFrame)
  | stream (frame : WriteStreamFrame)
  | crypto (frame : WriteCryptoFrame)
  | simple (frame : QuicSimpleFrame)
  | ping
  | noop
  | datagram (length : Nat) (data : Bytes)
  | immediateAck
  deriving DecidableEq, Repr

inductive QuicFrame where
  | padding (numFrames : Nat)
  | rstStream (frame : RstStreamFrame)
  | connectionClose (frame : ConnectionCloseFrame)
  | maxData (maximumData : Nat)
  | maxStreamData (streamId : StreamId) (maximumData : Nat)
  | dataBlocked (dataLimit : Nat)
  | streamDataBlocked (streamId : StreamId) (dataLimit : Nat)
  | streamsBlocked (streamLimit : Nat) (isForBidirectional : Bool)
  | ack (frame : ReadAckFrame)
  | stream (frame : ReadStreamFrame)
  | crypto (frame : ReadCryptoFrame)
  | newToken (token : Bytes)
  | simple (frame : QuicSimpleFrame)
  | ping
  | noop
  | datagram (length : Nat) (data : Bytes)
  | immediateAck
  deriving DecidableEq, Repr

/-- The type byte of a stream frame, whose low bits say which fields are present. -/
structure StreamTypeField where
  field : Nat
  deriving DecidableEq, Repr

namespace StreamTypeField

def kFinBit : Nat := 0x01
def kDataLengthBit : Nat := 0x02
def kOffsetBit : Nat := 0x04

def hasFin (type : StreamTypeField) : Bool := type.field &&& kFinBit != 0
def hasDataLength (type : StreamTypeField) : Bool := type.field &&& kDataLengthBit != 0
def hasOffset (type : StreamTypeField) : Bool := type.field &&& kOffsetBit != 0

end StreamTypeField

end StreamServer.Protocol
