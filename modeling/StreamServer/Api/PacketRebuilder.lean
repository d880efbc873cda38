import StreamServer.Api.Scheduler
import StreamServer.State.StreamIds

/-! Cloning of outstanding packets: the frames of a packet are written again, from the
state of the connection as it is now, and the clone shares an event with its original. -/
namespace StreamServer.Api
open Protocol State FlowControl Codec

/-- The frame a clone carries for a simple frame, none when there is no more use for it. -/
def updateSimpleFrameOnPacketClone (conn : QuicConnectionState) (frame : QuicSimpleFrame) :
    Option QuicSimpleFrame :=
  match frame with
  | .stopSending streamId _ =>
    if conn.streamManager.streamExists conn.nodeType streamId then some frame else none
  | .pathChallenge pathData =>
    if conn.outstandingPathValidation = some pathData then some frame else none
  | _ => some frame

namespace PacketRebuilder

structure Rebuild where
  builder : PacketBuilder
  writeSuccess : Bool := false
  windowUpdateWritten : Bool := false
  shouldWriteWindowUpdate : Bool := false
  notPureAck : Bool := false
  shouldRebuildWriteAckFrame : Bool := false

def retransmittable (stream : QuicStreamState) : Bool := stream.sendState == .openState

def cloneCryptoRetransmissionBuffer (frame : WriteCryptoFrame) (stream : QuicCryptoStream) :
    Option Bytes :=
  (stream.retransmissionBuffer.lookup frame.offset).map (·.data)

def cloneRetransmissionBuffer (frame : WriteStreamFrame) (stream : QuicStreamState) : Option Bytes :=
  match stream.retransmissionBuffer.lookup frame.offset with
  | some buffer => if frame.len ≠ 0 then some buffer.data else none
  | none => none

/-- A stream frame is cloned whole or the packet is not cloned; the data of a stream that is
closed already is left out. -/
def rebuildStream (conn : QuicConnectionState) (hasAckFrame lastFrame : Bool) (frame : WriteStreamFrame)
    (rebuild : Rebuild) : Except Error Rebuild :=
  match (conn.findStream frame.streamId).filter retransmittable with
  | none => .ok {rebuild with writeSuccess := true}
  | some stream => do
    let streamData := cloneRetransmissionBuffer frame stream
    let bufferLen := (streamData.getD []).length
    let (dataLen,begun) ← writeStreamFrameHeader rebuild.builder frame.streamId frame.offset bufferLen
      bufferLen frame.fin (some (lastFrame && bufferLen != 0 && !hasAckFrame)) frame.streamGroupId true
    if dataLen = some frame.len then
      let builder ← writeStreamFrameData begun (streamData.getD []) frame.len
      return {rebuild with builder, notPureAck := true, writeSuccess := true}
    else return {rebuild with builder := begun, writeSuccess := false}

def rebuildCrypto (stream : QuicCryptoStream) (frame : WriteCryptoFrame) (rebuild : Rebuild) :
    Except Error Rebuild :=
  match cloneCryptoRetransmissionBuffer frame stream with
  | none => .ok {rebuild with writeSuccess := true}
  | some data => do
    let (result,builder) ← writeCryptoFrame frame.offset data rebuild.builder
    let same := result == some frame
    return {rebuild with builder, notPureAck := rebuild.notPureAck || same, writeSuccess := same}

/-- A control frame, and what its being written means for the clone. -/
def rebuildControl (frame : QuicWriteFrame) (note : Bool → Rebuild → Rebuild) (rebuild : Rebuild) :
    Except Error Rebuild := do
  let (written,builder) ← frameWritten frame rebuild.builder
  return {note written rebuild with builder}

/-- Window updates carry the limits of now, and need not fit. -/
def rebuildWindowUpdate (frame : QuicWriteFrame) : Rebuild → Except Error Rebuild :=
  rebuildControl frame fun written rebuild =>
    {rebuild with
      shouldWriteWindowUpdate := true
      windowUpdateWritten := rebuild.windowUpdateWritten || written
      notPureAck := rebuild.notPureAck || written
      writeSuccess := true}

def rebuildMaxStreamData (conn : QuicConnectionState) (streamId : StreamId) (rebuild : Rebuild) :
    Except Error Rebuild :=
  match (conn.findStream streamId).filter (·.shouldSendFlowControl) with
  | none => .ok {rebuild with writeSuccess := true}
  | some stream =>
    rebuildWindowUpdate (.maxStreamData stream.id (generateMaxStreamDataFrame stream)) rebuild

def rebuildSimple (conn : QuicConnectionState) (frame : QuicSimpleFrame) (rebuild : Rebuild) :
    Except Error Rebuild :=
  match updateSimpleFrameOnPacketClone conn frame with
  | none => .ok {rebuild with writeSuccess := true}
  | some updated => do
    let (written,builder) ← simpleFrameWritten updated rebuild.builder
    return {rebuild with
      builder, notPureAck := rebuild.notPureAck || written, writeSuccess := written}

/-- Padding and pings are no reason to send the clone. -/
def rebuildPlain (frame : QuicWriteFrame) : Rebuild → Except Error Rebuild :=
  rebuildControl frame fun written rebuild => {rebuild with writeSuccess := written}

def rebuildOther (frame : QuicWriteFrame) : Rebuild → Except Error Rebuild :=
  rebuildControl frame fun written rebuild =>
    {rebuild with notPureAck := rebuild.notPureAck || written, writeSuccess := written}

def rebuildFrame (conn : QuicConnectionState) (cryptoStream : QuicCryptoStream)
    (hasAckFrame lastFrame : Bool) (frame : QuicWriteFrame) (rebuild : Rebuild) : Except Error Rebuild :=
  match frame with
  | .ack _ => .ok {rebuild with shouldRebuildWriteAckFrame := true}
  | .stream streamFrame => rebuildStream conn hasAckFrame lastFrame streamFrame rebuild
  | .crypto cryptoFrame => rebuildCrypto cryptoStream cryptoFrame rebuild
  | .maxData _ => rebuildWindowUpdate (.maxData (generateMaxDataFrame conn)) rebuild
  | .maxStreamData streamId _ => rebuildMaxStreamData conn streamId rebuild
  | .padding _ | .ping => rebuildPlain frame rebuild
  | .simple simpleFrame => rebuildSimple conn simpleFrame rebuild
  | .datagram _ _ => .ok {rebuild with writeSuccess := true}
  | _ => rebuildOther frame rebuild

def isAck : QuicWriteFrame → Bool
  | .ack _ => true
  | _ => false

/-- None when a frame could not be written; an ACK frame is put off without a look at that. -/
def rebuildFrames (conn : QuicConnectionState) (cryptoStream : QuicCryptoStream) (hasAckFrame : Bool) :
    List QuicWriteFrame → Rebuild → Except Error (Option Rebuild)
  | [], rebuild => .ok (some rebuild)
  | frame :: rest, rebuild => do
    let next ← rebuildFrame conn cryptoStream hasAckFrame rest.isEmpty frame rebuild
    if isAck frame || next.writeSuccess then rebuildFrames conn cryptoStream hasAckFrame rest next
    else return none

/-- A new ACK frame, if it fits. -/
def rebuildAck (conn : QuicConnectionState) (now : TimePoint) (rebuild : Rebuild) :
    Except Error PacketBuilder :=
  if rebuild.shouldRebuildWriteAckFrame then
    AckScheduler.writeNextAcks conn
      (conn.ackStates rebuild.builder.header.getPacketNumberSpace) now rebuild.builder
  else .ok rebuild.builder

/-- The builder with the frames of the clone, none when it is not to be sent. -/
def rebuildFromPacket (conn : QuicConnectionState) (packet : OutstandingPacket) (now : TimePoint)
    (builder : PacketBuilder) : Except Error (Option PacketBuilder) := do
  let encryptionLevel := protectionTypeToEncryptionLevel packet.packet.header.getProtectionType
  let frames := packet.packet.frames
  let result ← rebuildFrames conn (getCryptoStream conn.cryptoState encryptionLevel) (frames.any isAck)
    frames {builder}
  match result with
  | none => return none
  | some rebuild => do
    let builder ← rebuildAck conn now rebuild
    if !rebuild.notPureAck || (rebuild.shouldWriteWindowUpdate && !rebuild.windowUpdateWritten &&
        !rebuild.writeSuccess) then return none
    else if encryptionLevel = .initial then
      return some (← fillWithPadding builder.remainingSpaceInPkt builder)
    else return some builder

/-- The event of a packet and its clones; the first clone creates it. -/
def cloneOutstandingPacket (outstandings : OutstandingsInfo) (packet : OutstandingPacket) :
    PacketEvent × OutstandingPacket × OutstandingsInfo :=
  match packet.associatedEvent with
  | some event => (event,packet,outstandings)
  | none =>
    let event := ⟨packet.space,packet.number⟩
    (event,{packet with associatedEvent := some event},
      {outstandings with
        packetEvents := insert event outstandings.packetEvents
        clonedPacketCount := Function.update outstandings.clonedPacketCount packet.space
          (outstandings.clonedPacketCount packet.space + 1)})

end PacketRebuilder

structure SchedulingResult where
  packetEvent : Option PacketEvent := none
  packet : Option BuiltPacket := none
  deriving DecidableEq, Repr

def kQuicV1 : Nat := 1

namespace CloningScheduler

/-- The packets the scheduler considers for a clone of this size in this number space. -/
def cloneable (outstandings : OutstandingsInfo) (space : PacketNumberSpace)
    (writableBytes cipherOverhead : Nat) (packet : OutstandingPacket) : Bool :=
  !packet.declaredLost && !packet.isDSRPacket && packet.space == space &&
    (packet.associatedEvent.all fun event => event ∈ outstandings.packetEvents) &&
    packet.metadata.encodedSize ≤ writableBytes + cipherOverhead

/-- The first packet that can be rebuilt, with the packets before and after it. -/
def findClone (conn : QuicConnectionState) (header : PacketHeader) (writableBytes cipherOverhead : Nat)
    (now : TimePoint) (before : List OutstandingPacket) : List OutstandingPacket →
    Except Error (Option (List OutstandingPacket × OutstandingPacket × List OutstandingPacket ×
      PacketBuilder))
  | [] => .ok none
  | packet :: rest =>
    let space := header.getPacketNumberSpace
    if cloneable conn.outstandings space writableBytes cipherOverhead packet then do
      let builder := PacketBuilder.make conn.udpSendPacketLen header
        ((conn.ackStates space).largestAckedByPeer.getD 0) conn.transportSettings.dataPathType
      let encoded ← (builder.accountForCipherOverhead cipherOverhead).encodePacketHeader
      match ← PacketRebuilder.rebuildFromPacket conn packet now encoded with
      | some rebuilt => return some (before,packet,rest,rebuilt)
      | none => findClone conn header writableBytes cipherOverhead now (before ++ [packet]) rest
    else findClone conn header writableBytes cipherOverhead now (before ++ [packet]) rest

/-- What was queued goes out first; a clone is made when nothing is. -/
def hasQueuedData (scheduler : FrameScheduler) (conn : QuicConnectionState) : Bool :=
  if conn.version.any (· != kQuicV1) then scheduler.hasImmediateData conn else scheduler.hasData conn

def scheduleFramesForPacket (scheduler : FrameScheduler) (cipherOverhead : Nat)
    (conn : QuicConnectionState) (builder : PacketBuilder) (writableBytes : Nat) (now : TimePoint) :
    Except Error (FrameScheduler × QuicConnectionState × SchedulingResult) :=
  if hasQueuedData scheduler conn then do
    let (scheduler,conn,built) ← scheduler.scheduleFramesForPacket conn builder writableBytes now
    return (scheduler,conn,{packet := some built})
  else do
    match ← findClone conn builder.header writableBytes cipherOverhead now [] conn.outstandings.packets with
    | none => return (scheduler,conn,{})
    | some (before,packet,rest,rebuilt) => do
      let (event,cloned,outstandings) := PacketRebuilder.cloneOutstandingPacket conn.outstandings packet
      let built ← rebuilt.buildPacket
      return (scheduler,
        {conn with outstandings := {outstandings with packets := before ++ cloned :: rest}},
        {packetEvent := some event, packet := some built})

end CloningScheduler

end StreamServer.Api
