import StreamServer.Codec.WriteCodec
import StreamServer.State.StreamFunctions

/-! The schedulers that fill a packet with the frames a connection has queued: ACKs,
control frames, crypto data and stream data, in the order of their precedence. The
connection keeps its queues while a packet is put together; only the positions of the
round robins move. -/
namespace StreamServer.Api
open Protocol State FlowControl Codec

/-- A queue that names a stream the manager does not have is dereferenced all the same. -/
def nullStream : Error := .standard "null stream"

/-- Writes one item after the other until one is not written; the flag tells if any was. -/
def writeEach {α : Type} (write : α → PacketBuilder → Except Error (Bool × PacketBuilder)) :
    List α → PacketBuilder → Except Error (Bool × PacketBuilder)
  | [], builder => .ok (false,builder)
  | item :: rest, builder => do
    let (written,next) ← write item builder
    if written then return (true,(← writeEach write rest next).2) else return (false,next)

/-- A frame is written if it takes any bytes. -/
def frameWritten (frame : QuicWriteFrame) (builder : PacketBuilder) :
    Except Error (Bool × PacketBuilder) := do
  let (bytes,next) ← writeFrame frame builder
  return (bytes != 0,next)

def simpleFrameWritten (frame : QuicSimpleFrame) (builder : PacketBuilder) :
    Except Error (Bool × PacketBuilder) := do
  let (bytes,next) ← writeSimpleFrame frame builder
  return (bytes != 0,next)

namespace AckScheduler

def largestAckToSend (ackState : AckState) : Option PacketNum :=
  ackState.acks.intervals.getLast?.map (·.stop)

def hasAcksToSchedule (ackState : AckState) : Bool :=
  match largestAckToSend ackState, ackState.largestAckScheduled with
  | none, _ => false
  | some _, none => true
  | some largestAckSend, some scheduled => largestAckSend > scheduled

/-- Packets with a long header use the default exponent, since the peer might not know ours yet. -/
def ackDelayExponentToUse (conn : QuicConnectionState) (header : PacketHeader) : Nat :=
  match header with
  | .long _ => 3
  | .short _ => conn.transportSettings.ackDelayExponent % 2^8

def ackDelay (ackingTime receivedTime : TimePoint) : Microseconds :=
  if ackingTime > receivedTime then (ackingTime - receivedTime) / 1000 else 0

def ackMetaData (conn : QuicConnectionState) (ackState : AckState) (header : PacketHeader)
    (ackingTime : TimePoint) : Except Error WriteAckFrameMetaData :=
  match ackState.largestRecvdPacketTime with
  | none => .error optionalEmptyException
  | some receivedTime =>
    .ok ⟨ackState.acks,ackDelay ackingTime receivedTime,ackDelayExponentToUse conn header⟩

def writeNextAcks (conn : QuicConnectionState) (ackState : AckState) (ackingTime : TimePoint)
    (builder : PacketBuilder) : Except Error PacketBuilder := do
  let metaData ← ackMetaData conn ackState builder.header ackingTime
  return (← writeAckFrame metaData builder).2

end AckScheduler

namespace CryptoStreamScheduler

def hasData (stream : QuicCryptoStream) : Bool :=
  !stream.writeBuffer.isEmpty || !stream.lossBuffer.isEmpty

/-- What there is to write: the lost data first, then the data that was never sent. -/
def pending (stream : QuicCryptoStream) : List (Nat × Bytes) :=
  stream.lossBuffer.map (fun buffer => (buffer.offset,buffer.data)) ++
    if stream.writeBuffer.length ≠ 0 then [(stream.currentWriteOffset,stream.writeBuffer)] else []

def writeCryptoData (stream : QuicCryptoStream) (builder : PacketBuilder) :
    Except Error (Bool × PacketBuilder) :=
  writeEach (fun item builder => do
    let (result,next) ← writeCryptoFrame item.1 item.2 builder
    return (result.isSome,next)) (pending stream) builder

end CryptoStreamScheduler

namespace StreamFrameScheduler

/-- The packet and what the connection may still send, while streams are written. -/
structure Progress where
  builder : PacketBuilder
  connWritableBytes : Nat

def writeStreamLossBuffers (builder : PacketBuilder) (stream : QuicStreamState) :
    Except Error (Bool × PacketBuilder) :=
  writeEach (fun buffer builder => do
    let (dataLen,next) ← Codec.writeStreamFrame builder stream.id buffer.offset buffer.data
      buffer.data.length buffer.eof none stream.groupId
    return (dataLen.isSome,next)) stream.lossBuffer builder

def canWriteFin (stream : QuicStreamState) (flowControlLen : Nat) : Bool :=
  stream.finalWriteOffset.isSome && stream.writeBuffer.length ≤ flowControlLen &&
    stream.writeBufMeta.offset == 0

def writeStreamFrame (stream : QuicStreamState) (progress : Progress) :
    Except Error (Bool × Progress) :=
  if progress.builder.remainingSpaceInPkt = 0 then .ok (false,progress)
  else do
    let flowControlLen := min (getSendStreamFlowControlBytesWire stream) progress.connWritableBytes
    let (result,builder) ← Codec.writeStreamFrame progress.builder stream.id stream.currentWriteOffset
      stream.writeBuffer flowControlLen (canWriteFin stream flowControlLen) none stream.groupId
    match result with
    | none => return (false,{progress with builder})
    | some dataLen => return (true,⟨builder,sub64 progress.connWritableBytes dataLen⟩)

/-- The lost data of a stream, if it has any. -/
def writeLossIfAny (stream : QuicStreamState) (builder : PacketBuilder) :
    Except Error (Bool × PacketBuilder) :=
  if stream.lossBuffer.isEmpty then .ok (true,builder) else writeStreamLossBuffers builder stream

def writeSingleStream (stream : QuicStreamState) (progress : Progress) :
    Except Error (Bool × Progress) := do
  let (written,builder) ← writeLossIfAny stream progress.builder
  let lossWritten := {progress with builder}
  if !written then return (false,lossWritten)
  else if stream.hasWritableData && progress.connWritableBytes > 0 then
    writeStreamFrame stream lossWritten
  else return (true,lossWritten)

/-- The ids of an ordered set from the first that is not below the start, wrapping around. -/
def startingFrom (start : StreamId) (ids : List StreamId) : List StreamId :=
  ids.dropWhile (· < start) ++ ids.takeWhile (· < start)

/-- The control streams in a round robin. The id at which the next packet starts is returned. -/
def writeControlStreams (conn : QuicConnectionState) (first : StreamId) :
    List StreamId → Progress → Except Error (StreamId × Progress)
  | [], progress => .ok (first,progress)
  | id :: rest, progress =>
    match conn.findStream id with
    | none => .error nullStream
    | some stream => do
      let (written,next) ← writeSingleStream stream progress
      if !written then return (id,next)
      else if conn.transportSettings.streamFramePerPacket then return (rest.head?.getD first,next)
      else writeControlStreams conn first rest next

/-- One bucket of the priority queue, from the position of its iterator on. The flag is set when
the remaining buckets are not to be visited. -/
def writeLevel (conn : QuicConnectionState) :
    Nat → Level → Progress → Except Error (Bool × Level × Progress)
  | 0, level, progress => .ok (false,level,progress)
  | fuel + 1, level, progress =>
    match level.nextStreamIt.bind fun current => conn.findStream current.streamId with
    | none => .error nullStream
    | some stream =>
      if !stream.hasSchedulableData && stream.hasSchedulableDsr then .ok (true,level,progress)
      else do
        let (written,next) ← writeSingleStream stream progress
        if !written then return (false,level,next)
        else
          let moved := level.next (next.builder.remainingSpaceInPkt > 0)
          if conn.transportSettings.streamFramePerPacket then return (true,moved,next)
          else if moved.atEnd then return (false,moved,next)
          else writeLevel conn fuel moved next

/-- A bucket is passed over each of its streams, and each at most `maxNextsPerStream` times. -/
def levelFuel (level : Level) : Nat := level.streams.length * (level.maxNextsPerStream + 1) + 1

def writeLevels (conn : QuicConnectionState) :
    List Level → Progress → Except Error (List Level × Progress)
  | [], progress => .ok ([],progress)
  | level :: rest, progress =>
    if progress.builder.remainingSpaceInPkt = 0 then .ok (level :: rest,progress)
    else if level.streams.isEmpty then do
      let (rest,next) ← writeLevels conn rest progress
      return (level :: rest,next)
    else do
      let (stopped,visited,next) ← writeLevel conn (levelFuel level) level.begin progress
      if stopped then return (visited :: rest,next)
      else do
        let (rest,last) ← writeLevels conn rest next
        return (visited :: rest,last)

/-- The control streams, if any are queued. -/
def writeControlQueue (conn : QuicConnectionState) (progress : Progress) :
    Except Error (QuicConnectionState × Progress) :=
  match startingFrom conn.nextScheduledControlStream conn.streamManager.controlWriteQueue with
  | [] => .ok (conn,progress)
  | first :: rest => do
    let (next,progress) ← writeControlStreams conn first (first :: rest) progress
    return ({conn with nextScheduledControlStream := next},progress)

/-- Whether the next stream in line is one whose data is sent by others. -/
def nextIsDsr (conn : QuicConnectionState) (next : Option StreamId) : Bool :=
  match next.bind conn.findStream with
  | some stream => !stream.hasSchedulableData
  | none => false

def writePriorityQueue (conn : QuicConnectionState) (progress : Progress) :
    Except Error (Bool × QuicConnectionState × Progress) :=
  let writeQueue := conn.streamManager.writeQueue
  if writeQueue.empty then .ok (false,conn,progress)
  else do
    let (levels,progress) ← writeLevels conn writeQueue.levels progress
    let (next,positioned) := {writeQueue with levels}.getNextScheduledStream
    return (nextIsDsr conn next,conn.manage fun manager => {manager with writeQueue := positioned},
      progress)

/-- The streams of a packet. The flag is set when the next stream in line is a DSR stream. -/
def writeStreams (conn : QuicConnectionState) (builder : PacketBuilder) :
    Except Error (Bool × QuicConnectionState × PacketBuilder) := do
  let (conn,progress) ← writeControlQueue conn ⟨builder,getSendConnFlowControlBytesWire conn⟩
  let (nextStreamDsr,conn,progress) ← writePriorityQueue conn progress
  return (nextStreamDsr,conn,progress.builder)

def hasPendingData (nextStreamDsr : Bool) (conn : QuicConnectionState) : Bool :=
  !nextStreamDsr && (decide (conn.streamManager.lossStreams ≠ ∅) ||
    (decide (conn.streamManager.writableStreams ≠ ∅) || !conn.streamManager.controlWriteQueue.isEmpty) &&
      getSendConnFlowControlBytesWire conn > 0)

end StreamFrameScheduler

def writeRsts (conn : QuicConnectionState) : PacketBuilder → Except Error (Bool × PacketBuilder) :=
  writeEach (fun reset => frameWritten (.rstStream reset))
    (conn.pendingEvents.resets.entries.map (·.2))

/-- The path challenge goes first. -/
def writeSimpleFrames (conn : QuicConnectionState) :
    PacketBuilder → Except Error (Bool × PacketBuilder) :=
  writeEach simpleFrameWritten
    (conn.pendingEvents.pathChallenge.toList.map QuicSimpleFrame.pathChallenge ++
      conn.pendingEvents.frames)

def streamWindowUpdates (conn : QuicConnectionState) : List QuicWriteFrame :=
  conn.streamManager.windowUpdates.filterMap fun id =>
    (conn.findStream id).map fun stream =>
      .maxStreamData stream.id (generateMaxStreamDataFrame stream)

def writeConnWindowUpdate (conn : QuicConnectionState) (builder : PacketBuilder) :
    Except Error (Bool × PacketBuilder) :=
  if conn.pendingEvents.connWindowUpdate then
    frameWritten (.maxData (generateMaxDataFrame conn)) builder
  else .ok (false,builder)

/-- A connection limit that does not fit does not stop those of the streams. -/
def writeWindowUpdates (conn : QuicConnectionState) (builder : PacketBuilder) :
    Except Error (Bool × PacketBuilder) := do
  let (_,next) ← writeConnWindowUpdate conn builder
  writeEach frameWritten (streamWindowUpdates conn) next

def writeBlockedFrames (conn : QuicConnectionState) :
    PacketBuilder → Except Error (Bool × PacketBuilder) :=
  writeEach frameWritten
    ((if conn.pendingEvents.sendDataBlocked then
        [.dataBlocked conn.flowControlState.peerAdvertisedMaxOffset] else []) ++
      conn.streamManager.blockedStreams.entries.map fun blocked => .streamDataBlocked blocked.1 blocked.2)

/-- The front of the queue is tried as often as there are datagrams and once more. -/
def writeDatagrams (framePerPacket : Bool) :
    Nat → Nat → List Bytes → PacketBuilder → Except Error (List Bytes × PacketBuilder)
  | 0, _, queue, builder => .ok (queue,builder)
  -- The first pass does not ask if the queue is empty.
  | _ + 1, i, [], builder =>
    if i = 0 then .error (.standard "front of an empty queue") else .ok ([],builder)
  | fuel + 1, i, payload :: rest, builder =>
    if i > rest.length + 1 then .ok (payload :: rest,builder)
    else do
      let frameTypeSize ← QuicInteger.getSize FrameType.datagramLen.value
      let datagramLenSize ← QuicInteger.getSize payload.length
      if frameTypeSize + payload.length + datagramLenSize ≤ builder.remainingSpaceInPkt then do
        let (_,next) ← frameWritten (.datagram payload.length payload) builder
        if framePerPacket then return (rest,next)
        else writeDatagrams framePerPacket fuel (i + 1) rest next
      else if framePerPacket then return (payload :: rest,builder)
      else writeDatagrams framePerPacket fuel (i + 1) (payload :: rest) builder

def writeDatagramFrames (conn : QuicConnectionState) (builder : PacketBuilder) :
    Except Error (QuicConnectionState × PacketBuilder) := do
  let (queue,next) ← writeDatagrams conn.transportSettings.datagramFramePerPacket
    (conn.datagramWriteBuffer.length + 1) 0 conn.datagramWriteBuffer builder
  return ({conn with datagramWriteBuffer := queue},next)

def writePaddings : Nat → PacketBuilder → Except Error PacketBuilder
  | 0, builder => .ok builder
  | count + 1, builder => do
    let (_,next) ← writeFrame (.padding 1) builder
    writePaddings count next

/-- Padding frames as long as there is space; each takes one byte. -/
def fillWithPadding : Nat → PacketBuilder → Except Error PacketBuilder
  | 0, builder => .ok builder
  | fuel + 1, builder =>
    if builder.remainingSpaceInPkt > 0 then do
      let (_,next) ← writeFrame (.padding 1) builder
      fillWithPadding fuel next
    else .ok builder

structure FrameScheduler where
  encryptionLevel : EncryptionLevel
  packetNumberSpace : PacketNumberSpace
  streamFrameScheduler : Bool := false
  ackScheduler : Bool := false
  rstScheduler : Bool := false
  windowUpdateScheduler : Bool := false
  blockedScheduler : Bool := false
  cryptoStreamScheduler : Bool := false
  simpleFrameScheduler : Bool := false
  pingFrameScheduler : Bool := false
  datagramFrameScheduler : Bool := false
  immediateAckFrameScheduler : Bool := false
  nextStreamDsr : Bool := false
  deriving DecidableEq, Repr

namespace FrameScheduler

variable (scheduler : FrameScheduler) (conn : QuicConnectionState)

def cryptoStream : QuicCryptoStream := getCryptoStream conn.cryptoState scheduler.encryptionLevel

def hasPendingCrypto : Bool :=
  scheduler.cryptoStreamScheduler && CryptoStreamScheduler.hasData (scheduler.cryptoStream conn)

def hasPendingRsts : Bool := scheduler.rstScheduler && !conn.pendingEvents.resets.entries.isEmpty

def hasPendingAcks : Bool :=
  scheduler.ackScheduler && AckScheduler.hasAcksToSchedule (conn.ackStates scheduler.packetNumberSpace)

def hasPendingImmediateAckFrame : Bool :=
  scheduler.immediateAckFrameScheduler && conn.pendingEvents.requestImmediateAck

def hasPendingWindowUpdates : Bool :=
  scheduler.windowUpdateScheduler &&
    (!conn.streamManager.windowUpdates.isEmpty || conn.pendingEvents.connWindowUpdate)

def hasPendingBlockedFrames : Bool :=
  scheduler.blockedScheduler &&
    (!conn.streamManager.blockedStreams.entries.isEmpty || conn.pendingEvents.sendDataBlocked)

def hasPendingSimpleFrames : Bool :=
  scheduler.simpleFrameScheduler &&
    (conn.pendingEvents.pathChallenge.isSome || !conn.pendingEvents.frames.isEmpty)

def hasPingFrame : Bool := scheduler.pingFrameScheduler && conn.pendingEvents.sendPing

def hasPendingStreams : Bool :=
  scheduler.streamFrameScheduler && StreamFrameScheduler.hasPendingData scheduler.nextStreamDsr conn

def hasPendingDatagramFrames : Bool :=
  scheduler.datagramFrameScheduler && !conn.datagramWriteBuffer.isEmpty

def hasImmediateData : Bool :=
  scheduler.hasPendingCrypto conn || scheduler.hasPendingStreams conn || scheduler.hasPendingRsts conn ||
    scheduler.hasPendingWindowUpdates conn || scheduler.hasPendingBlockedFrames conn ||
    scheduler.hasPendingSimpleFrames conn || scheduler.hasPingFrame conn ||
    scheduler.hasPendingDatagramFrames conn || scheduler.hasPendingImmediateAckFrame conn

def hasData : Bool := scheduler.hasPendingAcks conn || scheduler.hasImmediateData conn

end FrameScheduler

/-- A scheduler that has nothing pending is passed over. -/
def ifPending (pending : Bool) (write : PacketBuilder → Except Error (Bool × PacketBuilder))
    (builder : PacketBuilder) : Except Error (Bool × PacketBuilder) :=
  if pending then write builder else .ok (false,builder)

namespace FrameScheduler

/-- ACKs that start a packet may fill all of it; after other data they are limited as that is. -/
def writeAcks (scheduler : FrameScheduler) (conn : QuicConnectionState) (now : TimePoint)
    (limited : Bool) (wrapper : PacketBuilder) : Except Error PacketBuilder :=
  if scheduler.hasPendingAcks conn then
    let ackState := conn.ackStates scheduler.packetNumberSpace
    if limited then AckScheduler.writeNextAcks conn ackState now wrapper
    else do
      let written ← AckScheduler.writeNextAcks conn ackState now wrapper.unwrapped
      return {written with diff := wrapper.diff}
  else .ok wrapper

/-- The frames that are not stream data or datagrams. -/
def writeControl (scheduler : FrameScheduler) (conn : QuicConnectionState) (now : TimePoint)
    (wrapper : PacketBuilder) : Except Error PacketBuilder := do
  let (cryptoDataWritten,wrapper) ← ifPending (scheduler.hasPendingCrypto conn)
    (CryptoStreamScheduler.writeCryptoData (scheduler.cryptoStream conn)) wrapper
  let (rstWritten,wrapper) ← ifPending (scheduler.hasPendingRsts conn) (writeRsts conn) wrapper
  let wrapper ← scheduler.writeAcks conn now (cryptoDataWritten || rstWritten) wrapper
  let (_,wrapper) ← ifPending (scheduler.hasPendingImmediateAckFrame conn)
    (frameWritten .immediateAck) wrapper
  let (_,wrapper) ← ifPending (scheduler.hasPendingWindowUpdates conn) (writeWindowUpdates conn) wrapper
  let (_,wrapper) ← ifPending (scheduler.hasPendingBlockedFrames conn) (writeBlockedFrames conn) wrapper
  let (_,wrapper) ← ifPending (scheduler.hasPendingSimpleFrames conn) (writeSimpleFrames conn) wrapper
  let (_,wrapper) ← ifPending (scheduler.hasPingFrame conn) (frameWritten .ping) wrapper
  return wrapper

def writeStreams (scheduler : FrameScheduler) (conn : QuicConnectionState) (wrapper : PacketBuilder) :
    Except Error (FrameScheduler × QuicConnectionState × PacketBuilder) :=
  if scheduler.hasPendingStreams conn then do
    let (nextStreamDsr,conn,wrapper) ← StreamFrameScheduler.writeStreams conn wrapper
    return ({scheduler with nextStreamDsr := scheduler.nextStreamDsr || nextStreamDsr},conn,wrapper)
  else .ok (scheduler,conn,wrapper)

def writeDatagrams (scheduler : FrameScheduler) (conn : QuicConnectionState) (wrapper : PacketBuilder) :
    Except Error (QuicConnectionState × PacketBuilder) :=
  if scheduler.hasPendingDatagramFrames conn then writeDatagramFrames conn wrapper
  else .ok (conn,wrapper)

/-- An Initial packet is filled up; a packet with a short header is padded to blunt its length. -/
def pad (conn : QuicConnectionState) (wrapper : PacketBuilder) : Except Error PacketBuilder :=
  let builder := wrapper.unwrapped
  if !builder.hasFramesPending then .ok builder
  else match builder.header with
    | .long longHeader =>
      if longHeader.headerType = .initial then fillWithPadding builder.remainingSpaceInPkt builder
      else .ok builder
    | .short _ =>
      let paddingModulo := conn.transportSettings.paddingModulo
      if paddingModulo > 0 then writePaddings (wrapper.remainingSpaceInPkt % paddingModulo) builder
      else .ok builder

def scheduleFramesForPacket (scheduler : FrameScheduler) (conn : QuicConnectionState)
    (builder : PacketBuilder) (writableBytes : Nat) (now : TimePoint) :
    Except Error (FrameScheduler × QuicConnectionState × BuiltPacket) := do
  let builder ← builder.encodePacketHeader
  let headerBytes ← builder.getHeaderBytes
  let wrapper ← scheduler.writeControl conn now (builder.limitedTo (writableBytes - headerBytes))
  let (scheduler,conn,wrapper) ← scheduler.writeStreams conn wrapper
  let (conn,wrapper) ← scheduler.writeDatagrams conn wrapper
  let padded ← pad conn wrapper
  return (scheduler,conn,← padded.buildPacket)

end FrameScheduler

end StreamServer.Api
