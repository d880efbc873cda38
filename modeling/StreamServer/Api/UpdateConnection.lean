import StreamServer.Api.Scheduler
import StreamServer.Congestion.Controller
import StreamServer.State.SimpleFrames

/-! What sending a packet does to the connection: every frame moves its data from pending to
sent, and a packet that elicits an acknowledgement joins the outstanding packets. A frame
names a stream that exists; where the code would create it here, the model ends in an error. -/
namespace StreamServer.Api
open Protocol State FlowControl Congestion

/-- The bytes leave the write buffer. No copy is kept for a retransmission: in the source the
statement that does it is part of a comment. -/
def handleNewStreamDataWritten (stream : QuicStreamLike) (frameLen : Nat) (frameFin : Bool) :
    QuicStreamLike :=
  {stream with
    currentWriteOffset := stream.currentWriteOffset + frameLen + (if frameFin then 1 else 0)
    writeBuffer := stream.writeBuffer.drop frameLen}

def handleNewStreamBufMetaWritten (stream : QuicStreamState) (frameLen : Nat) (frameFin : Bool) :
    QuicStreamState :=
  let remaining := (stream.writeBufMeta.split frameLen).2
  {stream with writeBufMeta :=
    {remaining with offset := remaining.offset + (if frameFin then 1 else 0)}}

/-- The written part leaves its entry of the loss buffer, without a copy being kept either. -/
def handleRetransmissionWritten (entry : StreamBuffer) (frameLen : Nat) (frameFin : Bool) :
    List StreamBuffer :=
  if frameLen = entry.data.length ∧ frameFin = entry.eof then []
  else [{entry with offset := entry.offset + frameLen, data := entry.data.drop frameLen}]

def handleRetransmissionBufMetaWritten (entry : WriteBufferMeta) (frameLen : Nat)
    (frameFin : Bool) : List WriteBufferMeta :=
  if frameLen = entry.length ∧ frameFin = entry.eof then []
  else [{entry with length := sub64 entry.length frameLen, offset := entry.offset + frameLen}]

def beyondWriteOffset (frameOffset currentWriteOffset : Nat) : Error :=
  .transport .internalError ("Byte offset of first byte in written stream frame (" ++
    toString frameOffset ++ ") is greater than stream's current write offset (" ++
    toString currentWriteOffset ++ ")")

def retransmitted (conn : QuicConnectionState) (frameLen : Nat) :
    QuicConnectionState :=
  {conn with lossState := {conn.lossState with
    totalBytesRetransmitted := conn.lossState.totalBytesRetransmitted + frameLen}}

/-- A written frame carries new data, or data of the loss buffer, or it is a clone. Also says
whether the data is new. -/
def handleStreamWritten (conn : QuicConnectionState) (stream : QuicStreamLike)
    (frameOffset frameLen : Nat) (frameFin : Bool) :
    Except Error (QuicConnectionState × QuicStreamLike × Bool) :=
  if frameOffset = stream.currentWriteOffset then
    let written := handleNewStreamDataWritten stream frameLen frameFin
    .ok (conn,{written with numPacketsTxWithNewData := written.numPacketsTxWithNewData + 1},true)
  else if frameOffset > stream.currentWriteOffset then
    .error (beyondWriteOffset frameOffset stream.currentWriteOffset)
  else
    let before := stream.lossBuffer.takeWhile (·.offset < frameOffset)
    let cloned := {conn with lossState := {conn.lossState with
      totalStreamBytesCloned := conn.lossState.totalStreamBytesCloned + frameLen}}
    match stream.lossBuffer.dropWhile (·.offset < frameOffset) with
    | entry :: after =>
      if entry.offset = frameOffset then
        let remaining := handleRetransmissionWritten entry frameLen frameFin
        .ok (retransmitted conn frameLen,
          {stream with lossBuffer := before ++ remaining ++ after},false)
      else .ok (cloned,stream,false)
    | [] => .ok (cloned,stream,false)

/-- The code reads behind the end of the list when no lost range is left. -/
def noLostBufMeta : Error := .standard "no lost buffer metadata"

def handleStreamBufMetaWritten (conn : QuicConnectionState) (stream : QuicStreamState)
    (frameOffset frameLen : Nat) (frameFin : Bool) :
    Except Error (QuicConnectionState × QuicStreamState × Bool) :=
  if stream.writeBufMeta.offset > 0 ∧ frameOffset = stream.writeBufMeta.offset then
    let written := handleNewStreamBufMetaWritten stream frameLen frameFin
    .ok (conn,{written with numPacketsTxWithNewData := written.numPacketsTxWithNewData + 1},true)
  else
    let before := stream.lossBufMetas.takeWhile (·.offset < frameOffset)
    match stream.lossBufMetas.dropWhile (·.offset < frameOffset) with
    | entry :: after =>
      let remaining := handleRetransmissionBufMetaWritten entry frameLen frameFin
      .ok (retransmitted conn frameLen,
        {stream with lossBufMetas := before ++ remaining ++ after},false)
    | [] => .error noLostBufMeta

def updateAckSendStateOnSentPacketWithAcks (conn : QuicConnectionState)
    (space : PacketNumberSpace) (largestAckScheduled : PacketNum) : QuicConnectionState :=
  {conn with
    pendingEvents := {conn.pendingEvents with scheduleAckTimeout := false}
    ackStates := Function.update conn.ackStates space {conn.ackStates space with
      needsToSendAckImmediately := false
      numRxPacketsRecvd := 0
      numNonRxPacketsRecvd := 0
      largestAckScheduled := some largestAckScheduled}}

structure FramesSent where
  conn : QuicConnectionState
  retransmittable : Bool := false
  isHandshake : Bool := false
  isPing : Bool := false
  streamBytesSent : Nat := 0
  newStreamBytesSent : Nat := 0

def onStreamDataSent (conn : QuicConnectionState) (stream : QuicStreamState) (len : Nat)
    (isNew : Bool) : Except Error QuicConnectionState :=
  if isNew then do
    let conn ← updateFlowControlOnWriteToSocket conn len
    let conn := maybeWriteBlockAfterSocketWrite conn stream
    return (maybeWriteDataBlockedAfterSocketWrite conn).manage (·.addTx stream.id)
  else .ok conn

def onStreamFrameWritten (conn : QuicConnectionState) (stream : QuicStreamState)
    (frame : WriteStreamFrame) : Except Error (QuicConnectionState × QuicStreamState × Bool) :=
  if frame.fromBufMeta then
    handleStreamBufMetaWritten conn stream frame.offset frame.len frame.fin
  else do
    let (conn,like,isNew) ← handleStreamWritten conn stream.toQuicStreamLike frame.offset frame.len
      frame.fin
    return (conn,{stream with toQuicStreamLike := like},isNew)

def onStreamFrameSent (sent : FramesSent) (frame : WriteStreamFrame) : Except Error FramesSent :=
  match sent.conn.findStream frame.streamId with
  | none => .error nullStream
  | some stream => do
    let (conn,stream,isNew) ← onStreamFrameWritten sent.conn stream frame
    let conn ← onStreamDataSent conn stream frame.len isNew
    return {sent with
      conn := (conn.setStream stream).manage (·.updateWritableStreams stream)
      retransmittable := true
      streamBytesSent := sent.streamBytesSent + frame.len
      newStreamBytesSent := sent.newStreamBytesSent + (if isNew then frame.len else 0)}

def onCryptoFrameSent (sent : FramesSent) (protectionType : ProtectionType)
    (frame : WriteCryptoFrame) : Except Error FramesSent := do
  let level := protectionTypeToEncryptionLevel protectionType
  let (conn,stream,_) ← handleStreamWritten sent.conn
    (getCryptoStream sent.conn.cryptoState level) frame.offset frame.len false
  return {sent with
    conn := {conn with cryptoState := setCryptoStream conn.cryptoState stream level}
    retransmittable := true
    isHandshake := protectionType = .initial || protectionType = .handshake}

def onAckFrameSent (sent : FramesSent) (space : PacketNumberSpace) (frame : WriteAckFrame) :
    Except Error FramesSent :=
  match frame.ackBlocks with
  | [] => .error (.standard "ACK frame without blocks")
  | block :: _ =>
    .ok {sent with conn := updateAckSendStateOnSentPacketWithAcks sent.conn space block.stop}

def onMaxStreamDataSent (sent : FramesSent) (streamId : StreamId) (maximumData : Nat)
    (sentTime : TimePoint) : Except Error FramesSent :=
  match sent.conn.findStream streamId with
  | none => .error nullStream
  | some stream =>
    let (conn,stream) := onStreamWindowUpdateSent sent.conn stream maximumData sentTime
    .ok {sent with conn := conn.setStream stream, retransmittable := true}

/-- Only the frames of a packet that is no clone were pending. -/
def onSimpleFrameSent (sent : FramesSent) (packetEvent : Option PacketEvent)
    (frame : QuicSimpleFrame) : Except Error FramesSent :=
  match packetEvent with
  | none => do
    let conn ← updateSimpleFrameOnPacketSent sent.conn frame
    return {sent with conn := conn, retransmittable := true}
  | some _ => .ok {sent with retransmittable := true}

def onFrameSent (packetEvent : Option PacketEvent) (header : PacketHeader) (sentTime : TimePoint)
    (sent : FramesSent) : QuicWriteFrame → Except Error FramesSent
  | .stream frame => onStreamFrameSent sent frame
  | .crypto frame => onCryptoFrameSent sent header.getProtectionType frame
  | .ack frame => onAckFrameSent sent header.getPacketNumberSpace frame
  | .rstStream frame => .ok {sent with
      conn := {sent.conn with pendingEvents := {sent.conn.pendingEvents with
        resets := sent.conn.pendingEvents.resets.erase frame.streamId}}
      retransmittable := true}
  | .maxData maximumData => .ok {sent with
      conn := onConnWindowUpdateSent sent.conn maximumData sentTime
      retransmittable := true}
  | .dataBlocked _ => .ok {sent with
      conn := {sent.conn with pendingEvents :=
        {sent.conn.pendingEvents with sendDataBlocked := false}}
      retransmittable := true}
  | .maxStreamData streamId maximumData => onMaxStreamDataSent sent streamId maximumData sentTime
  | .streamDataBlocked streamId _ => .ok {sent with
      conn := sent.conn.manage (·.removeBlocked streamId)
      retransmittable := true}
  | .ping => .ok {sent with
      conn := {sent.conn with pendingEvents := {sent.conn.pendingEvents with sendPing := false}}
      isPing := true}
  | .simple frame => onSimpleFrameSent sent packetEvent frame
  | .padding _ | .datagram _ _ => .ok sent
  | .immediateAck => .ok {sent with
      conn := {sent.conn with pendingEvents :=
        {sent.conn.pendingEvents with requestImmediateAck := false}}
      retransmittable := true}
  | .connectionClose _ | .streamsBlocked _ _ | .noop => .ok {sent with retransmittable := true}

def kMaxPacketNumber : Nat := 2^62 - 1

def getNextPacketNum (conn : QuicConnectionState) (space : PacketNumberSpace) : PacketNum :=
  (conn.ackStates space).nextPacketNum

def increaseNextPacketNum (conn : QuicConnectionState) (space : PacketNumberSpace)
    (dsrPacket : Bool := false) : QuicConnectionState :=
  let ackState := conn.ackStates space
  {conn with
    ackStates := Function.update conn.ackStates space {ackState with
      nextPacketNum := ackState.nextPacketNum + 1
      nonDsrPacketSequenceNumber :=
        ackState.nonDsrPacketSequenceNumber + (if dsrPacket then 0 else 1)}
    pendingEvents := {conn.pendingEvents with closeTransport :=
      conn.pendingEvents.closeTransport || ackState.nextPacketNum + 1 == kMaxPacketNumber}}

def countSent (sent : FramesSent) (packetNum : PacketNum) (sentTime : TimePoint)
    (encodedSize encodedBodySize : Nat) : QuicConnectionState :=
  let conn := sent.conn
  let loss := conn.lossState
  {conn with
    pendingEvents := {conn.pendingEvents with setLossDetectionAlarm :=
      conn.pendingEvents.setLossDetectionAlarm || sent.retransmittable}
    lossState := {loss with
      largestSent := some (max (loss.largestSent.getD packetNum) packetNum)
      maybeLastPacketSentTime := some sentTime
      totalBytesSent := loss.totalBytesSent + encodedSize
      totalBodyBytesSent := loss.totalBodyBytesSent + encodedBodySize
      totalPacketsSent := loss.totalPacketsSent + 1
      totalStreamBytesSent := loss.totalStreamBytesSent + sent.streamBytesSent
      totalNewStreamBytesSent := loss.totalNewStreamBytesSent + sent.newStreamBytesSent
      totalAckElicitingPacketsSent := loss.totalAckElicitingPacketsSent +
        (if sent.retransmittable || sent.isPing then 1 else 0)}}

def LossState.lastAckedPacketInfo (loss : LossState) : Option LastAckedPacketInfo :=
  match loss.lastAckedTime, loss.lastAckedPacketSentTime, loss.adjustedLastAckedTime with
  | some acked, some sent, some adjusted =>
    some ⟨sent,acked,adjusted,loss.totalBytesSentAtLastAck,loss.totalBytesAckedAtLastAck⟩
  | _, _, _ => none

/-- The record of a sent packet. The connection has counted the packet already. -/
def outstandingPacket (conn : QuicConnectionState) (packetEvent : Option PacketEvent)
    (packet : RegularQuicWritePacket) (sentTime : TimePoint) (encodedSize encodedBodySize : Nat)
    (isHandshake isDSRPacket : Bool) (nonDsrPacketSequenceNumber : Nat) : OutstandingPacket :=
  {packet := packet
   metadata :=
     {time := sentTime
      encodedSize := encodedSize
      encodedBodySize := encodedBodySize
      isHandshake := isHandshake
      totalBytesSent := conn.lossState.totalBytesSent
      totalBodyBytesSent := conn.lossState.totalBodyBytesSent
      packetsInflight := conn.outstandings.numOutstanding + 1
      totalPacketsSent := conn.lossState.totalPacketsSent
      totalAckElicitingPacketsSent := conn.lossState.totalAckElicitingPacketsSent}
   lastAckedPacketInfo := LossState.lastAckedPacketInfo conn.lossState
   associatedEvent := packetEvent
   isDSRPacket := isDSRPacket
   nonDsrPacketSequenceNumber := if isDSRPacket then none else some nonDsrPacketSequenceNumber
   isAppLimited := conn.congestionController.any (·.isAppLimited)}

/-- The place of a packet is found from the end: behind the last packet with a smaller number. -/
def insertOutstanding (packet : OutstandingPacket) (packets : List OutstandingPacket) :
    List OutstandingPacket :=
  packets.rdropWhile (fun earlier => packet.number ≤ earlier.number) ++
    packet :: packets.rtakeWhile (fun earlier => packet.number ≤ earlier.number)

/-- The packet joins the outstanding packets and their counters. -/
def emplaceOutstanding (outstandings : OutstandingsInfo) (packet : OutstandingPacket) :
    OutstandingsInfo :=
  let space := packet.space
  let counted (count : PacketNumberSpace → Nat) := Function.update count space (count space + 1)
  {outstandings with
    packets := insertOutstanding packet outstandings.packets
    dsrCount := outstandings.dsrCount + (if packet.isDSRPacket then 1 else 0)
    clonedPacketCount := if packet.associatedEvent.isSome then
        counted outstandings.clonedPacketCount
      else outstandings.clonedPacketCount
    packetCount := if packet.associatedEvent.isSome then outstandings.packetCount
      else counted outstandings.packetCount}

def PendingPathRateLimiter.onPacketSent (limiter : PendingPathRateLimiter) (sentBytes : Nat) :
    PendingPathRateLimiter :=
  {limiter with credit := sub64 limiter.credit sentBytes}

/-- What else the transport notes about a packet that elicits an acknowledgement. -/
def noteAckEliciting (conn : QuicConnectionState) (packet : OutstandingPacket) :
    QuicConnectionState :=
  let encodedSize := packet.metadata.encodedSize
  let isClone := packet.associatedEvent.isSome
  {conn with
    outstandings := emplaceOutstanding conn.outstandings packet
    pathValidationLimiter :=
      if conn.pendingEvents.pathChallenge.isSome || conn.outstandingPathValidation.isSome then
        conn.pathValidationLimiter.map (PendingPathRateLimiter.onPacketSent · encodedSize)
      else conn.pathValidationLimiter
    lossState := {conn.lossState with
      totalBytesCloned := conn.lossState.totalBytesCloned + (if isClone then encodedSize else 0)
      lastRetransmittablePacketSentTime := packet.metadata.time
      timeoutBasedRtxCount := conn.lossState.timeoutBasedRtxCount + (if isClone then 1 else 0)}
    history := ⟨packet,.sent⟩ :: conn.history}

def updateConnection (conn : QuicConnectionState) (packetEvent : Option PacketEvent)
    (packet : RegularQuicWritePacket) (sentTime : TimePoint) (encodedSize encodedBodySize : UInt32)
    (isDSRPacket : Bool) : Except Error QuicConnectionState := do
  let space := packet.header.getPacketNumberSpace
  let sent ← packet.frames.foldlM (onFrameSent packetEvent packet.header sentTime) {conn := conn}
  let sequence := (sent.conn.ackStates space).nonDsrPacketSequenceNumber
  let counted := countSent sent packet.header.getPacketSequenceNum sentTime encodedSize.toNat
    encodedBodySize.toNat
  let conn := increaseNextPacketNum counted space isDSRPacket
  if !sent.retransmittable && !sent.isPing then return conn
  else
    let outstanding := outstandingPacket conn packetEvent packet sentTime encodedSize.toNat
      encodedBodySize.toNat sent.isHandshake isDSRPacket sequence
    onPacketSent (noteAckEliciting conn outstanding) outstanding

end StreamServer.Api
