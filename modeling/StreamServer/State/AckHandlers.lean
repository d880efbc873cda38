import StreamServer.Api.UpdateConnection
import StreamServer.Loss.LossFunctions
import StreamServer.State.StreamStateMachine

/-! Acknowledgements. The outstanding packets are walked from the largest number down, block by
block; the frames of the acknowledged packets are then visited in the order they were sent, and
loss detection and the congestion controller follow. -/
namespace StreamServer.State
open Protocol Common Congestion Loss

def kRttAlpha : Int := 8
def kRttBeta : Int := 4
def kAckPurgingThresh : Nat := 10

abbrev AckVisitor :=
  QuicConnectionState → OutstandingPacket → QuicWriteFrame → Except Error QuicConnectionState

/-- The least number of microseconds that is not shorter. -/
def ceilMicroseconds (nanoseconds : Int) : Microseconds := -(-nanoseconds / 1000)

def updateRtt (conn : QuicConnectionState) (rttSample ackDelay : Microseconds) :
    QuicConnectionState :=
  let loss := conn.lossState
  let mrtt := min loss.mrtt rttSample
  let noAckDelay := rttSample - ackDelay
  let adjustedRtt := if rttSample > ackDelay ∧ rttSample > mrtt + ackDelay then rttSample - ackDelay
    else rttSample
  let difference := if loss.srtt > adjustedRtt then loss.srtt - adjustedRtt
    else adjustedRtt - loss.srtt
  {conn with lossState := {loss with
    mrtt := mrtt
    maybeMrttNoAckDelay := if rttSample ≥ ackDelay then
        some (loss.maybeMrttNoAckDelay.elim noAckDelay (min · noAckDelay))
      else loss.maybeMrttNoAckDelay
    lrtt := rttSample
    maybeLrtt := some rttSample
    maybeLrttAckDelay := some ackDelay
    maxAckDelay := max loss.maxAckDelay ackDelay
    rttvar := if loss.srtt = 0 then adjustedRtt.tdiv 2
      else (loss.rttvar * (kRttBeta - 1)).tdiv kRttBeta + difference.tdiv kRttBeta
    srtt := if loss.srtt = 0 then adjustedRtt
      else (loss.srtt * (kRttAlpha - 1)).tdiv kRttAlpha + adjustedRtt.tdiv kRttAlpha}}

structure AckArguments where
  pnSpace : PacketNumberSpace
  frame : ReadAckFrame
  ackReceiveTime : TimePoint
  nowTime : TimePoint

/-- The local variables of the walk. Each acknowledged packet is kept with whether all of its
frames are to be processed. -/
structure AckWalk where
  conn : QuicConnectionState
  ack : AckEvent
  packetsWithHandlerContext : List (OutstandingPacket × Bool) := []
  dsrPacketsAcked : Nat := 0
  lastAckedPacketSentTime : Option TimePoint := none

/-- The data of a frame that was declared lost has arrived after all. -/
def unloseFrame (conn : QuicConnectionState) (frame : QuicWriteFrame) :
    Except Error QuicConnectionState :=
  match frame with
  | .stream frame =>
    match conn.findStream frame.streamId with
    | none => .ok conn
    | some stream => do
      let kept := {stream with
        lossBuffer := removeFromLossBuffer stream.lossBuffer frame.offset frame.len frame.fin}
      let like ← kept.toQuicStreamLike.updateAckedIntervals frame.offset frame.len frame.fin
      let stream := {kept with toQuicStreamLike := like}
      return (conn.setStream stream).manage (·.updateWritableStreams stream)
  | _ => .ok conn

def unloseFrames (conn : QuicConnectionState) (packet : OutstandingPacket) :
    Except Error QuicConnectionState :=
  if conn.transportSettings.removeFromLossBufferOnSpurious then
    packet.packet.frames.foldlM unloseFrame conn
  else .ok conn

/-- The thresholds grow to what would not have declared the packet lost. -/
def adaptThresholds (conn : QuicConnectionState) (metadata : OutstandingPacketMetadata) :
    QuicConnectionState :=
  let settings := conn.transportSettings
  let loss := conn.lossState
  {conn with
    lossState := {loss with
      totalPacketsSpuriouslyMarkedLost := loss.totalPacketsSpuriouslyMarkedLost + 1
      reorderingThreshold := if settings.useAdaptiveLossReorderingThresholds then
          metadata.lossReorderDistance.elim loss.reorderingThreshold (max loss.reorderingThreshold)
        else loss.reorderingThreshold}
    transportSettings := {settings with
      timeReorderingThreshDividend := if settings.useAdaptiveLossTimeThresholds then
          metadata.lossTimeoutDividend.elim settings.timeReorderingThreshDividend
            (max settings.timeReorderingThreshDividend)
        else settings.timeReorderingThreshDividend}}

def onSpuriousLoss (conn : QuicConnectionState) (packet : OutstandingPacket) :
    Except Error QuicConnectionState := do
  let conn ← unloseFrames (adaptThresholds conn packet.metadata) packet
  return {conn with
    outstandings := conn.outstandings.lowerDeclaredLostCount
    history := ⟨packet,.ackedAfterLoss⟩ :: conn.history}

/-- Only the largest acknowledged packet of a frame gives a sample, and only if it is acknowledged
for the first time. -/
def sampleRtt (arguments : AckArguments) (walk : AckWalk) (packet : OutstandingPacket) : AckWalk :=
  let ackDelay := arguments.frame.ackDelay
  let received := if arguments.ackReceiveTime > packet.metadata.time then arguments.ackReceiveTime
    else arguments.nowTime
  let rttSample := ceilMicroseconds (received - packet.metadata.time)
  if !walk.ack.implicit && packet.number == arguments.frame.largestAcked && rttSample != 0 then
    {walk with
      conn := updateRtt walk.conn rttSample ackDelay
      ack := {walk.ack with
        rttSample := some rttSample
        rttSampleNoAckDelay := if rttSample ≥ ackDelay then some (rttSample - ackDelay) else none}}
  else walk

def noteLargestNewlyAcked (ack : AckEvent) (packet : OutstandingPacket) : AckEvent :=
  if ack.largestNewlyAckedPacket.all (· < packet.number) then
    {ack with
      largestNewlyAckedPacket := some packet.number
      largestNewlyAckedPacketSentTime := packet.metadata.time
      largestNewlyAckedPacketAppLimited := packet.isAppLimited}
  else ack

def countAcked (arguments : AckArguments) (walk : AckWalk) (packet : OutstandingPacket) : AckWalk :=
  if walk.ack.implicit then walk
  else
    let loss := walk.conn.lossState
    let totalBytesAcked := loss.totalBytesAcked + packet.metadata.encodedSize
    {walk with
      conn := {walk.conn with lossState := {loss with
        totalBytesAcked := totalBytesAcked
        totalBytesSentAtLastAck := loss.totalBytesSent
        totalBytesAckedAtLastAck := totalBytesAcked
        totalBodyBytesAcked := loss.totalBodyBytesAcked + packet.metadata.encodedBodySize
        lastAckedTime := some arguments.ackReceiveTime
        adjustedLastAckedTime :=
          some (arguments.ackReceiveTime - arguments.frame.ackDelay * 1000)}}
      ack := {walk.ack with totalBytesAcked := totalBytesAcked}
      lastAckedPacketSentTime := walk.lastAckedPacketSentTime.or (some packet.metadata.time)}

/-- Behind the last packet with a larger number. -/
def insertContext (context : OutstandingPacket × Bool) (packets : List (OutstandingPacket × Bool)) :
    List (OutstandingPacket × Bool) :=
  packets.rdropWhile (fun other => !(other.1.number > context.1.number)) ++
    context :: packets.rtakeWhile (fun other => !(other.1.number > context.1.number))

/-- An acknowledged packet is waited for no longer. -/
def releaseAcked (walk : AckWalk) (packet : OutstandingPacket) : AckWalk :=
  {walk with
    conn := {walk.conn with
      outstandings := walk.conn.outstandings.release packet
      history := ⟨packet,.acked (walk.conn.outstandings.needsProcess packet)⟩ :: walk.conn.history}
    ack := {walk.ack with ackedBytes := walk.ack.ackedBytes + packet.metadata.encodedSize}
    dsrPacketsAcked := walk.dsrPacketsAcked + (if packet.isDSRPacket then 1 else 0)}

def ackPacket (arguments : AckArguments) (walk : AckWalk) (packet : OutstandingPacket) : AckWalk :=
  let needsProcess := walk.conn.outstandings.needsProcess packet
  let sampled := sampleRtt arguments (releaseAcked walk packet) packet
  let noted := {sampled with ack := noteLargestNewlyAcked sampled.ack packet}
  let counted := countAcked arguments noted packet
  {counted with packetsWithHandlerContext :=
    insertContext (packet,needsProcess) counted.packetsWithHandlerContext}

/-- The packets of one block, from the largest number down: those that stay, and those below the
block. Packets of other spaces are passed over. -/
def ackWithin (arguments : AckArguments) (block : AckBlock) (walk : AckWalk) :
    List OutstandingPacket →
      Except Error (AckWalk × List OutstandingPacket × List OutstandingPacket)
  | [] => .ok (walk,[],[])
  | packet :: rest =>
    if packet.space ≠ arguments.pnSpace then do
      let (walk,kept,below) ← ackWithin arguments block walk rest
      return (walk,packet :: kept,below)
    else if packet.number < block.startPacket then .ok (walk,[],packet :: rest)
    else if packet.declaredLost then do
      let conn ← onSpuriousLoss walk.conn packet
      ackWithin arguments block {walk with conn := conn} rest
    else ackWithin arguments block (ackPacket arguments walk packet) rest

/-- The blocks come with falling numbers, so the walk goes on where the last block ended. -/
def ackBlocks (arguments : AckArguments) (walk : AckWalk) (packets : List OutstandingPacket) :
    List AckBlock → Except Error (AckWalk × List OutstandingPacket)
  | [] => .ok (walk,packets)
  | block :: blocks =>
    let above := packets.takeWhile fun packet => packet.number > block.endPacket
    match packets.dropWhile fun packet => packet.number > block.endPacket with
    | [] => .ok (walk,packets)
    | reached => do
      let (walk,kept,below) ← ackWithin arguments block walk reached
      let (walk,rest) ← ackBlocks arguments walk below blocks
      return (walk,above ++ kept ++ rest)

def getLargestDeliverableOffset (stream : QuicStreamState) : Option Nat :=
  match stream.ackedIntervals.intervals with
  | [] => none
  | front :: _ => if front.start ≠ 0 then none else some front.stop

def recordStream (id : StreamId) (index : Option Nat) :
    List (StreamId × Option Nat) → List (StreamId × Option Nat)
  | [] => [(id,index)]
  | (other,known) :: rest =>
    if other = id then (id,index.or known) :: rest else (other,known) :: recordStream id index rest

def recordFrame (details : List (StreamId × Option Nat)) (frame : WriteStreamFrame) :
    List (StreamId × Option Nat) :=
  if frame.len = 0 then details
  else recordStream frame.streamId (if frame.fromBufMeta then some frame.streamPacketIdx else none)
    details

/-- Whether the acknowledgement changed the offset up to which the stream is delivered. -/
def deliveryMoved (before after : QuicStreamState) : Bool :=
  before.ackedIntervals.insertVersion != after.ackedIntervals.insertVersion &&
    getLargestDeliverableOffset before != getLargestDeliverableOffset after

/-- What an acknowledged frame adds to the details of its packet. -/
def recordAcked (before after : QuicConnectionState) (details : List (StreamId × Option Nat)) :
    QuicWriteFrame → List (StreamId × Option Nat)
  | .stream frame =>
    match before.findStream frame.streamId, after.findStream frame.streamId with
    | some previous, some stream =>
      let recorded := recordFrame details frame
      if deliveryMoved previous stream then recordStream frame.streamId none recorded else recorded
    | _, _ => details
  | _ => details

def isWriteAckFrame : QuicWriteFrame → Bool
  | .ack _ => true
  | _ => false

def visitFrame (ackVisitor : AckVisitor) (context : OutstandingPacket × Bool)
    (visited : QuicConnectionState × List (StreamId × Option Nat)) (frame : QuicWriteFrame) :
    Except Error (QuicConnectionState × List (StreamId × Option Nat)) :=
  if !context.2 && !isWriteAckFrame frame then .ok visited
  else do
    let conn ← ackVisitor visited.1 context.1 frame
    return (conn,recordAcked visited.1 conn visited.2 frame)

def visitPacket (ackVisitor : AckVisitor) (visited : QuicConnectionState × AckEvent)
    (context : OutstandingPacket × Bool) : Except Error (QuicConnectionState × AckEvent) := do
  let packet := context.1
  let (conn,details) ← packet.packet.frames.foldlM (visitFrame ackVisitor context) (visited.1,[])
  let acked : AckPacket :=
    {packetNum := packet.number
     nonDsrPacketSequenceNumber := packet.nonDsrPacketSequenceNumber.getD 0
     outstandingPacketMetadata := packet.metadata
     detailsPerStream := details
     lastAckedPacketInfo := packet.lastAckedPacketInfo
     isAppLimited := packet.isAppLimited}
  return (conn,{visited.2 with ackedPackets := visited.2.ackedPackets ++ [acked]})

/-- Packets declared lost that the peer will hardly acknowledge any more leave the list, from its
front on. -/
def clearOld (time : TimePoint) (pnSpace : PacketNumberSpace) (threshold : Microseconds)
    (outstandings : OutstandingsInfo) :
    List OutstandingPacket → OutstandingsInfo × List OutstandingPacket
  | [] => (outstandings,[])
  | packet :: rest =>
    if time < packet.metadata.time then (outstandings,packet :: rest)
    else if packet.space ≠ pnSpace then
      let (outstandings,rest) := clearOld time pnSpace threshold outstandings rest
      (outstandings,packet :: rest)
    else if packet.declaredLost && time - packet.metadata.time > threshold * 1000 then
      clearOld time pnSpace threshold outstandings.lowerDeclaredLostCount rest
    else (outstandings,packet :: rest)

def clearOldOutstandingPackets (conn : QuicConnectionState) (time : TimePoint)
    (pnSpace : PacketNumberSpace) : QuicConnectionState :=
  if conn.outstandings.declaredLostCount ≠ 0 then
    let (outstandings,packets) := clearOld time pnSpace (calculatePTO conn) conn.outstandings
      conn.outstandings.packets
    {conn with outstandings := {outstandings with packets := packets}}
  else conn

/-- The controller is told of newly acknowledged packets and of losses. -/
def judgeCongestion (conn : QuicConnectionState) (ack : AckEvent) (event : LossEvent) :
    Except Error LossEvent :=
  match event.smallestLostSentTime, event.largestLostSentTime with
  | some smallest, some largest =>
    let pto := if conn.lossState.srtt = 0 then none else some (calculatePTO conn)
    .ok {event with persistentCongestion := isPersistentCongestion pto smallest largest ack}
  | _, _ => .error (noValue "lostSentTime")

def reportAck (conn : QuicConnectionState) (readings : Readings) (ack : AckEvent)
    (lossEvent : Option LossEvent) : Except Error QuicConnectionState :=
  match conn.congestionController, lossEvent with
  | none, _ => .ok conn
  | some _, none =>
    if ack.largestNewlyAckedPacket.isSome then onPacketAckOrLoss conn readings (some ack) none
    else .ok conn
  | some _, some event => do
    let judged ← judgeCongestion conn ack event
    onPacketAckOrLoss conn readings (some ack) (some judged)

def finishWalk (walk : AckWalk) (packets : List OutstandingPacket) : QuicConnectionState :=
  {walk.conn with outstandings := {walk.conn.outstandings with packets := packets}}

def settleAcked (walk : AckWalk) (conn : QuicConnectionState) : QuicConnectionState :=
  let lastSent := walk.lastAckedPacketSentTime.or conn.lossState.lastAckedPacketSentTime
  {conn with
    outstandings := conn.outstandings.lowerDsrCount walk.dsrPacketsAcked
    lossState := {conn.lossState with lastAckedPacketSentTime := lastSent}}

/-- The walk over all blocks. It starts at the last packet of the space. -/
def walkAcked (arguments : AckArguments) (conn : QuicConnectionState) :
    Except Error (AckWalk × QuicConnectionState) := do
  let frame := arguments.frame
  let ack : AckEvent :=
    {ackTime := arguments.ackReceiveTime
     adjustedAckTime := arguments.ackReceiveTime - frame.ackDelay * 1000
     ackDelay := frame.ackDelay
     packetNumberSpace := arguments.pnSpace
     largestAckedPacket := frame.largestAcked
     implicit := frame.implicit}
  let newest := conn.outstandings.packets.reverse
  let passed (packet : OutstandingPacket) := packet.space != arguments.pnSpace
  let (walk,rest) ← ackBlocks arguments {conn := conn, ack := ack} (newest.dropWhile passed)
    frame.ackBlocks
  return (walk,finishWalk walk (newest.takeWhile passed ++ rest).reverse)

def processAckFrame (conn : QuicConnectionState) (arguments : AckArguments)
    (ackVisitor : AckVisitor) (lossVisitor : LossVisitor) (readings : Readings) :
    Except Error (QuicConnectionState × AckEvent) := do
  let (walk,conn) ← walkAcked arguments conn
  let (conn,ack) ← walk.packetsWithHandlerContext.reverse.foldlM (visitPacket ackVisitor)
    (conn,walk.ack)
  let (conn,lossEvent) ← handleAckForLoss (settleAcked walk conn) lossVisitor ack arguments.pnSpace
  let conn ← reportAck conn readings ack lossEvent
  return (clearOldOutstandingPackets conn arguments.ackReceiveTime arguments.pnSpace,ack)

/-- Ranges the peer knows to be acknowledged need not be acknowledged again. -/
def commonAckVisitorForAckFrame (ackState : AckState) (frame : WriteAckFrame) : AckState :=
  let withdrawn := frame.ackBlocks.reverse.foldl IntervalSet.withdraw ackState.acks
  match frame.ackBlocks with
  | [] => {ackState with acks := withdrawn}
  | front :: _ =>
    if front.stop > kAckPurgingThresh then
      {ackState with acks := withdrawn.withdraw ⟨0,front.stop - kAckPurgingThresh,
        Nat.zero_le _,Nat.le_trans (Nat.sub_le _ _) front.bounded⟩}
    else {ackState with acks := withdrawn}

def updateAckState (conn : QuicConnectionState) (space : PacketNumberSpace)
    (update : AckState → AckState) : QuicConnectionState :=
  {conn with ackStates := Function.update conn.ackStates space (update (conn.ackStates space))}

def ackCryptoFrame (conn : QuicConnectionState) (level : EncryptionLevel)
    (frame : WriteCryptoFrame) : QuicConnectionState :=
  let stream := processCryptoStreamAck (getCryptoStream conn.cryptoState level) frame.offset
    frame.len
  {conn with cryptoState := setCryptoStream conn.cryptoState stream level}

/-- The visitor of the client. That a packet of the new keys was acknowledged is also noted by the
handshake layer. -/
def clientAckVisitor (pnSpace : PacketNumberSpace) : AckVisitor := fun conn packet frame =>
  match frame with
  | .ack frame => .ok (updateAckState conn pnSpace (commonAckVisitorForAckFrame · frame))
  | .rstStream frame => conn.withStream frame.streamId sendRstAckSMHandler
  | .stream frame => conn.withStream frame.streamId (sendAckSMHandler · · frame)
  | .crypto frame => .ok (ackCryptoFrame conn
      (protectionTypeToEncryptionLevel packet.packet.header.getProtectionType) frame)
  | .ping => .ok {conn with pendingEvents := {conn.pendingEvents with cancelPingTimeout := true}}
  | _ => .ok conn

def implicitAckVisitor (pnSpace : PacketNumberSpace) (level : EncryptionLevel) : AckVisitor :=
  fun conn _ frame =>
    match frame with
    | .crypto frame => .ok (ackCryptoFrame conn level frame)
    | .ack frame => .ok (updateAckState conn pnSpace (commonAckVisitorForAckFrame · frame))
    | _ => .ok conn

def clearCryptoLossBuffer (conn : QuicConnectionState) (level : EncryptionLevel) :
    QuicConnectionState :=
  let stream := {getCryptoStream conn.cryptoState level with lossBuffer := []}
  {conn with cryptoState := setCryptoStream conn.cryptoState stream level}

/-- All packets of a handshake space count as acknowledged when the keys of the space go. -/
def implicitAckCryptoStream (conn : QuicConnectionState) (level : EncryptionLevel)
    (now nowTime : TimePoint) (readings : Readings) : Except Error QuicConnectionState :=
  let space := if level = .handshake then .handshake else .initial
  let numbers := (conn.outstandings.packets.filter (·.space == space)).map (·.number)
  match numbers with
  | [] => .ok conn
  | first :: rest => do
    let block : AckBlock := ⟨rest.foldl min first,rest.foldl max first⟩
    let frame : ReadAckFrame :=
      {largestAcked := block.endPacket, implicit := true, ackBlocks := [block]}
    let (conn,_) ← processAckFrame conn
      {pnSpace := space, frame := frame, ackReceiveTime := now, nowTime := nowTime}
      (implicitAckVisitor space level) (fun conn _ _ => conn) readings
    return clearCryptoLossBuffer conn level

end StreamServer.State
