import StreamServer.Congestion.Controller
import StreamServer.State.Outstandings
import StreamServer.State.SimpleFrames
import StreamServer.State.StreamFunctions

/-! Loss detection: which outstanding packets count as lost, what becomes of their frames and
what happens when the loss timer fires. -/
namespace StreamServer.Loss
open Protocol State FlowControl Congestion

def kPersistentCongestionThreshold : Int := 3
def kPacketToSendForPTO : Nat := 2

/-- Told of a lost packet and of whether its family was processed before. -/
abbrev LossVisitor := QuicConnectionState → RegularQuicWritePacket → Bool → QuicConnectionState

def calculatePTO (conn : QuicConnectionState) : Microseconds :=
  if conn.lossState.srtt = 0 then 2 * conn.transportSettings.initialRtt
  else conn.lossState.srtt + 4 * conn.lossState.rttvar + conn.lossState.maxAckDelay

def isPersistentCongestion (pto : Option Microseconds) (lostPeriodStart lostPeriodEnd : TimePoint)
    (ack : AckEvent) : Bool :=
  match pto with
  | none => false
  | some pto =>
    lostPeriodEnd - lostPeriodStart ≥ pto * kPersistentCongestionThreshold * 1000 &&
      ack.ackedPackets.all fun packet =>
        !(packet.outstandingPacketMetadata.time ≥ lostPeriodStart &&
          packet.outstandingPacketMetadata.time ≤ lostPeriodEnd)

def streamRetransmissionDisabled (conn : QuicConnectionState) (stream : QuicStreamState) : Bool :=
  stream.groupId.any fun group => group ∈ conn.retransmissionDisabledGroups

/-- The connection while the frames of a lost packet are processed, and the streams that have
counted the packet. -/
structure FramesLost where
  conn : QuicConnectionState
  streamsWithAddedStreamLossForPacket : Finset StreamId := ∅

/-- The data of a lost frame moves from the retransmission buffer to the loss buffer, if it is
there. -/
def lostStreamData (conn : QuicConnectionState) (stream : QuicStreamState)
    (frame : WriteStreamFrame) : Option QuicStreamState :=
  if !frame.fromBufMeta then
    (stream.retransmissionBuffer.lookup frame.offset).map fun buffer => {stream with
      lossBuffer := if streamRetransmissionDisabled conn stream then stream.lossBuffer
        else insertIntoLossBuffer stream.lossBuffer buffer
      retransmissionBuffer := stream.retransmissionBuffer.erase frame.offset}
  else
    (stream.retransmissionBufMetas.lookup frame.offset).map fun bufMeta => {stream with
      lossBufMetas := if streamRetransmissionDisabled conn stream then stream.lossBufMetas
        else insertIntoLossBufMeta stream.lossBufMetas bufMeta
      retransmissionBufMetas := stream.retransmissionBufMetas.erase frame.offset}

def onStreamFrameLost (lost : FramesLost) (frame : WriteStreamFrame) : FramesLost :=
  match (lost.conn.findStream frame.streamId).bind (lostStreamData lost.conn · frame) with
  | none => lost
  | some stream =>
    let counted := frame.streamId ∈ lost.streamsWithAddedStreamLossForPacket
    let stream := {stream with
      streamLossCount := stream.streamLossCount + (if counted then 0 else 1)}
    {conn := (lost.conn.setStream stream).manage (·.updateWritableStreams stream)
     streamsWithAddedStreamLossForPacket :=
       insert frame.streamId lost.streamsWithAddedStreamLossForPacket}

def onCryptoFrameLost (conn : QuicConnectionState) (protectionType : ProtectionType)
    (frame : WriteCryptoFrame) : QuicConnectionState :=
  let level := protectionTypeToEncryptionLevel protectionType
  let stream := getCryptoStream conn.cryptoState level
  match stream.retransmissionBuffer.lookup frame.offset with
  | none => conn
  | some buffer =>
    let stream := {stream with
      lossBuffer := insertIntoLossBuffer stream.lossBuffer buffer
      retransmissionBuffer := stream.retransmissionBuffer.erase frame.offset}
    {conn with cryptoState := setCryptoStream conn.cryptoState stream level}

/-- A reset that waits already is not replaced. -/
def onRstStreamLost (conn : QuicConnectionState) (frame : RstStreamFrame) : QuicConnectionState :=
  match conn.findStream frame.streamId, conn.pendingEvents.resets.lookup frame.streamId with
  | some _, none => {conn with pendingEvents := {conn.pendingEvents with
      resets := conn.pendingEvents.resets.insert frame.streamId frame}}
  | _, _ => conn

def onStreamBlockedLost (conn : QuicConnectionState) (streamId : StreamId) : QuicConnectionState :=
  match conn.findStream streamId with
  | none => conn
  | some stream => onBlockedLost conn stream

def onStreamWindowLost (conn : QuicConnectionState) (streamId : StreamId) : QuicConnectionState :=
  match conn.findStream streamId with
  | none => conn
  | some stream => onStreamWindowUpdateLost conn stream

/-- Window updates are sent again in any case, other frames only if the family of the packet was
not processed before. -/
def onFrameLost (protectionType : ProtectionType) (processed : Bool) (lost : FramesLost) :
    QuicWriteFrame → FramesLost
  | .maxStreamData streamId _ => {lost with conn := onStreamWindowLost lost.conn streamId}
  | .maxData _ => {lost with conn := onConnWindowUpdateLost lost.conn}
  | frame =>
    if processed then lost
    else match frame with
      | .dataBlocked _ => {lost with conn := onDataBlockedLost lost.conn}
      | .stream frame => onStreamFrameLost lost frame
      | .crypto frame => {lost with conn := onCryptoFrameLost lost.conn protectionType frame}
      | .rstStream frame => {lost with conn := onRstStreamLost lost.conn frame}
      | .streamDataBlocked streamId _ =>
        {lost with conn := onStreamBlockedLost lost.conn streamId}
      | .simple frame => {lost with conn := updateSimpleFrameOnPacketLoss lost.conn frame}
      | _ => lost

def markPacketLoss : LossVisitor := fun conn packet processed =>
  (packet.frames.foldl (onFrameLost packet.header.getProtectionType processed) {conn := conn}).conn

/-- The arguments of a scan for lost packets that stay the same. -/
structure LossArguments where
  largestAcked : PacketNum
  pnSpace : PacketNumberSpace
  largestDsrAcked : AList (fun _ : StreamId => PacketNum) := ∅
  largestNonDsrAcked : Option PacketNum := none
  lossTime : TimePoint
  rttSample : Microseconds
  lossVisitor : LossVisitor
  delayUntilLost : Microseconds

structure LossScan where
  conn : QuicConnectionState
  lossEvent : LossEvent
  shouldSetTimer : Bool := false

/-- The largest acknowledged number and the number of the packet that are compared. Packets of a
stream whose data is not here are numbered within the stream. -/
def comparedNumbers (arguments : LossArguments) (packet : OutstandingPacket) :
    Except Error (PacketNum × PacketNum) :=
  match packet.packet.frames.head? with
  | some (.stream frame) =>
    if frame.fromBufMeta then
      .ok ((arguments.largestDsrAcked.lookup frame.streamId).getD frame.streamPacketIdx,
        frame.streamPacketIdx)
    else nonDsr
  | _ => nonDsr
where
  nonDsr : Except Error (PacketNum × PacketNum) :=
    let current := packet.nonDsrPacketSequenceNumber.getD packet.number
    if arguments.largestDsrAcked.entries.isEmpty then
      match arguments.largestNonDsrAcked with
      | none => .error (noValue "largestNonDsrAcked")
      | some largest => .ok (largest,current)
    else .ok (arguments.largestNonDsrAcked.getD packet.number,current)

def lostByTimeout (arguments : LossArguments) (packet : OutstandingPacket) : Bool :=
  arguments.lossTime - packet.metadata.time > arguments.delayUntilLost * 1000

def markedLost (arguments : LossArguments) (conn : QuicConnectionState) (packet : OutstandingPacket)
    (reorderDistance : Nat) : OutstandingPacket :=
  {packet with
    declaredLost := true
    metadata := {packet.metadata with
      lossTimeoutDividend :=
        if lostByTimeout arguments packet && arguments.rttSample > 0 then
          some (((arguments.lossTime - packet.metadata.time) *
            conn.transportSettings.timeReorderingThreshDivisor).tdiv (arguments.rttSample * 1000))
        else packet.metadata.lossTimeoutDividend
      lossReorderDistance :=
        if reorderDistance > conn.lossState.reorderingThreshold then some reorderDistance
        else packet.metadata.lossReorderDistance}}

def countLost (arguments : LossArguments) (conn : QuicConnectionState) (packet : OutstandingPacket)
    (reorderDistance : Nat) : QuicConnectionState :=
  let waited := if packet.isDSRPacket then conn.outstandings.lowerDsrCount 1 else conn.outstandings
  let released := waited.release packet
  let loss := conn.lossState
  {conn with
    outstandings := {released with declaredLostCount := released.declaredLostCount + 1}
    history := ⟨packet,.lost !(conn.outstandings.needsProcess packet)⟩ :: conn.history
    lossState := {loss with
      totalPacketsMarkedLost := loss.totalPacketsMarkedLost + 1
      totalPacketsMarkedLostByTimeout := loss.totalPacketsMarkedLostByTimeout +
        (if lostByTimeout arguments packet && arguments.rttSample > 0 then 1 else 0)
      totalPacketsMarkedLostByReorderingThreshold :=
        loss.totalPacketsMarkedLostByReorderingThreshold +
          (if reorderDistance > loss.reorderingThreshold then 1 else 0)}}

def processPacketForLoss (arguments : LossArguments) (scan : LossScan) (packet : OutstandingPacket) :
    Except Error (LossScan × OutstandingPacket) := do
  let (largest,current) ← comparedNumbers arguments packet
  let reorderDistance := max largest current - current
  if !(lostByTimeout arguments packet || reorderDistance > scan.conn.lossState.reorderingThreshold)
  then return ({scan with shouldSetTimer := true},packet)
  else
    let processed := !scan.conn.outstandings.needsProcess packet
    let marked := markedLost arguments scan.conn packet reorderDistance
    let lossEvent ← scan.lossEvent.addLostPacket marked
    let counted := countLost arguments scan.conn packet reorderDistance
    return ({scan with
      conn := arguments.lossVisitor counted packet.packet processed
      lossEvent := lossEvent},marked)

def scanForLoss (arguments : LossArguments) (scan : LossScan) :
    List OutstandingPacket → Except Error (LossScan × List OutstandingPacket)
  | [] => .ok (scan,[])
  | packet :: rest =>
    if packet.number ≥ arguments.largestAcked then .ok (scan,packet :: rest)
    else if !packet.isOutstanding arguments.pnSpace then do
      let (scan,rest) ← scanForLoss arguments scan rest
      return (scan,packet :: rest)
    else do
      let (scan,packet) ← processPacketForLoss arguments scan packet
      let (scan,rest) ← scanForLoss arguments scan rest
      return (scan,packet :: rest)

def withPackets (conn : QuicConnectionState) (packets : List OutstandingPacket) :
    QuicConnectionState :=
  {conn with outstandings := {conn.outstandings with packets := packets}}

/-- The scan starts at the first packet of the space that is not declared lost. -/
def processOutstandingsForLoss (arguments : LossArguments) (conn : QuicConnectionState)
    (lossEvent : LossEvent) : Except Error LossScan := do
  let passed (packet : OutstandingPacket) := !packet.isOutstanding arguments.pnSpace
  let (scan,rest) ← scanForLoss arguments {conn := conn, lossEvent := lossEvent}
    (conn.outstandings.packets.dropWhile passed)
  return {scan with
    conn := withPackets scan.conn (conn.outstandings.packets.takeWhile passed ++ rest)}

/-- The largest numbers an acknowledgement covers: per stream whose data is not here, and of the
other packets. -/
structure LargestAcked where
  dsr : AList (fun _ : StreamId => PacketNum) := ∅
  nonDsr : Option PacketNum := none

def LargestAcked.addNonDsr (largest : LargestAcked) (packet : AckPacket) : LargestAcked :=
  {largest with nonDsr := some (max (largest.nonDsr.getD 0) packet.nonDsrPacketSequenceNumber)}

def LargestAcked.addDetails (packet : AckPacket) (largest : LargestAcked)
    (details : StreamId × Option Nat) : LargestAcked :=
  match details.2 with
  | some index =>
    let previous := (largest.dsr.lookup details.1).getD index
    {largest with dsr := largest.dsr.insert details.1 (max previous index)}
  | none => largest.addNonDsr packet

/-- A packet without streams is one whose data is here. -/
def LargestAcked.addPacket (largest : LargestAcked) (packet : AckPacket) : LargestAcked :=
  if packet.detailsPerStream.isEmpty then largest.addNonDsr packet
  else packet.detailsPerStream.foldl (LargestAcked.addDetails packet) largest

def LargestAcked.ofEvent (largestAcked : Option PacketNum) (ackEvent : Option AckEvent) :
    LargestAcked :=
  let acked := ackEvent.elim [] AckEvent.ackedPackets
  let largest := acked.foldl LargestAcked.addPacket {}
  if largest.dsr.entries.isEmpty then {largest with nonDsr := largest.nonDsr.or largestAcked}
  else largest

/-- The timer runs for the earliest packet that is still waited for. -/
def setLossTime (conn : QuicConnectionState) (pnSpace : PacketNumberSpace)
    (delayUntilLost : Microseconds) (shouldSetTimer : Bool) : QuicConnectionState :=
  let earliest := conn.outstandings.packets.find? fun packet =>
    packet.isOutstanding pnSpace && conn.outstandings.needsProcess packet
  if shouldSetTimer then
    {conn with lossState := {conn.lossState with
      lossTimes := Function.update conn.lossState.lossTimes pnSpace
        ((earliest.map fun packet => delayUntilLost * 1000 + packet.metadata.time).or
          (conn.lossState.lossTimes pnSpace))}}
  else conn

def clearLossTime (conn : QuicConnectionState) (pnSpace : PacketNumberSpace) :
    QuicConnectionState :=
  {conn with lossState := {conn.lossState with
    lossTimes := Function.update conn.lossState.lossTimes pnSpace none}}

def countRetransmissions (conn : QuicConnectionState) (lostPackets : Nat) : QuicConnectionState :=
  {conn with lossState := {conn.lossState with
    rtxCount := conn.lossState.rtxCount + lostPackets}}

/-- The event is reported only to a controller. -/
def reportLoss (scan : LossScan) : QuicConnectionState × Option LossEvent :=
  if scan.lossEvent.largestLostPacketNum.isSome then
    (countRetransmissions scan.conn scan.lossEvent.lostPackets,
      if scan.conn.congestionController.isSome then some scan.lossEvent else none)
  else (scan.conn,none)

/-- Nothing is scanned before the peer has acknowledged a packet of the space. -/
def scanOutstandings (conn : QuicConnectionState) (largestAcked : Option PacketNum)
    (lossVisitor : LossVisitor) (lossTime : TimePoint) (pnSpace : PacketNumberSpace)
    (ackEvent : Option AckEvent) (rttSample delayUntilLost : Microseconds) : Except Error LossScan :=
  match largestAcked with
  | none => .ok {conn := conn, lossEvent := {lossTime := lossTime}}
  | some number =>
    let largest := LargestAcked.ofEvent largestAcked ackEvent
    processOutstandingsForLoss
      {largestAcked := number
       pnSpace := pnSpace
       largestDsrAcked := largest.dsr
       largestNonDsrAcked := largest.nonDsr
       lossTime := lossTime
       rttSample := rttSample
       lossVisitor := lossVisitor
       delayUntilLost := delayUntilLost} conn {lossTime := lossTime}

def detectLossPackets (conn : QuicConnectionState) (largestAcked : Option PacketNum)
    (lossVisitor : LossVisitor) (lossTime : TimePoint) (pnSpace : PacketNumberSpace)
    (ackEvent : Option AckEvent) : Except Error (QuicConnectionState × Option LossEvent) := do
  let rttSample := max conn.lossState.srtt conn.lossState.lrtt
  let settings := conn.transportSettings
  let delayUntilLost := (rttSample * settings.timeReorderingThreshDividend).tdiv
    settings.timeReorderingThreshDivisor
  let scan ← scanOutstandings (clearLossTime conn pnSpace) largestAcked lossVisitor lossTime pnSpace
    ackEvent rttSample delayUntilLost
  return reportLoss {scan with
    conn := setLossTime scan.conn pnSpace delayUntilLost scan.shouldSetTimer}

def alarmIfOutstanding (conn : QuicConnectionState) : QuicConnectionState :=
  {conn with pendingEvents := {conn.pendingEvents with
    setLossDetectionAlarm := conn.outstandings.numOutstanding > 0}}

/-- What an acknowledgement of a packet not acknowledged before does to the loss state. -/
def noteNewlyAcked (conn : QuicConnectionState) (pnSpace : PacketNumberSpace)
    (largestNewlyAcked : Option PacketNum) : QuicConnectionState :=
  match largestNewlyAcked with
  | none => conn
  | some newly =>
    let ackState := conn.ackStates pnSpace
    {conn with
      lossState := {conn.lossState with ptoCount := 0}
      ackStates := Function.update conn.ackStates pnSpace {ackState with
        largestAckedByPeer := some (max (ackState.largestAckedByPeer.getD newly) newly)}}

def handleAckForLoss (conn : QuicConnectionState) (lossVisitor : LossVisitor) (ack : AckEvent)
    (pnSpace : PacketNumberSpace) : Except Error (QuicConnectionState × Option LossEvent) := do
  let conn := noteNewlyAcked conn pnSpace ack.largestNewlyAckedPacket
  let (conn,lossEvent) ← detectLossPackets conn (conn.ackStates pnSpace).largestAckedByPeer
    lossVisitor ack.ackTime pnSpace (some ack)
  return (alarmIfOutstanding conn,lossEvent)

/-- A packet whose keys the peer refused leaves the outstanding packets at once. -/
def dropZeroRttPacket (lossVisitor : LossVisitor) (scan : LossScan) (packet : OutstandingPacket) :
    Except Error LossScan := do
  let processed := !scan.conn.outstandings.needsProcess packet
  let lossEvent ← scan.lossEvent.addLostPacket packet
  let counted := {scan.conn with
    outstandings := scan.conn.outstandings.release packet
    history := ⟨packet,.lost processed⟩ :: scan.conn.history}
  return {scan with
    conn := lossVisitor counted packet.packet processed
    lossEvent := lossEvent}

def dropZeroRttPackets (lossVisitor : LossVisitor) (scan : LossScan) :
    List OutstandingPacket → Except Error (LossScan × List OutstandingPacket)
  | [] => .ok (scan,[])
  | packet :: rest =>
    if packet.isOutstanding .appData && packet.packet.header.getProtectionType == .zeroRtt then do
      let scan ← dropZeroRttPacket lossVisitor scan packet
      dropZeroRttPackets lossVisitor scan rest
    else do
      let (scan,rest) ← dropZeroRttPackets lossVisitor scan rest
      return (scan,packet :: rest)

def markZeroRttPacketsLost (conn : QuicConnectionState) (lossVisitor : LossVisitor)
    (now : TimePoint) : Except Error QuicConnectionState := do
  let (scan,packets) ← dropZeroRttPackets lossVisitor
    {conn := conn, lossEvent := {lossTime := now}} conn.outstandings.packets
  let counted := countRetransmissions (withPackets scan.conn packets) scan.lossEvent.lostPackets
  if scan.lossEvent.largestLostPacketNum.isSome then
    onRemoveBytesFromInflight counted scan.lossEvent.lostBytes
  else return counted

/-- No probes are asked for beyond what could be sent again. -/
def probesFor (cipher hasLostData : Bool) (packetCount : Nat) : Nat :=
  if !cipher then 0
  else if !hasLostData && packetCount < kPacketToSendForPTO then packetCount
  else kPacketToSendForPTO

def numProbePackets (conn : QuicConnectionState) (space : PacketNumberSpace) : Nat :=
  let packetCount := conn.outstandings.packetCount space
  match space with
  | .initial => probesFor conn.initialWriteCipher
      (!conn.cryptoState.initialStream.lossBuffer.isEmpty) packetCount
  | .handshake => probesFor conn.handshakeWriteCipher
      (!conn.cryptoState.handshakeStream.lossBuffer.isEmpty) packetCount
  | .appData => probesFor conn.oneRttWriteCipher
      (!conn.cryptoState.oneRttStream.lossBuffer.isEmpty ||
        decide conn.streamManager.lossStreams.Nonempty ||
          decide conn.streamManager.lossDSRStreams.Nonempty) packetCount

/-- Data sent before the handshake is given up for lost once, when it can be sent with new keys. -/
def retransmitZeroRtt (conn : QuicConnectionState) (now : TimePoint) :
    Except Error QuicConnectionState :=
  if conn.transportSettings.earlyRetransmit0Rtt && !conn.lossState.attemptedEarlyRetransmit0Rtt &&
      conn.oneRttWriteCipher then
    markZeroRttPacketsLost {conn with lossState := {conn.lossState with
      attemptedEarlyRetransmit0Rtt := true}} markPacketLoss now
  else .ok conn

def onPTOAlarm (conn : QuicConnectionState) (now : TimePoint) : Except Error QuicConnectionState :=
  let counted := {conn with lossState := {conn.lossState with
    ptoCount := conn.lossState.ptoCount + 1
    totalPTOCount := conn.lossState.totalPTOCount + 1}}
  if counted.lossState.ptoCount = conn.transportSettings.maxNumPTOs then
    .error (.internal .connectionAbandoned "Exceeded max PTO")
  else do
    let conn ← retransmitZeroRtt counted now
    return {conn with pendingEvents := {conn.pendingEvents with
      numProbePackets := numProbePackets conn}}

/-- The earlier of two times; at equal times the first stays. -/
def earlier (times : PacketNumberSpace → Option TimePoint)
    (earliest : Option TimePoint × PacketNumberSpace) (space : PacketNumberSpace) :
    Option TimePoint × PacketNumberSpace :=
  match times space with
  | none => earliest
  | some time => if earliest.1.all (time < ·) then (some time,space) else earliest

def earliestTimeAndSpace (times : PacketNumberSpace → Option TimePoint) (considerAppData : Bool) :
    Option TimePoint × PacketNumberSpace :=
  let spaces := if considerAppData then [.initial,.handshake,.appData] else [.initial,.handshake]
  spaces.foldl (earlier times) (none,.initial)

def earliestLossTimer (conn : QuicConnectionState) : Option TimePoint × PacketNumberSpace :=
  earliestTimeAndSpace conn.lossState.lossTimes conn.oneRttWriteCipher

def onReorderingAlarm (conn : QuicConnectionState) (lossVisitor : LossVisitor) (now : TimePoint)
    (readings : Readings) : Except Error QuicConnectionState := do
  let space := (earliestLossTimer conn).2
  let (conn,lossEvent) ← detectLossPackets conn (conn.ackStates space).largestAckedByPeer
    lossVisitor now space none
  match lossEvent with
  | none => return conn
  | some event => onPacketAckOrLoss conn readings none (some event)

def onAlarm (conn : QuicConnectionState) (lossVisitor : LossVisitor) (now : TimePoint)
    (readings : Readings) : Except Error QuicConnectionState :=
  match conn.lossState.currentAlarmMethod with
  | .earlyRetransmitOrReordering => onReorderingAlarm conn lossVisitor now readings
  | .pto => onPTOAlarm conn now

def onLossDetectionAlarm (conn : QuicConnectionState) (lossVisitor : LossVisitor) (now : TimePoint)
    (readings : Readings) : Except Error QuicConnectionState :=
  if conn.outstandings.packets.isEmpty then .ok conn
  else do
    let conn ← onAlarm conn lossVisitor now readings
    return alarmIfOutstanding conn

end StreamServer.Loss
