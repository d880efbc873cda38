import StreamServer.Codec.PacketBuilder

/-! The frame decoders and the loop that takes a packet body apart. The body is one
contiguous buffer. -/
namespace StreamServer.Codec
open Protocol Lib.Wire

abbrev Decoder (α : Type) := Reader Error α

def kDefaultAckDelayExponent : Nat := 3
def kDefaultReceiveTimestampsExponent : Nat := 3

structure CodecParameters where
  peerAckDelayExponent : Nat := kDefaultAckDelayExponent
  /-- The exponent of the configuration for receive timestamps, if there is one. -/
  receiveTimestampsExponent : Option Nat := none
  deriving DecidableEq, Repr

def kMaxMaxStreams : Nat := 2^60
def kMaxReasonPhraseLength : Nat := 1024

def frameEncodingError (message : String) : Error := .transport .frameEncodingError message

/-- The error of a cursor that is asked for more than there is. -/
def underflow : Error := .standard "underflow"

def sizedInteger (message : String) : Decoder (Nat × Nat) := fun cursor =>
  match decodeQuicInteger cursor with
  | some result => .ok result
  | none => .error (frameEncodingError message)

def integer (message : String) : Decoder Nat := do return (← sizedInteger message).1

/-- A big-endian word, checked for with the decoder's own error. -/
def word (width : Nat) (message : String) : Decoder Nat := do
  return ofBE (← takeExactly (frameEncodingError message) width)

def decodePaddingFrame : Decoder QuicFrame := fun cursor =>
  match cursor with
  | [] => .ok (.padding 1,[])
  | firstByte :: rest =>
    if firstByte ≠ 0 then .ok (.padding 1,cursor)
    -- A byte-wise comparison of the rest with itself shifted by one.
    else if cursor.dropLast = rest then .ok (.padding 1,[])
    else .ok (.padding 1,cursor)

def nextAckedPacketGap (packetNum gap : Nat) : Except Error Nat :=
  if packetNum < gap + 2 then .error (frameEncodingError "Bad gap") else .ok (packetNum - (gap + 2))

def nextAckedPacketLen (packetNum ackBlockLen : Nat) : Except Error Nat :=
  if packetNum < ackBlockLen then .error (frameEncodingError "Bad block len")
  else .ok (packetNum - ackBlockLen)

/-- A delay whose scaled value does not fit 64 bits, or the signed representation, is refused. The
shifts are by the exponent and by what it lacks to 64; one by the width or more is undefined. -/
def convertEncodedDurationToMicroseconds (exponentToUse delay : Nat) : Except Error Nat :=
  let leftShift := 64 - exponentToUse
  let delayOverflowMask := maxUint64 <<< leftShift % 2^64
  if exponentToUse = 0 ∨ 64 ≤ exponentToUse then .error (.standard "undefined shift")
  else if delay &&& delayOverflowMask ≠ 0 then .error (frameEncodingError "Decoded delay overflows")
  else
    let adjustedDelay := delay <<< exponentToUse % 2^64
    if adjustedDelay > 2^63 - 1 then .error (frameEncodingError "Bad delay") else .ok adjustedDelay

def decodeAckBlocks (currentPacketNum : Nat) : Nat → Decoder (List AckBlock)
  | 0 => return []
  | numBlocks + 1 => do
    let currentGap ← integer "Bad gap"
    let blockLen ← integer "Bad block len"
    let nextEndPacket ← nextAckedPacketGap currentPacketNum currentGap
    let nextPacketNum ← nextAckedPacketLen nextEndPacket blockLen
    return ⟨nextPacketNum,nextEndPacket⟩ :: (← decodeAckBlocks nextPacketNum numBlocks)

def ackDelayExponentToUse (header : PacketHeader) (params : CodecParameters) : Nat :=
  match header with
  | .long _ => kDefaultAckDelayExponent
  | .short _ => params.peerAckDelayExponent

def decodeAckFrame (header : PacketHeader) (params : CodecParameters) (frameType : FrameType) :
    Decoder ReadAckFrame := do
  let largestAcked ← integer "Bad largest acked"
  let ackDelay ← integer "Bad ack delay"
  let additionalAckBlocks ← integer "Bad ack block count"
  let firstAckBlockLen ← integer "Bad first block"
  let currentPacketNum ← nextAckedPacketLen largestAcked firstAckBlockLen
  let adjustedDelay ←
    convertEncodedDurationToMicroseconds (ackDelayExponentToUse header params) ackDelay
  -- A delay of more than 1000 seconds counts as none.
  let reportedDelay := if adjustedDelay > 1000 * 1000 * 1000 then 0 else adjustedDelay
  let additional ← decodeAckBlocks currentPacketNum additionalAckBlocks
  return {
    largestAcked := largestAcked
    ackDelay := reportedDelay
    ackBlocks := ⟨currentPacketNum,largestAcked⟩ :: additional
    frameType := frameType}

def decodeAckFrameWithECN (header : PacketHeader) (params : CodecParameters) :
    Decoder ReadAckFrame := do
  let readAckFrame ← decodeAckFrame header params .ack
  let _ ← integer "Bad ECT(0) value"
  let _ ← integer "Bad ECT(1) value"
  let _ ← integer "Bad ECT-CE value"
  return readAckFrame

def decodeTimestampDeltas (exponentToUse : Nat) : Nat → Decoder (List Nat)
  | 0 => return []
  | count + 1 => do
    let delta ← integer "Bad receive timestamps delta"
    let adjustedDelta ← convertEncodedDurationToMicroseconds exponentToUse delta
    return adjustedDelta :: (← decodeTimestampDeltas exponentToUse count)

def decodeTimestampRanges (exponentToUse : Nat) : Nat → Decoder (List RecvdPacketsTimestampsRange)
  | 0 => return []
  | count + 1 => do
    let gap ← integer "Bad receive timestamps gap"
    let timestampDeltaCount ← integer "Bad receive timestamps block length"
    let deltas ← decodeTimestampDeltas exponentToUse timestampDeltaCount
    return ⟨gap,timestampDeltaCount,deltas⟩ :: (← decodeTimestampRanges exponentToUse count)

def decodeAckFrameWithReceivedTimestamps (header : PacketHeader) (params : CodecParameters) :
    Decoder ReadAckFrame := do
  let frame ← decodeAckFrame header params .ackReceiveTimestamps
  let latestRecvdPacketNum ← integer "Bad latest received packet number"
  let latestRecvdPacketTimeDelta ← integer "Bad receive packet timestamp delta"
  let timeStampRangeCount ← integer "Bad receive timestamps range count"
  let exponentToUse := (params.receiveTimestampsExponent.getD kDefaultReceiveTimestampsExponent) % 2^8
  let ranges ← decodeTimestampRanges exponentToUse timeStampRangeCount
  return {frame with
    maybeLatestRecvdPacketNum := some latestRecvdPacketNum
    maybeLatestRecvdPacketTime := some latestRecvdPacketTimeDelta
    recvdPacketsTimestampRanges := ranges}

/-- Application and transport error codes are 16 bits wide. -/
def toErrorCode (value : Nat) : Nat := value % 2^16

def decodeRstStreamFrame : Decoder QuicFrame := do
  let streamId ← integer "Bad streamId"
  let errorCode ← integer "Cannot decode error code"
  let offset ← integer "Bad offset"
  return .rstStream ⟨streamId,toErrorCode errorCode,offset⟩

def decodeStopSendingFrame : Decoder QuicFrame := do
  let streamId ← integer "Bad streamId"
  let errorCode ← integer "Cannot decode error code"
  return .simple (.stopSending streamId (toErrorCode errorCode))

def decodeCryptoFrame : Decoder QuicFrame := do
  let offset ← integer "Invalid offset"
  let dataLength ← integer "Invalid length"
  let data ← takeExactly (frameEncodingError "Length mismatch") dataLength
  return .crypto ⟨offset,data⟩

def decodeNewTokenFrame : Decoder QuicFrame := do
  let tokenLength ← integer "Invalid length"
  let token ← takeExactly (frameEncodingError "Length mismatch") tokenLength
  return .newToken token

def optionalInteger (present : Bool) (message : String) : Decoder (Option Nat) :=
  if present then some <$> integer message else pure none

/-- Without a length field the rest of the packet is data. -/
def decodeStreamData (hasDataLength : Bool) : Decoder Bytes :=
  if hasDataLength then do
    let dataLength ← integer "Invalid length"
    takeExactly (frameEncodingError "Length mismatch") dataLength
  else fun rest => .ok (rest,[])

def decodeStreamFrame (frameTypeField : StreamTypeField) (isGroupFrame : Bool) :
    Decoder QuicFrame := do
  let streamId ← integer "Invalid stream id"
  let groupId ← optionalInteger isGroupFrame "Invalid group stream id"
  let offset ← optionalInteger frameTypeField.hasOffset "Invalid offset"
  let data ← decodeStreamData frameTypeField.hasDataLength
  return .stream ⟨streamId,offset.getD 0,data,frameTypeField.hasFin,groupId⟩

def decodeMaxDataFrame : Decoder QuicFrame := do return .maxData (← integer "Bad Max Data")

def decodeMaxStreamDataFrame : Decoder QuicFrame := do
  let streamId ← integer "Invalid streamId"
  let offset ← integer "Invalid offset"
  return .maxStreamData streamId offset

def decodeMaxStreamsFrame (isForBidirectional : Bool) (message : String) : Decoder QuicFrame := do
  let streamCount ← integer message
  if streamCount > kMaxMaxStreams then throw (frameEncodingError message)
  return .simple (.maxStreams streamCount isForBidirectional)

def decodeBiDiMaxStreamsFrame : Decoder QuicFrame :=
  decodeMaxStreamsFrame true "Invalid Bi-directional streamId"

def decodeUniMaxStreamsFrame : Decoder QuicFrame :=
  decodeMaxStreamsFrame false "Invalid Uni-directional streamId"

def decodeDataBlockedFrame : Decoder QuicFrame := do return .dataBlocked (← integer "Bad offset")

def decodeStreamDataBlockedFrame : Decoder QuicFrame := do
  let streamId ← integer "Bad streamId"
  let dataLimit ← integer "Bad offset"
  return .streamDataBlocked streamId dataLimit

def decodeBiDiStreamsBlockedFrame : Decoder QuicFrame := do
  return .streamsBlocked (← integer "Bad Bi-Directional streamId") true

def decodeUniStreamsBlockedFrame : Decoder QuicFrame := do
  return .streamsBlocked (← integer "Bad Uni-direcitonal streamId") false

def decodeConnectionId : Decoder ConnectionId := do
  let connIdLen := ofBE
    (← takeExactly (frameEncodingError "Not enough input bytes to read Dest. ConnectionId") 1)
  fun rest =>
    if rest.length < connIdLen then .error (frameEncodingError "Bad connid")
    else if bounded : (rest.take connIdLen).length ≤ kMaxConnectionIdSize then
      .ok (⟨rest.take connIdLen,bounded⟩,rest.drop connIdLen)
    else .error (frameEncodingError "ConnectionId invalid length")

def decodeStatelessResetToken : Decoder StatelessResetToken := fun rest =>
  if size : (rest.take kStatelessResetTokenLength).length = kStatelessResetTokenLength then
    .ok (⟨rest.take kStatelessResetTokenLength,size⟩,rest.drop kStatelessResetTokenLength)
  else .error underflow

def decodeNewConnectionIdFrame : Decoder QuicFrame := do
  let sequenceNumber ← integer "Bad sequence"
  let retirePriorTo ← integer "Bad retire prior to"
  let connId ← decodeConnectionId
  let statelessResetToken ← decodeStatelessResetToken
  return .simple (.newConnectionId ⟨sequenceNumber,retirePriorTo,connId,statelessResetToken⟩)

def decodeRetireConnectionIdFrame : Decoder QuicFrame := do
  return .simple (.retireConnectionId (← integer "Bad sequence num"))

def decodePathChallengeFrame : Decoder QuicFrame := do
  return .simple (.pathChallenge (← word 8 "Not enough input bytes to read path challenge frame."))

def decodePathResponseFrame : Decoder QuicFrame := do
  return .simple (.pathResponse (← word 8 "Not enough input bytes to read path response frame."))

def decodeReasonPhrase : Decoder Bytes := do
  let reasonPhraseLength ← integer "Bad reason phrase length"
  if reasonPhraseLength > kMaxReasonPhraseLength then
    throw (frameEncodingError "Bad reason phrase length")
  takeExactly underflow reasonPhraseLength

/-- The type of the frame that caused the close takes one byte. -/
def decodeConnectionCloseFrame : Decoder QuicFrame := do
  let errorCode ← integer "Failed to parse error code."
  let frameTypeField ← sizedInteger "Bad connection close triggering frame type value"
  if frameTypeField.2 ≠ 1 then
    throw (frameEncodingError "Bad connection close triggering frame type value")
  let reasonPhrase ← decodeReasonPhrase
  return .connectionClose ⟨.transport (toErrorCode errorCode),reasonPhrase,frameTypeField.1⟩

def decodeApplicationClose : Decoder QuicFrame := do
  let errorCode ← integer "Failed to parse error code."
  let reasonPhrase ← decodeReasonPhrase
  return .connectionClose ⟨.application (toErrorCode errorCode),reasonPhrase,0⟩

def decodeDatagramFrame (hasLen : Bool) : Decoder QuicFrame := fun rest =>
  if hasLen then do
    let (length,data) ← integer "Invalid datagram len" rest
    let (data,rest) ← takeExactly (frameEncodingError "Invalid datagram frame") length data
    return (.datagram length data,rest)
  else .ok (.datagram rest.length rest,[])

/-- A blob shorter than announced is accepted. -/
def decodeKnobFrame : Decoder QuicFrame := do
  let knobSpace ← integer "Bad knob space"
  let knobId ← integer "Bad knob id"
  let knobLen ← integer "Bad knob len"
  fun rest =>
    .ok (.simple (.knob (.make knobSpace knobId [rest.take knobLen])),rest.drop knobLen)

def decodeAckFrequencyFrame : Decoder QuicFrame := do
  let sequenceNumber ← integer "Bad sequence number"
  let packetTolerance ← integer "Bad packet tolerance"
  let updateMaxAckDelay ← integer "Bad update max ack delay"
  let reorderThreshold ← integer "Bad reorder threshold"
  return .simple (.ackFrequency ⟨sequenceNumber,packetTolerance,updateMaxAckDelay,reorderThreshold⟩)

/-- The switch over the frame types; the value of the type carries the bits of a stream frame. -/
def decodeFrame (frameType : FrameType) (header : PacketHeader) (params : CodecParameters) :
    Decoder QuicFrame :=
  match frameType with
  | .padding => decodePaddingFrame
  | .ping => pure .ping
  | .ack => .ack <$> decodeAckFrame header params .ack
  | .ackEcn => .ack <$> decodeAckFrameWithECN header params
  | .rstStream => decodeRstStreamFrame
  | .stopSending => decodeStopSendingFrame
  | .cryptoFrame => decodeCryptoFrame
  | .newToken => decodeNewTokenFrame
  | .stream | .streamFin | .streamLen | .streamLenFin | .streamOff | .streamOffFin
  | .streamOffLen | .streamOffLenFin => decodeStreamFrame ⟨frameType.value⟩ false
  | .groupStream | .groupStreamFin | .groupStreamLen | .groupStreamLenFin | .groupStreamOff
  | .groupStreamOffFin | .groupStreamOffLen | .groupStreamOffLenFin =>
    decodeStreamFrame ⟨frameType.value⟩ true
  | .maxData => decodeMaxDataFrame
  | .maxStreamData => decodeMaxStreamDataFrame
  | .maxStreamsBidi => decodeBiDiMaxStreamsFrame
  | .maxStreamsUni => decodeUniMaxStreamsFrame
  | .dataBlocked => decodeDataBlockedFrame
  | .streamDataBlocked => decodeStreamDataBlockedFrame
  | .streamsBlockedBidi => decodeBiDiStreamsBlockedFrame
  | .streamsBlockedUni => decodeUniStreamsBlockedFrame
  | .newConnectionId => decodeNewConnectionIdFrame
  | .retireConnectionId => decodeRetireConnectionIdFrame
  | .pathChallenge => decodePathChallengeFrame
  | .pathResponse => decodePathResponseFrame
  | .connectionClose => decodeConnectionCloseFrame
  | .connectionCloseAppErr => decodeApplicationClose
  | .handshakeDone => pure (.simple .handshakeDone)
  | .datagram => decodeDatagramFrame false
  | .datagramLen => decodeDatagramFrame true
  | .knob => decodeKnobFrame
  | .ackFrequency => decodeAckFrequencyFrame
  | .immediateAck => pure .immediateAck
  | .ackReceiveTimestamps => .ack <$> decodeAckFrameWithReceivedTimestamps header params

/-- What a decoder throws is reported again with the type of the frame. -/
def parseFrame (header : PacketHeader) (params : CodecParameters) : Decoder QuicFrame := fun queue =>
  match decodeQuicInteger queue with
  | none => .error (.standard "Invalid frame-type field")
  | some ((frameTypeInt,_),rest) =>
    match FrameType.ofValue? frameTypeInt with
    | none => .error (frameEncodingError s!"Frame format invalid, type={frameTypeInt}")
    | some frameType =>
      match decodeFrame frameType header params rest with
      | .ok result => .ok result
      | .error error =>
        let what := error.what
        .error (frameEncodingError s!"Frame format invalid, type={frameTypeInt}, error={what}")

/-- A padding frame after a padding frame is counted in it. -/
def pushFrame (frames : List QuicFrame) (frame : QuicFrame) : List QuicFrame :=
  match frames.getLast?, frame with
  | some (.padding numFrames), .padding _ => frames.dropLast ++ [.padding (numFrames + 1)]
  | _, _ => frames ++ [frame]

/-- Every frame takes at least a byte, so the fuel of one step for each byte is enough. -/
def decodeFrames (header : PacketHeader) (params : CodecParameters) :
    Nat → List QuicFrame → Bytes → Except Error (List QuicFrame)
  | _, frames, [] => .ok frames
  | 0, frames, _ :: _ => .ok frames
  | fuel + 1, frames, byte :: rest => do
    let (frame,queue) ← parseFrame header params (byte :: rest)
    decodeFrames header params fuel (pushFrame frames frame) queue

def decodeRegularPacket (header : PacketHeader) (params : CodecParameters) (packetData : Bytes) :
    Except Error (List QuicFrame) :=
  decodeFrames header params packetData.length [] packetData

end StreamServer.Codec
