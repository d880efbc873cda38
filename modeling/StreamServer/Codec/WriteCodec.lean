import StreamServer.Codec.PacketBuilder

/-! The frame writers. Each one works out the size of its frame, writes nothing
when the packet has no room for it, and records what it has written. -/
namespace StreamServer.Codec
open Protocol Common Lib.Wire

/-- A field of a frame: an integer, a byte, a 64-bit word, bytes with the length the writer counts
for them, or the front of a buffer. -/
inductive Field where
  | integer (value : Nat)
  | byte (value : Nat)
  | word (value : Nat)
  | bytes (counted : Nat) (data : Bytes)
  | front (limit : Nat) (data : Bytes)
  deriving DecidableEq, Repr

def Field.size : Field → Except Error Nat
  | integer value => QuicInteger.getSize value
  | byte _ => .ok 1
  | word _ => .ok 8
  | bytes counted _ => .ok counted
  | front limit _ => .ok limit

def Field.encode : Field → Except Error Bytes
  | integer value => QuicInteger.encode value
  | byte value => .ok (toBE 1 value)
  | word value => .ok (toBE 8 value)
  | bytes _ data => .ok data
  | front limit data =>
    if data.length < limit then .error (.standard "underflow") else .ok (data.take limit)

def fieldsSize : List Field → Except Error Nat
  | [] => .ok 0
  | field :: rest => do return (← field.size) + (← fieldsSize rest)

def encodeFields : List Field → Except Error Bytes
  | [] => .ok []
  | field :: rest => do return (← field.encode) ++ (← encodeFields rest)

def packetSpaceCheck (limit require : Nat) : Bool := require ≤ limit

/-- The pattern of the writers of control frames: the size that is reported, zero when the frame
does not fit. -/
def writeFields (fields : List Field) (record : PacketBuilder → PacketBuilder)
    (builder : PacketBuilder) : Except Error (Nat × PacketBuilder) := do
  let size ← fieldsSize fields
  if packetSpaceCheck builder.remainingSpaceInPkt size then
    return (size,record (builder.append (← encodeFields fields)))
  else return (0,builder)

def typed (frameType : FrameType) (fields : List Field) : List Field :=
  .integer frameType.value :: fields

def simpleFrameFields : QuicSimpleFrame → List Field
  | .stopSending streamId errorCode =>
    typed .stopSending [.integer streamId,.integer errorCode]
  | .pathChallenge pathData => typed .pathChallenge [.word pathData]
  | .pathResponse pathData => typed .pathResponse [.word pathData]
  | .newConnectionId frame =>
    typed .newConnectionId [.integer frame.sequenceNumber,.integer frame.retirePriorTo,
      .byte frame.connectionId.bytes.length,
      .bytes frame.connectionId.bytes.length frame.connectionId.bytes,
      .bytes frame.token.bytes.length frame.token.bytes]
  | .maxStreams maxStreams isForBidirectional =>
    typed (if isForBidirectional then .maxStreamsBidi else .maxStreamsUni) [.integer maxStreams]
  | .retireConnectionId sequenceNumber => typed .retireConnectionId [.integer sequenceNumber]
  | .handshakeDone => typed .handshakeDone []
  -- The length is that of the first buffer, the whole chain is inserted.
  | .knob frame =>
    typed .knob [.integer frame.knobSpace,.integer frame.id,.integer frame.len,
      .bytes frame.len frame.blob.flatten]
  | .ackFrequency frame =>
    typed .ackFrequency [.integer frame.sequenceNumber,.integer frame.packetTolerance,
      .integer frame.updateMaxAckDelay,.integer frame.reorderThreshold]
  | .newToken token => typed .newToken [.integer token.length,.bytes token.length token]

def writeSimpleFrame (frame : QuicSimpleFrame) (builder : PacketBuilder) :
    Except Error (Nat × PacketBuilder) :=
  writeFields (simpleFrameFields frame) (·.appendFrame (.simple frame)) builder

def connectionCloseFields (frame : ConnectionCloseFrame) : Except Error (List Field) :=
  match frame.errorCode with
  | .transport code =>
    .ok (typed .connectionClose [.integer code,.integer frame.closingFrameType,
      .integer frame.reasonPhrase.length,.bytes frame.reasonPhrase.length frame.reasonPhrase])
  | .application code =>
    .ok (typed .connectionCloseAppErr [.integer code,.integer frame.reasonPhrase.length,
      .bytes frame.reasonPhrase.length frame.reasonPhrase])
  -- The missing application code is read through a null pointer.
  | .localError _ => .error (.standard "null application error code")

def unsupportedFrame : Error :=
  .transport .frameEncodingError "Unknown / unsupported frame type received at writeFrame"

/-- The frame types without a case of their own throw. -/
def writeFrameFields : QuicWriteFrame → Except Error (List Field)
  | .padding _ => .ok (typed .padding [])
  | .rstStream frame =>
    .ok (typed .rstStream [.integer frame.streamId,.integer frame.errorCode,.integer frame.offset])
  | .maxData maximumData => .ok (typed .maxData [.integer maximumData])
  | .maxStreamData streamId maximumData =>
    .ok (typed .maxStreamData [.integer streamId,.integer maximumData])
  | .dataBlocked dataLimit => .ok (typed .dataBlocked [.integer dataLimit])
  | .streamDataBlocked streamId dataLimit =>
    .ok (typed .streamDataBlocked [.integer streamId,.integer dataLimit])
  | .streamsBlocked streamLimit isForBidirectional =>
    .ok (typed (if isForBidirectional then .streamsBlockedBidi else .streamsBlockedUni)
      [.integer streamLimit])
  | .connectionClose frame => connectionCloseFields frame
  | .ping => .ok (typed .ping [])
  | .simple frame => .ok (simpleFrameFields frame)
  | .datagram length data => .ok (typed .datagramLen [.integer length,.front length data])
  | .immediateAck => .ok (typed .immediateAck [])
  | .ack _ | .stream _ | .crypto _ | .noop => .error unsupportedFrame

def recordFrame (frame : QuicWriteFrame) (builder : PacketBuilder) : PacketBuilder :=
  match frame with
  | .padding _ => builder.appendPaddingFrame
  | _ => builder.appendFrame frame

def writeFrame (frame : QuicWriteFrame) (builder : PacketBuilder) :
    Except Error (Nat × PacketBuilder) := do
  writeFields (← writeFrameFields frame) (recordFrame frame) builder

/-- The length field takes one value less in each size than the integer it holds could, so that the
data can still shrink by the bytes of the field. -/
def streamDataLenLen (skip : Bool) (dataLen : Nat) : Except Error Nat :=
  if skip then .ok 0
  else if dataLen ≤ kOneByteLimit - 1 then .ok 1
  else if dataLen ≤ kTwoByteLimit - 2 then .ok 2
  else if dataLen ≤ kFourByteLimit - 4 then .ok 4
  else if dataLen ≤ kEightByteLimit - 8 then .ok 8
  else .error (.internal .internalError "Stream frame length too large.")

/-- The type byte, with the bits for the fields that are present. -/
def streamTypeField (isGroup hasOffset hasLength hasFin : Bool) : StreamTypeField :=
  ⟨(if isGroup then FrameType.groupStream.value else FrameType.stream.value) |||
    (if hasOffset then StreamTypeField.kOffsetBit else 0) |||
    (if hasLength then StreamTypeField.kDataLengthBit else 0) |||
    (if hasFin then StreamTypeField.kFinBit else 0)⟩

def shouldSkipLengthField (space headerSize available : Nat) : Option Bool → Bool
  | some skipLenHint => skipLenHint
  | none => available > 0 && available ≥ sub64 space headerSize

/-- What is left of the data once its length field is reserved, and whether it carries the FIN;
none when there is no room or nothing to write. -/
def fitStreamData (space headerSize writeBufferLen dataLen dataLenLen : Nat) (fin : Bool) :
    Option (Nat × Bool) :=
  if dataLenLen > 0 ∧ dataLen ≠ 0 ∧ headerSize + dataLenLen ≥ space then none
  else
    let fullSize := headerSize + dataLenLen
    let fitted := if dataLenLen > 0 ∧ space < dataLen + fullSize then sub64 space fullSize else dataLen
    let shouldSetFin := fin && fitted == writeBufferLen
    if (fitted = 0 ∧ ¬shouldSetFin) ∨ space < fullSize then none else some (fitted,shouldSetFin)

/-- The accounting of a stream frame: the bytes of its length field, the data it takes and whether
it carries the FIN. -/
def streamFrameLengths (space headerSize writeBufferLen flowControlLen : Nat) (fin : Bool)
    (skipLenHint : Option Bool) : Except Error (Nat × Option (Nat × Bool)) := do
  let available := min writeBufferLen flowControlLen
  let dataLen := min available (sub64 space headerSize)
  let dataLenLen ←
    streamDataLenLen (shouldSkipLengthField space headerSize available skipLenHint) dataLen
  return (dataLenLen,fitStreamData space headerSize writeBufferLen dataLen dataLenLen fin)

/-- An integer that is present only under a condition. -/
def presentIf (condition : Bool) (value : Nat) : Option Nat := if condition then some value else none

def optionalSize : Option Nat → Except Error Nat
  | some value => QuicInteger.getSize value
  | none => .ok 0

/-- The header of a stream frame; an offset of zero is left out. -/
def streamHeaderFields (streamType : StreamTypeField) (id : Nat) (streamGroupId : Option Nat)
    (offset dataLen dataLenLen : Nat) : List Field :=
  .byte streamType.field :: .integer id :: (streamGroupId.toList.map .integer ++
    (presentIf (offset ≠ 0) offset).toList.map .integer ++
    (presentIf (dataLenLen > 0) dataLen).toList.map .integer)

/-- Writes the header once the size of the fields before the length is known. -/
def beginStreamFrame (builder : PacketBuilder) (id offset writeBufferLen flowControlLen : Nat)
    (fin : Bool) (skipLenHint : Option Bool) (streamGroupId : Option Nat) (appendFrame : Bool)
    (headerSize : Nat) : Except Error (Option Nat × PacketBuilder) := do
  let (dataLenLen,fitted) ← streamFrameLengths builder.remainingSpaceInPkt headerSize writeBufferLen
    flowControlLen fin skipLenHint
  match fitted with
  | none => .ok (none,builder)
  | some (dataLen,shouldSetFin) => do
    let streamType := streamTypeField streamGroupId.isSome (offset ≠ 0) (dataLenLen > 0) shouldSetFin
    let bytes ← encodeFields (streamHeaderFields streamType id streamGroupId offset dataLen dataLenLen)
    return (some dataLen,
      if appendFrame then (builder.append bytes).appendFrame
        (.stream ⟨id,offset,dataLen,streamType.hasFin,false,streamGroupId,0⟩)
      else (builder.append bytes).markNonEmpty)

/-- The length of the data that is to follow, none when no frame is begun. -/
def writeStreamFrameHeader (builder : PacketBuilder) (id offset writeBufferLen flowControlLen : Nat)
    (fin : Bool) (skipLenHint : Option Bool) (streamGroupId : Option Nat) (appendFrame : Bool) :
    Except Error (Option Nat × PacketBuilder) :=
  if builder.remainingSpaceInPkt = 0 then .ok (none,builder)
  else if writeBufferLen = 0 && !fin then
    .error (.internal .internalError "No data or fin supplied when writing stream.")
  else do
    let idSize ← QuicInteger.getSize id
    let groupIdSize ← optionalSize streamGroupId
    if builder.remainingSpaceInPkt < 1 + idSize + groupIdSize then .ok (none,builder)
    else do
      let offsetSize ← optionalSize (presentIf (offset ≠ 0) offset)
      beginStreamFrame builder id offset writeBufferLen flowControlLen fin skipLenHint streamGroupId
        appendFrame (1 + idSize + groupIdSize + offsetSize)

def writeStreamFrameData (builder : PacketBuilder) (writeBuffer : Bytes) (dataLen : Nat) :
    Except Error PacketBuilder :=
  if dataLen > 0 then builder.insert writeBuffer dataLen else .ok builder

def kCryptoLengthBytes : Nat := 2

def cryptoFields (offset writableData : Nat) (data : Bytes) : List Field :=
  typed .cryptoFrame [.integer offset,.integer writableData,.front writableData data]

def writeCryptoFrame (offsetIn : Nat) (data : Bytes) (builder : PacketBuilder) :
    Except Error (Option WriteCryptoFrame × PacketBuilder) := do
  let spaceLeftInPkt := builder.remainingSpaceInPkt
  let typeSize ← QuicInteger.getSize FrameType.cryptoFrame.value
  let offsetSize ← QuicInteger.getSize offsetIn
  let cryptoFrameHeaderSize := typeSize + offsetSize + kCryptoLengthBytes
  if spaceLeftInPkt ≤ cryptoFrameHeaderSize then .ok (none,builder)
  else do
    let writableData := min data.length (spaceLeftInPkt - cryptoFrameHeaderSize)
    let lengthSize ← QuicInteger.getSize writableData
    if lengthSize > kCryptoLengthBytes then
      .error (.internal .codecError "Length bytes representation")
    else do
      let bytes ← encodeFields (cryptoFields offsetIn writableData data)
      return (some ⟨offsetIn,writableData⟩,
        (builder.append bytes).appendFrame (.crypto ⟨offsetIn,writableData⟩))

structure WriteAckFrameMetaData where
  acks : IntervalSet
  ackDelay : Microseconds
  ackDelayExponent : Nat

/-- The gap below a block that starts at `currentSeqNum` and the length of the next one. -/
def ackBlockFields (currentSeqNum : Nat) (block : Interval) : List Field :=
  [.integer (sub64 (sub64 currentSeqNum block.stop) 2),.integer (block.stop - block.start)]

/-- The blocks after the largest one, from high to low, that fit the limit. The count of blocks
already taken may need a wider field with the next one. -/
def fillFrameWithAckBlocks (currentSeqNum numAdditionalAckBlocks bytesLimit : Nat) :
    List Interval → Except Error (List Interval)
  | [] => .ok []
  | currBlock :: rest => do
    let blockSize ← fieldsSize (ackBlockFields currentSeqNum currBlock)
    let numAdditionalAckBlocksSize ← getQuicIntegerSizeThrows (numAdditionalAckBlocks + 1)
    let previousNumAckBlocksSize ← getQuicIntegerSizeThrows numAdditionalAckBlocks
    let additionalSize := blockSize + (numAdditionalAckBlocksSize - previousNumAckBlocksSize)
    if bytesLimit < additionalSize then .ok []
    else do
      let more ← fillFrameWithAckBlocks currBlock.start (numAdditionalAckBlocks + 1)
        (bytesLimit - additionalSize) rest
      return currBlock :: more

def ackBlocksFields (currentSeqNum : Nat) : List Interval → List Field
  | [] => []
  | block :: rest => ackBlockFields currentSeqNum block ++ ackBlocksFields block.start rest

def WriteAckFrameMetaData.encodedAckDelay (metaData : WriteAckFrameMetaData) : Nat :=
  (metaData.ackDelay % 2^64).toNat >>> metaData.ackDelayExponent

def ackHeaderFields (metaData : WriteAckFrameMetaData) (largest : Interval) (count : Nat) :
    List Field :=
  typed .ack [.integer largest.stop,.integer metaData.encodedAckDelay,.integer count,
    .integer (largest.stop - largest.start)]

/-- A plain ACK frame. The blocks of the interval set are visited from the last one down. -/
def writeAckFrameToPacketBuilder (metaData : WriteAckFrameMetaData) (builder : PacketBuilder) :
    Except Error (Option WriteAckFrame × PacketBuilder) :=
  match metaData.acks.intervals.reverse with
  | [] => .ok (none,builder)
  | largest :: rest => do
    let spaceLeft := builder.remainingSpaceInPkt
    let headerSize ← fieldsSize (ackHeaderFields metaData largest 0)
    if spaceLeft < headerSize then .ok (none,builder)
    else do
      let additional ← fillFrameWithAckBlocks largest.start 0 (spaceLeft - headerSize) rest
      let bytes ← encodeFields
        (ackHeaderFields metaData largest additional.length ++ ackBlocksFields largest.start additional)
      return (some ⟨largest :: additional,metaData.ackDelay⟩,builder.append bytes)

def writeAckFrame (metaData : WriteAckFrameMetaData) (builder : PacketBuilder) :
    Except Error (Option (Nat × WriteAckFrame) × PacketBuilder) := do
  let (written,next) ← writeAckFrameToPacketBuilder metaData builder
  match written with
  | none => return (none,next)
  | some frame =>
    return (some (builder.remainingSpaceInPkt - next.remainingSpaceInPkt,frame),
      next.appendFrame (.ack frame))

inductive FrameWrite where
  | frame (frame : QuicWriteFrame)
  | simple (frame : QuicSimpleFrame)
  | stream (id offset : Nat) (data : Bytes) (flowControlLen : Nat) (fin : Bool)
      (skipLenHint : Option Bool) (streamGroupId : Option Nat)
  | crypto (offset : Nat) (data : Bytes)
  | ack (metaData : WriteAckFrameMetaData)

/-- The data of a stream frame follows its header, if one was written. -/
def writeStreamFrame (builder : PacketBuilder) (id offset : Nat) (data : Bytes) (flowControlLen : Nat)
    (fin : Bool) (skipLenHint : Option Bool) (streamGroupId : Option Nat) :
    Except Error (Option Nat × PacketBuilder) := do
  let (result,begun) ← writeStreamFrameHeader builder id offset data.length flowControlLen fin
    skipLenHint streamGroupId true
  match result with
  | none => return (none,begun)
  | some dataLen => return (some dataLen,← writeStreamFrameData begun data dataLen)

def FrameWrite.perform (builder : PacketBuilder) : FrameWrite → Except Error PacketBuilder
  | .frame control => Prod.snd <$> writeFrame control builder
  | .simple control => Prod.snd <$> writeSimpleFrame control builder
  | .stream id offset data flowControlLen fin skipLenHint streamGroupId =>
    Prod.snd <$>
      writeStreamFrame builder id offset data flowControlLen fin skipLenHint streamGroupId
  | .crypto offset data => Prod.snd <$> writeCryptoFrame offset data builder
  | .ack metaData => Prod.snd <$> writeAckFrame metaData builder

end StreamServer.Codec
