import StreamServer.Codec.HeaderProtection
import StreamServer.Codec.Parse

/-! The receiving side of packet protection: headers are parsed from the protected
bytes, the mask is taken off with a sample behind the longest packet number, and
the body is opened and decoded. -/
namespace StreamServer.Codec
open Protocol State Lib.Wire

def kMinInitialDestinationConnIdLength : Nat := 8
def kRetryIntegrityTagLen : Nat := 16
/-- In nanoseconds. -/
def kTimeToRetainZeroRttKeys : Int := 20 * 1000 * 1000 * 1000

abbrev HeaderReader (α : Type) := Reader TransportErrorCode α

def headerInteger : HeaderReader Nat := fun cursor =>
  match decodeQuicInteger cursor with
  | some ((value,_),rest) => .ok (value,rest)
  | none => .error .frameEncodingError

/-- Fails unless the cursor can advance this far. -/
def canAdvance (count : Nat) : HeaderReader Unit := fun cursor =>
  if cursor.length < count then .error .frameEncodingError else .ok ((),cursor)

def readConnectionId (size : Nat) : HeaderReader ConnectionId := fun cursor =>
  if bounded : size ≤ kMaxConnectionIdSize then
    if cursor.length < size then .error .frameEncodingError
    else .ok (⟨cursor.take size,Nat.le_trans (List.length_take_le size cursor) bounded⟩,
      cursor.drop size)
  else .error .protocolViolation

structure LongHeaderInvariant where
  version : UInt32
  srcConnId : ConnectionId
  dstConnId : ConnectionId
  deriving DecidableEq, Repr

def parseLongHeaderInvariant : HeaderReader LongHeaderInvariant := do
  let version ← takeExactly .frameEncodingError 4
  let destConnIdLen ← takeExactly .frameEncodingError 1
  let destConnId ← readConnectionId (ofBE destConnIdLen)
  let srcConnIdLen ← takeExactly .frameEncodingError 1
  let srcConnId ← readConnectionId (ofBE srcConnIdLen)
  return ⟨UInt32.ofNat (ofBE version),srcConnId,destConnId⟩

def parseLongHeaderType (initialByte : UInt8) : LongHeaderType :=
  let bits := initialByte &&& LongHeader.kPacketTypeMask
  if bits = LongHeaderType.initial.bits then .initial
  else if bits = LongHeaderType.zeroRtt.bits then .zeroRtt
  else if bits = LongHeaderType.handshake.bits then .handshake
  else .retry

structure ParsedLongHeader where
  header : LongHeader
  packetLength : Nat
  deriving DecidableEq, Repr

def LongHeaderInvariant.toHeader (invariant : LongHeaderInvariant) (type : LongHeaderType)
    (token : Bytes) : LongHeader :=
  ⟨type,invariant.srcConnId,invariant.dstConnId,0,invariant.version,token⟩

/-- Only an Initial packet carries a token. -/
def parseToken (type : LongHeaderType) : HeaderReader Bytes :=
  if type = .initial then do
    let tokenLen ← headerInteger
    takeExactly .frameEncodingError tokenLen
  else return []

def parseRetryVariants (invariant : LongHeaderInvariant) : HeaderReader ParsedLongHeader :=
  fun cursor =>
    if cursor.length ≤ kRetryIntegrityTagLen then .error .frameEncodingError
    else
      let tokenLen := cursor.length - kRetryIntegrityTagLen
      .ok (⟨invariant.toHeader .retry (cursor.take tokenLen),0⟩,cursor.drop tokenLen)

/-- The length of the packet number is read from the byte as received, still masked. -/
def parseLongHeaderVariants (type : LongHeaderType) (initialByte : UInt8)
    (invariant : LongHeaderInvariant) (nodeType : QuicNodeType) : HeaderReader ParsedLongHeader :=
  if type = .retry then parseRetryVariants invariant
  else if type = .initial ∧ nodeType = .server ∧
      invariant.dstConnId.bytes.length < kMinInitialDestinationConnIdLength then
    throw .frameEncodingError
  else do
    let token ← parseToken type
    let pktLen ← headerInteger
    canAdvance pktLen
    canAdvance (parsePacketNumberLength initialByte)
    return ⟨invariant.toHeader type token,pktLen⟩

def tryParseLongHeader (nodeType : QuicNodeType) : HeaderReader ParsedLongHeader := fun cursor =>
  match cursor with
  | [] => .error .protocolViolation
  | initialByte :: rest => do
    let (invariant,rest) ← parseLongHeaderInvariant rest
    if invariant.version = 0 then .error .protocolViolation
    else parseLongHeaderVariants (parseLongHeaderType initialByte) initialByte invariant nodeType rest

def parseShortHeader (initialByte : UInt8) (dstConnIdSize : Nat) : HeaderReader ShortHeader :=
  if getHeaderForm initialByte ≠ .short then throw .frameEncodingError
  else if initialByte &&& kFixedBitMask = 0 then throw .frameEncodingError
  else if initialByte &&& ShortHeader.kReservedBitsMask ≠ 0 then throw .protocolViolation
  else do
    let destinationConnId ← readConnectionId dstConnIdSize
    return ⟨if initialByte &&& ShortHeader.kKeyPhaseMask ≠ 0 then .one else .zero,destinationConnId,0⟩

def parsePacketNumber (initialByte : UInt8) (packetNumberRange : Bytes)
    (expectedNextPacketNum : PacketNum) : PacketNum × Nat :=
  let packetNumLen := parsePacketNumberLength initialByte
  (decodePacketNumber (ofBE (packetNumberRange.take packetNumLen)) packetNumLen
    expectedNextPacketNum,packetNumLen)

inductive CodecResult where
  | regularPacket (header : PacketHeader) (frames : List QuicFrame)
  | retry (header : LongHeader) (integrityTag : Bytes) (initialByte : UInt8)
  | cipherUnavailable (packet : Bytes) (protectionType : ProtectionType)
  | statelessReset (token : StatelessResetToken)
  | nothing
  deriving DecidableEq, Repr

structure QuicReadCodec where
  nodeType : QuicNodeType
  params : CodecParameters := {}
  initialReadCipher : Option Aead := none
  oneRttReadCipher : Option Aead := none
  zeroRttReadCipher : Option Aead := none
  handshakeReadCipher : Option Aead := none
  initialHeaderCipher : Option PacketNumberCipher := none
  oneRttHeaderCipher : Option PacketNumberCipher := none
  zeroRttHeaderCipher : Option PacketNumberCipher := none
  handshakeHeaderCipher : Option PacketNumberCipher := none
  statelessResetToken : Option StatelessResetToken := none
  handshakeDoneTime : Option TimePoint := none

abbrev AckStates := PacketNumberSpace → AckState

def AckStates.expectedNextPacketNum (ackStates : AckStates) (space : PacketNumberSpace) : PacketNum :=
  match (ackStates space).largestRecvdPacketNum with
  | some largestRecvdPacketNum => 1 + largestRecvdPacketNum
  | none => 0

def readSampleOffset (packetNumberOffset : Nat) : Nat := packetNumberOffset + kMaxPacketNumEncodingSize

namespace QuicReadCodec

/-- The ciphers for a long header: none if packets of this kind are dropped at once. -/
def longHeaderCiphers (codec : QuicReadCodec) (now : TimePoint) :
    LongHeaderType → Option (Option PacketNumberCipher × Option Aead)
  | .initial | .retry =>
    if codec.initialHeaderCipher.isNone then none
    else some (codec.initialHeaderCipher,codec.initialReadCipher)
  | .handshake => some (codec.handshakeHeaderCipher,codec.handshakeReadCipher)
  | .zeroRtt =>
    match codec.handshakeDoneTime with
    | some handshakeDoneTime =>
      if now - handshakeDoneTime > kTimeToRetainZeroRttKeys then none
      else some (codec.zeroRttHeaderCipher,codec.zeroRttReadCipher)
    | none => some (codec.zeroRttHeaderCipher,codec.zeroRttReadCipher)

end QuicReadCodec

/-- Takes off the mask, opens the body behind the header and decodes it. The header without its
packet number is parsed from the first byte once it is unmasked. -/
def openPacket (params : CodecParameters) (headerCipher : PacketNumberCipher) (cipher : Aead)
    (form : HeaderForm) (packetNumberOffset : Nat) (expectedNextPacketNum : PacketNum)
    (parseHeader : UInt8 → PacketNum → Option PacketHeader) (data : Bytes) : Except Error CodecResult :=
  match data with
  | [] => .ok .nothing
  | initialByte :: rest =>
    let sample := (data.drop (readSampleOffset packetNumberOffset)).take kSampleSize
    let (unmasked,packetNumberRange) := headerCipher.decipherHeader sample form initialByte
      ((data.drop packetNumberOffset).take kMaxPacketNumEncodingSize)
    let (packetNum,packetNumLen) := parsePacketNumber unmasked packetNumberRange expectedNextPacketNum
    match parseHeader unmasked packetNum with
    | none => .ok .nothing
    | some header =>
      let headerData :=
        unmasked :: rest.take (packetNumberOffset - 1) ++ packetNumberRange.take packetNumLen
      let encryptedData := data.drop (packetNumberOffset + packetNumLen)
      match cipher.tryDecrypt encryptedData headerData packetNum with
      | none => .ok .nothing
      | some decrypted => do
        let frames ← decodeRegularPacket header params decrypted
        return .regularPacket header frames

namespace QuicReadCodec

def openLongHeaderPacket (codec : QuicReadCodec) (now : TimePoint) (ackStates : AckStates)
    (longHeader : LongHeader) (packetNumberOffset : Nat) (currentPacketData : Bytes) :
    Except Error CodecResult :=
  match codec.longHeaderCiphers now longHeader.headerType with
  | none => .ok .nothing
  | some (some headerCipher,some cipher) =>
    openPacket codec.params headerCipher cipher .long packetNumberOffset
      (ackStates.expectedNextPacketNum longHeader.headerType.packetNumberSpace)
      (fun _ packetNum => some (.long {longHeader with packetSequenceNum := packetNum}))
      currentPacketData
  | some _ => .ok (.cipherUnavailable currentPacketData longHeader.headerType.protectionType)

/-- The result and what is left of the queue, also when decoding throws. -/
def parseLongHeaderPacket (codec : QuicReadCodec) (now : TimePoint) (ackStates : AckStates)
    (initialByte : UInt8) (queue : Bytes) : Except Error CodecResult × Bytes :=
  match tryParseLongHeader codec.nodeType queue with
  | .error _ => (.ok .nothing,[])
  | .ok (parsed,rest) =>
    let longHeader := parsed.header
    if longHeader.headerType = .retry then
      (.ok (.retry longHeader (rest.take kRetryIntegrityTagLen) initialByte),[])
    else
      let packetNumberOffset := queue.length - rest.length
      let currentPacketLen := packetNumberOffset + parsed.packetLength
      if queue.length < currentPacketLen then (.ok .nothing,[])
      else
        let currentPacketData := queue.take currentPacketLen
        let queue := queue.drop currentPacketLen
        if currentPacketData.length < readSampleOffset packetNumberOffset + kSampleSize then
          (.ok .nothing,[])
        else (codec.openLongHeaderPacket now ackStates longHeader packetNumberOffset currentPacketData,
          queue)

def tryParseShortHeaderPacket (codec : QuicReadCodec) (headerCipher : PacketNumberCipher)
    (cipher : Aead) (ackStates : AckStates) (dstConnIdSize : Nat) (data : Bytes) :
    Except Error CodecResult :=
  let packetNumberOffset := 1 + dstConnIdSize
  if data.length < readSampleOffset packetNumberOffset + kSampleSize then .ok .nothing
  else
    openPacket codec.params headerCipher cipher .short packetNumberOffset
      (ackStates.expectedNextPacketNum .appData)
      (fun initialByte packetNum =>
        match parseShortHeader initialByte dstConnIdSize data.tail with
        | .error _ => none
        | .ok (shortHeader,_) =>
          -- The second key phase is not supported.
          if shortHeader.keyPhase = .one then none
          else some (.short {shortHeader with packetSequenceNum := packetNum}))
      data

/-- The token at the end of a datagram, if it is the one the client was given. -/
def matchedResetToken (codec : QuicReadCodec) (initialByte : UInt8) (data : Bytes) :
    Option StatelessResetToken :=
  match codec.statelessResetToken with
  | some token =>
    if codec.nodeType = .client ∧ initialByte &&& kFixedBitMask ≠ 0 ∧
        data.length > kStatelessResetTokenLength ∧
        data.drop (data.length - kStatelessResetTokenLength) = token.bytes then some token
    else none
  | none => none

def parsePacket (codec : QuicReadCodec) (now : TimePoint) (ackStates : AckStates)
    (dstConnIdSize : Nat) (queue : Bytes) : Except Error CodecResult × Bytes :=
  match queue with
  | [] => (.ok .nothing,[])
  | initialByte :: _ =>
    match getHeaderForm initialByte with
    | .long => codec.parseLongHeaderPacket now ackStates initialByte queue
    | .short =>
      match codec.oneRttHeaderCipher, codec.oneRttReadCipher with
      | some headerCipher, some cipher =>
        let result := do
          let packet ←
            codec.tryParseShortHeaderPacket headerCipher cipher ackStates dstConnIdSize queue
          return match codec.matchedResetToken initialByte queue, packet with
            | some token, .nothing => .statelessReset token
            | _, packet => packet
        (result,[])
      | _, _ => (.ok (.cipherUnavailable queue .keyPhaseZero),[])

end QuicReadCodec

end StreamServer.Codec
