import StreamServer.Codec.PacketNum
import StreamServer.Codec.QuicInteger
import StreamServer.Lib.Transition
import StreamServer.State.ConnectionState

/-! The packet builders, over chained buffers or in one buffer: they encode the header,
collect the body and the record of the frames in it, count the space that is
left, and pad a body too short to be sampled. -/
namespace StreamServer.Codec
open Protocol State Lib.Wire

def kMaxPacketLenSize : Nat := 2
def kMaxPacketNumEncodingSize : Nat := 4
def kSampleSize : Nat := 16

/-- A builder, seen directly or through the wrapper that withholds `diff` bytes of its space. -/
structure PacketBuilder where
  remainingBytes : Nat
  header : PacketHeader
  largestAckedPacketNum : PacketNum
  frames : List QuicWriteFrame := []
  empty : Bool := true
  headerBuf : Bytes := []
  body : Bytes := []
  packetNumberEncoding : Option PacketNumEncodingResult := none
  cipherOverhead : Nat := 0
  diff : Nat := 0
  dataPathType : DataPathType := .chainedMemory
  deriving DecidableEq, Repr

structure BuiltPacket where
  packet : RegularQuicWritePacket
  header : Bytes
  body : Bytes
  deriving DecidableEq, Repr

/-- The first byte, with the length of the packet number in the low bits unless it is a retry. -/
def longHeaderInitialByte (type : LongHeaderType) (packetNumLength : Nat) : UInt8 :=
  let initialByte := kHeaderFormMask ||| kFixedBitMask ||| type.bits
  if type = .retry then initialByte
  else (initialByte &&& ~~~LongHeader.kReservedBitsMask) ||| UInt8.ofNat (packetNumLength - 1)

/-- The bytes of the token: an Initial packet writes its length first, a retry the token alone. -/
def longHeaderToken (longHeader : LongHeader) : Except Error Bytes :=
  match longHeader.headerType with
  | .initial => do
    let _ ← QuicInteger.getSize longHeader.token.length
    return (← QuicInteger.encode longHeader.token.length) ++ longHeader.token
  | .retry => .ok longHeader.token
  | .zeroRtt | .handshake => .ok []

/-- The encoding of the packet number, the bytes of the header up to the length field, and the
space that is left when the length and the packet number are counted too. -/
def encodeLongHeaderHelper (longHeader : LongHeader) (spaceCounter : Nat)
    (largestAckedPacketNum : PacketNum) : Except Error (PacketNumEncodingResult × Bytes × Nat) := do
  let encodedPacketNum ← encodePacketNumber longHeader.packetSequenceNum largestAckedPacketNum
  let token ← longHeaderToken longHeader
  let longHeaderSize := 1 + 4 + 1 + longHeader.sourceConnId.bytes.length + 1 +
    longHeader.destinationConnId.bytes.length + token.length +
    if longHeader.headerType = .retry then 0 else kMaxPacketLenSize + encodedPacketNum.length
  let bytes := longHeaderInitialByte longHeader.headerType encodedPacketNum.length ::
    toBE 4 longHeader.version.toNat ++
    UInt8.ofNat longHeader.destinationConnId.bytes.length :: longHeader.destinationConnId.bytes ++
    UInt8.ofNat longHeader.sourceConnId.bytes.length :: longHeader.sourceConnId.bytes ++ token
  return (encodedPacketNum,bytes,
    if spaceCounter < longHeaderSize then 0 else spaceCounter - longHeaderSize)

def shortHeaderInitialByte (keyPhase : KeyPhase) (packetNumLength : Nat) : UInt8 :=
  let initialByte := (kFixedBitMask ||| UInt8.ofNat (packetNumLength - 1)) &&&
    ~~~ShortHeader.kReservedBitsMask
  match keyPhase with
  | .zero => initialByte
  | .one => initialByte ||| ShortHeader.kKeyPhaseMask

/-- No encoding is returned when the header does not fit. -/
def encodeShortHeaderHelper (shortHeader : ShortHeader) (spaceCounter : Nat)
    (largestAckedPacketNum : PacketNum) :
    Except Error (Option PacketNumEncodingResult × Bytes × Nat) := do
  let packetNumberEncoding ← encodePacketNumber shortHeader.packetSequenceNum largestAckedPacketNum
  let connIdSize := shortHeader.connectionId.bytes.length
  return if spaceCounter < 1 + packetNumberEncoding.length + connIdSize then (none,[],0)
    else (some packetNumberEncoding,
      shortHeaderInitialByte shortHeader.keyPhase packetNumberEncoding.length ::
        shortHeader.connectionId.bytes,
      spaceCounter - 1 - connIdSize)

def optionalEmptyException : Error := .standard "Empty Optional cannot be unwrapped"

namespace PacketBuilder

def make (remainingBytes : Nat) (header : PacketHeader) (largestAckedPacketNum : PacketNum)
    (dataPathType : DataPathType := .chainedMemory) : PacketBuilder :=
  {remainingBytes, header, largestAckedPacketNum, dataPathType}

def remainingSpaceInPkt (builder : PacketBuilder) : Nat :=
  if builder.remainingBytes > builder.diff then builder.remainingBytes - builder.diff else 0

/-- The wrapper around a builder that lets at most `writableBytes` more be written. -/
def limitedTo (builder : PacketBuilder) (writableBytes : Nat) : PacketBuilder :=
  {builder with
    diff := if writableBytes > builder.remainingBytes then 0
      else builder.remainingBytes - writableBytes}

def unwrapped (builder : PacketBuilder) : PacketBuilder := {builder with diff := 0}

def accountForCipherOverhead (builder : PacketBuilder) (overhead : Nat) : PacketBuilder :=
  {builder with cipherOverhead := overhead, remainingBytes := sub32 builder.remainingBytes overhead}

/-- Every way of writing to the body: integers, words, pushed bytes and inserted buffers. -/
def append (builder : PacketBuilder) (bytes : Bytes) : PacketBuilder :=
  {builder with
    body := builder.body ++ bytes
    remainingBytes := sub32 builder.remainingBytes bytes.length}

/-- The first `limit` bytes of a buffer; taking more than there are throws. -/
def insert (builder : PacketBuilder) (buf : Bytes) (limit : Nat) : Except Error PacketBuilder :=
  if buf.length < limit then .error (.standard "underflow")
  else .ok (builder.append (buf.take limit))

def appendFrame (builder : PacketBuilder) (frame : QuicWriteFrame) : PacketBuilder :=
  {builder with empty := false, frames := builder.frames ++ [frame]}

def appendPaddingFrame (builder : PacketBuilder) : PacketBuilder :=
  {builder with
    empty := false
    frames := match builder.frames.getLast? with
      | some (.padding numFrames) => builder.frames.dropLast ++ [.padding (numFrames + 1)]
      | _ => builder.frames ++ [.padding 1]}

def markNonEmpty (builder : PacketBuilder) : PacketBuilder := {builder with empty := false}

def hasFramesPending (builder : PacketBuilder) : Bool := !builder.frames.isEmpty

def encodePacketHeader (builder : PacketBuilder) : Except Error PacketBuilder :=
  match builder.header with
  | .long longHeader => do
    let (encoding,bytes,spaceLeft) ←
      encodeLongHeaderHelper longHeader builder.remainingBytes builder.largestAckedPacketNum
    return {builder with
      packetNumberEncoding := some encoding
      headerBuf := builder.headerBuf ++ bytes
      remainingBytes := spaceLeft}
  | .short shortHeader => do
    let (encoding,bytes,spaceLeft) ←
      encodeShortHeaderHelper shortHeader builder.remainingBytes builder.largestAckedPacketNum
    return match encoding with
      | none => {builder with remainingBytes := spaceLeft}
      | some encoding =>
        {builder with
          packetNumberEncoding := some encoding
          headerBuf := builder.headerBuf ++ bytes ++ toBE encoding.length encoding.result
          remainingBytes := sub32 spaceLeft encoding.length}

/-- The builder in one buffer returns the distance to the body, so that nothing is added to the
header of a retry. -/
def getHeaderBytes (builder : PacketBuilder) : Except Error Nat :=
  match builder.header, builder.packetNumberEncoding with
  | .short _, _ => .ok builder.headerBuf.length
  | .long longHeader, some encoding =>
    if builder.dataPathType = .continuousMemory ∧ longHeader.headerType = .retry then
      .ok builder.headerBuf.length
    else .ok (builder.headerBuf.length + encoding.length + kMaxPacketLenSize)
  | .long _, none => .error optionalEmptyException

/-- Padding that is not recorded, one byte for each that is missing, as long as there is space. -/
def padToMinBodySize : Nat → PacketBuilder → PacketBuilder
  | 0, builder => builder
  | missing + 1, builder =>
    if !builder.empty && builder.remainingBytes > kMaxPacketLenSize then
      padToMinBodySize missing (builder.append [0])
    else builder

/-- The length field of a long header. The builder in one buffer has reserved its bytes. -/
def packetLength (builder : PacketBuilder) (encoding : PacketNumEncodingResult) : Except Error Bytes :=
  let pktLen := encoding.length + builder.body.length + builder.cipherOverhead
  match builder.dataPathType with
  | .chainedMemory => QuicInteger.encode pktLen
  | .continuousMemory => .ok (encodeTwoBytes pktLen)

/-- The header once the length of the body is known: a long header still lacks its length field and
the packet number. -/
def finishHeader (builder : PacketBuilder) (encoding : PacketNumEncodingResult) : Except Error Bytes :=
  match builder.header with
  | .long longHeader =>
    if longHeader.headerType = .retry then .ok builder.headerBuf
    else do
      let pktLen ← builder.packetLength encoding
      return builder.headerBuf ++ pktLen ++ toBE encoding.length encoding.result
  | .short _ => .ok builder.headerBuf

def buildPacket (builder : PacketBuilder) : Except Error BuiltPacket :=
  match builder.packetNumberEncoding with
  | none => .error optionalEmptyException
  | some encoding => do
    let minBodySize := kMaxPacketNumEncodingSize - encoding.length + kSampleSize
    let padded :=
      builder.padToMinBodySize (minBodySize - (builder.body.length + builder.cipherOverhead))
    let header ← padded.finishHeader encoding
    return ⟨⟨builder.header,builder.frames⟩,header,padded.body⟩

end PacketBuilder

end StreamServer.Codec
