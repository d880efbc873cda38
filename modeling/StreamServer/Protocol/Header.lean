import StreamServer.Protocol.Frame

/-! Packet headers. A short header can only be built with one of the two key
phases, so its protection type is that phase. -/
namespace StreamServer.Protocol

inductive ProtectionType where
  | initial | handshake | zeroRtt | keyPhaseZero | keyPhaseOne
  deriving DecidableEq, Repr

inductive LongHeaderType where
  | initial | zeroRtt | handshake | retry
  deriving DecidableEq, Repr

structure LongHeader where
  headerType : LongHeaderType
  sourceConnId : ConnectionId
  destinationConnId : ConnectionId
  packetSequenceNum : PacketNum
  version : UInt32
  token : Bytes := []
  deriving DecidableEq, Repr

inductive KeyPhase where
  | zero | one
  deriving DecidableEq, Repr

structure ShortHeader where
  keyPhase : KeyPhase
  connectionId : ConnectionId
  packetSequenceNum : PacketNum
  deriving DecidableEq, Repr

inductive PacketHeader where
  | long (header : LongHeader)
  | short (header : ShortHeader)
  deriving DecidableEq, Repr

def LongHeaderType.packetNumberSpace : LongHeaderType → PacketNumberSpace
  | .initial | .retry => .initial
  | .handshake => .handshake
  | .zeroRtt => .appData

def LongHeaderType.protectionType : LongHeaderType → ProtectionType
  | .initial | .retry => .initial
  | .handshake => .handshake
  | .zeroRtt => .zeroRtt

def kHeaderFormMask : UInt8 := 0x80
def kFixedBitMask : UInt8 := 0x40
def kPacketNumLenMask : UInt8 := 0x03
def LongHeader.kReservedBitsMask : UInt8 := 0x0c
def LongHeader.kPacketTypeMask : UInt8 := 0x30
def LongHeader.kTypeBitsMask : UInt8 := 0x0F
def ShortHeader.kReservedBitsMask : UInt8 := 0x18
def ShortHeader.kKeyPhaseMask : UInt8 := 0x04
def ShortHeader.kTypeBitsMask : UInt8 := 0x1F

def LongHeaderType.bits : LongHeaderType → UInt8
  | .initial => 0x00
  | .zeroRtt => 0x10
  | .handshake => 0x20
  | .retry => 0x30

inductive HeaderForm where
  | long | short
  deriving DecidableEq, Repr

/-- The bits of the first byte that header protection may change. -/
def HeaderForm.typeBitsMask : HeaderForm → UInt8
  | .long => LongHeader.kTypeBitsMask
  | .short => ShortHeader.kTypeBitsMask

def getHeaderForm (headerValue : UInt8) : HeaderForm :=
  if headerValue &&& kHeaderFormMask ≠ 0 then .long else .short

namespace PacketHeader

def form : PacketHeader → HeaderForm
  | long _ => .long
  | short _ => .short

def getPacketSequenceNum : PacketHeader → PacketNum
  | long header => header.packetSequenceNum
  | short header => header.packetSequenceNum

def getPacketNumberSpace : PacketHeader → PacketNumberSpace
  | long header => header.headerType.packetNumberSpace
  | short _ => .appData

def getProtectionType : PacketHeader → ProtectionType
  | long header => header.headerType.protectionType
  | short header => match header.keyPhase with
    | .zero => .keyPhaseZero
    | .one => .keyPhaseOne

end PacketHeader

def protectionTypeToEncryptionLevel : ProtectionType → EncryptionLevel
  | .initial => .initial
  | .handshake => .handshake
  | .zeroRtt => .earlyData
  | .keyPhaseZero | .keyPhaseOne => .appData

end StreamServer.Protocol
