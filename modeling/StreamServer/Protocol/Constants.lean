import Mathlib

/-! Scalars, enumerations and errors shared by the transport. 64-bit unsigned
values are natural numbers; the wrapping operations are written where the
source relies on, or could suffer from, wrap-around. -/
namespace StreamServer.Protocol

abbrev Bytes := List UInt8
abbrev StreamId := Nat
abbrev PacketNum := Nat
/-- Nanoseconds of the steady clock. -/
abbrev TimePoint := Int
abbrev Microseconds := Int

def maxUint64 : Nat := 2^64 - 1
def wrap64 (n : Nat) : Nat := n % 2^64
def add64 (a b : Nat) : Nat := wrap64 (a + b)
def mul64 (a b : Nat) : Nat := wrap64 (a * b)
def sub64 (a b : Nat) : Nat := wrap64 (a + (2^64 - b))

def sub32 (a b : Nat) : Nat := (a + (2^32 - b % 2^32)) % 2^32

/-- The subtraction from a 64-bit counter: below zero it wraps. -/
def lowered (count amount : Nat) : Nat :=
  if amount ≤ count then count - amount else sub64 count amount

theorem lowered_of_le {count amount : Nat} (enough : amount ≤ count) :
    lowered count amount = count - amount :=
  if_pos enough

theorem sub64_of_le {a b : Nat} (ordered : b ≤ a) (bound : a < 2^64) : sub64 a b = a - b := by
  have same : a + (2^64 - b) = (a - b) + 2^64 := by omega
  have small : a - b < 2^64 := by omega
  simp only [sub64,wrap64,same,Nat.add_mod_right,Nat.mod_eq_of_lt small]

theorem add64_of_lt {a b : Nat} (bound : a + b < 2^64) : add64 a b = a + b :=
  Nat.mod_eq_of_lt bound

theorem sub32_of_le {a b : Nat} (ordered : b ≤ a) (bound : a < 2^32) : sub32 a b = a - b := by
  have small : b % 2^32 = b := Nat.mod_eq_of_lt (by omega)
  have same : a + (2^32 - b) = (a - b) + 2^32 := by omega
  rw [sub32,small,same,Nat.add_mod_right,Nat.mod_eq_of_lt (by omega)]

inductive TransportErrorCode where
  | noError | internalError | serverBusy | flowControlError | streamLimitError | streamStateError
  | finalSizeError | frameEncodingError | transportParameterError | protocolViolation
  | invalidMigration | cryptoError | cryptoErrorMax | invalidToken
  deriving DecidableEq, Repr

inductive LocalErrorCode where
  | internalError | codecError | packetNumberEncoding | streamLimitExceeded
  | creatingExistingStream | cwndOverflow | inflightBytesOverflow | lostBytesOverflow
  | connectionAbandoned
  deriving DecidableEq, Repr

/-- The variables that are lowered with a check for underflow. -/
inductive CheckedVariable where
  | inflightBytes | cwndBytes
  deriving DecidableEq, Repr

/-- The exceptions the modelled functions throw. Those of an underflow all carry one code and one
text; the variable they were raised for is kept beside. -/
inductive Error where
  | transport (code : TransportErrorCode) (message : String)
  | internal (code : LocalErrorCode) (message : String)
  | standard (message : String)
  | underflow (lowered : CheckedVariable)
  deriving DecidableEq, Repr

def Error.what : Error → String
  | .transport _ message | .internal _ message | .standard message => message
  | .underflow _ => "Underflow bytes in flight"

inductive QuicNodeType where
  | client | server
  deriving DecidableEq, Repr

inductive DataPathType where
  | chainedMemory | continuousMemory
  deriving DecidableEq, Repr

inductive PacketNumberSpace where
  | initial | handshake | appData
  deriving DecidableEq, Repr

inductive EncryptionLevel where
  | initial | handshake | earlyData | appData
  deriving DecidableEq, Repr

def isServerStream (stream : StreamId) : Bool := stream % 2 == 1
def isClientStream (stream : StreamId) : Bool := stream % 2 == 0
def isUnidirectionalStream (stream : StreamId) : Bool := stream / 2 % 2 == 1

def isLocalStream (nodeType : QuicNodeType) (stream : StreamId) : Bool :=
  (nodeType == .client && isClientStream stream) || (nodeType == .server && isServerStream stream)

def isRemoteStream (nodeType : QuicNodeType) (stream : StreamId) : Bool :=
  (nodeType == .client && isServerStream stream) || (nodeType == .server && isClientStream stream)

inductive StreamInitiator where
  | localNode | remoteNode
  deriving DecidableEq, Repr

inductive StreamDirectionality where
  | unidirectional | bidirectional
  deriving DecidableEq, Repr

structure StreamKind where
  initiator : StreamInitiator
  directionality : StreamDirectionality
  deriving DecidableEq, Repr

def getStreamDirectionality (stream : StreamId) : StreamDirectionality :=
  if isUnidirectionalStream stream then .unidirectional else .bidirectional

def getStreamInitiator (nodeType : QuicNodeType) (stream : StreamId) : StreamInitiator :=
  if isLocalStream nodeType stream then .localNode else .remoteNode

def getStreamKind (nodeType : QuicNodeType) (stream : StreamId) : StreamKind :=
  ⟨getStreamInitiator nodeType stream,getStreamDirectionality stream⟩

def kStreamIncrement : Nat := 4
def kStreamGroupIncrement : Nat := 4
def kMaxStreamGroupId : Nat := 128 * kStreamGroupIncrement
def kMaxMaxStreams : Nat := 2^60
def kDefaultMaxStreamsBidirectional : Nat := 2048
def kDefaultMaxStreamsUnidirectional : Nat := 2048

def kDefaultConnectionWindowSize : UInt64 := 1024 * 1024
def kDefaultStreamWindowSize : UInt64 := (64 + 1) * 1024

end StreamServer.Protocol
