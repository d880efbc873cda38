import StreamServer.Congestion.ControllerState
import StreamServer.Protocol.Header
import StreamServer.State.PriorityQueue

/-! The state of a connection as far as the modelled functions read or write it:
streams and their queues, flow control, outstanding packets, acknowledgement and
loss state, pending events and settings. -/
namespace StreamServer.State
open Protocol Common Congestion

structure TransportSettings where
  advertisedInitialConnectionWindowSize : UInt64 := kDefaultConnectionWindowSize
  advertisedInitialBidiLocalStreamWindowSize : UInt64 := kDefaultStreamWindowSize
  advertisedInitialBidiRemoteStreamWindowSize : UInt64 := kDefaultStreamWindowSize
  advertisedInitialUniStreamWindowSize : UInt64 := kDefaultStreamWindowSize
  ackDelayExponent : Nat := 3
  flowControlRttFrequency : Nat := 2
  flowControlWindowFrequency : Nat := 2
  autotuneReceiveConnFlowControl : Bool := false
  initialRtt : Microseconds := 50000
  timeReorderingThreshDividend : Int := 5
  timeReorderingThreshDivisor : Int := 4
  useAdaptiveLossReorderingThresholds : Bool := false
  useAdaptiveLossTimeThresholds : Bool := false
  removeFromLossBufferOnSpurious : Bool := false
  streamFramePerPacket : Bool := false
  paddingModulo : Nat := 32
  datagramFramePerPacket : Bool := true
  advertisedMaxStreamGroups : Nat := 0
  defaultPriority : Priority := kDefaultPriority
  dataPathType : DataPathType := .chainedMemory
  advertisedInitialMaxStreamsBidi : Nat := kDefaultMaxStreamsBidirectional
  advertisedInitialMaxStreamsUni : Nat := kDefaultMaxStreamsUnidirectional
  notifyOnNewStreamsExplicitly : Bool := false
  minCwndInMss : Nat := 2
  initCwndInMss : Nat := 10
  maxCwndInMss : Nat := 2000
  bbrConfig : BbrConfig := {}
  rxPacketsBeforeAckInitThreshold : Nat := 100
  maxNumPTOs : Nat := 7
  earlyRetransmit0Rtt : Bool := false
  enableWritableBytesLimit : Bool := false
  opportunisticAcking : Bool := true
  deriving DecidableEq, Repr

structure ConnectionFlowControlState where
  windowSize : Nat := 0
  advertisedMaxOffset : Nat := 0
  peerAdvertisedMaxOffset : Nat := 0
  sumCurReadOffset : Nat := 0
  sumMaxObservedOffset : Nat := 0
  sumCurWriteOffset : Nat := 0
  sumCurStreamBufferLen : Nat := 0
  peerAdvertisedInitialMaxStreamOffsetBidiLocal : Nat := 0
  peerAdvertisedInitialMaxStreamOffsetBidiRemote : Nat := 0
  peerAdvertisedInitialMaxStreamOffsetUni : Nat := 0
  timeOfLastFlowControlUpdate : Option TimePoint := none
  deriving DecidableEq, Repr

structure PendingEvents where
  resets : AList (fun _ : StreamId => RstStreamFrame) := ∅
  pathChallenge : Option Nat := none
  frames : List QuicSimpleFrame := []
  numProbePackets : PacketNumberSpace → Nat := fun _ => 0
  scheduleAckTimeout : Bool := false
  connWindowUpdate : Bool := false
  setLossDetectionAlarm : Bool := false
  cancelPingTimeout : Bool := false
  closeTransport : Bool := false
  sendPing : Bool := false
  sendDataBlocked : Bool := false
  requestImmediateAck : Bool := false

/-- The ids of one kind of stream: those that are open, the first that was never opened and the
first beyond the limit. -/
structure StreamIdSpace where
  openStreams : Finset StreamId := ∅
  nextAcceptableStreamId : StreamId := 0
  maxStreamId : StreamId := 0

/-- The streams of a connection and the sets of ids the transport keeps over them. Ordered sets
whose order is observed are sorted lists. -/
structure QuicStreamManager where
  streams : AList (fun _ : StreamId => QuicStreamState) := ∅
  windowUpdates : List StreamId := []
  readableStreams : Finset StreamId := ∅
  peekableStreams : Finset StreamId := ∅
  closedStreams : Finset StreamId := ∅
  deliverableStreams : Finset StreamId := ∅
  txStreams : Finset StreamId := ∅
  flowControlUpdated : Finset StreamId := ∅
  blockedStreams : AList (fun _ : StreamId => Nat) := ∅
  writableStreams : Finset StreamId := ∅
  writableDSRStreams : Finset StreamId := ∅
  lossStreams : Finset StreamId := ∅
  lossDSRStreams : Finset StreamId := ∅
  writeQueue : PriorityQueue := {}
  controlWriteQueue : List StreamId := []
  streamIds : StreamKind → StreamIdSpace := fun _ => {}
  nextStreamId : StreamDirectionality → StreamId := fun _ => 0
  nextStreamGroupId : StreamDirectionality → Nat := fun _ => 0
  openLocalStreamGroups : StreamDirectionality → Finset Nat := fun _ => ∅
  newPeerStreams : List StreamId := []
  newGroupedPeerStreams : List StreamId := []
  newPeerStreamGroups : Finset Nat := ∅
  peerStreamGroupsSeen : Finset Nat := ∅
  streamPriorityLevelsNoCtrl : AList (fun _ : StreamId => Nat) := ∅
  numControlStreams : Nat := 0
  isAppIdle : Bool := false
  streamLimitWindowingFraction : Nat := 2
  remoteStreamLimitUpdate : StreamDirectionality → Option Nat := fun _ => none
  maxLocalStreamIdIncreased : StreamDirectionality → Bool := fun _ => false

structure PacketEvent where
  packetNumberSpace : PacketNumberSpace
  packetNumber : PacketNum
  deriving DecidableEq, Repr

structure RegularQuicWritePacket where
  header : PacketHeader
  frames : List QuicWriteFrame := []
  deriving DecidableEq, Repr

structure LastAckedPacketInfo where
  sentTime : TimePoint
  ackTime : TimePoint
  adjustedAckTime : TimePoint
  totalBytesSent : Nat
  totalBytesAcked : Nat
  deriving DecidableEq, Repr

structure OutstandingPacketMetadata where
  time : TimePoint
  encodedSize : Nat
  encodedBodySize : Nat
  isHandshake : Bool
  totalBytesSent : Nat
  totalBodyBytesSent : Nat
  packetsInflight : Nat
  totalPacketsSent : Nat
  totalAckElicitingPacketsSent : Nat
  lossTimeoutDividend : Option Int := none
  lossReorderDistance : Option Nat := none
  deriving DecidableEq, Repr

structure OutstandingPacket where
  packet : RegularQuicWritePacket
  metadata : OutstandingPacketMetadata
  lastAckedPacketInfo : Option LastAckedPacketInfo := none
  associatedEvent : Option PacketEvent := none
  isDSRPacket : Bool := false
  nonDsrPacketSequenceNumber : Option Nat := none
  isAppLimited : Bool := false
  declaredLost : Bool := false
  deriving DecidableEq, Repr

def OutstandingPacket.number (packet : OutstandingPacket) : PacketNum :=
  packet.packet.header.getPacketSequenceNum

def OutstandingPacket.space (packet : OutstandingPacket) : PacketNumberSpace :=
  packet.packet.header.getPacketNumberSpace

structure OutstandingsInfo where
  packets : List OutstandingPacket := []
  packetEvents : Finset PacketEvent := ∅
  packetCount : PacketNumberSpace → Nat := fun _ => 0
  clonedPacketCount : PacketNumberSpace → Nat := fun _ => 0
  declaredLostCount : Nat := 0
  dsrCount : Nat := 0
  /-- Ghost: the operands of the subtractions from these counters, the latest first. No modelled
  function reads it. -/
  decrements : List (Nat × Nat) := []

def OutstandingsInfo.numOutstanding (outstandings : OutstandingsInfo) : Nat :=
  lowered outstandings.packets.length outstandings.declaredLostCount

structure AckState where
  acks : IntervalSet := IntervalSet.empty
  largestAckScheduled : Option PacketNum := none
  numNonRxPacketsRecvd : Nat := 0
  numRxPacketsRecvd : Nat := 0
  largestRecvdPacketTime : Option TimePoint := none
  largestRecvdPacketNum : Option PacketNum := none
  largestAckedByPeer : Option PacketNum := none
  largestNonDsrSequenceNumberAckedByPeer : Option Nat := none
  nextPacketNum : PacketNum := 0
  nonDsrPacketSequenceNumber : Nat := 0
  needsToSendAckImmediately : Bool := false

inductive AlarmMethod where
  | earlyRetransmitOrReordering | pto
  deriving DecidableEq, Repr

structure LossState where
  largestSent : Option PacketNum := none
  lossTimes : PacketNumberSpace → Option TimePoint := fun _ => none
  maxAckDelay : Microseconds := 0
  mrtt : Microseconds := 2^63 - 1
  maybeMrttNoAckDelay : Option Microseconds := none
  maybeLrtt : Option Microseconds := none
  maybeLrttAckDelay : Option Microseconds := none
  srtt : Microseconds := 0
  lrtt : Microseconds := 0
  rttvar : Microseconds := 0
  lastAckedPacketSentTime : Option TimePoint := none
  lastAckedTime : Option TimePoint := none
  adjustedLastAckedTime : Option TimePoint := none
  lastRetransmittablePacketSentTime : TimePoint := 0
  maybeLastPacketSentTime : Option TimePoint := none
  totalBytesSent : Nat := 0
  totalBytesRetransmitted : Nat := 0
  totalStreamBytesCloned : Nat := 0
  totalBytesCloned : Nat := 0
  totalBytesAcked : Nat := 0
  totalBytesSentAtLastAck : Nat := 0
  totalBytesAckedAtLastAck : Nat := 0
  totalBodyBytesSent : Nat := 0
  totalBodyBytesAcked : Nat := 0
  totalStreamBytesSent : Nat := 0
  totalNewStreamBytesSent : Nat := 0
  totalPacketsSent : Nat := 0
  totalAckElicitingPacketsSent : Nat := 0
  totalPacketsMarkedLost : Nat := 0
  totalPacketsMarkedLostByTimeout : Nat := 0
  totalPacketsMarkedLostByReorderingThreshold : Nat := 0
  totalPacketsSpuriouslyMarkedLost : Nat := 0
  inflightBytes : Nat := 0
  reorderingThreshold : Nat := 3
  ptoCount : Nat := 0
  rtxCount : Nat := 0
  timeoutBasedRtxCount : Nat := 0
  totalPTOCount : Nat := 0
  currentAlarmMethod : AlarmMethod := .earlyRetransmitOrReordering
  attemptedEarlyRetransmit0Rtt : Bool := false

/-- Limits what is sent to a peer address that is not validated. -/
structure PendingPathRateLimiter where
  maxCredit : Nat
  credit : Nat
  lastChecked : Option TimePoint := none

/-- What happens to a packet that is sent: it is acknowledged, with or without its frames being
processed, also after it was declared lost, or it is declared lost. -/
inductive PacketFate where
  | sent
  | acked (processAllFrames : Bool)
  | ackedAfterLoss
  | lost (processed : Bool)
  deriving DecidableEq, Repr

structure PacketRecord where
  packet : OutstandingPacket
  fate : PacketFate
  deriving DecidableEq, Repr

structure QuicCryptoState where
  initialStream : QuicCryptoStream := {}
  handshakeStream : QuicCryptoStream := {}
  oneRttStream : QuicCryptoStream := {}

structure QuicConnectionState where
  nodeType : QuicNodeType
  transportSettings : TransportSettings := {}
  streamManager : QuicStreamManager := {}
  cryptoState : QuicCryptoState := {}
  flowControlState : ConnectionFlowControlState := {}
  pendingEvents : PendingEvents := {}
  outstandings : OutstandingsInfo := {}
  ackStates : PacketNumberSpace → AckState := fun _ => {}
  lossState : LossState := {}
  nextScheduledControlStream : StreamId := 0
  datagramWriteBuffer : List Bytes := []
  /-- The stream groups whose policy disables retransmission. -/
  retransmissionDisabledGroups : Finset Nat := ∅
  outstandingPathValidation : Option Nat := none
  peerAckDelayExponent : Nat := 3
  udpSendPacketLen : Nat := 1232
  version : Option Nat := none
  congestionController : Option CongestionController := none
  /-- Of the ciphers only whether they are there is kept. -/
  initialWriteCipher : Bool := false
  handshakeWriteCipher : Bool := false
  zeroRttWriteCipher : Bool := false
  oneRttWriteCipher : Bool := false
  writableBytesLimit : Option Nat := none
  pathValidationLimiter : Option PendingPathRateLimiter := none
  peerMinAckDelay : Option Microseconds := none
  nextAckFrequencyFrameSequenceNumber : Nat := 0
  numProbesWritableBytesLimited : Nat := 0
  /-- Ghost: the operands of the unsigned subtractions of the audited functions, in the order
  they were computed. No modelled function reads it. -/
  subtractions : List (Nat × Nat) := []
  /-- Ghost: the operands of the subtractions from the bytes in flight, the latest first. No
  modelled function reads it. -/
  inflightSubtractions : List (Nat × Nat) := []
  /-- Ghost: what has happened to the packets, the latest first. No modelled function reads it. -/
  history : List PacketRecord := []

end StreamServer.State
