import StreamServer.State.AckHandlers

/-! The books of a connection: what it keeps about the packets it has sent. -/
namespace StreamServer.State
open Protocol Congestion Lib.Outcome

structure Books where
  outstandings : OutstandingsInfo
  history : List PacketRecord
  inflightBytes : Nat
  inflightSubtractions : List (Nat × Nat)
  congestionController : Option CongestionController
  nextPacketNum : PacketNumberSpace → PacketNum
  lossTimes : PacketNumberSpace → Option TimePoint
  setLossDetectionAlarm : Bool
  currentAlarmMethod : AlarmMethod
  oneRttWriteCipher : Bool

def QuicConnectionState.books (conn : QuicConnectionState) : Books :=
  {outstandings := conn.outstandings
   history := conn.history
   inflightBytes := conn.lossState.inflightBytes
   inflightSubtractions := conn.inflightSubtractions
   congestionController := conn.congestionController
   nextPacketNum := fun space => (conn.ackStates space).nextPacketNum
   lossTimes := conn.lossState.lossTimes
   setLossDetectionAlarm := conn.pendingEvents.setLossDetectionAlarm
   currentAlarmMethod := conn.lossState.currentAlarmMethod
   oneRttWriteCipher := conn.oneRttWriteCipher}

/-- What else is kept about the packets: the numbers of those whose data is here, the largest number
the peer has acknowledged, and how far behind it a packet may be. -/
structure Numbers where
  nonDsrPacketSequenceNumber : PacketNumberSpace → Nat
  largestAckedByPeer : PacketNumberSpace → Option PacketNum
  reorderingThreshold : Nat

def QuicConnectionState.numbers (conn : QuicConnectionState) : Numbers :=
  {nonDsrPacketSequenceNumber := fun space => (conn.ackStates space).nonDsrPacketSequenceNumber
   largestAckedByPeer := fun space => (conn.ackStates space).largestAckedByPeer
   reorderingThreshold := conn.lossState.reorderingThreshold}

def QuicConnectionState.records (conn : QuicConnectionState) : Books × Numbers := (conn.books,conn.numbers)

/-- The books of the result are those of the connection, and no error tells of too few bytes in flight. -/
abbrev KeepsBooks (conn : QuicConnectionState) : Except Error QuicConnectionState → Prop :=
  Yields Tolerable fun next => next.books = conn.books

abbrev KeepsRecords (conn : QuicConnectionState) : Except Error QuicConnectionState → Prop :=
  Yields Tolerable fun next => next.records = conn.records

theorem updateAckState_books (conn : QuicConnectionState) (space : PacketNumberSpace)
    (update : AckState → AckState)
    (keeps : ∀ state, (update state).nextPacketNum = state.nextPacketNum) :
    (updateAckState conn space update).books = conn.books := by
  have numbers : (fun other => ((updateAckState conn space update).ackStates other).nextPacketNum) =
      fun other => (conn.ackStates other).nextPacketNum := by
    funext other
    by_cases same : other = space
    · subst same
      simp only [updateAckState,Function.update_self]
      exact keeps _
    · simp only [updateAckState,Function.update_of_ne same]
  simp only [QuicConnectionState.books,numbers]
  rfl

theorem updateAckState_records (conn : QuicConnectionState) (space : PacketNumberSpace)
    (update : AckState → AckState)
    (keeps : ∀ state, (update state).nextPacketNum = state.nextPacketNum ∧
      (update state).nonDsrPacketSequenceNumber = state.nonDsrPacketSequenceNumber ∧
      (update state).largestAckedByPeer = state.largestAckedByPeer) :
    (updateAckState conn space update).records = conn.records := by
  have books := updateAckState_books conn space update fun state => (keeps state).1
  have kept : ∀ other, ((updateAckState conn space update).ackStates other).nonDsrPacketSequenceNumber =
        (conn.ackStates other).nonDsrPacketSequenceNumber ∧
      ((updateAckState conn space update).ackStates other).largestAckedByPeer =
        (conn.ackStates other).largestAckedByPeer := by
    intro other
    by_cases same : other = space
    · subst same
      simp only [updateAckState,Function.update_self]
      exact (keeps _).2
    · simp only [updateAckState,Function.update_of_ne same,and_self]
  have numbers : (updateAckState conn space update).numbers = conn.numbers := by
    simp only [QuicConnectionState.numbers,fun other => (kept other).1,fun other => (kept other).2]
    rfl
  exact Prod.ext books numbers

end StreamServer.State
