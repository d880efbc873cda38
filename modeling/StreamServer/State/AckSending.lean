import StreamServer.Codec.ReceivedPackets

/-! When an endpoint acknowledges what it receives: at once, or after a timeout. A packet that asks
for an acknowledgement at once is not always given one, and the number of packets the peer tolerates
without one is cut to a byte. -/
namespace StreamServer.State
open Protocol Common Codec Api Lib.Transition

def kNonRtxRxPacketsPendingBeforeAck : Nat := 20

/-- The settings of the transport that these functions read. -/
structure AckSettings where
  rxPacketsBeforeAckInitThreshold : UInt64 := 100
  rxPacketsBeforeAckBeforeInit : UInt16 := 10
  rxPacketsBeforeAckAfterInit : UInt16 := 10
  minAckDelay : Option Microseconds := none
  deriving DecidableEq, Repr

structure AckSendState extends TimestampedAckState where
  reorderThreshold : Nat := 0
  tolerance : Option Nat := none
  ackFrequencySequenceNumber : Option Nat := none

/-- The state of a packet number space, and whether the timeout for its acknowledgements is
scheduled. -/
structure AckSending where
  ackState : AckSendState := {}
  scheduleAckTimeout : Bool := false

/-- The variable that holds the threshold is as wide as its first value, a byte. -/
def ackThreshold (settings : AckSettings) (ackState : AckSendState) (pktHasRetransmittableData : Bool) :
    Nat :=
  if pktHasRetransmittableData || ackState.numRxPacketsRecvd != 0 then
    (match ackState.tolerance with
      | some tolerance => tolerance
      | none =>
        if ackState.largestRecvdPacketNum.getD 0 > settings.rxPacketsBeforeAckInitThreshold.toNat then
          settings.rxPacketsBeforeAckAfterInit.toNat
        else settings.rxPacketsBeforeAckBeforeInit.toNat) % 2^8
  else kNonRtxRxPacketsPendingBeforeAck

/-- What is known of a received packet when all of its frames are processed. -/
structure RecvPacket where
  distanceFromExpectedPacketNum : Nat
  pktHasRetransmittableData : Bool
  pktHasCryptoData : Bool
  deriving DecidableEq, Repr

/-- The counter of packets that elicit an acknowledgement is a byte wide too. -/
def acksImmediately (nodeType : QuicNodeType) (settings : AckSettings) (initPktNumSpace : Bool)
    (ackState : AckSendState) (packet : RecvPacket) : Bool :=
  let thresh := ackThreshold settings ackState packet.pktHasRetransmittableData
  if packet.pktHasRetransmittableData then
    let skipCryptoAck := nodeType == .server && initPktNumSpace
    packet.pktHasCryptoData && !skipCryptoAck ||
      packet.distanceFromExpectedPacketNum > ackState.reorderThreshold ||
      (ackState.numRxPacketsRecvd + 1) % 2^8 + ackState.numNonRxPacketsRecvd ≥ thresh
  else ackState.numNonRxPacketsRecvd + 1 + ackState.numRxPacketsRecvd ≥ thresh

def AckSending.resetCounters (sending : AckSending) : AckSending :=
  {sending with ackState := {sending.ackState with numRxPacketsRecvd := 0, numNonRxPacketsRecvd := 0}}

/-- The packet is counted, and the timeout is scheduled unless an acknowledgement is due anyway. -/
def AckSending.count (sending : AckSending) (pktHasRetransmittableData : Bool) : AckSending :=
  let ackState := sending.ackState
  if pktHasRetransmittableData then
    {ackState := {ackState with numRxPacketsRecvd := (ackState.numRxPacketsRecvd + 1) % 2^8}
     scheduleAckTimeout := sending.scheduleAckTimeout || !ackState.needsToSendAckImmediately}
  else {sending with ackState :=
    {ackState with numNonRxPacketsRecvd := ackState.numNonRxPacketsRecvd + 1}}

def updateAckSendStateOnRecvPacket (nodeType : QuicNodeType) (settings : AckSettings)
    (initPktNumSpace : Bool) (sending : AckSending) (packet : RecvPacket) : AckSending :=
  if acksImmediately nodeType settings initPktNumSpace sending.ackState packet then
    AckSending.resetCounters
      {ackState := {sending.ackState with needsToSendAckImmediately := true}
       scheduleAckTimeout := false}
  else
    let counted := sending.count packet.pktHasRetransmittableData
    if counted.ackState.needsToSendAckImmediately then counted.resetCounters else counted

def updateAckStateOnAckTimeout (sending : AckSending) : AckSending :=
  AckSending.resetCounters
    {ackState := {sending.ackState with needsToSendAckImmediately := true}
     scheduleAckTimeout := false}

def AckSending.sentAcks (sending : AckSending) (largestAckScheduled : PacketNum) : AckSending :=
  AckSending.resetCounters
    {ackState := {sending.ackState with
       needsToSendAckImmediately := false
       largestAckScheduled := some largestAckScheduled}
     scheduleAckTimeout := false}

/-- An ACK_FREQUENCY frame counts only if it is newer than the last one. The new delay before an
acknowledgement is not kept here. -/
def AckSending.receiveAckFrequency (settings : AckSettings) (sending : AckSending)
    (frame : AckFrequencyFrame) : Except Error AckSending :=
  if settings.minAckDelay.isNone then
    .error (.transport .protocolViolation
      "Received ACK_FREQUENCY frame without announcing min_ack_delay")
  else if sending.ackState.ackFrequencySequenceNumber.all (frame.sequenceNumber > ·) then
    .ok {sending with ackState := {sending.ackState with
      ackFrequencySequenceNumber := some frame.sequenceNumber
      tolerance := some frame.packetTolerance
      reorderThreshold := frame.reorderThreshold}}
  else .ok sending

/-- What happens to the acknowledgements of one packet number space. -/
inductive AckAction where
  | receive (packetNum : PacketNum) (receivedTime : TimePoint)
      (pktHasRetransmittableData pktHasCryptoData : Bool)
  /-- An ACK frame with the uppermost blocks: one, and as many more as there is room for. -/
  | sendAck (more : Nat)
  /-- An ACK frame sent earlier is acknowledged. -/
  | acked (frame : WriteAckFrame)
  | ackFrequency (frame : AckFrequencyFrame)
  | immediateAck
  | ackTimeout
  /-- The other spaces share the flag for the timeout. -/
  | elsewhere (scheduleAckTimeout : Bool)

/-- An endpoint's acknowledgements, with the packets since the last ACK frame (whether each asks for
an acknowledgement), the numbers received, and those that asked for an acknowledgement at once and
are in no ACK frame yet. -/
structure AckRun where
  sending : AckSending := {}
  since : List Bool := []
  received : List PacketNum := []
  demanded : List PacketNum := []

namespace AckRun

def ackState (run : AckRun) : AckSendState := run.sending.ackState

/-- The blocks of an ACK frame, from the largest number down. -/
def ackBlocks (run : AckRun) (more : Nat) : List Interval :=
  run.ackState.acks.intervals.reverse.take (more + 1)

def Covers (blocks : List Interval) (packetNum : PacketNum) : Prop :=
  ∃ block ∈ blocks, block.start ≤ packetNum ∧ packetNum ≤ block.stop

instance (blocks : List Interval) (packetNum : PacketNum) : Decidable (Covers blocks packetNum) :=
  inferInstanceAs (Decidable (∃ block ∈ blocks, _))

variable (nodeType : QuicNodeType) (settings : AckSettings) (initPktNumSpace : Bool)

/-- All frames of a packet are processed. Its number is in the set to acknowledge by then. -/
def processed (run : AckRun) (ackState : AckSendState) (packetNum : PacketNum) (packet : RecvPacket) :
    AckRun where
  sending := updateAckSendStateOnRecvPacket nodeType settings initPktNumSpace
    {run.sending with ackState := ackState} packet
  since := packet.pktHasRetransmittableData :: run.since
  received := packetNum :: run.received
  demanded :=
    if acksImmediately nodeType settings initPktNumSpace ackState packet ∧
        packet.pktHasRetransmittableData ∧ packetNum ∉ run.received then
      packetNum :: run.demanded
    else run.demanded

def receive (run : AckRun) (packetNum : PacketNum) (receivedTime : TimePoint)
    (pktHasRetransmittableData pktHasCryptoData : Bool) : Except Error AckRun := do
  let (ackState,distance) ← updateLargestReceivedPacketNum run.ackState.toTimestampedAckState packetNum
    receivedTime
  return run.processed nodeType settings initPktNumSpace
    {run.ackState with toTimestampedAckState := ackState} packetNum
    ⟨distance,pktHasRetransmittableData,pktHasCryptoData⟩

def sendAck (run : AckRun) (more : Nat) : Except Error AckRun :=
  match AckScheduler.largestAckToSend run.ackState.toAckState with
  | none => .ok run
  | some largest => .ok {run with
      sending := run.sending.sentAcks largest
      since := []
      demanded := run.demanded.filter (¬Covers (run.ackBlocks more) ·)}

def step (run : AckRun) : AckAction → Except Error AckRun
  | .receive packetNum receivedTime pktHasRetransmittableData pktHasCryptoData =>
    run.receive nodeType settings initPktNumSpace packetNum receivedTime pktHasRetransmittableData
      pktHasCryptoData
  | .sendAck more => run.sendAck more
  | .acked frame => .ok {run with sending := {run.sending with ackState := {run.ackState with
      toAckState := commonAckVisitorForAckFrame run.ackState.toAckState frame}}}
  | .ackFrequency frame => do
    let sending ← run.sending.receiveAckFrequency settings frame
    return {run with sending := sending}
  | .immediateAck => .ok {run with sending := {run.sending with ackState := {run.ackState with
      needsToSendAckImmediately := true}}}
  | .ackTimeout => .ok {run with sending := updateAckStateOnAckTimeout run.sending}
  | .elsewhere scheduleAckTimeout => .ok {run with sending := {run.sending with
      scheduleAckTimeout := scheduleAckTimeout}}

end AckRun

section Receiving

variable {nodeType : QuicNodeType} {settings : AckSettings} {initPktNumSpace : Bool}
  {sending : AckSending} {packet : RecvPacket}

private theorem ackThreshold_lt (ackState : AckSendState) (pktHasRetransmittableData : Bool) :
    ackThreshold settings ackState pktHasRetransmittableData < 2^8 := by
  unfold ackThreshold
  split
  · exact Nat.mod_lt _ (by decide)
  · decide

private theorem needs_recv :
    (updateAckSendStateOnRecvPacket nodeType settings initPktNumSpace sending
        packet).ackState.needsToSendAckImmediately =
      (acksImmediately nodeType settings initPktNumSpace sending.ackState packet ||
        sending.ackState.needsToSendAckImmediately) := by
  unfold updateAckSendStateOnRecvPacket AckSending.count
  cases acksImmediately nodeType settings initPktNumSpace sending.ackState packet with
  | true => rfl
  | false =>
    cases packet.pktHasRetransmittableData <;>
      cases needs : sending.ackState.needsToSendAckImmediately <;>
      simp [AckSending.resetCounters,needs]

private theorem counted_recv
    (later : acksImmediately nodeType settings initPktNumSpace sending.ackState packet = false)
    (idle : sending.ackState.needsToSendAckImmediately = false) :
    updateAckSendStateOnRecvPacket nodeType settings initPktNumSpace sending packet =
      sending.count packet.pktHasRetransmittableData := by
  unfold updateAckSendStateOnRecvPacket
  rw [later]
  cases rx : packet.pktHasRetransmittableData <;> simp [AckSending.count,idle]

/-- While no acknowledgement is due the counters count the packets since the last one. They are too
few for a counter to wrap. -/
def Counted (ackState : AckSendState) (since : List Bool) : Prop :=
  ackState.needsToSendAckImmediately = false →
    ackState.numRxPacketsRecvd = since.count true ∧
      ackState.numNonRxPacketsRecvd = since.count false ∧ since.length < 2^8 - 1

variable {since : List Bool}

/-- With the counters right, a packet that is not out of place is acknowledged at once when there are
enough packets since the last acknowledgement. -/
private theorem acksImmediately_iff (counted : Counted sending.ackState since)
    (idle : sending.ackState.needsToSendAckImmediately = false) :
    acksImmediately nodeType settings initPktNumSpace sending.ackState packet = true ↔
      (packet.pktHasRetransmittableData = true ∧
        (packet.pktHasCryptoData = true ∧ ¬(nodeType = .server ∧ initPktNumSpace = true) ∨
          packet.distanceFromExpectedPacketNum > sending.ackState.reorderThreshold)) ∨
      ackThreshold settings sending.ackState packet.pktHasRetransmittableData ≤ since.length + 1 := by
  obtain ⟨eliciting,others,few⟩ := counted idle
  have total := (List.count_true_add_count_false since).symm
  unfold acksImmediately
  rw [eliciting,others]
  cases packet.pktHasRetransmittableData with
  | true =>
    have wraps : (since.count true + 1) % 256 = since.count true + 1 := Nat.mod_eq_of_lt (by omega)
    have sum : since.count true + 1 + since.count false = since.length + 1 := by omega
    simp [wraps,sum,imp_iff_not_or]
  | false =>
    have sum : since.count false + 1 + since.count true = since.length + 1 := by omega
    simp [sum]

private theorem Counted.recv (counted : Counted sending.ackState since) :
    Counted (updateAckSendStateOnRecvPacket nodeType settings initPktNumSpace sending packet).ackState
      (packet.pktHasRetransmittableData :: since) := by
  intro idle
  rw [needs_recv,Bool.or_eq_false_iff] at idle
  obtain ⟨later,idle⟩ := idle
  have few : since.length + 1 <
      ackThreshold settings sending.ackState packet.pktHasRetransmittableData := by
    by_contra enough
    rw [(acksImmediately_iff counted idle).mpr (.inr (Nat.le_of_not_lt enough))] at later
    cases later
  have limit := @ackThreshold_lt settings sending.ackState packet.pktHasRetransmittableData
  obtain ⟨eliciting,others,-⟩ := counted idle
  have total := (List.count_true_add_count_false since).symm
  rw [counted_recv later idle]
  unfold AckSending.count
  cases packet.pktHasRetransmittableData with
  | true =>
    have wraps : (since.count true + 1) % 256 = since.count true + 1 := Nat.mod_eq_of_lt (by omega)
    refine ⟨?_,?_,?_⟩
    · simp [eliciting,wraps]
    · simp [others]
    · rw [List.length_cons]
      omega
  | false =>
    refine ⟨?_,?_,?_⟩
    · simp [eliciting]
    · simp [others]
    · rw [List.length_cons]
      omega

end Receiving

namespace AckRun

variable {nodeType : QuicNodeType} {settings : AckSettings} {initPktNumSpace : Bool} {run next : AckRun}

private theorem receive_ok {packetNum : PacketNum} {time : TimePoint} {rx crypto : Bool}
    (received : run.receive nodeType settings initPktNumSpace packetNum time rx crypto = .ok next) :
    ∃ ackState distance,
      next = run.processed nodeType settings initPktNumSpace ackState packetNum
        ⟨distance,rx,crypto⟩ ∧
      (∀ n, n ∈ ackState.acks ↔ n = packetNum ∨ n ∈ run.ackState.acks) ∧
      ackState.largestAckScheduled = run.ackState.largestAckScheduled ∧
      (∀ since, Counted run.ackState since → Counted ackState since) := by
  obtain ⟨⟨updated,distance⟩,found,same⟩ := bind_ok.mp received
  cases same
  refine ⟨_,distance,rfl,?_⟩
  obtain ⟨acks,inserted,done⟩ := bind_ok.mp found
  cases done
  refine ⟨fun n => ?_,rfl,fun _ counted => counted⟩
  rw [IntervalSet.mem_insertRange inserted n]
  constructor
  · rintro (here | before)
    · exact .inl (Nat.le_antisymm here.2 here.1)
    · exact .inr before
  · rintro (rfl | before)
    · exact .inl ⟨Nat.le_refl _,Nat.le_refl _⟩
    · exact .inr before

private theorem commonAckVisitorForAckFrame_acks (ackState : State.AckState) (frame : WriteAckFrame) :
    ∃ acks, commonAckVisitorForAckFrame ackState frame = {ackState with acks := acks} := by
  unfold commonAckVisitorForAckFrame
  dsimp only
  split
  · exact ⟨_,rfl⟩
  · split
    · exact ⟨_,rfl⟩
    · exact ⟨_,rfl⟩

private theorem counted_step (run : AckRun) (action : AckAction) (next : AckRun)
    (counted : Counted run.ackState run.since)
    (stepped : run.step nodeType settings initPktNumSpace action = .ok next) :
    Counted next.ackState next.since := by
  cases action with
  | receive packetNum time rx crypto =>
    obtain ⟨ackState,distance,rfl,-,-,keeps⟩ := receive_ok stepped
    exact Counted.recv (keeps _ counted)
  | sendAck more =>
    change run.sendAck more = .ok next at stepped
    unfold sendAck at stepped
    split at stepped
    · cases stepped
      exact counted
    · cases stepped
      exact fun _ => ⟨rfl,rfl,Nat.zero_lt_succ _⟩
  | acked frame =>
    cases stepped
    obtain ⟨acks,same⟩ := commonAckVisitorForAckFrame_acks run.ackState.toAckState frame
    rw [same]
    exact counted
  | ackFrequency frame =>
    obtain ⟨sending,received,same⟩ := bind_ok.mp stepped
    cases same
    unfold AckSending.receiveAckFrequency at received
    split at received
    · cases received
    · split at received
      · cases received
        exact counted
      · cases received
        exact counted
  | immediateAck | ackTimeout =>
    cases stepped
    exact fun idle => by cases idle
  | elsewhere scheduleAckTimeout =>
    cases stepped
    exact counted

/-- A packet tolerance of the peer is honoured: while no acknowledgement is due, a packet that comes
in order and without crypto data makes one due exactly if it is the last that the peer tolerates
without one, and schedules the timeout otherwise. Packets that do not ask for an acknowledgement
count once another has asked for one. -/
def Honoured (nodeType : QuicNodeType) (settings : AckSettings) (initPktNumSpace : Bool)
    (tolerance : Nat) (run : AckRun) : Prop :=
  run.ackState.needsToSendAckImmediately = false → ∀ rx : Bool, rx = true ∨ true ∈ run.since →
    let next := updateAckSendStateOnRecvPacket nodeType settings initPktNumSpace run.sending ⟨0,rx,false⟩
    (next.ackState.needsToSendAckImmediately = true ↔ tolerance ≤ run.since.length + 1) ∧
      (rx = true → next.ackState.needsToSendAckImmediately = false → next.scheduleAckTimeout = true)

private theorem ackThreshold_tolerance {ackState : AckSendState} {since : List Bool} {tolerance : Nat}
    {rx : Bool} (tolerates : ackState.tolerance = some tolerance)
    (eliciting : ackState.numRxPacketsRecvd = since.count true) (asked : rx = true ∨ true ∈ since) :
    ackThreshold settings ackState rx = tolerance % 2^8 := by
  have counts : (rx || ackState.numRxPacketsRecvd != 0) = true := by
    rcases asked with rfl | earlier
    · rfl
    · have some : since.count true ≠ 0 := fun none => List.count_eq_zero.mp none earlier
      rw [eliciting,bne_iff_ne.mpr some,Bool.or_true]
  unfold ackThreshold
  rw [if_pos counts,tolerates]

/-- In every state that is reached, a tolerance is honoured exactly if it fits in a byte or there are
still fewer packets than its lowest byte says. -/
theorem ack_tolerance_honoured (nodeType : QuicNodeType) (settings : AckSettings)
    (initPktNumSpace : Bool) {actions : List AckAction} {reached : AckRun} {tolerance : Nat}
    (ran : Lib.Transition.run (step nodeType settings initPktNumSpace) {} actions = .ok reached)
    (tolerates : reached.ackState.tolerance = some tolerance) :
    Honoured nodeType settings initPktNumSpace tolerance reached ↔
      (reached.ackState.needsToSendAckImmediately = false →
        tolerance < 2^8 ∨ reached.since.length + 1 < tolerance % 2^8) := by
  have fresh : Counted ({} : AckRun).ackState [] := fun _ => ⟨rfl,rfl,Nat.zero_lt_succ _⟩
  have counted : Counted reached.ackState reached.since := run_preserves counted_step fresh ran
  unfold Honoured
  refine imp_congr_right fun idle => ?_
  obtain ⟨eliciting,-,few⟩ := counted idle
  have due : ∀ rx : Bool, rx = true ∨ true ∈ reached.since →
      ((updateAckSendStateOnRecvPacket nodeType settings initPktNumSpace reached.sending
          ⟨0,rx,false⟩).ackState.needsToSendAckImmediately = true ↔
        tolerance % 2^8 ≤ reached.since.length + 1) := by
    intro rx asked
    have threshold : ackThreshold settings reached.sending.ackState rx = tolerance % 2^8 :=
      ackThreshold_tolerance tolerates eliciting asked
    rw [needs_recv,show reached.sending.ackState.needsToSendAckImmediately = false from idle,
      Bool.or_false,acksImmediately_iff counted idle,threshold]
    simp
  constructor
  · intro honoured
    obtain ⟨exactly,-⟩ := honoured true (.inl rfl)
    have same := (due true (.inl rfl)).symm.trans exactly
    omega
  · intro small rx asked
    refine ⟨(due rx asked).trans ?_,?_⟩
    · omega
    · rintro rfl waits
      rw [needs_recv,Bool.or_eq_false_iff] at waits
      rw [counted_recv waits.1 idle]
      simp [AckSending.count,show reached.sending.ackState.needsToSendAckImmediately = false from idle]

/-- The peer tolerates two packets, and one is received. -/
theorem ack_tolerance_honoured_two : ∃ reached,
    Lib.Transition.run (step .client {minAckDelay := some 1000} false) {}
        [.ackFrequency ⟨0,2,0,0⟩,.receive 0 0 true false] = .ok reached ∧
      reached.since.length = 1 ∧
      Honoured .client {minAckDelay := some 1000} false 2 reached := by
  have runs : ∃ reached, Lib.Transition.run (step .client {minAckDelay := some 1000} false) {}
      [.ackFrequency ⟨0,2,0,0⟩,.receive 0 0 true false] = .ok reached ∧
        reached.since.length = 1 ∧ reached.ackState.tolerance = some 2 := ⟨_,rfl,rfl,rfl⟩
  obtain ⟨reached,ran,one,tolerates⟩ := runs
  refine ⟨reached,ran,one,?_⟩
  exact (ack_tolerance_honoured _ _ _ ran tolerates).mpr fun _ => .inl (by decide)

/-- The peer tolerates 256 packets. The first one is acknowledged at once. -/
theorem wide_tolerance_ignored : ∃ reached,
    Lib.Transition.run (step .client {minAckDelay := some 1000} false) {} [.ackFrequency ⟨0,256,0,0⟩] =
        .ok reached ∧
      reached.ackState.tolerance = some 256 ∧
      ¬Honoured .client {minAckDelay := some 1000} false 256 reached := by
  refine ⟨_,rfl,rfl,fun honoured => ?_⟩
  obtain ⟨exactly,-⟩ := honoured rfl true (.inl rfl)
  exact absurd (exactly.mp rfl) (by decide)

/-- A packet that asks for an acknowledgement at once gets it: acknowledgements are scheduled until
an ACK frame has its number. -/
def Pending (run : AckRun) : Prop :=
  run.demanded ≠ [] → AckScheduler.hasAcksToSchedule run.ackState.toAckState = true

def AboveScheduled (run : AckRun) (packetNum : PacketNum) : Prop :=
  ∀ scheduled ∈ run.ackState.largestAckScheduled, scheduled < packetNum

/-- A packet that asks for an acknowledgement at once, for the first time. -/
def Demands (nodeType : QuicNodeType) (settings : AckSettings) (initPktNumSpace : Bool) (run : AckRun)
    (action : AckAction) (packetNum : PacketNum) : Prop :=
  ∃ next, run.step nodeType settings initPktNumSpace action = .ok next ∧
    next.demanded = packetNum :: run.demanded

/-- A packet that asks for an acknowledgement at once is above the numbers of the last ACK frame, or
some other number is; an ACK frame has all numbers that asked for it; and when an ACK frame is
acknowledged, some number above the last ACK frame stays. -/
def Scheduled (nodeType : QuicNodeType) (settings : AckSettings) (initPktNumSpace : Bool) (run : AckRun)
    (action : AckAction) : Prop :=
  match action with
  | .receive packetNum _ _ _ =>
    Demands nodeType settings initPktNumSpace run action packetNum → AboveScheduled run packetNum ∨
      ∃ n ∈ run.ackState.acks, AboveScheduled run n
  | .sendAck more => ∀ packetNum ∈ run.demanded, Covers (run.ackBlocks more) packetNum
  | .acked frame => run.demanded ≠ [] → ∃ n ∈ run.ackState.acks, AboveScheduled run n ∧ ¬Settles frame n
  | _ => True

private theorem le_of_getLast? {intervals : List Interval} (separated : intervals.Pairwise Separated)
    {last interval : Interval} (final : intervals.getLast? = some last) (inside : interval ∈ intervals) :
    interval.stop ≤ last.stop := by
  obtain ⟨front,rfl⟩ := List.getLast?_eq_some_iff.mp final
  rcases List.mem_append.mp inside with before | here
  · have apart := (List.pairwise_append.mp separated).2.2 interval before last List.mem_cons_self
    have ordered := last.ordered
    unfold Separated at apart
    omega
  · rw [List.mem_singleton.mp here]

theorem hasAcksToSchedule_iff (ackState : State.AckState) :
    AckScheduler.hasAcksToSchedule ackState = true ↔
      ∃ n ∈ ackState.acks, ∀ scheduled ∈ ackState.largestAckScheduled, scheduled < n := by
  unfold AckScheduler.hasAcksToSchedule AckScheduler.largestAckToSend
  cases final : ackState.acks.intervals.getLast? with
  | none =>
    rw [List.getLast?_eq_none_iff] at final
    simp [IntervalSet.mem_def,final]
  | some last =>
    have member := List.mem_of_getLast? final
    have inside : last.stop ∈ ackState.acks :=
      IntervalSet.mem_def.mpr ⟨last,member,last.ordered,Nat.le_refl _⟩
    cases ackState.largestAckScheduled with
    | none => simpa using ⟨last.stop,inside⟩
    | some scheduled =>
      simp only [Option.map_some,Option.mem_some_iff,forall_eq',decide_eq_true_eq]
      constructor
      · intro above
        exact ⟨last.stop,inside,above⟩
      · rintro ⟨n,there,above⟩
        obtain ⟨interval,among,-,below⟩ := IntervalSet.mem_def.mp there
        have largest := le_of_getLast? ackState.acks.separated final among
        exact Nat.lt_of_lt_of_le above (Nat.le_trans below largest)

private theorem pending_receive {packetNum : PacketNum} {time : TimePoint} {rx crypto : Bool}
    (pending : Pending run)
    (stepped : run.step nodeType settings initPktNumSpace (.receive packetNum time rx crypto) = .ok next) :
    Pending next ↔
      Scheduled nodeType settings initPktNumSpace run (.receive packetNum time rx crypto) := by
  obtain ⟨ackState,distance,shape,acks,scheduled,-⟩ := receive_ok stepped
  have reached : next.ackState.acks = ackState.acks ∧
      next.ackState.largestAckScheduled = ackState.largestAckScheduled := by
    rw [shape]
    unfold processed updateAckSendStateOnRecvPacket AckSending.count
    dsimp only
    split
    · exact ⟨rfl,rfl⟩
    · split <;> split <;> exact ⟨rfl,rfl⟩
  have due : AckScheduler.hasAcksToSchedule next.ackState.toAckState = true ↔
      AboveScheduled run packetNum ∨ ∃ n ∈ run.ackState.acks, AboveScheduled run n := by
    rw [hasAcksToSchedule_iff,reached.1,reached.2,scheduled]
    simp only [acks,or_and_right,exists_or,exists_eq_left]
    exact Iff.rfl
  have demanded : next.demanded = packetNum :: run.demanded ∨ next.demanded = run.demanded := by
    rw [shape]
    exact ite_eq_or_eq _ _ _
  rcases demanded with added | same
  · have demands : Demands nodeType settings initPktNumSpace run (.receive packetNum time rx crypto)
        packetNum := ⟨next,stepped,added⟩
    have asked : next.demanded ≠ [] := by
      rw [added]
      exact List.cons_ne_nil _ _
    exact (imp_iff_right asked).trans (due.trans (imp_iff_right demands).symm)
  · refine iff_of_true ?_ ?_
    · intro asked
      rw [same] at asked
      exact due.mpr (.inr ((hasAcksToSchedule_iff _).mp (pending asked)))
    · rintro ⟨other,again,added⟩
      rw [stepped] at again
      cases again
      rw [same] at added
      exact absurd added.symm (List.cons_ne_self _ _)

private theorem pending_sendAck {more : Nat} (pending : Pending run)
    (stepped : run.step nodeType settings initPktNumSpace (.sendAck more) = .ok next) :
    Pending next ↔ Scheduled nodeType settings initPktNumSpace run (.sendAck more) := by
  change run.sendAck more = .ok next at stepped
  unfold sendAck at stepped
  split at stepped
  next none =>
    cases stepped
    have idle : AckScheduler.hasAcksToSchedule run.ackState.toAckState = false := by
      unfold AckScheduler.hasAcksToSchedule
      rw [none]
    have satisfied : run.demanded = [] := by
      by_contra asked
      rw [pending asked] at idle
      cases idle
    refine iff_of_true pending fun packetNum asked => ?_
    rw [satisfied] at asked
    exact absurd asked List.not_mem_nil
  next largest final =>
    cases stepped
    obtain ⟨last,uppermost,rfl⟩ := Option.map_eq_some_iff.mp final
    have sent : ¬AckScheduler.hasAcksToSchedule
        (run.sending.sentAcks last.stop).ackState.toAckState = true := by
      rw [hasAcksToSchedule_iff]
      rintro ⟨n,there,above⟩
      obtain ⟨interval,among,-,below⟩ := IntervalSet.mem_def.mp there
      have largest := le_of_getLast? run.ackState.acks.separated uppermost among
      exact absurd (above last.stop rfl) (Nat.not_lt.mpr (Nat.le_trans below largest))
    calc (run.demanded.filter (¬Covers (run.ackBlocks more) ·) ≠ [] → _)
        _ ↔ run.demanded.filter (¬Covers (run.ackBlocks more) ·) = [] := by
          exact (imp_iff_not sent).trans not_not
        _ ↔ ∀ packetNum ∈ run.demanded, Covers (run.ackBlocks more) packetNum := by
          simp [List.filter_eq_nil_iff]

private theorem pending_acked {frame : WriteAckFrame}
    (stepped : run.step nodeType settings initPktNumSpace (.acked frame) = .ok next) :
    Pending next ↔ Scheduled nodeType settings initPktNumSpace run (.acked frame) := by
  cases stepped
  refine imp_congr_right fun asked =>
    (hasAcksToSchedule_iff (commonAckVisitorForAckFrame run.ackState.toAckState frame)).trans ?_
  have scheduled : (commonAckVisitorForAckFrame run.ackState.toAckState frame).largestAckScheduled =
      run.ackState.largestAckScheduled := by
    obtain ⟨acks,same⟩ := commonAckVisitorForAckFrame_acks run.ackState.toAckState frame
    rw [same]
  refine exists_congr fun n => ?_
  rw [scheduled]
  calc n ∈ (commonAckVisitorForAckFrame run.ackState.toAckState frame).acks ∧ AboveScheduled run n
      _ ↔ (n ∈ run.ackState.acks ∧ ¬Settles frame n) ∧ AboveScheduled run n := by
        rw [mem_commonAckVisitorForAckFrame]
      _ ↔ n ∈ run.ackState.acks ∧ AboveScheduled run n ∧ ¬Settles frame n := by
        rw [and_assoc,and_comm (a := ¬Settles frame n)]

/-- In every run, acknowledgements are scheduled for all that ask for one at once exactly if every
step leaves such a number above the last ACK frame. -/
theorem demanded_acks_scheduled (nodeType : QuicNodeType) (settings : AckSettings)
    (initPktNumSpace : Bool) (actions : List AckAction) :
    Throughout (step nodeType settings initPktNumSpace) Pending {} actions ↔
      StepsMeet (step nodeType settings initPktNumSpace)
        (Scheduled nodeType settings initPktNumSpace) {} actions := by
  refine @throughout_iff_stepsMeet _ _ _ _ _ _ _ _ (fun _ => True) ?_ trivial
    (fun asked => absurd rfl asked)
  intro run action next _ pending stepped
  refine ⟨fun _ => trivial,?_⟩
  cases action with
  | receive packetNum time rx crypto => exact pending_receive pending stepped
  | sendAck more => exact pending_sendAck pending stepped
  | acked frame => exact pending_acked stepped
  | ackFrequency frame =>
    obtain ⟨sending,received,same⟩ := bind_ok.mp stepped
    cases same
    unfold AckSending.receiveAckFrequency at received
    split at received
    · cases received
    · split at received
      · cases received
        exact iff_of_true pending trivial
      · cases received
        exact iff_of_true pending trivial
  | immediateAck | ackTimeout | elsewhere scheduleAckTimeout =>
    cases stepped
    exact iff_of_true pending trivial

/-- Packet 1 is received and acknowledged before packet 0, which asks for an acknowledgement at once
since it is late. None is scheduled. -/
theorem late_packet_waits : ∃ reached,
    Lib.Transition.run (step .client {} false) {}
        [.receive 1 0 true true,.sendAck 0,.receive 0 1000 true false] = .ok reached ∧
      reached.ackState.needsToSendAckImmediately = true ∧ reached.demanded = [0] ∧
      AckScheduler.hasAcksToSchedule reached.ackState.toAckState = false :=
  ⟨_,rfl,rfl,rfl,rfl⟩

end AckRun

end StreamServer.State
