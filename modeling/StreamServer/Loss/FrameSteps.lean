import StreamServer.Congestion.Aside
import StreamServer.Loss.PacketRuns

/-! What handling packets does to the data the frames are about. Between the calls that concern one
frame, sent, acknowledged or lost, the streams, the pending resets and the limits stay as they are. -/
namespace StreamServer.Loss
open Protocol State Congestion Api Lib.Transition Lib.Outcome

/-- What frames are made of is the same. The controller may have queued more simple frames. -/
structure SameFrameSide (conn next : QuicConnectionState) : Prop where
  streamManager : next.streamManager = conn.streamManager
  cryptoState : next.cryptoState = conn.cryptoState
  flowControlState : next.flowControlState = conn.flowControlState
  resets : next.pendingEvents.resets = conn.pendingEvents.resets
  frames : conn.pendingEvents.frames <+: next.pendingEvents.frames
  groups : next.retransmissionDisabledGroups = conn.retransmissionDisabledGroups

/-- One call that concerns a frame, or a change beside the frames. -/
inductive FrameStep : QuicConnectionState → QuicConnectionState → Prop where
  | aside {conn next : QuicConnectionState} (same : SameFrameSide conn next) : FrameStep conn next
  | sent {packetEvent : Option PacketEvent} {header : PacketHeader} {sentTime : TimePoint}
      {before after : FramesSent} {frame : QuicWriteFrame}
      (done : onFrameSent packetEvent header sentTime before frame = .ok after) :
      FrameStep before.conn after.conn
  | acked {space : PacketNumberSpace} {conn next : QuicConnectionState} {packet : OutstandingPacket}
      {frame : QuicWriteFrame} (done : clientAckVisitor space conn packet frame = .ok next) :
      FrameStep conn next
  | implicitlyAcked {space : PacketNumberSpace} {level : EncryptionLevel}
      {conn next : QuicConnectionState} {packet : OutstandingPacket} {frame : QuicWriteFrame}
      (done : implicitAckVisitor space level conn packet frame = .ok next) : FrameStep conn next
  | unlost {conn next : QuicConnectionState} {frame : QuicWriteFrame}
      (done : unloseFrame conn frame = .ok next) : FrameStep conn next
  | lost (protectionType : ProtectionType) (processed : Bool) (lost : FramesLost)
      (frame : QuicWriteFrame) :
      FrameStep lost.conn (onFrameLost protectionType processed lost frame).conn
  | cleared (conn : QuicConnectionState) (level : EncryptionLevel) :
      FrameStep conn (clearCryptoLossBuffer conn level)

abbrev FrameSteps : QuicConnectionState → QuicConnectionState → Prop :=
  Relation.ReflTransGen FrameStep

variable {conn : QuicConnectionState} {readings : Readings} {ack : AckEvent}
  {result : QuicConnectionState × AckEvent}

theorem SameFrameSide.steps {next : QuicConnectionState} (same : SameFrameSide conn next) :
    FrameSteps conn next := .single (.aside same)

theorem SameFrameSide.of_controller {next : QuicConnectionState} (only : ControllerOnly conn next) :
    SameFrameSide conn next := by
  obtain ⟨_,frames,_,_,_,rfl⟩ := only
  exact ⟨rfl,rfl,rfl,rfl,List.prefix_append _ frames,rfl⟩

theorem updateConnection_frameSteps {next : QuicConnectionState} {packetEvent : Option PacketEvent}
    {packet : RegularQuicWritePacket} {sentTime : TimePoint} {encodedSize encodedBodySize : UInt32}
    {isDSRPacket : Bool}
    (done : updateConnection conn packetEvent packet sentTime encodedSize encodedBodySize
      isDSRPacket = .ok next) : FrameSteps conn next := by
  obtain ⟨sent,frames,onward⟩ := bind_ok.mp done
  have kept : Yields (fun _ => True) (fun sent : FramesSent => FrameSteps conn sent.conn)
      (packet.frames.foldlM (onFrameSent packetEvent packet.header sentTime) {conn := conn}) := by
    refine Yields.foldlM ?_ .refl
    intro state frame _ steps
    refine yields_iff.mpr ⟨fun after written => ?_,fun _ _ => trivial⟩
    exact steps.tail (.sent written)
  have steps := kept.ok frames
  dsimp only at onward
  split at onward
  next =>
    cases onward
    exact steps.tail (.aside ⟨rfl,rfl,rfl,rfl,List.prefix_rfl,rfl⟩)
  next =>
    have reported := SameFrameSide.of_controller ((onPacketSent_within ..).ok onward)
    refine (steps.tail (.aside ?_)).tail (.aside reported)
    exact ⟨rfl,rfl,rfl,rfl,List.prefix_rfl,rfl⟩

theorem clonePacket_frameSteps {next : QuicConnectionState} {index writableBytes cipherOverhead : Nat}
    {packet : SentPacket} {written : Bool}
    (done : clonePacket conn index packet writableBytes cipherOverhead written = .ok next) :
    FrameSteps conn next := by
  obtain same | ⟨event,prepared,prepares,same⟩ := clonePacket_cases
  · cases done.symm.trans same
    exact .refl
  · have tagged : SameFrameSide conn prepared := by
      cases prepares <;> exact ⟨rfl,rfl,rfl,rfl,List.prefix_rfl,rfl⟩
    rw [same] at done
    split at done
    next => exact tagged.steps.trans (updateConnection_frameSteps done)
    next =>
      cases done
      exact tagged.steps

theorem reportAck_only {next : QuicConnectionState} {lossEvent : Option LossEvent}
    (done : reportAck conn readings ack lossEvent = .ok next) : ControllerOnly conn next := by
  unfold reportAck at done
  split at done
  next =>
    cases done
    exact .refl conn
  next =>
    split at done
    next => exact (onPacketAckOrLoss_within ..).ok done
    next =>
      cases done
      exact .refl conn
  next =>
    obtain ⟨_,_,reports⟩ := bind_ok.mp done
    exact (onPacketAckOrLoss_within ..).ok reports

/-- What the calls of acknowledgements and losses keep, but for those about an acknowledged frame. -/
structure FramesKeep (property : QuicConnectionState → Prop) : Prop where
  aside : ∀ conn next, SameFrameSide conn next → property conn → property next
  unlost : ∀ conn frame next, unloseFrame conn frame = .ok next → property conn → property next
  lost : ∀ protectionType processed lost frame, property lost.conn →
    property (onFrameLost protectionType processed lost frame).conn

def AckVisitorKeeps (property : QuicConnectionState → Prop) (ackVisitor : AckVisitor) : Prop :=
  ∀ conn packet frame next, ackVisitor conn packet frame = .ok next → property conn → property next

def LossVisitorKeeps (property : QuicConnectionState → Prop) (lossVisitor : LossVisitor) : Prop :=
  ∀ conn packet processed, property conn → property (lossVisitor conn packet processed)

namespace FramesKeep

variable {property : QuicConnectionState → Prop} {conn next : QuicConnectionState}
  {lossVisitor : LossVisitor} {arguments : AckArguments} {walk : AckWalk} {now : TimePoint}
  {readings : Readings} {ack : AckEvent} {space : PacketNumberSpace} (keeps : FramesKeep property)

include keeps

/-- The fields that frames are made of are those of the connection before. -/
theorem same (holds : property conn)
    (streamManager : next.streamManager = conn.streamManager := by rfl)
    (cryptoState : next.cryptoState = conn.cryptoState := by rfl)
    (flowControlState : next.flowControlState = conn.flowControlState := by rfl)
    (resets : next.pendingEvents.resets = conn.pendingEvents.resets := by rfl)
    (frames : conn.pendingEvents.frames <+: next.pendingEvents.frames := by exact List.prefix_rfl)
    (groups : next.retransmissionDisabledGroups = conn.retransmissionDisabledGroups := by rfl) :
    property next :=
  keeps.aside conn next ⟨streamManager,cryptoState,flowControlState,resets,frames,groups⟩ holds

theorem controller (only : ControllerOnly conn next) (holds : property conn) : property next :=
  keeps.aside conn next (.of_controller only) holds

theorem markPacketLoss :
    LossVisitorKeeps property markPacketLoss := by
  intro conn packet processed holds
  have fold (frames : List QuicWriteFrame) (lost : FramesLost) (holds : property lost.conn) :
      property (frames.foldl (onFrameLost packet.header.getProtectionType processed) lost).conn := by
    induction frames generalizing lost with
    | nil => exact holds
    | cons frame rest ih => exact ih _ (keeps.lost _ _ lost frame holds)
  exact fold packet.frames {conn := conn} holds

theorem onSpuriousLoss {packet : OutstandingPacket} (done : onSpuriousLoss conn packet = .ok next)
    (holds : property conn) : property next := by
  obtain ⟨middle,unloses,rfl⟩ := map_ok done
  have adapted : property (adaptThresholds conn packet.metadata) := keeps.same holds
  have unlost : property middle := by
    unfold unloseFrames at unloses
    split at unloses
    next =>
      have all : Yields (fun _ => True) property
          (packet.packet.frames.foldlM unloseFrame (adaptThresholds conn packet.metadata)) := by
        refine Yields.foldlM ?_ adapted
        intro state frame _ holds
        exact yields_iff.mpr ⟨fun next called => keeps.unlost _ _ _ called holds,fun _ _ => trivial⟩
      exact all.ok unloses
    next =>
      cases unloses
      exact adapted
  exact keeps.same unlost

theorem walkAcked (done : walkAcked arguments conn = .ok (walk,next)) (holds : property conn) :
    property next := by
  have each : WalkKeeps arguments (fun _ => True) fun walk => property walk.conn :=
    ⟨fun walk packet _ _ _ holds => by
      obtain ⟨lossState,connIs⟩ := (@ackPacket_acked arguments walk packet).conn
      rw [connIs]
      exact keeps.same holds,
     fun _ _ _ _ _ _ spurious holds => keeps.onSpuriousLoss spurious holds⟩
  obtain ⟨walked,_,rfl,_⟩ := each.walkAcked (fun _ _ => trivial) holds done
  exact keeps.same walked

theorem detectLossPackets (losses : LossVisitorKeeps property lossVisitor)
    {largestAcked : Option PacketNum} {ackEvent : Option AckEvent}
    {result : QuicConnectionState × Option LossEvent}
    (done : detectLossPackets conn largestAcked lossVisitor now space ackEvent = .ok result)
    (holds : property conn) : property result.1 := by
  have each : LossKeeps lossVisitor property := by
    refine ⟨fun arguments state packet distance _ holds => ?_,fun state packets lossState holds => ?_⟩
    · exact losses _ _ _ (keeps.same holds)
    · exact keeps.same holds
  exact each.detectLossPackets holds done

/-- What an acknowledgement does once its frames have been visited. -/
theorem afterVisits (losses : LossVisitorKeeps property lossVisitor)
    {handled reported : QuicConnectionState} {event : Option LossEvent}
    (handles : handleAckForLoss (settleAcked walk conn) lossVisitor ack space = .ok (handled,event))
    (reports : reportAck handled readings ack event = .ok reported) (holds : property conn) :
    property (clearOldOutstandingPackets reported now space) := by
  obtain ⟨⟨detected,_⟩,detects,same⟩ := map_ok handles
  cases same
  have noted : property (noteNewlyAcked (settleAcked walk conn) space ack.largestNewlyAckedPacket) := by
    unfold noteNewlyAcked
    split <;> exact keeps.same holds
  have found : property detected := keeps.detectLossPackets losses detects noted
  have told : property reported := keeps.controller (reportAck_only reports) (keeps.same found)
  unfold clearOldOutstandingPackets
  split
  · exact keeps.same told
  · exact told

end FramesKeep

section Visiting

variable {property : QuicConnectionState → Prop} {ackVisitor : AckVisitor}

theorem visitPackets_keeps (acks : AckVisitorKeeps property ackVisitor)
    {contexts : List (OutstandingPacket × Bool)}
    (done : contexts.foldlM (visitPacket ackVisitor) (conn,ack) = .ok result)
    (holds : property conn) : property result.1 := by
  refine ((@visitPackets_yields (fun _ => True) property _ _ (conn,ack)
    (fun _ _ _ _ _ reached => ?_) holds).ok done).1
  exact (Yields.anyway _).known.mono fun _ visits => acks _ _ _ _ visits.1 reached

end Visiting

namespace FramesKeep

variable {property : QuicConnectionState → Prop} {conn next : QuicConnectionState}
  {lossVisitor : LossVisitor} {now : TimePoint} {readings : Readings} (keeps : FramesKeep property)

include keeps

theorem processAckFrame {ackVisitor : AckVisitor} (acks : AckVisitorKeeps property ackVisitor)
    (losses : LossVisitorKeeps property lossVisitor) {arguments : AckArguments}
    (done : processAckFrame conn arguments ackVisitor lossVisitor readings = .ok result)
    (holds : property conn) : property result.1 := by
  obtain ⟨⟨walk,walked⟩,walks,onward⟩ := bind_ok.mp done
  obtain ⟨⟨visited,ack⟩,visits,handling⟩ := bind_ok.mp onward
  obtain ⟨⟨handled,event⟩,handles,reporting⟩ := bind_ok.mp handling
  obtain ⟨reported,reports,rfl⟩ := map_ok reporting
  exact keeps.afterVisits losses handles reports
    (visitPackets_keeps acks visits (keeps.walkAcked walks holds))

private theorem dropZeroRttPackets (losses : LossVisitorKeeps property lossVisitor)
    {packets : List OutstandingPacket} {scan : LossScan}
    {result : LossScan × List OutstandingPacket}
    (drops : dropZeroRttPackets lossVisitor scan packets = .ok result) (holds : property scan.conn) :
    property result.1.conn := by
  induction packets generalizing scan result with
  | nil =>
    cases drops
    exact holds
  | cons packet rest ih =>
    unfold Loss.dropZeroRttPackets at drops
    split at drops
    next =>
      obtain ⟨middle,drop,onward⟩ := bind_ok.mp drops
      obtain ⟨event,_,rfl⟩ := map_ok drop
      exact ih onward (losses _ _ _ (keeps.same holds))
    next =>
      obtain ⟨⟨last,left⟩,onward,rfl⟩ := map_ok drops
      exact @ih scan (last,left) onward holds

theorem markZeroRttPacketsLost (losses : LossVisitorKeeps property lossVisitor)
    (done : markZeroRttPacketsLost conn lossVisitor now = .ok next) (holds : property conn) :
    property next := by
  obtain ⟨⟨scan,packets⟩,drops,onward⟩ := bind_ok.mp done
  have counted : property
      (countRetransmissions (withPackets scan.conn packets) scan.lossEvent.lostPackets) :=
    keeps.same (keeps.dropZeroRttPackets losses drops holds)
  dsimp only at onward
  split at onward
  next => exact keeps.controller ((onRemoveBytesFromInflight_within ..).ok onward) counted
  next =>
    cases onward
    exact counted

private theorem onReorderingAlarm (losses : LossVisitorKeeps property lossVisitor)
    (done : onReorderingAlarm conn lossVisitor now readings = .ok next) (holds : property conn) :
    property next := by
  obtain ⟨⟨detected,event⟩,detects,onward⟩ := bind_ok.mp done
  have found : property detected := keeps.detectLossPackets losses detects holds
  dsimp only at onward
  split at onward
  next =>
    cases onward
    exact found
  next => exact keeps.controller ((onPacketAckOrLoss_within ..).ok onward) found

private theorem onPTOAlarm (done : onPTOAlarm conn now = .ok next) (holds : property conn) :
    property next := by
  unfold Loss.onPTOAlarm at done
  dsimp only at done
  split at done
  next => cases done
  next =>
    obtain ⟨retransmitted,retransmits,rfl⟩ := map_ok done
    have dropped : property retransmitted := by
      unfold retransmitZeroRtt at retransmits
      split at retransmits
      next =>
        refine keeps.markZeroRttPacketsLost keeps.markPacketLoss retransmits ?_
        exact keeps.same holds
      next =>
        cases retransmits
        exact keeps.same holds
    exact keeps.same dropped

theorem onLossDetectionAlarm
    (done : onLossDetectionAlarm conn Loss.markPacketLoss now readings = .ok next)
    (holds : property conn) : property next := by
  unfold Loss.onLossDetectionAlarm at done
  split at done
  next =>
    cases done
    exact holds
  next =>
    obtain ⟨alarmed,alarms,rfl⟩ := map_ok done
    have handled : property alarmed := by
      unfold onAlarm at alarms
      split at alarms
      next => exact keeps.onReorderingAlarm keeps.markPacketLoss alarms holds
      next => exact keeps.onPTOAlarm alarms holds
    exact keeps.same handled

end FramesKeep

section Steps

variable {start conn next : QuicConnectionState}

private theorem frameSteps_keep (start : QuicConnectionState) : FramesKeep (FrameSteps start) :=
  ⟨fun _ _ same steps => steps.tail (.aside same),fun _ _ _ done steps => steps.tail (.unlost done),
    fun protectionType processed lost frame steps => steps.tail (.lost protectionType processed lost frame)⟩

theorem implicitAckCryptoStream_frameSteps {level : EncryptionLevel} {now nowTime : TimePoint}
    (done : implicitAckCryptoStream conn level now nowTime readings = .ok next) :
    FrameSteps conn next := by
  unfold implicitAckCryptoStream at done
  dsimp only at done
  split at done
  next =>
    cases done
    exact .refl
  next =>
    obtain ⟨⟨acked,event⟩,processed,rfl⟩ := map_ok done
    refine .tail ?_ (.cleared acked level)
    exact (frameSteps_keep conn).processAckFrame (fun _ _ _ _ done steps => steps.tail (.implicitlyAcked done))
      (fun _ _ _ steps => steps) processed .refl

end Steps

def PacketAction.isElsewhere : PacketAction → Bool
  | .handle (.elsewhere _) => true
  | _ => false

theorem packetStep_frameSteps {next : QuicConnectionState} {action : PacketAction}
    (here : action.isElsewhere = false) (done : packetStep conn action = .ok next) :
    FrameSteps conn next := by
  cases action with
  | alarm now readings => exact (frameSteps_keep conn).onLossDetectionAlarm done .refl
  | handle action =>
    cases action with
    | send packet | sendDsr header packet => exact updateConnection_frameSteps done
    | clone index packet writableBytes cipherOverhead written => exact clonePacket_frameSteps done
    | skipNumber space =>
      cases done
      exact .single (.aside ⟨rfl,rfl,rfl,rfl,List.prefix_rfl,rfl⟩)
    | ackFrame arguments readings =>
      obtain ⟨⟨acked,event⟩,processed,rfl⟩ := map_ok done
      exact (frameSteps_keep conn).processAckFrame (fun _ _ _ _ done steps => steps.tail (.acked done))
        (frameSteps_keep conn).markPacketLoss processed .refl
    | clear time space =>
      cases done
      unfold clearOldOutstandingPackets
      split
      · exact (frameSteps_keep conn).same .refl
      · exact .refl
    | implicitAck level now nowTime readings => exact implicitAckCryptoStream_frameSteps done
    | zeroRttRejected now =>
      exact (frameSteps_keep conn).markZeroRttPacketsLost (frameSteps_keep conn).markPacketLoss done .refl
    | elsewhere other => cases here

end StreamServer.Loss
