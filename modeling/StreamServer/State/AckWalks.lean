import StreamServer.State.Books

/-! The rule for the walk of an acknowledgement over the outstanding packets: what acknowledging one
packet keeps, whether it was declared lost or not, the whole walk keeps. -/
namespace StreamServer.State
open Protocol Lib.Outcome

variable {arguments : AckArguments}

def AckArguments.event (arguments : AckArguments) : AckEvent where
  ackTime := arguments.ackReceiveTime
  adjustedAckTime := arguments.ackReceiveTime - arguments.frame.ackDelay * 1000
  ackDelay := arguments.frame.ackDelay
  packetNumberSpace := arguments.pnSpace
  largestAckedPacket := arguments.frame.largestAcked
  implicit := arguments.frame.implicit

section Walks

variable {allowed : Error → Prop} {property : AckWalk → List OutstandingPacket → Prop}
  {conn : QuicConnectionState} {walk : AckWalk} {above packets : List OutstandingPacket}

/-- What is known of a walk and of the packets that are left, the newest first, stays known when one
of them is acknowledged. -/
structure WalkYields (arguments : AckArguments) (allowed : Error → Prop)
    (property : AckWalk → List OutstandingPacket → Prop) : Prop where
  acked : ∀ walk above packet below, packet.space = arguments.pnSpace →
    packet.declaredLost = false → property walk (above ++ packet :: below) →
    property (ackPacket arguments walk packet) (above ++ below)
  spurious : ∀ walk above packet below, packet.space = arguments.pnSpace →
    packet.declaredLost = true → property walk (above ++ packet :: below) →
    Yields allowed (fun conn => property {walk with conn} (above ++ below))
      (onSpuriousLoss walk.conn packet)

namespace WalkYields

variable (yields : WalkYields arguments allowed property)
include yields

theorem ackWithin {block : AckBlock} (holds : property walk (above ++ packets)) :
    Yields allowed (fun result => property result.1 (above ++ (result.2.1 ++ result.2.2)))
      (ackWithin arguments block walk packets) := by
  induction packets generalizing walk above with
  | nil => exact holds
  | cons packet rest ih =>
    unfold State.ackWithin
    split
    next =>
      have passed : property walk ((above ++ [packet]) ++ rest) := by simpa using holds
      refine (ih passed).bind fun result done => ?_
      rw [List.append_assoc] at done
      exact done
    next own =>
      have own : packet.space = arguments.pnSpace := Decidable.not_not.mp own
      split
      · exact holds
      split
      next lost => exact (yields.spurious _ _ _ _ own lost holds).bind fun conn kept => ih kept
      next waiting => exact ih (yields.acked _ _ _ _ own (Bool.eq_false_iff.mpr waiting) holds)

theorem ackBlocks {blocks : List AckBlock} (holds : property walk (above ++ packets)) :
    Yields allowed (fun result => property result.1 (above ++ result.2))
      (ackBlocks arguments walk packets blocks) := by
  induction blocks generalizing walk packets above with
  | nil => exact holds
  | cons block blocks ih =>
    unfold State.ackBlocks
    dsimp only
    split
    · exact holds
    · generalize skipped : packets.takeWhile (fun packet => packet.number > block.endPacket) = beyond
      rw [← packets.takeWhile_append_dropWhile (p := fun packet => packet.number > block.endPacket),
        skipped,← List.append_assoc] at holds
      refine (yields.ackWithin holds).bind fun ⟨walked,kept,below⟩ within => ?_
      rw [← List.append_assoc] at within
      refine (ih within).bind fun final done => ?_
      rw [List.append_assoc above,List.append_assoc above] at done
      exact done

theorem walkAcked (holds : property {conn, ack := arguments.event} conn.outstandings.packets.reverse) :
    Yields allowed (fun result => ∃ packets, property result.1 packets.reverse ∧
        result.2 = finishWalk result.1 packets) (walkAcked arguments conn) := by
  rw [← List.takeWhile_append_dropWhile (p := fun packet => packet.space != arguments.pnSpace)
    (l := conn.outstandings.packets.reverse)] at holds
  refine (yields.ackBlocks holds).bind fun result done => ⟨_,?_,rfl⟩
  rw [List.reverse_reverse]
  exact done

end WalkYields

/-- What acknowledging a packet of which this is known keeps, whatever packets are left. -/
structure WalkKeeps (arguments : AckArguments) (known : OutstandingPacket → Prop)
    (property : AckWalk → Prop) : Prop where
  acked : ∀ walk packet, known packet → packet.space = arguments.pnSpace →
    packet.declaredLost = false → property walk → property (ackPacket arguments walk packet)
  spurious : ∀ walk packet conn, known packet → packet.space = arguments.pnSpace →
    packet.declaredLost = true → onSpuriousLoss walk.conn packet = .ok conn → property walk →
    property {walk with conn}

theorem WalkKeeps.walkAcked {known : OutstandingPacket → Prop} {property : AckWalk → Prop}
    {next : QuicConnectionState} (keeps : WalkKeeps arguments known property)
    (all : ∀ packet ∈ conn.outstandings.packets, known packet)
    (holds : property {conn, ack := arguments.event})
    (done : walkAcked arguments conn = .ok (walk,next)) :
    property walk ∧ ∃ packets, next = finishWalk walk packets ∧
      packets ⊆ conn.outstandings.packets := by
  have fewer {above below : List OutstandingPacket} {packet : OutstandingPacket}
      (inside : above ++ packet :: below ⊆ conn.outstandings.packets) :
      known packet ∧ above ++ below ⊆ conn.outstandings.packets := by
    simp only [List.append_subset,List.cons_subset] at inside ⊢
    exact ⟨all packet inside.2.1,inside.1,inside.2.2⟩
  have yields : WalkYields arguments (fun _ => True) fun walk packets =>
      property walk ∧ packets ⊆ conn.outstandings.packets := by
    refine ⟨fun walk above packet below own waiting holds => ?_,
      fun walk above packet below own lost holds => ?_⟩
    · obtain ⟨is,less⟩ := fewer holds.2
      exact ⟨keeps.acked walk packet is own waiting holds.1,less⟩
    · obtain ⟨is,less⟩ := fewer holds.2
      refine (Yields.anyway _).known.mono fun conn unloses => ?_
      exact ⟨keeps.spurious walk packet conn is own lost unloses.1 holds.1,less⟩
  obtain ⟨packets,⟨walked,inside⟩,same⟩ :=
    (yields.walkAcked ⟨holds,fun _ => List.mem_reverse.mp⟩).ok done
  exact ⟨walked,packets,same,fun _ member => inside (List.mem_reverse.mpr member)⟩

end Walks

/-- An acknowledged packet as it is reported, apart from the details of its streams. -/
def AckPacket.of (packet : OutstandingPacket) : AckPacket where
  packetNum := packet.number
  nonDsrPacketSequenceNumber := packet.nonDsrPacketSequenceNumber.getD 0
  outstandingPacketMetadata := packet.metadata
  lastAckedPacketInfo := packet.lastAckedPacketInfo
  isAppLimited := packet.isAppLimited

/-- The details of the streams are no part of which packets are reported. -/
def AckPacket.plain (packet : AckPacket) : AckPacket := {packet with detailsPerStream := []}

/-- The event reports the packets of the contexts too, and is otherwise the same. -/
def Reported (contexts : List (OutstandingPacket × Bool)) (event next : AckEvent) : Prop :=
  ∃ reported, reported.map AckPacket.plain = (contexts.map Prod.fst).map AckPacket.of ∧
    next = {event with ackedPackets := event.ackedPackets ++ reported}

/-- The rule for the visits: what visiting one frame keeps of the connection, all visits keep. -/
theorem visitPackets_yields {allowed : Error → Prop} {property : QuicConnectionState → Prop}
    {ackVisitor : AckVisitor} {contexts : List (OutstandingPacket × Bool)}
    {visited : QuicConnectionState × AckEvent}
    (keeps : ∀ context ∈ contexts, ∀ frame ∈ context.1.packet.frames, ∀ conn, property conn →
      Yields allowed property (ackVisitor conn context.1 frame)) (holds : property visited.1) :
    Yields allowed (fun result => property result.1 ∧ Reported contexts visited.2 result.2)
      (contexts.foldlM (visitPacket ackVisitor) visited) := by
  induction contexts generalizing visited with
  | nil => exact ⟨holds,[],rfl,by rw [List.append_nil]⟩
  | cons context rest ih =>
    have frames : Yields allowed (fun state => property state.1)
        (context.1.packet.frames.foldlM (visitFrame ackVisitor context) (visited.1,[])) := by
      refine Yields.foldlM (fun state frame inside kept => ?_) holds
      unfold visitFrame
      split
      · exact kept
      · exact (keeps context (List.mem_cons_self ..) frame inside state.1 kept).bind fun _ kept => kept
    have first : Yields allowed (fun next => property next.1 ∧ Reported [context] visited.2 next.2)
        (visitPacket ackVisitor visited context) := frames.bind fun _ kept => ⟨kept,[_],rfl,rfl⟩
    rw [List.foldlM_cons]
    refine first.bind fun middle ⟨kept,head,one,same⟩ => ?_
    have others := fun context inside => keeps context (List.mem_cons_of_mem _ inside)
    refine (ih others kept).mono fun result ⟨last,tail,more,grown⟩ => ⟨last,head ++ tail,?_,?_⟩
    · rw [List.map_append,one,more]
      rfl
    · rw [grown,same,List.append_assoc]

/-- What is left when a packet was acknowledged: it is let go, its context is filed, and besides
that only the loss state and what the event says of the sample and the newest packet differ. -/
structure PacketAcked (walk : AckWalk) (packet : OutstandingPacket) (next : AckWalk) : Prop where
  conn : ∃ lossState, next.conn = {(releaseAcked walk packet).conn with lossState}
  records : next.conn.records = (releaseAcked walk packet).conn.records
  contexts : next.packetsWithHandlerContext =
    insertContext (packet,walk.conn.outstandings.needsProcess packet) walk.packetsWithHandlerContext
  bytes : next.ack.ackedBytes = walk.ack.ackedBytes + packet.metadata.encodedSize
  reported : next.ack.ackedPackets = walk.ack.ackedPackets
  newly : next.ack.largestNewlyAckedPacket = some packet.number ∨
    next.ack.largestNewlyAckedPacket = walk.ack.largestNewlyAckedPacket ∧
      walk.ack.largestNewlyAckedPacket ≠ none
  dsr : next.dsrPacketsAcked = (releaseAcked walk packet).dsrPacketsAcked
  implicit : walk.ack.implicit = true →
    next.ack.implicit = true ∧ next.conn = (releaseAcked walk packet).conn

private theorem sampleRtt_shape (walk : AckWalk) (packet : OutstandingPacket) :
    ∃ lossState sample noDelay, (walk.ack.implicit = true → lossState = walk.conn.lossState) ∧
      QuicConnectionState.records {walk.conn with lossState} = walk.conn.records ∧
      sampleRtt arguments walk packet = {walk with
        conn := {walk.conn with lossState}
        ack := {walk.ack with rttSample := sample, rttSampleNoAckDelay := noDelay}} := by
  unfold sampleRtt
  dsimp only
  generalize ceilMicroseconds _ = rttSample
  split
  · next sampled =>
    refine ⟨_,_,_,fun implicit => ?_,?_,rfl⟩
    rotate_left
    · rfl
    simp [implicit] at sampled
  · exact ⟨_,_,_,fun _ => rfl,rfl,rfl⟩

private theorem noteLargestNewlyAcked_shape (ack : AckEvent) (packet : OutstandingPacket) :
    ∃ newest time limited, (newest = some packet.number ∨
        newest = ack.largestNewlyAckedPacket ∧ ack.largestNewlyAckedPacket ≠ none) ∧
      noteLargestNewlyAcked ack packet = {ack with
        largestNewlyAckedPacket := newest
        largestNewlyAckedPacketSentTime := time
        largestNewlyAckedPacketAppLimited := limited} := by
  unfold noteLargestNewlyAcked
  split
  · exact ⟨_,_,_,.inl rfl,rfl⟩
  · next smaller =>
    refine ⟨_,_,_,.inr ⟨rfl,fun absent => smaller ?_⟩,rfl⟩
    rw [absent]
    rfl

theorem ackPacket_acked (walk : AckWalk) (packet : OutstandingPacket) :
    PacketAcked walk packet (ackPacket arguments walk packet) := by
  obtain ⟨lossState,sample,noDelay,same,records,sampled⟩ :=
    @sampleRtt_shape arguments (releaseAcked walk packet) packet
  obtain ⟨_,_,_,newly,noted⟩ := noteLargestNewlyAcked_shape
    {(releaseAcked walk packet).ack with rttSample := sample, rttSampleNoAckDelay := noDelay} packet
  unfold ackPacket countAcked
  rw [sampled]
  dsimp only
  rw [noted]
  split
  · exact ⟨⟨lossState,rfl⟩,records,rfl,rfl,rfl,newly,rfl,fun implicit => ⟨implicit,by rw [same implicit]⟩⟩
  · next explicit => exact ⟨⟨_,rfl⟩,records,rfl,rfl,rfl,newly,rfl,fun implicit => absurd implicit explicit⟩

end StreamServer.State
