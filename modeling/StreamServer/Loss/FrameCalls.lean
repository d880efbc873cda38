import StreamServer.State.Books

/-! The calls about one frame, when it is sent, acknowledged or lost. They leave the books of the
packets alone, and each changes one stream or one crypto stream in one of a few ways, or none. -/
namespace StreamServer.Loss
open Protocol Common Congestion State FlowControl Api Lib.Outcome

/-- How a stream changes when one of its frames was sent, acknowledged or lost. -/
inductive StreamStep (stream : QuicStreamState) : QuicStreamState → Prop where
  | written {conn after : QuicConnectionState} {frame : WriteStreamFrame} {changed : QuicStreamState}
      {isNew : Bool} (done : onStreamFrameWritten conn stream frame = .ok (after,changed,isNew)) :
      StreamStep stream changed
  | acked {conn after : QuicConnectionState} {frame : WriteStreamFrame} {changed : QuicStreamState}
      (done : sendAckSMHandler conn stream frame = .ok (after,changed)) : StreamStep stream changed
  | rstAcked {conn after : QuicConnectionState} {changed : QuicStreamState}
      (done : sendRstAckSMHandler conn stream = .ok (after,changed)) : StreamStep stream changed
  | unlost {frame : WriteStreamFrame} {like : QuicStreamLike}
      (done : QuicStreamLike.updateAckedIntervals {stream.toQuicStreamLike with
        lossBuffer := removeFromLossBuffer stream.lossBuffer frame.offset frame.len frame.fin}
          frame.offset frame.len frame.fin = .ok like) :
      StreamStep stream {stream with toQuicStreamLike := like}
  | lost {conn : QuicConnectionState} {frame : WriteStreamFrame} {changed : QuicStreamState}
      (done : lostStreamData conn stream frame = some changed) (streamLossCount : Nat) :
      StreamStep stream {changed with streamLossCount}
  | announced (maximumData : Nat) (sentTime : TimePoint) :
      StreamStep stream {stream with flowControlState := {stream.flowControlState with
        advertisedMaxOffset := maximumData
        timeOfLastFlowControlUpdate := some sentTime}}

inductive CryptoStep (stream : QuicCryptoStream) : QuicCryptoStream → Prop where
  | written {conn after : QuicConnectionState} {offset len : Nat} {changed : QuicCryptoStream}
      {isNew : Bool} (done : handleStreamWritten conn stream offset len false =
        .ok (after,changed,isNew)) : CryptoStep stream changed
  | acked (offset len : Nat) : CryptoStep stream (processCryptoStreamAck stream offset len)
  | lost {offset : Nat} {buffer : StreamBuffer}
      (found : stream.retransmissionBuffer.lookup offset = some buffer) :
      CryptoStep stream {stream with
        lossBuffer := insertIntoLossBuffer stream.lossBuffer buffer
        retransmissionBuffer := stream.retransmissionBuffer.erase offset}
  | cleared : CryptoStep stream {stream with lossBuffer := []}

def contents (conn : QuicConnectionState) :
    AList (fun _ : StreamId => QuicStreamState) × QuicCryptoState :=
  (conn.streamManager.streams,conn.cryptoState)

inductive ContentStep (conn next : QuicConnectionState) : Prop where
  | same (after : contents next = contents conn)
  | stream {key : StreamId} {stream changed : QuicStreamState}
      (found : conn.findStream key = some stream) (step : StreamStep stream changed)
      (after : contents next = (conn.streamManager.streams.insert changed.id changed,conn.cryptoState))
  | crypto {level : EncryptionLevel} {changed : QuicCryptoStream}
      (step : CryptoStep (getCryptoStream conn.cryptoState level) changed)
      (after : contents next =
        (conn.streamManager.streams,setCryptoStream conn.cryptoState changed level))

/-- What a call leaves alone unless it concerns a stream. -/
def held (conn : QuicConnectionState) : (Books × Numbers) ×
    (AList (fun _ : StreamId => QuicStreamState) × QuicCryptoState) × Finset StreamId × Finset StreamId :=
  (conn.records,contents conn,conn.streamManager.deliverableStreams,conn.streamManager.closedStreams)

structure Grows (conn next : QuicConnectionState) : Prop where
  records : next.records = conn.records
  contents : contents next = contents conn
  deliverable : conn.streamManager.deliverableStreams ⊆ next.streamManager.deliverableStreams
  closed : conn.streamManager.closedStreams ⊆ next.streamManager.closedStreams

structure FrameCall (conn next : QuicConnectionState) : Prop where
  records : next.records = conn.records
  content : ContentStep conn next
  deliverable : conn.streamManager.deliverableStreams ⊆ next.streamManager.deliverableStreams
  closed : conn.streamManager.closedStreams ⊆ next.streamManager.closedStreams

section Shapes

variable {conn handled next : QuicConnectionState} {key : StreamId} {stream changed : QuicStreamState}

theorem Grows.of_held (same : held next = held conn) : Grows conn next := by
  simp only [held,Prod.mk.injEq] at same
  obtain ⟨records,contents,deliverable,closed⟩ := same
  exact ⟨records,contents,deliverable.ge,closed.ge⟩

theorem FrameCall.of_held (same : held next = held conn) : FrameCall conn next :=
  let grows := Grows.of_held same
  ⟨grows.records,.same grows.contents,grows.deliverable,grows.closed⟩

theorem Grows.changes (grows : Grows conn handled) (found : conn.findStream key = some stream)
    (step : StreamStep stream changed) : FrameCall conn (handled.setStream changed) := by
  refine {grows with content := .stream found step ?_}
  have kept := grows.contents
  simp only [Loss.contents,Prod.mk.injEq] at kept
  change (handled.streamManager.streams.insert changed.id changed,handled.cryptoState) = _
  rw [kept.1,kept.2]

theorem FrameCall.queued (call : FrameCall conn next) (stream : QuicStreamState) :
    FrameCall conn (next.manage (·.updateWritableStreams stream)) := by
  have same : contents (next.manage (·.updateWritableStreams stream)) = contents next := by
    simp [contents,QuicConnectionState.manage]
  obtain ⟨deliverable,closed⟩ := next.streamManager.updateWritableStreams_told stream
  refine ⟨call.records,?_,call.deliverable.trans deliverable.ge,call.closed.trans closed.ge⟩
  cases call.content with
  | same after => exact .same (same.trans after)
  | stream found step after => exact .stream found step (same.trans after)
  | crypto step after => exact .crypto step (same.trans after)

end Shapes

variable (pnSpace : PacketNumberSpace) (level : EncryptionLevel) (conn : QuicConnectionState)
  (stream : QuicStreamState) (packet : OutstandingPacket) (frame : QuicWriteFrame)

theorem maybeWriteBlockAfterSocketWrite_held :
    held (maybeWriteBlockAfterSocketWrite conn stream) = held conn := by
  unfold maybeWriteBlockAfterSocketWrite
  split
  · rfl
  split
  · rfl
  split
  · unfold held contents QuicConnectionState.manage QuicStreamManager.queueBlocked
    dsimp only
    split <;> rfl
  · rfl

theorem maybeWriteDataBlockedAfterSocketWrite_held :
    held (maybeWriteDataBlockedAfterSocketWrite conn) = held conn := by
  unfold maybeWriteDataBlockedAfterSocketWrite
  split <;> rfl

theorem updateAckState_held (space : PacketNumberSpace) (update : AckState → AckState)
    (keeps : ∀ state, (update state).nextPacketNum = state.nextPacketNum ∧
      (update state).nonDsrPacketSequenceNumber = state.nonDsrPacketSequenceNumber ∧
      (update state).largestAckedByPeer = state.largestAckedByPeer) :
    held (updateAckState conn space update) = held conn :=
  Prod.ext (updateAckState_records conn space update keeps) rfl

theorem onFrameLost_call (protectionType : ProtectionType) (processed : Bool) (lost : FramesLost)
    (frame : QuicWriteFrame) :
    FrameCall lost.conn (onFrameLost protectionType processed lost frame).conn := by
  unfold onFrameLost
  split
  · refine .of_held ?_
    unfold onStreamWindowLost onStreamWindowUpdateLost
    split
    · rfl
    · split <;> rfl
  · exact .of_held rfl
  · split
    · exact .of_held rfl
    split
    · exact .of_held (maybeWriteDataBlockedAfterSocketWrite_held _)
    · unfold onStreamFrameLost
      split
      · exact .of_held rfl
      · next changed data =>
        obtain ⟨stream,found,moved⟩ := Option.bind_eq_some_iff.mp data
        exact ((Grows.of_held rfl).changes found (.lost moved _)).queued _
    · unfold onCryptoFrameLost
      dsimp only
      split
      · exact .of_held rfl
      · next found =>
        exact ⟨rfl,.crypto (.lost found) rfl,Finset.Subset.refl _,Finset.Subset.refl _⟩
    · refine .of_held ?_
      unfold onRstStreamLost
      split <;> rfl
    · refine .of_held ?_
      unfold onStreamBlockedLost onBlockedLost
      split
      · rfl
      · exact maybeWriteBlockAfterSocketWrite_held _ _
    · refine .of_held ?_
      unfold updateSimpleFrameOnPacketLoss
      split
      · split <;> rfl
      · split <;> rfl
      · rfl
    · exact .of_held rfl

theorem updateAckedIntervals_tolerable (stream : QuicStreamLike) (offset len : Nat) (eof : Bool) :
    Yields Tolerable (fun _ => True) (stream.updateAckedIntervals offset len eof) := by
  have inserted (start stop : Nat) :
      Yields Tolerable (fun _ => True) (stream.ackedIntervals.insertRange start stop) := by
    unfold IntervalSet.insertRange Interval.make
    split
    · exact tolerable_standard _
    split
    · trivial
    · next failed =>
      split at failed
      · split at failed
        · cases failed
        · cases failed
          exact tolerable_standard _
      · cases failed
        exact tolerable_standard _
  exact (inserted _ _).bind fun _ _ => trivial

private theorem addClosedIfTerminal_grows :
    Grows conn (addClosedIfTerminal conn stream) := by
  unfold addClosedIfTerminal
  split
  · exact ⟨rfl,rfl,Finset.Subset.refl _,Finset.subset_insert _ _⟩
  · exact .of_held rfl

private theorem sendRstAckSMHandler_grows :
    Yields Tolerable (fun result => Grows conn result.1) (sendRstAckSMHandler conn stream) := by
  unfold sendRstAckSMHandler
  split
  · exact addClosedIfTerminal_grows _ _
  · exact .of_held rfl
  · exact tolerable_transport _ _
  · exact tolerable_transport _ _

private theorem sendAckSMHandler_grows (frame : WriteStreamFrame) :
    Yields Tolerable (fun result => Grows conn result.1) (sendAckSMHandler conn stream frame) := by
  unfold sendAckSMHandler
  split
  · have removed : Yields Tolerable (fun _ => True) (removeAckedFrame stream frame) := by
      unfold removeAckedFrame
      split
      · split
        · trivial
        · exact (updateAckedIntervals_tolerable _ _ _ _).bind fun _ _ => trivial
      · split
        · trivial
        · exact (updateAckedIntervals_tolerable _ _ _ _).bind fun _ _ => trivial
    apply removed.bind
    intro kept _
    have delivered : Grows conn (conn.manage (·.addDeliverable kept.id)) :=
      ⟨rfl,rfl,Finset.subset_insert _ _,Finset.Subset.refl _⟩
    dsimp only
    split
    · have closes := addClosedIfTerminal_grows (conn.manage (·.addDeliverable kept.id))
        {kept with sendState := .closed}
      exact ⟨closes.records,closes.contents,delivered.deliverable.trans closes.deliverable,closes.closed⟩
    · exact delivered
  · exact .of_held rfl
  · exact .of_held rfl
  · exact tolerable_transport _ _

private theorem withStream_call {conn : QuicConnectionState} {id : StreamId}
    {handler : QuicConnectionState → QuicStreamState →
      Except Error (QuicConnectionState × QuicStreamState)}
    (grows : ∀ stream, Yields Tolerable (fun result => Grows conn result.1) (handler conn stream))
    (steps : ∀ stream after changed, handler conn stream = .ok (after,changed) →
      StreamStep stream changed) :
    Yields Tolerable (FrameCall conn) (conn.withStream id handler) := by
  unfold QuicConnectionState.withStream
  split
  · exact FrameCall.of_held rfl
  · next stream found =>
    apply (grows stream).known.bind
    rintro ⟨after,changed⟩ ⟨handled,kept⟩
    exact kept.changes found (steps stream after changed handled)

private theorem commonAckVisitorForAckFrame_number (frame : WriteAckFrame) (ackState : AckState) :
    (commonAckVisitorForAckFrame ackState frame).nextPacketNum = ackState.nextPacketNum ∧
      (commonAckVisitorForAckFrame ackState frame).nonDsrPacketSequenceNumber =
        ackState.nonDsrPacketSequenceNumber ∧
      (commonAckVisitorForAckFrame ackState frame).largestAckedByPeer = ackState.largestAckedByPeer := by
  unfold commonAckVisitorForAckFrame
  dsimp only
  split
  · exact ⟨rfl,rfl,rfl⟩
  split <;> exact ⟨rfl,rfl,rfl⟩

private theorem ackCryptoFrame_call (frame : WriteCryptoFrame) :
    FrameCall conn (ackCryptoFrame conn level frame) :=
  ⟨rfl,.crypto (.acked _ _) rfl,Finset.Subset.refl _,Finset.Subset.refl _⟩

theorem clientAckVisitor_call :
    Yields Tolerable (FrameCall conn) (clientAckVisitor pnSpace conn packet frame) := by
  unfold clientAckVisitor
  split
  · next frame =>
    exact FrameCall.of_held (updateAckState_held _ _ _ (commonAckVisitorForAckFrame_number frame))
  · exact withStream_call (sendRstAckSMHandler_grows conn) fun _ _ _ => .rstAcked
  · next frame =>
    exact withStream_call (fun stream => sendAckSMHandler_grows conn stream frame) fun _ _ _ => .acked
  · exact ackCryptoFrame_call _ _ _
  · exact FrameCall.of_held rfl
  · exact FrameCall.of_held rfl

theorem implicitAckVisitor_call :
    Yields Tolerable (FrameCall conn) (implicitAckVisitor pnSpace level conn packet frame) := by
  unfold implicitAckVisitor
  split
  · exact ackCryptoFrame_call _ _ _
  · next frame =>
    exact FrameCall.of_held (updateAckState_held _ _ _ (commonAckVisitorForAckFrame_number frame))
  · exact FrameCall.of_held rfl

theorem unloseFrame_call :
    Yields Tolerable (FrameCall conn) (unloseFrame conn frame) := by
  unfold unloseFrame
  split
  · next frame =>
    split
    · exact FrameCall.of_held rfl
    · next stream found =>
      apply (updateAckedIntervals_tolerable _ frame.offset frame.len frame.fin).known.bind
      intro like updated
      exact ((Grows.of_held rfl).changes found (.unlost updated.1)).queued _
  · exact FrameCall.of_held rfl

private theorem handleStreamWritten_held (stream : QuicStreamLike) (frameOffset frameLen : Nat)
    (frameFin : Bool) :
    Yields Tolerable (fun result => held result.1 = held conn)
      (handleStreamWritten conn stream frameOffset frameLen frameFin) := by
  unfold handleStreamWritten
  dsimp only
  split
  · rfl
  split
  · exact tolerable_transport _ _
  split
  · split <;> rfl
  · rfl

private theorem onStreamFrameWritten_held (frame : WriteStreamFrame) :
    Yields Tolerable (fun result => held result.1 = held conn)
      (onStreamFrameWritten conn stream frame) := by
  unfold onStreamFrameWritten
  split
  · unfold handleStreamBufMetaWritten
    dsimp only
    split
    · rfl
    split
    · rfl
    · exact tolerable_standard _
  · apply (handleStreamWritten_held conn stream.toQuicStreamLike frame.offset frame.len
      frame.fin).bind
    intro result kept
    exact kept

private theorem onStreamDataSent_held (len : Nat) (isNew : Bool) :
    Yields Tolerable (fun next => held next = held conn) (onStreamDataSent conn stream len isNew) := by
  unfold onStreamDataSent
  split
  · have counted : Yields Tolerable (fun next => held next = held conn)
        (updateFlowControlOnWriteToSocket conn len) := by
      have sum : Yields Tolerable (fun _ => True)
          (incrementWithOverFlowCheck conn.flowControlState.sumCurWriteOffset len) := by
        unfold incrementWithOverFlowCheck
        split
        · exact tolerable_internal _ _
        · trivial
      exact sum.bind fun _ _ => rfl
    apply counted.bind
    intro next kept
    exact ((maybeWriteDataBlockedAfterSocketWrite_held _).trans
      (maybeWriteBlockAfterSocketWrite_held _ _)).trans kept
  · rfl

private theorem onStreamFrameSent_call (sent : FramesSent) (frame : WriteStreamFrame) :
    Yields Tolerable (fun next => FrameCall sent.conn next.conn) (onStreamFrameSent sent frame) := by
  unfold onStreamFrameSent
  split
  · exact tolerable_standard _
  · next stream found =>
    apply (onStreamFrameWritten_held sent.conn stream frame).known.bind
    rintro ⟨conn,changed,isNew⟩ ⟨written,kept⟩
    apply (onStreamDataSent_held conn changed frame.len isNew).bind
    intro counted same
    exact ((Grows.of_held (same.trans kept)).changes found (.written written)).queued _

private theorem onCryptoFrameSent_call (sent : FramesSent) (protectionType : ProtectionType)
    (frame : WriteCryptoFrame) :
    Yields Tolerable (fun next => FrameCall sent.conn next.conn)
      (onCryptoFrameSent sent protectionType frame) := by
  unfold onCryptoFrameSent
  apply (handleStreamWritten_held sent.conn _ frame.offset frame.len false).known.bind
  rintro ⟨conn,changed,isNew⟩ ⟨written,kept⟩
  have grows := Grows.of_held kept
  have same := grows.contents
  simp only [contents,Prod.mk.injEq] at same
  refine {grows with content := .crypto (.written written) ?_}
  change (conn.streamManager.streams,setCryptoStream conn.cryptoState changed _) = _
  rw [same.1,same.2]

theorem onFrameSent_call (packetEvent : Option PacketEvent) (header : PacketHeader)
    (sentTime : TimePoint) (sent : FramesSent) (frame : QuicWriteFrame) :
    Yields Tolerable (fun next => FrameCall sent.conn next.conn)
      (onFrameSent packetEvent header sentTime sent frame) := by
  unfold onFrameSent
  split
  · exact onStreamFrameSent_call _ _
  · exact onCryptoFrameSent_call _ _ _
  · unfold onAckFrameSent
    split
    · exact tolerable_standard _
    · exact FrameCall.of_held (updateAckState_held sent.conn _ (fun ackState => {ackState with
        needsToSendAckImmediately := false
        numRxPacketsRecvd := 0
        numNonRxPacketsRecvd := 0
        largestAckScheduled := some _}) fun _ => ⟨rfl,rfl,rfl⟩)
  · exact FrameCall.of_held rfl
  · exact FrameCall.of_held rfl
  · exact FrameCall.of_held rfl
  · next streamId maximumData =>
    unfold onMaxStreamDataSent
    split
    · exact tolerable_standard _
    · next stream found =>
      have grows : Grows sent.conn
        (onStreamWindowUpdateSent sent.conn stream maximumData sentTime).1 := .of_held rfl
      exact grows.changes found (.announced maximumData sentTime)
  · exact FrameCall.of_held rfl
  · exact FrameCall.of_held rfl
  · next frame =>
    unfold onSimpleFrameSent
    split
    · have kept : Yields Tolerable (fun next => held next = held sent.conn)
          (updateSimpleFrameOnPacketSent sent.conn frame) := by
        unfold updateSimpleFrameOnPacketSent
        split
        · rfl
        split
        · rfl
        · exact tolerable_standard _
      exact kept.bind fun _ same => FrameCall.of_held same
    · exact FrameCall.of_held rfl
  all_goals exact FrameCall.of_held rfl

end StreamServer.Loss

namespace StreamServer.State
open Protocol Congestion Loss Api Lib.Outcome

variable (pnSpace : PacketNumberSpace) (level : EncryptionLevel) (conn : QuicConnectionState)
  (packet : OutstandingPacket) (frame : QuicWriteFrame)

theorem markPacketLoss_records (packet : RegularQuicWritePacket) (processed : Bool) :
    (markPacketLoss conn packet processed).records = conn.records := by
  have keeps (frames : List QuicWriteFrame) (lost : FramesLost) :
      (frames.foldl (onFrameLost packet.header.getProtectionType processed) lost).conn.records =
        lost.conn.records := by
    induction frames generalizing lost with
    | nil => rfl
    | cons frame rest ih =>
      rw [List.foldl_cons,ih]
      exact (onFrameLost_call _ _ _ _).records
  exact keeps packet.frames {conn := conn}

theorem clientAckVisitor_records :
    KeepsRecords conn (clientAckVisitor pnSpace conn packet frame) :=
  (clientAckVisitor_call pnSpace conn packet frame).mono fun _ call => call.records

theorem implicitAckVisitor_records :
    KeepsRecords conn (implicitAckVisitor pnSpace level conn packet frame) :=
  (implicitAckVisitor_call pnSpace level conn packet frame).mono fun _ call => call.records

theorem unloseFrames_records :
    KeepsRecords conn (unloseFrames conn packet) := by
  unfold unloseFrames
  split
  · refine Yields.foldlM ?_ rfl
    intro state frame _ kept
    exact (unloseFrame_call state frame).mono fun next call => call.records.trans kept
  · rfl

/-- Of a packet that was declared lost only the books of lost packets change. -/
theorem onSpuriousLoss_books :
    Yields Tolerable (fun next => next.books = {conn.books with
      outstandings := conn.outstandings.lowerDeclaredLostCount
      history := ⟨packet,.ackedAfterLoss⟩ :: conn.history}) (onSpuriousLoss conn packet) := by
  unfold onSpuriousLoss
  apply (unloseFrames_records _ packet).bind
  intro next records
  have kept : next.books = _ := congrArg Prod.fst records
  have outstandings : next.outstandings = conn.outstandings := congrArg Books.outstandings kept
  have history : next.history = conn.history := congrArg Books.history kept
  change Books.mk _ _ _ _ _ _ _ _ _ _ = _
  have same : next.books = conn.books := kept
  simp only [QuicConnectionState.books,Books.mk.injEq] at same ⊢
  exact ⟨by rw [outstandings],by rw [history],same.2.2⟩

/-- Handling a frame that was sent leaves the books alone. -/
abbrev KeepsBooksSent (sent : FramesSent) : Except Error FramesSent → Prop :=
  Yields Tolerable fun next => next.conn.books = sent.conn.books

abbrev KeepsRecordsSent (sent : FramesSent) : Except Error FramesSent → Prop :=
  Yields Tolerable fun next => next.conn.records = sent.conn.records

variable (packetEvent : Option PacketEvent) (header : PacketHeader) (sentTime : TimePoint)
  (frames : List QuicWriteFrame) (sent : FramesSent)

theorem framesSent_records :
    KeepsRecordsSent sent (frames.foldlM (onFrameSent packetEvent header sentTime) sent) := by
  refine Yields.foldlM ?_ rfl
  intro state frame _ kept
  exact (onFrameSent_call packetEvent header sentTime state frame).mono
    fun next call => call.records.trans kept

theorem KeepsRecords.books {conn : QuicConnectionState} {result : Except Error QuicConnectionState}
    (keeps : KeepsRecords conn result) : KeepsBooks conn result :=
  keeps.mono fun _ same => congrArg Prod.fst same

theorem clientAckVisitor_books :
    KeepsBooks conn (clientAckVisitor pnSpace conn packet frame) :=
  (clientAckVisitor_records pnSpace conn packet frame).books

theorem implicitAckVisitor_books :
    KeepsBooks conn (implicitAckVisitor pnSpace level conn packet frame) :=
  (implicitAckVisitor_records pnSpace level conn packet frame).books

theorem framesSent_books :
    KeepsBooksSent sent (frames.foldlM (onFrameSent packetEvent header sentTime) sent) :=
  (framesSent_records packetEvent header sentTime frames sent).mono fun _ same => congrArg Prod.fst same

end StreamServer.State
