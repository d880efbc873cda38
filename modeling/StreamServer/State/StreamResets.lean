import StreamServer.State.StreamStateMachine

/-! A local reset and the data that was received. The reset drops the read buffer too, so only
with an empty one is it the send side alone that it touches. -/
namespace StreamServer.State
open Protocol FlowControl Lib.Transition

/-- A stream that is received and read, with what its reads have returned, the latest first. -/
structure StreamReader where
  conn : QuicConnectionState
  stream : QuicStreamState
  reads : List (Bytes × Bool) := []

inductive ReaderEvent where
  | frame (frame : ReadStreamFrame)
  | read (amount : Nat) (now : TimePoint)
  | reset (errorCode : Nat)
  deriving DecidableEq, Repr

def ReaderEvent.isReset : ReaderEvent → Bool
  | .reset _ => true
  | _ => false

def StreamReader.step (reader : StreamReader) : ReaderEvent → Except Error StreamReader
  | .frame frame => do
    let (conn,stream) ← receiveReadStreamFrameSMHandler reader.conn reader.stream frame
    return {reader with conn := conn, stream := stream}
  | .read amount now => do
    let outcome ← readDataFromQuicStream reader.conn reader.stream amount now
    return ⟨outcome.conn,outcome.stream,(outcome.data,outcome.eof) :: reader.reads⟩
  | .reset errorCode => do
    let (conn,stream) ← sendRstSMHandler reader.conn reader.stream errorCode
    return {reader with conn := conn, stream := stream}

/-- Of the connection, the counters that receiving and reading depend on. -/
def receivePart (conn : QuicConnectionState) : QuicConnectionState :=
  {nodeType := .client
   flowControlState :=
     {sumCurReadOffset := conn.flowControlState.sumCurReadOffset
      sumMaxObservedOffset := conn.flowControlState.sumMaxObservedOffset
      advertisedMaxOffset := conn.flowControlState.advertisedMaxOffset}}

/-- The stream without its send side. -/
def receiveSide (stream : QuicStreamState) : QuicStreamState :=
  {stream with
    retransmissionBuffer := ∅
    writeBuffer := []
    lossBuffer := []
    streamWriteError := none
    sendState := .openState
    writeBufMeta := {}
    retransmissionBufMetas := ∅
    lossBufMetas := []}

def StreamReader.received (reader : StreamReader) : StreamReader :=
  ⟨receivePart reader.conn,receiveSide reader.stream,reader.reads⟩

/-- Nothing waits to be read when an open send side is reset. -/
def ResetsUnbuffered (reader : StreamReader) (event : ReaderEvent) : Prop :=
  event.isReset → reader.stream.sendState = .openState → reader.stream.readBuffer = []

section Commutes

variable (conn : QuicConnectionState) (stream : QuicStreamState)

private theorem onRead_part (lastReadOffset : Nat) (time : TimePoint) :
    receivePart <$> updateFlowControlOnRead conn stream lastReadOffset time =
      (fun sum => receivePart {conn with
          flowControlState := {conn.flowControlState with sumCurReadOffset := sum}}) <$>
        incrementWithOverFlowCheck conn.flowControlState.sumCurReadOffset
          (sub64 stream.currentReadOffset lastReadOffset) := by
  cases credited : updateFlowControlOnRead conn stream lastReadOffset time with
  | error error =>
    rcases bind_error.mp credited with failed | ⟨_,_,failed⟩
    · rw [failed]
      rfl
    · cases failed
  | ok next =>
    have credit := updateFlowControlOnRead_ok credited
    obtain ⟨sum,counted,-⟩ := bind_ok.mp credited
    rw [counted]
    refine congrArg Except.ok ?_
    unfold receivePart
    rw [credit.sum,credit.observed,credit.advertised,incrementWithOverFlowCheck_ok counted]

private theorem onStreamData_part (previous bufferEnd : Nat) :
    updateFlowControlOnStreamData (receivePart conn) (receiveSide stream) previous bufferEnd =
      receivePart <$> updateFlowControlOnStreamData conn stream previous bufferEnd := by
  unfold updateFlowControlOnStreamData
  by_cases beyond : stream.flowControlState.advertisedMaxOffset < bufferEnd
  · simp only [receiveSide,beyond,if_true]
    rfl
  simp only [receivePart,receiveSide,beyond,if_false]
  cases incrementWithOverFlowCheck conn.flowControlState.sumMaxObservedOffset _ with
  | error error => rfl
  | ok sum =>
    by_cases above : sum > conn.flowControlState.advertisedMaxOffset <;>
      simp only [bind,Except.bind,above,if_true,if_false] <;> rfl

/-- What a read leaves and returns, on the receive side. -/
private def readPart (outcome : ReadOutcome) :
    QuicConnectionState × QuicStreamState × Bytes × Bool :=
  (receivePart outcome.conn,receiveSide outcome.stream,outcome.data,outcome.eof)

private theorem readFin_side :
    (receiveSide stream).readFinIfReached = receiveSide stream.readFinIfReached :=
  (apply_ite receiveSide (stream.finalReadOffset = some stream.currentReadOffset)
    {stream with currentReadOffset := stream.currentReadOffset + 1} stream).symm

private theorem finish_part (result : Except Error QuicConnectionState) (data : Bytes) (eof : Bool) :
    readPart <$> (do return finishRead (← result) stream data eof) =
      (fun conn => (conn,receiveSide stream,data,eof)) <$> (receivePart <$> result) := by
  cases result <;> rfl

private theorem credited_part (lastReadOffset : Nat) (now : TimePoint) (data : Bytes) (eof : Bool) :
    readPart <$> (do
      let conn ← updateFlowControlOnRead (receivePart conn) (receiveSide stream) lastReadOffset now
      return finishRead conn (receiveSide stream).readFinIfReached data eof) =
    readPart <$> (do
      let conn ← updateFlowControlOnRead conn stream lastReadOffset now
      return finishRead conn stream.readFinIfReached data eof) := by
  rw [finish_part,finish_part,onRead_part,onRead_part,readFin_side]
  rfl

private theorem read_part (amount : Nat) (now : TimePoint) :
    readPart <$> readDataFromQuicStream (receivePart conn) (receiveSide stream) amount now =
      readPart <$> readDataFromQuicStream conn stream amount now := by
  unfold readDataFromQuicStream takeDataFromQuicStream
  by_cases ended : stream.finalReadOffset.any (stream.currentReadOffset ≥ ·)
  · rw [if_pos ended,if_pos (show (receiveSide stream).finalReadOffset.any
      ((receiveSide stream).currentReadOffset ≥ ·) from ended),readFin_side]
    rfl
  · rw [if_neg ended,if_neg (show ¬(receiveSide stream).finalReadOffset.any
      ((receiveSide stream).currentReadOffset ≥ ·) from ended)]
    exact credited_part conn {stream with toQuicStreamLike :=
      (readDataInOrderFromReadBuffer stream.toQuicStreamLike amount false).1} _ now _ _

private theorem append_part (buffer : StreamBuffer) :
    appendDataToReadBuffer (receivePart conn) (receiveSide stream) buffer =
      Prod.map receivePart receiveSide <$> appendDataToReadBuffer conn stream buffer := by
  unfold appendDataToReadBuffer appendDataToReadBufferCommon
  split_ifs
  · rfl
  · have checks : checkFinalOffset (receiveSide stream).toQuicStreamLike buffer.stop buffer.eof =
        (fun like => (receiveSide {stream with toQuicStreamLike := like}).toQuicStreamLike) <$>
          checkFinalOffset stream.toQuicStreamLike buffer.stop buffer.eof := by
      unfold checkFinalOffset
      rw [show (receiveSide stream).finalReadOffset = stream.finalReadOffset from rfl,
        show (receiveSide stream).maxOffsetObserved = stream.maxOffsetObserved from rfl]
      split_ifs <;> rfl
    rw [checks]
    cases checkFinalOffset stream.toQuicStreamLike buffer.stop buffer.eof with
    | error error => rfl
    | ok like =>
      change ((updateFlowControlOnStreamData (receivePart conn) (receiveSide stream)
        like.maxOffsetObserved buffer.stop >>= _) >>= _) = _
      rw [onStreamData_part]
      cases credited : updateFlowControlOnStreamData conn stream like.maxOffsetObserved buffer.stop <;>
        simp only [bind,Except.bind,credited] <;> rfl

private theorem receive_part (frame : ReadStreamFrame) :
    Prod.map receivePart receiveSide <$>
      receiveReadStreamFrameSMHandler (receivePart conn) (receiveSide stream) frame =
    Prod.map receivePart receiveSide <$> receiveReadStreamFrameSMHandler conn stream frame := by
  unfold receiveReadStreamFrameSMHandler
  rw [show (receiveSide stream).recvState = stream.recvState from rfl]
  cases stream.recvState with
  | closed => rfl
  | invalid => rfl
  | openState =>
    dsimp only
    rw [append_part]
    cases appendDataToReadBuffer conn stream ⟨frame.data,frame.offset,frame.fin⟩ with
    | error error => rfl
    | ok appended =>
      obtain ⟨conn,stream⟩ := appended
      refine congrArg Except.ok ?_
      dsimp only [Prod.map]
      by_cases all : isAllDataReceived stream = true
      · simp only [if_pos all,if_pos (show isAllDataReceived (receiveSide stream) = true from all)]
        unfold addClosedIfTerminal
        split_ifs <;> rfl
      · simp only [if_neg all,if_neg (show ¬isAllDataReceived (receiveSide stream) = true from all)]
        rfl

end Commutes

variable {reader other next last : StreamReader} {event : ReaderEvent} {events : List ReaderEvent}

private theorem reader_frame (reader : StreamReader) (frame : ReadStreamFrame) :
    StreamReader.received <$> reader.step (.frame frame) =
      (fun pair => ⟨pair.1,pair.2,reader.reads⟩) <$> (Prod.map receivePart receiveSide <$>
        receiveReadStreamFrameSMHandler reader.conn reader.stream frame) := by
  dsimp only [StreamReader.step]
  cases receiveReadStreamFrameSMHandler reader.conn reader.stream frame <;> rfl

private theorem reader_read (reader : StreamReader) (amount : Nat) (now : TimePoint) :
    StreamReader.received <$> reader.step (.read amount now) =
      (fun part => ⟨part.1,part.2.1,(part.2.2.1,part.2.2.2) :: reader.reads⟩) <$> (readPart <$>
        readDataFromQuicStream reader.conn reader.stream amount now) := by
  dsimp only [StreamReader.step]
  cases readDataFromQuicStream reader.conn reader.stream amount now <;> rfl

/-- What is received and read depends on the receive side alone. -/
private theorem step_received (later : event.isReset = false) :
    StreamReader.received <$> reader.received.step event = StreamReader.received <$> reader.step event := by
  cases event with
  | frame frame =>
    rw [reader_frame,reader_frame reader]
    exact congrArg _ (receive_part reader.conn reader.stream frame)
  | read amount now =>
    rw [reader_read,reader_read reader]
    exact congrArg _ (read_part reader.conn reader.stream amount now)
  | reset errorCode => cases later

private theorem sendRst_credit {conn after : QuicConnectionState} {stream changed : QuicStreamState}
    {errorCode : Nat} (done : sendRstSMHandler conn stream errorCode = .ok (after,changed)) :
    (∃ sum, after.flowControlState = {conn.flowControlState with sumCurStreamBufferLen := sum}) ∧
      (changed = stream ∨ stream.sendState = .openState ∧
        receiveSide changed = receiveSide {stream with readBuffer := []}) := by
  unfold sendRstSMHandler at done
  split at done
  next isOpen =>
    obtain ⟨⟨conn₁,stream₁⟩,cleared,same⟩ := bind_ok.mp done
    cases same
    obtain ⟨conn₂,debited,same⟩ := bind_ok.mp cleared
    cases same
    obtain ⟨sum,-,same⟩ := bind_ok.mp debited
    cases same
    refine ⟨⟨sum,?_⟩,.inr ⟨isOpen,rfl⟩⟩
    unfold appendPendingStreamReset
    split <;> rfl
  next => cases done; exact ⟨⟨_,rfl⟩,.inl rfl⟩
  next => cases done; exact ⟨⟨_,rfl⟩,.inl rfl⟩
  next => cases done

private theorem reset_received {errorCode : Nat} (unbuffered : ResetsUnbuffered reader (.reset errorCode))
    (done : reader.step (.reset errorCode) = .ok next) : next.received = reader.received := by
  obtain ⟨⟨conn,stream⟩,reset,same⟩ := bind_ok.mp done
  cases same
  obtain ⟨⟨sum,credit⟩,side⟩ := sendRst_credit reset
  have part : receivePart conn = receivePart reader.conn := by
    unfold receivePart
    rw [credit]
  refine congrArg₂ (StreamReader.mk · · reader.reads) part ?_
  rcases side with same | ⟨isOpen,same⟩
  · exact congrArg receiveSide same
  · rw [same,← unbuffered rfl isOpen]

private theorem run_received (same : other.received = reader.received)
    (met : StepsMeet StreamReader.step ResetsUnbuffered reader events)
    (ran : run StreamReader.step reader events = .ok last) :
    ∃ unreset, run StreamReader.step other (events.filter (!·.isReset)) = .ok unreset ∧
      unreset.received = last.received := by
  induction events generalizing reader other with
  | nil =>
    cases ran
    exact ⟨other,rfl,same⟩
  | cons event rest ih =>
    obtain ⟨next,taken,finish⟩ := run_cons.mp ran
    obtain ⟨unbuffered,later⟩ := met next taken
    cases kind : event.isReset with
    | true =>
      rw [List.filter_cons_of_neg (by simp [kind])]
      cases event with
      | reset errorCode => exact ih (same.trans (reset_received unbuffered taken).symm) later finish
      | _ => cases kind
    | false =>
      rw [List.filter_cons_of_pos (by simp [kind])]
      have both : StreamReader.received <$> other.step event = .ok next.received := by
        rw [← step_received kind,same,step_received kind,taken]
        rfl
      obtain ⟨after,stepped,equal⟩ := map_ok both
      obtain ⟨unreset,finished,alike⟩ := ih equal later finish
      exact ⟨unreset,run_cons.mpr ⟨after,stepped,finished⟩,alike⟩

/-- If nothing waits to be read at any reset, then what is received, read and accounted is what it
is without the resets, and a reset leaves all flow control of the receive side. -/
theorem reset_leaves_reads (reader : StreamReader) (events : List ReaderEvent) (last : StreamReader)
    (met : StepsMeet StreamReader.step ResetsUnbuffered reader events)
    (ran : run StreamReader.step reader events = .ok last) :
    (∃ unreset, run StreamReader.step reader (events.filter (!·.isReset)) = .ok unreset ∧
      unreset.reads = last.reads ∧ receiveSide unreset.stream = receiveSide last.stream ∧
      receivePart unreset.conn = receivePart last.conn) ∧
    ∀ conn stream errorCode after changed,
      sendRstSMHandler conn stream errorCode = .ok (after,changed) →
      (∃ sum, after.flowControlState = {conn.flowControlState with sumCurStreamBufferLen := sum}) ∧
        changed.flowControlState = stream.flowControlState := by
  constructor
  · obtain ⟨unreset,finished,same⟩ := run_received rfl met ran
    simp only [StreamReader.received,StreamReader.mk.injEq] at same
    exact ⟨unreset,finished,same.2.2,same.2.1,same.1⟩
  · intro conn stream errorCode after changed done
    obtain ⟨credit,same | ⟨-,same⟩⟩ := sendRst_credit done
    · exact ⟨credit,congrArg _ same⟩
    · refine ⟨credit,?_⟩
      change (receiveSide changed).flowControlState = _
      rw [same]
      rfl

/-- Three bytes are received and not read yet. -/
def unread : StreamReader :=
  ⟨{nodeType := .client, flowControlState := {advertisedMaxOffset := 10, sumMaxObservedOffset := 3}},
    {id := 0, readBuffer := [⟨[1,2,3],0,false⟩], maxOffsetObserved := 3,
     flowControlState := {advertisedMaxOffset := 10}},[]⟩

theorem reset_leaves_reads_once :
    ∃ unreset, run StreamReader.step unread [.read 0 0] = .ok unreset ∧
      unreset.reads = [([1,2,3],false)] := by
  obtain ⟨last,ran,reads⟩ : ∃ last, run StreamReader.step unread [.read 0 0,.reset 7] = .ok last ∧
      last.reads = [([1,2,3],false)] := ⟨_,rfl,rfl⟩
  obtain ⟨⟨unreset,finished,same,-⟩,-⟩ := reset_leaves_reads unread [.read 0 0,.reset 7] last
    (by
      rintro _ ⟨⟩
      refine ⟨fun reset => (by cases reset),?_⟩
      rintro _ ⟨⟩
      exact ⟨fun _ _ => rfl,trivial⟩) ran
  exact ⟨unreset,finished,same.trans reads⟩

/-- After the reset the read returns nothing of the bytes that were there. -/
theorem reset_drops_reads :
    (StreamReader.reads <$> run StreamReader.step unread [.reset 7,.read 0 0]) = .ok [([],false)] ∧
      (StreamReader.reads <$> run StreamReader.step unread [.read 0 0]) = .ok [([1,2,3],false)] :=
  ⟨rfl,rfl⟩

end StreamServer.State
