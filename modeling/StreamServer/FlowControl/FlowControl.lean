import StreamServer.State.StreamManager

/-! Connection and stream flow control, both directions. Functions that take a
stream and reach its connection through it act on the pair and leave it to the
caller to write the stream back; one that changes only the connection returns
only the connection. -/
namespace StreamServer.FlowControl
open Protocol State Lib.Transition

def enoughTimeElapsed (srtt : Microseconds) (settings : TransportSettings)
    (lastSendTime : Option TimePoint) (updateTime : TimePoint) : Bool :=
  match lastSendTime with
  | none => false
  | some sent => updateTime > sent &&
      updateTime - sent > settings.flowControlRttFrequency * srtt * 1000

/-- The new limit, if one is due, and the subtractions made on the way. -/
def calculateNewWindowUpdate (curReadOffset curAdvertisedOffset windowSize : Nat)
    (srtt : Microseconds) (settings : TransportSettings) (lastSendTime : Option TimePoint)
    (updateTime : TimePoint) : Option Nat × List (Nat × Nat) :=
  let nextAdvertisedOffset := add64 curReadOffset windowSize
  if nextAdvertisedOffset = curAdvertisedOffset then (none,[])
  else
    -- If we are autotuning then frequent updates aren't required.
    if enoughTimeElapsed srtt settings lastSendTime updateTime &&
        !settings.autotuneReceiveConnFlowControl then
      (some nextAdvertisedOffset,[])
    else
      let elapsed := mul64 (sub64 curAdvertisedOffset curReadOffset)
        settings.flowControlWindowFrequency
      (if elapsed < windowSize then some nextAdvertisedOffset else none,
        [(curAdvertisedOffset,curReadOffset)])

def incrementWithOverFlowCheck (num diff : Nat) : Except Error Nat :=
  if num > maxUint64 - diff then .error (.internal .internalError "flow control state overflow")
  else .ok (num + diff)

def decrementWithOverFlowCheck (num diff : Nat) : Except Error Nat :=
  if num < diff then .error (.internal .internalError "flow control state overflow")
  else .ok (num - diff)

def calculateMaximumData (stream : QuicStreamState) : Nat :=
  max (add64 stream.currentReadOffset stream.flowControlState.windowSize)
    stream.flowControlState.advertisedMaxOffset

def maybeIncreaseConnectionFlowControlWindow (state : ConnectionFlowControlState)
    (updateTime : TimePoint) (srtt : Microseconds) : ConnectionFlowControlState :=
  match state.timeOfLastFlowControlUpdate with
  | none => state
  | some last =>
    if srtt = 0 then state
    else if (updateTime - last).tdiv 1000 < 2 * srtt then
      {state with windowSize := mul64 state.windowSize 2}
    else state

def maybeSendConnWindowUpdate (conn : QuicConnectionState) (updateTime : TimePoint) :
    QuicConnectionState × Bool :=
  if conn.pendingEvents.connWindowUpdate then (conn,false)
  else
    let flow := conn.flowControlState
    let (newAdvertisedOffset,made) := calculateNewWindowUpdate flow.sumCurReadOffset
      flow.advertisedMaxOffset flow.windowSize conn.lossState.srtt conn.transportSettings
      flow.timeOfLastFlowControlUpdate updateTime
    let conn := {conn with subtractions := made ++ conn.subtractions}
    match newAdvertisedOffset with
    | none => (conn,false)
    | some _ =>
      ({conn with
        pendingEvents := {conn.pendingEvents with connWindowUpdate := true}
        flowControlState := if conn.transportSettings.autotuneReceiveConnFlowControl then
            maybeIncreaseConnectionFlowControlWindow flow updateTime conn.lossState.srtt
          else flow},true)

def maybeSendStreamWindowUpdate (conn : QuicConnectionState) (stream : QuicStreamState)
    (updateTime : TimePoint) : QuicConnectionState × Bool :=
  if !stream.shouldSendFlowControl then (conn,false)
  else if conn.streamManager.pendingWindowUpdate stream.id then (conn,false)
  else
    let (newAdvertisedOffset,made) := calculateNewWindowUpdate stream.currentReadOffset
      stream.flowControlState.advertisedMaxOffset stream.flowControlState.windowSize
      conn.lossState.srtt conn.transportSettings
      stream.flowControlState.timeOfLastFlowControlUpdate updateTime
    let conn := {conn with subtractions := made ++ conn.subtractions}
    match newAdvertisedOffset with
    | none => (conn,false)
    | some _ => (conn.manage (·.queueWindowUpdate stream.id),true)

def updateFlowControlOnStreamData (conn : QuicConnectionState) (stream : QuicStreamState)
    (previousMaxOffsetObserved bufferEndOffset : Nat) : Except Error QuicConnectionState :=
  if stream.flowControlState.advertisedMaxOffset < bufferEndOffset then
    .error (.transport .flowControlError
      ("Stream flow control violation on stream " ++ toString stream.id))
  else do
    let curMaxOffsetObserved := max previousMaxOffsetObserved bufferEndOffset
    let diff := curMaxOffsetObserved - previousMaxOffsetObserved
    let connMaxObservedOffset ←
      incrementWithOverFlowCheck conn.flowControlState.sumMaxObservedOffset diff
    if connMaxObservedOffset > conn.flowControlState.advertisedMaxOffset then
      throw (.transport .flowControlError "Connection flow control violation")
    else
      let sum ← incrementWithOverFlowCheck conn.flowControlState.sumMaxObservedOffset diff
      return {conn with flowControlState := {conn.flowControlState with sumMaxObservedOffset := sum}}

def updateFlowControlOnRead (conn : QuicConnectionState) (stream : QuicStreamState)
    (lastReadOffset : Nat) (readTime : TimePoint) : Except Error QuicConnectionState := do
  let diff := sub64 stream.currentReadOffset lastReadOffset
  let sum ← incrementWithOverFlowCheck conn.flowControlState.sumCurReadOffset diff
  let conn := {conn with
    flowControlState := {conn.flowControlState with sumCurReadOffset := sum}
    subtractions := (stream.currentReadOffset,lastReadOffset) :: conn.subtractions}
  return (maybeSendStreamWindowUpdate (maybeSendConnWindowUpdate conn readTime).1 stream readTime).1

def updateFlowControlOnWriteToSocket (conn : QuicConnectionState) (length : Nat) :
    Except Error QuicConnectionState := do
  let sum ← incrementWithOverFlowCheck conn.flowControlState.sumCurWriteOffset length
  return {conn with flowControlState := {conn.flowControlState with
    sumCurWriteOffset := sum
    sumCurStreamBufferLen := sub64 conn.flowControlState.sumCurStreamBufferLen length}}

def updateFlowControlOnResetStream (conn : QuicConnectionState) (stream : QuicStreamState) :
    Except Error QuicConnectionState := do
  let sum ← decrementWithOverFlowCheck conn.flowControlState.sumCurStreamBufferLen
    (stream.writeBuffer.length + stream.writeBufMeta.length)
  return {conn with flowControlState := {conn.flowControlState with sumCurStreamBufferLen := sum}}

def getSendStreamFlowControlBytesWire (stream : QuicStreamState) : Nat :=
  sub64 stream.flowControlState.peerAdvertisedMaxOffset stream.nextOffsetToWrite

def getSendConnFlowControlBytesWire (conn : QuicConnectionState) : Nat :=
  sub64 conn.flowControlState.peerAdvertisedMaxOffset conn.flowControlState.sumCurWriteOffset

def maybeWriteDataBlockedAfterSocketWrite (conn : QuicConnectionState) : QuicConnectionState :=
  if getSendConnFlowControlBytesWire conn = 0 then
    {conn with pendingEvents := {conn.pendingEvents with sendDataBlocked := true}}
  else conn

def maybeWriteBlockAfterSocketWrite (conn : QuicConnectionState) (stream : QuicStreamState) :
    QuicConnectionState :=
  if stream.streamWriteError.isSome then conn
  else if stream.finalWriteOffset.isSome ∧ stream.hasSentFIN then conn
  else if getSendStreamFlowControlBytesWire stream = 0 ∧
      (!stream.writeBuffer.isEmpty ∨ stream.writeBufMeta.length > 0) then
    conn.manage (·.queueBlocked stream.id stream.flowControlState.peerAdvertisedMaxOffset)
  else conn

def handleConnBlocked (conn : QuicConnectionState) : QuicConnectionState :=
  {conn with pendingEvents := {conn.pendingEvents with connWindowUpdate := true}}

def handleStreamBlocked (conn : QuicConnectionState) (stream : QuicStreamState) :
    QuicConnectionState := conn.manage (·.queueWindowUpdate stream.id)

def onConnWindowUpdateSent (conn : QuicConnectionState) (maximumDataSent : Nat)
    (sentTime : TimePoint) : QuicConnectionState :=
  {conn with
    flowControlState := {conn.flowControlState with
      advertisedMaxOffset := maximumDataSent
      timeOfLastFlowControlUpdate := some sentTime}
    pendingEvents := {conn.pendingEvents with connWindowUpdate := false}}

def onStreamWindowUpdateSent (conn : QuicConnectionState) (stream : QuicStreamState)
    (maximumDataSent : Nat) (sentTime : TimePoint) : QuicConnectionState × QuicStreamState :=
  (conn.manage (·.removeWindowUpdate stream.id),
    {stream with flowControlState := {stream.flowControlState with
      advertisedMaxOffset := maximumDataSent
      timeOfLastFlowControlUpdate := some sentTime}})

def onConnWindowUpdateLost (conn : QuicConnectionState) : QuicConnectionState :=
  {conn with pendingEvents := {conn.pendingEvents with connWindowUpdate := true}}

def onStreamWindowUpdateLost (conn : QuicConnectionState) (stream : QuicStreamState) :
    QuicConnectionState :=
  if !stream.shouldSendFlowControl then conn else conn.manage (·.queueWindowUpdate stream.id)

def onBlockedLost (conn : QuicConnectionState) (stream : QuicStreamState) : QuicConnectionState :=
  maybeWriteBlockAfterSocketWrite conn stream

def onDataBlockedLost (conn : QuicConnectionState) : QuicConnectionState :=
  maybeWriteDataBlockedAfterSocketWrite conn

def updateFlowControlStateWithSettings (conn : QuicConnectionState) : QuicConnectionState :=
  {conn with flowControlState := {conn.flowControlState with
    windowSize := conn.transportSettings.advertisedInitialConnectionWindowSize.toNat
    advertisedMaxOffset := conn.transportSettings.advertisedInitialConnectionWindowSize.toNat}}

def generateMaxDataFrame (conn : QuicConnectionState) : Nat :=
  max (add64 conn.flowControlState.sumCurReadOffset conn.flowControlState.windowSize)
    conn.flowControlState.advertisedMaxOffset

def generateMaxStreamDataFrame (stream : QuicStreamState) : Nat := calculateMaximumData stream

theorem incrementWithOverFlowCheck_ok {num diff sum : Nat}
    (ok : incrementWithOverFlowCheck num diff = .ok sum) : sum = num + diff := by
  simp only [incrementWithOverFlowCheck] at ok
  split at ok
  · cases ok
  · cases ok
    rfl

/-- The errors with which flow control refuses a frame or a read. -/
def FlowControlFailure (error : Error) : Prop :=
  (∃ message, error = .transport .flowControlError message) ∨
    error = .internal .internalError "flow control state overflow"

variable {error : Error} {stream : QuicStreamState} {lastReadOffset : Nat} {time : TimePoint}

theorem incrementWithOverFlowCheck_error {num diff : Nat}
    (failed : incrementWithOverFlowCheck num diff = .error error) : FlowControlFailure error := by
  simp only [incrementWithOverFlowCheck] at failed
  split at failed
  · cases failed
    exact .inr rfl
  · cases failed

section StreamData

variable {conn next : QuicConnectionState} {stream : QuicStreamState} {previous bufferEnd : Nat}

theorem updateFlowControlOnStreamData_ok
    (ok : updateFlowControlOnStreamData conn stream previous bufferEnd = .ok next) :
    bufferEnd ≤ stream.flowControlState.advertisedMaxOffset ∧
      conn.flowControlState.sumMaxObservedOffset + (max previous bufferEnd - previous) ≤
        conn.flowControlState.advertisedMaxOffset ∧
      next = {conn with flowControlState := {conn.flowControlState with
        sumMaxObservedOffset := conn.flowControlState.sumMaxObservedOffset +
          (max previous bufferEnd - previous)}} := by
  simp only [updateFlowControlOnStreamData] at ok
  split at ok
  · cases ok
  · rename_i within
    obtain ⟨sum,counted,ok⟩ := bind_ok.mp ok
    rw [incrementWithOverFlowCheck_ok counted] at ok
    split at ok
    · cases ok
    · rename_i allowed
      obtain ⟨sum,counted,ok⟩ := bind_ok.mp ok
      rw [incrementWithOverFlowCheck_ok counted] at ok
      cases ok
      exact ⟨by omega,by omega,rfl⟩

theorem updateFlowControlOnStreamData_error
    (failed : updateFlowControlOnStreamData conn stream previous bufferEnd = .error error) :
    FlowControlFailure error := by
  simp only [updateFlowControlOnStreamData] at failed
  split at failed
  · cases failed
    exact .inl ⟨_,rfl⟩
  · rcases bind_error.mp failed with overflow | ⟨sum,counted,failed⟩
    · exact incrementWithOverFlowCheck_error overflow
    split at failed
    · cases failed
      exact .inl ⟨_,rfl⟩
    rcases bind_error.mp failed with overflow | ⟨_,_,failed⟩
    · exact incrementWithOverFlowCheck_error overflow
    · cases failed

/-- Accepting the data would pass the limit of the stream or that of the connection. -/
def BreaksLimit (conn : QuicConnectionState) (stream : QuicStreamState) (bufferEnd : Nat) : Prop :=
  stream.flowControlState.advertisedMaxOffset < bufferEnd ∨
    conn.flowControlState.advertisedMaxOffset < conn.flowControlState.sumMaxObservedOffset +
      (max stream.maxOffsetObserved bufferEnd - stream.maxOffsetObserved)

/-- The error of data that breaks a limit: FLOW_CONTROL_ERROR, unless the sum of observed offsets
itself cannot be represented. -/
def LimitError (conn : QuicConnectionState) (stream : QuicStreamState) (bufferEnd : Nat)
    (error : Error) : Prop :=
  (∃ message, error = .transport .flowControlError message) ∨
    (maxUint64 < conn.flowControlState.sumMaxObservedOffset +
        (max stream.maxOffsetObserved bufferEnd - stream.maxOffsetObserved) ∧
      error = .internal .internalError "flow control state overflow")

theorem updateFlowControlOnStreamData_breaks (breaks : BreaksLimit conn stream bufferEnd) :
    ∃ error, updateFlowControlOnStreamData conn stream stream.maxOffsetObserved bufferEnd =
      .error error ∧ LimitError conn stream bufferEnd error := by
  cases checked : updateFlowControlOnStreamData conn stream stream.maxOffsetObserved bufferEnd with
  | ok next =>
    obtain ⟨allowed,withinConn,_⟩ := updateFlowControlOnStreamData_ok checked
    rcases breaks with beyond | beyond <;> omega
  | error e =>
    refine ⟨e,rfl,?_⟩
    simp only [updateFlowControlOnStreamData] at checked
    have overflow {diff : Nat} (failed : incrementWithOverFlowCheck
        conn.flowControlState.sumMaxObservedOffset diff = .error e) :
        maxUint64 < conn.flowControlState.sumMaxObservedOffset + diff ∧
          e = .internal .internalError "flow control state overflow" := by
      simp only [incrementWithOverFlowCheck] at failed
      split at failed
      · cases failed
        exact ⟨by omega,rfl⟩
      · cases failed
    split at checked
    · cases checked
      exact .inl ⟨_,rfl⟩
    rcases bind_error.mp checked with failed | ⟨_,_,checked⟩
    · exact .inr (overflow failed)
    split at checked
    · cases checked
      exact .inl ⟨_,rfl⟩
    rcases bind_error.mp checked with failed | ⟨_,_,checked⟩
    · exact .inr (overflow failed)
    · cases checked

end StreamData

structure ReadCredit (conn next : QuicConnectionState) (stream : QuicStreamState)
    (lastReadOffset : Nat) : Prop where
  sum : next.flowControlState.sumCurReadOffset = conn.flowControlState.sumCurReadOffset +
    sub64 stream.currentReadOffset lastReadOffset
  observed : next.flowControlState.sumMaxObservedOffset =
    conn.flowControlState.sumMaxObservedOffset
  advertised : next.flowControlState.advertisedMaxOffset =
    conn.flowControlState.advertisedMaxOffset
  streams : next.streamManager.streams = conn.streamManager.streams
  subtractions : ∀ pair ∈ next.subtractions, pair ∈ conn.subtractions ∨
    pair = (stream.currentReadOffset,lastReadOffset) ∨
    pair = (conn.flowControlState.advertisedMaxOffset,next.flowControlState.sumCurReadOffset) ∨
    (stream.recvState = .openState ∧
      pair = (stream.flowControlState.advertisedMaxOffset,stream.currentReadOffset))

private theorem calculateNewWindowUpdate_made (read advertised window : Nat) (srtt : Microseconds)
    (settings : TransportSettings) (last : Option TimePoint) (time : TimePoint) :
    ∀ pair ∈ (calculateNewWindowUpdate read advertised window srtt settings last time).2,
      pair = (advertised,read) := by
  simp only [calculateNewWindowUpdate]
  split
  · simp
  split
  · simp
  · simp

private theorem connWindowUpdate_changes (conn : QuicConnectionState) (time : TimePoint) :
    let next := (maybeSendConnWindowUpdate conn time).1
    next.flowControlState.sumCurReadOffset = conn.flowControlState.sumCurReadOffset ∧
      next.flowControlState.sumMaxObservedOffset = conn.flowControlState.sumMaxObservedOffset ∧
      next.flowControlState.advertisedMaxOffset = conn.flowControlState.advertisedMaxOffset ∧
      next.streamManager = conn.streamManager ∧
      ∀ pair ∈ next.subtractions, pair ∈ conn.subtractions ∨
        pair = (conn.flowControlState.advertisedMaxOffset,conn.flowControlState.sumCurReadOffset) := by
  have grown (state : ConnectionFlowControlState) (srtt : Microseconds) :
      let next := maybeIncreaseConnectionFlowControlWindow state time srtt
      next.sumCurReadOffset = state.sumCurReadOffset ∧
        next.sumMaxObservedOffset = state.sumMaxObservedOffset ∧
        next.advertisedMaxOffset = state.advertisedMaxOffset := by
    simp only [maybeIncreaseConnectionFlowControlWindow]
    split
    · simp
    split
    · simp
    split <;> simp
  have made := calculateNewWindowUpdate_made conn.flowControlState.sumCurReadOffset
    conn.flowControlState.advertisedMaxOffset conn.flowControlState.windowSize
    conn.lossState.srtt conn.transportSettings
    conn.flowControlState.timeOfLastFlowControlUpdate time
  simp only [maybeSendConnWindowUpdate]
  split
  · exact ⟨rfl,rfl,rfl,rfl,fun pair member => .inl member⟩
  · have logged : ∀ pair ∈ (calculateNewWindowUpdate conn.flowControlState.sumCurReadOffset
        conn.flowControlState.advertisedMaxOffset conn.flowControlState.windowSize
        conn.lossState.srtt conn.transportSettings
        conn.flowControlState.timeOfLastFlowControlUpdate time).2 ++ conn.subtractions,
        pair ∈ conn.subtractions ∨ pair =
          (conn.flowControlState.advertisedMaxOffset,conn.flowControlState.sumCurReadOffset) := by
      exact List.forall_mem_append.mpr ⟨fun pair new => .inr (made pair new),fun _ => .inl⟩
    split
    · exact ⟨rfl,rfl,rfl,rfl,logged⟩
    · refine ⟨?_,?_,?_,rfl,logged⟩
      · simp only
        split
        · exact (grown _ _).1
        · rfl
      · simp only
        split
        · exact (grown _ _).2.1
        · rfl
      · simp only
        split
        · exact (grown _ _).2.2
        · rfl

private theorem streamWindowUpdate_changes (conn : QuicConnectionState) (stream : QuicStreamState)
    (time : TimePoint) :
    let next := (maybeSendStreamWindowUpdate conn stream time).1
    next.flowControlState = conn.flowControlState ∧
      next.streamManager.streams = conn.streamManager.streams ∧
      ∀ pair ∈ next.subtractions, pair ∈ conn.subtractions ∨ (stream.recvState = .openState ∧
        pair = (stream.flowControlState.advertisedMaxOffset,stream.currentReadOffset)) := by
  simp only [maybeSendStreamWindowUpdate]
  split
  · exact ⟨rfl,rfl,fun pair member => .inl member⟩
  · rename_i receiving
    split
    · exact ⟨rfl,rfl,fun pair member => .inl member⟩
    · have logged : ∀ pair ∈ (calculateNewWindowUpdate stream.currentReadOffset
          stream.flowControlState.advertisedMaxOffset stream.flowControlState.windowSize
          conn.lossState.srtt conn.transportSettings
          stream.flowControlState.timeOfLastFlowControlUpdate time).2 ++ conn.subtractions,
          pair ∈ conn.subtractions ∨ (stream.recvState = .openState ∧
            pair = (stream.flowControlState.advertisedMaxOffset,stream.currentReadOffset)) := by
        refine List.forall_mem_append.mpr ⟨fun pair new => ?_,fun _ => .inl⟩
        refine .inr ⟨?_,calculateNewWindowUpdate_made _ _ _ _ _ _ _ pair new⟩
        simpa [QuicStreamState.shouldSendFlowControl] using receiving
      split
      · exact ⟨rfl,rfl,logged⟩
      · exact ⟨rfl,rfl,logged⟩

theorem updateFlowControlOnRead_ok {conn next : QuicConnectionState}
    (ok : updateFlowControlOnRead conn stream lastReadOffset time = .ok next) :
    ReadCredit conn next stream lastReadOffset := by
  obtain ⟨sum,counted,ok⟩ := bind_ok.mp ok
  rw [incrementWithOverFlowCheck_ok counted] at ok
  simp only [pure,Except.pure,Except.ok.injEq] at ok
  subst ok
  obtain ⟨sameRead,sameObserved,sameAdvertised,sameManager,connMade⟩ := connWindowUpdate_changes
    {conn with
      flowControlState := {conn.flowControlState with
        sumCurReadOffset := conn.flowControlState.sumCurReadOffset +
          sub64 stream.currentReadOffset lastReadOffset}
      subtractions := (stream.currentReadOffset,lastReadOffset) :: conn.subtractions} time
  generalize maybeSendConnWindowUpdate _ time = sent at *
  obtain ⟨sameFlow,sameStreams,streamMade⟩ := streamWindowUpdate_changes sent.1 stream time
  refine ⟨?_,?_,?_,?_,?_⟩
  · simp only [sameFlow,sameRead]
  · simp only [sameFlow,sameObserved]
  · simp only [sameFlow,sameAdvertised]
  · simp only [sameStreams,sameManager]
  · intro pair member
    simp only [sameFlow,sameRead]
    rcases streamMade pair member with member | stream_pair
    · rcases connMade pair member with member | conn_pair
      · rcases List.mem_cons.mp member with read_pair | old
        · exact .inr (.inl read_pair)
        · exact .inl old
      · exact .inr (.inr (.inl conn_pair))
    · exact .inr (.inr (.inr stream_pair))

end StreamServer.FlowControl
