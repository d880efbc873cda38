import StreamServer.State.StreamFunctions

/-! The send and receive state machines of a stream and the functions they call. -/
namespace StreamServer.State
open Protocol FlowControl

def StreamSendState.toText : StreamSendState → String
  | .openState => "Open"
  | .resetSent => "ResetSent"
  | .closed => "Closed"
  | .invalid => "Invalid"

def StreamRecvState.toText : StreamRecvState → String
  | .openState => "Open"
  | .closed => "Closed"
  | .invalid => "Invalid"

private def invalidTransition (state : String) : Error :=
  .transport .streamStateError ("Invalid transition from state=" ++ state)

def addClosedIfTerminal (conn : QuicConnectionState) (stream : QuicStreamState) :
    QuicConnectionState :=
  if stream.inTerminalStates then conn.manage (·.addClosed stream.id) else conn

def resetQuicStream (conn : QuicConnectionState) (stream : QuicStreamState) (error : Nat) :
    Except Error (QuicConnectionState × QuicStreamState) := do
  let conn ← updateFlowControlOnResetStream conn stream
  let stream := {stream with
    retransmissionBuffer := ∅
    writeBuffer := []
    readBuffer := []
    lossBuffer := []
    streamWriteError := some (.application error)
    writeBufMeta := {stream.writeBufMeta with length := 0}
    retransmissionBufMetas := ∅
    lossBufMetas := []}
  return (conn.manage (fun manager =>
    (manager.updateReadableStreams stream).updateWritableStreams stream),stream)

/-- Past the final offset all bytes and the FIN have been read already; otherwise the unread bytes
count as read. -/
def returnCreditOnReset (conn : QuicConnectionState) (stream : QuicStreamState)
    (frame : RstStreamFrame) (now : TimePoint) :
    Except Error (QuicConnectionState × QuicStreamState) :=
  if stream.currentReadOffset > frame.offset then .ok (conn,stream)
  else do
    let lastReadOffset := stream.currentReadOffset
    let stream := {stream with
      currentReadOffset := frame.offset
      maxOffsetObserved := frame.offset}
    let conn ← updateFlowControlOnRead conn stream lastReadOffset now
    return (conn,stream)

def onResetQuicStream (conn : QuicConnectionState) (stream : QuicStreamState)
    (frame : RstStreamFrame) (now : TimePoint) :
    Except Error (QuicConnectionState × QuicStreamState) :=
  match stream.finalReadOffset with
  | some final =>
    if final ≠ frame.offset then
      .error (.transport .finalSizeError
        ("Read offset mismatch, " ++ toString final ++ " != " ++ toString frame.offset))
    else reset
  | none => reset
where
  reset : Except Error (QuicConnectionState × QuicStreamState) :=
    if stream.maxOffsetObserved > frame.offset then
      .error (.transport .finalSizeError "Reset in middle of stream")
    else do
      let conn ← updateFlowControlOnStreamData conn stream stream.maxOffsetObserved frame.offset
      let stream := {stream with
        readBuffer := []
        finalReadOffset := some frame.offset
        streamReadError := some (.application frame.errorCode)}
      let (conn,stream) ← returnCreditOnReset conn stream frame now
      return (conn.manage (fun manager =>
        (manager.updateReadableStreams stream).updateWritableStreams stream),stream)

def isAllDataReceived (stream : QuicStreamState) : Bool :=
  match stream.finalReadOffset with
  | none => false
  | some final =>
    if final ≤ stream.currentReadOffset then true
    else match stream.readBuffer with
      | [only] => stream.currentReadOffset == only.offset && only.stop == final
      | _ => false

def receiveReadStreamFrameSMHandler (conn : QuicConnectionState) (stream : QuicStreamState)
    (frame : ReadStreamFrame) : Except Error (QuicConnectionState × QuicStreamState) :=
  match stream.recvState with
  | .openState => do
    let (conn,stream) ← appendDataToReadBuffer conn stream ⟨frame.data,frame.offset,frame.fin⟩
    let (conn,stream) := if isAllDataReceived stream then
        let stream := {stream with recvState := .closed}
        (addClosedIfTerminal conn stream,stream)
      else (conn,stream)
    return (conn.manage (fun manager =>
      (manager.updateReadableStreams stream).updatePeekableStreams stream),stream)
  | .closed => .ok (conn,stream)
  | .invalid => .error (invalidTransition stream.recvState.toText)

def receiveRstStreamSMHandler (conn : QuicConnectionState) (stream : QuicStreamState)
    (frame : RstStreamFrame) (now : TimePoint) :
    Except Error (QuicConnectionState × QuicStreamState) :=
  match stream.recvState with
  | .closed => onResetQuicStream conn stream frame now
  | .openState =>
    let stream := {stream with recvState := .closed}
    onResetQuicStream (addClosedIfTerminal conn stream) stream frame now
  | .invalid => .error (invalidTransition stream.recvState.toText)

def sendRstSMHandler (conn : QuicConnectionState) (stream : QuicStreamState) (errorCode : Nat) :
    Except Error (QuicConnectionState × QuicStreamState) :=
  match stream.sendState with
  | .openState => do
    let (conn,stream) ← resetQuicStream conn stream errorCode
    return (appendPendingStreamReset conn stream errorCode,{stream with sendState := .resetSent})
  | .closed => .ok (conn,stream)
  | .resetSent => .ok (conn,stream)
  | .invalid => .error (invalidTransition stream.sendState.toText)

/-- Takes an acknowledged frame out of the retransmission copies. -/
def removeAckedFrame (stream : QuicStreamState) (frame : WriteStreamFrame) :
    Except Error QuicStreamState :=
  if !frame.fromBufMeta then
    match stream.retransmissionBuffer.lookup frame.offset with
    | none => .ok stream
    | some acked => do
      let like ← stream.toQuicStreamLike.updateAckedIntervals acked.offset acked.data.length acked.eof
      return {stream with toQuicStreamLike :=
        {like with retransmissionBuffer := like.retransmissionBuffer.erase frame.offset}}
  else
    match stream.retransmissionBufMetas.lookup frame.offset with
    | none => .ok stream
    | some acked => do
      let like ← stream.toQuicStreamLike.updateAckedIntervals acked.offset acked.length acked.eof
      return {stream with
        toQuicStreamLike := like
        retransmissionBufMetas := stream.retransmissionBufMetas.erase frame.offset}

def sendAckSMHandler (conn : QuicConnectionState) (stream : QuicStreamState)
    (ackedFrame : WriteStreamFrame) : Except Error (QuicConnectionState × QuicStreamState) :=
  match stream.sendState with
  | .openState => do
    let stream ← removeAckedFrame stream ackedFrame
    let conn := conn.manage (·.addDeliverable stream.id)
    if allBytesTillFinAcked stream then
      let stream := {stream with sendState := .closed}
      return (addClosedIfTerminal conn stream,stream)
    else return (conn,stream)
  | .closed => .ok (conn,stream)
  | .resetSent => .ok (conn,stream)
  | .invalid => .error (invalidTransition stream.sendState.toText)

def sendRstAckSMHandler (conn : QuicConnectionState) (stream : QuicStreamState) :
    Except Error (QuicConnectionState × QuicStreamState) :=
  match stream.sendState with
  | .resetSent =>
    let stream := {stream with sendState := .closed}
    .ok (addClosedIfTerminal conn stream,stream)
  | .closed => .ok (conn,stream)
  | .openState => .error (invalidTransition stream.sendState.toText)
  | .invalid => .error (invalidTransition stream.sendState.toText)

end StreamServer.State
