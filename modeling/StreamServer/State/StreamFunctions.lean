import StreamServer.FlowControl.FlowControl

/-! Functions on a stream: what the application writes, reassembly of what the
peer sends, reading it in order, and the tests the state machines make. -/
namespace StreamServer.State
open Protocol FlowControl

def writeDataToCryptoStream (stream : QuicCryptoStream) (data : Bytes) : QuicCryptoStream :=
  {stream with writeBuffer := stream.writeBuffer ++ data}

/-- The local variables of the merge loop. The pointer to the current buffer is the index it was
inserted at, or none while it still points to the new buffer. -/
structure Merge where
  readBuffer : List StreamBuffer
  buffer : StreamBuffer
  insertedAt : Option Nat := none
  startOverlap : Option Nat := none
  endOverlap : Option Nat := none
  done : Bool := false
  deriving DecidableEq, Repr

namespace Merge

def current (merge : Merge) : StreamBuffer :=
  match merge.insertedAt with
  | none => merge.buffer
  | some index => merge.readBuffer.getD index merge.buffer

def setCurrent (merge : Merge) (buffer : StreamBuffer) : Merge :=
  match merge.insertedAt with
  | none => {merge with buffer := buffer}
  | some index => {merge with readBuffer := merge.readBuffer.set index buffer}

def setItem (merge : Merge) (index : Nat) (item : StreamBuffer) : Merge :=
  {merge with readBuffer := merge.readBuffer.set index item}

def step (merge : Merge) (index : Nat) (item : StreamBuffer) : Merge :=
  let current := merge.current
  if current.offset = item.offset ∧ current.stop = item.stop then
    -- Exact overlap.
    {merge with done := true}
  else if current.offset ≥ item.offset ∧ current.stop ≤ item.stop then
    -- Subset overlap.
    {merge with done := true}
  else if current.offset ≤ item.offset ∧ current.stop ≥ item.offset ∧ current.stop ≤ item.stop then
    -- Left overlap: the rest of the item moves into the current buffer.
    let tail := item.data.drop (current.stop - item.offset)
    {(merge.setItem index {item with data := []}).setCurrent
        {current with data := current.data ++ tail} with
      startOverlap := merge.startOverlap.or (some index)
      endOverlap := some (index + 1)
      done := true}
  else if current.offset < item.offset ∧ current.stop < item.offset then
    -- Left, no overlap.
    {merge with
      startOverlap := merge.startOverlap.or (some index)
      endOverlap := if merge.startOverlap.isNone then some index else merge.endOverlap
      done := true}
  else if current.offset ≤ item.offset ∧ current.stop > item.offset then
    -- Complete overlap: need to move on.
    {merge with
      startOverlap := merge.startOverlap.or (some index)
      endOverlap := some (index + 1)}
  else if current.offset ≥ item.offset ∧ current.offset ≤ item.stop ∧ current.stop > item.stop then
    -- Right overlap: the rest of the current buffer moves into the item, which becomes current.
    let tail := current.data.drop (item.stop - current.offset)
    {(merge.setCurrent {current with data := []}).setItem index
        {item with data := item.data ++ tail} with
      insertedAt := some index
      startOverlap := some (index + 1)
      endOverlap := some (index + 1)}
  else merge

def loop (merge : Merge) (index : Nat) : Nat → Merge
  | 0 => merge
  | remaining + 1 =>
    if merge.done then merge
    else match merge.readBuffer[index]? with
      | none => merge
      | some item => (merge.step index item).loop (index + 1) remaining

def finish (merge : Merge) : List StreamBuffer :=
  match merge.startOverlap, merge.endOverlap with
  | some first, some last =>
    if merge.insertedAt.isNone then
      merge.readBuffer.take first ++ merge.buffer :: merge.readBuffer.drop last
    else merge.readBuffer.take first ++ merge.readBuffer.drop last
  | _, _ =>
    match merge.readBuffer.getLast? with
    | none => merge.readBuffer
    | some last =>
      if merge.current.offset > last.stop then merge.readBuffer ++ [merge.current]
      else merge.readBuffer

end Merge

/-- The part of the append that works on a buffer already trimmed to the read offset. -/
def mergeIntoReadBuffer (readBuffer : List StreamBuffer) (buffer : StreamBuffer) :
    List StreamBuffer :=
  if readBuffer.isEmpty then [buffer]
  else
    let first := (readBuffer.takeWhile (fun item => item.stop < buffer.offset)).length
    (({readBuffer := readBuffer, buffer := buffer} : Merge).loop first
      (readBuffer.length - first)).finish

def checkFinalOffset (stream : QuicStreamLike) (bufferEndOffset : Nat) (eof : Bool) :
    Except Error QuicStreamLike :=
  if eof then
    if stream.finalReadOffset.any (· != bufferEndOffset) then
      .error (.transport .finalSizeError "Invalid EOF")
    else if stream.maxOffsetObserved > bufferEndOffset then
      .error (.transport .finalSizeError "EOF in middle of stream")
    else .ok {stream with finalReadOffset := some bufferEndOffset}
  else if stream.finalReadOffset.any (bufferEndOffset > ·) then
    .error (.transport .finalSizeError "Invalid data after EOF")
  else .ok stream

def trimToReadOffset (currentReadOffset : Nat) (buffer : StreamBuffer) : StreamBuffer :=
  if buffer.offset < currentReadOffset then
    {buffer with
      data := buffer.data.drop (currentReadOffset - buffer.offset)
      offset := currentReadOffset}
  else buffer

def appendUnread (stream : QuicStreamLike) (buffer : StreamBuffer) : List StreamBuffer :=
  let buffer := trimToReadOffset stream.currentReadOffset buffer
  if buffer.data.isEmpty then stream.readBuffer else mergeIntoReadBuffer stream.readBuffer buffer

/-- An empty buffer without EOF is dropped. The flow control visitor runs before the highest
offset changes. -/
def appendDataToReadBufferCommon {context : Type} (stream : QuicStreamLike) (buffer : StreamBuffer)
    (conn : context) (connFlowControlVisitor : context → Nat → Nat → Except Error context) :
    Except Error (context × QuicStreamLike) :=
  if !buffer.eof && buffer.data.isEmpty then .ok (conn,stream)
  else do
    let stream ← checkFinalOffset stream buffer.stop buffer.eof
    let conn ← connFlowControlVisitor conn stream.maxOffsetObserved buffer.stop
    return (conn,{stream with
      maxOffsetObserved := max stream.maxOffsetObserved buffer.stop
      readBuffer := appendUnread stream buffer})

def appendDataToReadBuffer (conn : QuicConnectionState) (stream : QuicStreamState)
    (buffer : StreamBuffer) : Except Error (QuicConnectionState × QuicStreamState) := do
  let (conn,like) ← appendDataToReadBufferCommon stream.toQuicStreamLike buffer conn
    (fun conn previous bufferEnd => updateFlowControlOnStreamData conn stream previous bufferEnd)
  return (conn,{stream with toQuicStreamLike := like})

def appendDataToCryptoReadBuffer (stream : QuicCryptoStream) (buffer : StreamBuffer) :
    Except Error QuicCryptoStream := do
  let (_,stream) ← appendDataToReadBufferCommon stream buffer () (fun _ _ _ => .ok ())
  return stream

structure ReadResult where
  readBuffer : List StreamBuffer
  currentReadOffset : Nat
  data : Bytes
  eof : Bool
  deriving DecidableEq, Repr

def readLoop (amount : Nat) (sinkData : Bool) (remaining currentReadOffset : Nat) (data : Bytes)
    (eof : Bool) : List StreamBuffer → ReadResult
  | [] => ⟨[],currentReadOffset,data,eof⟩
  | curr :: rest =>
    if amount ≠ 0 ∧ remaining = 0 then ⟨curr :: rest,currentReadOffset,data,eof⟩
    else if curr.offset > currentReadOffset then ⟨curr :: rest,currentReadOffset,data,eof⟩
    else
      let toRead := if amount = 0 then curr.data.length else min curr.data.length remaining
      let left := curr.data.drop toRead
      let data := if sinkData then data else data ++ curr.data.take toRead
      if left.isEmpty then
        readLoop amount sinkData (remaining - toRead) (currentReadOffset + toRead) data curr.eof rest
      else
        -- Less than the whole buffer was read, so the amount is used up and the loop ends.
        ⟨{curr with data := left, offset := curr.offset + toRead} :: rest,
          currentReadOffset + toRead,data,eof⟩

def readDataInOrderFromReadBuffer (stream : QuicStreamLike) (amount : Nat) (sinkData : Bool) :
    QuicStreamLike × Bytes × Bool :=
  let result := readLoop amount sinkData amount stream.currentReadOffset [] false stream.readBuffer
  ({stream with
    readBuffer := result.readBuffer
    currentReadOffset := result.currentReadOffset},result.data,result.eof)

def readDataFromCryptoStream (stream : QuicCryptoStream) (amount : Nat) :
    QuicCryptoStream × Bytes :=
  let (stream,data,_) := readDataInOrderFromReadBuffer stream amount false
  (stream,data)

structure ReadOutcome where
  conn : QuicConnectionState
  stream : QuicStreamState
  data : Bytes
  eof : Bool

def finishRead (conn : QuicConnectionState) (stream : QuicStreamState) (data : Bytes)
    (eof : Bool) : ReadOutcome :=
  ⟨conn.manage (fun manager =>
    (manager.updateReadableStreams stream).updatePeekableStreams stream),stream,data,eof⟩

/-- A read offset one past the final offset records that the FIN was read. -/
def QuicStreamState.readFinIfReached (stream : QuicStreamState) : QuicStreamState :=
  if stream.finalReadOffset = some stream.currentReadOffset then
    {stream with currentReadOffset := stream.currentReadOffset + 1}
  else stream

/-- Reading and consuming differ only in whether the data is kept. -/
def takeDataFromQuicStream (sinkData : Bool) (conn : QuicConnectionState) (stream : QuicStreamState)
    (amount : Nat) (now : TimePoint) : Except Error ReadOutcome :=
  if stream.finalReadOffset.any (stream.currentReadOffset ≥ ·) then
    .ok (finishRead conn stream.readFinIfReached [] true)
  else do
    let lastReadOffset := stream.currentReadOffset
    let (like,data,_) := readDataInOrderFromReadBuffer stream.toQuicStreamLike amount sinkData
    let stream := {stream with toQuicStreamLike := like}
    let conn ← updateFlowControlOnRead conn stream lastReadOffset now
    let eof := decide (stream.finalReadOffset = some stream.currentReadOffset)
    return finishRead conn stream.readFinIfReached data eof

def readDataFromQuicStream (conn : QuicConnectionState) (stream : QuicStreamState) (amount : Nat)
    (now : TimePoint) : Except Error ReadOutcome := takeDataFromQuicStream false conn stream amount now

def consumeDataFromQuicStream (conn : QuicConnectionState) (stream : QuicStreamState) (amount : Nat)
    (now : TimePoint) : Except Error (QuicConnectionState × QuicStreamState) := do
  let outcome ← takeDataFromQuicStream true conn stream amount now
  return (outcome.conn,outcome.stream)

/-- The application wrote a FIN, it was sent, and no buffer holds anything of the stream. -/
def allBytesTillFinAcked (stream : QuicStreamState) : Bool :=
  stream.hasSentFIN && stream.retransmissionBuffer.entries.isEmpty &&
    stream.retransmissionBufMetas.entries.isEmpty && stream.writeBuffer.isEmpty &&
    !stream.hasWritableBufMeta && stream.lossBuffer.isEmpty && stream.lossBufMetas.isEmpty

def appendPendingStreamReset (conn : QuicConnectionState) (stream : QuicStreamState)
    (errorCode : Nat) : QuicConnectionState :=
  let writeBufWritten := stream.writeBufMeta.offset ≠ 0 ∧
    stream.currentWriteOffset + stream.writeBuffer.length ≠ stream.writeBufMeta.offset
  let offset := min (if writeBufWritten then stream.writeBufMeta.offset else stream.currentWriteOffset)
    (stream.finalWriteOffset.getD maxUint64)
  match conn.pendingEvents.resets.lookup stream.id with
  | some _ => conn
  | none => {conn with pendingEvents := {conn.pendingEvents with
      resets := conn.pendingEvents.resets.insert stream.id ⟨stream.id,errorCode,offset⟩}}

def getCryptoStream (state : QuicCryptoState) : EncryptionLevel → QuicCryptoStream
  | .initial => state.initialStream
  | .handshake => state.handshakeStream
  | .earlyData => state.handshakeStream
  | .appData => state.oneRttStream

def setCryptoStream (state : QuicCryptoState) (stream : QuicCryptoStream) :
    EncryptionLevel → QuicCryptoState
  | .initial => {state with initialStream := stream}
  | .handshake => {state with handshakeStream := stream}
  | .earlyData => {state with handshakeStream := stream}
  | .appData => {state with oneRttStream := stream}

/-- Retransmissions of crypto data may have been cancelled, so a missing entry is ignored. -/
def processCryptoStreamAck (stream : QuicCryptoStream) (offset len : Nat) : QuicCryptoStream :=
  match stream.retransmissionBuffer.lookup offset with
  | none => stream
  | some acked =>
    if acked.offset ≠ offset ∨ acked.data.length ≠ len then stream
    else {stream with retransmissionBuffer := stream.retransmissionBuffer.erase offset}

def processTxStopSending (conn : QuicConnectionState) (stream : QuicStreamState) :
    QuicConnectionState × QuicStreamState :=
  let stream := {stream with recvState := .closed, readBuffer := []}
  let conn := conn.manage (fun manager =>
    {manager with readableStreams := manager.readableStreams.erase stream.id})
  (if stream.inTerminalStates then conn.manage (·.addClosed stream.id) else conn,stream)

end StreamServer.State
