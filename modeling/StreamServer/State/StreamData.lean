import StreamServer.Protocol.Frame

/-! The data of one stream: what it has buffered for reading, for writing, for
retransmission and as lost. Buffer queues are byte lists and hash maps are
association lists without duplicate keys. -/
namespace StreamServer.State
open Protocol Common

structure StreamBuffer where
  data : Bytes
  offset : Nat
  eof : Bool := false
  deriving DecidableEq, Repr

def StreamBuffer.stop (buffer : StreamBuffer) : Nat := buffer.offset + buffer.data.length

structure WriteBufferMeta where
  length : Nat := 0
  offset : Nat := 0
  eof : Bool := false
  deriving DecidableEq, Repr

/-- The part that is split off and what remains of the metadata. -/
def WriteBufferMeta.split (buffer : WriteBufferMeta) (splitLen : Nat) :
    WriteBufferMeta × WriteBufferMeta :=
  (⟨splitLen,buffer.offset,splitLen == buffer.length && buffer.eof⟩,
    {buffer with offset := buffer.offset + splitLen, length := sub64 buffer.length splitLen})

structure Priority where
  level : Nat
  incremental : Bool
  orderId : Nat := 0
  deriving DecidableEq, Repr

def kDefaultPriority : Priority := ⟨3,true,0⟩

inductive StreamSendState where
  | openState | resetSent | closed | invalid
  deriving DecidableEq, Repr

inductive StreamRecvState where
  | openState | closed | invalid
  deriving DecidableEq, Repr

structure QuicStreamLike where
  readBuffer : List StreamBuffer := []
  writeBuffer : Bytes := []
  retransmissionBuffer : AList (fun _ : Nat => StreamBuffer) := ∅
  ackedIntervals : IntervalSet := IntervalSet.empty
  lossBuffer : List StreamBuffer := []
  currentWriteOffset : Nat := 0
  currentReadOffset : Nat := 0
  maxOffsetObserved : Nat := 0
  finalReadOffset : Option Nat := none
  numPacketsTxWithNewData : Nat := 0

abbrev QuicCryptoStream := QuicStreamLike

structure StreamFlowControlState where
  windowSize : Nat := 0
  advertisedMaxOffset : Nat := 0
  peerAdvertisedMaxOffset : Nat := 0
  timeOfLastFlowControlUpdate : Option TimePoint := none
  deriving DecidableEq, Repr

structure QuicStreamState extends QuicStreamLike where
  id : StreamId
  groupId : Option Nat := none
  finalWriteOffset : Option Nat := none
  flowControlState : StreamFlowControlState := {}
  streamReadError : Option QuicErrorCode := none
  streamWriteError : Option QuicErrorCode := none
  sendState : StreamSendState := .openState
  recvState : StreamRecvState := .openState
  isControl : Bool := false
  priority : Priority := kDefaultPriority
  streamPacketIdx : Nat := 0
  writeBufMeta : WriteBufferMeta := {}
  retransmissionBufMetas : AList (fun _ : Nat => WriteBufferMeta) := ∅
  lossBufMetas : List WriteBufferMeta := []
  streamLossCount : Nat := 0

/-- With an EOF the position one past the end counts as acknowledged too. -/
def QuicStreamLike.updateAckedIntervals (stream : QuicStreamLike) (offset len : Nat) (eof : Bool) :
    Except Error QuicStreamLike := do
  let lenAdjustment := if eof then 0 else 1
  let ackedIntervals ← stream.ackedIntervals.insertRange offset (sub64 (offset + len) lenAdjustment)
  return {stream with ackedIntervals := ackedIntervals}

def insertIntoLossBuffer (lossBuffer : List StreamBuffer) (buf : StreamBuffer) : List StreamBuffer :=
  let before := lossBuffer.takeWhile (fun buffer => buffer.offset ≤ buf.offset)
  let after := lossBuffer.dropWhile (fun buffer => buffer.offset ≤ buf.offset)
  match before.getLast? with
  | none => buf :: after
  | some previous =>
    if previous.stop = buf.offset then
      before.dropLast ++ {previous with data := previous.data ++ buf.data, eof := buf.eof} :: after
    else before ++ buf :: after

/-- One removal: the entry that contains the range or is contained in it is split or dropped,
and the scan ends there. -/
def removeFromLossBufferLoop (offset len : Nat) (eof : Bool) (before : List StreamBuffer) :
    List StreamBuffer → List StreamBuffer
  | [] => before
  | item :: rest =>
    let removedEnd := offset + len
    if item.offset > removedEnd then before ++ item :: rest
    else if (offset ≥ item.offset ∧ removedEnd ≤ item.stop) ∨
        (item.offset ≥ offset ∧ item.stop ≤ removedEnd) then
      let amountToSplit := if offset > item.offset then offset - item.offset else 0
      let splitBuf := item.data.take amountToSplit
      let tail := item.data.drop amountToSplit
      let trimmed : StreamBuffer :=
        ⟨tail.drop len,item.offset + amountToSplit + min len tail.length,item.eof⟩
      let kept := if trimmed.data.isEmpty ∧ trimmed.eof = eof then before ++ rest
        else before ++ trimmed :: rest
      if amountToSplit > 0 then insertIntoLossBuffer kept ⟨splitBuf,item.offset,false⟩ else kept
    else removeFromLossBufferLoop offset len eof (before ++ [item]) rest

def removeFromLossBuffer (lossBuffer : List StreamBuffer) (offset len : Nat) (eof : Bool) :
    List StreamBuffer :=
  if lossBuffer.isEmpty ∨ len = 0 then lossBuffer
  else removeFromLossBufferLoop offset len eof [] lossBuffer

def insertIntoLossBufMeta (lossBufMetas : List WriteBufferMeta) (bufMeta : WriteBufferMeta) :
    List WriteBufferMeta :=
  let before := lossBufMetas.takeWhile (fun buffer => buffer.offset ≤ bufMeta.offset)
  let after := lossBufMetas.dropWhile (fun buffer => buffer.offset ≤ bufMeta.offset)
  match before.getLast? with
  | none => bufMeta :: after
  | some previous =>
    if previous.offset + previous.length = bufMeta.offset then
      before.dropLast ++
        {previous with length := previous.length + bufMeta.length, eof := bufMeta.eof} :: after
    else before ++ bufMeta :: after

namespace QuicStreamState

def inTerminalStates (stream : QuicStreamState) : Bool :=
  (stream.sendState == .closed || stream.sendState == .invalid) &&
    (stream.recvState == .closed || stream.recvState == .invalid)

def shouldSendFlowControl (stream : QuicStreamState) : Bool := stream.recvState == .openState

def hasWritableData (stream : QuicStreamState) : Bool :=
  if !stream.writeBuffer.isEmpty then
    sub64 stream.flowControlState.peerAdvertisedMaxOffset stream.currentWriteOffset > 0
  else match stream.finalWriteOffset with
    | some final => stream.writeBufMeta.offset == 0 && stream.currentWriteOffset ≤ final
    | none => false

def hasWritableBufMeta (stream : QuicStreamState) : Bool :=
  if stream.writeBufMeta.offset == 0 then false
  else if stream.writeBufMeta.length > 0 then
    sub64 stream.flowControlState.peerAdvertisedMaxOffset stream.writeBufMeta.offset > 0
  else match stream.finalWriteOffset with
    | some final => stream.writeBufMeta.offset ≤ final
    | none => false

def hasSchedulableData (stream : QuicStreamState) : Bool :=
  stream.hasWritableData || !stream.lossBuffer.isEmpty

def hasSchedulableDsr (stream : QuicStreamState) : Bool :=
  stream.hasWritableBufMeta || !stream.lossBufMetas.isEmpty

def hasSentFIN (stream : QuicStreamState) : Bool :=
  match stream.finalWriteOffset with
  | none => false
  | some final => stream.currentWriteOffset > final || stream.writeBufMeta.offset > final

def nextOffsetToWrite (stream : QuicStreamState) : Nat :=
  if stream.writeBufMeta.offset == 0 then stream.currentWriteOffset
  else if !stream.writeBuffer.isEmpty then stream.currentWriteOffset
  else stream.writeBufMeta.offset

def hasReadableData (stream : QuicStreamState) : Bool :=
  (match stream.readBuffer with
    | [] => false
    | front :: _ => stream.currentReadOffset == front.offset) ||
  stream.finalReadOffset == some stream.currentReadOffset

def hasPeekableData (stream : QuicStreamState) : Bool := !stream.readBuffer.isEmpty

end QuicStreamState

end StreamServer.State
