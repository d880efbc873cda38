import StreamServer.State.ReadBuffer
import StreamServer.State.StreamStateMachine

/-! Receive-side reassembly of one stream. The peer sends slices of a text in any
order and with any overlap while the application reads; what has been read is
always a prefix of the text, and the receive side closes when nothing is missing. -/
namespace StreamServer.State
open Protocol FlowControl Lib.Chunks Lib.Transition

/-- A part of a text, with a FIN only at its end. -/
structure Slice (text : Bytes) where
  offset : Nat
  len : Nat
  fin : Bool
  inside : offset + len ≤ text.length
  finAtEnd : fin = true → offset + len = text.length

def Slice.data {text : Bytes} (slice : Slice text) : Bytes := (text.drop slice.offset).take slice.len

def Slice.frame {text : Bytes} (slice : Slice text) (id : StreamId) : ReadStreamFrame :=
  ⟨id,slice.offset,slice.data,slice.fin,none⟩

def Slice.positions {text : Bytes} (slice : Slice text) : Finset Nat :=
  Finset.Ico slice.offset (slice.offset + slice.len)

/-- A stream together with a record of what was received on it and read from it. -/
structure Receiving where
  conn : QuicConnectionState
  stream : QuicStreamState
  output : Bytes := []
  received : Finset Nat := ∅
  finReceived : Bool := false

inductive ReceiveAction (text : Bytes) where
  | frame (slice : Slice text)
  | read (amount : Nat) (now : TimePoint)
  | consume (amount : Nat) (now : TimePoint)
  /-- Anything the connection does meanwhile on other streams or to the stream's limits. -/
  | elsewhere (conn : QuicConnectionState) (flowControlState : StreamFlowControlState)

def consumedBytes (stream : QuicStreamState) (amount : Nat) : Bytes :=
  if stream.finalReadOffset.any (stream.currentReadOffset ≥ ·) then []
  else (readDataInOrderFromReadBuffer stream.toQuicStreamLike amount false).2.1

def Receiving.step {text : Bytes} (state : Receiving) : ReceiveAction text → Except Error Receiving
  | .frame slice => do
    let (conn,stream) ← receiveReadStreamFrameSMHandler state.conn state.stream
      (slice.frame state.stream.id)
    return {state with
      conn := conn
      stream := stream
      received := state.received ∪ slice.positions
      finReceived := state.finReceived || slice.fin}
  | .read amount now => do
    let outcome ← readDataFromQuicStream state.conn state.stream amount now
    return {state with
      conn := outcome.conn
      stream := outcome.stream
      output := state.output ++ outcome.data}
  | .consume amount now => do
    let (conn,stream) ← consumeDataFromQuicStream state.conn state.stream amount now
    return {state with
      conn := conn
      stream := stream
      output := state.output ++ consumedBytes state.stream amount}
  | .elsewhere conn flowControlState =>
    .ok {state with
      conn := conn
      stream := {state.stream with flowControlState := flowControlState}}

/-- Every byte of the text and the FIN have been received. -/
def Receiving.Complete (state : Receiving) (text : Bytes) : Prop :=
  state.finReceived = true ∧ ∀ n < text.length, n ∈ state.received

/-- The longest run of received positions from an offset on, and the bytes there. -/
def LongestRun (text : Bytes) (received : Finset Nat) (start : Nat) (data : Bytes) : Prop :=
  data = (text.drop start).take data.length ∧ (∀ k < data.length, start + k ∈ received) ∧
    start + data.length ∉ received

/-- A stream on which nothing has been received and whose receive side is open. -/
structure FreshReceive (stream : QuicStreamState) : Prop where
  readBuffer : stream.readBuffer = []
  currentReadOffset : stream.currentReadOffset = 0
  maxOffsetObserved : stream.maxOffsetObserved = 0
  finalReadOffset : stream.finalReadOffset = none
  recvState : stream.recvState = .openState

theorem make_fresh (conn : QuicConnectionState) (id : StreamId)
    (receiving : ¬(isUnidirectionalStream id ∧ isLocalStream conn.nodeType id)) :
    FreshReceive (QuicStreamState.make conn id) := by
  refine ⟨rfl,rfl,rfl,rfl,?_⟩
  have open_ : (isUnidirectionalStream id && isLocalStream conn.nodeType id) = false := by
    simpa using receiving
  simp [QuicStreamState.make,open_]

/-- The receive buffer and offsets of a stream against what has been received. -/
structure Reassembled (text : Bytes) (received : Finset Nat) (finReceived : Bool)
    (stream : QuicStreamLike) : Prop where
  sparse : Sparse (chunks stream.readBuffer)
  agrees : ∀ chunk ∈ chunks stream.readBuffer, chunk.Agrees text
  unread : ∀ chunk ∈ chunks stream.readBuffer, stream.currentReadOffset ≤ chunk.offset
  positions : ∀ n, n ∈ received ↔
    (n < stream.currentReadOffset ∧ n < text.length) ∨ Covers (chunks stream.readBuffer) n
  final : stream.finalReadOffset = if finReceived then some text.length else none
  observed : stream.maxOffsetObserved ≤ text.length
  bound : stream.currentReadOffset ≤ text.length ∨
    (stream.currentReadOffset = text.length + 1 ∧ finReceived = true)

namespace Reassembled

variable {text : Bytes} {received : Finset Nat} {finReceived : Bool} {stream : QuicStreamLike}
  {state : QuicStreamState} {chunk : Chunk UInt8} {rest : List (Chunk UInt8)} {now : TimePoint}
  {outcome : ReadOutcome}

private theorem slice_length (slice : Slice text) : slice.data.length = slice.len := by
  have := slice.inside
  simp only [Slice.data,List.length_take,List.length_drop]
  omega

private theorem slice_agrees (slice : Slice text) :
    (Chunk.mk slice.offset slice.data).Agrees text := by
  intro k inside
  simp only [slice_length] at inside
  simp only [Slice.data,List.getElem?_take,inside,if_true,List.getElem?_drop]

section Like

variable (reassembled : Reassembled text received finReceived stream)
include reassembled

theorem within :
    ∀ chunk ∈ chunks stream.readBuffer, chunk.stop ≤ text.length := fun chunk member =>
  (reassembled.agrees chunk member).within (reassembled.sparse.nonempty chunk member)

theorem finalConsistent (slice : Slice text) :
    FinalConsistent stream (slice.offset + slice.len) slice.fin := by
  have known : ∀ final ∈ stream.finalReadOffset, final = text.length := by
    intro final member
    rw [reassembled.final] at member
    split at member
    · simpa [eq_comm] using member
    · cases member
  simp only [FinalConsistent]
  split
  · rename_i fin
    have ended := slice.finAtEnd fin
    refine ⟨fun final member => ?_,?_⟩
    · rw [known final member,ended]
    · rw [ended]
      exact reassembled.observed
  · intro final member
    rw [known final member]
    exact slice.inside

theorem append (slice : Slice text) {next : QuicStreamLike} (appended : next = {stream with
      finalReadOffset := if slice.fin then some (slice.offset + slice.len)
        else stream.finalReadOffset
      maxOffsetObserved := max stream.maxOffsetObserved (slice.offset + slice.len)
      readBuffer := appendUnread stream ⟨slice.data,slice.offset,slice.fin⟩}) :
    Reassembled text (received ∪ slice.positions) (finReceived || slice.fin) next := by
  have inside := slice.inside
  subst appended
  refine ⟨appendUnread_sparse reassembled.sparse _,
    appendUnread_agrees reassembled.sparse (slice_agrees slice) reassembled.agrees,
    appendUnread_offset reassembled.sparse reassembled.unread,?_,?_,?_,?_⟩
  · intro n
    have held : (StreamBuffer.mk slice.data slice.offset slice.fin).chunk.Holds n ↔
        slice.offset ≤ n ∧ n < slice.offset + slice.len := by
      simp only [Chunk.Holds,Chunk.stop,StreamBuffer.chunk,slice_length]
    rw [appendUnread_covers reassembled.sparse,held,Finset.mem_union,reassembled.positions n,
      Slice.positions,Finset.mem_Ico]
    constructor
    · rintro ((before | covered) | new)
      · exact .inl before
      · exact .inr (.inr covered)
      · by_cases read : n < stream.currentReadOffset
        · exact .inl ⟨read,by omega⟩
        · exact .inr (.inl ⟨new,Nat.le_of_not_lt read⟩)
    · rintro (before | ⟨new,_⟩ | covered)
      · exact .inl (.inl before)
      · exact .inr new
      · exact .inl (.inr covered)
  · cases fin : slice.fin with
    | true => simp [slice.finAtEnd fin]
    | false => simp [reassembled.final]
  · have := reassembled.observed
    simp only
    omega
  · rcases reassembled.bound with bound | ⟨bound,fin⟩
    · exact .inl bound
    · exact .inr ⟨bound,by simp [fin]⟩

theorem empty_at_end (ended : text.length ≤ stream.currentReadOffset) :
    chunks stream.readBuffer = [] := by
  cases buffered : chunks stream.readBuffer with
  | nil => rfl
  | cons chunk rest =>
    have member : chunk ∈ chunks stream.readBuffer := by rw [buffered]; exact List.mem_cons_self
    have low := reassembled.unread chunk member
    have high := reassembled.within chunk member
    have ordered := offset_lt_stop (reassembled.sparse.nonempty chunk member)
    omega

theorem trim {readBuffer : List StreamBuffer} {n : Nat}
    (buffered : chunks stream.readBuffer = chunk :: rest)
    (first : chunk.offset = stream.currentReadOffset) (fits : n ≤ chunk.data.length)
    (left : chunks readBuffer = trimFirst n (chunk :: rest)) :
    Reassembled text received finReceived {stream with
      readBuffer := readBuffer
      currentReadOffset := stream.currentReadOffset + n} := by
  have sparse := reassembled.sparse
  have stops := reassembled.within chunk (by rw [buffered]; exact List.mem_cons_self)
  rw [buffered] at sparse
  have reach : stream.currentReadOffset + n ≤ chunk.stop := by
    simp only [Chunk.stop]
    omega
  refine ⟨?_,?_,?_,?_,reassembled.final,reassembled.observed,.inl ?_⟩
  · simp only [left]
    exact trimFirst_sparse sparse n
  · simp only [left]
    refine trimFirst_agrees ?_ n
    rw [← buffered]
    exact reassembled.agrees
  · simp only [left,← first]
    exact trimFirst_offset sparse fits
  · intro m
    simp only [left]
    rw [reassembled.positions m,buffered,trimFirst_covers sparse fits m,first]
    have held : stream.currentReadOffset ≤ m → m < stream.currentReadOffset + n →
        chunk.Holds m := by
      intro low high
      exact ⟨by omega,by omega⟩
    have later : Covers (chunk :: rest) m → stream.currentReadOffset ≤ m ∧ m < text.length := by
      rintro ⟨other,member,low,high⟩
      rw [← buffered] at member
      have := reassembled.unread other member
      have := reassembled.within other member
      omega
    constructor
    · rintro (⟨read,bound⟩ | covered)
      · exact .inl ⟨by omega,bound⟩
      · by_cases read : m < stream.currentReadOffset + n
        · exact .inl ⟨read,(later covered).2⟩
        · exact .inr ⟨by omega,covered⟩
    · rintro (⟨read,bound⟩ | ⟨_,covered⟩)
      · by_cases before : m < stream.currentReadOffset
        · exact .inl ⟨before,bound⟩
        · exact .inr (covers_cons.mpr (.inl (held (by omega) read)))
      · exact .inr covered
  · simp only
    omega

private theorem longestRun_nil
    (later : ∀ chunk ∈ chunks stream.readBuffer, stream.currentReadOffset < chunk.offset) :
    LongestRun text received stream.currentReadOffset [] := by
  refine ⟨by simp,by simp,?_⟩
  rw [reassembled.positions]
  rintro (⟨impossible,_⟩ | ⟨chunk,member,low,_⟩)
  · simp at impossible
  · have := later chunk member
    simp at low
    omega

private theorem longestRun_chunk (buffered : chunks stream.readBuffer = chunk :: rest)
    (first : chunk.offset = stream.currentReadOffset) :
    LongestRun text received stream.currentReadOffset chunk.data := by
  have sparse := reassembled.sparse
  rw [buffered] at sparse
  have member : chunk ∈ chunks stream.readBuffer := by rw [buffered]; exact List.mem_cons_self
  refine ⟨?_,?_,?_⟩
  · have taken := (reassembled.agrees chunk member).take (Nat.le_refl _)
    rwa [List.take_length,first] at taken
  · intro k inside
    refine (reassembled.positions _).mpr (.inr ⟨chunk,member,by omega,?_⟩)
    simp only [Chunk.stop]
    omega
  · rw [reassembled.positions,buffered,covers_cons]
    rintro (⟨read,_⟩ | ⟨_,inside⟩ | ⟨other,later,low,_⟩)
    · omega
    · simp only [Chunk.stop] at inside
      omega
    · have gap := (sparse_cons.mp sparse).2.1 other later
      simp only [Before,Chunk.stop] at gap
      omega

end Like

structure Taken (text : Bytes) (received : Finset Nat) (finReceived : Bool)
    (before after : QuicStreamState) (amount : Nat) (data : Bytes) (eof : Bool) : Prop where
  kept : Reassembled text received finReceived after.toQuicStreamLike
  sameState : after.recvState = before.recvState
  continues : text.take after.currentReadOffset = text.take before.currentReadOffset ++ data
  ended : eof = true ↔ finReceived = true ∧ text.length ≤ after.currentReadOffset
  longest : amount = 0 → LongestRun text received before.currentReadOffset data

variable {amount : Nat}

section State

variable (reassembled : Reassembled text received finReceived state.toQuicStreamLike)
include reassembled

theorem isAllDataReceived_iff :
    isAllDataReceived state = true ↔ finReceived = true ∧ ∀ n < text.length, n ∈ received := by
  simp only [isAllDataReceived,reassembled.final]
  cases finReceived with
  | false => simp
  | true =>
    simp only [if_true,true_and]
    split
    · rename_i reached
      simp only [true_iff]
      intro n inside
      exact (reassembled.positions n).mpr (.inl ⟨by omega,inside⟩)
    · rename_i notReached
      have proper : state.currentReadOffset < text.length := by omega
      constructor
      · intro tested n inside
        split at tested
        · rename_i only buffered
          simp only [Bool.and_eq_true,beq_iff_eq] at tested
          by_cases read : n < state.currentReadOffset
          · exact (reassembled.positions n).mpr (.inl ⟨read,inside⟩)
          · refine (reassembled.positions n).mpr (.inr ⟨only.chunk,?_,?_⟩)
            · simp [chunks,buffered]
            · simp only [Chunk.Holds,chunk_offset,chunk_stop]
              omega
        · cases tested
      · intro full
        have covered : ∀ n, state.currentReadOffset ≤ n → n < text.length →
            Covers (chunks state.readBuffer) n := by
          intro n low high
          rcases (reassembled.positions n).mp (full n high) with ⟨read,_⟩ | covered
          · omega
          · exact covered
        obtain ⟨chunk,single,first,last⟩ := sparse_full reassembled.sparse reassembled.unread
          reassembled.within covered proper
        obtain ⟨only,buffered,same⟩ := List.map_eq_singleton_iff.mp single
        subst same
        simp only [chunk_offset,chunk_stop] at first last
        simp [buffered,first,last]

theorem readFin :
    Reassembled text received finReceived state.readFinIfReached.toQuicStreamLike := by
  simp only [QuicStreamState.readFinIfReached]
  split
  · rename_i reached
    have fin : finReceived = true ∧ state.currentReadOffset = text.length := by
      rw [reassembled.final] at reached
      split at reached
      · rename_i fin
        exact ⟨fin,(Option.some.inj reached).symm⟩
      · cases reached
    have empty := reassembled.empty_at_end (by omega)
    refine ⟨reassembled.sparse,reassembled.agrees,?_,?_,reassembled.final,reassembled.observed,
      .inr ⟨by simp only [fin.2],fin.1⟩⟩
    · simp [empty]
    · intro n
      have same : (n < state.currentReadOffset ∧ n < text.length) ↔
          (n < state.currentReadOffset + 1 ∧ n < text.length) := by omega
      rw [reassembled.positions n,same]
  · exact reassembled

private theorem readFin_take :
    text.take state.readFinIfReached.currentReadOffset = text.take state.currentReadOffset := by
  simp only [QuicStreamState.readFinIfReached]
  split
  · rename_i reached
    have bound : text.length ≤ state.currentReadOffset := by
      rw [reassembled.final] at reached
      split at reached
      · exact Nat.le_of_eq (Option.some.inj reached)
      · cases reached
    rw [List.take_of_length_le bound,List.take_of_length_le (by simp only; omega)]
  · rfl

private theorem readFin_ended (inside : state.currentReadOffset ≤ text.length) :
    state.finalReadOffset = some state.currentReadOffset ↔
      finReceived = true ∧ text.length ≤ state.readFinIfReached.currentReadOffset := by
  have final := reassembled.final
  simp only [QuicStreamState.readFinIfReached]
  cases finReceived with
  | false => simp [final]
  | true =>
    simp only [if_true] at final
    simp only [final,Option.some.injEq,true_and]
    split
    · simp only
      omega
    · omega

theorem take {conn : QuicConnectionState}
    (ok : readDataFromQuicStream conn state amount now = .ok outcome) :
    Taken text received finReceived state outcome.stream amount outcome.data outcome.eof := by
  have final := reassembled.final
  have sameState (stream : QuicStreamState) :
      stream.readFinIfReached.recvState = stream.recvState := by
    simp only [QuicStreamState.readFinIfReached]
    split <;> rfl
  rcases takeDataFromQuicStream_cases ok with ⟨last,known,reached,rfl⟩ |
    ⟨unfinished,like,data,rest,credited,taken,-,rfl⟩
  · have fin : finReceived = true ∧ last = text.length := by
      rw [known] at final
      split at final
      · rename_i fin
        exact ⟨fin,Option.some.inj final⟩
      · cases final
    have later : ∀ chunk ∈ chunks state.readBuffer, state.currentReadOffset < chunk.offset := by
      simp [reassembled.empty_at_end (by omega)]
    refine ⟨reassembled.readFin,sameState _,?_,?_,fun _ => longestRun_nil reassembled later⟩
    · simp [finishRead,readFin_take reassembled]
    · simp only [finishRead,fin.1,true_and,true_iff,QuicStreamState.readFinIfReached]
      split
      · simp only
        omega
      · omega
  · have inside : state.currentReadOffset ≤ text.length := by
      rcases reassembled.bound with inside | ⟨beyond,fin⟩
      · exact inside
      · have := unfinished text.length (by rw [final,fin]; rfl)
        omega
    rcases readDataInOrderFromReadBuffer_cases amount reassembled.sparse reassembled.unread with
      ⟨later,nothing⟩ | ⟨chunk,chunksRest,n,readBuffer,eof,buffered,first,fits,unlimited,left,result⟩
    · rw [taken] at nothing
      obtain ⟨rfl,rfl,rfl⟩ := nothing
      refine ⟨reassembled.readFin,sameState _,?_,?_,fun _ => longestRun_nil reassembled later⟩
      · simp [finishRead,readFin_take reassembled]
      · simpa [finishRead] using readFin_ended reassembled inside
    · rw [taken] at result
      obtain ⟨rfl,rfl,rfl⟩ := result
      have member : chunk ∈ chunks state.readBuffer := by rw [buffered]; exact List.mem_cons_self
      have trimmed := reassembled.trim buffered first fits left
      have slice := (reassembled.agrees chunk member).take fits
      have stops : state.currentReadOffset + n ≤ text.length := by
        have := reassembled.within chunk member
        simp only [Chunk.stop] at this
        omega
      refine ⟨readFin trimmed,sameState _,?_,?_,?_⟩
      · simp only [finishRead]
        rw [readFin_take trimmed,slice,first,← List.take_add]
      · simpa [finishRead] using @readFin_ended _ _ _ {state with toQuicStreamLike :=
          {state.toQuicStreamLike with
            readBuffer := readBuffer
            currentReadOffset := state.currentReadOffset + n}} trimmed stops
      · intro none
        simp only [finishRead,unlimited none,List.take_length]
        exact longestRun_chunk reassembled buffered first

end State

private theorem consumed {conn : QuicConnectionState}
    (ok : readDataFromQuicStream conn state amount now = .ok outcome) :
    outcome.data = consumedBytes state amount := by
  rcases takeDataFromQuicStream_cases ok with ⟨last,known,reached,rfl⟩ |
    ⟨unfinished,like,data,rest,credited,taken,-,rfl⟩
  · simp [consumedBytes,known,reached,finishRead]
  · have precheck : ¬state.finalReadOffset.any (state.currentReadOffset ≥ ·) = true := by
      cases known : state.finalReadOffset with
      | none => simp
      | some last => simpa using unfinished last known
    simp only [consumedBytes,precheck,taken,finishRead]
    rfl

end Reassembled

namespace Receiving

/-- What holds of a stream and its record in every state of a run. -/
structure Inv (text : Bytes) (state : Receiving) : Prop where
  reassembled : Reassembled text state.received state.finReceived state.stream.toQuicStreamLike
  output : state.output = text.take state.stream.currentReadOffset
  closed : state.stream.recvState = .closed ↔ state.Complete text
  receiving : state.stream.recvState ≠ .invalid

variable {text : Bytes} {state next : Receiving} {stream : QuicStreamState} {slice : Slice text}
  {action : ReceiveAction text} {error : Error}

theorem inv_start (conn : QuicConnectionState) (fresh : FreshReceive stream) :
    Inv text {conn := conn, stream := stream} := by
  refine ⟨⟨?_,?_,?_,?_,?_,?_,?_⟩,?_,?_,?_⟩
  · simp only [fresh.readBuffer]
    exact sparse_nil
  · simp [fresh.readBuffer,chunks]
  · simp [fresh.readBuffer,chunks]
  · simp [fresh.readBuffer,fresh.currentReadOffset,chunks,Covers]
  · simp [fresh.finalReadOffset]
  · simp [fresh.maxOffsetObserved]
  · simp [fresh.currentReadOffset]
  · simp [fresh.currentReadOffset]
  · simp [fresh.recvState,Complete]
  · simp [fresh.recvState]

private theorem inv_frame_open (inv : Inv text state)
    (receiving : state.stream.recvState = .openState)
    (taken : state.step (.frame slice) = .ok next) : Inv text next := by
  obtain ⟨result,handled,taken⟩ := bind_ok.mp taken
  cases taken
  simp only [receiveReadStreamFrameSMHandler,receiving] at handled
  obtain ⟨⟨conn,stream⟩,appended,handled⟩ := bind_ok.mp handled
  obtain ⟨⟨visited,like⟩,append,appended⟩ := bind_ok.mp appended
  cases appended
  have length := Reassembled.slice_length slice
  have kept : Reassembled text (state.received ∪ slice.positions) (state.finReceived || slice.fin)
      like := by
    rcases appendDataToReadBufferCommon_cases append with ⟨noFin,empty,_,rfl⟩ | ⟨_,_,changed⟩
    · have nothing : slice.len = 0 := by
        rw [← length]
        exact List.length_eq_zero_iff.mpr empty
      have noFin : slice.fin = false := noFin
      simpa [Slice.positions,nothing,noFin] using inv.reassembled
    · refine inv.reassembled.append slice (changed.trans ?_)
      simp only [StreamBuffer.stop,Slice.frame,length]
  have same : (isAllDataReceived {state.stream with toQuicStreamLike := like} = true ↔ _) :=
    Reassembled.isAllDataReceived_iff kept
  have sameOffset : like.currentReadOffset = state.stream.currentReadOffset := by
    rcases appendDataToReadBufferCommon_cases append with ⟨_,_,_,rfl⟩ | ⟨_,_,rfl⟩ <;> rfl
  simp only [pure,Except.pure,Except.ok.injEq] at handled
  subst handled
  by_cases complete : isAllDataReceived {state.stream with toQuicStreamLike := like} = true
  · simp only [complete,if_true]
    refine ⟨kept,?_,?_,by simp⟩
    · simpa [sameOffset] using inv.output
    · simp only [true_iff]
      exact same.mp complete
  · simp only [complete]
    refine ⟨kept,?_,?_,?_⟩
    · simpa [sameOffset] using inv.output
    · simp only [Bool.false_eq_true,if_false,receiving,reduceCtorEq,false_iff]
      exact fun all => complete (same.mpr all)
    · simp [receiving]

private theorem inv_frame_closed (inv : Inv text state) (closed : state.stream.recvState = .closed)
    (taken : state.step (.frame slice) = .ok next) : Inv text next := by
  obtain ⟨fin,all⟩ := inv.closed.mp closed
  obtain ⟨result,handled,taken⟩ := bind_ok.mp taken
  simp only [receiveReadStreamFrameSMHandler,closed,Except.ok.injEq] at handled
  subst handled
  cases taken
  have nothingNew : state.received ∪ slice.positions = state.received := by
    refine Finset.union_eq_left.mpr (fun n member => all n ?_)
    have := slice.inside
    simp only [Slice.positions,Finset.mem_Ico] at member
    omega
  simp only [nothingNew,fin,Bool.true_or]
  have known := inv.reassembled
  rw [fin] at known
  exact ⟨known,inv.output,⟨fun _ => ⟨rfl,all⟩,fun _ => closed⟩,inv.receiving⟩

private theorem inv_taken (inv : Inv text state) {conn : QuicConnectionState} {data : Bytes}
    {eof : Bool}
    (taken : Reassembled.Taken text state.received state.finReceived state.stream stream amount
      data eof) :
    Inv text {state with conn := conn, stream := stream, output := state.output ++ data} := by
  refine ⟨taken.kept,?_,?_,?_⟩
  · simp only [inv.output,taken.continues]
  · simp only [taken.sameState]
    exact inv.closed
  · simp only [taken.sameState]
    exact inv.receiving

theorem inv_step (inv : Inv text state) (taken : state.step action = .ok next) : Inv text next := by
  cases action with
  | frame slice =>
    cases recv : state.stream.recvState with
    | openState => exact inv_frame_open inv recv taken
    | closed => exact inv_frame_closed inv recv taken
    | invalid => exact absurd recv inv.receiving
  | read amount now =>
    obtain ⟨outcome,ok,taken⟩ := bind_ok.mp taken
    cases taken
    exact inv_taken inv (inv.reassembled.take ok)
  | consume amount now =>
    obtain ⟨⟨conn,stream⟩,consumed,taken⟩ := bind_ok.mp taken
    cases taken
    obtain ⟨outcome,ok,consumed⟩ := bind_ok.mp consumed
    cases consumed
    rw [takeDataFromQuicStream_sink] at ok
    cases read : takeDataFromQuicStream false state.conn state.stream amount now with
    | error e =>
      rw [read] at ok
      cases ok
    | ok reading =>
      rw [read] at ok
      cases ok
      rw [← Reassembled.consumed read]
      exact inv_taken inv (inv.reassembled.take read)
  | elsewhere conn flowControlState =>
    cases taken
    exact {inv with}

private theorem append_error (inv : Inv text state)
    (failed : appendDataToReadBufferCommon state.stream.toQuicStreamLike
      ⟨slice.data,slice.offset,slice.fin⟩ state.conn (fun conn previous bufferEnd =>
        updateFlowControlOnStreamData conn state.stream previous bufferEnd) = .error error) :
    FlowControlFailure error := by
  have consistent := inv.reassembled.finalConsistent slice
  rw [← Reassembled.slice_length slice] at consistent
  simp only [appendDataToReadBufferCommon] at failed
  split at failed
  · cases failed
  rcases bind_error.mp failed with refused | ⟨_,_,failed⟩
  · cases (checkFinalOffset_ok.mpr ⟨consistent,rfl⟩).symm.trans refused
  rcases bind_error.mp failed with refused | ⟨_,_,failed⟩
  · exact updateFlowControlOnStreamData_error refused
  · cases failed

private theorem step_error (inv : Inv text state) (failed : state.step action = .error error) :
    FlowControlFailure error := by
  cases action with
  | frame slice =>
    rcases bind_error.mp failed with handled | ⟨_,_,failed⟩
    · cases recv : state.stream.recvState with
      | openState =>
        simp only [receiveReadStreamFrameSMHandler,recv] at handled
        rcases bind_error.mp handled with appended | ⟨_,_,failed⟩
        · rcases bind_error.mp appended with append | ⟨_,_,failed⟩
          · exact append_error inv append
          · cases failed
        · cases failed
      | closed =>
        simp only [receiveReadStreamFrameSMHandler,recv] at handled
        cases handled
      | invalid => exact absurd recv inv.receiving
    · cases failed
  | read amount now =>
    rcases bind_error.mp failed with refused | ⟨_,_,failed⟩
    · exact takeDataFromQuicStream_error refused
    · cases failed
  | consume amount now =>
    rcases bind_error.mp failed with consumed | ⟨_,_,failed⟩
    · rcases bind_error.mp consumed with refused | ⟨_,_,failed⟩
      · exact takeDataFromQuicStream_error refused
      · cases failed
    · cases failed
  | elsewhere conn flowControlState => cases failed

/-- In every state of a run: what was read is the prefix of the text up to the read offset; a read
reports the end exactly when it completes the text and the FIN is known, and without a limit it
returns the longest received run; a frame closes the open receive side exactly when nothing is
missing after it; and a step can only fail on flow control. -/
theorem reassembly_correct (text : Bytes) (conn : QuicConnectionState) {stream : QuicStreamState}
    (fresh : FreshReceive stream) (actions : List (ReceiveAction text)) {state : Receiving}
    (ran : run Receiving.step {conn := conn, stream := stream} actions = .ok state) :
    (state.output <+: text ∧
      state.output.length = min state.stream.currentReadOffset text.length) ∧
    (∀ amount now outcome,
      readDataFromQuicStream state.conn state.stream amount now = .ok outcome →
        (outcome.eof = true ↔ state.output ++ outcome.data = text ∧ state.finReceived = true) ∧
        (amount = 0 →
          LongestRun text state.received state.stream.currentReadOffset outcome.data)) ∧
    (∀ (slice : Slice text) next, state.stream.recvState = .openState →
      state.step (.frame slice) = .ok next →
        ¬state.Complete text ∧ (next.stream.recvState = .closed ↔ next.Complete text)) ∧
    (∀ (action : ReceiveAction text) error, state.step action = .error error →
      FlowControlFailure error) := by
  have inv : Inv text state :=
    run_preserves (fun _ _ _ inv taken => inv_step inv taken) (inv_start conn fresh) ran
  refine ⟨⟨?_,?_⟩,?_,?_,fun action error => step_error inv⟩
  · rw [inv.output]
    exact List.take_prefix _ _
  · rw [inv.output,List.length_take]
  · intro amount now outcome ok
    have taken := inv.reassembled.take ok
    refine ⟨?_,taken.longest⟩
    rw [taken.ended,inv.output,← taken.continues,List.take_eq_self_iff,and_comm]
  · intro slice next receiving taken
    refine ⟨?_,(inv_step inv taken).closed⟩
    rw [← inv.closed,receiving]
    simp

/-- Two bytes that arrive in reverse order, the FIN with the first of them. -/
theorem reassembly_correct_reversed :
    let conn : QuicConnectionState := FlowControl.updateFlowControlStateWithSettings
      {nodeType := .server}
    let second : Slice [7,8] := ⟨1,1,true,by decide,by decide⟩
    let first : Slice [7,8] := ⟨0,1,false,by decide,by decide⟩
    ∃ state, run Receiving.step {conn := conn, stream := QuicStreamState.make conn 0}
        [.frame second,.frame first,.read 0 0] = .ok state ∧ state.output <+: [7,8] := by
  intro conn second first
  obtain ⟨state,ran⟩ : ∃ state, run Receiving.step
      {conn := conn, stream := QuicStreamState.make conn 0}
      [.frame second,.frame first,.read 0 0] = .ok state := ⟨_,rfl⟩
  have fresh := make_fresh conn 0 (fun both => by cases both.1)
  exact ⟨state,ran,(reassembly_correct [7,8] conn fresh _ ran).1.1⟩

end Receiving

end StreamServer.State
