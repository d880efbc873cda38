import StreamServer.Lib.Tally
import StreamServer.State.ReadBuffer
import StreamServer.State.StreamStateMachine

/-! The receive-side accounts of a stream against those of its connection: what was
observed on it, what was read from it, and how the handlers move both sums. -/
namespace StreamServer.FlowControl
open Protocol State Lib.Chunks Lib.Transition

variable {conn next : QuicConnectionState} {stream changed : QuicStreamState}
  {frame : RstStreamFrame} {now : TimePoint}

/-- The bytes read from a stream; the FIN that may have been read after them is none. -/
def readBytes (stream : QuicStreamState) : Nat :=
  min stream.currentReadOffset (stream.finalReadOffset.getD stream.currentReadOffset)

/-- The receive side of one stream: within its limit, and nothing buffered or read that was not
observed. -/
structure StreamAccount (stream : QuicStreamState) : Prop where
  advertised : stream.maxOffsetObserved ≤ stream.flowControlState.advertisedMaxOffset
  representable : stream.flowControlState.advertisedMaxOffset < 2^64
  sparse : Sparse (chunks stream.readBuffer)
  unread : ∀ chunk ∈ chunks stream.readBuffer, stream.currentReadOffset ≤ chunk.offset
  observed : ∀ chunk ∈ chunks stream.readBuffer, chunk.stop ≤ stream.maxOffsetObserved
  final : ∀ final ∈ stream.finalReadOffset, final = stream.maxOffsetObserved
  progress : stream.currentReadOffset ≤ stream.maxOffsetObserved ∨
    (stream.finalReadOffset = some stream.maxOffsetObserved ∧
      stream.currentReadOffset = stream.maxOffsetObserved + 1)

namespace StreamAccount

theorem readBytes_eq (account : StreamAccount stream) :
    readBytes stream = min stream.currentReadOffset stream.maxOffsetObserved := by
  simp only [readBytes]
  cases known : stream.finalReadOffset with
  | none =>
    rcases account.progress with within | ⟨final,_⟩
    · simp only [Option.getD_none]
      omega
    · rw [known] at final
      cases final
  | some final => simp only [Option.getD_some,account.final final known]

theorem readBytes_le (account : StreamAccount stream) :
    readBytes stream ≤ stream.maxOffsetObserved := by
  rw [account.readBytes_eq]
  exact Nat.min_le_right _ _

theorem drained (account : StreamAccount stream)
    (reached : stream.maxOffsetObserved ≤ stream.currentReadOffset) : stream.readBuffer = [] := by
  refine List.eq_nil_iff_forall_not_mem.mpr fun buffer inside => ?_
  have member : buffer.chunk ∈ chunks stream.readBuffer := List.mem_map_of_mem inside
  have low := account.unread _ member
  have high := account.observed _ member
  have ordered := offset_lt_stop (account.sparse.nonempty _ member)
  omega

end StreamAccount

/-- The connection's sums leave room for what the stream has not read yet. -/
structure Balanced (conn : QuicConnectionState) (stream : QuicStreamState) : Prop where
  observed : conn.flowControlState.sumMaxObservedOffset ≤ conn.flowControlState.advertisedMaxOffset
  read : conn.flowControlState.sumCurReadOffset + stream.maxOffsetObserved ≤
    conn.flowControlState.sumMaxObservedOffset + readBytes stream

/-- What a handler does to the accounts of a connection and of the stream it works on. -/
structure StreamStep (conn next : QuicConnectionState) (stream changed : QuicStreamState) :
    Prop where
  account : StreamAccount changed
  sameId : changed.id = stream.id
  sameStreams : next.streamManager.streams = conn.streamManager.streams
  sameAdvertised : next.flowControlState.advertisedMaxOffset =
    conn.flowControlState.advertisedMaxOffset
  grows : stream.flowControlState.advertisedMaxOffset ≤ changed.flowControlState.advertisedMaxOffset
  observed : next.flowControlState.sumMaxObservedOffset + stream.maxOffsetObserved =
    conn.flowControlState.sumMaxObservedOffset + changed.maxOffsetObserved
  within : next.flowControlState.sumMaxObservedOffset ≤ next.flowControlState.advertisedMaxOffset
  read : next.flowControlState.sumCurReadOffset + readBytes stream =
    conn.flowControlState.sumCurReadOffset + readBytes changed
  forward : readBytes stream ≤ readBytes changed
  noWrap : ∀ pair ∈ next.subtractions, pair ∈ conn.subtractions ∨ pair.2 ≤ pair.1

/-- Two connections that agree on everything the accounts are made of. -/
structure SameAccounts (conn next : QuicConnectionState) : Prop where
  flow : next.flowControlState = conn.flowControlState
  streams : next.streamManager.streams = conn.streamManager.streams
  subtractions : next.subtractions = conn.subtractions

theorem SameAccounts.manage
    {operation : QuicStreamManager → QuicStreamManager}
    (kept : (operation conn.streamManager).streams = conn.streamManager.streams) :
    SameAccounts conn (conn.manage operation) := ⟨rfl,kept,rfl⟩

theorem SameAccounts.addClosedIfTerminal (conn : QuicConnectionState) (stream : QuicStreamState) :
    SameAccounts conn (addClosedIfTerminal conn stream) := by
  simp only [State.addClosedIfTerminal]
  split
  · exact .manage rfl
  · exact ⟨rfl,rfl,rfl⟩

theorem SameAccounts.appendPendingStreamReset (conn : QuicConnectionState)
    (stream : QuicStreamState) (errorCode : Nat) :
    SameAccounts conn (appendPendingStreamReset conn stream errorCode) := by
  simp only [State.appendPendingStreamReset]
  split <;> exact ⟨rfl,rfl,rfl⟩

theorem SameAccounts.trans {first second third : QuicConnectionState}
    (left : SameAccounts first second) (right : SameAccounts second third) :
    SameAccounts first third :=
  ⟨right.flow.trans left.flow,right.streams.trans left.streams,
    right.subtractions.trans left.subtractions⟩

theorem StreamStep.unchanged (same : SameAccounts conn next)
    (within : conn.flowControlState.sumMaxObservedOffset ≤
      conn.flowControlState.advertisedMaxOffset)
    (account : StreamAccount changed) (sameId : changed.id = stream.id)
    (grows : stream.flowControlState.advertisedMaxOffset ≤
      changed.flowControlState.advertisedMaxOffset)
    (observed : changed.maxOffsetObserved = stream.maxOffsetObserved)
    (read : readBytes changed = readBytes stream) : StreamStep conn next stream changed := by
  refine ⟨account,sameId,same.streams,by rw [same.flow],grows,by rw [same.flow,observed],
    by rwa [same.flow],by rw [same.flow,read],read.ge,fun pair member => .inl ?_⟩
  rwa [same.subtractions] at member

section Composition

variable {last : QuicConnectionState} {later : QuicStreamState}
  (step : StreamStep conn next stream changed)
include step

theorem StreamStep.trans (second : StreamStep next last changed later) :
    StreamStep conn last stream later := by
  have observed := step.observed
  have read := step.read
  exact ⟨second.account,second.sameId.trans step.sameId,second.sameStreams.trans step.sameStreams,
    second.sameAdvertised.trans step.sameAdvertised,step.grows.trans second.grows,
    by have := second.observed; omega,second.within,by have := second.read; omega,
    step.forward.trans second.forward,
    fun pair member => (second.noWrap pair member).elim (step.noWrap pair) .inr⟩

theorem StreamStep.then_same (same : SameAccounts next last) : StreamStep conn last stream changed :=
  step.trans (.unchanged same step.within step.account rfl le_rfl rfl rfl)

theorem StreamStep.balanced (balanced : Balanced conn stream) : Balanced next changed := by
  have observed := step.observed
  have read := step.read
  have room := balanced.read
  exact ⟨step.within,by omega⟩

end Composition

/-- More is observed on the stream, and nothing read. -/
theorem StreamStep.of_observed {bufferEnd : Nat} (before : StreamAccount stream)
    (account : StreamAccount changed) (accepted : updateFlowControlOnStreamData conn stream
      stream.maxOffsetObserved bufferEnd = .ok next) (sameId : changed.id = stream.id)
    (sameFlow : changed.flowControlState = stream.flowControlState)
    (observed : changed.maxOffsetObserved = max stream.maxOffsetObserved bufferEnd)
    (sameOffset : changed.currentReadOffset = stream.currentReadOffset)
    (still : stream.currentReadOffset ≤ stream.maxOffsetObserved ∨
      bufferEnd ≤ stream.maxOffsetObserved) : StreamStep conn next stream changed := by
  obtain ⟨_,within,rfl⟩ := updateFlowControlOnStreamData_ok accepted
  have read : readBytes changed = readBytes stream := by
    rw [before.readBytes_eq,account.readBytes_eq,observed,sameOffset]
    omega
  exact ⟨account,sameId,rfl,rfl,by rw [sameFlow],by simp only [observed]; omega,within,by rw [read],
    read.ge,fun pair member => .inl member⟩

theorem StreamStep.of_read
    (credit : ReadCredit conn next changed stream.currentReadOffset)
    (balanced : Balanced conn stream) (before : StreamAccount stream)
    (account : StreamAccount changed) (sameId : changed.id = stream.id)
    (sameFlow : changed.flowControlState = stream.flowControlState)
    (sameObserved : changed.maxOffsetObserved = stream.maxOffsetObserved)
    (forward : stream.currentReadOffset ≤ changed.currentReadOffset)
    (inside : changed.currentReadOffset ≤ changed.maxOffsetObserved) :
    StreamStep conn next stream changed := by
  have bound := account.advertised
  have small := account.representable
  have amount : sub64 changed.currentReadOffset stream.currentReadOffset =
      changed.currentReadOffset - stream.currentReadOffset := sub64_of_le forward (by omega)
  have readBefore := before.readBytes_eq
  have readAfter := account.readBytes_eq
  have sum := credit.sum
  have observed := balanced.observed
  have read := balanced.read
  rw [amount] at sum
  refine ⟨account,sameId,credit.streams,credit.advertised,by rw [sameFlow],
    by rw [credit.observed,sameObserved],?_,?_,?_,?_⟩
  · rw [credit.observed,credit.advertised]
    exact balanced.observed
  · omega
  · omega
  · intro pair member
    rcases credit.subtractions pair member with old | rfl | rfl | ⟨_,rfl⟩
    · exact .inl old
    · exact .inr forward
    · exact .inr (by simp only; omega)
    · exact .inr (by simp only; omega)

private theorem append_observed {buffer : StreamBuffer} {like : QuicStreamLike} {bound : Nat}
    (sparse : Sparse (chunks like.readBuffer)) (low : buffer.stop ≤ bound)
    (all : ∀ chunk ∈ chunks like.readBuffer, chunk.stop ≤ bound) :
    ∀ chunk ∈ chunks (appendUnread like buffer), chunk.stop ≤ bound := by
  intro chunk member
  -- The last position of the chunk was held by the buffer or by an old chunk.
  have filled := (appendUnread_sparse sparse buffer).nonempty chunk member
  have ordered := offset_lt_stop filled
  have last : Covers (chunks (appendUnread like buffer)) (chunk.stop - 1) :=
    ⟨chunk,member,by omega,by omega⟩
  rcases (appendUnread_covers sparse _).mp last with ⟨⟨_,held⟩,_⟩ | ⟨old,inside,_,held⟩
  · simp only [chunk_stop] at held
    omega
  · have := all old inside
    omega

/-- A closed stream with data left in its buffer has all of the rest there. -/
def Pending (stream : QuicStreamState) : Prop :=
  stream.recvState = .closed → stream.readBuffer ≠ [] →
    ∃ chunk, chunks stream.readBuffer = [chunk] ∧ chunk.offset = stream.currentReadOffset ∧
      chunk.stop = stream.maxOffsetObserved

/-- A closed stream with nothing left in its buffer has returned all its credit. -/
def Settled (stream : QuicStreamState) : Prop :=
  stream.recvState = .closed → stream.readBuffer = [] →
    readBytes stream = stream.maxOffsetObserved

private theorem complete_closing (account : StreamAccount stream)
    (complete : isAllDataReceived stream = true) :
    Pending {stream with recvState := .closed} ∧ Settled {stream with recvState := .closed} := by
  simp only [isAllDataReceived] at complete
  split at complete
  · cases complete
  rename_i final known
  have last := account.final final known
  split at complete
  · rename_i reached
    have reached : stream.maxOffsetObserved ≤ stream.currentReadOffset := by omega
    refine ⟨fun _ nonempty => absurd (account.drained reached) nonempty,fun _ _ => ?_⟩
    exact account.readBytes_eq.trans (Nat.min_eq_right reached)
  · split at complete
    · rename_i only buffered
      simp only [Bool.and_eq_true,beq_iff_eq] at complete
      refine ⟨fun _ _ => ⟨only.chunk,?_,complete.1.symm,?_⟩,fun _ empty => ?_⟩
      · simp [buffered,chunks]
      · simp only [chunk_stop]
        omega
      · simp [buffered] at empty
    · cases complete

/-- The stream after a reset, before its offsets are moved to the final one. -/
def resetStream (stream : QuicStreamState) (frame : RstStreamFrame) : QuicStreamState :=
  {stream with
    readBuffer := []
    finalReadOffset := some frame.offset
    streamReadError := some (.application frame.errorCode)}

theorem onResetQuicStream_cases
    (ok : onResetQuicStream conn stream frame now = .ok (next,changed)) :
    (∀ final ∈ stream.finalReadOffset, final = frame.offset) ∧
    stream.maxOffsetObserved ≤ frame.offset ∧
    ∃ observed last, updateFlowControlOnStreamData conn stream stream.maxOffsetObserved
        frame.offset = .ok observed ∧ SameAccounts last next ∧
      ((frame.offset < stream.currentReadOffset ∧ last = observed ∧
          changed = resetStream stream frame) ∨
        (stream.currentReadOffset ≤ frame.offset ∧
          changed = {resetStream stream frame with
            currentReadOffset := frame.offset
            maxOffsetObserved := frame.offset} ∧
          updateFlowControlOnRead observed changed stream.currentReadOffset now = .ok last)) := by
  have passed : (∀ final ∈ stream.finalReadOffset, final = frame.offset) ∧
      onResetQuicStream.reset conn stream frame now = .ok (next,changed) := by
    simp only [onResetQuicStream] at ok
    split at ok
    · rename_i final known
      split at ok
      · cases ok
      · rename_i same
        refine ⟨fun other member => ?_,ok⟩
        rw [known,Option.mem_def,Option.some.injEq] at member
        omega
    · rename_i known
      exact ⟨by simp [known],ok⟩
  obtain ⟨consistent,ok⟩ := passed
  refine ⟨consistent,?_⟩
  simp only [onResetQuicStream.reset] at ok
  split at ok
  · cases ok
  · rename_i bound
    refine ⟨Nat.le_of_not_lt bound,?_⟩
    obtain ⟨observed,accepted,ok⟩ := bind_ok.mp ok
    obtain ⟨⟨last,moved⟩,read,ok⟩ := bind_ok.mp ok
    simp only [pure,Except.pure,Except.ok.injEq,Prod.mk.injEq] at ok
    obtain ⟨rfl,rfl⟩ := ok
    refine ⟨observed,last,accepted,.manage (by simp; rfl),?_⟩
    simp only [returnCreditOnReset] at read
    split at read
    · rename_i past
      cases read
      exact .inl ⟨past,rfl,rfl⟩
    · rename_i notPast
      obtain ⟨credited,credit,read⟩ := bind_ok.mp read
      cases read
      exact .inr ⟨Nat.le_of_not_lt notPast,rfl,credit⟩

private theorem readFin_fields (stream : QuicStreamState) :
    stream.readFinIfReached.id = stream.id ∧
      stream.readFinIfReached.flowControlState = stream.flowControlState ∧
      stream.readFinIfReached.maxOffsetObserved = stream.maxOffsetObserved ∧
      stream.readFinIfReached.readBuffer = stream.readBuffer ∧
      stream.readFinIfReached.recvState = stream.recvState := by
  simp only [QuicStreamState.readFinIfReached]
  split <;> exact ⟨rfl,rfl,rfl,rfl,rfl⟩

private theorem readFin_account (account : StreamAccount stream) :
    StreamAccount stream.readFinIfReached ∧
      readBytes stream.readFinIfReached = readBytes stream ∧
      (stream.readBuffer ≠ [] →
        stream.readFinIfReached.currentReadOffset = stream.currentReadOffset) := by
  simp only [QuicStreamState.readFinIfReached]
  split
  · rename_i reached
    have atEnd := account.final _ reached
    have empty := account.drained (by omega)
    refine ⟨{account with
      unread := by simp [empty,chunks]
      progress := .inr ⟨by rw [reached,atEnd],by simp only; omega⟩},?_,
      fun nonempty => absurd empty nonempty⟩
    simp only [readBytes,reached,Option.getD_some]
    omega
  · exact ⟨account,rfl,fun _ => rfl⟩

private theorem closing_readFin (account : StreamAccount stream) (pending : Pending stream)
    (settled : Settled stream) :
    Pending stream.readFinIfReached ∧ Settled stream.readFinIfReached := by
  obtain ⟨_,_,sameObserved,sameBuffer,sameState⟩ := readFin_fields stream
  obtain ⟨_,sameRead,sameOffset⟩ := readFin_account account
  constructor
  · intro closed nonempty
    rw [sameBuffer] at nonempty
    rw [sameObserved,sameBuffer,sameOffset nonempty]
    exact pending (sameState ▸ closed) nonempty
  · intro closed empty
    rw [sameObserved,sameRead]
    exact settled (sameState ▸ closed) (sameBuffer ▸ empty)

section Trim

variable {chunk : Chunk UInt8} {rest : List (Chunk UInt8)} {readBuffer : List StreamBuffer} {n : Nat}
  (account : StreamAccount stream) (buffered : chunks stream.readBuffer = chunk :: rest)
  (first : chunk.offset = stream.currentReadOffset) (fits : n ≤ chunk.data.length)
  (left : chunks readBuffer = trimFirst n (chunk :: rest))
include account buffered first fits left

private theorem trim_account :
    let read := {stream with toQuicStreamLike := {stream.toQuicStreamLike with
      readBuffer := readBuffer
      currentReadOffset := stream.currentReadOffset + n}}
    StreamAccount read ∧ read.currentReadOffset ≤ read.maxOffsetObserved := by
  have sparse := account.sparse
  have observed := account.observed
  rw [buffered] at sparse observed
  have stops := observed chunk List.mem_cons_self
  simp only [Chunk.stop] at stops
  refine ⟨⟨account.advertised,account.representable,?_,?_,?_,account.final,.inl ?_⟩,?_⟩
  · simp only [left]
    exact trimFirst_sparse sparse n
  · simp only [left,← first]
    exact trimFirst_offset sparse fits
  · simp only [left,trimFirst]
    split
    · exact fun other member => observed other (List.mem_cons_of_mem _ member)
    · refine List.forall_mem_cons.mpr ⟨?_,fun other member =>
        observed other (List.mem_cons_of_mem _ member)⟩
      simp only [Chunk.stop,List.length_drop]
      omega
  · simp only
    omega
  · simp only
    omega

private theorem closing_trim (pending : Pending stream) :
    let read := {stream with toQuicStreamLike := {stream.toQuicStreamLike with
      readBuffer := readBuffer
      currentReadOffset := stream.currentReadOffset + n}}
    Pending read ∧ Settled read := by
  have nonempty : stream.readBuffer ≠ [] := by
    intro empty
    rw [empty] at buffered
    cases buffered
  obtain ⟨accountAfter,_⟩ := trim_account account buffered first fits left
  have only : stream.recvState = .closed → rest = [] ∧ chunk.stop = stream.maxOffsetObserved := by
    intro closed
    obtain ⟨single,same,_,stops⟩ := pending closed nonempty
    rw [buffered,List.cons.injEq] at same
    exact ⟨same.2,same.1 ▸ stops⟩
  constructor
  · intro closed remaining
    obtain ⟨rfl,stops⟩ := only closed
    simp only [trimFirst] at left
    split at left
    · exact absurd (List.map_eq_nil_iff.mp left) remaining
    · refine ⟨_,left,by simp only [first],?_⟩
      simp only [Chunk.stop,List.length_drop] at stops ⊢
      omega
  · intro closed empty
    obtain ⟨rfl,stops⟩ := only closed
    rw [accountAfter.readBytes_eq]
    simp only at empty ⊢
    simp only [empty,trimFirst] at left
    split at left
    · simp only [Chunk.stop] at stops
      omega
    · cases left

end Trim

private theorem emptied_account (before : StreamAccount stream)
    (empty : changed.readBuffer = []) (sameFlow : changed.flowControlState = stream.flowControlState)
    (sameObserved : changed.maxOffsetObserved = stream.maxOffsetObserved)
    (sameOffset : changed.currentReadOffset = stream.currentReadOffset)
    (sameFinal : changed.finalReadOffset = stream.finalReadOffset) : StreamAccount changed := by
  refine ⟨?_,?_,?_,?_,?_,?_,?_⟩
  · rw [sameObserved,sameFlow]
    exact before.advertised
  · rw [sameFlow]
    exact before.representable
  · rw [empty]
    exact sparse_nil
  · simp [empty,chunks]
  · simp [empty,chunks]
  · rw [sameFinal,sameObserved]
    exact before.final
  · rw [sameFinal,sameObserved,sameOffset]
    exact before.progress

section Steps

variable (before : StreamAccount stream) (balanced : Balanced conn stream)
include before balanced

theorem append_step {buffer : StreamBuffer}
    (ok : appendDataToReadBuffer conn stream buffer = .ok (next,changed)) :
    StreamStep conn next stream changed ∧ changed.recvState = stream.recvState := by
  obtain ⟨⟨visited,like⟩,append,ok⟩ := bind_ok.mp ok
  cases ok
  rcases appendDataToReadBufferCommon_cases append with ⟨_,_,rfl,rfl⟩ |
    ⟨consistent,visit,rfl⟩
  · exact ⟨.unchanged ⟨rfl,rfl,rfl⟩ balanced.observed before rfl le_rfl rfl rfl,rfl⟩
  · have allowed := (updateFlowControlOnStreamData_ok visit).1
    have advertised := before.advertised
    have progress := before.progress
    have finalAfter : ∀ final ∈ (if buffer.eof = true then some buffer.stop
        else stream.finalReadOffset), final = max stream.maxOffsetObserved buffer.stop := by
      intro final member
      simp only [FinalConsistent] at consistent
      split at member
      · rename_i eof
        simp only [eof,if_true] at consistent
        simp only [Option.mem_def,Option.some.injEq] at member
        omega
      · rename_i noEof
        simp only [noEof] at consistent
        have := before.final final member
        have := consistent final member
        omega
    -- Once the final offset is known nothing is observed beyond it.
    have unmoved : ∀ final, stream.finalReadOffset = some final → buffer.stop ≤ final := by
      intro final member
      simp only [FinalConsistent] at consistent
      split at consistent
      · exact Nat.le_of_eq (consistent.1 final member).symm
      · exact consistent final member
    have progressAfter : stream.currentReadOffset ≤ max stream.maxOffsetObserved buffer.stop ∨
        ((if buffer.eof = true then some buffer.stop else stream.finalReadOffset) =
            some (max stream.maxOffsetObserved buffer.stop) ∧
          stream.currentReadOffset = max stream.maxOffsetObserved buffer.stop + 1) := by
      rcases progress with within | ⟨final,past⟩
      · exact .inl (by omega)
      · have stops := unmoved _ final
        obtain ⟨known,is⟩ : ∃ known, (if buffer.eof = true then some buffer.stop
            else stream.finalReadOffset) = some known := by
          split
          exacts [⟨_,rfl⟩,⟨_,final⟩]
        exact .inr ⟨is.trans (congrArg some (finalAfter known is)),by omega⟩
    have account : StreamAccount {stream with toQuicStreamLike := {stream.toQuicStreamLike with
        finalReadOffset := if buffer.eof then some buffer.stop else stream.finalReadOffset
        maxOffsetObserved := max stream.maxOffsetObserved buffer.stop
        readBuffer := appendUnread stream.toQuicStreamLike buffer}} := by
      refine ⟨max_le advertised allowed,before.representable,appendUnread_sparse before.sparse buffer,
        appendUnread_offset before.sparse before.unread,
        append_observed before.sparse (Nat.le_max_right _ _) ?_,finalAfter,progressAfter⟩
      intro chunk member
      exact Nat.le_trans (before.observed chunk member) (Nat.le_max_left _ _)
    exact ⟨.of_observed before account visit rfl rfl rfl rfl
      (progress.imp_right fun ended => unmoved _ ended.1),rfl⟩

theorem data_step {frame : ReadStreamFrame}
    (ok : receiveReadStreamFrameSMHandler conn stream frame = .ok (next,changed)) :
    StreamStep conn next stream changed ∧
      (Pending stream → Settled stream → Pending changed ∧ Settled changed) := by
  simp only [receiveReadStreamFrameSMHandler] at ok
  split at ok
  · rename_i receiving
    obtain ⟨⟨appendedConn,appended⟩,append,ok⟩ := bind_ok.mp ok
    obtain ⟨step,sameState⟩ := append_step before balanced append
    simp only [pure,Except.pure,Except.ok.injEq,Prod.mk.injEq] at ok
    obtain ⟨rfl,rfl⟩ := ok
    split
    · rename_i complete
      have closed : StreamStep conn appendedConn stream {appended with recvState := .closed} :=
        {step with account := {step.account with}}
      exact ⟨closed.then_same ((SameAccounts.addClosedIfTerminal _ _).trans (.manage rfl)),
        fun _ _ => complete_closing step.account complete⟩
    · have stillOpen : appended.recvState = .openState := sameState.trans receiving
      exact ⟨step.then_same (.manage rfl),fun _ _ =>
        ⟨fun closed => by simp [stillOpen] at closed,fun closed => by simp [stillOpen] at closed⟩⟩
  · cases ok
    exact ⟨.unchanged ⟨rfl,rfl,rfl⟩ balanced.observed before rfl le_rfl rfl rfl,
      fun pending settled => ⟨pending,settled⟩⟩
  · cases ok

theorem reset_step
    (ok : onResetQuicStream conn stream frame now = .ok (next,changed)) :
    StreamStep conn next stream changed ∧ Pending changed ∧ Settled changed := by
  obtain ⟨consistent,bound,observed,last,accepted,same,outcome⟩ := onResetQuicStream_cases ok
  have allowed := (updateFlowControlOnStreamData_ok accepted).1
  have progress := before.progress
  suffices done : StreamStep conn last stream changed ∧ changed.readBuffer = [] ∧
      changed.maxOffsetObserved ≤ changed.currentReadOffset by
    obtain ⟨step,empty,reached⟩ := done
    refine ⟨step.then_same same,fun _ nonempty => absurd empty nonempty,fun _ _ => ?_⟩
    exact step.account.readBytes_eq.trans (Nat.min_eq_right reached)
  rcases outcome with ⟨past,rfl,rfl⟩ | ⟨notPast,rfl,credit⟩
  · -- The FIN was read, so the final offset was known and nothing changes.
    have final : stream.finalReadOffset = some stream.maxOffsetObserved ∧
        frame.offset = stream.maxOffsetObserved := by
      rcases progress with within | ⟨final,_⟩
      · omega
      · exact ⟨final,(consistent _ final).symm⟩
    have account : StreamAccount (resetStream stream frame) := by
      refine ⟨before.advertised,before.representable,sparse_nil,by simp [resetStream,chunks],
        by simp [resetStream,chunks],?_,?_⟩
      · simp [resetStream,final.2]
      · simpa [resetStream,final.1,final.2] using progress
    exact ⟨.of_observed before account accepted rfl rfl (max_eq_left final.2.le).symm rfl
      (.inr final.2.le),rfl,by simp only [resetStream]; omega⟩
  · have within : stream.currentReadOffset ≤ stream.maxOffsetObserved := by
      rcases progress with within | ⟨final,past⟩
      · exact within
      · have := consistent _ final
        omega
    have account (offset : Nat) (inside : offset ≤ frame.offset) :
        StreamAccount {resetStream stream frame with
          currentReadOffset := offset
          maxOffsetObserved := frame.offset} :=
      ⟨allowed,before.representable,sparse_nil,by simp [resetStream,chunks],
        by simp [resetStream,chunks],by simp [resetStream],.inl inside⟩
    have observes := StreamStep.of_observed before (account _ notPast) accepted rfl rfl
      (max_eq_right bound).symm rfl (.inl within)
    exact ⟨observes.trans (.of_read (updateFlowControlOnRead_ok credit) (observes.balanced balanced)
      observes.account (account _ le_rfl) rfl rfl rfl notPast le_rfl),rfl,le_rfl⟩

theorem rst_step
    (ok : receiveRstStreamSMHandler conn stream frame now = .ok (next,changed)) :
    StreamStep conn next stream changed ∧ Pending changed ∧ Settled changed := by
  simp only [receiveRstStreamSMHandler] at ok
  split at ok
  · exact reset_step before balanced ok
  · have closes : StreamStep conn (addClosedIfTerminal conn {stream with recvState := .closed}) stream
        {stream with recvState := .closed} :=
      .unchanged (.addClosedIfTerminal _ _) balanced.observed {before with} rfl le_rfl rfl rfl
    obtain ⟨step,closing⟩ := reset_step closes.account (closes.balanced balanced) ok
    exact ⟨closes.trans step,closing⟩
  · cases ok

theorem read_step {amount : Nat} {outcome : ReadOutcome}
    (ok : readDataFromQuicStream conn stream amount now = .ok outcome) :
    StreamStep conn outcome.conn stream outcome.stream ∧
      (Pending stream → Settled stream → Pending outcome.stream ∧ Settled outcome.stream) := by
  have finish (credited : QuicConnectionState) (read : QuicStreamState) (data : Bytes) (eof : Bool)
      (step : StreamStep conn credited stream read) :
      StreamStep conn (finishRead credited read.readFinIfReached data eof).conn stream
        (finishRead credited read.readFinIfReached data eof).stream := by
    obtain ⟨account,sameRead,_⟩ := readFin_account step.account
    obtain ⟨sameId,sameFlow,sameObserved,_⟩ := readFin_fields read
    exact step.trans (.unchanged ⟨rfl,rfl,rfl⟩ step.within account sameId
      (congrArg (·.advertisedMaxOffset) sameFlow).ge sameObserved sameRead)
  rcases takeDataFromQuicStream_cases ok with ⟨_,_,_,rfl⟩ |
    ⟨unfinished,like,data,rest,credited,taken,credit,rfl⟩
  · exact ⟨finish _ _ _ _ (.unchanged ⟨rfl,rfl,rfl⟩ balanced.observed before rfl le_rfl rfl rfl),
      closing_readFin before⟩
  · have credited_ok := updateFlowControlOnRead_ok credit
    rcases readDataInOrderFromReadBuffer_cases amount before.sparse before.unread with
      ⟨later,nothing⟩ | ⟨chunk,_,n,readBuffer,_,buffered,first,fits,_,left,result⟩
    · rw [taken] at nothing
      obtain ⟨rfl,rfl,rfl⟩ := nothing
      have inside : stream.currentReadOffset ≤ stream.maxOffsetObserved := by
        rcases before.progress with inside | ⟨final,_⟩
        · exact inside
        · exact Nat.le_of_lt (unfinished _ final)
      exact ⟨finish _ _ _ _ (.of_read credited_ok balanced before before rfl rfl rfl
        (Nat.le_refl _) inside),closing_readFin before⟩
    · rw [taken] at result
      obtain ⟨rfl,rfl,rfl⟩ := result
      obtain ⟨account,inside⟩ := trim_account before buffered first fits left
      refine ⟨finish _ _ _ _ (.of_read credited_ok balanced before account rfl rfl rfl
        (Nat.le_add_right _ _) inside),?_⟩
      intro pending _
      obtain ⟨pendingAfter,settledAfter⟩ := closing_trim before buffered first fits left pending
      exact closing_readFin account pendingAfter settledAfter

theorem consume_step {amount : Nat}
    (ok : consumeDataFromQuicStream conn stream amount now = .ok (next,changed)) :
    StreamStep conn next stream changed ∧
      (Pending stream → Settled stream → Pending changed ∧ Settled changed) := by
  obtain ⟨outcome,taken,ok⟩ := bind_ok.mp ok
  cases ok
  rw [takeDataFromQuicStream_sink] at taken
  cases read : takeDataFromQuicStream false conn stream amount now with
  | error e =>
    rw [read] at taken
    cases taken
  | ok reading =>
    rw [read] at taken
    cases taken
    have step := read_step before balanced read
    exact step

theorem stop_step
    (stopped : processTxStopSending conn stream = (next,changed)) :
    StreamStep conn next stream changed ∧ Pending changed ∧
      (Settled changed ↔ readBytes stream = stream.maxOffsetObserved) := by
  simp only [processTxStopSending,Prod.mk.injEq] at stopped
  obtain ⟨rfl,rfl⟩ := stopped
  refine ⟨.unchanged ?_ balanced.observed (emptied_account before rfl rfl rfl rfl rfl) rfl le_rfl
    rfl rfl,fun _ nonempty => absurd rfl nonempty,fun settled => settled rfl rfl,fun read _ _ => read⟩
  split
  · exact ⟨rfl,rfl,rfl⟩
  · exact ⟨rfl,rfl,rfl⟩

theorem sendReset_step {errorCode : Nat}
    (ok : sendRstSMHandler conn stream errorCode = .ok (next,changed)) :
    StreamStep conn next stream changed ∧ (Pending stream → Settled stream → Pending changed ∧
      (Settled changed ↔ (stream.sendState = .openState → stream.recvState = .closed →
        readBytes stream = stream.maxOffsetObserved))) := by
  simp only [sendRstSMHandler] at ok
  by_cases sending : stream.sendState = .openState
  · rw [sending] at ok
    obtain ⟨⟨resetConn,resetStream⟩,reset,ok⟩ := bind_ok.mp ok
    obtain ⟨credited,credit,reset⟩ := bind_ok.mp reset
    obtain ⟨sum,_,credit⟩ := bind_ok.mp credit
    cases credit
    simp only [pure,Except.pure,Except.ok.injEq,Prod.mk.injEq] at reset ok
    obtain ⟨rfl,rfl⟩ := reset
    obtain ⟨rfl,rfl⟩ := ok
    refine ⟨StreamStep.then_same ?_ (.appendPendingStreamReset _ _ _),
      fun _ _ => ⟨fun _ nonempty => absurd rfl nonempty,fun settled _ closed => settled closed rfl,
      fun read closed _ => read sending closed⟩⟩
    refine ⟨emptied_account before rfl rfl rfl rfl rfl,rfl,?_,rfl,Nat.le_refl _,rfl,
      balanced.observed,rfl,Nat.le_refl _,fun pair member => .inl member⟩
    exact QuicStreamManager.updateWritableStreams_streams _ _
  · have same : (conn,stream) = (next,changed) := by
      split at ok <;> simp_all
    obtain ⟨rfl,rfl⟩ := same
    exact ⟨.unchanged ⟨rfl,rfl,rfl⟩ balanced.observed before rfl le_rfl rfl rfl,
      fun pending settled => ⟨pending,fun _ isOpen => absurd isOpen sending,fun _ => settled⟩⟩

end Steps

end StreamServer.FlowControl
