import StreamServer.Lib.Chunks
import StreamServer.State.StreamFunctions

/-! The merge loop over the read buffer refines the insertion of a chunk into a
sparse list: the six overlap cases, the trimming in place and the deferred erasure
together compute one insertion. -/
namespace StreamServer.State
open Protocol FlowControl Lib.Chunks Lib.Transition

variable {merge : Merge} {index amount bufferEndOffset : Nat} {stream : QuicStreamLike}
  {eof sinkData : Bool} {item buffer : StreamBuffer} {readBuffer : List StreamBuffer}
  {error : Error} {conn : QuicConnectionState} {now : TimePoint}

def StreamBuffer.chunk (buffer : StreamBuffer) : Chunk UInt8 := ⟨buffer.offset,buffer.data⟩

@[simp] theorem chunk_offset (buffer : StreamBuffer) : buffer.chunk.offset = buffer.offset := rfl
@[simp] theorem chunk_stop (buffer : StreamBuffer) : buffer.chunk.stop = buffer.stop := rfl
@[simp] theorem chunk_data (buffer : StreamBuffer) : buffer.chunk.data = buffer.data := rfl

def chunks (readBuffer : List StreamBuffer) : List (Chunk UInt8) :=
  readBuffer.map StreamBuffer.chunk

namespace Merge

/-- The current buffer replaces the items from an index up to the iterator. Before the first
overlap there are none to replace, and all items passed lie before the current buffer. -/
structure Absorbing (merge : Merge) (kept index : Nat) : Prop where
  notDone : merge.done = false
  within : kept ≤ index
  marks : (merge.insertedAt = none ∧ merge.startOverlap = none ∧ kept = index ∧
      ∀ last, merge.readBuffer.getLast? = some last → index = merge.readBuffer.length →
        last.stop < merge.current.offset) ∨
    (merge.insertedAt = none ∧ merge.startOverlap = some kept ∧ merge.endOverlap = some index) ∨
    (merge.insertedAt = some kept ∧ merge.startOverlap = some (kept + 1) ∧
      merge.endOverlap = some index ∧ kept < index ∧ kept < merge.readBuffer.length)

private theorem loop_of_done (done : merge.done = true) (index remaining : Nat) :
    merge.loop index remaining = merge := by
  cases remaining with
  | zero => rfl
  | succ remaining => simp [loop,done]

private theorem take_succ {items : List StreamBuffer} (inside : index < items.length)
    (other : StreamBuffer) :
    items.take (index + 1) = items.take index ++ [items.getD index other] := by
  rw [List.take_add_one,List.getD_eq_getElem?_getD,List.getElem?_eq_getElem inside]
  rfl

/-- The item at the iterator starts after the current buffer or is covered by it. -/
def Ahead (current item : StreamBuffer) : Prop :=
  current.offset < item.offset ∨ (current.offset = item.offset ∧ item.stop < current.stop)

section Absorbing

variable {merge : Merge} {kept index : Nat} {item : StreamBuffer}

private theorem finish_end (absorbing : Absorbing merge kept index)
    (ended : index = merge.readBuffer.length) (nonempty : merge.readBuffer ≠ []) :
    merge.finish = merge.readBuffer.take kept ++ [merge.current] := by
  obtain ⟨_,_,⟨inserted,start,rfl,beyond⟩ | ⟨inserted,start,stop⟩ |
    ⟨inserted,start,stop,_,inside⟩⟩ := absorbing
  · have last := List.getLast?_eq_some_getLast nonempty
    have after := beyond _ last ended
    simp only [finish,start,last,gt_iff_lt,after,if_true,ended,List.take_length]
  · simp [finish,start,stop,inserted,current,ended]
  · simp only [finish,start,stop,inserted,current,ended,Option.isNone_some,Bool.false_eq_true,
      if_false,List.drop_length,List.append_nil]
    exact take_succ inside _

private theorem step_gap (absorbing : Absorbing merge kept index)
    (gap : merge.current.stop < item.offset) :
    (merge.step index item).done = true ∧ (merge.step index item).finish =
      merge.readBuffer.take kept ++ merge.current :: merge.readBuffer.drop index := by
  have ordered : merge.current.offset ≤ merge.current.stop := Nat.le_add_right _ _
  have same : merge.step index item = {merge with
      startOverlap := merge.startOverlap.or (some index)
      endOverlap := if merge.startOverlap.isNone then some index else merge.endOverlap
      done := true} := by
    rw [step,if_neg (by omega),if_neg (by omega),if_neg (by omega),if_pos (by omega)]
  rw [same]
  refine ⟨rfl,?_⟩
  obtain ⟨_,_,⟨inserted,start,rfl,_⟩ | ⟨inserted,start,stop⟩ |
    ⟨inserted,start,stop,_,inside⟩⟩ := absorbing
  · simp [finish,start,inserted,current]
  · simp [finish,start,stop,inserted,current]
  · simp [finish,start,stop,inserted,current,take_succ inside merge.buffer]

private theorem step_left (absorbing : Absorbing merge kept index)
    (ahead : Ahead merge.current item) (reaches : item.offset ≤ merge.current.stop)
    (within : merge.current.stop ≤ item.stop) :
    (merge.step index item).done = true ∧ (merge.step index item).finish =
      merge.readBuffer.take kept ++ {merge.current with
        data := merge.current.data ++ item.data.drop (merge.current.stop - item.offset)} ::
        merge.readBuffer.drop (index + 1) := by
  have before : merge.current.offset < item.offset := by
    rcases ahead with before | ⟨_,covered⟩ <;> omega
  simp only [step]
  rw [if_neg (by omega),if_neg (by omega),if_pos (by omega)]
  refine ⟨rfl,?_⟩
  obtain ⟨_,bound,⟨inserted,start,rfl,_⟩ | ⟨inserted,start,stop⟩ |
    ⟨inserted,start,stop,before,inside⟩⟩ := absorbing
  · simp [finish,start,inserted,current,setItem,setCurrent,List.take_set_of_le,
      List.drop_set_of_lt]
  · simp [finish,start,inserted,current,setItem,setCurrent,List.take_set_of_le bound,
      List.drop_set_of_lt]
  · have later : kept < index + 1 := by omega
    simp only [finish,setItem,setCurrent,start,inserted,current,Option.some_or,Option.isNone_some,
      Bool.false_eq_true,if_false]
    rw [take_succ (by simpa using inside) merge.buffer,List.take_set_of_le (Nat.le_refl _),
      List.take_set_of_le bound,List.drop_set_of_lt later,
      List.drop_set_of_lt (Nat.lt_succ_self _)]
    simp [inside]

private theorem step_covered (absorbing : Absorbing merge kept index)
    (ahead : Ahead merge.current item) (covered : item.stop < merge.current.stop) :
    Absorbing (merge.step index item) kept (index + 1) ∧
      (merge.step index item).current = merge.current ∧
      (merge.step index item).readBuffer = merge.readBuffer := by
  have ordered : item.offset ≤ item.stop := Nat.le_add_right _ _
  have before : merge.current.offset ≤ item.offset := by
    rcases ahead with before | ⟨same,_⟩ <;> omega
  have same : merge.step index item = {merge with
      startOverlap := merge.startOverlap.or (some index)
      endOverlap := some (index + 1)} := by
    simp only [step]
    rw [if_neg (by omega),if_neg (by omega),if_neg (by omega),if_neg (by omega),
      if_pos (by omega)]
  rw [same]
  obtain ⟨notDone,bound,⟨inserted,start,rfl,_⟩ | ⟨inserted,start,stop⟩ |
    ⟨inserted,start,stop,_,inside⟩⟩ := absorbing
  · refine ⟨⟨notDone,by omega,.inr (.inl ⟨inserted,?_,rfl⟩)⟩,by simp [current,inserted],rfl⟩
    simp [start]
  · refine ⟨⟨notDone,by omega,.inr (.inl ⟨inserted,?_,rfl⟩)⟩,by simp [current,inserted],rfl⟩
    simp [start]
  · refine ⟨⟨notDone,by omega,.inr (.inr ⟨inserted,?_,rfl,by omega,inside⟩)⟩,
      by simp [current,inserted],rfl⟩
    simp [start]

end Absorbing

theorem loop_absorbs {kept : Nat} (remaining : Nat)
    (absorbing : Absorbing merge kept index) (nonempty : merge.readBuffer ≠ [])
    (count : index + remaining = merge.readBuffer.length)
    (ahead : ∀ item ∈ merge.readBuffer.drop index, Ahead merge.current item) :
    chunks (merge.loop index remaining).finish = chunks (merge.readBuffer.take kept) ++
      absorb merge.current.chunk (chunks (merge.readBuffer.drop index)) := by
  induction remaining generalizing merge index with
  | zero =>
    have ended : index = merge.readBuffer.length := by omega
    simp only [loop,finish_end absorbing ended nonempty,ended,List.drop_length,chunks,
      List.map_append,List.map_cons,List.map_nil,absorb]
  | succ remaining ih =>
    have inside : index < merge.readBuffer.length := by omega
    have cut := List.drop_eq_getElem_cons inside
    rw [cut] at ahead ⊢
    obtain ⟨first,later⟩ := List.forall_mem_cons.mp ahead
    have unfolded : merge.loop index (remaining + 1) =
        (merge.step index merge.readBuffer[index]).loop (index + 1) remaining := by
      simp only [loop,absorbing.notDone,Bool.false_eq_true,if_false,
        List.getElem?_eq_getElem inside]
    rw [unfolded]
    generalize merge.readBuffer[index] = item at *
    simp only [chunks,List.map_cons,absorb]
    by_cases gap : merge.current.chunk.stop < item.chunk.offset
    · obtain ⟨done,result⟩ := step_gap absorbing gap
      rw [if_pos gap,loop_of_done done,result,cut]
      simp
    by_cases within : merge.current.chunk.stop ≤ item.chunk.stop
    · obtain ⟨done,result⟩ := step_left absorbing first (Nat.le_of_not_lt gap) within
      rw [if_neg gap,if_pos within,loop_of_done done,result]
      simp [extend,StreamBuffer.chunk,StreamBuffer.stop,Chunk.stop]
    · obtain ⟨next,sameCurrent,sameBuffer⟩ := step_covered absorbing first (Nat.lt_of_not_le within)
      have result := ih next (by rw [sameBuffer]; exact nonempty) (by rw [sameBuffer]; omega)
        (by rw [sameBuffer,sameCurrent]; exact later)
      rw [sameBuffer,sameCurrent] at result
      rw [if_neg gap,if_neg within]
      exact result

private theorem loop_inside {remaining : Nat} {last : StreamBuffer} (notDone : merge.done = false)
    (start : merge.startOverlap = none) (found : merge.readBuffer[index]? = some item)
    (inside : item.offset ≤ merge.current.offset ∧ merge.current.stop ≤ item.stop)
    (final : merge.readBuffer.getLast? = some last) (bound : merge.current.offset ≤ last.stop) :
    (merge.loop index (remaining + 1)).finish = merge.readBuffer := by
  have same : merge.step index item = {merge with done := true} := by
    simp only [step]
    rw [if_pos inside,ite_self]
  have finished : ({merge with done := true} : Merge).finish = merge.readBuffer := by
    simp only [finish,start,final]
    exact if_neg (Nat.not_lt_of_le bound)
  simp only [loop,notDone,Bool.false_eq_true,if_false,found,same]
  rw [loop_of_done rfl,finished]

private theorem step_right (merge : Merge) (notDone : merge.done = false)
    (fresh : merge.insertedAt = none) (found : merge.readBuffer[index]? = some item)
    (before : item.offset < merge.current.offset) (reaches : merge.current.offset ≤ item.stop)
    (beyond : item.stop < merge.current.stop) :
    Absorbing (merge.step index item) index (index + 1) ∧
      (merge.step index item).current.chunk = extend item.chunk merge.current.chunk ∧
      (merge.step index item).readBuffer = merge.readBuffer.set index
        (merge.step index item).current := by
  have inside : index < merge.readBuffer.length := by
    by_contra outside
    rw [List.getElem?_eq_none (by omega)] at found
    cases found
  have same : merge.step index item =
      {(merge.setCurrent {merge.current with data := []}).setItem index
        {item with data := item.data ++ merge.current.data.drop (item.stop - merge.current.offset)}
        with
        insertedAt := some index
        startOverlap := some (index + 1)
        endOverlap := some (index + 1)} := by
    simp only [step]
    rw [if_neg (by omega),if_neg (by omega),if_neg (by omega),if_neg (by omega),
      if_neg (by omega),if_pos (by omega)]
  rw [same]
  refine ⟨⟨by simp [setItem,setCurrent,fresh,notDone],by omega,.inr (.inr ⟨rfl,rfl,rfl,by omega,?_⟩)⟩,
    ?_,?_⟩
  · simpa [setItem,setCurrent,fresh] using inside
  · simp [setItem,setCurrent,fresh,current,inside,extend,StreamBuffer.chunk,StreamBuffer.stop,
      Chunk.stop]
  · simp [setItem,setCurrent,fresh,current,inside]

end Merge

private theorem insertChunk_skip {chunk : Chunk UInt8} {before after : List (Chunk UInt8)}
    (below : ∀ item ∈ before, item.stop < chunk.offset) :
    insertChunk chunk (before ++ after) = before ++ insertChunk chunk after := by
  induction before with
  | nil => rfl
  | cons item rest ih =>
    obtain ⟨first,later⟩ := List.forall_mem_cons.mp below
    simp only [List.cons_append,insertChunk,first,if_true,ih later]

private theorem stop_le_last {last : StreamBuffer} (item : StreamBuffer)
    (sparse : Sparse (chunks readBuffer)) (member : item ∈ readBuffer)
    (final : readBuffer.getLast? = some last) : item.stop ≤ last.stop := by
  obtain ⟨front,rfl⟩ := List.getLast?_eq_some_iff.mp final
  rcases List.mem_append.mp member with inFront | isLast
  · have separated := sparse.separated
    rw [chunks,List.map_append,List.pairwise_append] at separated
    have gap := separated.2.2 item.chunk (List.mem_map_of_mem inFront) last.chunk (by simp)
    have ordered : last.offset ≤ last.stop := Nat.le_add_right _ _
    exact Nat.le_of_lt (Nat.lt_of_lt_of_le gap ordered)
  · rw [List.mem_singleton.mp isLast]

private theorem ahead_rest {other : StreamBuffer} {rest : List StreamBuffer}
    (sparse : Sparse (chunks (item :: rest))) (bound : buffer.offset ≤ item.stop)
    (member : other ∈ rest) : Merge.Ahead buffer other := by
  have gap := (sparse_cons.mp sparse).2.1 other.chunk (List.mem_map_of_mem member)
  simp only [Before,chunk_stop,chunk_offset] at gap
  exact .inl (by omega)

private theorem merge_at {before rest : List StreamBuffer}
    (sparse : Sparse (chunks (before ++ item :: rest))) (reached : ¬item.stop < buffer.offset) :
    chunks ((({readBuffer := before ++ item :: rest, buffer := buffer} : Merge).loop before.length
      (rest.length + 1)).finish) =
      chunks before ++ insertChunk buffer.chunk (chunks (item :: rest)) := by
  have sparseRest : Sparse (chunks (item :: rest)) := by
    rw [chunks,List.map_append] at sparse
    exact ⟨(List.pairwise_append.mp sparse.separated).2.1,
      fun chunk member => sparse.nonempty chunk (List.mem_append_right _ member)⟩
  have found : (before ++ item :: rest)[before.length]? = some item := by simp
  have nonempty : before ++ item :: rest ≠ [] := by simp
  simp only [chunks,List.map_cons,insertChunk]
  rw [if_neg (show ¬item.chunk.stop < buffer.chunk.offset from reached)]
  by_cases inside : item.chunk.offset ≤ buffer.chunk.offset ∧ buffer.chunk.stop ≤ item.chunk.stop
  · have final := List.getLast?_eq_some_getLast nonempty
    have bound := stop_le_last item sparse (by simp) final
    rw [if_pos inside,Merge.loop_inside rfl rfl found inside final
      (Nat.le_trans (Nat.le_of_not_lt reached) bound)]
    simp
  by_cases first : buffer.chunk.offset ≤ item.chunk.offset
  · have initial : Merge.Absorbing {readBuffer := before ++ item :: rest, buffer := buffer}
        before.length before.length := by
      refine ⟨rfl,Nat.le_refl _,.inl ⟨rfl,rfl,rfl,?_⟩⟩
      intro last _ ended
      simp at ended
    rw [if_neg inside,if_pos first]
    have absorbed := Merge.loop_absorbs (rest.length + 1) initial nonempty (by simp) ?_
    · simpa [chunks,Merge.current] using absorbed
    · simp only [List.drop_left]
      refine List.forall_mem_cons.mpr ⟨?_,?_⟩
      · simp only [chunk_offset,chunk_stop,Merge.Ahead,Merge.current] at *
        omega
      · intro other member
        exact ahead_rest sparseRest (Nat.le_of_not_lt reached) member
  · rw [if_neg inside,if_neg first]
    simp only [chunk_offset,chunk_stop] at inside first
    obtain ⟨absorbing,sameChunk,sameBuffer⟩ := Merge.step_right
      {readBuffer := before ++ item :: rest, buffer := buffer} rfl rfl found
      (Nat.lt_of_not_le first) (Nat.le_of_not_lt reached)
      (by simp only [Merge.current]; omega)
    simp only [Merge.loop,Bool.false_eq_true,if_false,found]
    have drop_beyond : before.drop (before.length + 1) = [] := List.drop_eq_nil_of_le (by omega)
    have absorbed := Merge.loop_absorbs rest.length absorbing (by rw [sameBuffer]; simp)
      (by rw [sameBuffer]; simp; omega) ?_
    · rw [sameChunk,sameBuffer] at absorbed
      simpa [chunks,Merge.current,List.drop_append,drop_beyond] using absorbed
    · rw [sameBuffer]
      intro other member
      have start : (Merge.step {readBuffer := before ++ item :: rest, buffer := buffer}
          before.length item).current.offset = item.offset := congrArg Chunk.offset sameChunk
      refine ahead_rest sparseRest ?_ (by simpa [List.drop_append,drop_beyond] using member)
      rw [start]
      exact Nat.le_add_right _ _

theorem mergeIntoReadBuffer_chunks (buffer : StreamBuffer) (sparse : Sparse (chunks readBuffer)) :
    chunks (mergeIntoReadBuffer readBuffer buffer) =
      insertChunk buffer.chunk (chunks readBuffer) := by
  by_cases empty : readBuffer = []
  · subst empty
    rfl
  have filled : readBuffer.isEmpty = false := by simpa using empty
  simp only [mergeIntoReadBuffer,filled,Bool.false_eq_true,if_false]
  have whole := List.takeWhile_append_dropWhile (p := fun item : StreamBuffer => item.stop < buffer.offset)
    (l := readBuffer)
  have below : ∀ item ∈ readBuffer.takeWhile (fun item => item.stop < buffer.offset),
      item.stop < buffer.offset := fun item member => by simpa using List.mem_takeWhile_imp member
  have reached : ∀ item rest, readBuffer.dropWhile (fun item => item.stop < buffer.offset) =
      item :: rest → ¬item.stop < buffer.offset := by
    intro item rest cut
    have fails := List.head_dropWhile_not (l := readBuffer)
      (fun item : StreamBuffer => decide (item.stop < buffer.offset)) (by rw [cut]; simp)
    simpa [cut] using fails
  generalize readBuffer.takeWhile (fun item => item.stop < buffer.offset) = before at *
  generalize readBuffer.dropWhile (fun item => item.stop < buffer.offset) = after at *
  subst whole
  have skip : insertChunk buffer.chunk (chunks (before ++ after)) =
      chunks before ++ insertChunk buffer.chunk (chunks after) := by
    rw [chunks,List.map_append]
    refine insertChunk_skip ?_
    intro chunk member
    obtain ⟨item,inside,rfl⟩ := List.mem_map.mp member
    exact below item inside
  rw [skip]
  cases after with
  | nil =>
    have initial : Merge.Absorbing {readBuffer := before ++ [], buffer := buffer}
        before.length before.length := by
      refine ⟨rfl,Nat.le_refl _,.inl ⟨rfl,rfl,rfl,?_⟩⟩
      intro last final _
      exact below last (by simpa using List.mem_of_getLast? final)
    have absorbed := Merge.loop_absorbs 0 initial empty (by simp) (by simp)
    simpa [chunks,absorb,insertChunk,Merge.current] using absorbed
  | cons item rest =>
    have merged := merge_at sparse (reached item rest rfl)
    have count : (before ++ item :: rest).length - before.length = rest.length + 1 := by simp
    rw [count]
    exact merged

/-- The checks on the final offset that a buffer has to pass. -/
def FinalConsistent (stream : QuicStreamLike) (bufferEndOffset : Nat) (eof : Bool) : Prop :=
  if eof then (∀ final ∈ stream.finalReadOffset, final = bufferEndOffset) ∧
    stream.maxOffsetObserved ≤ bufferEndOffset
  else ∀ final ∈ stream.finalReadOffset, bufferEndOffset ≤ final

theorem checkFinalOffset_ok {checked : QuicStreamLike} :
    checkFinalOffset stream bufferEndOffset eof = .ok checked ↔
      FinalConsistent stream bufferEndOffset eof ∧ checked = {stream with
        finalReadOffset := if eof then some bufferEndOffset else stream.finalReadOffset} := by
  simp only [checkFinalOffset,FinalConsistent]
  cases eof with
  | false =>
    simp only [Bool.false_eq_true,if_false]
    change _ ↔ _ ∧ checked = stream
    cases stream.finalReadOffset with
    | none => simp [eq_comm]
    | some final =>
      by_cases beyond : final < bufferEndOffset
      · simp [beyond]
      · simp [beyond,Nat.le_of_not_lt,eq_comm]
  | true =>
    simp only [if_true]
    by_cases middle : bufferEndOffset < stream.maxOffsetObserved
    · have notBelow : ¬stream.maxOffsetObserved ≤ bufferEndOffset := Nat.not_le_of_lt middle
      simp only [gt_iff_lt,middle,if_true,notBelow,and_false,false_and,iff_false]
      split <;> simp
    · cases stream.finalReadOffset with
      | none => simp [middle,Nat.le_of_not_lt,eq_comm]
      | some final =>
        by_cases same : final = bufferEndOffset
        · simp [middle,same,Nat.le_of_not_lt,eq_comm]
        · simp [same]

theorem appendDataToReadBufferCommon_cases {context : Type} {next : QuicStreamLike}
    {conn nextConn : context} {visitor : context → Nat → Nat → Except Error context}
    (ok : appendDataToReadBufferCommon stream buffer conn visitor = .ok (nextConn,next)) :
    (buffer.eof = false ∧ buffer.data = [] ∧ nextConn = conn ∧ next = stream) ∨
    (FinalConsistent stream buffer.stop buffer.eof ∧
      visitor conn stream.maxOffsetObserved buffer.stop = .ok nextConn ∧
      next = {stream with
        finalReadOffset := if buffer.eof then some buffer.stop else stream.finalReadOffset
        maxOffsetObserved := max stream.maxOffsetObserved buffer.stop
        readBuffer := appendUnread stream buffer}) := by
  simp only [appendDataToReadBufferCommon] at ok
  split at ok
  · rename_i nothing
    simp only [Bool.and_eq_true,Bool.not_eq_true',List.isEmpty_iff] at nothing
    cases ok
    exact .inl ⟨nothing.1,nothing.2,rfl,rfl⟩
  · obtain ⟨checked,check,ok⟩ := bind_ok.mp ok
    obtain ⟨consistent,rfl⟩ := checkFinalOffset_ok.mp check
    obtain ⟨visited,visit,ok⟩ := bind_ok.mp ok
    cases ok
    exact .inr ⟨consistent,visit,rfl⟩

section AppendUnread

variable {stream : QuicStreamLike} {buffer : StreamBuffer}

private theorem trim_holds (currentReadOffset : Nat) (n : Nat) :
    (trimToReadOffset currentReadOffset buffer).chunk.Holds n ↔
      buffer.chunk.Holds n ∧ currentReadOffset ≤ n := by
  simp only [trimToReadOffset]
  split
  · simp only [Chunk.Holds,Chunk.stop,StreamBuffer.chunk,List.length_drop]
    omega
  · simp only [Chunk.Holds,Chunk.stop,StreamBuffer.chunk]
    omega

private theorem trim_agrees {text : Bytes} (agrees : buffer.chunk.Agrees text)
    (currentReadOffset : Nat) :
    (trimToReadOffset currentReadOffset buffer).chunk.Agrees text := by
  simp only [trimToReadOffset]
  split
  · intro k inside
    simp only [StreamBuffer.chunk,List.length_drop] at inside ⊢
    rw [List.getElem?_drop]
    refine (agrees _ (by simp only [StreamBuffer.chunk]; omega)).trans ?_
    congr 1
    simp only [StreamBuffer.chunk]
    omega
  · exact agrees

private theorem trim_offset (currentReadOffset : Nat) :
    currentReadOffset ≤ (trimToReadOffset currentReadOffset buffer).offset := by
  simp only [trimToReadOffset]
  split
  · exact Nat.le_refl _
  · omega

section AppendUnread

variable (sparse : Sparse (chunks stream.readBuffer))

include sparse

private theorem appendUnread_chunks :
    chunks (appendUnread stream buffer) =
      if (trimToReadOffset stream.currentReadOffset buffer).data = [] then chunks stream.readBuffer
      else insertChunk (trimToReadOffset stream.currentReadOffset buffer).chunk
        (chunks stream.readBuffer) := by
  simp only [appendUnread,List.isEmpty_iff]
  split
  · rfl
  · exact mergeIntoReadBuffer_chunks _ sparse

theorem appendUnread_sparse (buffer : StreamBuffer) :
    Sparse (chunks (appendUnread stream buffer)) := by
  rw [appendUnread_chunks sparse]
  split
  · exact sparse
  · exact insertChunk_sparse (by assumption) sparse

theorem appendUnread_covers (n : Nat) :
    Covers (chunks (appendUnread stream buffer)) n ↔
      (buffer.chunk.Holds n ∧ stream.currentReadOffset ≤ n) ∨
        Covers (chunks stream.readBuffer) n := by
  rw [appendUnread_chunks sparse,← trim_holds]
  split
  · rename_i empty
    simp [Chunk.Holds,Chunk.stop,StreamBuffer.chunk,empty]
  · exact insertChunk_covers sparse n

theorem appendUnread_agrees {text : Bytes} (agrees : buffer.chunk.Agrees text)
    (all : ∀ chunk ∈ chunks stream.readBuffer, chunk.Agrees text) :
    ∀ chunk ∈ chunks (appendUnread stream buffer), chunk.Agrees text := by
  rw [appendUnread_chunks sparse]
  split
  · exact all
  · exact insertChunk_agrees (trim_agrees agrees _) all

theorem appendUnread_offset
    (all : ∀ chunk ∈ chunks stream.readBuffer, stream.currentReadOffset ≤ chunk.offset) :
    ∀ chunk ∈ chunks (appendUnread stream buffer), stream.currentReadOffset ≤ chunk.offset := by
  rw [appendUnread_chunks sparse]
  split
  · exact all
  · exact insertChunk_offset _ sparse (trim_offset _) all

end AppendUnread

end AppendUnread

private theorem readLoop_stops {remaining currentReadOffset : Nat} {data : Bytes}
    (later : ∀ buffer ∈ readBuffer, currentReadOffset < buffer.offset) :
    readLoop amount sinkData remaining currentReadOffset data eof readBuffer =
      ⟨readBuffer,currentReadOffset,data,eof⟩ := by
  cases readBuffer with
  | nil => rfl
  | cons curr rest =>
    have beyond := later curr List.mem_cons_self
    simp [readLoop,beyond]

theorem readDataInOrderFromReadBuffer_cases (amount : Nat)
    (sparse : Sparse (chunks stream.readBuffer))
    (unread : ∀ chunk ∈ chunks stream.readBuffer, stream.currentReadOffset ≤ chunk.offset) :
    ((∀ chunk ∈ chunks stream.readBuffer, stream.currentReadOffset < chunk.offset) ∧
      readDataInOrderFromReadBuffer stream amount false = (stream,[],false)) ∨
    ∃ chunk rest n readBuffer eof, chunks stream.readBuffer = chunk :: rest ∧
      chunk.offset = stream.currentReadOffset ∧ n ≤ chunk.data.length ∧
      (amount = 0 → n = chunk.data.length) ∧ chunks readBuffer = trimFirst n (chunk :: rest) ∧
      readDataInOrderFromReadBuffer stream amount false = ({stream with
        readBuffer := readBuffer
        currentReadOffset := stream.currentReadOffset + n},chunk.data.take n,eof) := by
  cases buffered : stream.readBuffer with
  | nil =>
    refine .inl ⟨by simp [chunks],?_⟩
    simp only [readDataInOrderFromReadBuffer,buffered,readLoop]
    rw [← buffered]
  | cons curr rest =>
    rw [buffered] at sparse unread
    obtain ⟨filled,behind,_⟩ := sparse_cons.mp sparse
    have first : stream.currentReadOffset ≤ curr.offset := unread curr.chunk List.mem_cons_self
    rcases Nat.lt_or_eq_of_le first with before | here
    · have later : ∀ chunk ∈ chunks (curr :: rest), stream.currentReadOffset < chunk.offset :=
        later_of_first sparse before
      refine .inl ⟨later,?_⟩
      have stops := fun buffer member => later (StreamBuffer.chunk buffer) (List.mem_map_of_mem member)
      simp only [readDataInOrderFromReadBuffer,buffered,readLoop_stops stops]
      rw [← buffered]
    · right
      let n := if amount = 0 then curr.data.length else min curr.data.length amount
      have within : n ≤ curr.data.length := by
        simp only [n]
        split <;> omega
      have later : ∀ buffer ∈ rest, stream.currentReadOffset + n < buffer.offset := by
        intro other member
        have := behind other.chunk (List.mem_map_of_mem member)
        simp only [Before,chunk_offset,chunk_stop,StreamBuffer.stop] at this
        omega
      have entered : ¬(amount ≠ 0 ∧ amount = 0) := fun both => both.1 both.2
      have reached : ¬stream.currentReadOffset < curr.offset := by omega
      have unlimited : amount = 0 → n = curr.data.length := fun none => by simp [n,none]
      by_cases whole : curr.data.length ≤ n
      · refine ⟨curr.chunk,chunks rest,n,rest,curr.eof,rfl,here.symm,within,unlimited,?_,?_⟩
        · simp only [trimFirst,chunk_data,whole,if_true]
        · have nothingLeft : (curr.data.drop n).isEmpty = true := by simpa using whole
          simp only [readDataInOrderFromReadBuffer,buffered,readLoop,entered,gt_iff_lt,reached,
            if_false]
          simp only [n] at nothingLeft later ⊢
          simp only [nothingLeft,if_true,readLoop_stops later,chunk_data,List.nil_append,
            Bool.false_eq_true,if_false]
      · refine ⟨curr.chunk,chunks rest,n,⟨curr.data.drop n,curr.offset + n,curr.eof⟩ :: rest,false,
          rfl,here.symm,within,unlimited,?_,?_⟩
        · simp only [trimFirst,chunk_data,whole,if_false,chunks,List.map_cons]
          rfl
        · have somethingLeft : (curr.data.drop n).isEmpty = false := by simpa using whole
          simp only [readDataInOrderFromReadBuffer,buffered,readLoop,entered,gt_iff_lt,reached,
            if_false]
          simp only [n] at somethingLeft ⊢
          simp only [somethingLeft,Bool.false_eq_true,if_false,chunk_data,List.nil_append]

private theorem readLoop_sink (amount remaining currentReadOffset : Nat) (data other : Bytes)
    (eof : Bool) (readBuffer : List StreamBuffer) :
    readLoop amount true remaining currentReadOffset other eof readBuffer =
      {readLoop amount false remaining currentReadOffset data eof readBuffer with data := other} := by
  induction readBuffer generalizing remaining currentReadOffset data eof with
  | nil => rfl
  | cons curr rest ih =>
    simp only [readLoop,if_true,Bool.false_eq_true,if_false]
    split
    · rfl
    split
    · rfl
    generalize (if amount = 0 then curr.data.length else min curr.data.length remaining) = toRead
    split
    · exact ih _ _ _ _
    · rfl

theorem takeDataFromQuicStream_sink (conn : QuicConnectionState) (stream : QuicStreamState)
    (amount : Nat) (now : TimePoint) :
    takeDataFromQuicStream true conn stream amount now =
      (takeDataFromQuicStream false conn stream amount now).map
        (fun outcome => {outcome with data := []}) := by
  have same : readDataInOrderFromReadBuffer stream.toQuicStreamLike amount true =
      ((readDataInOrderFromReadBuffer stream.toQuicStreamLike amount false).1,[],
        (readDataInOrderFromReadBuffer stream.toQuicStreamLike amount false).2.2) := by
    simp only [readDataInOrderFromReadBuffer,readLoop_sink _ _ _ []]
  simp only [takeDataFromQuicStream,same]
  split
  · rfl
  · cases updateFlowControlOnRead conn _ stream.currentReadOffset now with
    | error e => rfl
    | ok credited => rfl

variable {stream : QuicStreamState}

theorem takeDataFromQuicStream_cases {outcome : ReadOutcome}
    (ok : takeDataFromQuicStream sinkData conn stream amount now = .ok outcome) :
    (∃ final, stream.finalReadOffset = some final ∧ final ≤ stream.currentReadOffset ∧
      outcome = finishRead conn stream.readFinIfReached [] true) ∨
    ((∀ final ∈ stream.finalReadOffset, stream.currentReadOffset < final) ∧
      ∃ like data rest credited,
        readDataInOrderFromReadBuffer stream.toQuicStreamLike amount sinkData = (like,data,rest) ∧
        updateFlowControlOnRead conn {stream with toQuicStreamLike := like}
          stream.currentReadOffset now = .ok credited ∧
        outcome = finishRead credited
          ({stream with toQuicStreamLike := like} : QuicStreamState).readFinIfReached data
          (decide (like.finalReadOffset = some like.currentReadOffset))) := by
  simp only [takeDataFromQuicStream] at ok
  split at ok
  · rename_i finished
    cases ok
    cases known : stream.finalReadOffset with
    | none => simp [known] at finished
    | some final =>
      simp only [known,Option.any_some,ge_iff_le,decide_eq_true_eq] at finished
      exact .inl ⟨final,rfl,finished,rfl⟩
  · rename_i unfinished
    refine .inr ⟨?_,?_⟩
    · intro final known
      rw [Option.mem_def] at known
      simpa [known] using unfinished
    · generalize readDataInOrderFromReadBuffer stream.toQuicStreamLike amount sinkData = result at *
      obtain ⟨like,data,rest⟩ := result
      obtain ⟨credited,credit,ok⟩ := bind_ok.mp ok
      cases ok
      exact ⟨like,data,rest,credited,rfl,credit,rfl⟩

theorem takeDataFromQuicStream_error
    (failed : takeDataFromQuicStream sinkData conn stream amount now = .error error) :
    FlowControlFailure error := by
  simp only [takeDataFromQuicStream] at failed
  split at failed
  · cases failed
  · generalize readDataInOrderFromReadBuffer stream.toQuicStreamLike amount sinkData = result at *
    obtain ⟨like,data,rest⟩ := result
    rcases bind_error.mp failed with refused | ⟨_,_,failed⟩
    · rcases bind_error.mp refused with overflow | ⟨_,_,refused⟩
      · exact incrementWithOverFlowCheck_error overflow
      · cases refused
    · cases failed

end StreamServer.State
