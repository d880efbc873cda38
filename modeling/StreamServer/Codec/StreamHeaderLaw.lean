import StreamServer.Codec.FrameRoundTrip

/-! The header of a stream frame: what it announces fits the packet and the limits, it is
read back with the data that follows, and the differences of unsigned numbers that wrap
around on the way decide nothing. -/
namespace StreamServer.Codec
open Protocol Lib.Wire

section Difference

variable (difference : Nat → Nat → Nat)

def shouldSkipLengthFieldWith (space headerSize available : Nat) : Option Bool → Bool
  | some skipLenHint => skipLenHint
  | none => available > 0 && available ≥ difference space headerSize

def fitStreamDataWith (space headerSize writeBufferLen dataLen dataLenLen : Nat) (fin : Bool) :
    Option (Nat × Bool) :=
  if dataLenLen > 0 ∧ dataLen ≠ 0 ∧ headerSize + dataLenLen ≥ space then none
  else
    let fullSize := headerSize + dataLenLen
    let fitted := if dataLenLen > 0 ∧ space < dataLen + fullSize then difference space fullSize else dataLen
    let shouldSetFin := fin && fitted == writeBufferLen
    if (fitted = 0 ∧ ¬shouldSetFin) ∨ space < fullSize then none else some (fitted,shouldSetFin)

def streamFrameLengthsWith (space headerSize writeBufferLen flowControlLen : Nat) (fin : Bool)
    (skipLenHint : Option Bool) : Except Error (Nat × Option (Nat × Bool)) := do
  let available := min writeBufferLen flowControlLen
  let dataLen := min available (difference space headerSize)
  let dataLenLen ←
    streamDataLenLen (shouldSkipLengthFieldWith difference space headerSize available skipLenHint) dataLen
  return (dataLenLen,fitStreamDataWith difference space headerSize writeBufferLen dataLen dataLenLen fin)

def beginStreamFrameWith (builder : PacketBuilder) (id offset writeBufferLen flowControlLen : Nat)
    (fin : Bool) (skipLenHint : Option Bool) (streamGroupId : Option Nat) (appendFrame : Bool)
    (headerSize : Nat) : Except Error (Option Nat × PacketBuilder) := do
  let (dataLenLen,fitted) ← streamFrameLengthsWith difference builder.remainingSpaceInPkt headerSize
    writeBufferLen flowControlLen fin skipLenHint
  match fitted with
  | none => .ok (none,builder)
  | some (dataLen,shouldSetFin) => do
    let streamType := streamTypeField streamGroupId.isSome (offset ≠ 0) (dataLenLen > 0) shouldSetFin
    let bytes ← encodeFields (streamHeaderFields streamType id streamGroupId offset dataLen dataLenLen)
    return (some dataLen,
      if appendFrame then (builder.append bytes).appendFrame
        (.stream ⟨id,offset,dataLen,streamType.hasFin,false,streamGroupId,0⟩)
      else (builder.append bytes).markNonEmpty)

/-- The writer of stream frame headers with its unsigned differences computed by any function. -/
def writeStreamFrameHeaderWith (builder : PacketBuilder) (id offset writeBufferLen flowControlLen : Nat)
    (fin : Bool) (skipLenHint : Option Bool) (streamGroupId : Option Nat) (appendFrame : Bool) :
    Except Error (Option Nat × PacketBuilder) :=
  if builder.remainingSpaceInPkt = 0 then .ok (none,builder)
  else if writeBufferLen = 0 && !fin then
    .error (.internal .internalError "No data or fin supplied when writing stream.")
  else do
    let idSize ← QuicInteger.getSize id
    let groupIdSize ← optionalSize streamGroupId
    if builder.remainingSpaceInPkt < 1 + idSize + groupIdSize then .ok (none,builder)
    else do
      let offsetSize ← optionalSize (presentIf (offset ≠ 0) offset)
      beginStreamFrameWith difference builder id offset writeBufferLen flowControlLen fin skipLenHint
        streamGroupId appendFrame (1 + idSize + groupIdSize + offsetSize)

end Difference

theorem writeStreamFrameHeader_eq : writeStreamFrameHeader = writeStreamFrameHeaderWith sub64 := rfl

/-- A function that computes the difference of 64-bit numbers where there is one. -/
def Subtracts (difference : Nat → Nat → Nat) : Prop :=
  ∀ a b, b ≤ a → a < 2^64 → difference a b = a - b

theorem sub64_subtracts : Subtracts sub64 := fun _ _ ordered bound => sub64_of_le ordered bound

variable {difference : Nat → Nat → Nat} {headerSize dataLenLen : Nat} {builder : PacketBuilder}

private theorem fitStreamDataWith_none {space writeBufferLen dataLen : Nat} {fin : Bool}
    (crowded : space < headerSize + dataLenLen) :
    fitStreamDataWith difference space headerSize writeBufferLen dataLen dataLenLen fin = none := by
  unfold fitStreamDataWith
  split
  · rfl
  · exact if_pos (.inr crowded)

private theorem fitStreamDataWith_exact (subtracts : Subtracts difference)
    {space writeBufferLen dataLen : Nat} {fin : Bool} (small : space < 2^32) :
    fitStreamDataWith difference space headerSize writeBufferLen dataLen dataLenLen fin =
      fitStreamDataWith (· - ·) space headerSize writeBufferLen dataLen dataLenLen fin := by
  by_cases crowded : space < headerSize + dataLenLen
  · rw [fitStreamDataWith_none crowded,fitStreamDataWith_none crowded]
  · unfold fitStreamDataWith
    dsimp only
    rw [subtracts space (headerSize + dataLenLen) (by omega) (by omega)]

private theorem streamDataLenLen_total {skip : Bool} {dataLen : Nat} (bounded : dataLen ≤ kEightByteLimit - 8) :
    ∃ count, streamDataLenLen skip dataLen = .ok count := by
  unfold streamDataLenLen
  rw [if_pos bounded]
  split_ifs <;> exact ⟨_,rfl⟩

section Accounting

variable (subtracts : Subtracts difference) {builder : PacketBuilder} (small : builder.Counted)
  {id offset writeBufferLen flowControlLen headerSize : Nat} {fin : Bool} {skipLenHint : Option Bool}
  {streamGroupId : Option Nat} {appendFrame : Bool}
  (bounded : min writeBufferLen flowControlLen ≤ kEightByteLimit - 8)

include subtracts small bounded

/-- A header that leaves no space is given up on, whatever the differences below zero are. -/
private theorem beginStreamFrameWith_exact :
    beginStreamFrameWith difference builder id offset writeBufferLen flowControlLen fin skipLenHint
        streamGroupId appendFrame headerSize =
      beginStreamFrameWith (· - ·) builder id offset writeBufferLen flowControlLen fin skipLenHint
        streamGroupId appendFrame headerSize := by
  have space : builder.remainingSpaceInPkt < 2^32 := Nat.lt_of_le_of_lt builder.space_le small
  by_cases crowded : builder.remainingSpaceInPkt < headerSize
  · have given : ∀ difference : Nat → Nat → Nat,
        beginStreamFrameWith difference builder id offset writeBufferLen flowControlLen fin skipLenHint
          streamGroupId appendFrame headerSize = .ok (none,builder) := by
      intro difference
      obtain ⟨count,counted⟩ := @streamDataLenLen_total
        (shouldSkipLengthFieldWith difference builder.remainingSpaceInPkt headerSize
          (min writeBufferLen flowControlLen) skipLenHint)
        (min (min writeBufferLen flowControlLen) (difference builder.remainingSpaceInPkt headerSize))
        (Nat.le_trans (Nat.min_le_left _ _) bounded)
      unfold beginStreamFrameWith streamFrameLengthsWith
      simp only [counted,bind,Except.bind,pure,Except.pure]
      rw [fitStreamDataWith_none (Nat.lt_of_lt_of_le crowded (Nat.le_add_right _ _))]
    rw [given,given]
  · have exact := subtracts builder.remainingSpaceInPkt headerSize (by omega) (by omega)
    have skipped : ∀ available, shouldSkipLengthFieldWith difference builder.remainingSpaceInPkt headerSize
        available skipLenHint = shouldSkipLengthFieldWith (· - ·) builder.remainingSpaceInPkt headerSize
          available skipLenHint := by
      intro available
      cases skipLenHint with
      | some skip => rfl
      | none => simp only [shouldSkipLengthFieldWith,exact]
    unfold beginStreamFrameWith streamFrameLengthsWith
    simp only [exact,skipped,fitStreamDataWith_exact subtracts space]

/-- The writer takes no decision on a difference that wraps around. -/
theorem writeStreamFrameHeaderWith_exact :
    writeStreamFrameHeaderWith difference builder id offset writeBufferLen flowControlLen fin skipLenHint
        streamGroupId appendFrame =
      writeStreamFrameHeaderWith (· - ·) builder id offset writeBufferLen flowControlLen fin skipLenHint
        streamGroupId appendFrame := by
  unfold writeStreamFrameHeaderWith
  simp only [beginStreamFrameWith_exact subtracts small bounded]

end Accounting

private theorem optionalSize_total {value : Nat} {present : Bool} (small : value ≤ kEightByteLimit) :
    ∃ size, optionalSize (presentIf present value) = .ok size := by
  cases present with
  | false => exact ⟨0,rfl⟩
  | true => exact getSize_total small

private theorem presentIf_small {value : Nat} {present : Bool} (small : value ≤ kEightByteLimit) :
    ∀ other ∈ (presentIf present value).toList, other ≤ kEightByteLimit := by
  cases present with
  | false => simp [presentIf]
  | true => simpa [presentIf] using small

private theorem fitStreamDataWith_le {space writeBufferLen dataLen fitted : Nat}
    {fin shouldSetFin : Bool}
    (chosen : fitStreamDataWith (· - ·) space headerSize writeBufferLen dataLen dataLenLen fin =
      some (fitted,shouldSetFin)) : fitted ≤ max space dataLen := by
  unfold fitStreamDataWith at chosen
  dsimp only at chosen
  split_ifs at chosen <;> cases chosen <;> omega

private theorem beginStreamFrameWith_total {id offset writeBufferLen flowControlLen : Nat}
    {fin : Bool} {skipLenHint : Option Bool} {appendFrame : Bool}
    (space : builder.remainingSpaceInPkt < 2^32) (idSmall : id ≤ kEightByteLimit)
    (offsetSmall : offset ≤ kEightByteLimit)
    (bounded : min writeBufferLen flowControlLen ≤ kEightByteLimit - 8) :
    ∃ result, beginStreamFrameWith (· - ·) builder id offset writeBufferLen flowControlLen fin skipLenHint
      none appendFrame headerSize = .ok result := by
  obtain ⟨count,counted⟩ := @streamDataLenLen_total
    (shouldSkipLengthFieldWith (· - ·) builder.remainingSpaceInPkt headerSize
      (min writeBufferLen flowControlLen) skipLenHint)
    (min (min writeBufferLen flowControlLen) (builder.remainingSpaceInPkt - headerSize)) (by omega)
  unfold beginStreamFrameWith streamFrameLengthsWith
  simp only [counted,bind,Except.bind,pure,Except.pure]
  split
  · exact ⟨_,rfl⟩
  next dataLen shouldSetFin fitted =>
    have short : dataLen ≤ kEightByteLimit := by
      have := fitStreamDataWith_le fitted
      unfold kEightByteLimit at *
      omega
    obtain ⟨bytes,encoded,-⟩ := @integers_written
      (id :: ((presentIf (offset ≠ 0) offset).toList ++ (presentIf (count > 0) dataLen).toList)) (by
        intro value inside
        rcases List.mem_cons.mp inside with rfl | inside
        · exact idSmall
        · rcases List.mem_append.mp inside with inside | inside
          · exact presentIf_small offsetSmall value inside
          · exact presentIf_small short value inside)
    rw [List.map_cons,List.map_append] at encoded
    have whole : encodeFields (streamHeaderFields
        (streamTypeField false (offset ≠ 0) (count > 0) shouldSetFin) id none offset dataLen count) =
          .ok (_ ++ bytes) := encodeFields_cons.mpr ⟨_,bytes,rfl,encoded,rfl⟩
    rw [show (none : Option Nat).isSome = false from rfl,whole]
    exact ⟨_,rfl⟩

private theorem writeStreamFrameHeader_total {id offset writeBufferLen flowControlLen : Nat}
    {fin : Bool} {skipLenHint : Option Bool} {appendFrame : Bool} (small : builder.Counted)
    (something : 0 < writeBufferLen ∨ fin = true) (idSmall : id ≤ kEightByteLimit)
    (offsetSmall : offset ≤ kEightByteLimit)
    (bounded : min writeBufferLen flowControlLen ≤ kEightByteLimit - 8) :
    ∃ result, writeStreamFrameHeader builder id offset writeBufferLen flowControlLen fin skipLenHint none
      appendFrame = .ok result := by
  have space : builder.remainingSpaceInPkt < 2^32 := Nat.lt_of_le_of_lt builder.space_le small
  obtain ⟨idSize,idCounted⟩ := getSize_total idSmall
  obtain ⟨offsetSize,offsetCounted⟩ := @optionalSize_total offset (offset ≠ 0) offsetSmall
  have ungrouped : optionalSize none = .ok 0 := rfl
  rw [writeStreamFrameHeader_eq,writeStreamFrameHeaderWith_exact sub64_subtracts small bounded]
  unfold writeStreamFrameHeaderWith
  split
  · exact ⟨_,rfl⟩
  · have carries : ¬(writeBufferLen = 0 && !fin) = true := by
      rcases something with data | ends
      · simp only [Bool.and_eq_true,decide_eq_true_eq]
        omega
      · simp [ends]
    rw [if_neg carries]
    simp only [idCounted,ungrouped,bind,Except.bind]
    split
    · exact ⟨_,rfl⟩
    · rw [offsetCounted]
      exact beginStreamFrameWith_total space idSmall offsetSmall bounded

/-- A stream frame header and the data it announces. The length field may be left out because it
was asked for, or because the data fills the packet. -/
structure StreamHeaderWritten (builder after : PacketBuilder) (id offset writeBufferLen flowControlLen : Nat)
    (fin : Bool) (skipLenHint : Option Bool) (dataLen : Nat) (streamType : StreamTypeField)
    (fields : Bytes) : Prop where
  appended : Extends builder after (toBE 1 streamType.field ++ fields)
  fits : (toBE 1 streamType.field ++ fields).length + dataLen ≤ builder.remainingSpaceInPkt
  limited : dataLen ≤ min writeBufferLen flowControlLen
  finBit : streamType.hasFin = true ↔ fin = true ∧ dataLen = writeBufferLen
  something : dataLen = 0 → streamType.hasFin = true
  filled : streamType.hasDataLength = false → skipLenHint ≠ some true →
    (toBE 1 streamType.field ++ fields).length + dataLen = builder.remainingSpaceInPkt
  reads : ∀ content : Bytes, content.length = dataLen →
    ReadsLast (decodeStreamFrame streamType false) (fields ++ content)
      (.stream ⟨id,offset,content,streamType.hasFin,none⟩)
  counted : streamType.hasDataLength = true → ∀ content : Bytes, content.length = dataLen →
    Reads (decodeStreamFrame streamType false) (fields ++ content)
      (.stream ⟨id,offset,content,streamType.hasFin,none⟩)

private theorem streamHeader_written {after : PacketBuilder}
    {id offset writeBufferLen flowControlLen dataLen : Nat} {fin shouldSetFin appendFrame : Bool}
    {skipLenHint : Option Bool} {bytes : Bytes} (small : builder.Counted)
    (encoded : encodeFields (streamHeaderFields
      (streamTypeField false (offset ≠ 0) (dataLenLen > 0) shouldSetFin) id none offset dataLen dataLenLen) =
        .ok bytes)
    (fit : StreamFrameFit builder.remainingSpaceInPkt writeBufferLen flowControlLen fin skipLenHint
      dataLen dataLenLen shouldSetFin bytes)
    (same : after = if appendFrame then (builder.append bytes).appendFrame
        (.stream ⟨id,offset,dataLen,shouldSetFin,false,none,0⟩)
      else (builder.append bytes).markNonEmpty) :
    ∃ fields, StreamHeaderWritten builder after id offset writeBufferLen flowControlLen fin skipLenHint
      dataLen (streamTypeField false (offset ≠ 0) (dataLenLen > 0) shouldSetFin) fields := by
  obtain ⟨_,fields,typeByte,-,rfl⟩ := encodeFields_cons.mp encoded
  cases typeByte
  have appended := Extends.append small (Nat.le_trans (Nat.le_add_right _ _) fit.fits)
  have hasLength := (streamTypeField_bits (offset ≠ 0) (dataLenLen > 0) shouldSetFin).2
  have counted : ∀ content : Bytes, content.length = dataLen → dataLenLen > 0 →
      Reads (decodeStreamFrame (streamTypeField false (offset ≠ 0) (dataLenLen > 0) shouldSetFin) false)
        (fields ++ content) (.stream ⟨id,offset,content,shouldSetFin,none⟩) := by
    intro content length present
    obtain ⟨rest,split,reads⟩ := decodeStreamFrame_reads encoded length present
    rwa [List.append_cancel_left split]
  refine ⟨fields,?_,fit.fits,Nat.le_min.mpr ⟨fit.buffered,fit.allowed⟩,?_,?_,?_,?_,?_⟩
  · rw [same]
    split
    · exact appended.appendFrame _
    · exact appended.markNonEmpty
  · rw [streamTypeField_hasFin,fit.carries,Bool.and_eq_true,beq_iff_eq]
  · intro none
    rw [streamTypeField_hasFin]
    exact fit.something.resolve_left (not_not.mpr none)
  · intro absent unasked
    rw [hasLength] at absent
    rcases fit.filled (Nat.eq_zero_of_not_pos (of_decide_eq_false absent)) with asked | ⟨-,-,full⟩
    · exact absurd asked unasked
    · exact full
  · intro content length
    rw [streamTypeField_hasFin]
    by_cases present : dataLenLen > 0
    · exact (counted content length present).whole
    · obtain ⟨rest,split,reads⟩ :=
        decodeStreamFrame_readsLast encoded length (Nat.eq_zero_of_not_pos present)
      rwa [List.append_cancel_left split]
  · intro present content length
    rw [hasLength] at present
    rw [streamTypeField_hasFin]
    exact counted content length (of_decide_eq_true present)

/-- A stream frame is not begun and the builder left as it was, or its header announces data that
fits the packet and both limits and is read back; the result is the same however the differences
below zero come out. -/
theorem stream_frame_header_law {builder : PacketBuilder}
    {id offset writeBufferLen flowControlLen : Nat} {fin : Bool} {skipLenHint : Option Bool}
    {appendFrame : Bool} (small : builder.remainingBytes < 2^32) (something : 0 < writeBufferLen ∨ fin = true)
    (idSmall : id < 2^62) (offsetSmall : offset < 2^62)
    (bounded : min writeBufferLen flowControlLen ≤ 2^62 - 9) :
    (∃ result after, writeStreamFrameHeader builder id offset writeBufferLen flowControlLen fin skipLenHint
        none appendFrame = .ok (result,after) ∧
      ((result = none ∧ after = builder) ∨ ∃ dataLen streamType fields, result = some dataLen ∧
        StreamHeaderWritten builder after id offset writeBufferLen flowControlLen fin skipLenHint dataLen
          streamType fields)) ∧
      ∀ difference, Subtracts difference →
        writeStreamFrameHeaderWith difference builder id offset writeBufferLen flowControlLen fin skipLenHint
            none appendFrame =
          writeStreamFrameHeader builder id offset writeBufferLen flowControlLen fin skipLenHint none
            appendFrame := by
  have limit : min writeBufferLen flowControlLen ≤ kEightByteLimit - 8 := bounded
  constructor
  · obtain ⟨⟨result,after⟩,written⟩ := @writeStreamFrameHeader_total builder id offset writeBufferLen
      flowControlLen fin skipLenHint appendFrame small something (Nat.le_of_lt_succ idSmall)
      (Nat.le_of_lt_succ offsetSmall) limit
    refine ⟨result,after,written,?_⟩
    rcases writeStreamFrameHeader_begun small written with unchanged |
      ⟨dataLen,dataLenLen,shouldSetFin,bytes,done,encoded,fit,same⟩
    · exact .inl unchanged
    · obtain ⟨fields,law⟩ := streamHeader_written small encoded fit same
      exact .inr ⟨dataLen,_,fields,done,law⟩
  · intro difference subtracts
    rw [writeStreamFrameHeader_eq,writeStreamFrameHeaderWith_exact subtracts small limit,
      writeStreamFrameHeaderWith_exact sub64_subtracts small limit]

/-- Ten bytes with a FIN in a packet of a hundred. -/
theorem stream_frame_header_law_ten :
    ∃ result after, writeStreamFrameHeader (.make 100 (.short ⟨.zero,⟨[],by decide⟩,1⟩) 0) 4 7 10 20 true
        none none true = .ok (result,after) ∧
      ((result = none ∧ after = .make 100 (.short ⟨.zero,⟨[],by decide⟩,1⟩) 0) ∨
        ∃ dataLen streamType fields, result = some dataLen ∧
          StreamHeaderWritten (.make 100 (.short ⟨.zero,⟨[],by decide⟩,1⟩) 0) after 4 7 10 20 true none
            dataLen streamType fields) :=
  (stream_frame_header_law (by decide) (.inl (by decide)) (by decide) (by decide) (by decide)).1

/-- With neither data nor a FIN the writer throws, although there is space. -/
theorem stream_frame_header_throws :
    writeStreamFrameHeader (.make 100 (.short ⟨.zero,⟨[],by decide⟩,1⟩) 0) 4 0 0 20 false none none true =
      .error (.internal .internalError "No data or fin supplied when writing stream.") := rfl

end StreamServer.Codec
