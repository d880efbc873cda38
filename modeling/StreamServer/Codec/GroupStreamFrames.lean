import StreamServer.Codec.StreamHeaderLaw

/-! Stream frames of a group. The type they start from already has the bit that announces a
length field, so the bit cannot be left out together with the field. -/
namespace StreamServer.Codec
open Protocol Lib.Wire Lib.Transition

/-- Whether the writer leaves out the length field of a frame of a group. -/
def skipsLengthField (space id groupId offset available : Nat) (skipLenHint : Option Bool) :
    Except Error Bool := do
  let idSize ← QuicInteger.getSize id
  let groupIdSize ← QuicInteger.getSize groupId
  let offsetSize ← optionalSize (presentIf (offset ≠ 0) offset)
  return shouldSkipLengthField space (1 + idSize + groupIdSize + offsetSize) available skipLenHint

theorem groupTypeField_bits (hasOffset hasLength hasFin : Bool) :
    (streamTypeField true hasOffset hasLength hasFin).hasOffset = hasOffset ∧
      (streamTypeField true hasOffset hasLength hasFin).hasDataLength = true := by
  revert hasOffset hasLength hasFin
  decide

variable {header : PacketHeader} {params : CodecParameters}

private theorem groupType_known (hasOffset hasLength hasFin : Bool) :
    ∃ frameType : FrameType,
      QuicInteger.encode frameType.value =
        .ok (toBE 1 (streamTypeField true hasOffset hasLength hasFin).field) ∧
      decodeFrame frameType header params =
        decodeStreamFrame (streamTypeField true hasOffset hasLength hasFin) true := by
  cases hasOffset <;> cases hasLength <;> cases hasFin
  · exact ⟨.groupStream,rfl,rfl⟩
  · exact ⟨.groupStreamFin,rfl,rfl⟩
  · exact ⟨.groupStream,rfl,rfl⟩
  · exact ⟨.groupStreamFin,rfl,rfl⟩
  · exact ⟨.groupStreamOff,rfl,rfl⟩
  · exact ⟨.groupStreamOffFin,rfl,rfl⟩
  · exact ⟨.groupStreamOff,rfl,rfl⟩
  · exact ⟨.groupStreamOffFin,rfl,rfl⟩

private theorem decodeStreamData_shorter {content data rest : Bytes}
    (decoded : decodeStreamData true content = .ok (data,rest)) : data.length < content.length := by
  have stepped : decodeStreamData true content = ((integer "Invalid length") content >>= fun result =>
      takeExactly (frameEncodingError "Length mismatch") result.1 result.2) := rfl
  rw [stepped] at decoded
  obtain ⟨⟨dataLength,left⟩,counted,taken⟩ := bind_ok.mp decoded
  have shorter : left.length < content.length := by
    simp only [integer,sizedInteger,bind,StateT.bind,Except.bind] at counted
    split at counted
    · cases counted
    · next found =>
      cases counted
      split at found
      · next first =>
        cases found
        exact decodeQuicInteger_shorter first
      · cases found
  unfold takeExactly at taken
  split at taken
  · cases taken
  · cases taken
    rw [List.length_take]
    exact Nat.lt_of_le_of_lt (Nat.min_le_right _ _) shorter

section Header

variable {id groupId offset dataLen dataLenLen : Nat} {hasFin : Bool} {bytes : Bytes}
  (encoded : encodeFields (streamHeaderFields
    (streamTypeField true (offset ≠ 0) (dataLenLen > 0) hasFin) id (some groupId) offset dataLen
      dataLenLen) = .ok bytes)

include encoded

private theorem groupHeader_read :
    ∃ fields lenBytes,
      bytes = toBE 1 (streamTypeField true (offset ≠ 0) (dataLenLen > 0) hasFin).field ++
        (fields ++ lenBytes) ∧
      (∀ rest, decodeStreamFrame (streamTypeField true (offset ≠ 0) (dataLenLen > 0) hasFin) true
        (fields ++ rest) = (do
          let data ← decodeStreamData true
          return .stream ⟨id,offset,data,hasFin,some groupId⟩ : Decoder QuicFrame) rest) ∧
      (if dataLenLen > 0 then QuicInteger.encode dataLen = .ok lenBytes else lenBytes = []) := by
  obtain ⟨typeBytes,_,typeByte,afterType,rfl⟩ := encodeFields_cons.mp encoded
  obtain ⟨idBytes,_,idEncoded,afterId,rfl⟩ := encodeFields_cons.mp afterType
  obtain ⟨_,lenBytes,before,lenEncoded,rfl⟩ := encodeFields_append.mp afterId
  obtain ⟨groupBytes,offsetBytes,groupEncoded,offsetEncoded,rfl⟩ := encodeFields_append.mp before
  cases typeByte
  have idRead := integer_reads "Invalid stream id" idEncoded
  have groupRead : Reads (optionalInteger true "Invalid group stream id") groupBytes (some groupId) :=
    @optionalInteger_reads groupId _ true _ groupEncoded
  have offsetRead := optionalInteger_reads "Invalid offset" offsetEncoded
  obtain ⟨hasOffset,hasLength⟩ := groupTypeField_bits (offset ≠ 0) (dataLenLen > 0) hasFin
  refine ⟨idBytes ++ (groupBytes ++ offsetBytes),lenBytes,by simp,fun rest => ?_,?_⟩
  · unfold decodeStreamFrame
    rw [hasOffset,hasLength,streamTypeField_hasFin,List.append_assoc,List.append_assoc]
    simp only [bind,StateT.bind,Except.bind,idRead _,groupRead _,offsetRead _]
    rw [presentIf_nonzero]
  · exact lengthField_encoded lenEncoded

private theorem groupFrame_parsed {content : Bytes} (length : content.length = dataLen)
    (counted : dataLenLen > 0) :
    parseFrame header params (bytes ++ content) =
      .ok (.stream ⟨id,offset,content,hasFin,some groupId⟩,[]) := by
  obtain ⟨fields,lenBytes,rfl,reads,field⟩ := groupHeader_read encoded
  obtain ⟨frameType,typed,decoder⟩ :=
    @groupType_known header params (offset ≠ 0) (dataLenLen > 0) hasFin
  rw [if_pos counted,← length] at field
  have dataRead : Reads (decodeStreamData true) (lenBytes ++ content) content :=
    (integer_reads _ field).bind (takeExactly_reads _ rfl)
  have frameRead : Reads (do
      let data ← decodeStreamData true
      return .stream ⟨id,offset,data,hasFin,some groupId⟩ : Decoder QuicFrame)
      (lenBytes ++ content) (.stream ⟨id,offset,content,hasFin,some groupId⟩) :=
    dataRead.last (Reads.pure _)
  have decoded := reads (lenBytes ++ content)
  rw [← decoder,frameRead.whole] at decoded
  rw [List.append_assoc,List.append_assoc]
  simp only [parseFrame,decode_encode typed,FrameType.ofValue?_value,decoded]

private theorem groupFrame_misread {content : Bytes} (uncounted : dataLenLen = 0) (rest : Bytes) :
    parseFrame header params (bytes ++ content) ≠
      .ok (.stream ⟨id,offset,content,hasFin,some groupId⟩,rest) := by
  obtain ⟨fields,lenBytes,rfl,reads,field⟩ := groupHeader_read encoded
  obtain ⟨frameType,typed,decoder⟩ :=
    @groupType_known header params (offset ≠ 0) (dataLenLen > 0) hasFin
  rw [if_neg (by omega)] at field
  subst field
  intro parsed
  have decoded := reads content
  rw [← decoder] at decoded
  rw [List.append_nil,List.append_assoc] at parsed
  simp only [parseFrame,decode_encode typed,FrameType.ofValue?_value,decoded] at parsed
  split at parsed
  · next read =>
    cases parsed
    obtain ⟨⟨data,left⟩,taken,frame⟩ := bind_ok.mp read
    cases frame
    exact absurd (decodeStreamData_shorter taken) (Nat.lt_irrefl _)
  · cases parsed

end Header

private theorem streamDataLenLen_zero {skip : Bool} {dataLen count : Nat}
    (counted : streamDataLenLen skip dataLen = .ok count) : skip = decide (count = 0) := by
  unfold streamDataLenLen at counted
  split_ifs at counted with skipped
  all_goals
    cases counted
    simp_all

private theorem groupHeader_written {builder after : PacketBuilder}
    {id groupId offset writeBufferLen flowControlLen dataLen : Nat} {fin : Bool}
    {skipLenHint : Option Bool} {appendFrame : Bool} (small : builder.Counted)
    (written : writeStreamFrameHeader builder id offset writeBufferLen flowControlLen fin skipLenHint
      (some groupId) appendFrame = .ok (some dataLen,after)) :
    ∃ dataLenLen shouldSetFin bytes,
      skipsLengthField builder.remainingSpaceInPkt id groupId offset
        (min writeBufferLen flowControlLen) skipLenHint = .ok (decide (dataLenLen = 0)) ∧
      encodeFields (streamHeaderFields (streamTypeField true (offset ≠ 0) (dataLenLen > 0) shouldSetFin)
        id (some groupId) offset dataLen dataLenLen) = .ok bytes ∧
      shouldSetFin = (fin && dataLen == writeBufferLen) ∧ dataLen ≤ writeBufferLen ∧
      Extends builder after bytes := by
  unfold writeStreamFrameHeader at written
  split at written
  · cases written
  split at written
  · cases written
  obtain ⟨idSize,idCounted,written⟩ := bind_ok.mp written
  obtain ⟨groupIdSize,groupCounted,written⟩ := bind_ok.mp written
  split at written
  · cases written
  obtain ⟨offsetSize,offsetCounted,written⟩ := bind_ok.mp written
  obtain ⟨⟨dataLenLen,fitted⟩,chosen,written⟩ := bind_ok.mp written
  cases fitted with
  | none => cases written
  | some fitted =>
    obtain ⟨fittedLen,shouldSetFin⟩ := fitted
    obtain ⟨bytes,encoded,written⟩ := bind_ok.mp written
    simp only [pure,Except.pure,Except.ok.injEq,Prod.mk.injEq,Option.some.injEq] at written
    obtain ⟨rfl,rfl⟩ := written
    have bounded : builder.remainingSpaceInPkt < 2^32 := Nat.lt_of_le_of_lt builder.space_le small
    obtain ⟨room,buffered,_,carries,_,_,covered⟩ := streamFrameLengths_some bounded chosen
    obtain ⟨short,_⟩ := streamHeader_length idCounted groupCounted offsetCounted covered encoded
    obtain ⟨count,counted,same⟩ := bind_ok.mp chosen
    have same : count = dataLenLen := (Prod.mk.inj (Except.ok.inj same)).1
    subst same
    refine ⟨count,shouldSetFin,bytes,?_,encoded,carries,buffered,?_⟩
    · have groupSize : QuicInteger.getSize groupId = .ok groupIdSize := groupCounted
      simp only [skipsLengthField,idCounted,groupSize,offsetCounted,bind,Except.bind,pure,Except.pure]
      rw [streamDataLenLen_zero counted]
    · have appended := Extends.append small (by omega : bytes.length ≤ builder.remainingSpaceInPkt)
      split
      · exact appended.appendFrame _
      · exact appended.markNonEmpty

/-- A frame of a group that was begun is read back with its data exactly if its length field was
written. -/
theorem group_stream_frame_read_back {builder after : PacketBuilder}
    {id groupId offset flowControlLen dataLen : Nat} {data : Bytes} {fin : Bool}
    {skipLenHint : Option Bool} {appendFrame : Bool} (small : builder.remainingBytes < 2^32)
    (written : writeStreamFrameHeader builder id offset data.length flowControlLen fin skipLenHint
      (some groupId) appendFrame = .ok (some dataLen,after)) :
    ∃ bytes, Extends builder after bytes ∧
      (parseFrame header params (bytes ++ data.take dataLen) =
          .ok (.stream ⟨id,offset,data.take dataLen,fin && dataLen == data.length,some groupId⟩,[]) ↔
        skipsLengthField builder.remainingSpaceInPkt id groupId offset
          (min data.length flowControlLen) skipLenHint = .ok false) := by
  obtain ⟨dataLenLen,shouldSetFin,bytes,skips,encoded,carries,buffered,extended⟩ :=
    groupHeader_written small written
  refine ⟨bytes,extended,?_⟩
  rw [← carries,skips,Except.ok.injEq,decide_eq_false_iff_not]
  constructor
  · intro parsed uncounted
    exact groupFrame_misread encoded uncounted [] parsed
  · intro counted
    exact groupFrame_parsed encoded (List.length_take_of_le buffered) (Nat.pos_of_ne_zero counted)

private def emptyPacket : PacketBuilder := .make 100 (.short ⟨.zero,.empty,1⟩) 0

private def begunWith (bytes : Bytes) (frame : WriteStreamFrame) : PacketBuilder :=
  (emptyPacket.append bytes).appendFrame (.stream frame)

theorem group_stream_frame_read_back_counted :
    ∃ after bytes, writeStreamFrameHeader emptyPacket 4 7 3 20 true none (some 1) true =
        .ok (some 3,after) ∧ Extends emptyPacket after bytes ∧
      parseFrame (.short ⟨.zero,⟨[],by decide⟩,1⟩) {} (bytes ++ [1,2,3]) =
        .ok (.stream ⟨4,7,[1,2,3],true,some 1⟩,[]) := by
  have written : writeStreamFrameHeader emptyPacket 4 7 3 20 true none (some 1) true =
      .ok (some 3,begunWith [0x37,4,1,7,3] ⟨4,7,3,true,false,some 1,0⟩) := by decide +kernel
  obtain ⟨bytes,extended,readBack⟩ := @group_stream_frame_read_back
    (.short ⟨.zero,⟨[],by decide⟩,1⟩) {} _ _ 4 1 7 20 3 [1,2,3] true none true (by decide) written
  exact ⟨_,bytes,written,extended,readBack.mpr (by decide +kernel)⟩

/-- Three bytes without a length field: the first one is taken for it. -/
theorem group_stream_frame_misread :
    ∃ after, writeStreamFrameHeader emptyPacket 4 0 3 20 true (some true) (some 1) true =
        .ok (some 3,after) ∧ after.body = [0x33,4,1] ∧
      parseFrame (.short ⟨.zero,⟨[],by decide⟩,1⟩) {} ([0x33,4,1] ++ [1,2,3]) =
        .ok (.stream ⟨4,0,[2],true,some 1⟩,[3]) :=
  ⟨begunWith [0x33,4,1] ⟨4,0,3,true,false,some 1,0⟩,by decide +kernel,by decide +kernel,
    by decide +kernel⟩

end StreamServer.Codec
