import StreamServer.Codec.Parse
import StreamServer.Codec.WriterSpecs

/-! The decoders read back what the writers wrote, whatever follows it in the packet. -/
namespace StreamServer.Codec
open Protocol Common Lib.Wire Lib.Transition

/-- The delay a receiver makes of one sent with this exponent: the low bits are lost, and more than
1000 seconds count as none. -/
def decodedDelay (exponent : Nat) (delay : Microseconds) : Microseconds :=
  let rounded := delay.toNat >>> exponent <<< exponent
  (if rounded > 1000 * 1000 * 1000 then 0 else rounded : Nat)

/-- The frame a receiver makes of a recorded one and the data that was written with it. -/
def readBack (exponent : Nat) (data : Bytes) : QuicWriteFrame → QuicFrame
  | .padding _ => .padding 1
  | .rstStream frame => .rstStream frame
  | .connectionClose frame => .connectionClose frame
  | .maxData maximumData => .maxData maximumData
  | .maxStreamData streamId maximumData => .maxStreamData streamId maximumData
  | .dataBlocked dataLimit => .dataBlocked dataLimit
  | .streamDataBlocked streamId dataLimit => .streamDataBlocked streamId dataLimit
  | .streamsBlocked streamLimit isForBidirectional => .streamsBlocked streamLimit isForBidirectional
  | .ack frame => .ack {
      largestAcked := (frame.ackBlocks.head?.map (·.stop)).getD 0
      ackDelay := decodedDelay exponent frame.ackDelay
      ackBlocks := frame.ackBlocks.map fun block => ⟨block.start,block.stop⟩}
  | .stream frame => .stream ⟨frame.streamId,frame.offset,data,frame.fin,frame.streamGroupId⟩
  | .crypto frame => .crypto ⟨frame.offset,data⟩
  | .simple (.newToken token) => .newToken token
  | .simple frame => .simple frame
  | .ping => .ping
  | .noop => .noop
  | .datagram length data => .datagram length data
  | .immediateAck => .immediateAck

/-- The values the decoders accept in a simple frame: error codes of 16 bits, path data of 64, a
bounded number of streams, and a knob blob that is one buffer. -/
def simpleInRange : QuicSimpleFrame → Bool
  | .stopSending _ errorCode => errorCode < 2^16
  | .pathChallenge pathData | .pathResponse pathData => pathData < 2^64
  | .maxStreams maxStreams _ => maxStreams ≤ kMaxMaxStreams
  | .knob frame => frame == .make frame.knobSpace frame.id [frame.blob.flatten]
  | _ => true

def inRange : QuicWriteFrame → Bool
  | .rstStream frame => frame.errorCode < 2^16
  | .connectionClose frame => match frame.errorCode with
    | .transport code => code < 2^16 && frame.closingFrameType ≤ kOneByteLimit &&
        frame.reasonPhrase.length ≤ kMaxReasonPhraseLength
    | .application code => code < 2^16 && frame.closingFrameType == 0 &&
        frame.reasonPhrase.length ≤ kMaxReasonPhraseLength
    | .localError _ => false
  | .simple frame => simpleInRange frame
  | .datagram length data => length == data.length
  | _ => true

variable {value : Nat} {bytes : Bytes} {fields : List Field} {α : Type} {result : α}
  {next : Nat → Decoder α} {header : PacketHeader} {params : CodecParameters}
  {frameType : FrameType} {frame : QuicFrame}

theorem integer_reads (message : String) (encoded : QuicInteger.encode value = .ok bytes) :
    Reads (integer message) bytes value := by
  intro rest
  simp only [integer,sizedInteger,bind,StateT.bind,Except.bind,decode_encode encoded rest]
  rfl

/-- The decoder reads the fields as they are encoded. -/
def ReadsFields (decoder : Decoder α) (fields : List Field) (result : α) : Prop :=
  ∀ bytes, encodeFields fields = .ok bytes → Reads decoder bytes result

theorem ReadsFields.integer {message : String} (others : ReadsFields (next value) fields result) :
    ReadsFields (Codec.integer message >>= next) (.integer value :: fields) result := by
  intro bytes encoded
  obtain ⟨a,b,first,second,rfl⟩ := encodeFields_cons.mp encoded
  exact (integer_reads message first).bind (others b second)

theorem ReadsFields.done : ReadsFields (Pure.pure result : Decoder α) [] result := by
  intro bytes encoded
  cases encoded
  exact Reads.pure result

theorem parseFrame_reads {typeBytes : Bytes}
    (typed : QuicInteger.encode frameType.value = .ok typeBytes)
    (decoded : Reads (decodeFrame frameType header params) bytes frame) :
    Reads (parseFrame header params) (typeBytes ++ bytes) frame := by
  intro rest
  rw [List.append_assoc]
  simp only [parseFrame,decode_encode typed,FrameType.ofValue?_value,decoded rest]

/-- The frame is read, whatever follows, and is not mistaken for padding. -/
def ReadsFrame (header : PacketHeader) (params : CodecParameters) (bytes : Bytes) (frame : QuicFrame) :
    Prop :=
  Reads (parseFrame header params) bytes frame ∧ ∃ first tail, bytes = first :: tail ∧ first ≠ 0

theorem typed_reads (encoded : encodeFields (typed frameType fields) = .ok bytes)
    (decoded : ReadsFields (decodeFrame frameType header params) fields frame)
    (visible : frameType ≠ .padding := by decide) :
    ReadsFrame header params bytes frame := by
  obtain ⟨typeBytes,rest,typed,others,rfl⟩ := encodeFields_cons.mp encoded
  have nonzero : frameType.value ≠ 0 := by cases frameType <;> first | exact absurd rfl visible | decide
  obtain ⟨first,tail,rfl,lead⟩ := encode_head typed nonzero
  exact ⟨parseFrame_reads typed (decoded rest others),first,tail ++ rest,rfl,lead⟩

theorem toErrorCode_of_lt {code : Nat} (small : code < 2^16) : toErrorCode code = code :=
  Nat.mod_eq_of_lt small

theorem ReadsFields.data {counted : Nat} {data : Bytes} {next : Bytes → Decoder α} {error : Error}
    {size : Nat} (length : data.length = size) (others : ReadsFields (next data) fields result) :
    ReadsFields (takeExactly error size >>= next) (.bytes counted data :: fields) result := by
  intro bytes encoded
  obtain ⟨a,b,first,second,rfl⟩ := encodeFields_cons.mp encoded
  cases first
  exact (takeExactly_reads error length).bind (others b second)

theorem ReadsFields.word {message : String} (small : value < 2^64)
    (others : ReadsFields (next value) fields result) :
    ReadsFields (Codec.word 8 message >>= next) (.word value :: fields) result := by
  intro bytes encoded
  obtain ⟨a,b,first,second,rfl⟩ := encodeFields_cons.mp encoded
  cases first
  refine Reads.bind ?_ (others b second)
  have back : ofBE (toBE 8 value) = value := ofBE_toBE_of_lt (by omega)
  refine (takeExactly_reads _ (toBE_length 8 value)).last ?_
  rw [back]
  exact Reads.pure value

private theorem decodeConnectionId_reads (connId : ConnectionId) :
    Reads decodeConnectionId (toBE 1 connId.bytes.length ++ connId.bytes) connId := by
  have small : connId.bytes.length ≤ 20 := connId.bounded
  have back : ofBE (toBE 1 connId.bytes.length) = connId.bytes.length := ofBE_toBE_of_lt (by omega)
  refine (takeExactly_reads _ (toBE_length 1 _)).bind ?_
  rw [back]
  intro rest
  have enough : ¬(connId.bytes ++ rest).length < connId.bytes.length := by
    rw [List.length_append]
    omega
  simp only [if_neg enough,List.take_left,List.drop_left,dif_pos connId.bounded]

private theorem decodeStatelessResetToken_reads (token : StatelessResetToken) :
    Reads decodeStatelessResetToken token.bytes token := by
  intro rest
  simp only [decodeStatelessResetToken,List.take_left' token.size,List.drop_left' token.size,
    dif_pos token.size]

section Frames

variable {header : PacketHeader} {params : CodecParameters} {exponent : Nat} {data bytes : Bytes}

private theorem newConnectionId_reads {frame : NewConnectionIdFrame}
    (encoded : encodeFields (simpleFrameFields (.newConnectionId frame)) = .ok bytes) :
    ReadsFrame header params bytes (.simple (.newConnectionId frame)) := by
  refine typed_reads encoded (.integer (.integer fun rest fields => ?_))
  obtain ⟨a,_,length,afterLength,rfl⟩ := encodeFields_cons.mp fields
  obtain ⟨b,_,id,afterId,rfl⟩ := encodeFields_cons.mp afterLength
  obtain ⟨c,d,token,done,rfl⟩ := encodeFields_cons.mp afterId
  cases length
  cases id
  cases token
  cases done
  rw [List.append_nil,← List.append_assoc]
  exact (decodeConnectionId_reads frame.connectionId).bind
    ((decodeStatelessResetToken_reads frame.token).last (Reads.pure _))

theorem simpleFrame_reads {frame : QuicSimpleFrame} (range : simpleInRange frame)
    (encoded : encodeFields (simpleFrameFields frame) = .ok bytes) :
    ReadsFrame header params bytes (readBack exponent data (.simple frame)) := by
  cases frame with
  | stopSending streamId errorCode =>
    have small : errorCode < 2^16 := by simpa [simpleInRange] using range
    refine typed_reads encoded (.integer (.integer ?_))
    rw [toErrorCode_of_lt small]
    exact .done
  | pathChallenge pathData | pathResponse pathData =>
    have small : pathData < 2^64 := by simpa [simpleInRange] using range
    exact typed_reads encoded (.word small .done)
  | newConnectionId frame => exact newConnectionId_reads encoded
  | maxStreams maxStreams isForBidirectional =>
    have small : ¬maxStreams > kMaxMaxStreams := by simpa [simpleInRange] using range
    cases isForBidirectional with
    | true | false =>
      refine typed_reads encoded (.integer ?_)
      rw [if_neg small]
      exact .done
  | retireConnectionId sequenceNumber => exact typed_reads encoded (.integer .done)
  | handshakeDone => exact typed_reads encoded .done
  | knob frame =>
    have whole : frame = .make frame.knobSpace frame.id [frame.blob.flatten] := by
      simpa [simpleInRange] using range
    obtain ⟨knobSpace,id,blob,rfl⟩ : ∃ knobSpace id blob, frame = .make knobSpace id [blob] :=
      ⟨_,_,_,whole⟩
    refine typed_reads encoded (.integer (.integer (.integer fun rest fields => ?_)))
    obtain ⟨a,b,content,done,rfl⟩ := encodeFields_cons.mp fields
    cases content
    cases done
    intro rest
    simp only [KnobFrame.make,List.headD_cons,List.flatten_cons,List.flatten_nil,List.append_nil,
      List.take_left,List.drop_left]
    rfl
  | ackFrequency frame => exact typed_reads encoded (.integer (.integer (.integer (.integer .done))))
  | newToken token => exact typed_reads encoded (.integer (.data rfl .done))

theorem decodeReasonPhrase_reads {reasonPhrase : Bytes}
    (short : reasonPhrase.length ≤ kMaxReasonPhraseLength) :
    ReadsFields decodeReasonPhrase
      [.integer reasonPhrase.length,.bytes reasonPhrase.length reasonPhrase] reasonPhrase := by
  refine .integer fun rest fields => ?_
  rw [if_neg (Nat.not_lt.mpr short)]
  obtain ⟨a,b,content,done,rfl⟩ := encodeFields_cons.mp fields
  cases content
  cases done
  rw [List.append_nil]
  exact takeExactly_reads _ rfl

private theorem connectionClose_reads {frame : ConnectionCloseFrame}
    (range : inRange (.connectionClose frame)) (chosen : connectionCloseFields frame = .ok fields)
    (encoded : encodeFields fields = .ok bytes) :
    ReadsFrame header params bytes (.connectionClose frame) := by
  obtain ⟨code,reasonPhrase,closingFrameType⟩ := frame
  cases code with
  | localError code => cases chosen
  | application code =>
    simp only [inRange,Bool.and_eq_true,decide_eq_true_eq,beq_iff_eq] at range
    obtain ⟨⟨small,rfl⟩,short⟩ := range
    cases chosen
    refine typed_reads encoded (.integer fun rest fields => ?_)
    refine (decodeReasonPhrase_reads short _ fields).last ?_
    rw [toErrorCode_of_lt small]
    exact Reads.pure _
  | transport code =>
    simp only [inRange,Bool.and_eq_true,decide_eq_true_eq] at range
    obtain ⟨⟨small,single⟩,short⟩ := range
    cases chosen
    refine typed_reads encoded (.integer fun rest fields => ?_)
    obtain ⟨a,b,closing,reason,rfl⟩ := encodeFields_cons.mp fields
    have one : a.length = 1 := by
      simp only [Field.encode,QuicInteger.encode,encodeQuicInteger,if_pos single] at closing
      cases closing
      rfl
    refine Reads.bind (a := a) (b := b) (x := (closingFrameType,1)) ?_ ?_
    · intro rest
      simp only [sizedInteger,decode_encode closing rest,one]
    · rw [if_neg (by simp)]
      refine (decodeReasonPhrase_reads short _ reason).last ?_
      rw [toErrorCode_of_lt small]
      exact Reads.pure _

private theorem datagram_reads {length : Nat} {content : Bytes} (whole : length = content.length)
    (encoded : encodeFields (typed .datagramLen [.integer length,.front length content]) = .ok bytes) :
    ReadsFrame header params bytes (.datagram length content) := by
  refine typed_reads encoded fun rest fields => ?_
  obtain ⟨a,_,size,afterSize,rfl⟩ := encodeFields_cons.mp fields
  obtain ⟨b,c,payload,done,rfl⟩ := encodeFields_cons.mp afterSize
  have same : content = b := by
    simp only [Field.encode,whole,Nat.lt_irrefl,if_false,List.take_length,Except.ok.injEq] at payload
    exact payload
  cases done
  subst whole same
  intro rest
  have first := integer_reads "Invalid datagram len" size (content ++ rest)
  have second := takeExactly_reads (frameEncodingError "Invalid datagram frame") (Eq.refl content.length) rest
  rw [List.append_nil,List.append_assoc]
  simp only [decodeFrame,decodeDatagramFrame,if_true,first,bind,Except.bind,second]
  rfl

theorem controlFrame_reads {frame : QuicWriteFrame} (range : inRange frame)
    (visible : ∀ numFrames, frame ≠ .padding numFrames)
    (chosen : writeFrameFields frame = .ok fields) (encoded : encodeFields fields = .ok bytes) :
    ReadsFrame header params bytes (readBack exponent data frame) := by
  cases frame with
  | padding numFrames => exact absurd rfl (visible numFrames)
  | ack frame | stream frame | crypto frame | noop => cases chosen
  | connectionClose frame => exact connectionClose_reads range chosen encoded
  | simple frame =>
    cases chosen
    exact simpleFrame_reads range encoded
  | datagram length content =>
    cases chosen
    exact datagram_reads (by simpa [inRange] using range) encoded
  | rstStream frame =>
    have small : frame.errorCode < 2^16 := by simpa [inRange] using range
    cases chosen
    refine typed_reads encoded (.integer (.integer (.integer ?_)))
    rw [toErrorCode_of_lt small]
    exact .done
  | streamsBlocked streamLimit isForBidirectional =>
    cases chosen
    cases isForBidirectional <;> exact typed_reads encoded (.integer .done)
  | maxData maximumData | dataBlocked dataLimit =>
    cases chosen
    exact typed_reads encoded (.integer .done)
  | maxStreamData streamId maximumData | streamDataBlocked streamId dataLimit =>
    cases chosen
    exact typed_reads encoded (.integer (.integer .done))
  | ping | immediateAck =>
    cases chosen
    exact typed_reads encoded .done

private theorem streamType_known (hasOffset hasLength hasFin : Bool) :
    ∃ frameType : FrameType,
      frameType.value = (streamTypeField false hasOffset hasLength hasFin).field ∧
      frameType.value ≤ kOneByteLimit ∧ frameType.value ≠ 0 ∧
      decodeFrame frameType header params =
        decodeStreamFrame (streamTypeField false hasOffset hasLength hasFin) false := by
  cases hasOffset <;> cases hasLength <;> cases hasFin
  · exact ⟨.stream,rfl,by decide,by decide,rfl⟩
  · exact ⟨.streamFin,rfl,by decide,by decide,rfl⟩
  · exact ⟨.streamLen,rfl,by decide,by decide,rfl⟩
  · exact ⟨.streamLenFin,rfl,by decide,by decide,rfl⟩
  · exact ⟨.streamOff,rfl,by decide,by decide,rfl⟩
  · exact ⟨.streamOffFin,rfl,by decide,by decide,rfl⟩
  · exact ⟨.streamOffLen,rfl,by decide,by decide,rfl⟩
  · exact ⟨.streamOffLenFin,rfl,by decide,by decide,rfl⟩

theorem streamTypeField_bits (hasOffset hasLength hasFin : Bool) :
    (streamTypeField false hasOffset hasLength hasFin).hasOffset = hasOffset ∧
      (streamTypeField false hasOffset hasLength hasFin).hasDataLength = hasLength := by
  revert hasOffset hasLength hasFin
  decide

theorem optionalInteger_reads {present : Bool} (message : String)
    (encoded : encodeFields ((presentIf present value).toList.map .integer) = .ok bytes) :
    Reads (optionalInteger present message) bytes (presentIf present value) := by
  cases present with
  | false =>
    cases encoded
    exact Reads.pure none
  | true =>
    obtain ⟨a,b,first,done,rfl⟩ := encodeFields_cons.mp encoded
    cases done
    rw [List.append_nil]
    intro rest
    have read := integer_reads message first rest
    simp only [optionalInteger,if_true,Functor.map,StateT.map,read,presentIf]
    rfl

theorem presentIf_nonzero (offset : Nat) : (presentIf (offset ≠ 0) offset).getD 0 = offset := by
  by_cases zero : offset = 0 <;> simp [presentIf,zero]

theorem lengthField_encoded {dataLen dataLenLen : Nat}
    (encoded : encodeFields ((presentIf (dataLenLen > 0) dataLen).toList.map .integer) = .ok bytes) :
    if dataLenLen > 0 then QuicInteger.encode dataLen = .ok bytes else bytes = [] := by
  by_cases present : dataLenLen > 0
  · rw [if_pos present]
    simp only [presentIf,present,decide_true,if_true,Option.toList,List.map] at encoded
    obtain ⟨a,b,first,done,rfl⟩ := encodeFields_cons.mp encoded
    cases done
    rw [List.append_nil]
    exact first
  · rw [if_neg present]
    simp only [presentIf,present,decide_false] at encoded
    cases encoded
    rfl

section Stream

variable {id offset dataLen dataLenLen : Nat} {hasFin : Bool} {content : Bytes}
  (encoded : encodeFields (streamHeaderFields
    (streamTypeField false (offset ≠ 0) (dataLenLen > 0) hasFin) id none offset dataLen dataLenLen) =
      .ok bytes)
  (length : content.length = dataLen)

include encoded length

private theorem streamHeader_parts :
    ∃ idBytes offsetBytes lenBytes,
      bytes = toBE 1 (streamTypeField false (offset ≠ 0) (dataLenLen > 0) hasFin).field ++
        (idBytes ++ (offsetBytes ++ lenBytes)) ∧
      Reads (integer "Invalid stream id") idBytes id ∧
      Reads (optionalInteger (offset ≠ 0) "Invalid offset") offsetBytes
        (presentIf (offset ≠ 0) offset) ∧
      (if dataLenLen > 0 then QuicInteger.encode content.length = .ok lenBytes else lenBytes = []) := by
  obtain ⟨typeBytes,_,typeByte,afterType,rfl⟩ := encodeFields_cons.mp encoded
  obtain ⟨idBytes,_,idEncoded,afterId,rfl⟩ := encodeFields_cons.mp afterType
  obtain ⟨offsetBytes,lenBytes,offsetEncoded,lenEncoded,rfl⟩ := encodeFields_append.mp afterId
  cases typeByte
  refine ⟨idBytes,offsetBytes,lenBytes,rfl,integer_reads _ idEncoded,
    optionalInteger_reads _ offsetEncoded,?_⟩
  rw [length]
  exact lengthField_encoded lenEncoded

theorem decodeStreamFrame_reads (counted : dataLenLen > 0) :
    ∃ rest, bytes = toBE 1 (streamTypeField false (offset ≠ 0) (dataLenLen > 0) hasFin).field ++ rest ∧
      Reads (decodeStreamFrame (streamTypeField false (offset ≠ 0) (dataLenLen > 0) hasFin) false)
        (rest ++ content) (.stream ⟨id,offset,content,hasFin,none⟩) := by
  obtain ⟨idBytes,offsetBytes,lenBytes,rfl,idRead,offsetRead,lenRead⟩ := streamHeader_parts encoded length
  rw [if_pos counted] at lenRead
  have dataRead : Reads (decodeStreamData true) (lenBytes ++ content) content :=
    (integer_reads _ lenRead).bind (takeExactly_reads _ rfl)
  obtain ⟨hasOffset,hasLength⟩ := streamTypeField_bits (offset ≠ 0) (dataLenLen > 0) hasFin
  refine ⟨_,rfl,?_⟩
  rw [List.append_assoc,List.append_assoc,decodeStreamFrame,hasOffset,hasLength,decide_eq_true counted]
  refine idRead.bind ?_
  rw [show optionalInteger false "Invalid group stream id" = pure none from rfl,pure_bind]
  refine offsetRead.bind (dataRead.last ?_)
  rw [presentIf_nonzero,streamTypeField_hasFin]
  exact Reads.pure _

theorem decodeStreamFrame_readsLast (uncounted : dataLenLen = 0) :
    ∃ rest, bytes = toBE 1 (streamTypeField false (offset ≠ 0) (dataLenLen > 0) hasFin).field ++ rest ∧
      ReadsLast (decodeStreamFrame (streamTypeField false (offset ≠ 0) (dataLenLen > 0) hasFin) false)
        (rest ++ content) (.stream ⟨id,offset,content,hasFin,none⟩) := by
  obtain ⟨idBytes,offsetBytes,lenBytes,rfl,idRead,offsetRead,lenRead⟩ := streamHeader_parts encoded length
  rw [if_neg (by omega)] at lenRead
  obtain ⟨hasOffset,hasLength⟩ := streamTypeField_bits (offset ≠ 0) (dataLenLen > 0) hasFin
  refine ⟨_,rfl,?_⟩
  rw [lenRead,List.append_nil,List.append_assoc,decodeStreamFrame,hasOffset,hasLength,
    show decide (dataLenLen > 0) = false from decide_eq_false (by omega)]
  refine idRead.bindLast ?_
  rw [show optionalInteger false "Invalid group stream id" = pure none from rfl,pure_bind]
  refine offsetRead.bindLast ?_
  rw [presentIf_nonzero,streamTypeField_hasFin]
  rfl

omit encoded length in
private theorem streamType_typed :
    ∃ frameType : FrameType, frameType.value ≠ 0 ∧
      QuicInteger.encode frameType.value =
        .ok (toBE 1 (streamTypeField false (offset ≠ 0) (dataLenLen > 0) hasFin).field) ∧
      decodeFrame frameType header params =
        decodeStreamFrame (streamTypeField false (offset ≠ 0) (dataLenLen > 0) hasFin) false := by
  obtain ⟨frameType,same,small,nonzero,decoder⟩ :=
    @streamType_known header params (offset ≠ 0) (dataLenLen > 0) hasFin
  refine ⟨frameType,nonzero,?_,decoder⟩
  rw [QuicInteger.encode,encodeQuicInteger,if_pos small,same]

theorem streamFrame_reads (counted : dataLenLen > 0) :
    Reads (parseFrame header params) (bytes ++ content) (.stream ⟨id,offset,content,hasFin,none⟩) := by
  obtain ⟨rest,rfl,decoded⟩ := decodeStreamFrame_reads encoded length counted
  obtain ⟨frameType,-,typed,decoder⟩ := @streamType_typed header params offset dataLenLen hasFin
  rw [List.append_assoc]
  refine parseFrame_reads typed ?_
  rw [decoder]
  exact decoded

theorem streamFrame_readsLast (uncounted : dataLenLen = 0) :
    ReadsLast (parseFrame header params) (bytes ++ content)
      (.stream ⟨id,offset,content,hasFin,none⟩) := by
  obtain ⟨rest,rfl,decoded⟩ := decodeStreamFrame_readsLast encoded length uncounted
  obtain ⟨frameType,-,typed,decoder⟩ := @streamType_typed header params offset dataLenLen hasFin
  rw [← decoder] at decoded
  rw [List.append_assoc,ReadsLast]
  simp only [parseFrame,decode_encode typed,FrameType.ofValue?_value,
    show decodeFrame frameType header params _ = _ from decoded]

include header params in
theorem streamFrame_leads : ∃ first tail, bytes ++ content = first :: tail ∧ first ≠ 0 := by
  obtain ⟨idBytes,offsetBytes,lenBytes,rfl,-⟩ := streamHeader_parts encoded length
  obtain ⟨frameType,nonzero,typed,-⟩ := @streamType_typed header params offset dataLenLen hasFin
  obtain ⟨first,tail,same,lead⟩ := encode_head typed nonzero
  rw [same]
  exact ⟨first,_,rfl,lead⟩

end Stream

theorem cryptoFrame_reads {offset len : Nat} {data : Bytes} (enough : len ≤ data.length)
    (encoded : encodeFields (cryptoFields offset len data) = .ok bytes) :
    ReadsFrame header params bytes (.crypto ⟨offset,data.take len⟩) := by
  have length : (data.take len).length = len := List.length_take_of_le enough
  refine typed_reads encoded (.integer (.integer fun rest fields => ?_))
  obtain ⟨a,b,first,done,rfl⟩ := encodeFields_cons.mp fields
  rw [Field.encode,if_neg (by omega)] at first
  cases first
  cases done
  exact (takeExactly_reads _ length).bind (Reads.pure _)

private theorem overflowMask_clear {exponent delay : Nat}
    (word : delay < 2^64) :
    delay &&& maxUint64 <<< (64 - exponent) % 2^64 = 0 ↔ delay < 2^(64 - exponent) := by
  constructor
  · intro clear
    by_contra high
    obtain ⟨i,above,set⟩ := Nat.exists_ge_and_testBit_of_ge_two_pow (Nat.not_lt.mp high)
    have below : i < 64 := by
      by_contra out
      rw [Nat.testBit_lt_two_pow (word.trans_le (Nat.pow_le_pow_right (by decide) (by omega)))] at set
      cases set
    have ones : maxUint64.testBit (i - (64 - exponent)) = true := by
      rw [show maxUint64 = 2^64 - 1 from rfl,Nat.testBit_two_pow_sub_one]
      exact decide_eq_true (by omega)
    have bit : (delay &&& maxUint64 <<< (64 - exponent) % 2^64).testBit i = false := by
      rw [clear,Nat.zero_testBit]
    rw [Nat.testBit_and,Nat.testBit_mod_two_pow,Nat.testBit_shiftLeft,set,ones] at bit
    simp [below,above] at bit
  · intro low
    apply Nat.eq_of_testBit_eq
    intro i
    rw [Nat.testBit_and,Nat.testBit_mod_two_pow,Nat.testBit_shiftLeft,Nat.zero_testBit]
    by_cases high : 64 - exponent ≤ i
    · rw [Nat.testBit_lt_two_pow (Nat.lt_of_lt_of_le low (Nat.pow_le_pow_right (by decide) high)),
        Bool.false_and]
    · simp [high]

/-- A delay is scaled exactly or refused, as its scaled value fits a signed counter or not. -/
theorem convertEncodedDuration_scaled {exponent delay : Nat} (small : 1 ≤ exponent ∧ exponent < 64)
    (word : delay < 2^64) :
    (delay * 2^exponent < 2^63 ∧
        convertEncodedDurationToMicroseconds exponent delay = .ok (delay * 2^exponent)) ∨
      (2^63 ≤ delay * 2^exponent ∧
        ∃ error, convertEncodedDurationToMicroseconds exponent delay = .error error) := by
  have wide : delay < 2^(64 - exponent) ↔ delay * 2^exponent < 2^64 := by
    rw [← Nat.mul_lt_mul_right (Nat.two_pow_pos exponent),← Nat.pow_add,
      Nat.sub_add_cancel small.2.le]
  have clear := (overflowMask_clear word).trans wide
  unfold convertEncodedDurationToMicroseconds
  dsimp only
  rw [if_neg (by omega),Nat.shiftLeft_eq delay]
  by_cases fits : delay * 2^exponent < 2^64
  · rw [if_neg (not_not.mpr (clear.mpr fits)),Nat.mod_eq_of_lt fits]
    by_cases signed : delay * 2^exponent < 2^63
    · exact .inl ⟨signed,if_neg (by omega)⟩
    · exact .inr ⟨by omega,_,if_pos (by omega)⟩
  · exact .inr ⟨by omega,_,if_pos (mt clear.mp fits)⟩

/-- A delay that fits a signed 64-bit counter loses its low bits only. -/
theorem convertEncodedDuration_shifted {exponent delay : Nat}
    (small : 1 ≤ exponent ∧ exponent < 64) (signed : delay < 2^63) :
    convertEncodedDurationToMicroseconds exponent (delay >>> exponent) =
      .ok (delay >>> exponent <<< exponent) := by
  have back : delay >>> exponent * 2^exponent ≤ delay := by
    rw [Nat.shiftRight_eq_div_pow]
    exact Nat.div_mul_le_self delay _
  have less := Nat.shiftRight_le delay exponent
  rw [Nat.shiftLeft_eq]
  rcases convertEncodedDuration_scaled small (show delay >>> exponent < 2^64 by omega) with
    ⟨-,scaled⟩ | ⟨large,-⟩
  · exact scaled
  · omega

private theorem decodeAckBlocks_reads {current : Nat} {blocks : List Interval}
    (below : ∀ block ∈ blocks, block.stop + 1 < current) (bounded : current ≤ maxUint64)
    (descending : blocks.Pairwise fun a b => Separated b a) :
    ReadsFields (decodeAckBlocks current blocks.length) (ackBlocksFields current blocks)
      (blocks.map fun block => ⟨block.start,block.stop⟩) := by
  induction blocks generalizing current with
  | nil => exact .done
  | cons block rest ih =>
    have here := below block (List.mem_cons_self ..)
    have ordered := block.ordered
    obtain ⟨apart,others⟩ := List.pairwise_cons.mp descending
    have gap : sub64 (sub64 current block.stop) 2 = current - block.stop - 2 := by
      unfold maxUint64 at bounded
      have first : sub64 current block.stop = current - block.stop := sub64_of_le (by omega) (by omega)
      rw [first,sub64_of_le (by omega) (by omega)]
    have up : nextAckedPacketGap current (current - block.stop - 2) = .ok block.stop := by
      rw [nextAckedPacketGap,if_neg (by omega)]
      exact congrArg Except.ok (by omega)
    have down : nextAckedPacketLen block.stop (block.stop - block.start) = .ok block.start := by
      rw [nextAckedPacketLen,if_neg (by omega)]
      exact congrArg Except.ok (by omega)
    rw [ackBlocksFields,ackBlockFields,gap]
    refine .integer (.integer fun tail fields => ?_)
    exact Reads.check up (Reads.check down ((ih apart (by omega) others _ fields).last (Reads.pure _)))

theorem fillFrameWithAckBlocks_front {current count limit : Nat} {blocks additional : List Interval}
    (filled : fillFrameWithAckBlocks current count limit blocks = .ok additional) :
    additional <+: blocks := by
  induction blocks generalizing current count limit additional with
  | nil =>
    cases filled
    exact List.prefix_rfl
  | cons block rest ih =>
    unfold fillFrameWithAckBlocks at filled
    obtain ⟨_,-,filled⟩ := bind_ok.mp filled
    obtain ⟨_,-,filled⟩ := bind_ok.mp filled
    obtain ⟨_,-,filled⟩ := bind_ok.mp filled
    dsimp only at filled
    split at filled
    · cases filled
      exact List.nil_prefix
    · obtain ⟨more,taken,same⟩ := bind_ok.mp filled
      cases same
      exact List.cons_prefix_cons.mpr ⟨rfl,ih taken⟩

section Ack

variable {metaData : WriteAckFrameMetaData} {largest : Interval} {rest additional : List Interval}
  {limit : Nat} (blocks : metaData.acks.intervals.reverse = largest :: rest)
  (filled : fillFrameWithAckBlocks largest.start 0 limit rest = .ok additional)
  (agreed : metaData.ackDelayExponent = ackDelayExponentToUse header params)
  (small : 1 ≤ metaData.ackDelayExponent ∧ metaData.ackDelayExponent < 64)
  (positive : 0 ≤ metaData.ackDelay) (signed : metaData.ackDelay < 2^63)

include blocks filled agreed small positive signed

theorem decodeAckFields_reads (frameType : FrameType) {fields : Bytes}
    (encoded : encodeFields ([.integer largest.stop,.integer metaData.encodedAckDelay,
      .integer additional.length,.integer (largest.stop - largest.start)] ++
        ackBlocksFields largest.start additional) = .ok fields) :
    Reads (decodeAckFrame header params frameType) fields
      {largestAcked := largest.stop
       ackDelay := decodedDelay metaData.ackDelayExponent metaData.ackDelay
       ackBlocks := (largest :: additional).map fun block => ⟨block.start,block.stop⟩
       frameType := frameType} := by
  have descending : (largest :: rest).Pairwise fun a b => Separated b a := by
    rw [← blocks]
    exact List.pairwise_reverse.mpr metaData.acks.separated
  obtain ⟨apart,others⟩ := List.pairwise_cons.mp descending
  have taken := fillFrameWithAckBlocks_front filled
  have ordered := largest.ordered
  have bounded := largest.bounded
  have down : nextAckedPacketLen largest.stop (largest.stop - largest.start) = .ok largest.start := by
    rw [nextAckedPacketLen,if_neg (by omega)]
    exact congrArg Except.ok (by omega)
  have delay : convertEncodedDurationToMicroseconds (ackDelayExponentToUse header params)
      metaData.encodedAckDelay = .ok (metaData.ackDelay.toNat >>> metaData.ackDelayExponent <<<
        metaData.ackDelayExponent) := by
    have small63 : metaData.ackDelay.toNat < 2^63 := (Int.toNat_lt positive).mpr signed
    have small64 : metaData.ackDelay < (2^64 : Int) := Int.lt_trans signed (by decide)
    rw [← agreed,WriteAckFrameMetaData.encodedAckDelay,Int.emod_eq_of_lt positive small64]
    exact convertEncodedDuration_shifted small small63
  refine ReadsFields.integer (.integer (.integer (.integer fun _ fields =>
    Reads.check down (Reads.check delay ?_)))) _ encoded
  exact (decodeAckBlocks_reads (fun block inside => apart block (taken.subset inside)) (by omega)
    (others.sublist taken.sublist) _ fields).last (Reads.pure _)

variable (encoded : encodeFields (ackHeaderFields metaData largest additional.length ++
    ackBlocksFields largest.start additional) = .ok bytes)

include encoded

theorem decodeAckFrame_reads :
    ∃ fields, bytes = toBE 1 FrameType.ack.value ++ fields ∧
      Reads (decodeAckFrame header params .ack) fields
        {largestAcked := largest.stop
         ackDelay := decodedDelay metaData.ackDelayExponent metaData.ackDelay
         ackBlocks := (largest :: additional).map fun block => ⟨block.start,block.stop⟩
         frameType := .ack} := by
  obtain ⟨_,fields,typeByte,fieldsEncoded,rfl⟩ := encodeFields_cons.mp encoded
  cases typeByte
  exact ⟨fields,rfl,decodeAckFields_reads blocks filled agreed small positive signed .ack fieldsEncoded⟩

theorem ackFrame_reads :
    ReadsFrame header params bytes
        (readBack metaData.ackDelayExponent [] (.ack ⟨largest :: additional,metaData.ackDelay⟩)) := by
  obtain ⟨fields,rfl,decoded⟩ :=
    decodeAckFrame_reads blocks filled agreed small positive signed encoded
  have typed : QuicInteger.encode FrameType.ack.value = .ok (toBE 1 FrameType.ack.value) := rfl
  refine ⟨parseFrame_reads typed ?_,_,fields,rfl,by decide⟩
  rw [decodeFrame,map_eq_pure_bind]
  exact decoded.last (Reads.pure _)

end Ack

end Frames

end StreamServer.Codec
