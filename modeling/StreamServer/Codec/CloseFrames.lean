import StreamServer.Codec.FrameRoundTrip

/-! CONNECTION_CLOSE frames: what the writer puts into a packet, and which of it the decoders of the
peer give back. -/
namespace StreamServer.Codec
open Protocol Lib.Wire Lib.Transition

def noError : Nat := 0
def internalError : Nat := 1

/-- The frame of a close: its own for an error, a fixed one for none and for a local error. -/
def closeFrame : Option (QuicErrorCode × Bytes) → ConnectionCloseFrame
  | none => ⟨.transport noError,"No error".toUTF8.toList,0⟩
  | some (.application code,message) =>
    ⟨.application code,message,FrameType.connectionCloseAppErr.value⟩
  | some (.transport code,message) => ⟨.transport code,message,FrameType.connectionClose.value⟩
  | some (.localError _,_) =>
    ⟨.transport internalError,"Internal error".toUTF8.toList,FrameType.connectionClose.value⟩

/-- Error codes are 16 bits wide. -/
def Narrow : QuicErrorCode → Prop
  | .application code | .transport code | .localError code => code < 2^16

instance (code : QuicErrorCode) : Decidable (Narrow code) :=
  match code with
  | .application code | .transport code | .localError code => inferInstanceAs (Decidable (code < 2^16))

/-- The type a close is written with, and the decoder of that type. -/
def closeType (frame : ConnectionCloseFrame) : FrameType :=
  match frame.errorCode with
  | .transport _ => .connectionClose
  | _ => .connectionCloseAppErr

def closeDecoder (frame : ConnectionCloseFrame) : Decoder QuicFrame :=
  match frame.errorCode with
  | .transport _ => decodeConnectionCloseFrame
  | _ => decodeApplicationClose

/-- The reason is no longer than the decoders accept, and the closing type takes one byte; an
application close has no closing type on the wire. -/
def Closable (frame : ConnectionCloseFrame) : Prop :=
  frame.reasonPhrase.length ≤ kMaxReasonPhraseLength ∧
    match frame.errorCode with
    | .transport _ => frame.closingFrameType ≤ kOneByteLimit
    | _ => frame.closingFrameType = 0

instance (frame : ConnectionCloseFrame) : Decidable (Closable frame) :=
  match frame with
  | ⟨.transport _,reasonPhrase,closingFrameType⟩ => inferInstanceAs (Decidable
      (reasonPhrase.length ≤ kMaxReasonPhraseLength ∧ closingFrameType ≤ kOneByteLimit))
  | ⟨.application _,reasonPhrase,closingFrameType⟩ | ⟨.localError _,reasonPhrase,closingFrameType⟩ =>
    inferInstanceAs (Decidable
      (reasonPhrase.length ≤ kMaxReasonPhraseLength ∧ closingFrameType = 0))

section Decoding

variable {bytes rest : Bytes}

private theorem decodeReasonPhrase_ok {reasonPhrase : Bytes} {result : Bytes × Bytes}
    (encoded : encodeFields [.integer reasonPhrase.length,
      .bytes reasonPhrase.length reasonPhrase] = .ok bytes) :
    decodeReasonPhrase (bytes ++ rest) = .ok result ↔
      reasonPhrase.length ≤ kMaxReasonPhraseLength ∧ result = (reasonPhrase,rest) := by
  by_cases short : reasonPhrase.length ≤ kMaxReasonPhraseLength
  · rw [decodeReasonPhrase_reads short _ encoded rest]
    simp [short,eq_comm]
  · obtain ⟨a,b,length,content,rfl⟩ := encodeFields_cons.mp encoded
    have refused : decodeReasonPhrase (a ++ b ++ rest) =
        .error (frameEncodingError "Bad reason phrase length") := by
      rw [List.append_assoc,decodeReasonPhrase,(integer_reads _ length).step,
        if_pos (Nat.lt_of_not_le short)]
      rfl
    rw [refused]
    simp [short]

private theorem closingType_length {closingFrameType : Nat}
    (encoded : QuicInteger.encode closingFrameType = .ok bytes) :
    bytes.length = 1 ↔ closingFrameType ≤ kOneByteLimit := by
  unfold QuicInteger.encode encodeQuicInteger at encoded
  split_ifs at encoded with one two four eight <;> cases encoded
  · simp [one]
  all_goals simp [one]

variable {frame : ConnectionCloseFrame} {fields : List Field}

private theorem closeDecoder_reads_iff (narrow : Narrow frame.errorCode)
    (chosen : connectionCloseFields frame = .ok (typed (closeType frame) fields))
    (encoded : encodeFields fields = .ok bytes) :
    Reads (closeDecoder frame) bytes (.connectionClose frame) ↔ Closable frame := by
  obtain ⟨code,reasonPhrase,closingFrameType⟩ := frame
  cases code with
  | localError code => cases chosen
  | application code =>
    cases chosen
    obtain ⟨codeBytes,reasonBytes,first,reason,rfl⟩ := encodeFields_cons.mp encoded
    have phrase := fun rest result => @decodeReasonPhrase_ok reasonBytes rest reasonPhrase result reason
    have stepped : ∀ rest, decodeApplicationClose (codeBytes ++ reasonBytes ++ rest) =
        (do
          let (reasonPhrase,left) ← decodeReasonPhrase (reasonBytes ++ rest)
          return (.connectionClose ⟨.application code,reasonPhrase,0⟩,left)) := by
      intro rest
      rw [List.append_assoc,decodeApplicationClose,(integer_reads _ first).step,
        toErrorCode_of_lt narrow]
      rfl
    show (∀ rest, decodeApplicationClose (codeBytes ++ reasonBytes ++ rest) = _) ↔ _
    constructor
    · intro reads
      obtain ⟨⟨decoded,left⟩,read,same⟩ := bind_ok.mp ((stepped []).symm.trans (reads []))
      obtain ⟨short,together⟩ := (phrase _ _).mp read
      cases together
      cases same
      exact ⟨short,rfl⟩
    · rintro ⟨short,none⟩ rest
      cases none
      rw [stepped]
      exact bind_ok.mpr ⟨_,(phrase _ _).mpr ⟨short,rfl⟩,rfl⟩
  | transport code =>
    cases chosen
    obtain ⟨codeBytes,_,first,behind,rfl⟩ := encodeFields_cons.mp encoded
    obtain ⟨typeBytes,reasonBytes,type,reason,rfl⟩ := encodeFields_cons.mp behind
    have phrase := fun rest result => @decodeReasonPhrase_ok reasonBytes rest reasonPhrase result reason
    have single := closingType_length type
    have sized : Reads (sizedInteger "Bad connection close triggering frame type value") typeBytes
        (closingFrameType,typeBytes.length) := by
      intro rest
      simp only [sizedInteger,decode_encode type rest]
    have stepped : ∀ rest, decodeConnectionCloseFrame
        (codeBytes ++ (typeBytes ++ reasonBytes) ++ rest) =
        (if typeBytes.length ≠ 1 then
          .error (frameEncodingError "Bad connection close triggering frame type value")
        else do
          let (reasonPhrase,left) ← decodeReasonPhrase (reasonBytes ++ rest)
          return (.connectionClose ⟨.transport code,reasonPhrase,closingFrameType⟩,left)) := by
      intro rest
      rw [List.append_assoc,List.append_assoc,decodeConnectionCloseFrame,
        (integer_reads _ first).step,sized.step,toErrorCode_of_lt narrow]
      split_ifs <;> rfl
    show (∀ rest, decodeConnectionCloseFrame (codeBytes ++ (typeBytes ++ reasonBytes) ++ rest) = _) ↔ _
    constructor
    · intro reads
      have read := (stepped []).symm.trans (reads [])
      by_cases one : typeBytes.length = 1
      · rw [if_neg (not_not.mpr one)] at read
        obtain ⟨⟨decoded,left⟩,read,same⟩ := bind_ok.mp read
        obtain ⟨short,-⟩ := (phrase _ _).mp read
        exact ⟨short,single.mp one⟩
      · rw [if_pos one] at read
        cases read
    · rintro ⟨short,one⟩ rest
      rw [stepped,if_neg (not_not.mpr (single.mpr one))]
      exact bind_ok.mpr ⟨_,(phrase _ _).mpr ⟨short,rfl⟩,rfl⟩

end Decoding

private theorem connectionCloseFields_typed {frame : ConnectionCloseFrame} {fields : List Field}
    (chosen : connectionCloseFields frame = .ok fields) :
    ∃ behind, fields = typed (closeType frame) behind := by
  obtain ⟨code,reasonPhrase,closingFrameType⟩ := frame
  cases code with
  | localError code => cases chosen
  | application code | transport code =>
    cases chosen
    exact ⟨_,rfl⟩

/-- A close that is written is given back by the peer exactly when its reason is short and its closing
type takes one byte. -/
theorem connection_close_round_trip {frame : ConnectionCloseFrame} {builder after : PacketBuilder}
    {size : Nat} (small : builder.Counted) (narrow : Narrow frame.errorCode)
    (written : writeFrame (.connectionClose frame) builder = .ok (size,after)) (some : size ≠ 0) :
    ∃ typeBytes bytes, Extends builder after (typeBytes ++ bytes) ∧
      QuicInteger.encode (closeType frame).value = .ok typeBytes ∧
      (Reads (closeDecoder frame) bytes (.connectionClose frame) ↔ Closable frame) := by
  rcases writeFrame_cases small rfl written with ⟨none,-⟩ | ⟨fields,bytes,chosen,encoded,-,step,-⟩
  · exact absurd none some
  · obtain ⟨behind,rfl⟩ := connectionCloseFields_typed chosen
    obtain ⟨typeBytes,bytes,type,others,rfl⟩ := encodeFields_cons.mp encoded
    exact ⟨typeBytes,bytes,step,type,closeDecoder_reads_iff narrow chosen others⟩

def freshPacket : PacketBuilder := .make 1252 (.short ⟨.zero,.empty,1⟩) 0

/-- A close with the reason "bye". -/
theorem connection_close_round_trip_bye :
    ∃ size after bytes, writeFrame (.connectionClose (closeFrame (some (.transport 10,[0x62,0x79,0x65]))))
        freshPacket = .ok (size,after) ∧ after.body = 0x1C :: bytes ∧
      Reads decodeConnectionCloseFrame bytes
        (.connectionClose (closeFrame (some (.transport 10,[0x62,0x79,0x65])))) := by
  have room : freshPacket.Counted := (by decide : 1252 < 2^32)
  obtain ⟨typeBytes,bytes,step,type,read⟩ := @connection_close_round_trip
    (closeFrame (some (.transport 10,[0x62,0x79,0x65]))) freshPacket _ _ room (by decide) rfl (by decide)
  cases type
  exact ⟨_,_,bytes,rfl,step.body,read.mpr (by decide)⟩

/-- A close that fits an empty packet but is not read back from it. -/
def WrittenUnread (frame : ConnectionCloseFrame) : Prop :=
  ∃ size after bytes, writeFrame (.connectionClose frame) freshPacket = .ok (size,after) ∧
    after.body = 0x1C :: bytes ∧ ¬Reads decodeConnectionCloseFrame bytes (.connectionClose frame)

private theorem long_reason_written {reason : Bytes} (length : reason.length = 1025) :
    WrittenUnread (closeFrame (some (.transport 10,reason))) := by
  have encoded : encodeFields [.integer 10,.integer FrameType.connectionClose.value,
      .integer reason.length,.bytes reason.length reason] =
        .ok ([10] ++ ([0x1C] ++ ([0x44,0x01] ++ (reason ++ [])))) := by
    rw [length]
    exact encodeFields_cons.mpr ⟨_,_,rfl,encodeFields_cons.mpr ⟨_,_,rfl,
      encodeFields_cons.mpr ⟨_,_,rfl,encodeFields_cons.mpr ⟨_,_,rfl,rfl,rfl⟩,rfl⟩,rfl⟩,rfl⟩
  have sized : fieldsSize (typed .connectionClose [.integer 10,
      .integer FrameType.connectionClose.value,.integer reason.length,.bytes reason.length reason]) =
        .ok (1 + (1 + (1 + (2 + (1025 + 0))))) := by
    rw [length]
    exact fieldsSize_cons.mpr ⟨_,_,rfl,fieldsSize_cons.mpr ⟨_,_,rfl,fieldsSize_cons.mpr ⟨_,_,rfl,
      fieldsSize_cons.mpr ⟨_,_,rfl,fieldsSize_cons.mpr ⟨_,_,rfl,rfl,rfl⟩,rfl⟩,rfl⟩,rfl⟩,rfl⟩
  have written : writeFrame (.connectionClose (closeFrame (some (.transport 10,reason)))) freshPacket =
      .ok (1030,recordFrame (.connectionClose (closeFrame (some (.transport 10,reason))))
        (freshPacket.append ([0x1C] ++ ([10] ++ ([0x1C] ++ ([0x44,0x01] ++ (reason ++ []))))))) := by
    refine bind_ok.mpr ⟨_,rfl,bind_ok.mpr ⟨_,sized,?_⟩⟩
    rw [if_pos (by decide)]
    exact bind_ok.mpr ⟨_,encodeFields_cons.mpr ⟨_,_,rfl,encoded,rfl⟩,rfl⟩
  refine ⟨_,_,_,written,rfl,fun reads => ?_⟩
  have closable := (@closeDecoder_reads_iff _ (closeFrame (some (.transport 10,reason)))
    _ (by decide : 10 < 2^16) rfl encoded).mp reads
  have short : reason.length ≤ kMaxReasonPhraseLength := closable.1
  unfold kMaxReasonPhraseLength at short
  omega

/-- A close with a reason of 1025 bytes, as a connection error may have, and one that names a frame
type of two bytes are written, but not read. -/
theorem long_reason_not_read :
    WrittenUnread (closeFrame (some (.transport 10,List.replicate 1025 0x61))) ∧
      WrittenUnread ⟨.transport 10,[],FrameType.ackReceiveTimestamps.value⟩ := by
  constructor
  · exact long_reason_written (List.length_replicate (n := 1025))
  · refine ⟨_,_,_,rfl,rfl,fun reads => ?_⟩
    exact absurd ((@closeDecoder_reads_iff _ ⟨.transport 10,[],FrameType.ackReceiveTimestamps.value⟩ _
      (by decide) rfl rfl).mp reads) (by decide)

end StreamServer.Codec
