import StreamServer.Codec.WriteCodec

/-! What the writers do to a builder: each appends the bytes it accounts for, within
the space that is left, or leaves the builder as it was. -/
namespace StreamServer.Codec
open Protocol Common Lib.Wire Lib.Transition

/-- The space that is left is a 32-bit counter. -/
def PacketBuilder.Counted (builder : PacketBuilder) : Prop := builder.remainingBytes < 2^32

/-- One builder is another with some bytes appended, and its header untouched. -/
structure Extends (before after : PacketBuilder) (bytes : Bytes) : Prop where
  body : after.body = before.body ++ bytes
  fits : bytes.length ≤ before.remainingSpaceInPkt
  left : after.remainingBytes = before.remainingBytes - bytes.length
  withheld : after.diff = before.diff
  header : after.header = before.header
  headerBuf : after.headerBuf = before.headerBuf
  encoding : after.packetNumberEncoding = before.packetNumberEncoding
  overhead : after.cipherOverhead = before.cipherOverhead
  path : after.dataPathType = before.dataPathType

theorem PacketBuilder.space_le (builder : PacketBuilder) :
    builder.remainingSpaceInPkt ≤ builder.remainingBytes := by
  unfold remainingSpaceInPkt
  split <;> omega

theorem PacketBuilder.append_empty (builder : PacketBuilder) (bytes : Bytes) :
    (builder.append bytes).empty = builder.empty := rfl

theorem PacketBuilder.append_diff (builder : PacketBuilder) (bytes : Bytes) :
    (builder.append bytes).diff = builder.diff := rfl

namespace Extends

variable {before middle after : PacketBuilder} {a b : Bytes}

theorem refl (builder : PacketBuilder) : Extends builder builder [] :=
  ⟨by simp,by simp,by simp,rfl,rfl,rfl,rfl,rfl,rfl⟩

theorem counted (step : Extends before after a) (small : before.Counted) : after.Counted := by
  have := step.left
  unfold PacketBuilder.Counted at *
  omega

theorem space (step : Extends before after a) :
    after.remainingSpaceInPkt = before.remainingSpaceInPkt - a.length := by
  have fits := step.fits
  unfold PacketBuilder.remainingSpaceInPkt at *
  rw [step.left,step.withheld]
  split_ifs at * <;> omega

theorem trans (first : Extends before middle a) (second : Extends middle after b) :
    Extends before after (a ++ b) := by
  have front := first.fits
  have back := second.fits
  rw [first.space] at back
  refine ⟨?_,?_,?_,second.withheld.trans first.withheld,second.header.trans first.header,
    second.headerBuf.trans first.headerBuf,second.encoding.trans first.encoding,
    second.overhead.trans first.overhead,second.path.trans first.path⟩
  · rw [second.body,first.body,List.append_assoc]
  · rw [List.length_append]
    omega
  · rw [second.left,first.left,List.length_append]
    omega

theorem append {builder : PacketBuilder} {bytes : Bytes} (small : builder.Counted)
    (fits : bytes.length ≤ builder.remainingSpaceInPkt) :
    Extends builder (builder.append bytes) bytes := by
  refine ⟨rfl,fits,?_,rfl,rfl,rfl,rfl,rfl,rfl⟩
  have enough := Nat.le_trans fits builder.space_le
  exact sub32_of_le enough small

theorem appendFrame (step : Extends before after a) (frame : QuicWriteFrame) :
    Extends before (after.appendFrame frame) a :=
  {step with}

theorem appendPaddingFrame (step : Extends before after a) :
    Extends before after.appendPaddingFrame a :=
  {step with}

theorem markNonEmpty (step : Extends before after a) : Extends before after.markNonEmpty a :=
  {step with}

theorem recordFrame (step : Extends before after a) (frame : QuicWriteFrame) :
    Extends before (recordFrame frame after) a := by
  cases frame with
  | padding numFrames => exact step.appendPaddingFrame
  | _ => exact step.appendFrame _

end Extends

theorem padToMinBodySize_spec {builder : PacketBuilder} (missing : Nat) (small : builder.Counted)
    (marked : builder.empty = false) (direct : builder.diff = 0) :
    ∃ count, Extends builder (builder.padToMinBodySize missing) (List.replicate count 0) ∧
      count ≤ missing ∧ (count = missing ∨ builder.remainingBytes ≤ count + kMaxPacketLenSize) := by
  induction missing generalizing builder with
  | zero => exact ⟨0,Extends.refl builder,Nat.le_refl _,.inl rfl⟩
  | succ missing ih =>
    unfold PacketBuilder.padToMinBodySize
    by_cases room : builder.remainingBytes > kMaxPacketLenSize
    · have fits : [(0 : UInt8)].length ≤ builder.remainingSpaceInPkt := by
        simp only [PacketBuilder.remainingSpaceInPkt,direct,List.length_singleton]
        split <;> omega
      have step := Extends.append small fits
      have left : (builder.append [0]).remainingBytes = builder.remainingBytes - 1 := step.left
      obtain ⟨count,more,less,enough⟩ :=
        ih (step.counted small) ((builder.append_empty [0]).trans marked)
          ((builder.append_diff [0]).trans direct)
      rw [left] at enough
      rw [if_pos (by simp [marked,room])]
      refine ⟨count + 1,?_,by omega,by omega⟩
      rw [List.replicate_succ]
      exact step.trans more
    · rw [if_neg (by simp [room])]
      exact ⟨0,Extends.refl builder,by omega,.inr (by omega)⟩

def Field.Exact : Field → Prop
  | bytes counted data => counted = data.length
  | _ => True

instance (field : Field) : Decidable field.Exact := by
  cases field <;> unfold Field.Exact <;> infer_instance

variable {builder after : PacketBuilder} {field : Field} {rest fields : List Field}
  {record : PacketBuilder → PacketBuilder} {bytes : Bytes}
  {frame : QuicWriteFrame} {dataLen writeBufferLen dataLenLen flowControlLen offset : Nat}
  {fin appendFrame : Bool} {skipLenHint : Option Bool} {streamType : StreamTypeField}
  {streamGroupId result : Option Nat} {data : Bytes} {metaData : WriteAckFrameMetaData}
  {write : FrameWrite}

theorem encodeFields_cons :
    encodeFields (field :: rest) = .ok bytes ↔
      ∃ a b, field.encode = .ok a ∧ encodeFields rest = .ok b ∧ bytes = a ++ b := by
  simp only [encodeFields,bind_ok,pure,Except.pure,Except.ok.injEq]
  constructor
  · rintro ⟨a,first,b,second,rfl⟩
    exact ⟨a,b,first,second,rfl⟩
  · rintro ⟨a,b,first,second,rfl⟩
    exact ⟨a,first,b,second,rfl⟩

theorem encodeFields_append :
    encodeFields (fields ++ rest) = .ok bytes ↔
      ∃ a b, encodeFields fields = .ok a ∧ encodeFields rest = .ok b ∧ bytes = a ++ b := by
  induction fields generalizing bytes with
  | nil => simp [encodeFields]
  | cons field fields ih =>
    simp only [List.cons_append,encodeFields_cons,ih]
    constructor
    · rintro ⟨a,_,first,⟨b,c,second,third,rfl⟩,rfl⟩
      exact ⟨a ++ b,c,⟨a,b,first,second,rfl⟩,third,(List.append_assoc a b c).symm⟩
    · rintro ⟨_,c,⟨a,b,first,second,rfl⟩,third,rfl⟩
      exact ⟨a,b ++ c,first,⟨b,c,second,third,rfl⟩,List.append_assoc a b c⟩

private theorem field_size (exact : field.Exact) {size : Nat} (counted : field.size = .ok size)
    (encoded : field.encode = .ok bytes) :
    bytes.length = size := by
  cases field with
  | integer value =>
    obtain ⟨same,encodes,length⟩ := getSize_ok.mp counted
    rw [show Field.encode (.integer value) = QuicInteger.encode value from rfl,encodes] at encoded
    cases encoded
    exact length
  | byte value | word value => cases counted; cases encoded; rfl
  | bytes counts data => cases counted; cases encoded; exact exact.symm
  | front limit data =>
    cases counted
    simp only [Field.encode] at encoded
    split_ifs at encoded with short
    cases encoded
    rw [List.length_take]
    omega

theorem fieldsSize_cons {size : Nat} :
    fieldsSize (field :: rest) = .ok size ↔
      ∃ a b, field.size = .ok a ∧ fieldsSize rest = .ok b ∧ size = a + b := by
  simp only [fieldsSize,bind_ok,pure,Except.pure,Except.ok.injEq]
  constructor
  · rintro ⟨a,first,b,second,rfl⟩
    exact ⟨a,b,first,second,rfl⟩
  · rintro ⟨a,b,first,second,rfl⟩
    exact ⟨a,first,b,second,rfl⟩

theorem fieldsSize_length (exact : ∀ field ∈ fields, field.Exact) {size : Nat}
    (counted : fieldsSize fields = .ok size) (encoded : encodeFields fields = .ok bytes) :
    bytes.length = size := by
  induction fields generalizing size bytes with
  | nil => cases counted; cases encoded; rfl
  | cons field rest ih =>
    obtain ⟨a,b,first,second,rfl⟩ := fieldsSize_cons.mp counted
    obtain ⟨x,y,encodes,others,rfl⟩ := encodeFields_cons.mp encoded
    rw [List.length_append,field_size (exact field (by simp)) first encodes,
      ih (fun field inside => exact field (by simp [inside])) second others]

theorem integers_written {values : List Nat} (small : ∀ value ∈ values, value ≤ kEightByteLimit) :
    ∃ bytes, encodeFields (values.map .integer) = .ok bytes ∧
      fieldsSize (values.map .integer) = .ok bytes.length := by
  induction values with
  | nil => exact ⟨[],rfl,rfl⟩
  | cons value rest ih =>
    obtain ⟨a,first⟩ := encode_total (small value (List.mem_cons_self ..))
    obtain ⟨b,others,sized⟩ := ih fun value inside => small value (List.mem_cons_of_mem _ inside)
    exact ⟨a ++ b,encodeFields_cons.mpr ⟨a,b,first,others,rfl⟩,
      fieldsSize_cons.mpr ⟨_,_,getSize_ok.mpr ⟨a,first,rfl⟩,sized,List.length_append⟩⟩

theorem writeFields_cases {size : Nat} (exact : ∀ field ∈ fields, field.Exact)
    (written : writeFields fields record builder = .ok (size,after)) :
    (size = 0 ∧ after = builder) ∨
      ∃ bytes, encodeFields fields = .ok bytes ∧ bytes.length = size ∧
        size ≤ builder.remainingSpaceInPkt ∧ after = record (builder.append bytes) := by
  unfold writeFields at written
  obtain ⟨count,counted,written⟩ := bind_ok.mp written
  split at written
  next fits =>
    obtain ⟨bytes,encoded,written⟩ := bind_ok.mp written
    simp only [pure,Except.pure,Except.ok.injEq,Prod.mk.injEq] at written
    obtain ⟨rfl,rfl⟩ := written
    exact .inr ⟨bytes,encoded,fieldsSize_length exact counted encoded,by simpa [packetSpaceCheck] using fits,rfl⟩
  next full =>
    simp only [pure,Except.pure,Except.ok.injEq,Prod.mk.injEq] at written
    exact .inl ⟨written.1.symm,written.2.symm⟩

/-- The length of a knob frame is that of its whole blob, as it is for a blob of one buffer. -/
def wholeBlob : QuicWriteFrame → Bool
  | .simple (.knob frame) => frame.len == frame.blob.flatten.length
  | _ => true

theorem simpleFrameFields_exact {frame : QuicSimpleFrame} (whole : wholeBlob (.simple frame)) :
    ∀ field ∈ simpleFrameFields frame, field.Exact := by
  cases frame with
  | knob frame =>
    have same : frame.len = frame.blob.flatten.length := by simpa [wholeBlob] using whole
    simp [simpleFrameFields,typed,Field.Exact,same]
  | _ => simp [simpleFrameFields,typed,Field.Exact]

theorem writeFrameFields_exact (whole : wholeBlob frame)
    (chosen : writeFrameFields frame = .ok fields) :
    ∀ field ∈ fields, field.Exact := by
  cases frame with
  | simple frame =>
    cases chosen
    exact simpleFrameFields_exact whole
  | connectionClose frame =>
    simp only [writeFrameFields,connectionCloseFields] at chosen
    split at chosen <;> cases chosen <;> simp [typed,Field.Exact]
  | ack frame | stream frame | crypto frame | noop => cases chosen
  | _ => cases chosen; simp [typed,Field.Exact]

theorem simpleFrameFields_typed (frame : QuicSimpleFrame) :
    ∃ frameType rest, simpleFrameFields frame = typed frameType rest := by
  cases frame <;> exact ⟨_,_,rfl⟩

theorem writeFrameFields_typed (chosen : writeFrameFields frame = .ok fields) :
    ∃ frameType rest, fields = typed frameType rest := by
  cases frame with
  | simple frame =>
    cases chosen
    exact simpleFrameFields_typed frame
  | connectionClose frame =>
    simp only [writeFrameFields,connectionCloseFields] at chosen
    split at chosen <;> cases chosen <;> exact ⟨_,_,rfl⟩
  | ack frame | stream frame | crypto frame | noop => cases chosen
  | _ => cases chosen; exact ⟨_,_,rfl⟩

theorem typed_nonempty {frameType : FrameType}
    (encoded : encodeFields (typed frameType fields) = .ok bytes) : bytes ≠ [] := by
  obtain ⟨a,b,first,-,rfl⟩ := encodeFields_cons.mp encoded
  exact List.append_ne_nil_of_left_ne_nil (encode_nonempty first) b

theorem writeFrame_cases {size : Nat} (small : builder.Counted) (whole : wholeBlob frame)
    (written : writeFrame frame builder = .ok (size,after)) :
    (size = 0 ∧ after = builder) ∨
      ∃ fields bytes, writeFrameFields frame = .ok fields ∧ encodeFields fields = .ok bytes ∧
        bytes.length = size ∧ Extends builder after bytes ∧
        after = recordFrame frame (builder.append bytes) := by
  obtain ⟨fields,chosen,written⟩ := bind_ok.mp written
  rcases writeFields_cases (writeFrameFields_exact whole chosen) written with
    none | ⟨bytes,encoded,rfl,fits,rfl⟩
  · exact .inl none
  · exact .inr ⟨fields,bytes,chosen,encoded,rfl,(Extends.append small fits).recordFrame frame,rfl⟩

theorem writeSimpleFrame_cases {frame : QuicSimpleFrame} {size : Nat} (small : builder.Counted)
    (whole : wholeBlob (.simple frame))
    (written : writeSimpleFrame frame builder = .ok (size,after)) :
    (size = 0 ∧ after = builder) ∨
      ∃ bytes, encodeFields (simpleFrameFields frame) = .ok bytes ∧ bytes.length = size ∧
        Extends builder after bytes ∧ after = (builder.append bytes).appendFrame (.simple frame) := by
  rcases writeFields_cases (simpleFrameFields_exact whole) written with
    none | ⟨bytes,encoded,rfl,fits,rfl⟩
  · exact .inl none
  · exact .inr ⟨bytes,encoded,rfl,(Extends.append small fits).appendFrame _,rfl⟩

private theorem streamDataLenLen_cases {skip : Bool} {count : Nat}
    (counted : streamDataLenLen skip dataLen = .ok count) :
    (skip ∧ count = 0) ∨
      (0 < count ∧ ∀ shrunk bytes, shrunk ≤ dataLen → QuicInteger.encode shrunk = .ok bytes →
        bytes.length ≤ count) := by
  unfold streamDataLenLen kOneByteLimit kTwoByteLimit kFourByteLimit kEightByteLimit at counted
  split_ifs at counted with skipped <;> cases counted
  · exact .inl ⟨skipped,rfl⟩
  all_goals
    refine .inr ⟨by decide,fun shrunk bytes less encoded => ?_⟩
    unfold QuicInteger.encode encodeQuicInteger kOneByteLimit kTwoByteLimit kFourByteLimit
      kEightByteLimit at encoded
    split_ifs at encoded <;> cases encoded <;> simp only [toBE_length] <;> omega

private theorem fitStreamData_some {space headerSize fitted : Nat} {shouldSetFin : Bool}
    (small : space < 2^32)
    (chosen : fitStreamData space headerSize writeBufferLen dataLen dataLenLen fin =
      some (fitted,shouldSetFin)) :
    headerSize + dataLenLen ≤ space ∧ fitted ≤ dataLen ∧
      shouldSetFin = (fin && fitted == writeBufferLen) ∧ (fitted ≠ 0 ∨ shouldSetFin) ∧
      (dataLenLen = 0 → fitted = dataLen) ∧
      (0 < dataLenLen → headerSize + dataLenLen + fitted ≤ space) := by
  unfold fitStreamData at chosen
  split at chosen
  next crowded => cases chosen
  next free =>
    dsimp only at chosen
    generalize fitting : (if dataLenLen > 0 ∧ space < dataLen + (headerSize + dataLenLen) then
      sub64 space (headerSize + dataLenLen) else dataLen) = result at chosen
    split at chosen
    next nothing => cases chosen
    next something =>
      simp only [Option.some.injEq,Prod.mk.injEq] at chosen
      obtain ⟨rfl,rfl⟩ := chosen
      rw [not_or,not_and_or,not_not,Nat.not_lt] at something
      have exact : sub64 space (headerSize + dataLenLen) = space - (headerSize + dataLenLen) :=
        sub64_of_le something.2 (by omega)
      rw [exact] at fitting
      split at fitting <;> subst fitting <;>
        exact ⟨something.2,by omega,rfl,something.1,by omega,by omega⟩

theorem streamFrameLengths_some {space headerSize : Nat} {shouldSetFin : Bool}
    (small : space < 2^32)
    (chosen : streamFrameLengths space headerSize writeBufferLen flowControlLen fin skipLenHint =
      .ok (dataLenLen,some (dataLen,shouldSetFin))) :
    headerSize + dataLenLen + dataLen ≤ space ∧ dataLen ≤ writeBufferLen ∧ dataLen ≤ flowControlLen ∧
      shouldSetFin = (fin && dataLen == writeBufferLen) ∧ (dataLen ≠ 0 ∨ shouldSetFin) ∧
      (dataLenLen = 0 → skipLenHint = some true ∨
        skipLenHint = none ∧ dataLen ≠ 0 ∧ headerSize + dataLen = space) ∧
      (∀ bytes, 0 < dataLenLen → QuicInteger.encode dataLen = .ok bytes →
        bytes.length ≤ dataLenLen) := by
  unfold streamFrameLengths at chosen
  obtain ⟨lengthSize,counted,chosen⟩ := bind_ok.mp chosen
  simp only [pure,Except.pure,Except.ok.injEq,Prod.mk.injEq] at chosen
  obtain ⟨rfl,fitted⟩ := chosen
  obtain ⟨room,less,carries,something,whole,limited⟩ := fitStreamData_some small fitted
  have exact : sub64 space headerSize = space - headerSize := sub64_of_le (by omega) (by omega)
  rw [exact] at less whole
  rcases streamDataLenLen_cases counted with ⟨skipped,rfl⟩ | ⟨positive,covers⟩
  · have same := whole rfl
    refine ⟨by omega,by omega,by omega,carries,something,fun _ => ?_,fun _ absurd => by omega⟩
    cases skipLenHint with
    | some skip => exact .inl (congrArg some skipped)
    | none =>
      simp only [shouldSkipLengthField,exact,Bool.and_eq_true,decide_eq_true_eq] at skipped
      refine .inr ⟨rfl,?_,by omega⟩
      rcases something with nonzero | sets
      · exact nonzero
      · rw [carries,Bool.and_eq_true,beq_iff_eq] at sets
        omega
  · have := limited positive
    refine ⟨by omega,by omega,by omega,carries,something,fun absurd => by omega,
      fun bytes _ encoded => covers dataLen bytes ?_ encoded⟩
    rw [exact]
    exact less

@[simp] theorem streamTypeField_hasFin (isGroup hasOffset hasLength hasFin : Bool) :
    (streamTypeField isGroup hasOffset hasLength hasFin).hasFin = hasFin := by
  revert isGroup hasOffset hasLength hasFin
  decide

private theorem optional_length {value : Option Nat} {size : Nat}
    (counted : optionalSize value = .ok size)
    (encoded : encodeFields (value.toList.map .integer) = .ok bytes) : bytes.length = size := by
  cases value with
  | none => cases counted; cases encoded; rfl
  | some value =>
    have single : ∀ field ∈ [Field.integer value], field.Exact := by simp [Field.Exact]
    exact fieldsSize_length single (fieldsSize_cons.mpr ⟨size,0,counted,rfl,rfl⟩) encoded

/-- What the header of a stream frame and the data it announces take. -/
structure StreamFrameFit (space writeBufferLen flowControlLen : Nat) (fin : Bool)
    (skipLenHint : Option Bool) (dataLen dataLenLen : Nat) (shouldSetFin : Bool) (bytes : Bytes) :
    Prop where
  fits : bytes.length + dataLen ≤ space
  buffered : dataLen ≤ writeBufferLen
  allowed : dataLen ≤ flowControlLen
  carries : shouldSetFin = (fin && dataLen == writeBufferLen)
  something : dataLen ≠ 0 ∨ shouldSetFin
  filled : dataLenLen = 0 → skipLenHint = some true ∨
    skipLenHint = none ∧ dataLen ≠ 0 ∧ bytes.length + dataLen = space

/-- No frame is begun, or its header is appended and room is left for the data it announces. -/
def StreamFrameBegun (builder : PacketBuilder) (id offset writeBufferLen flowControlLen : Nat)
    (fin : Bool) (skipLenHint : Option Bool) (streamGroupId : Option Nat) (appendFrame : Bool)
    (result : Option Nat) (after : PacketBuilder) : Prop :=
  (result = none ∧ after = builder) ∨
    ∃ dataLen dataLenLen shouldSetFin bytes, result = some dataLen ∧
      encodeFields (streamHeaderFields
        (streamTypeField streamGroupId.isSome (offset ≠ 0) (dataLenLen > 0) shouldSetFin)
        id streamGroupId offset dataLen dataLenLen) = .ok bytes ∧
      StreamFrameFit builder.remainingSpaceInPkt writeBufferLen flowControlLen fin skipLenHint
        dataLen dataLenLen shouldSetFin bytes ∧
      after = if appendFrame then (builder.append bytes).appendFrame
          (.stream ⟨id,offset,dataLen,shouldSetFin,false,streamGroupId,0⟩)
        else (builder.append bytes).markNonEmpty

theorem streamHeader_length {id : Nat} {idSize groupIdSize offsetSize : Nat}
    (idCounted : QuicInteger.getSize id = .ok idSize)
    (groupCounted : optionalSize streamGroupId = .ok groupIdSize)
    (offsetCounted : optionalSize (presentIf (offset ≠ 0) offset) = .ok offsetSize)
    (covered : ∀ bytes, 0 < dataLenLen → QuicInteger.encode dataLen = .ok bytes →
      bytes.length ≤ dataLenLen)
    (encoded : encodeFields (streamHeaderFields streamType id streamGroupId offset dataLen dataLenLen) =
      .ok bytes) :
    bytes.length ≤ 1 + idSize + groupIdSize + offsetSize + dataLenLen ∧
      (dataLenLen = 0 → bytes.length = 1 + idSize + groupIdSize + offsetSize) := by
  obtain ⟨type,_,typeByte,afterType,rfl⟩ := encodeFields_cons.mp encoded
  obtain ⟨idBytes,_,idEncoded,afterId,rfl⟩ := encodeFields_cons.mp afterType
  obtain ⟨_,lenBytes,beforeLen,lenEncoded,rfl⟩ := encodeFields_append.mp afterId
  obtain ⟨groupBytes,offsetBytes,groupEncoded,offsetEncoded,rfl⟩ := encodeFields_append.mp beforeLen
  cases typeByte
  have idLength : idBytes.length = idSize := @field_size (.integer id) _ trivial _ idCounted idEncoded
  have groupLength := optional_length groupCounted groupEncoded
  have offsetLength := optional_length offsetCounted offsetEncoded
  have lenLength : lenBytes.length ≤ dataLenLen ∧ (dataLenLen = 0 → lenBytes.length = 0) := by
    by_cases present : dataLenLen > 0
    · simp only [presentIf,present,decide_true,if_true,Option.toList,List.map] at lenEncoded
      obtain ⟨a,b,encodes,nothing,rfl⟩ := encodeFields_cons.mp lenEncoded
      cases nothing
      have := covered a present encodes
      rw [List.append_nil]
      omega
    · simp only [presentIf,present,decide_false] at lenEncoded
      cases lenEncoded
      simp
  simp only [List.length_append,toBE_length]
  omega

theorem beginStreamFrame_begun {id idSize groupIdSize offsetSize : Nat} (small : builder.Counted)
    (idCounted : QuicInteger.getSize id = .ok idSize)
    (groupCounted : optionalSize streamGroupId = .ok groupIdSize)
    (offsetCounted : optionalSize (presentIf (offset ≠ 0) offset) = .ok offsetSize)
    (written : beginStreamFrame builder id offset writeBufferLen flowControlLen fin skipLenHint
      streamGroupId appendFrame (1 + idSize + groupIdSize + offsetSize) = .ok (result,after)) :
    StreamFrameBegun builder id offset writeBufferLen flowControlLen fin skipLenHint streamGroupId
      appendFrame result after := by
  have bounded : builder.remainingSpaceInPkt < 2^32 := Nat.lt_of_le_of_lt builder.space_le small
  obtain ⟨⟨dataLenLen,fitted⟩,chosen,written⟩ := bind_ok.mp written
  cases fitted with
  | none =>
    cases written
    exact .inl ⟨rfl,rfl⟩
  | some fitted =>
    obtain ⟨dataLen,shouldSetFin⟩ := fitted
    obtain ⟨bytes,encoded,written⟩ := bind_ok.mp written
    simp only [pure,Except.pure,Except.ok.injEq,Prod.mk.injEq,streamTypeField_hasFin] at written
    obtain ⟨rfl,rfl⟩ := written
    obtain ⟨room,buffered,allowed,carries,something,skipped,covered⟩ :=
      streamFrameLengths_some bounded chosen
    obtain ⟨short,exact⟩ :=
      streamHeader_length idCounted groupCounted offsetCounted covered encoded
    refine .inr ⟨dataLen,dataLenLen,shouldSetFin,bytes,rfl,encoded,?_,rfl⟩
    refine ⟨by omega,buffered,allowed,carries,something,fun absent => ?_⟩
    rcases skipped absent with asked | ⟨unasked,nonzero,fills⟩
    · exact .inl asked
    · exact .inr ⟨unasked,nonzero,by rw [exact absent]; exact fills⟩

theorem writeStreamFrameHeader_begun {id : Nat} (small : builder.Counted)
    (written : writeStreamFrameHeader builder id offset writeBufferLen flowControlLen fin skipLenHint
      streamGroupId appendFrame = .ok (result,after)) :
    StreamFrameBegun builder id offset writeBufferLen flowControlLen fin skipLenHint streamGroupId
      appendFrame result after := by
  unfold writeStreamFrameHeader at written
  split at written
  · cases written
    exact .inl ⟨rfl,rfl⟩
  split at written
  · cases written
  obtain ⟨idSize,idCounted,written⟩ := bind_ok.mp written
  obtain ⟨groupIdSize,groupCounted,written⟩ := bind_ok.mp written
  split at written
  · cases written
    exact .inl ⟨rfl,rfl⟩
  obtain ⟨offsetSize,offsetCounted,written⟩ := bind_ok.mp written
  exact beginStreamFrame_begun small idCounted groupCounted offsetCounted written

theorem writeCryptoFrame_cases {result : Option WriteCryptoFrame} (small : builder.Counted)
    (written : writeCryptoFrame offset data builder = .ok (result,after)) :
    (result = none ∧ after = builder) ∨
      ∃ len bytes, result = some ⟨offset,len⟩ ∧ len ≤ data.length ∧
        encodeFields (cryptoFields offset len data) = .ok bytes ∧ Extends builder after bytes ∧
        after = (builder.append bytes).appendFrame (.crypto ⟨offset,len⟩) := by
  unfold writeCryptoFrame at written
  obtain ⟨typeSize,typeCounted,written⟩ := bind_ok.mp written
  obtain ⟨offsetSize,offsetCounted,written⟩ := bind_ok.mp written
  dsimp only at written
  split at written
  · cases written
    exact .inl ⟨rfl,rfl⟩
  next room =>
    obtain ⟨lengthSize,lengthCounted,written⟩ := bind_ok.mp written
    split at written
    · cases written
    next short =>
      obtain ⟨bytes,encoded,written⟩ := bind_ok.mp written
      simp only [pure,Except.pure,Except.ok.injEq,Prod.mk.injEq] at written
      obtain ⟨rfl,rfl⟩ := written
      have counted : fieldsSize (cryptoFields offset _ data) = .ok _ :=
        fieldsSize_cons.mpr ⟨_,_,typeCounted,fieldsSize_cons.mpr ⟨_,_,offsetCounted,
          fieldsSize_cons.mpr ⟨_,_,lengthCounted,fieldsSize_cons.mpr ⟨_,_,rfl,rfl,rfl⟩,rfl⟩,rfl⟩,rfl⟩
      have length := fieldsSize_length (by simp [cryptoFields,typed,Field.Exact]) counted encoded
      have fits : bytes.length ≤ builder.remainingSpaceInPkt := by omega
      exact .inr ⟨_,bytes,rfl,Nat.min_le_left _ _,encoded,(Extends.append small fits).appendFrame _,rfl⟩

theorem getSize_mono {a b x y : Nat} (less : a ≤ b) (first : getQuicIntegerSizeThrows a = .ok x)
    (second : getQuicIntegerSizeThrows b = .ok y) : x ≤ y := by
  unfold getQuicIntegerSizeThrows getQuicIntegerSize at first second
  split_ifs at first <;> cases first <;> split_ifs at second <;> cases second <;> omega

theorem fieldsSize_append {a b : Nat} (first : fieldsSize fields = .ok a)
    (second : fieldsSize rest = .ok b) :
    fieldsSize (fields ++ rest) = .ok (a + b) := by
  induction fields generalizing a with
  | nil => cases first; simpa using second
  | cons field fields ih =>
    obtain ⟨x,y,head,tail,rfl⟩ := fieldsSize_cons.mp first
    exact fieldsSize_cons.mpr ⟨x,y + b,head,ih tail,Nat.add_assoc x y b⟩

theorem fillFrameWithAckBlocks_size {blocks additional : List Interval}
    {currentSeqNum count bytesLimit before : Nat} (sized : getQuicIntegerSizeThrows count = .ok before)
    (filled : fillFrameWithAckBlocks currentSeqNum count bytesLimit blocks = .ok additional) :
    ∃ size after, fieldsSize (ackBlocksFields currentSeqNum additional) = .ok size ∧
      getQuicIntegerSizeThrows (count + additional.length) = .ok after ∧ before ≤ after ∧
      size + after ≤ bytesLimit + before := by
  induction blocks generalizing currentSeqNum count bytesLimit before additional with
  | nil =>
    cases filled
    exact ⟨0,before,rfl,sized,Nat.le_refl _,by omega⟩
  | cons block rest ih =>
    unfold fillFrameWithAckBlocks at filled
    obtain ⟨blockSize,blockCounted,filled⟩ := bind_ok.mp filled
    obtain ⟨next,nextSized,filled⟩ := bind_ok.mp filled
    obtain ⟨previous,previousSized,filled⟩ := bind_ok.mp filled
    cases sized.symm.trans previousSized
    dsimp only at filled
    split at filled
    · cases filled
      exact ⟨0,before,rfl,sized,Nat.le_refl _,by omega⟩
    next room =>
      obtain ⟨more,taken,same⟩ := bind_ok.mp filled
      simp only [pure,Except.pure,Except.ok.injEq] at same
      subst same
      obtain ⟨size,after,counted,atEnd,grown,fits⟩ := ih nextSized taken
      have stepped := getSize_mono (Nat.le_succ count) sized nextSized
      refine ⟨blockSize + size,after,fieldsSize_append blockCounted counted,?_,by omega,by omega⟩
      rw [List.length_cons,show count + (more.length + 1) = count + 1 + more.length by omega]
      exact atEnd

private theorem ackBlocksFields_exact (currentSeqNum : Nat) (blocks : List Interval) :
    ∀ field ∈ ackBlocksFields currentSeqNum blocks, field.Exact := by
  induction blocks generalizing currentSeqNum with
  | nil => simp [ackBlocksFields]
  | cons block rest ih =>
    refine List.forall_mem_append.mpr ⟨?_,ih block.start⟩
    simp [ackBlockFields,Field.Exact]

theorem ackHeader_size {largest : Interval} {headerSize count counter : Nat}
    (empty : fieldsSize (ackHeaderFields metaData largest 0) = .ok headerSize)
    (counted : getQuicIntegerSizeThrows count = .ok counter) :
    ∃ size, fieldsSize (ackHeaderFields metaData largest count) = .ok size ∧
      size + 1 = headerSize + counter := by
  obtain ⟨a,_,type,afterType,rfl⟩ := fieldsSize_cons.mp empty
  obtain ⟨b,_,last,afterLast,rfl⟩ := fieldsSize_cons.mp afterType
  obtain ⟨c,_,delay,afterDelay,rfl⟩ := fieldsSize_cons.mp afterLast
  obtain ⟨d,e,zero,rest,rfl⟩ := fieldsSize_cons.mp afterDelay
  cases zero
  refine ⟨a + (b + (c + (counter + e))),?_,by omega⟩
  exact fieldsSize_cons.mpr ⟨a,_,type,fieldsSize_cons.mpr ⟨b,_,last,fieldsSize_cons.mpr ⟨c,_,delay,
    fieldsSize_cons.mpr ⟨counter,e,counted,rest,rfl⟩,rfl⟩,rfl⟩,rfl⟩

theorem writeAckFrame_cases {result : Option (Nat × WriteAckFrame)} (small : builder.Counted)
    (written : writeAckFrame metaData builder = .ok (result,after)) :
    (result = none ∧ after = builder) ∨
      ∃ largest rest additional headerSize bytes, metaData.acks.intervals.reverse = largest :: rest ∧
        fieldsSize (ackHeaderFields metaData largest 0) = .ok headerSize ∧
        headerSize ≤ builder.remainingSpaceInPkt ∧
        fillFrameWithAckBlocks largest.start 0 (builder.remainingSpaceInPkt - headerSize) rest =
          .ok additional ∧
        result = some (bytes.length,⟨largest :: additional,metaData.ackDelay⟩) ∧
        encodeFields (ackHeaderFields metaData largest additional.length ++
          ackBlocksFields largest.start additional) = .ok bytes ∧
        Extends builder after bytes ∧
        after = (builder.append bytes).appendFrame (.ack ⟨largest :: additional,metaData.ackDelay⟩) := by
  obtain ⟨⟨frame,next⟩,wrote,finished⟩ := bind_ok.mp written
  unfold writeAckFrameToPacketBuilder at wrote
  split at wrote
  · cases wrote
    cases finished
    exact .inl ⟨rfl,rfl⟩
  next largest rest chosen =>
    obtain ⟨headerSize,headerCounted,wrote⟩ := bind_ok.mp wrote
    split at wrote
    · cases wrote
      cases finished
      exact .inl ⟨rfl,rfl⟩
    next room =>
      obtain ⟨additional,filled,wrote⟩ := bind_ok.mp wrote
      obtain ⟨bytes,encoded,wrote⟩ := bind_ok.mp wrote
      simp only [pure,Except.pure,Except.ok.injEq,Prod.mk.injEq] at wrote
      obtain ⟨rfl,rfl⟩ := wrote
      simp only [pure,Except.pure,Except.ok.injEq,Prod.mk.injEq] at finished
      obtain ⟨rfl,rfl⟩ := finished
      have first : getQuicIntegerSizeThrows 0 = .ok 1 := rfl
      obtain ⟨size,counter,blocksCounted,countCounted,-,within⟩ := fillFrameWithAckBlocks_size first filled
      rw [Nat.zero_add] at countCounted
      obtain ⟨front,frontCounted,same⟩ := ackHeader_size headerCounted countCounted
      have exact : ∀ field ∈ ackHeaderFields metaData largest additional.length ++
          ackBlocksFields largest.start additional, field.Exact := by
        refine List.forall_mem_append.mpr ⟨?_,ackBlocksFields_exact _ _⟩
        simp [ackHeaderFields,typed,Field.Exact]
      have length := fieldsSize_length exact (fieldsSize_append frontCounted blocksCounted) encoded
      have fits : bytes.length ≤ builder.remainingSpaceInPkt := by omega
      have step := Extends.append small fits
      refine .inr ⟨largest,rest,additional,headerSize,bytes,chosen,headerCounted,by omega,filled,?_,encoded,
        step.appendFrame _,rfl⟩
      rw [step.space]
      exact congrArg (fun count => some (count,_)) (by omega)

theorem writeStreamFrameData_appends
    (written : writeStreamFrameData builder data dataLen = .ok after) :
    dataLen ≤ data.length ∧ after = builder.append (data.take dataLen) ∨ dataLen = 0 ∧ after = builder := by
  unfold writeStreamFrameData at written
  split at written
  · unfold PacketBuilder.insert at written
    split at written
    · cases written
    · cases written
      exact .inl ⟨by omega,rfl⟩
  · cases written
    exact .inr ⟨by omega,rfl⟩

theorem writeStreamFrame_cases {id : Nat} (small : builder.Counted)
    (written : writeStreamFrame builder id offset data flowControlLen fin skipLenHint streamGroupId =
      .ok (result,after)) :
    (result = none ∧ after = builder) ∨
      ∃ dataLen dataLenLen shouldSetFin bytes, result = some dataLen ∧
        encodeFields (streamHeaderFields
          (streamTypeField streamGroupId.isSome (offset ≠ 0) (dataLenLen > 0) shouldSetFin)
          id streamGroupId offset dataLen dataLenLen) = .ok bytes ∧
        StreamFrameFit builder.remainingSpaceInPkt data.length flowControlLen fin skipLenHint
          dataLen dataLenLen shouldSetFin bytes ∧
        Extends builder after (bytes ++ data.take dataLen) ∧ after.empty = false ∧
        after.frames = builder.frames ++
          [.stream ⟨id,offset,dataLen,shouldSetFin,false,streamGroupId,0⟩] := by
  obtain ⟨⟨announced,begun⟩,header,filled⟩ := bind_ok.mp written
  rcases writeStreamFrameHeader_begun small header with ⟨rfl,rfl⟩ |
    ⟨dataLen,dataLenLen,shouldSetFin,bytes,rfl,encoded,fit,same⟩
  · cases filled
    exact .inl ⟨rfl,rfl⟩
  · simp only [if_true] at same
    obtain ⟨_,appended,done⟩ := bind_ok.mp filled
    simp only [pure,Except.pure,Except.ok.injEq,Prod.mk.injEq] at done
    obtain ⟨rfl,rfl⟩ := done
    have room := fit.fits
    have step := (Extends.append small (Nat.le_trans (Nat.le_add_right _ _) room)).appendFrame
      (.stream ⟨id,offset,dataLen,shouldSetFin,false,streamGroupId,0⟩)
    rw [← same] at step
    refine .inr ⟨dataLen,dataLenLen,shouldSetFin,bytes,rfl,encoded,fit,?_⟩
    rcases writeStreamFrameData_appends appended with ⟨enough,rfl⟩ | ⟨rfl,rfl⟩
    · have taken : (data.take dataLen).length = dataLen := List.length_take_of_le enough
      have left : (data.take dataLen).length ≤ begun.remainingSpaceInPkt := by
        rw [taken,step.space]
        omega
      have more := Extends.append (step.counted small) left
      exact ⟨step.trans more,by rw [same]; rfl,by rw [same]; rfl⟩
    · rw [List.take_zero,List.append_nil]
      exact ⟨step,by rw [same]; rfl,by rw [same]; rfl⟩

def FrameWrite.wholeBlobs : FrameWrite → Bool
  | .frame control => wholeBlob control
  | .simple control => wholeBlob (.simple control)
  | _ => true

private theorem recordFrame_empty (frame : QuicWriteFrame) (builder : PacketBuilder) :
    (recordFrame frame builder).empty = false := by
  cases frame <;> rfl

theorem streamHeader_two {id : Nat}
    (encoded : encodeFields (streamHeaderFields streamType id streamGroupId offset dataLen dataLenLen) =
      .ok bytes) : 2 ≤ bytes.length := by
  obtain ⟨type,_,typeByte,others,rfl⟩ := encodeFields_cons.mp encoded
  obtain ⟨idBytes,rest,idWritten,-,rfl⟩ := encodeFields_cons.mp others
  cases typeByte
  have some := List.length_pos_iff.mpr (encode_nonempty idWritten)
  simp only [List.length_append,toBE_length]
  omega

theorem perform_cases (small : builder.Counted) (whole : write.wholeBlobs)
    (written : write.perform builder = .ok after) :
    after = builder ∨ ∃ bytes, bytes ≠ [] ∧ Extends builder after bytes ∧ after.empty = false := by
  cases write with
  | frame frame =>
    obtain ⟨⟨size,_⟩,wrote,rfl⟩ := map_ok written
    rcases writeFrame_cases small whole wrote with ⟨-,same⟩ |
      ⟨fields,bytes,chosen,encoded,-,step,same⟩
    · exact .inl same
    · refine .inr ⟨bytes,?_,step,by rw [same]; exact recordFrame_empty _ _⟩
      obtain ⟨frameType,rest,rfl⟩ := writeFrameFields_typed chosen
      exact typed_nonempty encoded
  | simple frame =>
    obtain ⟨⟨size,_⟩,wrote,rfl⟩ := map_ok written
    rcases writeSimpleFrame_cases small whole wrote with ⟨-,same⟩ | ⟨bytes,encoded,-,step,same⟩
    · exact .inl same
    · refine .inr ⟨bytes,?_,step,by rw [same]; rfl⟩
      obtain ⟨frameType,rest,typed⟩ := simpleFrameFields_typed frame
      rw [typed] at encoded
      exact typed_nonempty encoded
  | stream id offset data flowControlLen fin skipLenHint streamGroupId =>
    obtain ⟨⟨dataLen,_⟩,wrote,rfl⟩ := map_ok written
    rcases writeStreamFrame_cases small wrote with ⟨-,same⟩ |
      ⟨dataLen,dataLenLen,shouldSetFin,bytes,-,encoded,-,step,marked,-⟩
    · exact .inl same
    · have two := streamHeader_two encoded
      refine .inr ⟨_,?_,step,marked⟩
      exact List.append_ne_nil_of_left_ne_nil (List.length_pos_iff.mp (by omega)) _
  | crypto offset data =>
    obtain ⟨⟨frame,_⟩,wrote,rfl⟩ := map_ok written
    rcases writeCryptoFrame_cases small wrote with ⟨-,same⟩ | ⟨len,bytes,-,-,encoded,step,same⟩
    · exact .inl same
    · exact .inr ⟨bytes,typed_nonempty encoded,step,by rw [same]; rfl⟩
  | ack metaData =>
    obtain ⟨⟨frame,_⟩,wrote,rfl⟩ := map_ok written
    rcases writeAckFrame_cases small wrote with ⟨-,same⟩ |
      ⟨largest,rest,additional,headerSize,bytes,-,-,-,-,-,encoded,step,same⟩
    · exact .inl same
    · exact .inr ⟨bytes,typed_nonempty encoded,step,by rw [same]; rfl⟩

end StreamServer.Codec
