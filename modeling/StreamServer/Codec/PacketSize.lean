import StreamServer.Codec.PacketRoundTrip
import StreamServer.Codec.RecordedFrames

/-! The account of the space in a packet: header, body, tag and the space that is left
always make up the limit, whichever builder is used and however the frames are written. -/
namespace StreamServer.Codec
open Protocol Lib.Wire Lib.Transition

/-- What a builder has written, what is deferred, the tag and the space left make up the limit. -/
structure Accounted (limit overhead : Nat) (encoding : PacketNumEncodingResult) (header : PacketHeader)
    (path : DataPathType) (builder : PacketBuilder) : Prop where
  headed : builder.header = header
  numbered : builder.packetNumberEncoding = some encoding
  charged : builder.cipherOverhead = overhead
  pathed : builder.dataPathType = path
  buffered : builder.headerBuf.length + deferredSize encoding.length header =
    headerSize encoding.length header
  total : headerSize encoding.length header + builder.body.length + overhead +
    builder.remainingBytes = limit

variable {bytes : Bytes}

/-- A builder for a packet: the space for the tag is taken before the header or after it. -/
def startPacket (tagFirst : Bool) (limit : Nat) (header : PacketHeader) (largestAckedPacketNum : PacketNum)
    (cipherOverhead : Nat) (dataPathType : DataPathType) : Except Error PacketBuilder :=
  let builder := PacketBuilder.make limit header largestAckedPacketNum dataPathType
  if tagFirst then (builder.accountForCipherOverhead cipherOverhead).encodePacketHeader
  else do return (← builder.encodePacketHeader).accountForCipherOverhead cipherOverhead

section Account

variable {limit overhead : Nat} {encoding : PacketNumEncodingResult} {header : PacketHeader}
  {path : DataPathType} {builder before after : PacketBuilder}

theorem Accounted.counted (accounted : Accounted limit overhead encoding header path builder)
    (small : limit < 2^32) : builder.Counted := by
  have total := accounted.total
  unfold PacketBuilder.Counted
  omega

theorem Extends.accounted (step : Extends before after bytes)
    (accounted : Accounted limit overhead encoding header path before) :
    Accounted limit overhead encoding header path after := by
  refine ⟨step.header.trans accounted.headed,step.encoding.trans accounted.numbered,
    step.overhead.trans accounted.charged,step.path.trans accounted.pathed,
    step.headerBuf.symm ▸ accounted.buffered,?_⟩
  have fits := Nat.le_trans step.fits before.space_le
  have total := accounted.total
  rw [step.body,step.left,List.length_append]
  omega

theorem FrameWrite.perform_accounted {write : FrameWrite}
    (accounted : Accounted limit overhead encoding header path before) (small : limit < 2^32)
    (whole : write.wholeBlobs) (performed : write.perform before = .ok after) :
    Accounted limit overhead encoding header path after := by
  rcases perform_cases (accounted.counted small) whole performed with rfl | ⟨bytes,-,step,-⟩
  · exact accounted
  · exact step.accounted accounted

theorem Performs.accounted {allowed : FrameWrite → Prop} (performs : Performs allowed before after)
    (whole : ∀ write, allowed write → write.wholeBlobs) (small : limit < 2^32)
    (accounted : Accounted limit overhead encoding header path before) :
    Accounted limit overhead encoding header path after ∧ after.diff = before.diff := by
  induction performs with
  | refl => exact ⟨accounted,rfl⟩
  | step chosen performed _ ih =>
    rcases perform_cases (accounted.counted small) (whole _ chosen) performed with rfl | ⟨bytes,-,step,-⟩
    · exact ih accounted
    · exact (ih (step.accounted accounted)).imp_right fun same => same.trans step.withheld

/-- The byte that the builder over chained buffers saves when the length field takes only one. -/
def spareLength (dataPathType : DataPathType) (pktLen : Nat) : PacketHeader → Nat
  | .long header =>
    if header.headerType ≠ .retry ∧ dataPathType = .chainedMemory ∧ pktLen ≤ kOneByteLimit then 1 else 0
  | .short _ => 0

private theorem packetLength_size {longHeader : LongHeader} (regular : longHeader.headerType ≠ .retry)
    (small : encoding.length + builder.body.length + builder.cipherOverhead ≤ kTwoByteLimit) :
    ∃ bytes, builder.packetLength encoding = .ok bytes ∧
      bytes.length + spareLength builder.dataPathType
        (encoding.length + builder.body.length + builder.cipherOverhead) (.long longHeader) =
          kMaxPacketLenSize := by
  unfold PacketBuilder.packetLength spareLength
  generalize encoding.length + builder.body.length + builder.cipherOverhead = pktLen at *
  cases builder.dataPathType with
  | chainedMemory =>
    simp only [QuicInteger.encode,encodeQuicInteger,if_pos small,regular,ne_eq,not_false_eq_true,
      true_and]
    by_cases one : pktLen ≤ kOneByteLimit
    · simp only [if_pos one]
      exact ⟨_,rfl,rfl⟩
    · simp only [if_neg one]
      exact ⟨_,rfl,rfl⟩
  | continuousMemory => exact ⟨_,rfl,by simp [encodeTwoBytes,kMaxPacketLenSize]⟩

theorem Accounted.finishHeader (accounted : Accounted limit overhead encoding header path builder)
    (small : limit < 2^14) : ∃ bytes, builder.finishHeader encoding = .ok bytes ∧
      bytes.length + spareLength path (encoding.length + builder.body.length + overhead) header =
        headerSize encoding.length header := by
  have buffered := accounted.buffered
  have total := accounted.total
  unfold PacketBuilder.finishHeader
  cases headed : builder.header with
  | short shortHeader =>
    rw [← accounted.headed,headed] at buffered ⊢
    exact ⟨_,rfl,buffered⟩
  | long longHeader =>
    rw [← accounted.headed,headed] at buffered total ⊢
    by_cases retry : longHeader.headerType = .retry
    · simp only [if_pos retry]
      refine ⟨_,rfl,?_⟩
      rw [← buffered,spareLength,deferredSize,if_pos retry,if_neg (fun regular => regular.1 retry)]
    · rw [deferredSize,if_neg retry] at buffered
      have short : encoding.length + builder.body.length + builder.cipherOverhead ≤ kTwoByteLimit := by
        rw [accounted.charged,kTwoByteLimit]
        omega
      obtain ⟨bytes,written,size⟩ := packetLength_size retry short
      rw [accounted.charged,accounted.pathed] at size
      simp only [if_neg retry,written,bind,Except.bind,pure,Except.pure]
      refine ⟨_,rfl,?_⟩
      rw [List.length_append,List.length_append,toBE_length,← buffered,← size]
      omega

/-- The built packet: what is missing for a sample is padded as long as there is space beyond the
reserve for the length field, and no byte of a full packet is lost but one of a short length. -/
structure SizedPacket (limit overhead : Nat) (encoding : PacketNumEncodingResult) (header : PacketHeader)
    (path : DataPathType) (builder : PacketBuilder) (built : BuiltPacket) : Prop where
  headed : built.header.length + spareLength path (encoding.length + built.body.length + overhead)
    header = headerSize encoding.length header
  within : built.header.length + built.body.length + overhead ≤ limit
  sampled : builder.empty = false → kMaxPacketNumEncodingSize + kSampleSize ≤
      encoding.length + built.body.length + overhead ∨
    limit ≤ headerSize encoding.length header + built.body.length + overhead + kMaxPacketLenSize
  full : builder.remainingBytes = 0 →
    headerSize encoding.length header + built.body.length + overhead = limit

private theorem padToMinBodySize_full (missing : Nat) (full : builder.remainingBytes ≤ kMaxPacketLenSize) :
    builder.padToMinBodySize missing = builder := by
  cases missing with
  | zero => rfl
  | succ missing =>
    unfold PacketBuilder.padToMinBodySize
    rw [if_neg (by simp [Nat.not_lt.mpr full])]

theorem Accounted.built (accounted : Accounted limit overhead encoding header path builder)
    (direct : builder.diff = 0) (small : limit < 2^14) :
    ∃ built, builder.buildPacket = .ok built ∧
      SizedPacket limit overhead encoding header path builder built := by
  unfold PacketBuilder.buildPacket
  rw [accounted.numbered]
  dsimp only
  generalize missing : kMaxPacketNumEncodingSize - encoding.length + kSampleSize -
    (builder.body.length + builder.cipherOverhead) = count
  rw [accounted.charged] at missing
  obtain ⟨added,step,less,stopped⟩ : ∃ added,
      Extends builder (builder.padToMinBodySize count) (List.replicate added 0) ∧ added ≤ count ∧
      (builder.empty = false →
        added = count ∨ builder.remainingBytes ≤ added + kMaxPacketLenSize) := by
    cases marked : builder.empty with
    | true =>
      rw [padToMinBodySize_empty count marked]
      exact ⟨0,Extends.refl builder,Nat.zero_le _,nofun⟩
    | false =>
      obtain ⟨added,step,less,stopped⟩ :=
        padToMinBodySize_spec count (accounted.counted (by omega)) marked direct
      exact ⟨added,step,less,fun _ => stopped⟩
  have padded := step.accounted accounted
  obtain ⟨bytes,finished,length⟩ := padded.finishHeader small
  have total := accounted.total
  have fits := Nat.le_trans step.fits builder.space_le
  rw [List.length_replicate] at fits
  have grown : (builder.padToMinBodySize count).body.length = builder.body.length + added := by
    rw [step.body,List.length_append,List.length_replicate]
  rw [finished]
  refine ⟨_,rfl,length,?_,?_,?_⟩
  · have whole := padded.total
    dsimp only
    omega
  · intro marked
    dsimp only
    rw [grown]
    rcases stopped marked with all | out
    · left
      unfold kMaxPacketNumEncodingSize kSampleSize at *
      omega
    · right
      omega
  · intro none
    obtain rfl : added = 0 := by omega
    have same := padToMinBodySize_full count (none.le.trans (Nat.zero_le _))
    dsimp only
    rw [same]
    omega

end Account

/-- Beside the header and a sample the limit has room for the two bytes that padding never takes. -/
def LeavesSample (limit : Nat) (encoding : PacketNumEncodingResult) (header : PacketHeader) : Prop :=
  headerSize encoding.length header + kMaxPacketNumEncodingSize + kSampleSize + kMaxPacketLenSize ≤
    limit + encoding.length

def IsInitial (header : PacketHeader) : Prop :=
  ∃ longHeader, header = .long longHeader ∧ longHeader.headerType = .initial

/-- An Initial packet that fills the limit has a length field of two bytes in either builder. -/
def LongLength (limit : Nat) (encoding : PacketNumEncodingResult) (header : PacketHeader)
    (path : DataPathType) : Prop :=
  IsInitial header → path = .chainedMemory →
    headerSize encoding.length header + kOneByteLimit < limit + encoding.length

section Sized

variable {limit overhead : Nat} {encoding : PacketNumEncodingResult} {header : PacketHeader}
  {path : DataPathType} {builder : PacketBuilder} {built : BuiltPacket}

theorem SizedPacket.sample (sized : SizedPacket limit overhead encoding header path builder built)
    (roomy : LeavesSample limit encoding header) (some : builder.empty = false) :
    kMaxPacketNumEncodingSize + kSampleSize ≤ encoding.length + built.body.length + overhead := by
  unfold LeavesSample at roomy
  rcases sized.sampled some with enough | used <;> omega

theorem SizedPacket.exact (sized : SizedPacket limit overhead encoding header path builder built)
    (long : LongLength limit encoding header path) (initial : IsInitial header)
    (none : builder.remainingBytes = 0) :
    built.header.length + built.body.length + overhead = limit := by
  have full := sized.full none
  have headed := sized.headed
  have spare : spareLength path (encoding.length + built.body.length + overhead) header = 0 := by
    have more := long initial
    obtain ⟨longHeader,rfl,-⟩ := initial
    refine if_neg fun ⟨_,chained,one⟩ => ?_
    have enough := more chained
    omega
  rw [spare] at headed
  omega

end Sized

/-- A use of a writer, on the builder itself or on a wrapper that withholds some of its space. -/
structure WriterCall where
  write : FrameWrite
  withheld : Nat := 0

def WriterCall.perform (builder : PacketBuilder) (call : WriterCall) : Except Error PacketBuilder := do
  return (← call.write.perform {builder with diff := call.withheld}).unwrapped

/-- A use of a writer while a wrapper is around: through it, or past it as ACKs may be written. -/
inductive WrappedCall where
  | wrapped (write : FrameWrite)
  | direct (metaData : WriteAckFrameMetaData)

def WrappedCall.write : WrappedCall → FrameWrite
  | .wrapped write => write
  | .direct metaData => .ack metaData

def WrappedCall.perform (wrapper : PacketBuilder) : WrappedCall → Except Error PacketBuilder
  | .wrapped write => write.perform wrapper
  | .direct metaData => do
    return {← (FrameWrite.ack metaData).perform wrapper.unwrapped with diff := wrapper.diff}

section Calls

variable {limit overhead : Nat} {encoding : PacketNumEncodingResult} {header : PacketHeader}
  {path : DataPathType} {builder before after final : PacketBuilder}

theorem Accounted.withhold (accounted : Accounted limit overhead encoding header path builder) (diff : Nat) :
    Accounted limit overhead encoding header path {builder with diff} :=
  {accounted with}

theorem WriterCall.perform_accounted {call : WriterCall} (small : limit < 2^32)
    (whole : call.write.wholeBlobs) (accounted : Accounted limit overhead encoding header path before)
    (performed : call.perform before = .ok after) :
    Accounted limit overhead encoding header path after ∧ after.diff = 0 := by
  obtain ⟨written,wrote,done⟩ := bind_ok.mp performed
  cases done
  have kept := FrameWrite.perform_accounted (accounted.withhold call.withheld) small whole wrote
  exact ⟨kept.withhold 0,rfl⟩

structure Withheld (total diff : Nat) (wrapper : PacketBuilder) : Prop where
  kept : wrapper.diff = diff
  total : wrapper.body.length + wrapper.remainingBytes = total
  counted : wrapper.Counted

theorem Withheld.grown {total diff : Nat} {write : FrameWrite} (withheld : Withheld total diff before)
    (whole : write.wholeBlobs) (performed : write.perform before = .ok after) :
    after = before ∨ after.body.length + diff ≤ total := by
  rcases perform_cases withheld.counted whole performed with same | ⟨bytes,some,step,-⟩
  · exact .inl same
  · right
    have fits := step.fits
    have positive := List.length_pos_iff.mpr some
    rw [PacketBuilder.remainingSpaceInPkt,withheld.kept] at fits
    have sum := withheld.total
    rw [step.body,List.length_append]
    split at fits <;> omega

end Calls

end StreamServer.Codec
