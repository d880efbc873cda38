import StreamServer.Codec.FrameRoundTrip

/-! ACK frames on the wire: the newest blocks that fit are sent, and the peer reads back
exactly those, with a delay that has lost its low bits. -/
namespace StreamServer.Codec
open Protocol Common Lib.Wire Lib.Transition

private theorem fieldsSize_split {fields rest : List Field} {size : Nat}
    (counted : fieldsSize (fields ++ rest) = .ok size) :
    ∃ a b, fieldsSize fields = .ok a ∧ fieldsSize rest = .ok b ∧ size = a + b := by
  induction fields generalizing size with
  | nil => exact ⟨0,size,rfl,counted,by omega⟩
  | cons field fields ih =>
    obtain ⟨a,_,first,others,rfl⟩ := fieldsSize_cons.mp counted
    obtain ⟨b,c,second,third,rfl⟩ := ih others
    exact ⟨a + b,c,fieldsSize_cons.mpr ⟨a,b,first,second,rfl⟩,third,by omega⟩

private theorem fillFrameWithAckBlocks_longest {blocks additional other : List Interval}
    {currentSeqNum count bytesLimit before after size : Nat}
    (filled : fillFrameWithAckBlocks currentSeqNum count bytesLimit blocks = .ok additional)
    (sized : getQuicIntegerSizeThrows count = .ok before) (front : other <+: blocks)
    (counted : fieldsSize (ackBlocksFields currentSeqNum other) = .ok size)
    (counter : getQuicIntegerSizeThrows (count + other.length) = .ok after)
    (fits : size + after ≤ bytesLimit + before) : other.length ≤ additional.length := by
  induction blocks generalizing currentSeqNum count bytesLimit before additional other size with
  | nil =>
    rw [List.prefix_nil.mp front]
    exact Nat.zero_le _
  | cons block rest ih =>
    cases other with
    | nil => exact Nat.zero_le _
    | cons first others =>
      obtain ⟨rfl,tail⟩ := List.cons_prefix_cons.mp front
      obtain ⟨blockSize,othersSize,blockCounted,othersCounted,rfl⟩ := fieldsSize_split counted
      unfold fillFrameWithAckBlocks at filled
      obtain ⟨_,sameBlock,filled⟩ := bind_ok.mp filled
      obtain ⟨next,nextSized,filled⟩ := bind_ok.mp filled
      obtain ⟨previous,previousSized,filled⟩ := bind_ok.mp filled
      cases blockCounted.symm.trans sameBlock
      cases sized.symm.trans previousSized
      have grown := getSize_mono (Nat.le_succ count) sized nextSized
      have longer : count + (others.length + 1) = count + 1 + others.length := by omega
      rw [List.length_cons,longer] at counter
      have counted := getSize_mono (Nat.le_add_right _ _) nextSized counter
      dsimp only at filled
      split at filled
      · omega
      · obtain ⟨more,taken,same⟩ := bind_ok.mp filled
        cases same
        exact Nat.succ_le_succ (ih taken nextSized tail othersCounted counter (by omega))

def ackFrameSize (metaData : WriteAckFrameMetaData) : List Interval → Except Error Nat
  | [] => .ok 0
  | largest :: additional => fieldsSize
      (ackHeaderFields metaData largest additional.length ++ ackBlocksFields largest.start additional)

private theorem ackFrame_longest {metaData : WriteAckFrameMetaData} {largest : Interval}
    {rest additional longer : List Interval} {space headerSize size : Nat}
    (empty : fieldsSize (ackHeaderFields metaData largest 0) = .ok headerSize) (room : headerSize ≤ space)
    (filled : fillFrameWithAckBlocks largest.start 0 (space - headerSize) rest = .ok additional)
    (front : longer <+: largest :: rest) (sized : ackFrameSize metaData longer = .ok size)
    (fits : size ≤ space) : longer.length ≤ (largest :: additional).length := by
  cases longer with
  | nil => exact Nat.zero_le _
  | cons first other =>
    obtain ⟨rfl,tail⟩ := List.cons_prefix_cons.mp front
    obtain ⟨header,blocks,headerCounted,blocksCounted,rfl⟩ := fieldsSize_split sized
    have counter : ∃ after, getQuicIntegerSizeThrows other.length = .ok after := by
      obtain ⟨_,_,-,afterType,-⟩ := fieldsSize_cons.mp headerCounted
      obtain ⟨_,_,-,afterLast,-⟩ := fieldsSize_cons.mp afterType
      obtain ⟨_,_,-,afterDelay,-⟩ := fieldsSize_cons.mp afterLast
      obtain ⟨after,_,counted,-,-⟩ := fieldsSize_cons.mp afterDelay
      exact ⟨after,counted⟩
    obtain ⟨after,counted⟩ := counter
    obtain ⟨_,again,same⟩ := ackHeader_size empty counted
    cases headerCounted.symm.trans again
    rw [← Nat.zero_add other.length] at counted
    exact Nat.succ_le_succ (fillFrameWithAckBlocks_longest filled rfl tail blocksCounted counted (by omega))

private theorem stop_le_last {set : IntervalSet} {largest interval : Interval} {rest : List Interval}
    (blocks : set.intervals.reverse = largest :: rest) (member : interval ∈ set.intervals) :
    interval.stop ≤ largest.stop := by
  have descending : (largest :: rest).Pairwise fun a b => Separated b a := by
    rw [← blocks]
    exact List.pairwise_reverse.mpr set.separated
  rw [← List.mem_reverse,blocks] at member
  rcases List.mem_cons.mp member with rfl | below
  · exact Nat.le_refl _
  · have apart : interval.stop + 1 < largest.start := (List.pairwise_cons.mp descending).1 interval below
    have := largest.ordered
    omega

/-- A frame that is written takes exactly the bytes it reports and holds as many of the newest
blocks as fit; the peer reads back these blocks and the delay without its low bits. -/
theorem ack_frame_round_trip {metaData : WriteAckFrameMetaData} {builder after : PacketBuilder}
    {result : Option (Nat × WriteAckFrame)} {header : PacketHeader} {params : CodecParameters}
    (small : builder.remainingBytes < 2^32) (positive : 0 ≤ metaData.ackDelay)
    (signed : metaData.ackDelay < 2^63)
    (exponent : 1 ≤ metaData.ackDelayExponent ∧ metaData.ackDelayExponent ≤ 20)
    (agreed : metaData.ackDelayExponent = ackDelayExponentToUse header params)
    (written : writeAckFrame metaData builder = .ok (result,after)) :
    (result = none ∧ after = builder) ∨
      ∃ largest blocks fields, metaData.acks.intervals.getLast? = some largest ∧
        (∀ number ∈ metaData.acks, number ≤ largest.stop) ∧
        result = some ((toBE 1 FrameType.ack.value ++ fields).length,⟨blocks,metaData.ackDelay⟩) ∧
        Extends builder after (toBE 1 FrameType.ack.value ++ fields) ∧
        after.frames = builder.frames ++ [.ack ⟨blocks,metaData.ackDelay⟩] ∧
        blocks <+: metaData.acks.intervals.reverse ∧
        (∀ longer size, longer <+: metaData.acks.intervals.reverse → ackFrameSize metaData longer = .ok size →
          size ≤ builder.remainingSpaceInPkt → longer.length ≤ blocks.length) ∧
        Reads (decodeAckFrame header params .ack) fields
          {largestAcked := largest.stop
           ackDelay := (if metaData.ackDelay.toNat / 2^metaData.ackDelayExponent *
              2^metaData.ackDelayExponent > 1000 * 1000 * 1000 then 0
            else metaData.ackDelay.toNat / 2^metaData.ackDelayExponent * 2^metaData.ackDelayExponent : Nat)
           ackBlocks := blocks.map fun block => ⟨block.start,block.stop⟩
           frameType := .ack} := by
  rcases writeAckFrame_cases small written with unchanged |
    ⟨largest,rest,additional,headerSize,bytes,blocks,empty,room,filled,done,encoded,step,same⟩
  · exact .inl unchanged
  · right
    obtain ⟨fields,rfl,reads⟩ :=
      decodeAckFrame_reads blocks filled agreed (by omega) positive signed encoded
    rw [decodedDelay,Nat.shiftRight_eq_div_pow,Nat.shiftLeft_eq] at reads
    have last : metaData.acks.intervals.getLast? = some largest := by
      rw [← List.head?_reverse,blocks]
      rfl
    refine ⟨largest,largest :: additional,fields,last,?_,done,step,by rw [same]; rfl,?_,?_,reads⟩
    · intro number inside
      obtain ⟨interval,member,-,below⟩ := IntervalSet.mem_def.mp inside
      exact Nat.le_trans below (stop_le_last blocks member)
    · rw [blocks]
      exact List.cons_prefix_cons.mpr ⟨rfl,fillFrameWithAckBlocks_front filled⟩
    · intro longer size front sized fits
      rw [blocks] at front
      exact ackFrame_longest empty room filled front sized fits

private def twoBlocks : WriteAckFrameMetaData :=
  ⟨⟨[⟨1,2,by decide,by decide⟩,⟨5,9,by decide,by decide⟩],0,by simp [Separated]⟩,1000,3⟩

/-- Two blocks with a delay of one millisecond. -/
theorem ack_frame_round_trip_two :
    ∃ result after, writeAckFrame twoBlocks
        (.make 100 (.short ⟨.zero,⟨[],by decide⟩,1⟩) 0) = .ok (result,after) ∧ result.isSome ∧
      ∃ largest blocks fields, (after.frames = [.ack ⟨blocks,1000⟩] ∧ blocks.length = 2) ∧
        Reads (decodeAckFrame (.short ⟨.zero,⟨[],by decide⟩,1⟩) {} .ack) fields
          {largestAcked := largest, ackDelay := 1000, ackBlocks := blocks.map fun block => ⟨block.start,block.stop⟩,
           frameType := .ack} := by
  obtain ⟨result,after,written,some,recorded⟩ : ∃ result after,
      writeAckFrame twoBlocks
        (.make 100 (.short ⟨.zero,⟨[],by decide⟩,1⟩) 0) = .ok (result,after) ∧ result.isSome ∧
      after.frames = [.ack ⟨[⟨5,9,by decide,by decide⟩,⟨1,2,by decide,by decide⟩],1000⟩] := ⟨_,_,rfl,rfl,rfl⟩
  refine ⟨result,after,written,some,?_⟩
  rcases @ack_frame_round_trip _ _ _ _ (.short ⟨.zero,⟨[],by decide⟩,1⟩) {} (by decide) (by decide)
    (by decide) (by decide) rfl written with ⟨none,-⟩ | ⟨largest,blocks,fields,-,-,-,-,frames,-,-,reads⟩
  · rw [none] at some
    cases some
  · have same := recorded.symm.trans frames
    simp only [PacketBuilder.make,List.nil_append,List.cons.injEq,QuicWriteFrame.ack.injEq,
      WriteAckFrame.mk.injEq,and_true] at same
    exact ⟨largest.stop,blocks,fields,⟨frames,by rw [← same.1]; rfl⟩,reads⟩

def kMaxAckDelayExponent : Nat := 20

/-- A delay is scaled by the power of two, or refused since the result does not fit. -/
def ScalesExactly (exponent delay : Nat) : Prop :=
  if delay * 2^exponent < 2^63 then
    convertEncodedDurationToMicroseconds exponent delay = .ok (delay * 2^exponent)
  else ∃ error, convertEncodedDurationToMicroseconds exponent delay = .error error

/-- Of the exponents that are accepted only zero does not scale exactly; the frame then takes a
delay of more than 1000 seconds for none. -/
theorem ackDelay_scaled_iff (exponent delay : Nat) (accepted : exponent ≤ kMaxAckDelayExponent)
    (encoded : delay ≤ kEightByteLimit) :
    (ScalesExactly exponent delay ↔ exponent ≠ 0) ∧
      ∀ header params frameType cursor middle after frame rest largest,
        ackDelayExponentToUse header params = exponent →
        integer "Bad largest acked" cursor = .ok (largest,middle) →
        integer "Bad ack delay" middle = .ok (delay,after) →
        decodeAckFrame header params frameType cursor = .ok (frame,rest) →
        frame.ackDelay = if delay * 2^exponent > 10^9 then 0 else delay * 2^exponent := by
  have word : delay < 2^64 := by
    unfold kEightByteLimit at encoded
    omega
  unfold kMaxAckDelayExponent at accepted
  constructor
  · unfold ScalesExactly
    constructor
    · rintro exact rfl
      have fits : delay * 2^0 < 2^63 := by
        unfold kEightByteLimit at encoded
        omega
      rw [if_pos fits] at exact
      cases exact
    · intro positive
      rcases convertEncodedDuration_scaled (show 1 ≤ exponent ∧ exponent < 64 by omega) word with
        ⟨fits,scaled⟩ | ⟨large,refused⟩
      · rwa [if_pos fits]
      · rwa [if_neg (by omega)]
  · intro header params frameType cursor middle after frame rest largest used first second decoded
    obtain ⟨⟨_,cursor₁⟩,read,decoded⟩ := bind_ok.mp decoded
    cases first.symm.trans read
    obtain ⟨⟨_,cursor₂⟩,read,decoded⟩ := bind_ok.mp decoded
    cases second.symm.trans read
    obtain ⟨⟨count,cursor₃⟩,-,decoded⟩ := bind_ok.mp decoded
    obtain ⟨⟨length,cursor₄⟩,-,decoded⟩ := bind_ok.mp decoded
    obtain ⟨⟨current,cursor₅⟩,-,decoded⟩ := bind_ok.mp decoded
    obtain ⟨⟨adjusted,cursor₆⟩,lifted,decoded⟩ := bind_ok.mp decoded
    obtain ⟨_,converted,same⟩ := bind_ok.mp lifted
    cases same
    obtain ⟨⟨blocks,cursor₇⟩,-,decoded⟩ := bind_ok.mp decoded
    cases decoded
    rw [used] at converted
    have positive : exponent ≠ 0 := by
      rintro rfl
      cases converted
    rcases convertEncodedDuration_scaled (show 1 ≤ exponent ∧ exponent < 64 by omega) word with
      ⟨-,scaled⟩ | ⟨-,error,refused⟩
    · cases scaled.symm.trans converted
      rfl
    · cases refused.symm.trans converted

theorem ackDelay_scaled_iff_default : ScalesExactly 3 5 :=
  (ackDelay_scaled_iff 3 5 (by decide) (by decide)).1.mpr (by decide)

/-- With an exponent of zero the mask is shifted by its whole width. -/
theorem zero_exponent_not_scaled : ¬ScalesExactly 0 1 ∧ (0 : Nat) ≤ kMaxAckDelayExponent :=
  ⟨by unfold ScalesExactly convertEncodedDurationToMicroseconds; simp,by decide⟩

end StreamServer.Codec
