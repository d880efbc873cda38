import StreamServer.Api.Scheduler
import StreamServer.Codec.WriterSpecs

/-! Datagrams of one packet. The loop counts up while the queue it is bounded by shrinks, so
that of many datagrams that fit it writes half and one more. -/
namespace StreamServer.Api
open Protocol State Codec

def datagramFrameLength (payload : Bytes) : Nat :=
  1 + payload.length + (getQuicIntegerSize payload.length).getD 0

def datagramFrame (payload : Bytes) : QuicWriteFrame := .datagram payload.length payload

/-- The longest front of a queue whose frames fit one after another, and what it leaves. -/
structure LongestPrefix (space : Nat) (queue sent left : List Bytes) : Prop where
  inOrder : sent ++ left = queue
  fits : (sent.map datagramFrameLength).sum ≤ space
  longest : ∀ next ∈ left.head?, space < (sent.map datagramFrameLength).sum + datagramFrameLength next

def SendsLongestPrefix (conn : QuicConnectionState) (builder : PacketBuilder) : Prop :=
  ∃ sent left after,
    LongestPrefix builder.remainingSpaceInPkt conn.datagramWriteBuffer sent left ∧
    writeDatagramFrames conn builder = .ok ({conn with datagramWriteBuffer := left},after) ∧
    after.frames = builder.frames ++ sent.map datagramFrame

variable {builder : PacketBuilder} {payload : Bytes} {queue : List Bytes}

private theorem datagram_size (encodable : payload.length ≤ kEightByteLimit) :
    ∃ size, QuicInteger.getSize payload.length = .ok size ∧
      datagramFrameLength payload = 1 + payload.length + size := by
  obtain ⟨size,counted⟩ := getSize_total encodable
  refine ⟨size,counted,?_⟩
  unfold QuicInteger.getSize getQuicIntegerSizeThrows at counted
  unfold datagramFrameLength
  split at counted
  next same =>
    cases counted
    rw [same,Option.getD_some]
  next => cases counted

private theorem datagram_written (small : builder.Counted)
    (encodable : payload.length ≤ kEightByteLimit)
    (fits : datagramFrameLength payload ≤ builder.remainingSpaceInPkt) :
    ∃ next bytes, frameWritten (datagramFrame payload) builder = .ok (true,next) ∧
      Extends builder next bytes ∧ bytes.length = datagramFrameLength payload ∧
      next.frames = builder.frames ++ [datagramFrame payload] := by
  obtain ⟨size,counted,total⟩ := datagram_size encodable
  obtain ⟨lengthBytes,encoded,sized⟩ := getSize_ok.mp counted
  obtain ⟨typeBytes,typeEncoded,typeSized⟩ :=
    getSize_ok.mp (show QuicInteger.getSize FrameType.datagramLen.value = .ok 1 from rfl)
  have bytes : encodeFields (typed .datagramLen [.integer payload.length,.front payload.length payload])
      = .ok (typeBytes ++ (lengthBytes ++ payload)) := by
    simp [typed,encodeFields,Field.encode,typeEncoded,encoded,bind,Except.bind,pure,Except.pure]
  have whole : (typeBytes ++ (lengthBytes ++ payload)).length = datagramFrameLength payload := by
    simp only [List.length_append,sized,typeSized]
    omega
  have length : fieldsSize (typed .datagramLen [.integer payload.length,.front payload.length payload])
      = .ok (datagramFrameLength payload) := by
    have type : QuicInteger.getSize FrameType.datagramLen.value = .ok 1 := rfl
    simp only [typed,fieldsSize,Field.size,type,counted,bind,Except.bind,pure,Except.pure,total,
      Except.ok.injEq]
    omega
  have written : frameWritten (datagramFrame payload) builder =
      .ok (datagramFrameLength payload != 0,
        (builder.append (typeBytes ++ (lengthBytes ++ payload))).appendFrame (datagramFrame payload)) := by
    simp [frameWritten,writeFrame,writeFrameFields,datagramFrame,writeFields,length,bytes,
      packetSpaceCheck,fits,bind,Except.bind,pure,Except.pure,recordFrame]
  have positive : (datagramFrameLength payload != 0) = true := by
    rw [total]
    simp
  rw [positive] at written
  exact ⟨_,_,written,(Extends.append small (whole.trans_le fits)).appendFrame _,whole,rfl⟩

/-- What does not fit once is tried again for nothing. -/
private theorem writeDatagrams_stuck {fuel i : Nat} {rest : List Bytes}
    (encodable : payload.length ≤ kEightByteLimit)
    (full : builder.remainingSpaceInPkt < datagramFrameLength payload) :
    writeDatagrams false fuel i (payload :: rest) builder = .ok (payload :: rest,builder) := by
  obtain ⟨size,counted,total⟩ := datagram_size encodable
  have type : QuicInteger.getSize FrameType.datagramLen.value = .ok 1 := rfl
  induction fuel generalizing i with
  | zero => rfl
  | succ fuel ih =>
    unfold writeDatagrams
    simp only [type,counted,bind,Except.bind,← total,Bool.false_eq_true,if_false,ih]
    rw [if_neg (Nat.not_le.mpr full),ite_self]

/-- The loop writes a front that fits, for every second step of its bound, and stops at a datagram
that does not fit or when it has counted past the queue. -/
private theorem writeDatagrams_front {fuel i : Nat} (small : builder.Counted)
    (encodable : ∀ payload ∈ queue, payload.length ≤ kEightByteLimit)
    (some : i = 0 → queue ≠ []) (enough : queue.length + 1 ≤ fuel + i) :
    ∃ sent left after, sent ++ left = queue ∧
      writeDatagrams false fuel i queue builder = .ok (left,after) ∧
      after.frames = builder.frames ++ sent.map datagramFrame ∧
      (sent.map datagramFrameLength).sum ≤ builder.remainingSpaceInPkt ∧
      (sent = [] ∨ i + 2 * sent.length ≤ queue.length + 2) ∧
      ((∀ next ∈ left.head?, builder.remainingSpaceInPkt <
          (sent.map datagramFrameLength).sum + datagramFrameLength next) ∨
        queue.length < i + 2 * sent.length) := by
  induction fuel generalizing i queue builder with
  | zero =>
    exact ⟨[],queue,builder,rfl,rfl,by simp,by simp,.inl rfl,.inr (by simp; omega)⟩
  | succ fuel ih =>
    cases queue with
    | nil =>
      have later : i ≠ 0 := fun first => some first rfl
      exact ⟨[],[],builder,rfl,if_neg later,by simp,by simp,.inl rfl,.inl (by simp)⟩
    | cons payload rest =>
      obtain ⟨size,counted,total⟩ := datagram_size (encodable payload (by simp))
      have type : QuicInteger.getSize FrameType.datagramLen.value = .ok 1 := rfl
      unfold writeDatagrams
      by_cases past : i > rest.length + 1
      · rw [if_pos past]
        exact ⟨[],_,builder,rfl,rfl,by simp,by simp,.inl rfl,.inr (by simpa using past)⟩
      · rw [if_neg past]
        simp only [type,counted,bind,Except.bind,← total,Bool.false_eq_true,if_false]
        by_cases fits : datagramFrameLength payload ≤ builder.remainingSpaceInPkt
        · rw [if_pos fits]
          obtain ⟨next,bytes,written,extended,length,frames⟩ :=
            datagram_written small (encodable payload (by simp)) fits
          rw [datagramFrame] at written
          rw [written]
          have shorter : rest.length + 1 ≤ fuel + (i + 1) := by
            rw [List.length_cons] at enough
            omega
          obtain ⟨sent,left,after,inOrder,others,recorded,sum,count,stop⟩ := ih
            (extended.counted small) (fun payload inside => encodable payload (by simp [inside]))
            (by omega) shorter
          rw [extended.space,length] at sum stop
          refine ⟨payload :: sent,left,after,by simp [inOrder],others,by simp [recorded,frames],?_,?_,?_⟩
          · simp only [List.map_cons,List.sum_cons]
            omega
          · right
            simp only [List.length_cons]
            rcases count with rfl | count
            · simp
              omega
            · omega
          · simp only [List.map_cons,List.sum_cons,List.length_cons]
            refine stop.imp (fun stuck next inside => ?_) (fun ended => by omega)
            have := stuck next inside
            omega
        · rw [if_neg fits]
          refine ⟨[],payload :: rest,builder,rfl,
            writeDatagrams_stuck (encodable payload (by simp)) (by omega),by simp,by simp,.inl rfl,
            .inl ?_⟩
          simp
          omega

private theorem LongestPrefix.bounds {space : Nat} {sent left front back : List Bytes}
    (longest : LongestPrefix space queue sent left) (inOrder : front ++ back = queue)
    (fits : (front.map datagramFrameLength).sum ≤ space) : front <+: sent := by
  rcases List.prefix_or_prefix_of_prefix ⟨back,inOrder⟩ ⟨left,longest.inOrder⟩ with
    shorter | ⟨more,rfl⟩
  · exact shorter
  · cases more with
    | nil => simp
    | cons next more =>
      rw [← longest.inOrder,List.append_assoc] at inOrder
      have beyond := longest.longest next (by rw [← List.append_cancel_left inOrder]; rfl)
      simp only [List.map_append,List.sum_append,List.map_cons,List.sum_cons] at fits
      omega

/-- With packing, a packet gets the longest front of the queue that fits exactly when that front
is no longer than half of the queue and one. -/
theorem sendsLongestPrefix_iff (conn : QuicConnectionState) (builder : PacketBuilder)
    (packed : conn.transportSettings.datagramFramePerPacket = false) (small : builder.Counted)
    (encodable : ∀ payload ∈ conn.datagramWriteBuffer, payload.length ≤ kEightByteLimit) :
    SendsLongestPrefix conn builder ↔ conn.datagramWriteBuffer ≠ [] ∧
      ∃ sent left, LongestPrefix builder.remainingSpaceInPkt conn.datagramWriteBuffer sent left ∧
        sent.length ≤ conn.datagramWriteBuffer.length / 2 + 1 := by
  unfold SendsLongestPrefix writeDatagramFrames
  rw [packed]
  by_cases none : conn.datagramWriteBuffer = []
  · rw [none]
    simp [writeDatagrams,bind,Except.bind]
  obtain ⟨sent,left,after,inOrder,written,frames,fits,count,stop⟩ :=
    writeDatagrams_front (i := 0) small encodable (fun _ => none) (Nat.le_refl _)
  rw [written]
  simp only [bind,Except.bind,pure,Except.pure,Except.ok.injEq,Prod.mk.injEq]
  constructor
  · rintro ⟨other,_,_,longest,⟨same,rfl⟩,-⟩
    obtain rfl : left = _ := congrArg QuicConnectionState.datagramWriteBuffer same
    obtain rfl : sent = other := List.append_cancel_right (inOrder.trans longest.inOrder.symm)
    refine ⟨none,sent,left,longest,?_⟩
    rcases count with rfl | count
    · simp
    · omega
  · rintro ⟨-,other,rest,longest,short⟩
    refine ⟨sent,left,after,?_,⟨rfl,rfl⟩,frames⟩
    rcases stop with stuck | ended
    · exact ⟨inOrder,fits,stuck⟩
    · have front := longest.bounds inOrder fits
      obtain rfl : sent = other := front.eq_of_length_le (by omega)
      obtain rfl : left = rest := List.append_cancel_left (inOrder.trans longest.inOrder.symm)
      exact longest

def queueing (queue : List Bytes) : QuicConnectionState :=
  {nodeType := .client,transportSettings := {datagramFramePerPacket := false},
    datagramWriteBuffer := queue}

def roomy : PacketBuilder :=
  {remainingBytes := 100,header := .short ⟨.zero,.empty,5⟩,largestAckedPacketNum := 0}

theorem sendsLongestPrefix_iff_two : SendsLongestPrefix (queueing [[1],[2]]) roomy :=
  (sendsLongestPrefix_iff (queueing [[1],[2]]) roomy rfl (show 100 < 2^32 by decide) (by decide)).mpr
    ⟨by decide,[[1],[2]],[],⟨rfl,by decide,by decide⟩,by decide⟩

/-- Of three datagrams that fit together the third one stays behind. -/
theorem third_datagram_left : ¬SendsLongestPrefix (queueing [[1],[2],[3]]) roomy := by
  rintro ⟨sent,left,after,⟨inOrder,-,longest⟩,written,-⟩
  have run : (writeDatagramFrames (queueing [[1],[2],[3]]) roomy).map (·.1.datagramWriteBuffer) =
      .ok [[3]] := by rfl
  rw [written] at run
  obtain rfl : left = [[3]] := Except.ok.inj run
  obtain rfl : sent = [[1],[2]] := List.append_cancel_right (inOrder.trans rfl)
  exact absurd (longest [3] rfl) (by decide)

end StreamServer.Api
