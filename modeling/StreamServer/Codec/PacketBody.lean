import StreamServer.Codec.FrameRoundTrip

/-! A packet body taken apart: the loop of the decoder finds the frames the body was put
together from. The decoder does not count the paddings at the end of a packet, so frames
are compared with each run of paddings made one. -/
namespace StreamServer.Codec
open Protocol Lib.Wire

def consPadding : List QuicFrame → List QuicFrame
  | .padding _ :: rest => .padding 1 :: rest
  | frames => .padding 1 :: frames

/-- Each run of paddings becomes a single one. -/
def mergePaddings : List QuicFrame → List QuicFrame
  | [] => []
  | .padding _ :: rest => consPadding (mergePaddings rest)
  | frame :: rest => frame :: mergePaddings rest

private theorem consPadding_consPadding (frames : List QuicFrame) :
    consPadding (consPadding frames) = consPadding frames := by
  cases frames with
  | nil => rfl
  | cons frame rest => cases frame <;> rfl

theorem mergePaddings_congr {a b c : List QuicFrame} (same : mergePaddings b = mergePaddings c) :
    mergePaddings (a ++ b) = mergePaddings (a ++ c) := by
  induction a with
  | nil => exact same
  | cons frame rest ih => cases frame <;> simp only [List.cons_append,mergePaddings,ih]

private theorem mergePaddings_consPadding (a b : List QuicFrame) :
    mergePaddings (consPadding a ++ b) = consPadding (mergePaddings (a ++ b)) := by
  cases a with
  | nil => rfl
  | cons frame rest =>
    cases frame with
    | padding numFrames => exact (consPadding_consPadding _).symm
    | _ => rfl

private theorem mergePaddings_front (a b : List QuicFrame) :
    mergePaddings (mergePaddings a ++ b) = mergePaddings (a ++ b) := by
  induction a with
  | nil => rfl
  | cons frame rest ih =>
    cases frame with
    | padding numFrames =>
      rw [mergePaddings,mergePaddings_consPadding,ih]
      rfl
    | _ => simp only [List.cons_append,mergePaddings,ih]

theorem mergePaddings_append {a b c : List QuicFrame} (same : mergePaddings a = mergePaddings b) :
    mergePaddings (a ++ c) = mergePaddings (b ++ c) := by
  rw [← mergePaddings_front a,same,mergePaddings_front]

private theorem mergePaddings_replicate (count : Nat) :
    mergePaddings (List.replicate (count + 1) (.padding 1)) = [.padding 1] := by
  induction count with
  | zero => rfl
  | succ count ih =>
    rw [List.replicate_succ,mergePaddings,ih]
    rfl

theorem mergePaddings_pushFrame (frames : List QuicFrame) (frame : QuicFrame) :
    mergePaddings (pushFrame frames frame) = mergePaddings (frames ++ [frame]) := by
  unfold pushFrame
  split
  next numFrames another last =>
    obtain ⟨front,rfl⟩ := List.getLast?_eq_some_iff.mp last
    rw [List.dropLast_concat,List.append_assoc]
    exact mergePaddings_congr rfl
  next => rfl

/-- Bytes that are these frames one after the other. The last frame of ragged bytes takes what is
left of the packet, so nothing can follow it. -/
inductive Body (header : PacketHeader) (params : CodecParameters) : Bool → List QuicFrame → Bytes → Prop
  | nil : Body header params false [] []
  | padding {ragged : Bool} {frames : List QuicFrame} {bytes : Bytes}
      (others : Body header params ragged frames bytes) :
      Body header params ragged (.padding 1 :: frames) (0 :: bytes)
  | frame {ragged : Bool} {frame : QuicFrame} {frames : List QuicFrame} {first : UInt8} {bytes rest : Bytes}
      (reads : Reads (parseFrame header params) (first :: bytes) frame) (lead : first ≠ 0)
      (others : Body header params ragged frames rest) :
      Body header params ragged (frame :: frames) (first :: bytes ++ rest)
  | last {frame : QuicFrame} {first : UInt8} {bytes : Bytes}
      (reads : ReadsLast (parseFrame header params) (first :: bytes) frame) (lead : first ≠ 0) :
      Body header params true [frame] (first :: bytes)

variable {header : PacketHeader} {params : CodecParameters} {ragged : Bool} {frames : List QuicFrame}
  {bytes : Bytes}

theorem Body.append {more : List QuicFrame} {rest : Bytes} (front : Body header params false frames bytes)
    (back : Body header params ragged more rest) :
    Body header params ragged (frames ++ more) (bytes ++ rest) := by
  generalize whole : false = closed at front
  induction front with
  | nil => exact back
  | padding _ ih => exact .padding (ih whole)
  | frame reads lead _ ih =>
    rw [List.append_assoc]
    exact .frame reads lead (ih whole)
  | last => cases whole

theorem Body.zeros (count : Nat) :
    Body header params false (List.replicate count (.padding 1)) (List.replicate count 0) := by
  induction count with
  | zero => exact .nil
  | succ count ih => exact .padding ih

theorem Body.frames_of_zeros (body : Body header params ragged frames bytes) {count : Nat}
    (zeros : bytes = List.replicate count 0) : frames = List.replicate count (.padding 1) := by
  induction body generalizing count with
  | nil =>
    cases count with
    | zero => rfl
    | succ count => cases zeros
  | padding _ ih =>
    cases count with
    | zero => cases zeros
    | succ count =>
      rw [List.replicate_succ,ih (List.cons.inj zeros).2]
  | frame _ lead | last _ lead =>
    cases count with
    | zero => cases zeros
    | succ count => exact absurd (List.cons.inj zeros).1 lead

private theorem zeros_of_shifted {bytes : Bytes} (same : ((0 : UInt8) :: bytes).dropLast = bytes) :
    bytes = List.replicate bytes.length 0 := by
  induction bytes with
  | nil => rfl
  | cons byte rest ih =>
    rw [List.dropLast_cons_cons] at same
    obtain ⟨rfl,others⟩ := List.cons.inj same
    rw [List.length_cons,List.replicate_succ,← ih others]

private theorem decodePaddingFrame_cases (bytes : Bytes) :
    decodePaddingFrame bytes = .ok (.padding 1,bytes) ∨
      bytes = List.replicate bytes.length 0 ∧ decodePaddingFrame bytes = .ok (.padding 1,[]) := by
  unfold decodePaddingFrame
  cases bytes with
  | nil => exact .inl rfl
  | cons firstByte rest =>
    dsimp only
    split_ifs with nonzero shifted
    · exact .inl rfl
    · rw [not_not] at nonzero
      subst nonzero
      exact .inr ⟨congrArg (List.cons 0) (zeros_of_shifted shifted),rfl⟩
    · exact .inl rfl

private theorem parseFrame_zero (bytes : Bytes) :
    parseFrame header params (0 :: bytes) = .ok (.padding 1,bytes) ∨
      bytes = List.replicate bytes.length 0 ∧
        parseFrame header params (0 :: bytes) = .ok (.padding 1,[]) := by
  have typed : decodeQuicInteger (0 :: bytes) = some ((0,1),bytes) :=
    decode_encode (show QuicInteger.encode 0 = .ok [0] from rfl) bytes
  have known : FrameType.ofValue? 0 = some .padding := rfl
  rcases decodePaddingFrame_cases bytes with kept | ⟨zeros,dropped⟩
  · exact .inl (by simp only [parseFrame,typed,known,decodeFrame,kept])
  · exact .inr ⟨zeros,by simp only [parseFrame,typed,known,decodeFrame,dropped]⟩

private theorem decodeFrames_nil (fuel : Nat) (found : List QuicFrame) :
    decodeFrames header params fuel found [] = .ok found := by
  cases fuel <;> rfl

private theorem decodeFrames_cons {fuel : Nat} {found : List QuicFrame} {first : UInt8} {rest queue : Bytes}
    {frame : QuicFrame} (read : parseFrame header params (first :: rest) = .ok (frame,queue)) :
    decodeFrames header params (fuel + 1) found (first :: rest) =
      decodeFrames header params fuel (pushFrame found frame) queue := by
  rw [decodeFrames,read]
  rfl

private theorem mergePaddings_pushed (found frames : List QuicFrame) (frame : QuicFrame) :
    mergePaddings (pushFrame found frame ++ frames) = mergePaddings (found ++ frame :: frames) := by
  rw [mergePaddings_append (mergePaddings_pushFrame found frame),List.append_assoc]
  rfl

theorem Body.decodes (body : Body header params ragged frames bytes) {fuel : Nat}
    (enough : bytes.length ≤ fuel) (found : List QuicFrame) :
    ∃ decoded, decodeFrames header params fuel found bytes = .ok decoded ∧
      mergePaddings decoded = mergePaddings (found ++ frames) := by
  induction body generalizing fuel found with
  | nil => exact ⟨found,decodeFrames_nil fuel found,by rw [List.append_nil]⟩
  | @padding _ frames bytes others ih =>
    obtain ⟨fuel,rfl⟩ := Nat.exists_eq_add_of_lt (Nat.lt_of_lt_of_le (Nat.succ_pos _) enough)
    rw [Nat.zero_add] at enough ⊢
    rcases parseFrame_zero bytes with one | ⟨zeros,all⟩
    · rw [decodeFrames_cons one]
      obtain ⟨decoded,looped,same⟩ := ih (Nat.le_of_succ_le_succ enough) (pushFrame found (.padding 1))
      exact ⟨decoded,looped,same.trans (mergePaddings_pushed found frames _)⟩
    · rw [decodeFrames_cons all,decodeFrames_nil]
      refine ⟨_,rfl,(mergePaddings_pushFrame found _).trans (mergePaddings_congr ?_)⟩
      rw [others.frames_of_zeros zeros,← List.replicate_succ,mergePaddings_replicate]
      rfl
  | @frame _ frame frames first bytes rest reads lead others ih =>
    obtain ⟨fuel,rfl⟩ := Nat.exists_eq_add_of_lt (Nat.lt_of_lt_of_le (Nat.succ_pos _) enough)
    rw [Nat.zero_add] at enough ⊢
    have read : parseFrame header params (first :: (bytes ++ rest)) = .ok (frame,rest) := reads rest
    rw [List.cons_append,decodeFrames_cons read]
    rw [List.length_append,List.length_cons] at enough
    obtain ⟨decoded,looped,same⟩ := @ih fuel (by omega) (pushFrame found frame)
    exact ⟨decoded,looped,same.trans (mergePaddings_pushed found frames frame)⟩
  | last reads lead =>
    obtain ⟨fuel,rfl⟩ := Nat.exists_eq_add_of_lt (Nat.lt_of_lt_of_le (Nat.succ_pos _) enough)
    rw [Nat.zero_add,decodeFrames_cons reads,decodeFrames_nil]
    exact ⟨_,rfl,mergePaddings_pushFrame found _⟩

end StreamServer.Codec
