import StreamServer.Codec.ReceiveTimestamps

/-! An endpoint that receives packets, in any order, and withdraws the acknowledgements its peer has
seen. It keeps the times of the newest packets. -/
namespace StreamServer.Codec
open Protocol State Common Lib.Transition

structure TimestampReceiver where
  ackState : TimestampedAckState := {}
  now : TimePoint

/-- A packet arrives after some nanoseconds, or an ACK frame that was sent is acknowledged. -/
inductive ReceiverAction where
  | receive (packetNum elapsed : Nat)
  | withdraw (frame : WriteAckFrame)

/-- Packet numbers are what an integer of eight bytes can hold. -/
def ReceiverAction.Numbered : ReceiverAction → Prop
  | .receive packetNum _ => packetNum ≤ kEightByteLimit
  | .withdraw _ => True

namespace TimestampReceiver

variable {receiver next : TimestampReceiver}

def step (receiver : TimestampReceiver) : ReceiverAction → Except Error TimestampReceiver
  | .receive packetNum elapsed => do
    let (ackState,_) ← updateLargestReceivedPacketNum receiver.ackState packetNum (receiver.now + elapsed)
    return ⟨ackState,receiver.now + elapsed⟩
  | .withdraw frame =>
    .ok {receiver with ackState := {receiver.ackState with
      toAckState := commonAckVisitorForAckFrame receiver.ackState.toAckState frame}}

theorem withdraw_largest (ackState : AckState) (frame : WriteAckFrame) :
    (commonAckVisitorForAckFrame ackState frame).largestRecvdPacketNum =
      ackState.largestRecvdPacketNum := by
  unfold commonAckVisitorForAckFrame
  dsimp only
  split
  · rfl
  · split <;> rfl

def storedAfter (infos : List RecvdPacketInfo) (info : RecvdPacketInfo) : List RecvdPacketInfo :=
  (if infos.length = kMaxReceivedPktsTimestampsStored then infos.drop 1 else infos) ++ [info]

theorem storedAfter_sub (infos : List RecvdPacketInfo) (info : RecvdPacketInfo) :
    ∃ older, older <:+ infos ∧ storedAfter infos info = older ++ [info] ∧
      (infos.length ≤ kMaxReceivedPktsTimestampsStored →
        (storedAfter infos info).length ≤ kMaxReceivedPktsTimestampsStored) := by
  unfold storedAfter
  split_ifs with full
  · refine ⟨infos.drop 1,List.drop_suffix 1 infos,rfl,fun _ => ?_⟩
    rw [List.length_append,List.length_drop,List.length_singleton]
    unfold kMaxReceivedPktsTimestampsStored at *
    omega
  · refine ⟨infos,List.suffix_rfl,rfl,fun less => ?_⟩
    rw [List.length_append,List.length_singleton]
    omega

theorem receive_cases {packetNum elapsed : Nat}
    (stepped : receiver.step (.receive packetNum elapsed) = .ok next) :
    next.now = receiver.now + elapsed ∧
      (∀ n, n ∈ next.ackState.acks ↔ n = packetNum ∨ n ∈ receiver.ackState.acks) ∧
      next.ackState.lastRecvdPacketInfo = some ⟨packetNum,receiver.now + elapsed⟩ ∧
      ((∀ largest, receiver.ackState.largestRecvdPacketNum = some largest → largest < packetNum) ∧
          next.ackState.largestRecvdPacketNum = some packetNum ∧
          next.ackState.recvdPacketInfos =
            storedAfter receiver.ackState.recvdPacketInfos ⟨packetNum,receiver.now + elapsed⟩ ∨
        (∃ largest, receiver.ackState.largestRecvdPacketNum = some largest ∧ packetNum ≤ largest ∧
          next.ackState.largestRecvdPacketNum = some largest) ∧
          next.ackState.recvdPacketInfos = receiver.ackState.recvdPacketInfos) := by
  obtain ⟨⟨ackState,distance⟩,updated,same⟩ := bind_ok.mp stepped
  cases same
  unfold updateLargestReceivedPacketNum at updated
  obtain ⟨acks,inserted,done⟩ := bind_ok.mp updated
  cases done
  refine ⟨rfl,?_,rfl,?_⟩
  · intro n
    rw [IntervalSet.mem_insertRange inserted n]
    constructor
    · rintro (here | before)
      · exact .inl (by omega)
      · exact .inr before
    · rintro (rfl | before)
      · exact .inl ⟨Nat.le_refl _,Nat.le_refl _⟩
      · exact .inr before
  · dsimp only
    cases received : receiver.ackState.largestRecvdPacketNum with
    | none =>
      have all : packetNum ≥ 0 := Nat.zero_le _
      exact .inl ⟨fun _ some => (by cases some),by simp,if_pos all⟩
    | some largest =>
      by_cases larger : largest < packetNum
      · refine .inl ⟨fun _ same => by cases same; exact larger,?_,if_pos larger⟩
        exact congrArg some (Nat.max_eq_right (Nat.le_of_lt larger))
      · have less : packetNum ≤ largest := Nat.le_of_not_lt larger
        exact .inr ⟨⟨largest,rfl,less,congrArg some (Nat.max_eq_left less)⟩,if_neg larger⟩

end TimestampReceiver

end StreamServer.Codec
