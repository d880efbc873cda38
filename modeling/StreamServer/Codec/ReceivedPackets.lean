import StreamServer.Codec.TimestampReceiver

/-! What an endpoint still acknowledges. Over whole runs a received packet leaves the set of numbers
to acknowledge only when the peer has seen an acknowledgement of it, or of much later ones. -/
namespace StreamServer.Codec
open Protocol State Common Lib.Transition TimestampReceiver

/-- The endpoint with the numbers it received and its ACK frames that were acknowledged, the latest
first. -/
structure ReceiveLog where
  receiver : TimestampReceiver
  received : List PacketNum := []
  ackedFrames : List WriteAckFrame := []

def ReceiveLog.note (log : ReceiveLog) (next : TimestampReceiver) : ReceiverAction → ReceiveLog
  | .receive packetNum _ => {log with receiver := next, received := packetNum :: log.received}
  | .withdraw frame => {log with receiver := next, ackedFrames := frame :: log.ackedFrames}

def ReceiveLog.step (log : ReceiveLog) (action : ReceiverAction) : Except Error ReceiveLog := do
  let next ← log.receiver.step action
  return log.note next action

/-- A number is in a block of the frame, or far below the largest number of the frame, which is the
end of its first block. -/
def Settles (frame : WriteAckFrame) (packetNum : PacketNum) : Prop :=
  (∃ block ∈ frame.ackBlocks, block.start ≤ packetNum ∧ packetNum ≤ block.stop) ∨
    ∃ largest ∈ frame.ackBlocks.head?, kAckPurgingThresh < largest.stop ∧
      packetNum ≤ largest.stop - kAckPurgingThresh

structure Acknowledgeable (log : ReceiveLog) : Prop where
  only : ∀ packetNum, packetNum ∈ log.receiver.ackState.acks → packetNum ∈ log.received
  missing : ∀ packetNum ∈ log.received, packetNum ∉ log.receiver.ackState.acks →
    ∃ frame ∈ log.ackedFrames, Settles frame packetNum
  largest : log.receiver.ackState.largestRecvdPacketNum = log.received.max?
  ascending : log.receiver.ackState.recvdPacketInfos.Pairwise fun a b => a.pktNum < b.pktNum
  few : log.receiver.ackState.recvdPacketInfos.length ≤ kMaxReceivedPktsTimestampsStored

private theorem mem_foldl_withdraw {blocks : List Interval} {set : IntervalSet} {n : Nat} :
    n ∈ blocks.foldl IntervalSet.withdraw set ↔
      n ∈ set ∧ ¬∃ block ∈ blocks, block.start ≤ n ∧ n ≤ block.stop := by
  induction blocks generalizing set with
  | nil => simp
  | cons block blocks ih =>
    rw [List.foldl_cons,ih,IntervalSet.mem_withdraw,and_assoc]
    simp only [List.mem_cons,exists_eq_or_imp,not_or]

theorem mem_commonAckVisitorForAckFrame {ackState : AckState} {frame : WriteAckFrame} {n : Nat} :
    n ∈ (commonAckVisitorForAckFrame ackState frame).acks ↔ n ∈ ackState.acks ∧ ¬Settles frame n := by
  have withdrawn : n ∈ frame.ackBlocks.reverse.foldl IntervalSet.withdraw ackState.acks ↔
      n ∈ ackState.acks ∧ ¬∃ block ∈ frame.ackBlocks, block.start ≤ n ∧ n ≤ block.stop := by
    simp only [mem_foldl_withdraw,List.mem_reverse]
  unfold commonAckVisitorForAckFrame Settles
  dsimp only
  split
  next none =>
    rw [withdrawn,none]
    simp
  next front rest blocks =>
    split
    next far =>
      rw [IntervalSet.mem_withdraw,withdrawn,blocks]
      simp [far,and_assoc]
    next near =>
      rw [withdrawn,blocks]
      simp [near]

private theorem max?_cons_of_larger {n : Nat} {numbers : List Nat}
    (larger : ∀ m ∈ numbers.max?, m < n) : (n :: numbers).max? = some n := by
  rw [List.max?_cons]
  cases top : numbers.max? with
  | none => rfl
  | some m => exact congrArg some (Nat.max_eq_left (Nat.le_of_lt (larger m top)))

private theorem max?_cons_of_le {n m : Nat} {numbers : List Nat} (top : numbers.max? = some m)
    (less : n ≤ m) : (n :: numbers).max? = some m := by
  rw [List.max?_cons,top]
  exact congrArg some (Nat.max_eq_right less)

/-- The packets stored are not above the largest received. -/
structure Stored (log : ReceiveLog) : Prop extends Acknowledgeable log where
  below : ∀ info ∈ log.receiver.ackState.recvdPacketInfos,
    ∃ largest, log.receiver.ackState.largestRecvdPacketNum = some largest ∧ info.pktNum ≤ largest

variable {log : ReceiveLog}

private theorem Stored.receive (stored : Stored log) {packetNum elapsed : Nat} {next : TimestampReceiver}
    (stepped : log.receiver.step (.receive packetNum elapsed) = .ok next) :
    Stored (log.note next (.receive packetNum elapsed)) := by
  obtain ⟨-,acks,-,cases⟩ := receive_cases stepped
  have only : ∀ n, n ∈ next.ackState.acks → n ∈ packetNum :: log.received := by
    intro n inside
    rcases (acks n).mp inside with rfl | before
    · exact List.mem_cons_self
    · exact List.mem_cons_of_mem _ (stored.only n before)
  have missing : ∀ n ∈ packetNum :: log.received, n ∉ next.ackState.acks →
      ∃ frame ∈ log.ackedFrames, Settles frame n := by
    intro n inside absent
    rw [acks,not_or] at absent
    exact stored.missing n ((List.mem_cons.mp inside).resolve_left absent.1) absent.2
  rcases cases with ⟨larger,largest,infos⟩ | ⟨⟨top,received,less,same⟩,infos⟩
  · obtain ⟨older,suffix,shape,few⟩ := storedAfter_sub log.receiver.ackState.recvdPacketInfos
      ⟨packetNum,log.receiver.now + elapsed⟩
    have earlier : ∀ info ∈ older, info.pktNum < packetNum := by
      intro info inside
      obtain ⟨top,received,less⟩ := stored.below info (suffix.subset inside)
      exact Nat.lt_of_le_of_lt less (larger top received)
    refine ⟨⟨only,missing,?_,?_,?_⟩,?_⟩
    · refine largest.trans (max?_cons_of_larger fun top greatest => larger top ?_).symm
      rw [stored.largest]
      exact greatest
    · show next.ackState.recvdPacketInfos.Pairwise _
      rw [infos,shape]
      refine List.pairwise_append.mpr
        ⟨stored.ascending.sublist suffix.sublist,List.pairwise_singleton _ _,?_⟩
      intro info inside last same
      rw [List.mem_singleton.mp same]
      exact earlier info inside
    · show next.ackState.recvdPacketInfos.length ≤ _
      rw [infos]
      exact few stored.few
    · intro info inside
      refine ⟨packetNum,largest,?_⟩
      rw [show (log.note next (.receive packetNum elapsed)).receiver.ackState.recvdPacketInfos =
        older ++ [⟨packetNum,log.receiver.now + elapsed⟩] from infos.trans shape] at inside
      rcases List.mem_append.mp inside with old | new
      · exact Nat.le_of_lt (earlier info old)
      · rw [List.mem_singleton.mp new]
  · refine ⟨⟨only,missing,?_,?_,?_⟩,?_⟩
    · refine same.trans (max?_cons_of_le ?_ less).symm
      rw [← stored.largest,received]
    · show next.ackState.recvdPacketInfos.Pairwise _
      rw [infos]
      exact stored.ascending
    · show next.ackState.recvdPacketInfos.length ≤ _
      rw [infos]
      exact stored.few
    · intro info inside
      change info ∈ next.ackState.recvdPacketInfos at inside
      rw [infos] at inside
      obtain ⟨known,there,small⟩ := stored.below info inside
      obtain rfl : known = top := Option.some.inj (there.symm.trans received)
      exact ⟨known,same,small⟩

private theorem Stored.withdraw (stored : Stored log) (frame : WriteAckFrame) {next : TimestampReceiver}
    (stepped : log.receiver.step (.withdraw frame) = .ok next) :
    Stored (log.note next (.withdraw frame)) := by
  cases stepped
  have largest := withdraw_largest log.receiver.ackState.toAckState frame
  refine ⟨⟨?_,?_,largest.trans stored.largest,stored.ascending,stored.few⟩,?_⟩
  · intro n inside
    exact stored.only n (mem_commonAckVisitorForAckFrame.mp inside).1
  · intro n inside absent
    by_cases before : n ∈ log.receiver.ackState.acks
    · -- The frame that is acknowledged now has removed it.
      refine ⟨frame,List.mem_cons_self,?_⟩
      by_contra kept
      exact absent (mem_commonAckVisitorForAckFrame.mpr ⟨before,kept⟩)
    · obtain ⟨earlier,acked,settles⟩ := stored.missing n inside before
      exact ⟨earlier,List.mem_cons_of_mem _ acked,settles⟩
  · intro info inside
    obtain ⟨top,received,less⟩ := stored.below info inside
    exact ⟨top,largest.trans received,less⟩

private theorem Stored.step {next : ReceiveLog} {action : ReceiverAction} (stored : Stored log)
    (stepped : log.step action = .ok next) : Stored next := by
  obtain ⟨receiver,taken,done⟩ := bind_ok.mp stepped
  cases done
  cases action with
  | receive packetNum elapsed => exact stored.receive taken
  | withdraw frame => exact stored.withdraw frame taken

theorem duplicate_acks {receiver next : TimestampReceiver} {packetNum elapsed : Nat}
    (inside : packetNum ∈ receiver.ackState.acks)
    (stepped : receiver.step (.receive packetNum elapsed) = .ok next) :
    next.ackState.acks = receiver.ackState.acks := by
  obtain ⟨⟨ackState,_⟩,updated,done⟩ := bind_ok.mp stepped
  cases done
  obtain ⟨acks,inserted,done⟩ := bind_ok.mp updated
  cases done
  show acks = _
  simp only [IntervalSet.insertRange,Interval.make] at inserted
  split at inserted
  · cases inserted
  · split at inserted
    next made =>
      split at made
      · split at made
        · cases made
          cases inserted
          exact IntervalSet.insert_of_mem inside ⟨rfl,rfl⟩
        · cases made
      · cases made
    · cases inserted

/-- Along every run the received packets stay acknowledgeable, and so do they when one of them comes
again. -/
theorem received_packets_acknowledgeable (start : TimePoint) (actions : List ReceiverAction) :
    Throughout ReceiveLog.step (fun log => Acknowledgeable log ∧
      ∀ packetNum elapsed next, packetNum ∈ log.receiver.ackState.acks →
        log.step (.receive packetNum elapsed) = .ok next →
        next.receiver.ackState.acks = log.receiver.ackState.acks) {receiver := ⟨{},start⟩} actions := by
  rw [throughout_iff_prefixes]
  intro first second reached split ran
  have stored : Stored reached := by
    refine run_preserves (fun log action next => Stored.step) ?_ ran
    exact ⟨⟨fun n inside => absurd inside (IntervalSet.not_mem_empty n),
      fun n inside => absurd inside List.not_mem_nil,rfl,.nil,Nat.zero_le _⟩,
      fun info inside => absurd inside List.not_mem_nil⟩
  refine ⟨stored.toAcknowledgeable,fun packetNum elapsed next inside stepped => ?_⟩
  obtain ⟨receiver,taken,done⟩ := bind_ok.mp stepped
  cases done
  exact duplicate_acks inside taken

end StreamServer.Codec
