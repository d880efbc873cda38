import StreamServer.State.AckHandlers

/-! Old packets that were declared lost are reaped from the front of the list, past the packets of
other spaces. -/
namespace StreamServer.State
open Protocol Loss

variable {time : TimePoint} {pnSpace : PacketNumberSpace} {threshold : Microseconds}

/-- Reaping goes on behind a packet that was sent by this time and, when it is of the space, is
declared lost and older than the threshold. -/
def reapsPast (time : TimePoint) (pnSpace : PacketNumberSpace) (threshold : Microseconds)
    (packet : OutstandingPacket) : Bool :=
  packet.metadata.time ≤ time && (packet.space != pnSpace ||
    packet.declaredLost && time - packet.metadata.time > threshold * 1000)

theorem clearOld_eq (packets : List OutstandingPacket) (outstandings : OutstandingsInfo) :
    clearOld time pnSpace threshold outstandings packets =
      (OutstandingsInfo.lowerDeclaredLostCount^[(packets.takeWhile
          (reapsPast time pnSpace threshold)).countP (·.space == pnSpace)] outstandings,
        (packets.takeWhile (reapsPast time pnSpace threshold)).filter (·.space != pnSpace) ++
          packets.dropWhile (reapsPast time pnSpace threshold)) := by
  induction packets generalizing outstandings with
  | nil => rfl
  | cons packet rest ih =>
    unfold clearOld
    split_ifs with later other old
    · have stops : reapsPast time pnSpace threshold packet = false := by
        simp [reapsPast,later]
      simp [stops]
    · have past : reapsPast time pnSpace threshold packet = true := by
        simp [reapsPast,other,not_lt.mp later]
      simp [past,other,ih]
    · have past : reapsPast time pnSpace threshold packet = true := by
        simp only [reapsPast,Bool.and_eq_true,decide_eq_true_eq] at old ⊢
        exact ⟨not_lt.mp later,by simp [old]⟩
      simp [past,not_not.mp other,ih]
    · have stops : reapsPast time pnSpace threshold packet = false := by
        simp only [Bool.not_eq_true] at old
        simp [reapsPast,not_not.mp other,old]
      simp [stops]

/-- With one call for each packet that is reaped, the counter goes down by their number. -/
private theorem lowered_count {outstandings : OutstandingsInfo} {count : Nat}
    (enough : count ≤ outstandings.declaredLostCount) :
    ∃ decrements, OutstandingsInfo.lowerDeclaredLostCount^[count] outstandings = {outstandings with
      declaredLostCount := outstandings.declaredLostCount - count, decrements := decrements} := by
  induction count with
  | zero => exact ⟨_,rfl⟩
  | succ count ih =>
    obtain ⟨decrements,same⟩ := ih (by omega)
    rw [Function.iterate_succ_apply',same,OutstandingsInfo.lowerDeclaredLostCount]
    refine ⟨(outstandings.declaredLostCount - count,1) :: decrements,?_⟩
    rw [lowered_of_le (Nat.le_sub_of_add_le' enough),Nat.sub_sub]

private theorem reaped_lost (packets : List OutstandingPacket) :
    (packets.takeWhile (reapsPast time pnSpace threshold)).countP (·.space == pnSpace) ≤
      packets.countP (·.declaredLost) := by
  calc (packets.takeWhile (reapsPast time pnSpace threshold)).countP (·.space == pnSpace)
    _ ≤ (packets.takeWhile (reapsPast time pnSpace threshold)).countP (·.declaredLost) := by
      refine List.countP_mono_left fun packet inside own => ?_
      have past := List.mem_takeWhile_imp inside
      simp only [reapsPast,bne,own,Bool.not_true,Bool.false_or,Bool.and_eq_true] at past
      exact past.2.1
    _ ≤ packets.countP (·.declaredLost) := (List.takeWhile_sublist _).countP_le

/-- Exactly the packets of the space in front of the first one that stops the reaping are removed,
and the counter goes down by their number. -/
def ReapedExactly (conn : QuicConnectionState) (time : TimePoint) (pnSpace : PacketNumberSpace)
    (next : QuicConnectionState) : Prop :=
  ∃ before after decrements, conn.outstandings.packets = before ++ after ∧
    (∀ packet ∈ before, packet.metadata.time ≤ time ∧ (packet.space = pnSpace →
      packet.declaredLost ∧ time - packet.metadata.time > calculatePTO conn * 1000)) ∧
    (∀ packet ∈ after.head?, time < packet.metadata.time ∨ packet.space = pnSpace ∧
      ¬(packet.declaredLost ∧ time - packet.metadata.time > calculatePTO conn * 1000)) ∧
    before.countP (·.space == pnSpace) ≤ conn.outstandings.declaredLostCount ∧
    next = {conn with outstandings := {conn.outstandings with
      packets := before.filter (·.space != pnSpace) ++ after
      declaredLostCount := conn.outstandings.declaredLostCount -
        before.countP (·.space == pnSpace)
      decrements := decrements}}

theorem clearOldOutstandingPackets_exact (conn : QuicConnectionState) (time : TimePoint)
    (pnSpace : PacketNumberSpace) (consistent : conn.outstandings.declaredLostCount =
      conn.outstandings.packets.countP (·.declaredLost)) :
    ReapedExactly conn time pnSpace (clearOldOutstandingPackets conn time pnSpace) := by
  have enough := @reaped_lost time pnSpace (calculatePTO conn) conn.outstandings.packets
  rw [← consistent] at enough
  have passed (packet) (inside : packet ∈ conn.outstandings.packets.takeWhile
      (reapsPast time pnSpace (calculatePTO conn))) := List.mem_takeWhile_imp inside
  have stopped := List.head?_dropWhile_not (reapsPast time pnSpace (calculatePTO conn))
    conn.outstandings.packets
  have whole := (List.takeWhile_append_dropWhile (p := reapsPast time pnSpace (calculatePTO conn))
    (l := conn.outstandings.packets)).symm
  unfold clearOldOutstandingPackets
  rw [clearOld_eq]
  generalize conn.outstandings.packets.takeWhile _ = before at *
  generalize conn.outstandings.packets.dropWhile _ = after at *
  obtain ⟨decrements,lowered⟩ := lowered_count enough
  refine ⟨before,after,if conn.outstandings.declaredLostCount ≠ 0 then decrements else
    conn.outstandings.decrements,whole,fun packet inside => ?_,fun packet first => ?_,enough,?_⟩
  · have past := passed packet inside
    simp only [reapsPast,Bool.and_eq_true,Bool.or_eq_true,bne_iff_ne,decide_eq_true_eq] at past
    exact ⟨past.1,past.2.resolve_left ∘ not_not_intro⟩
  · rw [Option.mem_def.mp first] at stopped
    simp only [reapsPast,Bool.and_eq_false_iff,Bool.or_eq_false_iff,decide_eq_false_iff_not,not_le,
      bne_eq_false_iff_eq] at stopped
    refine stopped.imp_right fun failed => ⟨failed.1,fun old => ?_⟩
    simp [old] at failed
  · split_ifs with some
    · rw [lowered]
    · have zero : before.countP (·.space == pnSpace) = 0 := by omega
      have others : before.filter (·.space != pnSpace) = before := by
        refine List.filter_eq_self.mpr fun packet inside => ?_
        simpa [bne] using List.countP_eq_zero.mp zero packet inside
      rw [others,zero,← whole]
      rfl

/-- Packets of two spaces; three are declared lost, the last of them lately. -/
def lostThrice : QuicConnectionState where
  nodeType := .client
  outstandings := {
    packets :=
      let sent (header : PacketHeader) (time : TimePoint) (declaredLost : Bool) : OutstandingPacket :=
        {Api.outstandingPacket {nodeType := .client} none ⟨header,[.ping]⟩ time 9 9 false false 0 with
         declaredLost}
      [sent (.short ⟨.zero,.empty,5⟩) 0 true,
       sent (.long ⟨.handshake,.empty,.empty,0,1,[]⟩) 5 false,
       sent (.short ⟨.zero,.empty,6⟩) 9 true,
       sent (.short ⟨.zero,.empty,7⟩) (10^12 - 1) true]
    declaredLostCount := 3}

theorem clearOldOutstandingPackets_exact_thrice :
    (clearOldOutstandingPackets lostThrice (10^12) .appData).outstandings.packets.length = 2 ∧
    ReapedExactly lostThrice (10^12) .appData
      (clearOldOutstandingPackets lostThrice (10^12) .appData) :=
  ⟨rfl,clearOldOutstandingPackets_exact lostThrice _ _ rfl⟩

end StreamServer.State
