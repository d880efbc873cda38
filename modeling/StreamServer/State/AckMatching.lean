import StreamServer.State.AckWalks
import StreamServer.Loss.FrameCalls

/-! Which packets an acknowledgement is for. The walk over the outstanding packets takes those of the
space that lie in a block, and no others, whatever is between them. -/
namespace StreamServer.State
open Protocol Common Congestion Loss Lib.Transition Lib.Outcome

variable {walk next : AckWalk} {context : OutstandingPacket × Bool}
  {contexts : List (OutstandingPacket × Bool)} {packet : OutstandingPacket}
  {space : PacketNumberSpace} {packets : List OutstandingPacket} {block : AckBlock}
  {blocks : List AckBlock} {visited : QuicConnectionState × AckEvent}

/-- What is done with an acknowledgement before losses are looked for. -/
def acknowledge (arguments : AckArguments) (ackVisitor : AckVisitor) (conn : QuicConnectionState) :
    Except Error (QuicConnectionState × AckEvent) := do
  let (walk,conn) ← walkAcked arguments conn
  let (conn,ack) ← walk.packetsWithHandlerContext.reverse.foldlM (visitPacket ackVisitor)
    (conn,walk.ack)
  return (settleAcked walk conn,ack)

/-- What follows. -/
def concludeAck (arguments : AckArguments) (lossVisitor : LossVisitor) (readings : Readings)
    (acknowledged : QuicConnectionState × AckEvent) : Except Error (QuicConnectionState × AckEvent) := do
  let (conn,lossEvent) ← handleAckForLoss acknowledged.1 lossVisitor acknowledged.2 arguments.pnSpace
  let conn ← reportAck conn readings acknowledged.2 lossEvent
  return (clearOldOutstandingPackets conn arguments.ackReceiveTime arguments.pnSpace,acknowledged.2)

theorem processAckFrame_eq (conn : QuicConnectionState) (arguments : AckArguments)
    (ackVisitor : AckVisitor) (lossVisitor : LossVisitor) (readings : Readings) :
    processAckFrame conn arguments ackVisitor lossVisitor readings =
      acknowledge arguments ackVisitor conn >>= concludeAck arguments lossVisitor readings := by
  simp only [processAckFrame,acknowledge,concludeAck,bind_assoc,pure_bind]

/-- A packet of the space with its number in one of the blocks. -/
def covered (space : PacketNumberSpace) (blocks : List AckBlock) (packet : OutstandingPacket) : Bool :=
  packet.space == space && blocks.any fun block =>
    decide (block.startPacket ≤ packet.number) && decide (packet.number ≤ block.endPacket)

@[mk_iff] structure Descending (blocks : List AckBlock) : Prop where
  ranges : ∀ block ∈ blocks, block.startPacket ≤ block.endPacket
  below : blocks.Pairwise fun higher lower => lower.endPacket < higher.startPacket

instance (blocks : List AckBlock) : Decidable (Descending blocks) :=
  decidable_of_iff' _ (descending_iff blocks)

/-- The order of the outstanding packets: by number, and within a space no number twice. -/
def Ascends (earlier later : OutstandingPacket) : Prop :=
  earlier.number ≤ later.number ∧ (earlier.space = later.space → earlier.number < later.number)

def totalSize (packets : List OutstandingPacket) : Nat := (packets.map (·.metadata.encodedSize)).sum

section Walk

variable {arguments : AckArguments}

/-- The packets that were newly acknowledged between two points of the walk, the largest first. -/
structure Matched (walk next : AckWalk) (acked : List OutstandingPacket) : Prop where
  contexts : next.packetsWithHandlerContext.map Prod.fst =
    walk.packetsWithHandlerContext.map Prod.fst ++ acked
  bytes : next.ack.ackedBytes = walk.ack.ackedBytes + totalSize acked
  reported : next.ack.ackedPackets = walk.ack.ackedPackets

theorem Matched.refl (walk : AckWalk) : Matched walk walk [] :=
  ⟨(List.append_nil _).symm,rfl,rfl⟩

theorem Matched.trans {middle : AckWalk} {first second : List OutstandingPacket}
    (before : Matched walk middle first) (after : Matched middle next second) :
    Matched walk next (first ++ second) := by
  refine ⟨?_,?_,after.reported.trans before.reported⟩
  · rw [after.contexts,before.contexts,List.append_assoc]
  · rw [after.bytes,before.bytes,totalSize,totalSize,totalSize,List.map_append,List.sum_append,
      Nat.add_assoc]

/-- The walk has not passed below the packets: what was acknowledged has larger numbers. -/
def Ahead (space : PacketNumberSpace) (walk : AckWalk) (packets : List OutstandingPacket) : Prop :=
  ∀ context ∈ walk.packetsWithHandlerContext, ∀ packet ∈ packets, packet.space = space →
    packet.number < context.1.number

theorem insertContext_last
    (larger : ∀ other ∈ contexts, context.1.number < other.1.number) :
    insertContext context contexts = contexts ++ [context] := by
  unfold insertContext
  cases contexts using List.reverseRecOn with
  | nil => rfl
  | append_singleton front last =>
    have above : (!decide (last.1.number > context.1.number)) = false := by
      simpa using larger last (by simp)
    rw [List.rdropWhile_concat_neg _ _ _ (by rw [above]; nofun),
      List.rtakeWhile_concat_neg _ _ _ (by rw [above]; nofun)]

theorem ackPacket_matched
    (larger : ∀ context ∈ walk.packetsWithHandlerContext, packet.number < context.1.number) :
    Matched walk (ackPacket arguments walk packet) [packet] := by
  have acked := @ackPacket_acked arguments walk packet
  refine ⟨?_,acked.bytes,acked.reported⟩
  rw [acked.contexts,insertContext_last (by exact larger),List.map_append]
  rfl

theorem onSpuriousLoss_matched (walk : AckWalk) (conn : QuicConnectionState) :
    Matched walk {walk with conn} [] := ⟨(List.append_nil _).symm,rfl,rfl⟩

/-- What the walk through one block comes to: the packets it went through, and those below. -/
structure Within (space : PacketNumberSpace) (block : AckBlock) (walk : AckWalk)
    (packets : List OutstandingPacket)
    (result : AckWalk × List OutstandingPacket × List OutstandingPacket) : Prop where
  through : ∃ front, packets = front ++ result.2.2 ∧
    (∀ packet ∈ front, packet.space = space → block.startPacket ≤ packet.number) ∧
    result.2.1 = front.filter (·.space != space) ∧
    Matched walk result.1 (front.filter fun packet => packet.space == space && !packet.declaredLost)
  below : ∀ packet ∈ result.2.2, packet.number < block.startPacket

theorem Ahead.tail
    {rest : List OutstandingPacket} (ahead : Ahead space walk (packet :: rest)) : Ahead space walk rest :=
  fun context inside other member => ahead context inside other (List.mem_cons_of_mem _ member)

theorem Matched.ahead
    {acked : List OutstandingPacket} (matched : Matched walk next acked)
    (ahead : Ahead space walk packets)
    (larger : ∀ high ∈ acked, ∀ low ∈ packets, low.space = space → low.number < high.number) :
    Ahead space next packets := by
  intro context inside low member own
  have either : context.1 ∈ next.packetsWithHandlerContext.map Prod.fst := List.mem_map_of_mem inside
  rw [matched.contexts,List.mem_append,List.mem_map] at either
  rcases either with ⟨old,wasInside,same⟩ | new
  · rw [← same]
    exact ahead old wasInside low member own
  · exact larger context.1 new low member own

theorem ackWithin_within
    {result : AckWalk × List OutstandingPacket × List OutstandingPacket}
    (descends : packets.Pairwise (flip Ascends)) (ahead : Ahead arguments.pnSpace walk packets)
    (done : ackWithin arguments block walk packets = .ok result) :
    Within arguments.pnSpace block walk packets result := by
  induction packets generalizing walk result with
  | nil =>
    cases done
    exact ⟨⟨[],rfl,List.forall_mem_nil _,rfl,.refl walk⟩,List.forall_mem_nil _⟩
  | cons packet rest ih =>
    obtain ⟨first,later⟩ := List.pairwise_cons.mp descends
    unfold ackWithin at done
    split at done
    next other =>
      obtain ⟨⟨next,kept,below⟩,onward,rfl⟩ := map_ok done
      obtain ⟨⟨front,rfl,owned,rfl,matched⟩,small⟩ := ih later ahead.tail onward
      refine ⟨⟨packet :: front,rfl,?_,?_,?_⟩,small⟩
      · exact List.forall_mem_cons.mpr ⟨fun own => absurd own other,owned⟩
      · rw [List.filter_cons_of_pos (by simpa using other)]
      · rwa [List.filter_cons_of_neg (by simp [other])]
    next own =>
      have own : packet.space = arguments.pnSpace := Decidable.not_not.mp own
      split at done
      next low =>
        cases done
        refine ⟨⟨[],rfl,List.forall_mem_nil _,rfl,.refl walk⟩,fun member inside => ?_⟩
        rcases List.mem_cons.mp inside with rfl | inside
        · exact low
        · exact Nat.lt_of_le_of_lt (first member inside).1 low
      next high =>
        have high : block.startPacket ≤ packet.number := Nat.not_lt.mp high
        split at done
        next lost =>
          obtain ⟨conn,-,onward⟩ := bind_ok.mp done
          have still : Ahead arguments.pnSpace {walk with conn} rest := ahead.tail
          obtain ⟨⟨front,rfl,owned,kept,matched⟩,small⟩ := ih later still onward
          refine ⟨⟨packet :: front,rfl,List.forall_mem_cons.mpr ⟨fun _ => high,owned⟩,?_,?_⟩,small⟩
          · rwa [List.filter_cons_of_neg (by simpa using own)]
          · rw [List.filter_cons_of_neg (by simp [lost])]
            exact (onSpuriousLoss_matched walk conn).trans matched
        next waiting =>
          have larger := fun context inside => ahead context inside packet (List.mem_cons_self ..) own
          have acked : Matched walk (ackPacket arguments walk packet) [packet] := ackPacket_matched larger
          have still := acked.ahead ahead.tail (List.forall_mem_singleton.mpr fun other member space =>
            (first other member).2 (space.trans own.symm))
          obtain ⟨⟨front,rfl,owned,kept,matched⟩,small⟩ := ih later still done
          refine ⟨⟨packet :: front,rfl,List.forall_mem_cons.mpr ⟨fun _ => high,owned⟩,?_,?_⟩,small⟩
          · rwa [List.filter_cons_of_neg (by simpa using own)]
          · rw [List.filter_cons_of_pos (by simp [own,waiting])]
            exact acked.trans matched

theorem Descending.tail (descending : Descending (block :: blocks)) :
    Descending blocks :=
  ⟨fun other inside => descending.ranges other (List.mem_cons_of_mem _ inside),
    (List.pairwise_cons.mp descending.below).2⟩

theorem covered_iff :
    covered space blocks packet = true ↔ packet.space = space ∧
      ∃ block ∈ blocks, block.startPacket ≤ packet.number ∧ packet.number ≤ block.endPacket := by
  simp [covered]

private theorem not_covered_above
    (descending : Descending (block :: blocks))
    (above : block.endPacket < packet.number) : covered space (block :: blocks) packet = false := by
  apply Bool.eq_false_iff.mpr
  intro inside
  obtain ⟨-,other,member,-,most⟩ := covered_iff.mp inside
  rcases List.mem_cons.mp member with rfl | member
  · exact Nat.not_lt.mpr most above
  · have lower := (List.pairwise_cons.mp descending.below).1 other member
    have range := descending.ranges block (List.mem_cons_self ..)
    exact Nat.lt_irrefl _ (Nat.lt_of_le_of_lt most (Nat.lt_of_lt_of_le lower
      (Nat.le_trans range (Nat.le_of_lt above))))

private theorem covered_below (below : packet.number < block.startPacket) :
    covered space (block :: blocks) packet = covered space blocks packet := by
  unfold covered
  rw [List.any_cons,decide_eq_false (Nat.not_le.mpr below),Bool.false_and,Bool.false_or]

private theorem covered_through (least : packet.space = space → block.startPacket ≤ packet.number)
    (most : packet.number ≤ block.endPacket) :
    covered space (block :: blocks) packet = (packet.space == space) := by
  apply Bool.eq_iff_iff.mpr
  rw [covered_iff,beq_iff_eq]
  exact ⟨And.left,fun own => ⟨own,block,List.mem_cons_self ..,least own,most⟩⟩

private theorem number_le_of_reached {limit : PacketNum}
    (descends : packets.Pairwise (flip Ascends)) :
    ∀ packet ∈ packets.dropWhile (fun packet => packet.number > limit), packet.number ≤ limit := by
  induction packets with
  | nil => exact List.forall_mem_nil _
  | cons packet rest ih =>
    obtain ⟨first,later⟩ := List.pairwise_cons.mp descends
    by_cases above : packet.number > limit
    · rw [List.dropWhile_cons_of_pos (by simpa using above)]
      exact ih later
    · rw [List.dropWhile_cons_of_neg (by simpa using above)]
      refine List.forall_mem_cons.mpr ⟨Nat.not_lt.mp above,fun other inside => ?_⟩
      exact Nat.le_trans (first other inside).1 (Nat.not_lt.mp above)

theorem ackBlocks_matched {rest : List OutstandingPacket} (descending : Descending blocks)
    (descends : packets.Pairwise (flip Ascends))
    (ahead : Ahead arguments.pnSpace walk packets)
    (done : ackBlocks arguments walk packets blocks = .ok (next,rest)) :
    rest = packets.filter (fun packet => !covered arguments.pnSpace blocks packet) ∧
      Matched walk next (packets.filter fun packet =>
        covered arguments.pnSpace blocks packet && !packet.declaredLost) := by
  induction blocks generalizing walk packets rest with
  | nil =>
    cases done
    simp only [covered,List.any_nil,Bool.and_false,Bool.not_false,Bool.false_and,List.filter_true,
      List.filter_false,true_and]
    exact .refl _
  | cons block blocks ih =>
    unfold ackBlocks at done
    dsimp only at done
    have whole := List.takeWhile_append_dropWhile (p := fun packet : OutstandingPacket =>
      decide (packet.number > block.endPacket)) (l := packets)
    have high : ∀ packet ∈ packets.takeWhile (fun packet => packet.number > block.endPacket),
        covered arguments.pnSpace (block :: blocks) packet = false := fun packet inside =>
      not_covered_above descending (by simpa using List.mem_takeWhile_imp inside)
    have low := @number_le_of_reached packets block.endPacket descends
    have sorted : (packets.dropWhile fun packet => packet.number > block.endPacket).Pairwise
        (flip Ascends) := descends.sublist (List.dropWhile_sublist _)
    have still : Ahead arguments.pnSpace walk
        (packets.dropWhile fun packet => packet.number > block.endPacket) :=
      fun context inside packet member => ahead context inside packet (List.dropWhile_subset _ member)
    generalize packets.takeWhile (fun packet => packet.number > block.endPacket) = above at *
    generalize packets.dropWhile (fun packet => packet.number > block.endPacket) = reached at *
    subst whole
    have keeps : above.filter (fun packet => !covered arguments.pnSpace (block :: blocks) packet) = above :=
      List.filter_eq_self.mpr fun packet inside => by rw [high packet inside]; rfl
    have quiet : above.filter (fun packet =>
        covered arguments.pnSpace (block :: blocks) packet && !packet.declaredLost) = [] :=
      List.filter_eq_nil_iff.mpr fun packet inside => by rw [high packet inside]; simp
    rw [List.filter_append,List.filter_append,keeps,quiet,List.nil_append]
    split at done
    next =>
      cases done
      exact ⟨rfl,.refl _⟩
    next =>
      obtain ⟨⟨middle,kept,below⟩,within,onward⟩ := bind_ok.mp done
      obtain ⟨⟨last,left⟩,others,same⟩ := map_ok onward
      cases same
      obtain ⟨⟨front,rfl,owned,rfl,matched⟩,small⟩ := ackWithin_within sorted still within
      obtain ⟨-,belowSorted,apart⟩ := List.pairwise_append.mp sorted
      have belowAhead : Ahead arguments.pnSpace middle below := by
        refine matched.ahead (fun context inside packet member =>
          still context inside packet (List.mem_append_right _ member)) ?_
        intro packet inside lower member own
        obtain ⟨inside,taken⟩ := List.mem_filter.mp inside
        have space : packet.space = arguments.pnSpace := by simpa using (Bool.and_eq_true_iff.mp taken).1
        exact (apart packet inside lower member).2 (own.trans space.symm)
      obtain ⟨rfl,further⟩ := ih descending.tail belowSorted belowAhead others
      have through : ∀ packet ∈ front, covered arguments.pnSpace (block :: blocks) packet =
          (packet.space == arguments.pnSpace) := fun packet inside =>
        covered_through (owned packet inside) (low packet (List.mem_append_left _ inside))
      have beneath : ∀ packet ∈ below, covered arguments.pnSpace (block :: blocks) packet =
          covered arguments.pnSpace blocks packet := fun packet inside => covered_below (small packet inside)
      simp only [List.filter_append]
      constructor
      · rw [List.append_assoc]
        congr 2
        · exact List.filter_congr fun packet inside => by rw [through packet inside]; rfl
        · exact List.filter_congr fun packet inside => by rw [beneath packet inside]
      · have frontTaken : front.filter (fun packet => covered arguments.pnSpace (block :: blocks) packet &&
            !packet.declaredLost) =
            front.filter fun packet => packet.space == arguments.pnSpace && !packet.declaredLost :=
          List.filter_congr fun packet inside => by rw [through packet inside]
        have belowTaken : below.filter (fun packet => covered arguments.pnSpace (block :: blocks) packet &&
            !packet.declaredLost) =
            below.filter fun packet => covered arguments.pnSpace blocks packet && !packet.declaredLost :=
          List.filter_congr fun packet inside => by rw [beneath packet inside]
        rw [frontTaken,belowTaken]
        exact matched.trans further

theorem totalSize_reverse (packets : List OutstandingPacket) :
    totalSize packets.reverse = totalSize packets := by
  rw [totalSize,List.map_reverse,List.sum_reverse,totalSize]

theorem walkAcked_matched {conn next : QuicConnectionState}
    (sorted : conn.outstandings.packets.Pairwise Ascends) (descending : Descending arguments.frame.ackBlocks)
    (done : walkAcked arguments conn = .ok (walk,next)) :
    next.outstandings.packets = conn.outstandings.packets.filter
        (fun packet => !covered arguments.pnSpace arguments.frame.ackBlocks packet) ∧
      (walk.packetsWithHandlerContext.reverse.map Prod.fst) = conn.outstandings.packets.filter
        (fun packet => covered arguments.pnSpace arguments.frame.ackBlocks packet && !packet.declaredLost) ∧
      walk.ack.ackedPackets = [] ∧
      walk.ack.ackedBytes = totalSize (walk.packetsWithHandlerContext.reverse.map Prod.fst) := by
  obtain ⟨⟨last,rest⟩,walked,same⟩ := map_ok done
  cases same
  have newest : conn.outstandings.packets.reverse.Pairwise (flip Ascends) := List.pairwise_reverse.mpr sorted
  have whole := List.takeWhile_append_dropWhile (p := fun packet : OutstandingPacket =>
    packet.space != arguments.pnSpace) (l := conn.outstandings.packets.reverse)
  have others : ∀ packet ∈ conn.outstandings.packets.reverse.takeWhile
      (fun packet => packet.space != arguments.pnSpace),
      covered arguments.pnSpace arguments.frame.ackBlocks packet = false := by
    intro packet inside
    have other : packet.space ≠ arguments.pnSpace := by simpa using List.mem_takeWhile_imp inside
    exact Bool.eq_false_iff.mpr fun taken => other (covered_iff.mp taken).1
  obtain ⟨rfl,matched⟩ := ackBlocks_matched descending
    (newest.sublist (List.dropWhile_sublist _)) (by exact List.forall_mem_nil _) walked
  generalize conn.outstandings.packets.reverse.takeWhile (fun packet => packet.space != arguments.pnSpace) =
    passed at *
  generalize conn.outstandings.packets.reverse.dropWhile (fun packet => packet.space != arguments.pnSpace) =
    reached at *
  have keeps : passed.filter (fun packet => !covered arguments.pnSpace arguments.frame.ackBlocks packet) =
      passed := List.filter_eq_self.mpr fun packet inside => by rw [others packet inside]; rfl
  have quiet : passed.filter (fun packet => covered arguments.pnSpace arguments.frame.ackBlocks packet &&
      !packet.declaredLost) = [] :=
    List.filter_eq_nil_iff.mpr fun packet inside => by rw [others packet inside]; nofun
  have listed : last.packetsWithHandlerContext.reverse.map Prod.fst = conn.outstandings.packets.filter
      (fun packet => covered arguments.pnSpace arguments.frame.ackBlocks packet && !packet.declaredLost) := by
    rw [List.map_reverse,matched.contexts,← List.reverse_reverse conn.outstandings.packets,← whole,
      List.filter_reverse,List.filter_append,quiet]
    rfl
  refine ⟨?_,listed,matched.reported,?_⟩
  · rw [← List.reverse_reverse conn.outstandings.packets,← whole,List.filter_reverse,List.filter_append,
      keeps]
    rfl
  · rw [List.map_reverse,totalSize_reverse,matched.contexts]
    exact matched.bytes.trans (Nat.zero_add _)

end Walk

section Visits

variable {ackVisitor : AckVisitor}

/-- A visitor that leaves the list of the outstanding packets alone, as both visitors of the
connection do. -/
def KeepsPackets (ackVisitor : AckVisitor) : Prop :=
  ∀ conn packet frame next, ackVisitor conn packet frame = .ok next →
    next.outstandings.packets = conn.outstandings.packets

theorem clientAckVisitor_keepsPackets (pnSpace : PacketNumberSpace) :
    KeepsPackets (clientAckVisitor pnSpace) := by
  intro conn packet frame next done
  have books := (clientAckVisitor_books pnSpace conn packet frame).ok done
  exact congrArg (·.outstandings.packets) books

theorem visitPackets_report (keeps : KeepsPackets ackVisitor) {result : QuicConnectionState × AckEvent}
    (done : contexts.foldlM (visitPacket ackVisitor) visited = .ok result) :
    result.1.outstandings.packets = visited.1.outstandings.packets ∧
      Reported contexts visited.2 result.2 := by
  refine (@visitPackets_yields (fun _ => True)
    (·.outstandings.packets = visited.1.outstandings.packets) _ _ _
    (fun context _ frame _ conn same => ?_) rfl).ok done
  exact (Yields.anyway _).known.mono fun next visits => (keeps _ _ _ next visits.1).trans same

end Visits

section Returns

/-- A range that can be inserted into the acknowledged ones: it is not empty and no offset wraps. -/
def Insertable : QuicWriteFrame → Prop
  | .stream frame => (0 < frame.len ∨ frame.fin = true) ∧ frame.offset + frame.len < maxUint64
  | _ => True

/-- Nothing is thrown. -/
abbrev Succeeds {α : Type} : Except Error α → Prop := Yields (fun _ => False) fun _ => True

theorem updateAckedIntervals_returns (stream : QuicStreamLike) {offset len : Nat} {eof : Bool}
    (filled : 0 < len ∨ eof = true) (bound : offset + len < maxUint64) :
    Succeeds (stream.updateAckedIntervals offset len eof) := by
  have adjusted : ∃ adjustment stop, (if eof then 0 else 1) = adjustment ∧
      sub64 (offset + len) adjustment = stop ∧ offset ≤ stop ∧ stop ≤ maxUint64 - 1 := by
    unfold maxUint64 at *
    cases eof with
    | true => exact ⟨0,_,rfl,sub64_of_le (Nat.zero_le _) (by omega),by omega,by omega⟩
    | false =>
      have some : 0 < len := filled.resolve_right nofun
      exact ⟨1,_,rfl,sub64_of_le (by omega) (by omega),by omega,by omega⟩
  obtain ⟨adjustment,stop,adjusts,same,ordered,small⟩ := adjusted
  unfold QuicStreamLike.updateAckedIntervals IntervalSet.insertRange Interval.make
  dsimp only
  rw [adjusts,same,if_neg (Nat.not_lt.mpr ordered),dif_pos ordered,dif_pos small]
  trivial

theorem onSpuriousLoss_returns (conn : QuicConnectionState)
    (insertable : ∀ frame ∈ packet.packet.frames, Insertable frame) :
    Succeeds (onSpuriousLoss conn packet) := by
  have unlosing : ∀ conn, Succeeds (unloseFrames conn packet) := by
    intro conn
    unfold unloseFrames
    split
    · apply Yields.foldlM _ trivial
      intro conn frame inside _
      unfold unloseFrame
      split
      next frame =>
        split
        · trivial
        next stream _ =>
          obtain ⟨filled,bound⟩ := insertable (.stream frame) inside
          exact (updateAckedIntervals_returns _ filled bound).bind fun _ _ => trivial
      next => trivial
    · trivial
  exact (unlosing _).bind fun _ _ => trivial

variable {arguments : AckArguments}

theorem walk_returns : WalkYields arguments (fun _ => False) fun _ packets =>
    ∀ packet ∈ packets, ∀ frame ∈ packet.packet.frames, Insertable frame := by
  refine ⟨fun _ _ _ _ _ _ all => ?_,fun walk _ _ _ _ _ all => ?_⟩
  · obtain ⟨above,below⟩ := List.forall_mem_append.mp all
    exact List.forall_mem_append.mpr ⟨above,(List.forall_mem_cons.mp below).2⟩
  · obtain ⟨above,below⟩ := List.forall_mem_append.mp all
    obtain ⟨here,below⟩ := List.forall_mem_cons.mp below
    exact (onSpuriousLoss_returns walk.conn here).mono fun _ _ =>
      List.forall_mem_append.mpr ⟨above,below⟩

theorem visitPackets_return {ackVisitor : AckVisitor}
    (answers : ∀ context ∈ contexts, ∀ frame ∈ context.1.packet.frames,
      ∀ conn, ∃ next, ackVisitor conn context.1 frame = .ok next) :
    Succeeds (contexts.foldlM (visitPacket ackVisitor) visited) := by
  refine (@visitPackets_yields (fun _ => False) (fun _ => True) _ _ _
    (fun context inside frame member conn _ => ?_) trivial).mono fun _ _ => trivial
  obtain ⟨next,visits⟩ := answers context inside frame member conn
  rw [visits]
  trivial

end Returns

/-- What an acknowledgement comes to before losses are looked for. -/
structure AckExact (arguments : AckArguments) (conn next : QuicConnectionState) (ack : AckEvent) : Prop where
  left : next.outstandings.packets = conn.outstandings.packets.filter
    fun packet => !covered arguments.pnSpace arguments.frame.ackBlocks packet
  reported : ack.ackedPackets.map AckPacket.plain = (conn.outstandings.packets.filter fun packet =>
    covered arguments.pnSpace arguments.frame.ackBlocks packet && !packet.declaredLost).map AckPacket.of
  ascending : (ack.ackedPackets.map (·.packetNum)).Pairwise (· < ·)
  bytes : ack.ackedBytes = totalSize (conn.outstandings.packets.filter fun packet =>
    covered arguments.pnSpace arguments.frame.ackBlocks packet && !packet.declaredLost)

theorem acknowledge_exact {conn next : QuicConnectionState} {ack : AckEvent} {arguments : AckArguments}
    {ackVisitor : AckVisitor} (sorted : conn.outstandings.packets.Pairwise Ascends)
    (descending : Descending arguments.frame.ackBlocks) (keeps : KeepsPackets ackVisitor)
    (done : acknowledge arguments ackVisitor conn = .ok (next,ack)) :
    AckExact arguments conn next ack := by
  obtain ⟨⟨walk,walked⟩,first,onward⟩ := bind_ok.mp done
  obtain ⟨⟨visited,event⟩,visits,same⟩ := map_ok onward
  cases same
  obtain ⟨left,listed,none,bytes⟩ := walkAcked_matched sorted descending first
  obtain ⟨samePackets,reported,reports,grown⟩ := visitPackets_report keeps visits
  dsimp only at grown
  have packets : event.ackedPackets = reported := by
    rw [grown]
    exact congrArg (· ++ reported) none
  rw [listed,← packets] at reports
  refine ⟨samePackets.trans left,reports,?_,?_⟩
  · have numbers := congrArg (List.map AckPacket.packetNum) reports
    rw [List.map_map,List.map_map] at numbers
    change event.ackedPackets.map (·.packetNum) = List.map OutstandingPacket.number _ at numbers
    rw [numbers,List.pairwise_map]
    refine (sorted.sublist List.filter_sublist).imp_of_mem ?_
    intro first second one other ascends
    have space : ∀ packet ∈ conn.outstandings.packets.filter (fun packet =>
        covered arguments.pnSpace arguments.frame.ackBlocks packet && !packet.declaredLost),
        packet.space = arguments.pnSpace := fun packet member =>
      (covered_iff.mp (Bool.and_eq_true_iff.mp (List.mem_filter.mp member).2).1).1
    exact ascends.2 ((space first one).trans (space second other).symm)
  · rw [← listed,grown]
    exact bytes

/-- For every list of outstanding packets of all spaces and every frame with falling blocks, exactly
the packets of the space in the blocks leave the list, and of those the ones that were not declared
lost are reported. -/
theorem ack_matching_exact {conn : QuicConnectionState} {arguments : AckArguments}
    {ackVisitor : AckVisitor} (sorted : conn.outstandings.packets.Pairwise Ascends)
    (descending : Descending arguments.frame.ackBlocks) (keeps : KeepsPackets ackVisitor)
    (lossVisitor : LossVisitor) (readings : Readings) :
    processAckFrame conn arguments ackVisitor lossVisitor readings =
        acknowledge arguments ackVisitor conn >>= concludeAck arguments lossVisitor readings ∧
      (∀ next ack, acknowledge arguments ackVisitor conn = .ok (next,ack) →
        AckExact arguments conn next ack) ∧
      ((∀ packet ∈ conn.outstandings.packets, ∀ frame ∈ packet.packet.frames, Insertable frame ∧
          ∀ conn, ∃ next, ackVisitor conn packet frame = .ok next) →
        ∃ next ack, acknowledge arguments ackVisitor conn = .ok (next,ack)) := by
  refine ⟨processAckFrame_eq conn arguments ackVisitor lossVisitor readings,fun next ack done => ?_,?_⟩
  · exact acknowledge_exact sorted descending keeps done
  · intro harmless
    have insertable := fun packet inside frame member => (harmless packet inside frame member).1
    obtain ⟨⟨walk,walked⟩,first,-⟩ := (walk_returns.walkAcked fun packet inside =>
      insertable packet (List.mem_reverse.mp inside)).returns
    have listed := (walkAcked_matched sorted descending first).2.1
    have visits : Succeeds (walk.packetsWithHandlerContext.reverse.foldlM (visitPacket ackVisitor)
        (walked,walk.ack)) := by
      refine visitPackets_return fun context inside frame member => ?_
      have listedInside : context.1 ∈ walk.packetsWithHandlerContext.reverse.map Prod.fst :=
        List.mem_map_of_mem inside
      rw [listed] at listedInside
      exact (harmless context.1 (List.mem_filter.mp listedInside).1 frame member).2
    obtain ⟨⟨last,ack⟩,visited,-⟩ := visits.returns
    refine ⟨settleAcked walk last,ack,?_⟩
    simp only [acknowledge,first,bind,Except.bind]
    rw [visited]
    rfl

private def pinged (headerType : Option LongHeaderType) (number : PacketNum) (declaredLost : Bool) :
    OutstandingPacket where
  packet := {
    header := match headerType with
      | some headerType => .long ⟨headerType,.empty,.empty,number,1,[]⟩
      | none => .short ⟨.zero,.empty,number⟩
    frames := [.ping]}
  metadata := ⟨0,30,20,false,0,0,0,0,0,none,none⟩
  declaredLost

/-- Packets of three spaces, some with the same numbers, and two blocks. -/
theorem ack_matching_exact_mixed :
    let conn : QuicConnectionState := {nodeType := .client, outstandings := {packets :=
      [pinged none 3 false,pinged (some .initial) 4 false,pinged none 4 true,pinged none 5 false,
        pinged (some .handshake) 6 false,pinged none 6 false]}}
    let arguments : AckArguments :=
      ⟨.appData,{largestAcked := 6, ackBlocks := [⟨6,6⟩,⟨2,4⟩]},10,10⟩
    ∃ next ack, acknowledge arguments (clientAckVisitor .appData) conn = .ok (next,ack) ∧
      AckExact arguments conn next ack ∧ ack.ackedPackets.map (·.packetNum) = [3,6] ∧
      next.outstandings.packets = [pinged (some .initial) 4 false,pinged none 5 false,
        pinged (some .handshake) 6 false] := by
  intro conn arguments
  have sorted : conn.outstandings.packets.Pairwise Ascends := by
    unfold Ascends
    decide
  have descending : Descending arguments.frame.ackBlocks := ⟨by decide,by decide⟩
  obtain ⟨-,exact,-⟩ := ack_matching_exact sorted descending (clientAckVisitor_keepsPackets .appData)
    (fun conn _ _ => conn) {}
  obtain ⟨next,ack,done,numbers⟩ : ∃ next ack,
      acknowledge arguments (clientAckVisitor .appData) conn = .ok (next,ack) ∧
        ack.ackedPackets.map (·.packetNum) = [3,6] := ⟨_,_,rfl,rfl⟩
  have exactly := exact next ack done
  refine ⟨next,ack,done,exactly,numbers,exactly.left.trans ?_⟩
  decide

end StreamServer.State
