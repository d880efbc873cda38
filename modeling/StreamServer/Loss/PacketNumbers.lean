import StreamServer.Congestion.Aside
import StreamServer.Loss.PacketRuns
import StreamServer.State.AckMatching

/-! What acknowledgements, losses and timers do to the numbers of the packets: no packet gets other
numbers, no number is handed out, and the largest acknowledged one is that of a packet the peer has
acknowledged. -/
namespace StreamServer.Loss
open Protocol State Congestion Lib.Outcome Lib.Transition Lib.SortedList

variable {space : PacketNumberSpace} {packet : OutstandingPacket}
  {next conn middle : QuicConnectionState} {walk : AckWalk}
  {result : QuicConnectionState × AckEvent} {packets : List OutstandingPacket} {scan : LossScan}
  {now : TimePoint} {context : OutstandingPacket × Bool}
  {contexts : List (OutstandingPacket × Bool)}

/-- A packet as it was before some handling, and after it. -/
structure ComesFrom (earlier later : OutstandingPacket) : Prop where
  packet : later.packet = earlier.packet
  isDSRPacket : later.isDSRPacket = earlier.isDSRPacket
  sequence : later.nonDsrPacketSequenceNumber = earlier.nonDsrPacketSequenceNumber
  waiting : later.declaredLost = false →
    earlier.declaredLost = false ∧ later.metadata = earlier.metadata

theorem ComesFrom.refl (packet : OutstandingPacket) : ComesFrom packet packet :=
  ⟨rfl,rfl,rfl,fun waiting => ⟨waiting,rfl⟩⟩

theorem ComesFrom.trans {first second third : OutstandingPacket} (one : ComesFrom first second)
    (two : ComesFrom second third) : ComesFrom first third := by
  refine ⟨two.packet.trans one.packet,two.isDSRPacket.trans one.isDSRPacket,
    two.sequence.trans one.sequence,fun waiting => ?_⟩
  obtain ⟨still,same⟩ := two.waiting waiting
  obtain ⟨waited,metadata⟩ := one.waiting still
  exact ⟨waited,same.trans metadata⟩

def AckedIn (history : List PacketRecord) (space : PacketNumberSpace) (packet : OutstandingPacket) :
    Prop :=
  packet.space = space ∧ ∃ processed, ⟨packet,.acked processed⟩ ∈ history

theorem AckedIn.mono {history later : List PacketRecord} (acked : AckedIn history space packet)
    (grows : history ⊆ later) : AckedIn later space packet := by
  obtain ⟨own,processed,inside⟩ := acked
  exact ⟨own,processed,grows inside⟩

/-- The numbers of a space: the next one, the next of packets whose data is here, and the largest
the peer has acknowledged. -/
def ackNumbers (conn : QuicConnectionState) (space : PacketNumberSpace) :
    PacketNum × Nat × Option PacketNum :=
  ((conn.ackStates space).nextPacketNum,(conn.ackStates space).nonDsrPacketSequenceNumber,
    (conn.ackStates space).largestAckedByPeer)

structure Advances (start next : QuicConnectionState) : Prop where
  packets : ∀ packet ∈ next.outstandings.packets,
    ∃ earlier ∈ start.outstandings.packets, ComesFrom earlier packet
  records : ∀ record ∈ next.history, record ∈ start.history ∨
    ∃ earlier ∈ start.outstandings.packets, ComesFrom earlier record.packet
  grows : start.history ⊆ next.history
  nextNumber : ∀ space, (ackNumbers next space).1 = (ackNumbers start space).1
  sequence : ∀ space, (ackNumbers next space).2.1 = (ackNumbers start space).2.1
  largest : ∀ space number, (ackNumbers next space).2.2 = some number →
    (ackNumbers start space).2.2 = some number ∨
      ∃ packet, AckedIn next.history space packet ∧ packet.number = number

theorem Advances.trans {first second third : QuicConnectionState} (one : Advances first second)
    (two : Advances second third) : Advances first third where
  packets packet inside := by
    obtain ⟨middle,there,late⟩ := two.packets packet inside
    obtain ⟨earlier,first,early⟩ := one.packets middle there
    exact ⟨earlier,first,early.trans late⟩
  records record inside := by
    rcases two.records record inside with old | ⟨middle,there,late⟩
    · exact one.records record old
    · obtain ⟨earlier,first,early⟩ := one.packets middle there
      exact .inr ⟨earlier,first,early.trans late⟩
  grows := fun _ inside => two.grows (one.grows inside)
  nextNumber space := (two.nextNumber space).trans (one.nextNumber space)
  sequence space := (two.sequence space).trans (one.sequence space)
  largest space number is := by
    rcases two.largest space number is with old | fresh
    · rcases one.largest space number old with older | ⟨packet,acked,same⟩
      · exact .inl older
      · exact .inr ⟨packet,acked.mono two.grows,same⟩
    · exact .inr fresh

theorem Advances.of_numbers {start : QuicConnectionState}
    (packets : ∀ packet ∈ next.outstandings.packets,
      ∃ earlier ∈ start.outstandings.packets, ComesFrom earlier packet)
    (records : ∀ record ∈ next.history, record ∈ start.history ∨
      ∃ earlier ∈ start.outstandings.packets, ComesFrom earlier record.packet)
    (grows : start.history ⊆ next.history) (numbers : ackNumbers next = ackNumbers start) :
    Advances start next :=
  ⟨packets,records,grows,fun _ => by rw [numbers],fun _ => by rw [numbers],
    fun _ _ is => .inl (numbers ▸ is)⟩

theorem Advances.of_same {start : QuicConnectionState}
    (packets : next.outstandings.packets ⊆ start.outstandings.packets)
    (history : next.history = start.history) (numbers : ackNumbers next = ackNumbers start) :
    Advances start next :=
  .of_numbers (fun packet inside => ⟨packet,packets inside,.refl packet⟩)
    (fun _ inside => .inl (history ▸ inside)) (history ▸ List.Subset.refl _) numbers

theorem Advances.refl (conn : QuicConnectionState) : Advances conn conn :=
  .of_same (List.Subset.refl _) rfl rfl

theorem Advances.of_aside (aside : Aside conn next) :
    Advances conn next := by
  refine .of_same ?_ aside.history ?_
  · rw [aside.outstandings]
    exact List.Subset.refl _
  · funext space
    rw [ackNumbers,aside.ackStates]
    rfl

theorem ackNumbers_of_records (records : next.records = conn.records) :
    ackNumbers next = ackNumbers conn := by
  obtain ⟨books,numbers⟩ := Prod.ext_iff.mp records
  funext space
  have next := congrFun (congrArg Books.nextPacketNum books) space
  have sequence := congrFun (congrArg Numbers.nonDsrPacketSequenceNumber numbers) space
  have largest := congrFun (congrArg Numbers.largestAckedByPeer numbers) space
  exact Prod.ext next (Prod.ext sequence largest)

theorem Kept.ascends (kept : Kept conn.books) :
    conn.outstandings.packets.Pairwise Ascends := by
  have sorted := List.pairwise_map.mp kept.sound.ordered.sorted
  have distinct := List.pairwise_map.mp kept.sound.ordered.distinct
  refine (sorted.and distinct).imp ?_
  rintro first second ⟨below,apart⟩
  refine ⟨below,fun same => Nat.lt_of_le_of_ne below fun equal => apart ?_⟩
  exact PacketEvent.mk.injEq .. ▸ ⟨same,equal⟩

section Walk

variable {arguments : AckArguments} {start : QuicConnectionState}

/-- What is known of the walk: what it has acknowledged were packets of the connection. -/
structure Walking (start : QuicConnectionState) (space : PacketNumberSpace) (walk : AckWalk) : Prop where
  records : ∀ record ∈ walk.conn.history,
    record ∈ start.history ∨ record.packet ∈ start.outstandings.packets
  grows : start.history ⊆ walk.conn.history
  numbers : ackNumbers walk.conn = ackNumbers start
  contexts : ∀ context ∈ walk.packetsWithHandlerContext, AckedIn walk.conn.history space context.1
  newly : ∀ number, walk.ack.largestNewlyAckedPacket = some number →
    ∃ packet, AckedIn walk.conn.history space packet ∧ packet.number = number
  unreported : walk.ack.ackedPackets = []

theorem Walking.ackPacket
    (walking : Walking start arguments.pnSpace walk) (inside : packet ∈ start.outstandings.packets)
    (own : packet.space = arguments.pnSpace) :
    Walking start arguments.pnSpace (ackPacket arguments walk packet) := by
  have acked := @ackPacket_acked arguments walk packet
  obtain ⟨lossState,connIs⟩ := acked.conn
  have history : (State.ackPacket arguments walk packet).conn.history =
      ⟨packet,.acked (walk.conn.outstandings.needsProcess packet)⟩ :: walk.conn.history := by
    rw [connIs]
    rfl
  have here : AckedIn (State.ackPacket arguments walk packet).conn.history arguments.pnSpace packet := by
    refine ⟨own,walk.conn.outstandings.needsProcess packet,?_⟩
    rw [history]
    exact List.mem_cons_self ..
  have grew : walk.conn.history ⊆ (State.ackPacket arguments walk packet).conn.history := by
    rw [history]
    exact List.subset_cons_self ..
  refine ⟨fun record member => ?_,fun _ member => grew (walking.grows member),?_,
    fun context member => ?_,fun number is => ?_,acked.reported.trans walking.unreported⟩
  · rw [history] at member
    rcases List.mem_cons.mp member with rfl | old
    · exact .inr inside
    · exact walking.records record old
  · exact (ackNumbers_of_records acked.records).trans walking.numbers
  · rw [acked.contexts] at member
    rcases mem_insertion.mp member with rfl | old
    · exact here
    · exact (walking.contexts context old).mono grew
  · rcases acked.newly with same | ⟨same,_⟩
    · exact ⟨packet,here,Option.some.inj (same.symm.trans is)⟩
    · obtain ⟨packet,acked,number⟩ := walking.newly number (same.symm.trans is)
      exact ⟨packet,acked.mono grew,number⟩

theorem Walking.onSpuriousLoss
    (walking : Walking start arguments.pnSpace walk) (inside : packet ∈ start.outstandings.packets)
    (done : onSpuriousLoss walk.conn packet = .ok conn) :
    Walking start arguments.pnSpace {walk with conn} := by
  obtain ⟨unlost,unloses,rfl⟩ := map_ok done
  have records := (unloseFrames_records _ packet).ok unloses
  have history : unlost.history = walk.conn.history := congrArg (fun records => records.1.history) records
  have grew : walk.conn.history ⊆ ⟨packet,.ackedAfterLoss⟩ :: unlost.history := by
    rw [history]
    exact List.subset_cons_self ..
  refine ⟨fun record member => ?_,fun _ member => grew (walking.grows member),?_,
    fun context member => (walking.contexts context member).mono grew,fun number is => ?_,
    walking.unreported⟩
  · rcases List.mem_cons.mp member with rfl | old
    · exact .inr inside
    · exact walking.records record (history ▸ old)
  · exact (ackNumbers_of_records records).trans walking.numbers
  · obtain ⟨packet,acked,same⟩ := walking.newly number is
    exact ⟨packet,acked.mono grew,same⟩

theorem walkAcked_walking
    (done : walkAcked arguments conn = .ok (walk,next)) :
    Walking conn arguments.pnSpace walk ∧
      ∃ packets, next = finishWalk walk packets ∧ packets ⊆ conn.outstandings.packets := by
  have keeps : WalkKeeps arguments (· ∈ conn.outstandings.packets) (Walking conn arguments.pnSpace) :=
    ⟨fun _ _ inside own _ walking => walking.ackPacket inside own,
      fun _ _ _ inside _ _ unloses walking => walking.onSpuriousLoss inside unloses⟩
  have begun : Walking conn arguments.pnSpace {conn := conn, ack := arguments.event} :=
    ⟨fun _ inside => .inl inside,List.Subset.refl _,rfl,List.forall_mem_nil _,
      fun _ is => absurd is nofun,rfl⟩
  exact keeps.walkAcked (fun _ inside => inside) begun done

end Walk

section Visits

variable {ackVisitor : AckVisitor}

def AckVisitorKeepsRecords (ackVisitor : AckVisitor) : Prop :=
  ∀ conn packet frame, KeepsRecords conn (ackVisitor conn packet frame)

variable {arguments : AckArguments}

/-- What an acknowledgement comes to before losses are looked for. -/
structure Acknowledged (space : PacketNumberSpace) (conn next : QuicConnectionState) (ack : AckEvent) :
    Prop where
  advances : Advances conn next
  newly : ∀ number, ack.largestNewlyAckedPacket = some number →
    ∃ packet, AckedIn next.history space packet ∧ packet.number = number
  acked : ∀ acked ∈ ack.ackedPackets, ∃ packet, AckedIn next.history space packet ∧
    acked.nonDsrPacketSequenceNumber = packet.nonDsrPacketSequenceNumber.getD 0

theorem acknowledge_acknowledged (keeps : AckVisitorKeepsRecords ackVisitor) {ack : AckEvent}
    (done : acknowledge arguments ackVisitor conn = .ok (next,ack)) :
    Acknowledged arguments.pnSpace conn next ack := by
  obtain ⟨⟨walk,walked⟩,first,onward⟩ := bind_ok.mp done
  obtain ⟨⟨visited,event⟩,visits,same⟩ := map_ok onward
  cases same
  obtain ⟨walking,packets,rfl,fewer⟩ := walkAcked_walking first
  obtain ⟨records,reported,reports,same⟩ := (@visitPackets_yields Tolerable
    (·.records = (finishWalk walk packets).records) _ _ _ (fun context _ frame _ before same =>
      (keeps before context.1 frame).mono fun _ kept => kept.trans same) rfl).ok visits
  dsimp only at records same
  subst same
  have outstandings : visited.outstandings.packets = packets :=
    congrArg (fun records => records.1.outstandings.packets) records
  have history : visited.history = walk.conn.history :=
    congrArg (fun records => records.1.history) records
  refine ⟨.of_numbers (fun packet inside => ?_) (fun record inside => ?_) ?_
    ((ackNumbers_of_records records).trans walking.numbers),fun number is => ?_,fun acked inside => ?_⟩
  · exact ⟨packet,fewer (outstandings ▸ inside),.refl packet⟩
  · exact (walking.records record (history ▸ inside)).imp_right fun there =>
      ⟨record.packet,there,.refl _⟩
  · exact fun _ inside => history ▸ walking.grows inside
  · obtain ⟨packet,acked,same⟩ := walking.newly number is
    exact ⟨packet,history ▸ acked,same⟩
  · rw [walking.unreported,List.nil_append] at inside
    have listed := List.mem_map_of_mem (f := AckPacket.plain) inside
    rw [reports,List.map_map] at listed
    obtain ⟨context,member,same⟩ := List.mem_map.mp listed
    exact ⟨context.1,history ▸ walking.contexts context (List.mem_reverse.mp member),
      congrArg AckPacket.nonDsrPacketSequenceNumber same.symm⟩

end Visits

section Scan

variable {lossVisitor : LossVisitor}

def VisitorKeepsRecords (lossVisitor : LossVisitor) : Prop :=
  ∀ conn packet processed, (lossVisitor conn packet processed).records = conn.records

structure Scans (packets : List OutstandingPacket) (conn next : QuicConnectionState) : Prop where
  records : ∀ record ∈ next.history, record ∈ conn.history ∨ record.packet ∈ packets
  grows : conn.history ⊆ next.history
  numbers : ackNumbers next = ackNumbers conn
  threshold : next.lossState.reorderingThreshold = conn.lossState.reorderingThreshold

theorem Scans.refl (packets : List OutstandingPacket) (conn : QuicConnectionState) :
    Scans packets conn conn :=
  ⟨fun _ inside => .inl inside,List.Subset.refl _,rfl,rfl⟩

theorem Scans.aside (scans : Scans packets conn middle) (aside : Aside middle next)
    (threshold : next.lossState.reorderingThreshold = middle.lossState.reorderingThreshold) :
    Scans packets conn next := by
  refine ⟨?_,?_,?_,threshold.trans scans.threshold⟩
  · rw [aside.history]
    exact scans.records
  · rw [aside.history]
    exact scans.grows
  · rw [← scans.numbers]
    funext space
    rw [ackNumbers,aside.ackStates]
    rfl

theorem Scans.trans {some rest : List OutstandingPacket} (one : Scans some conn middle)
    (others : Scans rest middle next) (first : some ⊆ packets) (second : rest ⊆ packets) :
    Scans packets conn next := by
  refine ⟨fun record inside => ?_,fun _ inside => others.grows (one.grows inside),
    others.numbers.trans one.numbers,others.threshold.trans one.threshold⟩
  rcases others.records record inside with early | late
  · exact (one.records record early).imp_right fun here => first here
  · exact .inr (second late)

theorem Scans.visited (keeps : VisitorKeepsRecords lossVisitor)
    {counted : QuicConnectionState} {processed : Bool}
    (history : counted.history = ⟨packet,.lost processed⟩ :: conn.history)
    (numbers : ackNumbers counted = ackNumbers conn)
    (threshold : counted.lossState.reorderingThreshold = conn.lossState.reorderingThreshold) :
    Scans [packet] conn (lossVisitor counted packet.packet processed) := by
  have records := keeps counted packet.packet processed
  have same : (lossVisitor counted packet.packet processed).history = counted.history :=
    congrArg (fun records => records.1.history) records
  refine ⟨fun record inside => ?_,?_,(ackNumbers_of_records records).trans numbers,
    (congrArg (fun records => records.2.reorderingThreshold) records).trans threshold⟩
  · rw [same,history] at inside
    rcases List.mem_cons.mp inside with rfl | old
    · exact .inr (List.mem_singleton_self _)
    · exact .inl old
  · rw [same,history]
    exact List.subset_cons_self ..

/-- A packet before and after a scan declares it lost. Its distance is noted only if it is above the
threshold. -/
structure Judged (arguments : LossArguments) (threshold : Nat) (packet marked : OutstandingPacket) :
    Prop where
  waiting : packet.isOutstanding arguments.pnSpace = true
  comes : ComesFrom packet marked
  compared : ∃ largest current, comparedNumbers arguments packet = .ok (largest,current) ∧
    (marked.metadata.lossReorderDistance = packet.metadata.lossReorderDistance ∨
      threshold < max largest current - current)

def Passed (arguments : LossArguments) (threshold : Nat) (packet after : OutstandingPacket) : Prop :=
  after = packet ∨ after.declaredLost = true ∧ Judged arguments threshold packet after

variable {arguments : LossArguments}

private theorem scan_passed (keeps : VisitorKeepsRecords arguments.lossVisitor) :
    ScanYields arguments (fun _ => True) fun scan now =>
      List.Forall₂ (Passed arguments conn.lossState.reorderingThreshold) packets now ∧
        Scans packets conn scan.conn := by
  rintro scan before packet after waiting ⟨passed,scans⟩
  have early := List.forall₂_take_append _ _ _ passed
  obtain ⟨old,rest,here,late,cut⟩ :=
    List.forall₂_cons_right_iff.mp (List.forall₂_drop_append _ _ _ passed)
  -- A packet that is still waiting is as it was before the scan.
  have unlost : packet.declaredLost ≠ true := by
    rw [waiting_of_isOutstanding waiting]
    nofun
  cases here.resolve_right fun lost => unlost lost.1
  have whole := List.take_append_drop before.length packets
  rw [cut] at whole
  unfold processPacketForLoss
  refine (Yields.anyway _).known.bind fun ⟨largest,current⟩ ⟨compared,_⟩ => ?_
  dsimp only
  split
  · exact ⟨passed,scans⟩
  · refine (Yields.anyway _).bind fun _ _ => ⟨?_,scans.trans (.visited keeps rfl rfl rfl)
      (List.Subset.refl _) (by rw [← whole]; simp)⟩
    rw [← whole]
    refine List.rel_append early (.cons (.inr ⟨rfl,waiting,
      ⟨rfl,rfl,rfl,fun waiting => absurd waiting nofun⟩,largest,current,compared,?_⟩) late)
    rw [← scans.threshold]
    by_cases far : max largest current - current > scan.conn.lossState.reorderingThreshold
    · exact .inr far
    · exact .inl (if_neg far)

def Examined (space : PacketNumberSpace) (largest : LargestAcked) (threshold : Nat)
    (packet after : OutstandingPacket) : Prop :=
  after = packet ∨ ∃ arguments : LossArguments, arguments.pnSpace = space ∧
    ⟨arguments.largestDsrAcked,arguments.largestNonDsrAcked⟩ = largest ∧
      Judged arguments threshold packet after

structure Detects (space : PacketNumberSpace) (largest : LargestAcked) (conn next : QuicConnectionState) :
    Prop where
  packets : List.Forall₂ (Examined space largest conn.lossState.reorderingThreshold)
    conn.outstandings.packets next.outstandings.packets
  scans : Scans conn.outstandings.packets conn next

theorem exists_examined {α β : Type} {related : α → β → Prop} {before : List α} {after : List β}
    (each : List.Forall₂ related before after) : ∀ new ∈ after, ∃ old ∈ before, related old new := by
  induction each with
  | nil => exact List.forall_mem_nil _
  | cons first _ ih =>
    refine List.forall_mem_cons.mpr ⟨⟨_,List.mem_cons_self ..,first⟩,fun new inside => ?_⟩
    obtain ⟨old,there,related⟩ := ih new inside
    exact ⟨old,List.mem_cons_of_mem _ there,related⟩

theorem Advances.of_scans (scans : Scans conn.outstandings.packets conn next)
    (packets : ∀ packet ∈ next.outstandings.packets,
      ∃ earlier ∈ conn.outstandings.packets, ComesFrom earlier packet) : Advances conn next :=
  .of_numbers packets (fun record inside => (scans.records record inside).imp_right fun there =>
    ⟨record.packet,there,.refl _⟩) scans.grows scans.numbers

theorem Detects.advances {largest : LargestAcked} (detects : Detects space largest conn next) :
    Advances conn next := by
  refine .of_scans detects.scans fun packet inside => ?_
  obtain ⟨earlier,there,examined⟩ := exists_examined detects.packets packet inside
  rcases examined with rfl | ⟨_,_,_,judged⟩
  · exact ⟨packet,there,.refl packet⟩
  · exact ⟨earlier,there,judged.comes⟩

private theorem reportLoss_aside (scan : LossScan) (space : PacketNumberSpace)
    (delayUntilLost : Microseconds) :
    let reported := (reportLoss {scan with
      conn := setLossTime scan.conn space delayUntilLost scan.shouldSetTimer}).1
    Aside scan.conn reported ∧
      reported.lossState.reorderingThreshold = scan.conn.lossState.reorderingThreshold := by
  have timed : Aside scan.conn (setLossTime scan.conn space delayUntilLost scan.shouldSetTimer) ∧
      (setLossTime scan.conn space delayUntilLost scan.shouldSetTimer).lossState.reorderingThreshold =
        scan.conn.lossState.reorderingThreshold := by
    unfold setLossTime
    dsimp only
    split <;> exact ⟨⟨rfl,rfl,rfl⟩,rfl⟩
  unfold reportLoss
  dsimp only
  split
  · exact ⟨⟨timed.1.outstandings,timed.1.history,timed.1.ackStates⟩,timed.2⟩
  · exact timed

theorem detectLossPackets_detects (keeps : VisitorKeepsRecords lossVisitor)
    {largestAcked : Option PacketNum} {lossTime : TimePoint} {ackEvent : Option AckEvent}
    {result : QuicConnectionState × Option LossEvent}
    (done : detectLossPackets conn largestAcked lossVisitor lossTime space ackEvent = .ok result) :
    Detects space (LargestAcked.ofEvent largestAcked ackEvent) conn result.1 := by
  obtain ⟨scan,scanned,same⟩ := map_ok done
  have cleared : Scans conn.outstandings.packets conn (clearLossTime conn space) :=
    (Scans.refl _ conn).aside ⟨rfl,rfl,rfl⟩ rfl
  have detected : Detects space (LargestAcked.ofEvent largestAcked ackEvent) conn scan.conn := by
    unfold scanOutstandings at scanned
    split at scanned
    next =>
      cases scanned
      exact ⟨List.forall₂_same.mpr fun _ _ => .inl rfl,cleared⟩
    next number =>
      obtain ⟨last,rest,⟨passed,scans⟩,rfl⟩ := ((scan_passed keeps).processOutstandingsForLoss
        ⟨List.forall₂_same.mpr fun _ _ => .inl rfl,cleared⟩).ok scanned
      exact ⟨passed.imp fun _ _ examined => examined.imp id fun judged => ⟨_,rfl,rfl,judged.2⟩,
        scans.records,scans.grows,scans.numbers,scans.threshold⟩
  obtain ⟨aside,threshold⟩ := reportLoss_aside scan space _
  rw [← same]
  refine ⟨?_,detected.scans.aside aside threshold⟩
  rw [aside.outstandings]
  exact detected.packets

end Scan

section Handlers

variable {conn next : QuicConnectionState}

theorem noteNewlyAcked_advances {newly : Option PacketNum}
    (acked : ∀ number, newly = some number →
      ∃ packet, AckedIn conn.history space packet ∧ packet.number = number) :
    Advances conn (noteNewlyAcked conn space newly) := by
  unfold noteNewlyAcked
  split
  next => exact .refl conn
  next number =>
    refine ⟨fun packet inside => ⟨packet,inside,.refl packet⟩,fun _ inside => .inl inside,
      List.Subset.refl _,fun other => ?_,fun other => ?_,fun other largest is => ?_⟩
    · simp only [ackNumbers,Function.update_apply]
      split
      next same => rw [same]
      next => rfl
    · simp only [ackNumbers,Function.update_apply]
      split
      next same => rw [same]
      next => rfl
    · simp only [ackNumbers,Function.update_apply] at is
      split at is
      next same =>
        subst same
        have reached := Option.some.inj is
        rcases max_choice ((conn.ackStates other).largestAckedByPeer.getD number) number with old | new
        · rw [old] at reached
          cases before : (conn.ackStates other).largestAckedByPeer with
          | none =>
            rw [before] at reached
            exact .inr (acked _ (congrArg some reached))
          | some kept =>
            rw [before] at reached
            exact .inl (before.trans (congrArg some reached))
        · exact .inr (acked _ (congrArg some (new.symm.trans reached)))
      next => exact .inl is

variable {ackVisitor : AckVisitor} {lossVisitor : LossVisitor} {readings : Readings}

private theorem clearOld_subset {time : TimePoint} {threshold : Microseconds}
    (packets : List OutstandingPacket) (outstandings : OutstandingsInfo) :
    (clearOld time space threshold outstandings packets).2 ⊆ packets := by
  induction packets generalizing outstandings with
  | nil => exact List.Subset.refl _
  | cons packet rest ih =>
    unfold clearOld
    split
    · exact List.Subset.refl _
    split
    · exact List.cons_subset_cons _ (ih _)
    split
    · exact fun _ inside => List.mem_cons_of_mem _ (ih _ inside)
    · exact List.Subset.refl _

theorem clearOldOutstandingPackets_advances (time : TimePoint) (space : PacketNumberSpace) :
    Advances conn (clearOldOutstandingPackets conn time space) := by
  unfold clearOldOutstandingPackets
  split
  · exact .of_same (clearOld_subset _ _) rfl rfl
  · exact .refl conn

private theorem reportAck_aside (ack : AckEvent) (lossEvent : Option LossEvent) :
    Yields (fun _ => True) (Aside conn) (reportAck conn readings ack lossEvent) := by
  unfold reportAck
  split
  · exact .refl conn
  · split
    · exact onPacketAckOrLoss_aside ..
    · exact .refl conn
  · exact (Yields.anyway _).bind fun _ _ => onPacketAckOrLoss_aside ..

theorem processAckFrame_advances (acks : AckVisitorKeepsRecords ackVisitor)
    (losses : VisitorKeepsRecords lossVisitor) {arguments : AckArguments}
    (done : processAckFrame conn arguments ackVisitor lossVisitor readings = .ok result) :
    Advances conn result.1 := by
  rw [processAckFrame_eq] at done
  obtain ⟨⟨settled,ack⟩,first,onward⟩ := bind_ok.mp done
  obtain ⟨⟨handled,lossEvent⟩,handles,onward⟩ := bind_ok.mp onward
  obtain ⟨reported,reports,rfl⟩ := map_ok onward
  obtain ⟨⟨detected,event⟩,detects,same⟩ := map_ok handles
  cases same
  have acknowledged := acknowledge_acknowledged acks first
  have noted := acknowledged.advances.trans (noteNewlyAcked_advances acknowledged.newly)
  have found := noted.trans (detectLossPackets_detects losses detects).advances
  have alarmed : Advances detected (alarmIfOutstanding detected) := .of_aside ⟨rfl,rfl,rfl⟩
  have told : Advances (alarmIfOutstanding detected) reported :=
    .of_aside ((reportAck_aside ack event).ok reports)
  exact found.trans (alarmed.trans (told.trans (clearOldOutstandingPackets_advances _ _)))

theorem implicitAckCryptoStream_advances {level : EncryptionLevel} {nowTime : TimePoint}
    (done : implicitAckCryptoStream conn level now nowTime readings = .ok next) :
    Advances conn next := by
  unfold implicitAckCryptoStream at done
  dsimp only at done
  split at done
  next =>
    cases done
    exact .refl conn
  next =>
    obtain ⟨⟨acked,ack⟩,processed,rfl⟩ := map_ok done
    exact (processAckFrame_advances (implicitAckVisitor_records _ level) (fun _ _ _ => rfl)
      processed).trans (.of_aside ⟨rfl,rfl,rfl⟩)

theorem dropZeroRttPackets_scans (losses : VisitorKeepsRecords lossVisitor)
    {left : List OutstandingPacket} {last : LossScan}
    (done : dropZeroRttPackets lossVisitor scan packets = .ok (last,left)) :
    Scans packets scan.conn last.conn ∧ left ⊆ packets := by
  induction packets generalizing scan left with
  | nil =>
    cases done
    exact ⟨.refl _ _,List.Subset.refl _⟩
  | cons packet rest ih =>
    unfold dropZeroRttPackets at done
    split at done
    next =>
      obtain ⟨middle,drops,onward⟩ := bind_ok.mp done
      obtain ⟨lossEvent,-,rfl⟩ := map_ok drops
      obtain ⟨scans,fewer⟩ := ih onward
      have one : Scans [packet] scan.conn (lossVisitor {scan.conn with
          outstandings := scan.conn.outstandings.release packet
          history := ⟨packet,.lost !scan.conn.outstandings.needsProcess packet⟩ :: scan.conn.history}
          packet.packet !scan.conn.outstandings.needsProcess packet) := .visited losses rfl rfl rfl
      exact ⟨one.trans scans (by simp) (List.subset_cons_self ..),
        fun _ inside => List.mem_cons_of_mem _ (fewer inside)⟩
    next =>
      obtain ⟨⟨final,others⟩,onward,same⟩ := map_ok done
      cases same
      obtain ⟨scans,fewer⟩ := ih onward
      exact ⟨Scans.trans (.refl [] _) scans (List.nil_subset _) (List.subset_cons_self ..),
        List.cons_subset_cons _ fewer⟩

theorem markZeroRttPacketsLost_advances (losses : VisitorKeepsRecords lossVisitor)
    (done : markZeroRttPacketsLost conn lossVisitor now = .ok next) : Advances conn next := by
  obtain ⟨⟨scan,packets⟩,drops,onward⟩ := bind_ok.mp done
  obtain ⟨scans,fewer⟩ := dropZeroRttPackets_scans losses drops
  have counted : Advances conn (countRetransmissions (withPackets scan.conn packets)
      scan.lossEvent.lostPackets) :=
    .of_scans ⟨scans.records,scans.grows,scans.numbers,scans.threshold⟩ fun packet inside =>
      ⟨packet,fewer inside,.refl packet⟩
  dsimp only at onward
  split at onward
  next => exact counted.trans (.of_aside ((onRemoveBytesFromInflight_within ..).ok onward).aside)
  next =>
    cases onward
    exact counted

private theorem onPTOAlarm_advances (done : onPTOAlarm conn now = .ok next) :
    Advances conn next := by
  unfold onPTOAlarm at done
  dsimp only at done
  split at done
  next => exact nomatch done
  next =>
    obtain ⟨dropped,drops,rfl⟩ := map_ok done
    have retransmitted : Advances conn dropped := by
      unfold retransmitZeroRtt at drops
      split at drops
      next =>
        have advances := markZeroRttPacketsLost_advances markPacketLoss_records drops
        exact {advances with}
      next =>
        cases drops
        exact .of_aside ⟨rfl,rfl,rfl⟩
    exact retransmitted.trans (.of_aside ⟨rfl,rfl,rfl⟩)

private theorem onReorderingAlarm_advances
    (done : onReorderingAlarm conn markPacketLoss now readings = .ok next) : Advances conn next := by
  obtain ⟨⟨detected,lossEvent⟩,detects,onward⟩ := bind_ok.mp done
  have found := (detectLossPackets_detects markPacketLoss_records detects).advances
  dsimp only at onward
  split at onward
  next =>
    cases onward
    exact found
  next => exact found.trans (.of_aside ((onPacketAckOrLoss_aside ..).ok onward))

theorem onLossDetectionAlarm_advances
    (done : onLossDetectionAlarm conn markPacketLoss now readings = .ok next) : Advances conn next := by
  unfold onLossDetectionAlarm at done
  split at done
  next =>
    cases done
    exact .refl conn
  next =>
    obtain ⟨alarmed,alarms,rfl⟩ := map_ok done
    have handled : Advances conn alarmed := by
      unfold onAlarm at alarms
      split at alarms
      next => exact onReorderingAlarm_advances alarms
      next => exact onPTOAlarm_advances alarms
    exact handled.trans (.of_aside ⟨rfl,rfl,rfl⟩)

end Handlers

end StreamServer.Loss
