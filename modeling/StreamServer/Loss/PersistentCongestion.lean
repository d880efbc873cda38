import StreamServer.Loss.LossSearches

/-! Persistent congestion. A controller is told of it when the packets lost in one event were sent
over a long time; the check looks only at what the same acknowledgement acknowledges for the first
time. -/
namespace StreamServer.Loss
open Protocol State Congestion Lib.Transition Lib.Outcome

def wasAcknowledged (record : PacketRecord) : Bool :=
  match record.fate with
  | .acked _ | .ackedAfterLoss => true
  | .sent | .lost _ => false

/-- The loss event a controller is told of with an acknowledgement. -/
def judgeLoss (conn : QuicConnectionState) (ack : AckEvent) (lossEvent : Option LossEvent) :
    Except Error (Option LossEvent) :=
  match conn.congestionController, lossEvent with
  | some _, some event => some <$> judgeCongestion conn ack event
  | _, _ => .ok none

def tellController (conn : QuicConnectionState) (readings : Readings) (ack : AckEvent)
    (judged : Option LossEvent) : Except Error QuicConnectionState :=
  if conn.congestionController.isSome && (judged.isSome || ack.largestNewlyAckedPacket.isSome) then
    onPacketAckOrLoss conn readings (some ack) judged
  else .ok conn

variable {conn next : QuicConnectionState} {ack : AckEvent}

theorem reportAck_judged (conn : QuicConnectionState) (readings : Readings) (ack : AckEvent)
    (lossEvent : Option LossEvent) : reportAck conn readings ack lossEvent =
      judgeLoss conn ack lossEvent >>= tellController conn readings ack := by
  unfold reportAck judgeLoss tellController
  cases conn.congestionController with
  | none => rfl
  | some controller =>
    cases lossEvent with
    | none => rfl
    | some event =>
      dsimp only
      cases judgeCongestion conn ack event with
      | error _ | ok _ => rfl

/-- A loss event as a controller is told of it, the probe timeout, and what had happened to the
packets by then. -/
structure ReportedLoss where
  space : PacketNumberSpace
  event : LossEvent
  pto : Microseconds
  history : List PacketRecord

/-- The transport with all losses its controller was told of with acknowledgements. -/
structure CongestionWatch where
  conn : QuicConnectionState
  reports : List ReportedLoss := []

def congestionStep (watch : CongestionWatch) (action : PacketAction) : Except Error CongestionWatch :=
  match ackHandling watch.conn action with
  | none => do
    let conn ← packetStep watch.conn action
    return {watch with conn}
  | some handling => do
    let (conn,ack) ← handling.acknowledged watch.conn
    let (conn,lossEvent) ← handleAckForLoss conn handling.lossVisitor ack handling.arguments.pnSpace
    let judged ← judgeLoss conn ack lossEvent
    let told ← tellController conn handling.readings ack judged
    let reports := judged.toList.map fun event =>
      ⟨handling.arguments.pnSpace,event,calculatePTO conn,conn.history⟩
    return {conn := handling.settle told, reports := reports ++ watch.reports}

/-- Without what it notes the step is that of the transport. -/
theorem congestionStep_conn (watch : CongestionWatch) (action : PacketAction) :
    packetStep watch.conn action = CongestionWatch.conn <$> congestionStep watch action := by
  unfold congestionStep
  split
  next =>
    cases packetStep watch.conn action with
    | error _ | ok _ => rfl
  next handling handled =>
    rw [packetStep_handling handled]
    simp only [reportAck_judged,bind_assoc,map_bind,map_pure]

/-- If the event says that congestion persists, no packet of the space that was sent between the first
and the last of the lost ones was ever acknowledged, and those are three timeouts apart. -/
def ReportedLoss.Sound (report : ReportedLoss) : Prop :=
  report.event.persistentCongestion = true → ∃ smallest largest,
    report.event.smallestLostSentTime = some smallest ∧
    report.event.largestLostSentTime = some largest ∧
    (∀ record ∈ report.history, wasAcknowledged record = true → record.packet.space = report.space →
      ¬(smallest ≤ record.packet.metadata.time ∧ record.packet.metadata.time ≤ largest)) ∧
    largest - smallest ≥ report.pto * kPersistentCongestionThreshold * 1000

/-- Sent between two packets of the space that the acknowledgement leaves waiting. -/
def SentBetween (conn : QuicConnectionState) (arguments : AckArguments) (time : TimePoint) : Prop :=
  ∃ first ∈ waiting, ∃ last ∈ waiting, first.metadata.time ≤ time ∧ time ≤ last.metadata.time
where
  waiting : List OutstandingPacket := conn.outstandings.packets.filter fun packet =>
    packet.isOutstanding arguments.pnSpace &&
      !covered arguments.pnSpace arguments.frame.ackBlocks packet

/-- Of the packets that were sent in between, none was acknowledged before, and none that was declared
lost is acknowledged now. -/
@[mk_iff] structure Undisturbed (conn : QuicConnectionState) (arguments : AckArguments) : Prop where
  descending : Descending arguments.frame.ackBlocks
  earlier : ∀ record ∈ conn.history, wasAcknowledged record = true →
    record.packet.space = arguments.pnSpace → ¬SentBetween conn arguments record.packet.metadata.time
  spurious : ∀ packet ∈ conn.outstandings.packets, packet.declaredLost = true →
    covered arguments.pnSpace arguments.frame.ackBlocks packet = true →
      ¬SentBetween conn arguments packet.metadata.time

def StepUndisturbed (watch : CongestionWatch) (action : PacketAction) : Prop :=
  ∀ handling, ackHandling watch.conn action = some handling → Undisturbed watch.conn handling.arguments

section Acknowledged

variable {arguments : AckArguments} {ackVisitor : AckVisitor}

/-- Whatever the walk has put on record has left the packets. -/
private theorem walk_records : WalkYields arguments (fun _ => True) fun walk packets =>
    packets.Nodup ∧ packets ⊆ conn.outstandings.packets ∧ ∀ record ∈ walk.conn.history,
      record ∈ conn.history ∨ record.packet ∈ conn.outstandings.packets ∧ record.packet ∉ packets := by
  have released {walk : AckWalk} {history : List PacketRecord} {above below : List OutstandingPacket}
      {packet : OutstandingPacket} {fate : PacketFate} (same : history = ⟨packet,fate⟩ :: walk.conn.history)
      (holds : (above ++ packet :: below).Nodup ∧ above ++ packet :: below ⊆ conn.outstandings.packets ∧
        ∀ record ∈ walk.conn.history, record ∈ conn.history ∨
          record.packet ∈ conn.outstandings.packets ∧ record.packet ∉ above ++ packet :: below) :
      (above ++ below).Nodup ∧ above ++ below ⊆ conn.outstandings.packets ∧ ∀ record ∈ history,
        record ∈ conn.history ∨
          record.packet ∈ conn.outstandings.packets ∧ record.packet ∉ above ++ below := by
    obtain ⟨distinct,inside,records⟩ := holds
    have fewer : above ++ below ⊆ above ++ packet :: below :=
      ((List.sublist_cons_self ..).append_left above).subset
    obtain ⟨absent,rest⟩ := List.nodup_cons.mp (List.nodup_middle.mp distinct)
    refine ⟨rest,List.Subset.trans fewer inside,?_⟩
    rw [same]
    refine List.forall_mem_cons.mpr ⟨.inr ⟨inside (by simp),absent⟩,fun record old => ?_⟩
    exact (records record old).imp_right fun known => ⟨known.1,fun there => known.2 (fewer there)⟩
  refine ⟨fun walk above packet below _ _ holds => ?_,fun walk above packet below _ _ holds => ?_⟩
  · obtain ⟨lossState,connIs⟩ := (@ackPacket_acked arguments walk packet).conn
    exact released (by rw [connIs]; rfl) holds
  · refine (Yields.anyway _).known.mono fun unlost unloses => ?_
    obtain ⟨frames,lasts,rfl⟩ := map_ok unloses.1
    have history : frames.history = walk.conn.history :=
      congrArg (fun records => records.1.history) ((unloseFrames_records _ packet).ok lasts)
    exact released (by rw [history]) holds

private theorem acknowledge_records (sorted : conn.outstandings.packets.Pairwise Ascends)
    (descending : Descending arguments.frame.ackBlocks) (keeps : AckVisitorKeepsBooks ackVisitor)
    (done : acknowledge arguments ackVisitor conn = .ok (next,ack)) :
    ∀ record ∈ next.history, record ∈ conn.history ∨ record.packet ∈ conn.outstandings.packets ∧
      covered arguments.pnSpace arguments.frame.ackBlocks record.packet = true := by
  obtain ⟨⟨walk,walked⟩,walks,onward⟩ := bind_ok.mp done
  obtain ⟨⟨visited,event⟩,visits,same⟩ := map_ok onward
  cases same
  have distinct : conn.outstandings.packets.Nodup := by
    refine sorted.imp fun {earlier later} ascends same => ?_
    subst same
    exact Nat.lt_irrefl _ (ascends.2 rfl)
  obtain ⟨packets,⟨-,-,records⟩,same⟩ := (walk_records.walkAcked
    ⟨List.nodup_reverse.mpr distinct,fun _ => List.mem_reverse.mp,fun _ => .inl⟩).ok walks
  dsimp only at same
  subst same
  have left := (walkAcked_matched sorted descending walks).1
  have history : visited.history = walk.conn.history :=
    congrArg Books.history ((visitPackets_visited keeps _ _ _).ok visits).books
  intro record inside
  change record ∈ visited.history at inside
  rw [history] at inside
  refine (records record inside).imp_right fun ⟨was,gone⟩ => ⟨was,?_⟩
  by_contra spared
  refine gone (List.mem_reverse.mpr ?_)
  change record.packet ∈ (finishWalk walk packets).outstandings.packets
  rw [left]
  exact List.mem_filter.mpr ⟨was,by simpa using spared⟩

private theorem handleAckForLoss_history {lossVisitor : LossVisitor} {space : PacketNumberSpace}
    {lossEvent : Option LossEvent} (keeps : VisitorKeepsBooks lossVisitor)
    (done : handleAckForLoss conn lossVisitor ack space = .ok (next,lossEvent)) {record : PacketRecord}
    (inside : record ∈ next.history) (acked : wasAcknowledged record = true) :
    record ∈ conn.history := by
  obtain ⟨⟨detected,event⟩,detects,same⟩ := map_ok done
  cases same
  have noted : (noteNewlyAcked conn space ack.largestNewlyAckedPacket).history = conn.history :=
    congrArg Books.history (noteNewlyAcked_books ..)
  have keeping : LossKeeps lossVisitor fun state =>
      ∀ record ∈ state.history, wasAcknowledged record = true → record ∈ conn.history := by
    refine ⟨fun arguments state packet distance _ holds record inside acked => ?_,
      fun _ _ _ holds => holds⟩
    rw [show (lossVisitor (countLost arguments state packet distance) packet.packet
      !(state.outstandings.needsProcess packet)).history =
        ⟨packet,.lost !(state.outstandings.needsProcess packet)⟩ :: state.history from
      congrArg Books.history (keeps _ _ _)] at inside
    rcases List.mem_cons.mp inside with rfl | old
    · cases acked
    · exact holds record old acked
  refine keeping.detectLossPackets ?_ detects record inside acked
  intro record inside _
  rw [noted] at inside
  exact inside

end Acknowledged

section Times

variable {space : PacketNumberSpace} {packets : List OutstandingPacket} {event : LossEvent}

/-- The first and the last send time of the event are those of packets that were waited for. -/
def LostTimes (space : PacketNumberSpace) (packets : List OutstandingPacket) (event : LossEvent) : Prop :=
  ∀ time, event.smallestLostSentTime = some time ∨ event.largestLostSentTime = some time →
    ∃ packet ∈ packets, packet.isOutstanding space = true ∧ packet.metadata.time = time

private theorem addLostPacket_lostTimes {packet marked : OutstandingPacket}
    (times : LostTimes space packets event) (inside : packet ∈ packets)
    (waiting : packet.isOutstanding space = true) (same : marked.metadata.time = packet.metadata.time) :
    Yields (fun _ => True) (LostTimes space packets) (event.addLostPacket marked) := by
  have either {chosen : TimePoint → TimePoint → TimePoint} {old : Option TimePoint} {time : TimePoint}
      (choice : ∀ one other, chosen one other = one ∨ chosen one other = other)
      (known : ∀ time, old = some time →
        ∃ packet ∈ packets, packet.isOutstanding space = true ∧ packet.metadata.time = time)
      (is : some (chosen marked.metadata.time (old.getD marked.metadata.time)) = some time) :
      ∃ packet ∈ packets, packet.isOutstanding space = true ∧ packet.metadata.time = time := by
    rw [← Option.some.inj is]
    rcases choice marked.metadata.time (old.getD marked.metadata.time) with own | earlier
    · exact ⟨packet,inside,waiting,same.symm.trans own.symm⟩
    · rw [earlier]
      cases old with
      | none => exact ⟨packet,inside,waiting,same.symm⟩
      | some time => exact known time rfl
  unfold LossEvent.addLostPacket
  split
  · trivial
  · rintro time (first | last)
    · exact either min_choice (fun time is => times time (.inl is)) first
    · exact either max_choice (fun time is => times time (.inr is)) last

private theorem scan_lostTimes {arguments : LossArguments} :
    ScanYields arguments (fun _ => True) fun scan now =>
      (∀ packet ∈ now, packet.declaredLost = false → packet ∈ packets) ∧
        LostTimes arguments.pnSpace packets scan.lossEvent := by
  rintro scan before packet after waiting ⟨still,times⟩
  unfold processPacketForLoss
  refine (Yields.anyway _).bind fun compared _ => ?_
  dsimp only
  split
  · exact ⟨still,times⟩
  · have here : packet ∈ packets := still packet (by simp) (waiting_of_isOutstanding waiting)
    refine (addLostPacket_lostTimes times here waiting rfl).bind fun event added => ⟨?_,added⟩
    intro other inside unlost
    simp only [List.mem_append,List.mem_cons] at inside
    rcases inside with before | rfl | after
    · exact still other (List.mem_append_left _ before) unlost
    · cases unlost
    · exact still other (List.mem_append_right _ (List.mem_cons_of_mem _ after)) unlost

private theorem detectLossPackets_lostTimes {largestAcked : Option PacketNum} {lossVisitor : LossVisitor}
    {lossTime : TimePoint} {ackEvent : Option AckEvent}
    (done : detectLossPackets conn largestAcked lossVisitor lossTime space ackEvent =
      .ok (next,some event)) : LostTimes space conn.outstandings.packets event := by
  obtain ⟨scan,scans,same⟩ := map_ok done
  have found : LostTimes space conn.outstandings.packets scan.lossEvent := by
    unfold scanOutstandings at scans
    split at scans
    next =>
      cases scans
      rintro time (none | none) <;> cases none
    next =>
      have none : LostTimes space conn.outstandings.packets {lossTime} := by
        rintro time (none | none) <;> cases none
      obtain ⟨last,packets,⟨-,times⟩,rfl⟩ := (scan_lostTimes.processOutstandingsForLoss
        ⟨fun _ inside _ => inside,none⟩).ok scans
      exact times
  unfold reportLoss at same
  dsimp only at same
  split_ifs at same
  · cases same
    exact found
  · cases same
  · cases same

end Times

private theorem isPersistentCongestion_true {pto : Microseconds} {judged : Option Microseconds}
    {start stop : TimePoint} (only : ∀ value ∈ judged, value = pto)
    (persistent : isPersistentCongestion judged start stop ack = true) :
    stop - start ≥ pto * kPersistentCongestionThreshold * 1000 ∧
      ∀ packet ∈ ack.ackedPackets, ¬(start ≤ packet.outstandingPacketMetadata.time ∧
        packet.outstandingPacketMetadata.time ≤ stop) := by
  cases judged with
  | none => cases persistent
  | some value =>
    obtain rfl := only value rfl
    unfold isPersistentCongestion at persistent
    simp only [Bool.and_eq_true,decide_eq_true_eq,List.all_eq_true,Bool.not_eq_true',
      Bool.and_eq_false_iff,decide_eq_false_iff_not] at persistent
    refine ⟨persistent.1,fun packet inside both => ?_⟩
    rcases persistent.2 packet inside with early | late
    · exact early both.1
    · exact late both.2

private theorem judgeLoss_persistent {lossEvent : Option LossEvent} {event : LossEvent}
    (judges : judgeLoss conn ack lossEvent = .ok (some event))
    (persistent : event.persistentCongestion = true) :
    ∃ found smallest largest, lossEvent = some found ∧ found.smallestLostSentTime = some smallest ∧
      found.largestLostSentTime = some largest ∧ event.smallestLostSentTime = some smallest ∧
      event.largestLostSentTime = some largest ∧
      largest - smallest ≥ calculatePTO conn * kPersistentCongestionThreshold * 1000 ∧
      ∀ packet ∈ ack.ackedPackets, ¬(smallest ≤ packet.outstandingPacketMetadata.time ∧
        packet.outstandingPacketMetadata.time ≤ largest) := by
  unfold judgeLoss at judges
  split at judges
  next found _ =>
    obtain ⟨judged,judges,same⟩ := map_ok judges
    cases same
    unfold judgeCongestion at judges
    split at judges
    next smallest largest first last =>
      cases judges
      have only : ∀ value ∈ (if conn.lossState.srtt = 0 then none else some (calculatePTO conn)),
          value = calculatePTO conn := by
        intro value chosen
        split_ifs at chosen
        · cases chosen
        · exact (Option.some.inj chosen).symm
      exact ⟨found,smallest,largest,rfl,first,last,first,last,
        isPersistentCongestion_true only persistent⟩
    next => cases judges
  next => cases judges

private theorem report_sound {handling : AckHandling} (kept : Kept conn.books)
    (undisturbed : Undisturbed conn handling.arguments) {middle : QuicConnectionState}
    (acknowledges : handling.acknowledged conn = .ok (middle,ack)) {lossEvent : Option LossEvent}
    (handles : handleAckForLoss middle handling.lossVisitor ack handling.arguments.pnSpace =
      .ok (next,lossEvent)) {event : LossEvent}
    (judges : judgeLoss next ack lossEvent = .ok (some event)) :
    ReportedLoss.Sound ⟨handling.arguments.pnSpace,event,calculatePTO next,next.history⟩ := by
  intro persistent
  obtain ⟨found,smallest,largest,rfl,foundFirst,foundLast,first,last,long,apart⟩ :=
    judgeLoss_persistent judges persistent
  have exactly := acknowledge_exact kept.ascends undisturbed.descending
    (fun conn packet frame next done =>
      congrArg (·.outstandings.packets) ((handling.keepsBooks conn packet frame).ok done)) acknowledges
  have waited : ∀ time, found.smallestLostSentTime = some time ∨ found.largestLostSentTime = some time →
      ∃ packet ∈ SentBetween.waiting conn handling.arguments, packet.metadata.time = time := by
    obtain ⟨⟨detected,_⟩,detects,same⟩ := map_ok handles
    cases same
    intro time is
    obtain ⟨packet,inside,waiting,sent⟩ := detectLossPackets_lostTimes detects time is
    rw [noteNewlyAcked_outstandings,exactly.left,List.mem_filter] at inside
    exact ⟨packet,List.mem_filter.mpr ⟨inside.1,by rw [waiting,inside.2]; rfl⟩,sent⟩
  obtain ⟨oldest,oldestWaits,oldestTime⟩ := waited smallest (.inl foundFirst)
  obtain ⟨newest,newestWaits,newestTime⟩ := waited largest (.inr foundLast)
  refine ⟨smallest,largest,first,last,fun record inside acked own within => ?_,long⟩
  have between : SentBetween conn handling.arguments record.packet.metadata.time :=
    ⟨oldest,oldestWaits,newest,newestWaits,oldestTime ▸ within.1,newestTime ▸ within.2⟩
  have known := handleAckForLoss_history handling.lossKeepsBooks handles inside acked
  rcases acknowledge_records kept.ascends undisturbed.descending handling.keepsBooks acknowledges
    record known with old | ⟨was,taken⟩
  · exact undisturbed.earlier record old acked own between
  · cases lost : record.packet.declaredLost with
    | true => exact undisturbed.spurious record.packet was lost taken between
    | false =>
      have listed : AckPacket.of record.packet ∈ ack.ackedPackets.map AckPacket.plain := by
        rw [exactly.reported]
        exact List.mem_map_of_mem (List.mem_filter.mpr ⟨was,by rw [taken,lost]; rfl⟩)
      obtain ⟨reported,here,plain⟩ := List.mem_map.mp listed
      have sent : reported.outstandingPacketMetadata = record.packet.metadata :=
        congrArg AckPacket.outstandingPacketMetadata plain
      refine apart reported here ?_
      rw [sent]
      exact within

/-- In every run of a connection that has sent nothing, all a controller is told of persistent
congestion is sound, if each time no packet sent between two that stay waited for was acknowledged
before, or is now that it was declared lost. The run is one of the transport. -/
theorem persistent_congestion_sound {conn : QuicConnectionState} (fresh : Fresh conn)
    {actions : List PacketAction} (met : StepsMeet congestionStep StepUndisturbed {conn} actions) :
    run packetStep conn actions = CongestionWatch.conn <$> run congestionStep {conn} actions ∧
      Throughout congestionStep (fun watch => ∀ report ∈ watch.reports, report.Sound) {conn}
        actions := by
  have keeps : ∀ watch action next, Kept watch.conn.books → (∀ report ∈ watch.reports, report.Sound) →
      StepUndisturbed watch action → congestionStep watch action = .ok next →
        Kept next.conn.books ∧ ∀ report ∈ next.reports, report.Sound := by
    intro watch action next kept sound undisturbed stepped
    have moved := congestionStep_conn watch action
    rw [stepped] at moved
    refine ⟨((packetStep_kept kept action).ok moved).1,?_⟩
    unfold congestionStep at stepped
    split at stepped
    next =>
      obtain ⟨_,-,rfl⟩ := map_ok stepped
      exact sound
    next handling handled =>
      obtain ⟨⟨middle,ack⟩,acknowledges,onward⟩ := bind_ok.mp stepped
      obtain ⟨⟨last,lossEvent⟩,handles,onward⟩ := bind_ok.mp onward
      obtain ⟨judged,judges,onward⟩ := bind_ok.mp onward
      obtain ⟨told,-,rfl⟩ := map_ok onward
      intro report inside
      rcases List.mem_append.mp inside with new | old
      · obtain ⟨event,given,rfl⟩ := List.mem_map.mp new
        rw [Option.mem_toList.mp given] at judges
        exact report_sound kept (undisturbed handling handled) acknowledges handles judges
      · exact sound report old
  refine ⟨?_,throughout_of_stepsMeet keeps fresh.kept (List.forall_mem_nil _) met⟩
  exact @run_simulates _ _ _ {conn} (fun _ => True) (fun _ => True) _ _ _ _ _
    (fun watch action _ _ => congestionStep_conn watch action) (fun _ _ _ _ _ _ => trivial)
    (fun _ _ => trivial) trivial

private def pingAt (time : TimePoint) : PacketAction := .handle (.send {pingPacket with sentTime := time})

private def ackAt (number : PacketNum) (time : TimePoint) : PacketAction :=
  .handle (.ackFrame ⟨.appData,{largestAcked := number, ackBlocks := [⟨number,number⟩]},time,time⟩ {})

private instance (conn : QuicConnectionState) (arguments : AckArguments) (time : TimePoint) :
    Decidable (SentBetween conn arguments time) := by
  unfold SentBetween
  infer_instance

private instance (conn : QuicConnectionState) (arguments : AckArguments) :
    Decidable (Undisturbed conn arguments) :=
  decidable_of_iff' _ (undisturbed_iff conn arguments)

private instance (watch : CongestionWatch) (action : PacketAction) :
    Decidable (StepUndisturbed watch action) :=
  inferInstanceAs (Decidable (∀ handling ∈ ackHandling watch.conn action, _))

private def fourPings : List PacketAction :=
  [pingAt 0,ackAt 0 1000000,pingAt 2000000,pingAt 20000000,pingAt 25000000,ackAt 3 26000000]

/-- The first of four pings is acknowledged at once and gives the round-trip time. When the fourth is,
the two in between are lost and the controller is told, as it should be, that congestion persists. -/
theorem persistent_congestion_sound_pings : ∃ watch,
    run congestionStep {conn := freshClient} fourPings = .ok watch ∧
      watch.reports.map (·.event.persistentCongestion) = [true] ∧
      ∀ report ∈ watch.reports, report.Sound := by
  have met : StepsMeet congestionStep StepUndisturbed {conn := freshClient} fourPings := by
    decide +kernel
  obtain ⟨watch,ran,persists⟩ : ∃ watch, run congestionStep {conn := freshClient} fourPings = .ok watch ∧
      watch.reports.map (·.event.persistentCongestion) = [true] := ⟨_,rfl,rfl⟩
  exact ⟨watch,ran,persists,throughout_iff_prefixes.mp
    (persistent_congestion_sound freshClient_fresh met).2 _ [] watch (List.append_nil _).symm ran⟩

private def betweenLosses : List PacketAction :=
  [pingAt 0,pingAt 100000,ackAt 1 1100000,pingAt 20000000,pingAt 25000000,ackAt 3 26000000]

/-- The second of four pings is acknowledged at once. When the fourth is, the first and the third are
lost, and the controller is told that nothing got through in between. -/
theorem acknowledged_between_losses : ∃ watch,
    run congestionStep {conn := freshClient} betweenLosses = .ok watch ∧
      ∃ report ∈ watch.reports, ¬report.Sound := by
  refine ⟨_,rfl,_,.head _,fun sound => ?_⟩
  obtain ⟨_,_,first,last,apart,-⟩ := sound rfl
  cases first
  cases last
  exact absurd apart (by decide +kernel)

end StreamServer.Loss
