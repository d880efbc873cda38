import StreamServer.Loss.LossSearches

/-! Packets that are declared lost because of their age. Every call of the search for losses, in any
run, leaves no packet below the largest acknowledged number that is too old, and sets the loss timer
early enough for the next one. -/
namespace StreamServer.Loss
open Protocol State Lib.Transition

def DetectionCall.delayUntilLost (call : DetectionCall) : Microseconds :=
  (max call.conn.lossState.srtt call.conn.lossState.lrtt *
    call.conn.transportSettings.timeReorderingThreshDividend).tdiv
      call.conn.transportSettings.timeReorderingThreshDivisor

structure SamePacket (packet after : OutstandingPacket) : Prop where
  number : after.number = packet.number
  space : after.space = packet.space
  time : after.metadata.time = packet.metadata.time
  event : after.associatedEvent = packet.associatedEvent

/-- What a call of the search comes to, for a largest acknowledged number. -/
structure Timely (call : DetectionCall) (largestAcked : PacketNum) (after : QuicConnectionState) :
    Prop where
  young : ∀ packet ∈ after.outstandings.packets, packet.isOutstanding call.pnSpace = true →
    packet.number < largestAcked → call.lossTime - packet.metadata.time ≤ call.delayUntilLost * 1000
  spared : List.Forall₂ (fun packet after => SamePacket packet after ∧
      (after.declaredLost = true → packet.declaredLost = true ∨
        (packet.space = call.pnSpace ∧ packet.number < largestAcked)))
    call.conn.outstandings.packets after.outstandings.packets
  timer : (after.lossState.lossTimes call.pnSpace).isSome = true ↔
    (∃ packet ∈ after.outstandings.packets, packet.isOutstanding call.pnSpace = true ∧
      packet.number < largestAcked) ∧
    ∃ packet ∈ after.outstandings.packets, packet.isOutstanding call.pnSpace = true ∧
      after.outstandings.needsProcess packet = true
  early : ∀ time ∈ after.lossState.lossTimes call.pnSpace,
    ∀ packet ∈ after.outstandings.packets, packet.isOutstanding call.pnSpace = true →
      after.outstandings.needsProcess packet = true → packet.number < largestAcked →
      time ≤ packet.metadata.time + call.delayUntilLost * 1000

section Scan

variable {arguments : LossArguments} {scan next : LossScan}

structure Aged (arguments : LossArguments) (packet after : OutstandingPacket) : Prop
    extends SamePacket packet after where
  spared : after.declaredLost = true → packet.declaredLost = true ∨
    (packet.space = arguments.pnSpace ∧ packet.number < arguments.largestAcked)
  young : after.isOutstanding arguments.pnSpace = true → after.number < arguments.largestAcked →
    lostByTimeout arguments after = false

private theorem SamePacket.refl (packet : OutstandingPacket) : SamePacket packet packet :=
  ⟨rfl,rfl,rfl,rfl⟩

private theorem processPacketForLoss_cases {packet after : OutstandingPacket}
    (keeps : VisitorKeepsBooks arguments.lossVisitor)
    (done : processPacketForLoss arguments scan packet = .ok (next,after)) :
    next.conn.lossState.lossTimes = scan.conn.lossState.lossTimes ∧
      ((after = packet ∧ lostByTimeout arguments packet = false ∧ next.shouldSetTimer = true) ∨
        (SamePacket packet after ∧ after.declaredLost = true ∧
          next.shouldSetTimer = scan.shouldSetTimer)) := by
  obtain ⟨⟨largest,current⟩,-,onward⟩ := bind_ok.mp done
  dsimp only at onward
  split at onward
  next kept =>
    cases onward
    simp only [Bool.not_eq_true',Bool.or_eq_false_iff] at kept
    exact ⟨rfl,.inl ⟨rfl,kept.1,rfl⟩⟩
  next =>
    obtain ⟨lossEvent,-,same⟩ := bind_ok.mp onward
    cases same
    refine ⟨?_,.inr ⟨⟨rfl,rfl,rfl,rfl⟩,rfl,rfl⟩⟩
    exact (congrArg Books.lossTimes (keeps _ _ _)).trans rfl

/-- The scan goes through all packets below the largest acknowledged number, since the packets are
sorted by number over all spaces. -/
private theorem scanForLoss_aged (keeps : VisitorKeepsBooks arguments.lossVisitor)
    {packets rest : List OutstandingPacket}
    (sorted : packets.Pairwise fun first second => first.number ≤ second.number)
    (done : scanForLoss arguments scan packets = .ok (next,rest)) :
    List.Forall₂ (Aged arguments) packets rest ∧
      next.conn.lossState.lossTimes = scan.conn.lossState.lossTimes ∧
      (next.shouldSetTimer = true ↔ scan.shouldSetTimer = true ∨
        ∃ packet ∈ rest, packet.isOutstanding arguments.pnSpace = true ∧
          packet.number < arguments.largestAcked) := by
  induction packets generalizing scan next rest with
  | nil =>
    cases done
    exact ⟨.nil,rfl,by simp⟩
  | cons packet later ih =>
    obtain ⟨first,sorted⟩ := List.pairwise_cons.mp sorted
    unfold scanForLoss at done
    split at done
    next above =>
      cases done
      have beyond : ∀ other ∈ packet :: later, ¬other.number < arguments.largestAcked := by
        refine List.forall_mem_cons.mpr ⟨Nat.not_lt.mpr above,fun other inside => ?_⟩
        exact Nat.not_lt.mpr (Nat.le_trans above (first other inside))
      refine ⟨List.forall₂_same.mpr fun other inside => ?_,rfl,?_⟩
      · exact ⟨.refl other,.inl,fun _ below => absurd below (beyond other inside)⟩
      · refine (or_iff_left ?_).symm
        rintro ⟨other,inside,-,below⟩
        exact beyond other inside below
    next below =>
      split at done
      next passed =>
        obtain ⟨⟨scanned,rest'⟩,onward,same⟩ := bind_ok.mp done
        cases same
        obtain ⟨aged,times,timer⟩ := ih sorted onward
        have outside : packet.isOutstanding arguments.pnSpace = false := by simpa using passed
        refine ⟨.cons ⟨.refl packet,.inl,fun here => ?_⟩ aged,times,?_⟩
        · rw [outside] at here
          cases here
        · rw [timer]
          simp [outside]
      next found =>
        obtain ⟨⟨middle,after⟩,processed,scans⟩ := bind_ok.mp done
        obtain ⟨⟨scanned,rest'⟩,onward,same⟩ := bind_ok.mp scans
        cases same
        obtain ⟨aged,times,timer⟩ := ih sorted onward
        obtain ⟨kept,outcome⟩ := processPacketForLoss_cases keeps processed
        have here : packet.isOutstanding arguments.pnSpace = true := by simpa using found
        have low : packet.number < arguments.largestAcked := Nat.lt_of_not_le below
        refine ⟨.cons ?_ aged,times.trans kept,?_⟩
        · rcases outcome with ⟨rfl,young,-⟩ | ⟨same,lost,-⟩
          · exact ⟨.refl after,.inl,fun _ _ => young⟩
          · refine ⟨same,fun _ => .inr ⟨?_,low⟩,fun waits => ?_⟩
            · unfold OutstandingPacket.isOutstanding at here
              simp only [Bool.and_eq_true,beq_iff_eq] at here
              exact here.2
            · unfold OutstandingPacket.isOutstanding at waits
              rw [lost] at waits
              cases waits
        · rw [timer]
          rcases outcome with ⟨rfl,-,sets⟩ | ⟨-,lost,sets⟩
          · refine iff_of_true (.inl sets) (.inr ⟨after,List.mem_cons_self ..,here,low⟩)
          · have gone : after.isOutstanding arguments.pnSpace = false := by
              unfold OutstandingPacket.isOutstanding
              rw [lost]
              rfl
            rw [sets]
            simp [gone]

private theorem processOutstandingsForLoss_aged (keeps : VisitorKeepsBooks arguments.lossVisitor)
    {conn : QuicConnectionState} {lossEvent : LossEvent}
    (sorted : conn.outstandings.packets.Pairwise fun first second => first.number ≤ second.number)
    (done : processOutstandingsForLoss arguments conn lossEvent = .ok next) :
    List.Forall₂ (Aged arguments) conn.outstandings.packets next.conn.outstandings.packets ∧
      next.conn.lossState.lossTimes = conn.lossState.lossTimes ∧
      (next.shouldSetTimer = true ↔ ∃ packet ∈ next.conn.outstandings.packets,
        packet.isOutstanding arguments.pnSpace = true ∧ packet.number < arguments.largestAcked) := by
  obtain ⟨⟨scanned,rest⟩,scans,same⟩ := bind_ok.mp done
  cases same
  have whole := List.takeWhile_append_dropWhile
    (p := fun packet : OutstandingPacket => !packet.isOutstanding arguments.pnSpace)
    (l := conn.outstandings.packets)
  have skipped : ∀ packet ∈ conn.outstandings.packets.takeWhile
      (fun packet => !packet.isOutstanding arguments.pnSpace),
      packet.isOutstanding arguments.pnSpace = false := by
    intro packet inside
    simpa using List.mem_takeWhile_imp inside
  obtain ⟨aged,times,timer⟩ :=
    scanForLoss_aged keeps (sorted.sublist (List.dropWhile_sublist _)) scans
  refine ⟨?_,times,?_⟩
  · have front := List.forall₂_same.mpr fun packet inside =>
      (⟨.refl packet,.inl,fun here => by rw [skipped packet inside] at here; cases here⟩ :
        Aged arguments packet packet)
    have both := List.rel_append front aged
    dsimp only at both
    rw [whole] at both
    exact both
  · rw [timer]
    simp only [Bool.false_eq_true,false_or]
    constructor
    · rintro ⟨packet,inside,waits⟩
      exact ⟨packet,List.mem_append_right _ inside,waits⟩
    · rintro ⟨packet,inside,waits,below⟩
      rcases List.mem_append.mp inside with front | back
      · rw [skipped packet front] at waits
        cases waits
      · exact ⟨packet,back,waits,below⟩

end Scan

/-- Within a space the send times do not decrease with the numbers. -/
def SteadyTimes (packets : List OutstandingPacket) : Prop :=
  ∀ first ∈ packets, ∀ second ∈ packets, first.space = second.space →
    first.number < second.number → first.metadata.time ≤ second.metadata.time

def numberedTime (packet : OutstandingPacket) : PacketNumberSpace × TimePoint :=
  (packet.space,packet.metadata.time)

private theorem same_times {before after : List OutstandingPacket}
    (same : List.Forall₂ SamePacket before after) :
    after.map numberedTime = before.map numberedTime := by
  induction same with
  | nil => rfl
  | cons first _ ih =>
    rw [List.map_cons,List.map_cons,ih,numberedTime,numberedTime,first.space,first.time]

private theorem earliest_le {packets : List OutstandingPacket} {chosen : OutstandingPacket → Bool}
    {space : PacketNumberSpace} {earliest packet : OutstandingPacket}
    (own : ∀ packet, chosen packet = true → packet.space = space)
    (times : (packets.map numberedTime).Pairwise fun first second =>
      first.1 = second.1 → first.2 ≤ second.2)
    (found : packets.find? chosen = some earliest) (inside : packet ∈ packets)
    (waits : chosen packet = true) : earliest.metadata.time ≤ packet.metadata.time := by
  obtain ⟨here,front,back,rfl,skipped⟩ := List.find?_eq_some_iff_append.mp found
  rcases List.mem_append.mp inside with before | after
  · have passed := skipped packet before
    rw [waits] at passed
    cases passed
  · rcases List.mem_cons.mp after with rfl | later
    · exact Int.le_refl _
    · have ordered := (List.pairwise_append.mp (List.pairwise_map.mp times)).2.1
      exact (List.pairwise_cons.mp ordered).1 packet later ((own _ here).trans (own _ waits).symm)

/-- The packets are sorted by number over all spaces, and no two of a space have one number. -/
structure InNumberOrder (packets : List OutstandingPacket) : Prop where
  sorted : packets.Pairwise fun first second => first.number ≤ second.number
  distinct : packets.Pairwise fun first second =>
    (first.space,first.number) ≠ (second.space,second.number)

variable {call : DetectionCall} {largestAcked : PacketNum}
  {result : QuicConnectionState × Option LossEvent} {arguments : AckArguments}
  {ackVisitor : AckVisitor}

private theorem result_scan (acked : call.largestAcked = some largestAcked)
    (done : call.result = .ok result) :
    ∃ arguments scan,
      arguments.pnSpace = call.pnSpace ∧ arguments.largestAcked = largestAcked ∧
      arguments.lossTime = call.lossTime ∧ arguments.delayUntilLost = call.delayUntilLost ∧
      arguments.lossVisitor = call.lossVisitor ∧
      processOutstandingsForLoss arguments (clearLossTime call.conn call.pnSpace)
        {lossTime := call.lossTime} = .ok scan ∧
      result.1.outstandings = scan.conn.outstandings ∧
      result.1.lossState.lossTimes = (setLossTime scan.conn call.pnSpace call.delayUntilLost
        scan.shouldSetTimer).lossState.lossTimes := by
  obtain ⟨scan,scans,same⟩ := map_ok done
  rw [acked] at scans
  refine ⟨_,scan,rfl,rfl,rfl,rfl,rfl,scans,?_⟩
  rw [← same]
  have kept : (setLossTime scan.conn call.pnSpace call.delayUntilLost
      scan.shouldSetTimer).outstandings = scan.conn.outstandings := by
    unfold setLossTime
    split <;> rfl
  unfold reportLoss
  split
  · exact ⟨kept,rfl⟩
  · exact ⟨kept,rfl⟩

theorem DetectionCall.timely (keeps : VisitorKeepsBooks call.lossVisitor)
    (ordered : InNumberOrder call.conn.outstandings.packets)
    (steady : SteadyTimes call.conn.outstandings.packets)
    (acked : call.largestAcked = some largestAcked) (done : call.result = .ok result) :
    Timely call largestAcked result.1 := by
  obtain ⟨arguments,scan,space,largest,lossTime,delay,visitor,scans,packets,times⟩ :=
    result_scan acked done
  have sorted : (clearLossTime call.conn call.pnSpace).outstandings.packets.Pairwise
      fun first second => first.number ≤ second.number := ordered.sorted
  obtain ⟨aged,cleared,timer⟩ := processOutstandingsForLoss_aged (visitor ▸ keeps) sorted scans
  rw [← packets,space,largest] at timer
  change List.Forall₂ (Aged arguments) call.conn.outstandings.packets _ at aged
  rw [← packets] at aged
  have waits : ∀ packet : OutstandingPacket, (packet.isOutstanding call.pnSpace &&
      result.1.outstandings.needsProcess packet) = true → packet.space = call.pnSpace := by
    intro packet chosen
    unfold OutstandingPacket.isOutstanding at chosen
    simp only [Bool.and_eq_true,beq_iff_eq] at chosen
    exact chosen.1.2
  have inOrder : (result.1.outstandings.packets.map numberedTime).Pairwise fun first second =>
      first.1 = second.1 → first.2 ≤ second.2 := by
    rw [same_times (aged.imp fun _ _ old => old.toSamePacket)]
    refine List.pairwise_map.mpr ((ordered.sorted.and ordered.distinct).imp_of_mem ?_)
    intro first second inside there both own
    refine steady first inside second there own (Nat.lt_of_le_of_ne both.1 fun same => ?_)
    exact both.2 (Prod.ext own same)
  have lossTime_eq : result.1.lossState.lossTimes call.pnSpace =
      if scan.shouldSetTimer = true then
        (result.1.outstandings.packets.find? fun packet => packet.isOutstanding call.pnSpace &&
          result.1.outstandings.needsProcess packet).map
            fun packet => call.delayUntilLost * 1000 + packet.metadata.time
      else none := by
    have none : scan.conn.lossState.lossTimes call.pnSpace = none := by
      rw [cleared]
      exact Function.update_self ..
    rw [times,packets]
    unfold setLossTime
    split_ifs with set
    · dsimp only
      rw [Function.update_self,none,Option.or_none]
    · exact none
  refine ⟨?_,?_,?_,?_⟩
  · intro packet inside here below
    obtain ⟨before,-,old⟩ := exists_examined aged packet inside
    have young := old.young (space ▸ here) (largest ▸ below)
    unfold lostByTimeout at young
    rw [lossTime,delay,decide_eq_false_iff_not,not_lt] at young
    exact young
  · refine aged.imp fun _ _ old => ⟨old.toSamePacket,fun lost => ?_⟩
    rw [← space,← largest]
    exact old.spared lost
  · rw [lossTime_eq]
    split_ifs with set
    · rw [Option.isSome_map,List.find?_isSome]
      simp only [timer.mp set,true_and,Bool.and_eq_true]
    · refine iff_of_false (by simp) fun both => set (timer.mpr both.1)
  · intro time sets packet inside here processing below
    rw [lossTime_eq] at sets
    split_ifs at sets with set
    · obtain ⟨earliest,found,rfl⟩ := Option.map_eq_some_iff.mp sets
      have oldest := earliest_le waits inOrder found inside (by rw [here,processing]; rfl)
      rw [Int.add_comm]
      exact Int.add_le_add_right oldest _
    · cases sets

private theorem Kept.inNumberOrder {conn : QuicConnectionState} (kept : Kept conn.books) :
    InNumberOrder conn.outstandings.packets :=
  ⟨kept.counters.sorted,List.pairwise_map.mp kept.counters.distinct⟩

private theorem acknowledge_inNumberOrder {conn next : QuicConnectionState} {ack : AckEvent}
    (kept : Kept conn.books) (keeps : AckVisitorKeepsBooks ackVisitor)
    (done : acknowledge arguments ackVisitor conn = .ok (next,ack)) :
    InNumberOrder next.outstandings.packets := by
  obtain ⟨⟨walk,walkedConn⟩,walks,onward⟩ := bind_ok.mp done
  obtain ⟨⟨visited,event⟩,visits,same⟩ := map_ok onward
  cases same
  obtain ⟨walked,-⟩ := (walkAcked_walked arguments conn).ok walks
  have books := ((visitPackets_visited keeps _ _ _).ok visits).books
  have packets : visited.outstandings.packets = walkedConn.outstandings.packets :=
    congrArg (fun books => books.outstandings.packets) books
  show InNumberOrder visited.outstandings.packets
  rw [packets]
  have ordered := (walked.moves.sound kept.sound).1.ordered
  refine ⟨(List.pairwise_map.mp ordered.sorted).imp id,?_⟩
  refine (List.pairwise_map.mp ordered.distinct).imp ?_
  intro first second apart same
  obtain ⟨sameSpace,sameNumber⟩ := Prod.mk.inj same
  exact apart (by simp only [tag,sameSpace,sameNumber])

private theorem detection_inNumberOrder {conn : QuicConnectionState} (kept : Kept conn.books)
    {action : PacketAction} (called : detection conn action = some call) :
    InNumberOrder call.conn.outstandings.packets ∧ VisitorKeepsBooks call.lossVisitor := by
  rcases detection_call called with ⟨handling,acknowledged,done,rfl⟩ | ⟨now,rfl⟩
  · refine ⟨?_,handling.lossKeepsBooks⟩
    show InNumberOrder (noteNewlyAcked acknowledged.1 handling.arguments.pnSpace
      acknowledged.2.largestNewlyAckedPacket).outstandings.packets
    rw [noteNewlyAcked_outstandings]
    exact acknowledge_inNumberOrder kept handling.keepsBooks done
  · exact ⟨kept.inNumberOrder,markPacketLoss_keepsBooks⟩

/-- Every search for losses in every run is timely, as long as the send times do not decrease with
the packet numbers. -/
theorem time_threshold_timely {start conn : QuicConnectionState} (fresh : Fresh start)
    {actions : List PacketAction} (ran : run packetStep start actions = .ok conn)
    {action : PacketAction} {call : DetectionCall} (called : detection conn action = some call)
    (steady : SteadyTimes call.conn.outstandings.packets) {largestAcked : PacketNum}
    (acked : call.largestAcked = some largestAcked) {result : QuicConnectionState × Option LossEvent}
    (done : call.result = .ok result) : Timely call largestAcked result.1 := by
  have kept : Kept conn.books := ((packetRun_kept fresh actions).ok ran).1
  obtain ⟨ordered,keeps⟩ := detection_inNumberOrder kept called
  exact call.timely keeps ordered steady acked done

private def ackSecond : PacketAction :=
  .handle (.ackFrame ⟨.appData,{largestAcked := 1, ackBlocks := [⟨1,1⟩]},1000,1000⟩ {})

/-- Two pings are sent and the second is acknowledged. -/
theorem time_threshold_timely_pings : ∃ conn call result,
    run packetStep freshClient [.handle (.send pingPacket),.handle (.send pingPacket)] = .ok conn ∧
      detection conn ackSecond = some call ∧
      call.result = .ok result ∧ Timely call 1 result.1 := by
  obtain ⟨conn,call,result,ran,called,steady,acked,done⟩ : ∃ conn call result,
      run packetStep freshClient [.handle (.send pingPacket),.handle (.send pingPacket)] = .ok conn ∧
        detection conn ackSecond = some call ∧ SteadyTimes call.conn.outstandings.packets ∧
        call.largestAcked = some 1 ∧ call.result = .ok result :=
    ⟨_,_,_,rfl,rfl,by unfold SteadyTimes; decide +kernel,rfl,rfl⟩
  exact ⟨conn,call,result,ran,called,done,
    time_threshold_timely freshClient_fresh ran called steady acked done⟩

end StreamServer.Loss
