import StreamServer.Loss.Sending
import StreamServer.Api.PacketRebuilder

/-! The transport as far as it concerns sent packets: it sends, clones, and handles
acknowledgements, loss timers and the end of the handshake, in any order. Along every run from a
fresh connection the counters are right, every family is processed once and the bytes in flight
are those of the packets not declared lost. -/
namespace StreamServer.Loss
open Protocol State Congestion Api Lib.Outcome Lib.Transition

variable {conn : QuicConnectionState}

def numbered (number : PacketNum) : PacketHeader → PacketHeader
  | .long header => .long {header with packetSequenceNum := number}
  | .short header => .short {header with packetSequenceNum := number}

@[simp] theorem numbered_number (number : PacketNum) (header : PacketHeader) :
    (numbered number header).getPacketSequenceNum = number := by
  cases header <;> rfl

@[simp] theorem numbered_space (number : PacketNum) (header : PacketHeader) :
    (numbered number header).getPacketNumberSpace = header.getPacketNumberSpace := by
  cases header <;> rfl

@[simp] theorem numbered_protectionType (number : PacketNum) (header : PacketHeader) :
    (numbered number header).getProtectionType = header.getProtectionType := by
  cases header <;> rfl

structure SentPacket where
  header : PacketHeader
  frames : List QuicWriteFrame
  sentTime : TimePoint
  encodedSize : UInt32
  encodedBodySize : UInt32

/-- What reading from and writing to the socket do to the packets. -/
inductive HandlerAction where
  | send (packet : SentPacket)
  | sendDsr (header : ShortHeader) (packet : SentPacket)
  | clone (index : Nat) (packet : SentPacket) (writableBytes cipherOverhead : Nat) (written : Bool)
  | skipNumber (space : PacketNumberSpace)
  | ackFrame (arguments : AckArguments) (readings : Readings)
  | clear (time : TimePoint) (space : PacketNumberSpace)
  | implicitAck (level : EncryptionLevel) (now nowTime : TimePoint) (readings : Readings)
  | zeroRttRejected (now : TimePoint)
  | elsewhere (other : QuicConnectionState)

inductive PacketAction where
  | handle (action : HandlerAction)
  | alarm (now : TimePoint) (readings : Readings)

def withBooks (conn : QuicConnectionState) (books : Books) : QuicConnectionState :=
  {conn with
    outstandings := books.outstandings
    history := books.history
    inflightSubtractions := books.inflightSubtractions
    congestionController := books.congestionController
    ackStates := fun space => {conn.ackStates space with nextPacketNum := books.nextPacketNum space}
    lossState := {conn.lossState with
      inflightBytes := books.inflightBytes
      lossTimes := books.lossTimes
      currentAlarmMethod := books.currentAlarmMethod}
    pendingEvents := {conn.pendingEvents with
      setLossDetectionAlarm := books.setLossDetectionAlarm}
    oneRttWriteCipher := books.oneRttWriteCipher}

/-- A packet with the next number of the space its header names. -/
def sendPacket (conn : QuicConnectionState) (packetEvent : Option PacketEvent) (packet : SentPacket)
    (isDSRPacket : Bool) : Except Error QuicConnectionState :=
  let number := getNextPacketNum conn packet.header.getPacketNumberSpace
  updateConnection conn packetEvent ⟨numbered number packet.header,packet.frames⟩ packet.sentTime
    packet.encodedSize packet.encodedBodySize isDSRPacket

/-- Packets the cloning scheduler passes over are not cloned. A clone that was prepared may still
not be written. -/
def clonePacket (conn : QuicConnectionState) (index : Nat) (packet : SentPacket)
    (writableBytes cipherOverhead : Nat) (written : Bool) : Except Error QuicConnectionState :=
  match conn.outstandings.packets.drop index with
  | [] => .ok conn
  | original :: after =>
    if CloningScheduler.cloneable conn.outstandings packet.header.getPacketNumberSpace writableBytes
        cipherOverhead original then
      let (event,cloned,outstandings) :=
        PacketRebuilder.cloneOutstandingPacket conn.outstandings original
      let prepared := {conn with outstandings := {outstandings with
        packets := conn.outstandings.packets.take index ++ cloned :: after}}
      if written then sendPacket prepared (some event) packet false else .ok prepared
    else .ok conn

/-- Everything but the books may change in between, the controller too, and the keys for
application data may become available. -/
def changeElsewhere (conn other : QuicConnectionState) : QuicConnectionState :=
  withBooks other {conn.books with
    congestionController := conn.congestionController.map fun controller =>
      other.congestionController.getD controller
    oneRttWriteCipher := conn.oneRttWriteCipher || other.oneRttWriteCipher}

def handlerStep (conn : QuicConnectionState) : HandlerAction → Except Error QuicConnectionState
  | .send packet => sendPacket conn none packet false
  | .sendDsr header packet => sendPacket conn none {packet with header := .short header} true
  | .clone index packet writableBytes cipherOverhead written =>
    clonePacket conn index packet writableBytes cipherOverhead written
  | .skipNumber space => .ok (increaseNextPacketNum conn space)
  | .ackFrame arguments readings => do
    let (conn,_) ← processAckFrame conn arguments (clientAckVisitor arguments.pnSpace)
      markPacketLoss readings
    return conn
  | .clear time space => .ok (clearOldOutstandingPackets conn time space)
  | .implicitAck level now nowTime readings =>
    implicitAckCryptoStream conn level now nowTime readings
  | .zeroRttRejected now => markZeroRttPacketsLost conn markPacketLoss now
  | .elsewhere other => .ok (changeElsewhere conn other)

def packetStep (conn : QuicConnectionState) : PacketAction → Except Error QuicConnectionState
  | .handle action => handlerStep conn action
  | .alarm now readings => onLossDetectionAlarm conn markPacketLoss now readings

/-- Nothing has been sent yet. -/
structure Fresh (conn : QuicConnectionState) : Prop where
  outstandings : conn.outstandings = {}
  history : conn.history = []
  inflight : conn.lossState.inflightBytes = 0
  log : conn.inflightSubtractions = []

private theorem empty_sound (next : PacketNumberSpace → PacketNum) :
    Sound next {outstandings := {}, history := []} where
  ordered :=
    have noTag : ∀ {goal : Tag → Prop}, ∀ tag ∈ ([] : List Tag), goal tag :=
      fun _ inside => absurd inside List.not_mem_nil
    ⟨.nil,.nil,noTag,noTag,noTag,fun _ inside => absurd inside (Finset.notMem_empty _),noTag,noTag⟩
  counted := ⟨rfl,rfl,⟨fun _ => rfl,fun _ => rfl,fun _ inside => absurd inside List.not_mem_nil⟩⟩
  families := ⟨fun _ inside => absurd inside List.not_mem_nil,
    fun _ inside => absurd inside (Finset.notMem_empty _),
    fun _ inside => absurd inside (Finset.notMem_empty _),
    fun _ inside => absurd inside List.not_mem_nil,trivial⟩

theorem Fresh.kept (fresh : Fresh conn) : Kept conn.books := by
  have ledger : restingLedger conn.books = {outstandings := {}, history := []} := by
    simp only [restingLedger,QuicConnectionState.books,fresh.outstandings,fresh.history]
  refine ⟨?_,fun _ => ?_,fun _ => ?_,?_⟩
  · rw [ledger]
    exact empty_sound _
  · change conn.lossState.inflightBytes = flightBytes conn.outstandings.packets
    rw [fresh.inflight,fresh.outstandings]
    rfl
  · change conn.lossState.inflightBytes < _
    rw [fresh.inflight]
    norm_num
  · change ∀ pair ∈ conn.inflightSubtractions, _
    rw [fresh.log]
    exact List.forall_mem_nil _

/-- Books that are kept, with a controller exactly if there was one. -/
def StepKeeps (start next : Books) : Prop :=
  Kept next ∧ next.congestionController.isSome = start.congestionController.isSome

theorem StepKeeps.of_handled {start next : Books} (handled : Handled start next) :
    StepKeeps start next :=
  ⟨handled.kept,handled.controller⟩

private theorem sendPacket_kept (kept : Kept conn.books)
    {packetEvent : Option PacketEvent} (packet : SentPacket) {isDSRPacket : Bool}
    (clone : ∀ event, packetEvent = some event → event ∈ conn.outstandings.packetEvents ∧
      event.packetNumberSpace = packet.header.getPacketNumberSpace)
    (dsrKey : isDSRPacket = true → packet.header.getProtectionType ≠ .zeroRtt) :
    Yields Tolerable (fun next => StepKeeps conn.books next.books)
      (sendPacket conn packetEvent packet isDSRPacket) := by
  refine (updateConnection_sent kept ?_ ?_ ?_).mono fun next sent => ⟨sent.kept,sent.controller⟩
  · rw [numbered_number,numbered_space]
    rfl
  · rw [numbered_space]
    exact clone
  · rw [numbered_protectionType]
    exact dsrKey

private theorem short_protectionType (header : ShortHeader) :
    (PacketHeader.short header).getProtectionType ≠ .zeroRtt := by
  unfold PacketHeader.getProtectionType
  dsimp only
  split <;> exact nofun

theorem prepared_kept (kept : Kept conn.books)
    {packet : OutstandingPacket} {before after : List OutstandingPacket}
    (found : conn.outstandings.packets = before ++ packet :: after)
    (alone : packet.associatedEvent = none) (waiting : packet.declaredLost = false) :
    Kept (QuicConnectionState.books {conn with
      outstandings := cloneTagged conn.outstandings packet before after}) where
  sound := @Sound.cloned _ (restingLedger conn.books) _ _ _ kept.sound found alone waiting
  flight controlled := by
    refine (kept.flight controlled).trans ?_
    change flightBytes conn.outstandings.packets = flightBytes (before ++ tagged packet :: after)
    rw [found,flightBytes_remove,flightBytes_remove]
    rfl
  bound := kept.bound
  log := kept.log

theorem cloneable_facts {outstandings : OutstandingsInfo} {space : PacketNumberSpace}
    {writableBytes cipherOverhead : Nat} {packet : OutstandingPacket}
    (able : CloningScheduler.cloneable outstandings space writableBytes cipherOverhead packet) :
    packet.declaredLost = false ∧ packet.space = space ∧
      ∀ event, packet.associatedEvent = some event → event ∈ outstandings.packetEvents := by
  simp only [CloningScheduler.cloneable,Bool.and_eq_true,Bool.not_eq_true',beq_iff_eq,
    Option.all_eq_true,decide_eq_true_eq] at able
  obtain ⟨⟨⟨⟨waiting,_⟩,space⟩,pending⟩,_⟩ := able
  exact ⟨waiting,space,pending⟩

/-- How a clone is prepared: a packet that waits is given the event of its family, or has it. -/
inductive Prepares (conn : QuicConnectionState) (space : PacketNumberSpace) :
    PacketEvent → QuicConnectionState → Prop
  | tagged {packet : OutstandingPacket} {before after : List OutstandingPacket}
      (found : conn.outstandings.packets = before ++ packet :: after)
      (alone : packet.associatedEvent = none) (waiting : packet.declaredLost = false)
      (own : packet.space = space) :
      Prepares conn space ⟨packet.space,packet.number⟩
        {conn with outstandings := cloneTagged conn.outstandings packet before after}
  | known {packet : OutstandingPacket} {event : PacketEvent}
      (inside : packet ∈ conn.outstandings.packets) (family : packet.associatedEvent = some event)
      (pending : event ∈ conn.outstandings.packetEvents) (own : packet.space = space) :
      Prepares conn space event conn

variable {index writableBytes cipherOverhead : Nat} {packet : SentPacket} {written : Bool}

theorem clonePacket_cases :
    clonePacket conn index packet writableBytes cipherOverhead written = .ok conn ∨
      ∃ event prepared, Prepares conn packet.header.getPacketNumberSpace event prepared ∧
        clonePacket conn index packet writableBytes cipherOverhead written =
          if written then sendPacket prepared (some event) packet false else .ok prepared := by
  unfold clonePacket
  cases rest : conn.outstandings.packets.drop index with
  | nil => exact .inl rfl
  | cons original after =>
    have found : conn.outstandings.packets =
        conn.outstandings.packets.take index ++ original :: after := by
      rw [← rest,List.take_append_drop]
    dsimp only
    split
    · next able =>
      obtain ⟨waiting,own,pending⟩ := cloneable_facts able
      refine .inr ?_
      cases event : original.associatedEvent with
      | none =>
        refine ⟨_,_,.tagged found event waiting own,?_⟩
        simp only [PacketRebuilder.cloneOutstandingPacket,event]
        rfl
      | some known =>
        have inside : original ∈ conn.outstandings.packets :=
          found ▸ List.mem_append_right _ (List.mem_cons_self ..)
        refine ⟨_,_,.known inside event (pending known event) own,?_⟩
        simp only [PacketRebuilder.cloneOutstandingPacket,event,← found]
    · exact .inl rfl

private theorem clonePacket_kept (kept : Kept conn.books) :
    Yields Tolerable (fun next => StepKeeps conn.books next.books)
      (clonePacket conn index packet writableBytes cipherOverhead written) := by
  obtain same | ⟨event,prepared,prepares,same⟩ := clonePacket_cases <;> rw [same]
  · exact ⟨kept,rfl⟩
  · cases prepares with
    | tagged found alone waiting own =>
      have prepared := prepared_kept kept found alone waiting
      split
      · refine (sendPacket_kept prepared packet ?_
          (fun dsr => absurd dsr Bool.false_ne_true)).mono fun _ sent => sent
        rintro _ ⟨⟩
        exact ⟨Finset.mem_insert_self _ _,own⟩
      · exact ⟨prepared,rfl⟩
    | known inside family pending own =>
      split
      · refine sendPacket_kept kept packet ?_ (fun dsr => absurd dsr Bool.false_ne_true)
        rintro _ ⟨⟩
        have space := kept.sound.ordered.eventSpace _ (List.mem_map_of_mem inside) _ family
        exact ⟨pending,space.trans own⟩
      · exact ⟨kept,rfl⟩

private theorem changeElsewhere_kept (kept : Kept conn.books)
    (other : QuicConnectionState) :
    StepKeeps conn.books (changeElsewhere conn other).books := by
  have controlled : ∀ change : CongestionController → CongestionController,
      (conn.congestionController.map change).isSome = conn.books.congestionController.isSome :=
    fun change => Option.isSome_map
  refine ⟨⟨kept.sound,fun some => ?_,fun some => ?_,kept.log⟩,controlled _⟩
  · exact kept.flight ((controlled _).symm.trans some)
  · exact kept.bound ((controlled _).symm.trans some)

theorem handlerStep_kept (kept : Kept conn.books)
    (action : HandlerAction) :
    Yields Tolerable (fun next => StepKeeps conn.books next.books) (handlerStep conn action) := by
  cases action with
  | send packet => exact sendPacket_kept kept packet nofun (fun dsr => absurd dsr Bool.false_ne_true)
  | sendDsr header packet =>
    exact sendPacket_kept kept {packet with header := .short header} nofun
      fun _ => short_protectionType header
  | clone index packet writableBytes cipherOverhead written =>
    exact clonePacket_kept kept
  | skipNumber space =>
    have sent := increaseNextPacketNum_sent kept space false
    exact ⟨sent.kept,sent.controller⟩
  | ackFrame arguments readings =>
    apply (processAckFrame_handled kept (clientAckVisitor_books arguments.pnSpace)
      markPacketLoss_keepsBooks arguments readings).bind
    rintro ⟨acked,_⟩ ⟨handled,_⟩
    exact .of_handled handled
  | clear time space =>
    exact .of_handled (clearOldOutstandingPackets_handled time space kept).1
  | implicitAck level now nowTime readings =>
    exact (implicitAckCryptoStream_handled kept level now nowTime readings).mono
      fun _ done => .of_handled done.1
  | zeroRttRejected now =>
    exact (markZeroRttPacketsLost_handled kept markPacketLoss_keepsBooks now).mono
      fun _ done => .of_handled done.1
  | elsewhere other => exact changeElsewhere_kept kept other

theorem packetStep_kept (kept : Kept conn.books)
    (action : PacketAction) :
    Yields Tolerable (fun next => StepKeeps conn.books next.books) (packetStep conn action) := by
  cases action with
  | handle action => exact handlerStep_kept kept action
  | alarm now readings =>
    exact (onLossDetectionAlarm_handled kept markPacketLoss_keepsBooks now readings).mono
      fun _ done => .of_handled done.1

theorem packetRun_kept (fresh : Fresh conn)
    (actions : List PacketAction) :
    Yields Tolerable (fun last => StepKeeps conn.books last.books)
      (run packetStep conn actions) := by
  refine Yields.run (fun state action keeps => ?_) ⟨fresh.kept,rfl⟩ actions
  exact (packetStep_kept keeps.1 action).mono fun _ next => ⟨next.1,next.2.trans keeps.2⟩

/-- The counters say what the list of outstanding packets holds. -/
structure CountersRight (outstandings : OutstandingsInfo) : Prop where
  sorted : outstandings.packets.Pairwise fun first second => first.number ≤ second.number
  distinct : (outstandings.packets.map fun packet => (packet.space,packet.number)).Nodup
  declaredLost : outstandings.declaredLostCount = outstandings.packets.countP (·.declaredLost)
  dsr : outstandings.dsrCount =
    outstandings.packets.countP fun packet => !packet.declaredLost && packet.isDSRPacket
  cloned : ∀ space, outstandings.clonedPacketCount space = outstandings.packets.countP fun packet =>
    !packet.declaredLost && packet.space == space && packet.associatedEvent.isSome
  plain : ∀ space, outstandings.packetCount space =
    (outstandings.packets.countP fun packet =>
      !packet.declaredLost && packet.space == space && packet.associatedEvent.isNone) +
    (outstandings.packetEvents.filter (·.packetNumberSpace = space)).card

theorem Kept.counters (kept : Kept conn.books) :
    CountersRight conn.outstandings := by
  obtain ⟨ordered,counted,_⟩ := kept.sound
  refine ⟨?_,?_,counted.lost,counted.dsr,fun space => ?_,fun space => ?_⟩
  · exact (List.pairwise_map.mp ordered.sorted).imp id
  · refine List.pairwise_map.mpr ((List.pairwise_map.mp ordered.distinct).imp ?_)
    intro first second apart same
    obtain ⟨sameSpace,sameNumber⟩ := Prod.mk.inj same
    exact apart (by simp only [tag,sameSpace,sameNumber])
  · refine (counted.families.cloned space).trans (List.countP_congr fun packet _ => ?_)
    simp only [isCloned,tag,Bool.and_assoc]
  · refine (counted.families.plain space).trans (congrArg (· + _) ?_)
    refine List.countP_congr fun packet _ => ?_
    simp only [isPlain,tag,Bool.and_assoc]

def freshClient : QuicConnectionState :=
  {nodeType := .client, congestionController := some (.newReno {cwndBytes := 12320})}

theorem freshClient_fresh : Fresh freshClient := ⟨rfl,rfl,rfl,rfl⟩

def pingPacket : SentPacket where
  header := .short ⟨.zero,.empty,0⟩
  frames := [.ping]
  sentTime := 0
  encodedSize := 30
  encodedBodySize := 20

/-- A ping, its clone, and the acknowledgements of first the clone, then the ping. -/
def clonedPing : List PacketAction :=
  [.handle (.send pingPacket),.handle (.clone 0 pingPacket 1000 16 true),
   .handle (.ackFrame ⟨.appData,{largestAcked := 1, ackBlocks := [⟨1,1⟩]},1000,1000⟩ {}),
   .handle (.ackFrame ⟨.appData,{largestAcked := 1, ackBlocks := [⟨0,0⟩]},2000,2000⟩ {})]

private theorem clonedPing_runs : ∃ last, run packetStep freshClient clonedPing = .ok last :=
  ⟨_,rfl⟩

/-- The books of the outstanding packets are right after every run, and no counter was lowered
below zero on the way. -/
theorem outstandings_counted {conn last : QuicConnectionState} (fresh : Fresh conn)
    {actions : List PacketAction} (ran : run packetStep conn actions = .ok last) :
    CountersRight last.outstandings ∧
      ∀ pair ∈ last.outstandings.decrements, pair.2 ≤ pair.1 := by
  have kept := ((packetRun_kept fresh actions).ok ran).1
  exact ⟨kept.counters,kept.sound.counted.families.enough⟩

theorem outstandings_counted_clonedPing :
    ∃ last, run packetStep freshClient clonedPing = .ok last ∧ CountersRight last.outstandings := by
  obtain ⟨last,ran⟩ := clonedPing_runs
  exact ⟨last,ran,(outstandings_counted freshClient_fresh ran).1⟩

/-- The bytes in flight are the sizes of the packets not declared lost, and nothing more than
what is in flight was ever taken out. -/
theorem inflightBytes_exact {conn : QuicConnectionState} (fresh : Fresh conn)
    (controlled : conn.congestionController.isSome) (actions : List PacketAction) :
    (∀ last, run packetStep conn actions = .ok last →
      last.lossState.inflightBytes = flightBytes last.outstandings.packets ∧
        ∀ pair ∈ last.inflightSubtractions, pair.2 ≤ pair.1) ∧
    ∀ error, run packetStep conn actions = .error error → error ≠ .underflow .inflightBytes := by
  obtain ⟨reached,stopped⟩ := yields_iff.mp (packetRun_kept fresh actions)
  refine ⟨fun last ran => ?_,stopped⟩
  obtain ⟨kept,controller⟩ := reached last ran
  exact ⟨kept.flight (controller.trans controlled),kept.log⟩

theorem inflightBytes_exact_clonedPing :
    ∃ last, run packetStep freshClient clonedPing = .ok last ∧
      last.lossState.inflightBytes = flightBytes last.outstandings.packets := by
  obtain ⟨last,ran⟩ := clonedPing_runs
  exact ⟨last,ran,((inflightBytes_exact freshClient_fresh rfl clonedPing).1 last ran).1⟩

theorem Once.modes {history : List PacketRecord} (once : Once history) (event : PacketEvent) :
    Loss.modes event history = [] ∨
      ∃ count, (Loss.modes event history).reverse = true :: List.replicate count false := by
  induction history with
  | nil => exact .inl rfl
  | cons record earlier ih =>
    obtain ⟨before,processed,_⟩ := once
    by_cases mine : family record.packet = event
    · subst mine
      cases visited : mode record.fate with
      | none =>
        rw [modes_cons_unvisited _ _ visited]
        exact ih before
      | some full =>
        have latest : Loss.modes (family record.packet) (record :: earlier) =
            full :: Loss.modes (family record.packet) earlier :=
          List.filterMap_cons_some ((if_pos rfl).trans visited)
        right
        rw [latest,List.reverse_cons]
        rcases ih before with none | ⟨count,earlierModes⟩
        · have first := (processed full visited).mpr none
          exact ⟨0,by rw [none,first]; rfl⟩
        · have again : full = false := by
            cases full with
            | false => rfl
            | true =>
              rw [(processed true visited).mp rfl] at earlierModes
              exact absurd earlierModes nofun
          refine ⟨count + 1,?_⟩
          rw [earlierModes,again,List.cons_append,← List.replicate_succ']
    · rw [modes_cons_other earlier mine]
      exact ih before

end StreamServer.Loss
