import StreamServer.Loss.ContentSteps
import StreamServer.Loss.PacketNumbers

/-! The end of the handshake. All packets of the Initial and Handshake spaces count as acknowledged,
through the machinery that handles acknowledgements from the peer, and nothing else is touched. -/
namespace StreamServer.Loss
open Protocol State Congestion Lib.Transition Lib.Outcome

/-- The acknowledgement state of a space that is given up is dropped. Of the numbers of the space,
which no function may ask for again, the books keep the next one. -/
def dropAckState (conn : QuicConnectionState) (space : PacketNumberSpace) : QuicConnectionState :=
  updateAckState conn space fun ackState => {nextPacketNum := ackState.nextPacketNum}

/-- What is read off the clock and by the controller while one space is given up. -/
structure ImplicitAckInputs where
  ackTime : TimePoint
  nowTime : TimePoint
  readings : Readings := {}

/-- The ciphers are given up first, then the packets, then what was to be acknowledged. -/
def handshakeConfirmed (conn : QuicConnectionState) (initial handshake : ImplicitAckInputs) :
    Except Error QuicConnectionState := do
  let conn ← implicitAckCryptoStream {conn with initialWriteCipher := false} .initial
    initial.ackTime initial.nowTime initial.readings
  let conn := {dropAckState conn .initial with handshakeWriteCipher := false}
  let conn ← implicitAckCryptoStream conn .handshake handshake.ackTime handshake.nowTime
    handshake.readings
  return dropAckState conn .handshake

def rttSamples (loss : LossState) :=
  (loss.mrtt,loss.maybeMrttNoAckDelay,loss.maybeLrtt,loss.maybeLrttAckDelay,loss.srtt,loss.lrtt,
    loss.rttvar)

/-- What an implicit acknowledgement of a space has no part in. -/
structure BeyondSpace (space : PacketNumberSpace) (conn next : QuicConnectionState) : Prop where
  ackStates : ∀ other, other ≠ space → next.ackStates other = conn.ackStates other
  lossTimes : ∀ other, other ≠ space → next.lossState.lossTimes other = conn.lossState.lossTimes other
  samples : rttSamples next.lossState = rttSamples conn.lossState
  marked : next.lossState.totalPacketsMarkedLost = conn.lossState.totalPacketsMarkedLost
  events : ∀ event, event.packetNumberSpace ≠ space →
    (event ∈ next.outstandings.packetEvents ↔ event ∈ conn.outstandings.packetEvents)
  history : ∀ record ∈ next.history, record ∈ conn.history ∨
    record.packet.space = space ∧ ∀ processed, record.fate ≠ .lost processed

variable {space : PacketNumberSpace} {conn next : QuicConnectionState} {level : EncryptionLevel}
  {result : QuicConnectionState × AckEvent} {arguments : AckArguments} {readings : Readings}

theorem BeyondSpace.refl (conn : QuicConnectionState) : BeyondSpace space conn conn :=
  ⟨fun _ _ => rfl,fun _ _ => rfl,rfl,rfl,fun _ _ => Iff.rfl,fun _ inside => .inl inside⟩

theorem BeyondSpace.trans {first second third : QuicConnectionState}
    (one : BeyondSpace space first second) (two : BeyondSpace space second third) :
    BeyondSpace space first third where
  ackStates other apart := (two.ackStates other apart).trans (one.ackStates other apart)
  lossTimes other apart := (two.lossTimes other apart).trans (one.lossTimes other apart)
  samples := two.samples.trans one.samples
  marked := two.marked.trans one.marked
  events event apart := (two.events event apart).trans (one.events event apart)
  history record inside := by
    rcases two.history record inside with middle | new
    · exact one.history record middle
    · exact .inr new

private theorem beyond_of_books
    (ackStates : ∀ other, other ≠ space → next.ackStates other = conn.ackStates other :=
      by exact fun _ _ => rfl)
    (lossTimes : ∀ other, other ≠ space →
      next.lossState.lossTimes other = conn.lossState.lossTimes other := by exact fun _ _ => rfl)
    (outstandings : next.outstandings.packetEvents = conn.outstandings.packetEvents := by rfl)
    (history : next.history = conn.history := by rfl)
    (samples : rttSamples next.lossState = rttSamples conn.lossState := by rfl)
    (marked : next.lossState.totalPacketsMarkedLost = conn.lossState.totalPacketsMarkedLost := by rfl) :
    BeyondSpace space conn next :=
  ⟨ackStates,lossTimes,samples,marked,fun event _ => by rw [outstandings],
    fun _ inside => .inl (history ▸ inside)⟩

section Walking

variable {arguments : AckArguments} {walk : AckWalk} {packet : OutstandingPacket}

/-- The event of a family is of the space of its packets. -/
def EventInSpace (packet : OutstandingPacket) : Prop :=
  ∀ event, packet.associatedEvent = some event → event.packetNumberSpace = packet.space

private theorem releaseAcked_beyond (own : packet.space = space) (known : EventInSpace packet) :
    BeyondSpace space walk.conn (releaseAcked walk packet).conn := by
  refine ⟨fun _ _ => rfl,fun _ _ => rfl,rfl,rfl,fun event apart => ?_,fun record inside => ?_⟩
  · change event ∈ (walk.conn.outstandings.release packet).packetEvents ↔ _
    rw [release_packetEvents]
    cases tagged : packet.associatedEvent with
    | none => exact Iff.rfl
    | some settled =>
      refine ⟨fun inside => Finset.mem_of_mem_erase inside,fun inside => ?_⟩
      refine Finset.mem_erase.mpr ⟨?_,inside⟩
      rintro rfl
      exact apart ((known event tagged).trans own)
  · rcases List.mem_cons.mp inside with rfl | earlier
    · exact .inr ⟨own,fun _ lost => nomatch lost⟩
    · exact .inl earlier

/-- Data that arrived after all concerns the streams only. -/
private theorem unloseFrames_shape (done : unloseFrames conn packet = .ok next) :
    ∃ manager, next = {conn with streamManager := manager} := by
  have one (state : QuicConnectionState) (frame : QuicWriteFrame) :
      Yields (fun _ => True) (fun next => ∃ manager, next = {state with streamManager := manager})
        (unloseFrame state frame) := by
    unfold unloseFrame
    split
    · split
      · exact ⟨state.streamManager,rfl⟩
      · exact (Yields.anyway _).bind fun _ _ => ⟨_,rfl⟩
    · exact ⟨state.streamManager,rfl⟩
  unfold unloseFrames at done
  split at done
  next =>
    have all : Yields (fun _ => True) (fun next => ∃ manager, next = {conn with streamManager := manager})
        (packet.packet.frames.foldlM unloseFrame conn) := by
      refine Yields.foldlM ?_ ⟨conn.streamManager,rfl⟩
      rintro state frame _ ⟨manager,rfl⟩
      refine (one _ frame).mono ?_
      rintro next ⟨later,rfl⟩
      exact ⟨later,rfl⟩
    exact all.ok done
  next =>
    cases done
    exact ⟨conn.streamManager,rfl⟩

private theorem onSpuriousLoss_beyond (own : packet.space = space)
    (done : onSpuriousLoss conn packet = .ok next) :
    BeyondSpace space conn next := by
  obtain ⟨middle,unloses,rfl⟩ := map_ok done
  obtain ⟨manager,rfl⟩ := unloseFrames_shape unloses
  refine ⟨fun _ _ => rfl,fun _ _ => rfl,rfl,rfl,fun _ _ => Iff.rfl,fun record inside => ?_⟩
  rcases List.mem_cons.mp inside with rfl | earlier
  · exact .inr ⟨own,fun _ lost => nomatch lost⟩
  · exact .inl earlier

private theorem walkAcked_beyond (implicit : arguments.frame.implicit = true)
    (known : ∀ packet ∈ conn.outstandings.packets, EventInSpace packet)
    (done : walkAcked arguments conn = .ok (walk,next)) :
    BeyondSpace arguments.pnSpace conn next := by
  have keeps : WalkKeeps arguments EventInSpace fun walk =>
      walk.ack.implicit = true ∧ BeyondSpace arguments.pnSpace conn walk.conn := by
    refine ⟨fun walk packet inSpace own _ holds => ?_,fun walk packet state _ own _ spurious holds => ?_⟩
    · obtain ⟨still,same⟩ := (@ackPacket_acked arguments walk packet).implicit holds.1
      refine ⟨still,?_⟩
      rw [same]
      exact holds.2.trans (releaseAcked_beyond own inSpace)
    · exact ⟨holds.1,holds.2.trans (onSpuriousLoss_beyond own spurious)⟩
  obtain ⟨⟨_,beyond⟩,packets,rfl,_⟩ := keeps.walkAcked known ⟨implicit,.refl conn⟩ done
  exact beyond.trans beyond_of_books

end Walking

section Afterwards

private theorem visitPackets_beyond {ack : AckEvent} {contexts : List (OutstandingPacket × Bool)}
    (done : contexts.foldlM (visitPacket (implicitAckVisitor space level)) (conn,ack) = .ok result) :
    BeyondSpace space conn result.1 := by
  refine visitPackets_keeps (fun state packet frame next called beyond => ?_) done (.refl conn)
  refine beyond.trans ?_
  unfold implicitAckVisitor at called
  split at called <;> cases called
  · exact beyond_of_books
  · exact beyond_of_books fun _ apart => Function.update_of_ne apart _ _
  · exact .refl state

variable {lossVisitor : LossVisitor} {time : TimePoint}

private theorem detectLossPackets_idle {largestAcked : Option PacketNum} {lossTime : TimePoint}
    {ackEvent : Option AckEvent}
    (none : ∀ packet ∈ conn.outstandings.packets, packet.space ≠ space) :
    detectLossPackets conn largestAcked lossVisitor lossTime space ackEvent =
      .ok (clearLossTime conn space,Option.none) := by
  have passed : ∀ packet ∈ conn.outstandings.packets, (!packet.isOutstanding space) = true := by
    intro packet inside
    simp [OutstandingPacket.isOutstanding,none packet inside]
  unfold detectLossPackets scanOutstandings
  cases largestAcked with
  | none => rfl
  | some number =>
    have reached : (clearLossTime conn space).outstandings.packets.dropWhile
        (fun packet => !packet.isOutstanding space) = [] := List.dropWhile_eq_nil_iff.mpr passed
    have skipped : (clearLossTime conn space).outstandings.packets.takeWhile
        (fun packet => !packet.isOutstanding space) = conn.outstandings.packets :=
      List.takeWhile_eq_self_iff.mpr passed
    have whole : withPackets (clearLossTime conn space) (conn.outstandings.packets ++ []) =
        clearLossTime conn space := by
      rw [List.append_nil]
      rfl
    dsimp only [processOutstandingsForLoss]
    rw [reached,skipped]
    dsimp only [scanForLoss,bind,Except.bind,pure,Except.pure]
    rw [whole]
    rfl

private theorem clearOld_idle {threshold : Microseconds} (outstandings : OutstandingsInfo)
    {packets : List OutstandingPacket} (none : ∀ packet ∈ packets, packet.space ≠ space) :
    clearOld time space threshold outstandings packets = (outstandings,packets) := by
  induction packets with
  | nil => rfl
  | cons packet rest ih =>
    obtain ⟨here,others⟩ := List.forall_mem_cons.mp none
    unfold clearOld
    rw [if_pos here,ih others]
    exact ite_self _

private theorem noteNewlyAcked_beyond (conn : QuicConnectionState) (newly : Option PacketNum) :
    BeyondSpace space conn (noteNewlyAcked conn space newly) := by
  unfold noteNewlyAcked
  split
  · exact .refl conn
  · exact beyond_of_books fun _ apart => Function.update_of_ne apart _ _

private theorem clearLossTime_beyond (conn : QuicConnectionState) :
    BeyondSpace space conn (clearLossTime conn space) :=
  beyond_of_books (fun _ _ => rfl) fun _ apart => Function.update_of_ne apart _ _

private theorem controllerOnly_beyond (only : ControllerOnly conn next) :
    BeyondSpace space conn next := by
  obtain ⟨_,_,_,_,_,rfl⟩ := only
  exact beyond_of_books

private theorem concludeAck_idle {acknowledged : QuicConnectionState × AckEvent}
    (none : ∀ packet ∈ acknowledged.1.outstandings.packets, packet.space ≠ arguments.pnSpace)
    (done : concludeAck arguments lossVisitor readings acknowledged = .ok result) :
    BeyondSpace arguments.pnSpace acknowledged.1 result.1 ∧
      result.1.outstandings = acknowledged.1.outstandings := by
  obtain ⟨⟨handled,event⟩,handles,reporting⟩ := bind_ok.mp done
  obtain ⟨reported,reports,same⟩ := map_ok reporting
  subst same
  obtain ⟨⟨detected,found⟩,detects,same⟩ := map_ok handles
  rw [detectLossPackets_idle (by rw [noteNewlyAcked_outstandings]; exact none)] at detects
  cases detects
  cases same
  have told := reportAck_only reports
  have left : reported.outstandings = acknowledged.1.outstandings :=
    told.aside.outstandings.trans (noteNewlyAcked_outstandings ..)
  have idle : ∀ packet ∈ reported.outstandings.packets, packet.space ≠ arguments.pnSpace := by
    rw [left]
    exact none
  dsimp only [clearOldOutstandingPackets]
  rw [clearOld_idle reported.outstandings idle,ite_self]
  refine ⟨?_,left⟩
  have noted := @noteNewlyAcked_beyond arguments.pnSpace acknowledged.1
    acknowledged.2.largestNewlyAckedPacket
  refine (noted.trans (clearLossTime_beyond _)).trans (.trans ?_ (controllerOnly_beyond told))
  exact beyond_of_books

end Afterwards

private theorem eventInSpace_of_kept (kept : Kept conn.books) :
    ∀ packet ∈ conn.outstandings.packets, EventInSpace packet := fun packet inside =>
  kept.sound.ordered.eventSpace (tag packet) (List.mem_map_of_mem inside)

private theorem foldl_min_le {α : Type} [LinearOrder α] (numbers : List α) (first : α) :
    ∀ number ∈ first :: numbers, numbers.foldl min first ≤ number := by
  induction numbers generalizing first with
  | nil => simp
  | cons second rest ih =>
    intro number inside
    have least := ih (min first second)
    rcases List.mem_cons.mp inside with rfl | later
    · exact (least _ List.mem_cons_self).trans (min_le_left _ _)
    · rcases List.mem_cons.mp later with rfl | later
      · exact (least _ List.mem_cons_self).trans (min_le_right _ _)
      · exact least number (List.mem_cons_of_mem _ later)

private theorem le_foldl_max (numbers : List Nat) (first : Nat) :
    ∀ number ∈ first :: numbers, number ≤ numbers.foldl max first :=
  @foldl_min_le Natᵒᵈ _ numbers first

def spaceOf (level : EncryptionLevel) : PacketNumberSpace :=
  if level = .handshake then .handshake else .initial

/-- The space is cleared, and nothing beyond it is touched. -/
structure SpaceCleared (space : PacketNumberSpace) (conn next : QuicConnectionState) : Prop where
  packets : next.outstandings.packets = conn.outstandings.packets.filter (·.space != space)
  beyond : BeyondSpace space conn next

private theorem processAckFrame_clears (kept : Kept conn.books)
    (implicit : arguments.frame.implicit = true) (descending : Descending arguments.frame.ackBlocks)
    (all : ∀ packet ∈ conn.outstandings.packets, packet.space = arguments.pnSpace →
      covered arguments.pnSpace arguments.frame.ackBlocks packet = true)
    (done : processAckFrame conn arguments (implicitAckVisitor arguments.pnSpace level)
      (fun conn _ _ => conn) readings = .ok result) :
    SpaceCleared arguments.pnSpace conn result.1 := by
  rw [processAckFrame_eq] at done
  obtain ⟨acknowledged,acknowledges,concludes⟩ := bind_ok.mp done
  obtain ⟨⟨walk,walked⟩,walks,onward⟩ := bind_ok.mp acknowledges
  obtain ⟨⟨visited,ack⟩,visits,same⟩ := map_ok onward
  have matched := (walkAcked_matched kept.ascends descending walks).1
  have books := ((visitPackets_visited (implicitAckVisitor_books arguments.pnSpace level) _ _ _).ok
    visits).books
  have left : acknowledged.1.outstandings.packets =
      conn.outstandings.packets.filter (·.space != arguments.pnSpace) := by
    subst same
    change visited.outstandings.packets = _
    rw [show visited.outstandings = walked.outstandings from congrArg Books.outstandings books,matched]
    refine List.filter_congr fun packet inside => ?_
    by_cases own : packet.space = arguments.pnSpace
    · rw [all packet inside own,own]
      simp
    · have outside : covered arguments.pnSpace arguments.frame.ackBlocks packet = false :=
        Bool.eq_false_iff.mpr fun taken => own (covered_iff.mp taken).1
      rw [outside]
      simpa using own
  have none : ∀ packet ∈ acknowledged.1.outstandings.packets, packet.space ≠ arguments.pnSpace := by
    intro packet inside
    rw [left,List.mem_filter] at inside
    simpa using inside.2
  obtain ⟨after,outstandings⟩ := concludeAck_idle none concludes
  refine ⟨by rw [outstandings,left],?_⟩
  have settled : BeyondSpace arguments.pnSpace visited acknowledged.1 := by
    subst same
    exact beyond_of_books
  exact ((walkAcked_beyond implicit (eventInSpace_of_kept kept) walks).trans
    (visitPackets_beyond visits)).trans (settled.trans after)

theorem implicitAckCryptoStream_clears {now nowTime : TimePoint} (kept : Kept conn.books)
    (done : implicitAckCryptoStream conn level now nowTime readings = .ok next) :
    SpaceCleared (spaceOf level) conn next := by
  unfold implicitAckCryptoStream at done
  simp only [show (if level = .handshake then PacketNumberSpace.handshake else .initial) =
    spaceOf level from rfl] at done
  split at done
  next none =>
    cases done
    refine ⟨(List.filter_eq_self.mpr fun packet inside => ?_).symm,.refl conn⟩
    have outside := List.filter_eq_nil_iff.mp (List.map_eq_nil_iff.mp none) packet inside
    simpa using outside
  next first rest numbers =>
    obtain ⟨⟨acked,event⟩,processed,same⟩ := map_ok done
    have listed : ∀ packet ∈ conn.outstandings.packets, packet.space = spaceOf level →
        packet.number ∈ first :: rest := by
      intro packet inside own
      rw [← numbers]
      exact List.mem_map_of_mem (List.mem_filter.mpr ⟨inside,beq_iff_eq.mpr own⟩)
    have ordered : Descending [⟨rest.foldl min first,rest.foldl max first⟩] := by
      refine ⟨fun block inside => ?_,List.pairwise_singleton _ _⟩
      rw [List.mem_singleton.mp inside]
      exact (foldl_min_le rest first first List.mem_cons_self).trans
        (le_foldl_max rest first first List.mem_cons_self)
    have covers : ∀ packet ∈ conn.outstandings.packets, packet.space = spaceOf level →
        covered (spaceOf level) [⟨rest.foldl min first,rest.foldl max first⟩] packet = true := by
      intro packet inside own
      have number := listed packet inside own
      exact covered_iff.mpr ⟨own,_,List.mem_singleton_self _,foldl_min_le rest first _ number,
        le_foldl_max rest first _ number⟩
    have cleared := processAckFrame_clears kept rfl ordered covers processed
    subst same
    refine ⟨cleared.packets,cleared.beyond.trans ?_⟩
    exact beyond_of_books

section Confirmation

/-- What is done before the handshake is confirmed. Between the actions everything but the packets and
the crypto streams may change. -/
inductive HandshakeAction where
  | packet (action : PacketAction)
  | writeCrypto (level : EncryptionLevel) (data : Bytes)
  | receiveCrypto (level : EncryptionLevel) (buffer : StreamBuffer)
  | readCrypto (level : EncryptionLevel) (amount : Nat)

def withCryptoStream (conn : QuicConnectionState) (level : EncryptionLevel)
    (stream : QuicCryptoStream) : QuicConnectionState :=
  {conn with cryptoState := setCryptoStream conn.cryptoState stream level}

/-- A Retry packet, on which the client starts over with a new state, is not among the steps. -/
def handshakeStep (conn : QuicConnectionState) : HandshakeAction → Except Error QuicConnectionState
  | .packet (.handle (.elsewhere other)) =>
    .ok (changeElsewhere conn {other with cryptoState := conn.cryptoState})
  | .packet action => packetStep conn action
  | .writeCrypto level data => .ok (withCryptoStream conn level
      (writeDataToCryptoStream (getCryptoStream conn.cryptoState level) data))
  | .receiveCrypto level buffer => do
    let stream ← appendDataToCryptoReadBuffer (getCryptoStream conn.cryptoState level) buffer
    return withCryptoStream conn level stream
  | .readCrypto level amount => .ok (withCryptoStream conn level
      (readDataFromCryptoStream (getCryptoStream conn.cryptoState level) amount).1)

private theorem changeElsewhere_crypto (conn : QuicConnectionState) (cryptoState : QuicCryptoState) :
    changeElsewhere conn {conn with cryptoState} = {conn with cryptoState} := by
  have controller : (conn.congestionController.map fun controller =>
      conn.congestionController.getD controller) = conn.congestionController := by
    cases conn.congestionController <;> rfl
  unfold changeElsewhere
  dsimp only
  rw [controller,Bool.or_self]
  rfl

variable {action : HandshakeAction}

private theorem handshakeStep_packetStep (done : handshakeStep conn action = .ok next) :
    ∃ other, packetStep conn other = .ok next := by
  have elsewhere (level : EncryptionLevel) (stream : QuicCryptoStream) :
      packetStep conn (.handle (.elsewhere (withCryptoStream conn level stream))) =
        .ok (withCryptoStream conn level stream) :=
    congrArg Except.ok (changeElsewhere_crypto conn (setCryptoStream conn.cryptoState stream level))
  unfold handshakeStep at done
  split at done
  next other =>
    cases done
    exact ⟨.handle (.elsewhere {other with cryptoState := conn.cryptoState}),rfl⟩
  next action _ => exact ⟨action,done⟩
  next level data =>
    cases done
    exact ⟨_,elsewhere level _⟩
  next level buffer =>
    obtain ⟨stream,_,same⟩ := map_ok done
    subst same
    exact ⟨_,elsewhere level stream⟩
  next level amount =>
    cases done
    exact ⟨_,elsewhere level _⟩

private theorem appendDataToCryptoReadBuffer_copyless {stream next : QuicCryptoStream}
    {buffer : StreamBuffer} (copyless : Copyless stream)
    (done : appendDataToCryptoReadBuffer stream buffer = .ok next) : Copyless next := by
  obtain ⟨⟨_,appended⟩,appends,same⟩ := map_ok done
  subst same
  unfold appendDataToReadBufferCommon at appends
  split at appends
  next =>
    cases appends
    exact copyless
  next =>
    obtain ⟨checked,checks,onward⟩ := bind_ok.mp appends
    obtain ⟨_,_,same⟩ := bind_ok.mp onward
    cases same
    unfold checkFinalOffset at checks
    split at checks
    next =>
      split at checks
      next => cases checks
      next =>
        split at checks
        next => cases checks
        next =>
          cases checks
          exact ⟨copyless.retransmission,copyless.loss⟩
    next =>
      split at checks
      next => cases checks
      next =>
        cases checks
        exact ⟨copyless.retransmission,copyless.loss⟩

private theorem handshakeStep_copyless (copyless : CryptoCopyless conn.cryptoState)
    (done : handshakeStep conn action = .ok next) :
    CryptoCopyless next.cryptoState := by
  unfold handshakeStep at done
  split at done
  next =>
    cases done
    exact copyless
  next action here =>
    refine (packetStep_frameSteps ?_ done).cryptoCopyless copyless
    unfold PacketAction.isElsewhere
    split
    next other => exact absurd rfl (here other)
    next => rfl
  next level data =>
    cases done
    have own : Copyless (writeDataToCryptoStream (getCryptoStream conn.cryptoState level) data) :=
      ⟨(copyless level).retransmission,(copyless level).loss⟩
    exact copyless.set own level
  next level buffer =>
    obtain ⟨stream,appends,same⟩ := map_ok done
    subst same
    exact copyless.set (appendDataToCryptoReadBuffer_copyless (copyless level) appends) level
  next level amount =>
    cases done
    have own : Copyless (readDataFromCryptoStream (getCryptoStream conn.cryptoState level) amount).1 :=
      ⟨(copyless level).retransmission,(copyless level).loss⟩
    exact copyless.set own level

/-- What is known of the packets and the crypto streams at any time before. -/
structure HandshakeKept (conn : QuicConnectionState) : Prop where
  kept : Kept conn.books
  copyless : CryptoCopyless conn.cryptoState

theorem handshakeRun_kept {last : QuicConnectionState} (fresh : Fresh conn)
    (copyless : CryptoCopyless conn.cryptoState) {actions : List HandshakeAction}
    (ran : run handshakeStep conn actions = .ok last) : HandshakeKept last := by
  refine run_preserves (fun state action next holds done => ?_) ⟨fresh.kept,copyless⟩ ran
  obtain ⟨other,steps⟩ := handshakeStep_packetStep done
  exact ⟨((packetStep_kept holds.kept other).ok steps).1,handshakeStep_copyless holds.copyless done⟩

structure Confirmed (conn next : QuicConnectionState) : Prop where
  packets : next.outstandings.packets = conn.outstandings.packets.filter (·.space == .appData)
  counts : ∀ space, space ≠ .appData → next.outstandings.packetCount space = 0 ∧
    next.outstandings.clonedPacketCount space = 0
  declaredLost : next.outstandings.declaredLostCount =
    (conn.outstandings.packets.filter (·.space == .appData)).countP (·.declaredLost)
  dsr : next.outstandings.dsrCount = (conn.outstandings.packets.filter (·.space == .appData)).countP
    fun packet => !packet.declaredLost && packet.isDSRPacket
  appData : next.outstandings.packetCount .appData = conn.outstandings.packetCount .appData ∧
    next.outstandings.clonedPacketCount .appData = conn.outstandings.clonedPacketCount .appData
  events : next.outstandings.packetEvents =
    conn.outstandings.packetEvents.filter (·.packetNumberSpace = .appData)
  ackState : next.ackStates .appData = conn.ackStates .appData
  lossTime : next.lossState.lossTimes .appData = conn.lossState.lossTimes .appData
  marked : next.lossState.totalPacketsMarkedLost = conn.lossState.totalPacketsMarkedLost
  history : ∀ record ∈ next.history, record ∈ conn.history ∨
    record.packet.space ≠ .appData ∧ ∀ processed, record.fate ≠ .lost processed
  samples : rttSamples next.lossState = rttSamples conn.lossState
  crypto : ∀ level, level ≠ .appData →
    (getCryptoStream next.cryptoState level).retransmissionBuffer = ∅ ∧
      (getCryptoStream next.cryptoState level).lossBuffer = []

private theorem dropAckState_books (conn : QuicConnectionState) (space : PacketNumberSpace) :
    (dropAckState conn space).books = conn.books :=
  updateAckState_books conn space _ fun _ => rfl

private theorem counts_of_left (before : CountersRight conn.outstandings)
    (after : CountersRight next.outstandings)
    (packets : next.outstandings.packets = conn.outstandings.packets.filter (·.space == .appData))
    (events : next.outstandings.packetEvents =
      conn.outstandings.packetEvents.filter (·.packetNumberSpace = .appData)) :
    (next.outstandings.packetCount .appData = conn.outstandings.packetCount .appData ∧
      next.outstandings.clonedPacketCount .appData = conn.outstandings.clonedPacketCount .appData) ∧
    ∀ space, space ≠ .appData → next.outstandings.packetCount space = 0 ∧
      next.outstandings.clonedPacketCount space = 0 := by
  refine ⟨⟨?_,?_⟩,fun space other => ⟨?_,?_⟩⟩
  · rw [after.plain,before.plain,packets,events,List.countP_filter,Finset.filter_filter]
    congr 1
    · refine List.countP_congr fun packet _ => ?_
      cases packet.declaredLost <;> cases packet.space <;> simp
    · simp
  · rw [after.cloned,before.cloned,packets,List.countP_filter]
    refine List.countP_congr fun packet _ => ?_
    cases packet.declaredLost <;> cases packet.space <;> simp
  · rw [after.plain,packets,events,List.countP_filter,Finset.filter_filter]
    have none : (conn.outstandings.packets.countP fun packet =>
        (!packet.declaredLost && packet.space == space && packet.associatedEvent.isNone) &&
          packet.space == .appData) = 0 := by
      refine List.countP_eq_zero.mpr fun packet _ meets => ?_
      simp only [Bool.and_eq_true,beq_iff_eq] at meets
      exact other (meets.1.1.2.symm.trans meets.2)
    have empty : (conn.outstandings.packetEvents.filter fun event =>
        event.packetNumberSpace = .appData ∧ event.packetNumberSpace = space) = ∅ :=
      Finset.filter_eq_empty_iff.mpr fun _ _ both => other (both.2.symm.trans both.1)
    rw [none,empty]
    rfl
  · rw [after.cloned,packets,List.countP_filter]
    refine List.countP_eq_zero.mpr fun packet _ meets => ?_
    simp only [Bool.and_eq_true,beq_iff_eq] at meets
    exact other (meets.1.1.2.symm.trans meets.2)

/-- Whatever was done before, confirming the handshake gives up the two handshake spaces and touches
nothing else. -/
theorem handshake_confirmed_cleans {conn last next : QuicConnectionState} (fresh : Fresh conn)
    (copyless : CryptoCopyless conn.cryptoState) {actions : List HandshakeAction}
    (ran : run handshakeStep conn actions = .ok last) {initial handshake : ImplicitAckInputs}
    (done : handshakeConfirmed last initial handshake = .ok next) : Confirmed last next := by
  have start := handshakeRun_kept fresh copyless ran
  have started : Kept {last with initialWriteCipher := false}.books := start.kept
  obtain ⟨first,acksInitial,onward⟩ := bind_ok.mp done
  obtain ⟨second,acksHandshake,same⟩ := map_ok onward
  subst same
  have initialGone := implicitAckCryptoStream_clears started acksInitial
  have middle : Kept first.books :=
    ((implicitAckCryptoStream_handled started .initial _ _ _).ok acksInitial).1.kept
  have dropped : Kept {dropAckState first .initial with handshakeWriteCipher := false}.books := by
    have books := dropAckState_books first .initial
    exact books ▸ middle
  have handshakeGone := implicitAckCryptoStream_clears dropped acksHandshake
  have ended : Kept (dropAckState second .handshake).books := by
    rw [dropAckState_books]
    exact ((implicitAckCryptoStream_handled dropped .handshake _ _ _).ok acksHandshake).1.kept
  have copies : CryptoCopyless second.cryptoState :=
    (implicitAckCryptoStream_frameSteps acksHandshake).cryptoCopyless
      ((implicitAckCryptoStream_frameSteps acksInitial).cryptoCopyless start.copyless)
  have packets : second.outstandings.packets =
      last.outstandings.packets.filter (·.space == .appData) := by
    rw [handshakeGone.packets]
    change first.outstandings.packets.filter _ = _
    rw [initialGone.packets,List.filter_filter]
    refine List.filter_congr fun packet _ => ?_
    cases packet.space <;> rfl
  have left : ∀ packet ∈ second.outstandings.packets, packet.space = .appData := by
    intro packet inside
    rw [packets] at inside
    exact beq_iff_eq.mp (List.mem_filter.mp inside).2
  have events : second.outstandings.packetEvents =
      last.outstandings.packetEvents.filter (·.packetNumberSpace = .appData) := by
    ext event
    have through (appData : event.packetNumberSpace = .appData) :
        event ∈ second.outstandings.packetEvents ↔ event ∈ last.outstandings.packetEvents :=
      (handshakeGone.beyond.events event (by rw [appData]; nofun)).trans
        (initialGone.beyond.events event (by rw [appData]; nofun))
    rw [Finset.mem_filter]
    constructor
    · intro inside
      obtain ⟨packet,there,_,tagged⟩ := ended.sound.families.attended event inside
      have appData := (ended.sound.ordered.eventSpace (tag packet) (List.mem_map_of_mem there) event
        tagged).trans (left packet there)
      exact ⟨(through appData).mp inside,appData⟩
    · rintro ⟨inside,appData⟩
      exact (through appData).mpr inside
  obtain ⟨appData,others⟩ := @counts_of_left last (dropAckState second .handshake)
    start.kept.counters ended.counters packets events
  have lost := ended.counters.declaredLost
  have dsr := ended.counters.dsr
  rw [show (dropAckState second .handshake).outstandings.packets = _ from packets] at lost dsr
  have ackState : second.ackStates .appData = last.ackStates .appData := by
    rw [handshakeGone.beyond.ackStates .appData nofun]
    exact initialGone.beyond.ackStates .appData nofun
  refine ⟨packets,others,lost,dsr,appData,events,ackState,?_,?_,fun record inside => ?_,?_,
    fun level _ => ⟨(copies level).retransmission,(copies level).loss⟩⟩
  · exact (handshakeGone.beyond.lossTimes .appData nofun).trans
      (initialGone.beyond.lossTimes .appData nofun)
  · exact handshakeGone.beyond.marked.trans initialGone.beyond.marked
  · rcases handshakeGone.beyond.history record inside with earlier | ⟨space,notLost⟩
    · rcases initialGone.beyond.history record earlier with old | ⟨space,notLost⟩
      · exact .inl old
      · exact .inr ⟨by rw [space]; nofun,notLost⟩
    · exact .inr ⟨by rw [space]; nofun,notLost⟩
  · exact handshakeGone.beyond.samples.trans initialGone.beyond.samples

def initialHello : SentPacket where
  header := .long ⟨.initial,.empty,.empty,0,1,[]⟩
  frames := [.crypto ⟨0,2⟩]
  sentTime := 0
  encodedSize := 60
  encodedBodySize := 20

private def helloTwice : List HandshakeAction :=
  [.writeCrypto .initial [1,2],.packet (.handle (.send initialHello)),
    .packet (.handle (.clone 0 initialHello 1000 16 true)),.packet (.handle (.send pingPacket))]

/-- A hello that is sent twice, and a ping. -/
theorem handshake_confirmed_cleans_hello :
    ∃ last next, run handshakeStep freshClient helloTwice = .ok last ∧
      handshakeConfirmed last ⟨5,5,{}⟩ ⟨6,6,{}⟩ = .ok next ∧
      last.outstandings.packets.length = 3 ∧ next.outstandings.packets.length = 1 ∧
      Confirmed last next := by
  have copyless : CryptoCopyless freshClient.cryptoState := fun level => by
    cases level <;> exact ⟨rfl,rfl⟩
  obtain ⟨last,next,ran,done,three,one⟩ : ∃ last next,
      run handshakeStep freshClient helloTwice = .ok last ∧
        handshakeConfirmed last ⟨5,5,{}⟩ ⟨6,6,{}⟩ = .ok next ∧
        last.outstandings.packets.length = 3 ∧ next.outstandings.packets.length = 1 :=
    ⟨_,_,rfl,rfl,rfl,rfl⟩
  exact ⟨last,next,ran,done,three,one,handshake_confirmed_cleans freshClient_fresh copyless ran done⟩

end Confirmation

end StreamServer.Loss
