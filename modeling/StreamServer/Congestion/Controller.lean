import StreamServer.Congestion.Bbr
import StreamServer.Congestion.Copa
import StreamServer.Lib.Outcome

/-! The interface of the congestion controllers and what it does to the bytes in flight:
a sent packet adds its size, and an acknowledgement or a loss takes out the bytes it
reports. Nothing else of the connection changes but the controller itself and, with BBR,
the frames that wait to be sent. -/
namespace StreamServer.Congestion
open Protocol State Lib.Outcome

namespace CongestionController

def getCongestionWindow (conn : QuicConnectionState) : CongestionController → Nat
  | .newReno controller => controller.cwndBytes
  | .cubic controller => controller.cwndBytes
  | .bbr controller => controller.getCongestionWindow conn
  | .copa controller => controller.cwndBytes

def getWritableBytes (conn : QuicConnectionState) (controller : CongestionController) : Nat :=
  if controller.getCongestionWindow conn > conn.lossState.inflightBytes then
    controller.getCongestionWindow conn - conn.lossState.inflightBytes
  else 0

def isAppLimited : CongestionController → Bool
  | .newReno _ => false
  | .cubic controller => controller.isAppLimited
  | .bbr controller => controller.isAppLimited
  | .copa _ => false

end CongestionController

def withController (conn : QuicConnectionState) (controller : CongestionController) :
    QuicConnectionState :=
  {conn with congestionController := some controller}

/-- The calls below act on the controller of the connection, if it has one. -/
def onPacketSent (conn : QuicConnectionState) (packet : OutstandingPacket) :
    Except Error QuicConnectionState :=
  match conn.congestionController with
  | none => .ok conn
  | some (.newReno _) | some (.copa _) => addInflight conn packet.metadata.encodedSize
  | some (.cubic _) => Cubic.onPacketSent conn packet
  | some (.bbr bbr) => do
    let (conn,bbr) ← bbr.onPacketSent conn packet
    return withController conn (.bbr bbr)

def onRemoveBytesFromInflight (conn : QuicConnectionState) (bytes : Nat) :
    Except Error QuicConnectionState :=
  match conn.congestionController with
  | none => .ok conn
  | some (.cubic _) => .ok (Cubic.onRemoveBytesFromInflight conn bytes)
  | some _ => subtractInflight conn bytes

def onPacketAckOrLoss (conn : QuicConnectionState) (readings : Readings) (ack : Option AckEvent)
    (loss : Option LossEvent) : Except Error QuicConnectionState :=
  match conn.congestionController with
  | none => .ok conn
  | some (.newReno reno) => do
    let (conn,reno) ← reno.onPacketAckOrLoss conn readings ack loss
    return withController conn (.newReno reno)
  | some (.cubic cubic) => do
    let (conn,cubic) ← cubic.onPacketAckOrLoss conn readings ack loss
    return withController conn (.cubic cubic)
  | some (.bbr bbr) => do
    let (conn,bbr) ← bbr.onPacketAckOrLoss conn readings ack loss
    return withController conn (.bbr bbr)
  | some (.copa copa) => do
    let (conn,copa) ← copa.onPacketAckOrLoss conn readings ack loss
    return withController conn (.copa copa)

def settled (conn : QuicConnectionState) (controller : Option CongestionController)
    (frames : List QuicSimpleFrame) (sequence : Nat) (log : List (Nat × Nat))
    (inflightBytes : Nat) : QuicConnectionState :=
  {conn with
    congestionController := controller
    pendingEvents := {conn.pendingEvents with frames := conn.pendingEvents.frames ++ frames}
    nextAckFrequencyFrameSequenceNumber := sequence
    inflightSubtractions := log
    lossState := {conn.lossState with inflightBytes := inflightBytes}}

/-- A call took bytes out of flight, without going below zero on the way. -/
structure TakesOut (conn : QuicConnectionState) (bytes : Nat) (next : QuicConnectionState) :
    Prop where
  enough : bytes ≤ conn.lossState.inflightBytes
  shape : ∃ controller frames sequence log,
    next = settled conn controller frames sequence log (conn.lossState.inflightBytes - bytes) ∧
      controller.isSome = conn.congestionController.isSome
  log : ∀ pair ∈ next.inflightSubtractions, pair ∈ conn.inflightSubtractions ∨ pair.2 ≤ pair.1

/-- No call fails because it would take out more than is in flight. -/
def Tolerable (error : Error) : Prop := error ≠ .underflow .inflightBytes

theorem TakesOut.rfl (conn : QuicConnectionState) : TakesOut conn 0 conn :=
  ⟨Nat.zero_le _,⟨conn.congestionController,[],conn.nextAckFrequencyFrameSequenceNumber,
    conn.inflightSubtractions,by simp [settled],Eq.refl _⟩,fun _ member => Or.inl member⟩

variable {conn : QuicConnectionState} {σ : Type} {controller : σ} {loss : Option LossEvent}

theorem TakesOut.trans {middle next : QuicConnectionState} {first second : Nat}
    (left : TakesOut conn first middle) (right : TakesOut middle second next) :
    TakesOut conn (first + second) next := by
  obtain ⟨controller,frames,sequence,log,rfl,present⟩ := left.shape
  obtain ⟨controller',frames',sequence',log',rfl,present'⟩ := right.shape
  have enough := left.enough
  have remaining : second ≤ conn.lossState.inflightBytes - first := right.enough
  refine ⟨by omega,⟨controller',frames ++ frames',sequence',log',?_,present'.trans present⟩,?_⟩
  · simp [settled,Nat.sub_sub]
  · intro pair member
    rcases right.log pair member with old | fine
    · exact left.log pair old
    · exact Or.inr fine

theorem TakesOut.withController {next : QuicConnectionState} {bytes : Nat}
    (taken : TakesOut conn bytes next) {current : CongestionController}
    (present : conn.congestionController = some current) (controller : CongestionController) :
    TakesOut conn bytes (withController next controller) := by
  obtain ⟨_,frames,sequence,log,rfl,_⟩ := taken.shape
  exact ⟨taken.enough,⟨some controller,frames,sequence,log,Eq.refl _,by rw [present]; rfl⟩,taken.log⟩

private theorem taken_out {bytes : Nat} (enough : bytes ≤ conn.lossState.inflightBytes) :
    TakesOut conn bytes (setInflight (noteInflightSubtraction conn bytes)
      (conn.lossState.inflightBytes - bytes)) := by
  refine ⟨enough,⟨conn.congestionController,[],conn.nextAckFrequencyFrameSequenceNumber,
    (noteInflightSubtraction conn bytes).inflightSubtractions,?_,Eq.refl _⟩,?_⟩
  · simp only [settled,setInflight,noteInflightSubtraction,List.append_nil]
  · exact List.forall_mem_cons.mpr ⟨.inr enough,fun _ => .inl⟩

theorem subtractInflight_takesOut {bytes : Nat} (enough : bytes ≤ conn.lossState.inflightBytes) :
    Yields Tolerable (TakesOut conn bytes) (subtractInflight conn bytes) := by
  have computed : subtractInflight conn bytes = .ok (setInflight
      (noteInflightSubtraction conn bytes) (conn.lossState.inflightBytes - bytes)) := by
    simp only [subtractInflight,subtractAndCheckUnderflow,Nat.not_lt.mpr enough,if_false]
    rfl
  rw [computed]
  exact taken_out enough

theorem cubic_takesOut {bytes : Nat} (enough : bytes ≤ conn.lossState.inflightBytes)
    (bound : conn.lossState.inflightBytes < 2^64) :
    TakesOut conn bytes (Cubic.onRemoveBytesFromInflight conn bytes) := by
  unfold Cubic.onRemoveBytesFromInflight
  rw [sub64_of_le enough bound]
  exact taken_out enough

theorem tolerable_transport (code : TransportErrorCode) (message : String) :
    Tolerable (.transport code message) := nofun

theorem tolerable_internal (code : LocalErrorCode) (message : String) :
    Tolerable (.internal code message) := nofun

theorem tolerable_standard (message : String) : Tolerable (.standard message) := nofun

private theorem addAndCheckOverflow_tolerable (value toAdd : Nat) :
    Yields Tolerable (fun _ => True) (addAndCheckOverflow value toAdd) := by
  unfold addAndCheckOverflow
  split
  · exact tolerable_internal _ _
  · trivial

def ackedBytes (ack : Option AckEvent) : Nat := (ack.map (·.ackedBytes)).getD 0
def lostBytes (loss : Option LossEvent) : Nat := (loss.map (·.lostBytes)).getD 0

/-- What the transport reports to a controller is in flight, and an event that acknowledged no
packet reports no bytes. -/
structure Reported (conn : QuicConnectionState) (ack : Option AckEvent) (loss : Option LossEvent) :
    Prop where
  quiet : ∀ event, ack = some event → event.largestNewlyAckedPacket = none → event.ackedBytes = 0
  enough : ackedBytes ack + lostBytes loss ≤ conn.lossState.inflightBytes
  bound : conn.lossState.inflightBytes < 2^64

/-- What the handlers of the controllers keep, with the amount they have taken out of flight. Of the
connection they change the bytes in flight, and BBR queues a frame. -/
structure TakingKeeps (allowed : Error → Prop) (total : Nat)
    (property : Nat → QuicConnectionState → Prop) : Prop where
  tolerates : ∀ error, Tolerable error → allowed error
  subtracts : ∀ conn taken bytes, property taken conn → taken + bytes ≤ total →
    Yields allowed (property (taken + bytes)) (subtractInflight conn bytes)
  removes : ∀ conn taken bytes, property taken conn → taken + bytes ≤ total →
    property (taken + bytes) (Cubic.onRemoveBytesFromInflight conn bytes)
  requests : ∀ conn taken threshold maxAckDelay reorderThreshold, property taken conn →
    property taken (requestPeerAckFrequencyChange conn threshold maxAckDelay reorderThreshold)

section Rules

variable {allowed : Error → Prop} {total : Nat} {property : Nat → QuicConnectionState → Prop}
  {ack : Option AckEvent} {readings : Readings}

/-- The handler of an event takes the bytes of the event out of flight. -/
def HandlesBytes {γ : Type} (allowed : Error → Prop) (total : Nat)
    (property : Nat → QuicConnectionState → Prop)
    (handler : QuicConnectionState → σ → γ → Except Error (QuicConnectionState × σ))
    (bytes : γ → Nat) : Prop :=
  ∀ conn controller event taken, property taken conn → taken + bytes event ≤ total →
    Yields allowed (fun result => property (taken + bytes event) result.1)
      (handler conn controller event)

/-- An event that acknowledged no packet is not handled, and reports no bytes. -/
def QuietKeeps (property : Nat → QuicConnectionState → Prop) (ack : Option AckEvent) : Prop :=
  ∀ event conn taken, ack = some event → event.largestNewlyAckedPacket = none →
    property taken conn → property (taken + event.ackedBytes) conn

private theorem thenAck_keeps
    {onAck : QuicConnectionState → σ → AckEvent → Except Error (QuicConnectionState × σ)}
    (acks : HandlesBytes allowed total property onAck (·.ackedBytes)) (quiet : QuietKeeps property ack)
    {taken : Nat} (holds : property taken conn) (within : taken + ackedBytes ack ≤ total) :
    Yields allowed (fun result => property (taken + ackedBytes ack) result.1)
      (match ack with
        | some ack =>
          if ack.largestNewlyAckedPacket.isSome then onAck conn controller ack
          else pure (conn,controller)
        | none => pure (conn,controller)) := by
  cases ack with
  | none => exact holds
  | some event =>
    dsimp only
    split
    · exact acks conn controller event taken holds within
    · next empty => exact quiet event conn taken rfl (by simpa using empty) holds

private theorem lossThenAck_keeps
    {onLoss : QuicConnectionState → σ → LossEvent → Except Error (QuicConnectionState × σ)}
    {onAck : QuicConnectionState → σ → AckEvent → Except Error (QuicConnectionState × σ)}
    (losses : HandlesBytes allowed total property onLoss (·.lostBytes))
    (acks : HandlesBytes allowed total property onAck (·.ackedBytes)) (quiet : QuietKeeps property ack)
    (holds : property 0 conn) (whole : lostBytes loss + ackedBytes ack = total) :
    Yields allowed (fun result => property total result.1)
      (lossThenAck onLoss onAck conn controller ack loss) := by
  subst whole
  unfold lossThenAck
  cases loss with
  | none => exact thenAck_keeps acks quiet holds (Nat.le_refl _)
  | some event =>
    apply (losses conn controller event 0 holds ?_).bind
    · rintro ⟨middle,controller⟩ taken
      rw [Nat.zero_add] at taken
      exact thenAck_keeps acks quiet taken (Nat.le_refl _)
    · rw [Nat.zero_add]
      exact Nat.le_add_right ..

private theorem TakingKeeps.subtractThen (keeps : TakingKeeps allowed total property) {taken bytes : Nat}
    (holds : property taken conn) (within : taken + bytes ≤ total)
    {rest : QuicConnectionState → Except Error (QuicConnectionState × σ)}
    (fine : ∀ next, Yields Tolerable (fun result => result.1 = next) (rest next)) :
    Yields allowed (fun result => property (taken + bytes) result.1)
      (subtractInflight conn bytes >>= rest) := by
  apply (keeps.subtracts conn taken bytes holds within).bind
  intro next less
  exact ((fine next).mono fun result same => same ▸ less).allow keeps.tolerates

private theorem newReno_onPacketAcked_tolerable (reno : NewReno) (packet : AckPacket) :
    Yields Tolerable (fun _ => True) (reno.onPacketAcked packet) := by
  have factor (size : Nat) : Yields Tolerable (fun _ => True) (reno.additionFactor size) := by
    unfold NewReno.additionFactor
    split
    · trivial
    · split
      · exact tolerable_standard _
      · trivial
  unfold NewReno.onPacketAcked
  split
  · trivial
  · exact (factor _).bind fun _ _ => (addAndCheckOverflow_tolerable ..).bind fun _ _ => trivial

private theorem cubic_hystart_tolerable (conn : QuicConnectionState) (cubic : Cubic)
    (readings : Readings) (ack : AckEvent) :
    Yields Tolerable (fun _ => True) (cubic.onPacketAckedInHystart conn readings ack) := by
  unfold Cubic.onPacketAckedInHystart
  generalize (if cubic.hystartState.inRttRound then cubic
    else cubic.startHystartRttRound ack.ackTime readings.later) = started
  dsimp only
  split
  · exact tolerable_internal _ _
  · split
    · trivial
    · trivial

private theorem cubic_recovery_tolerable (conn : QuicConnectionState) (cubic : Cubic)
    (readings : Readings) (ack : AckEvent) :
    Yields Tolerable (fun _ => True) (cubic.onPacketAckedInRecovery conn readings ack) := by
  unfold Cubic.onPacketAckedInRecovery
  split
  · exact tolerable_standard _
  · split
    · split
      · trivial
      · exact tolerable_standard _
    · trivial

private theorem copa_adjust_tolerable (conn : QuicConnectionState) (copa : Copa)
    (readings : Readings) (increase : Bool) (ackTime : TimePoint) :
    Yields Tolerable (fun _ => True) (copa.adjustCwnd conn readings increase ackTime) := by
  have lowered (value toSub : Nat) : Yields Tolerable (fun _ => True)
      (subtractAndCheckUnderflow .cwndBytes value toSub) := by
    unfold subtractAndCheckUnderflow
    split
    · exact fun same => nomatch same
    · trivial
  unfold Copa.adjustCwnd
  split
  · unfold Copa.increaseCwnd
    split
    · split
      · trivial
      · split
        · exact (addAndCheckOverflow_tolerable ..).bind fun _ _ => trivial
        · trivial
    · exact (addAndCheckOverflow_tolerable ..).bind fun _ _ => trivial
  · exact (lowered ..).bind fun _ _ => trivial

private theorem TakingKeeps.bbrAcked (keeps : TakingKeeps allowed total property) {taken : Nat}
    (holds : property taken conn) (bbr : Bbr) (event : AckEvent) (prevInflightBytes : Nat)
    (hasLoss : Bool) :
    Yields allowed (fun result => property taken result.1)
      (bbr.onPacketAcked conn readings event prevInflightBytes hasLoss) := by
  have recovers (bbr : Bbr) (newRoundTrip : Bool) :
      Yields Tolerable (fun _ => True) (bbr.updateRecovery conn event newRoundTrip) := by
    unfold Bbr.updateRecovery
    split
    · trivial
    · split
      · exact tolerable_standard _
      · dsimp only
        split
        · trivial
        · trivial
  have tunes (bbr : Bbr) (newRoundTrip : Bool) :
      property taken (bbr.tuneAckFrequency conn newRoundTrip).1 := by
    unfold Bbr.tuneAckFrequency
    split
    · exact holds
    · dsimp only
      split
      · exact keeps.requests _ _ _ _ _ holds
      · exact holds
  unfold Bbr.onPacketAcked
  split
  · exact holds
  · exact ((recovers _ _).allow keeps.tolerates).bind fun _ _ => tunes ..

variable (keeps : TakingKeeps allowed total property) (quiet : QuietKeeps property ack)
  (holds : property 0 conn) (whole : lostBytes loss + ackedBytes ack = total)

include keeps quiet holds whole

private theorem TakingKeeps.newReno (reno : NewReno) :
    Yields allowed (fun result => property total result.1)
      (reno.onPacketAckOrLoss conn readings ack loss) := by
  refine lossThenAck_keeps ?_ ?_ quiet holds whole
  · intro conn reno event taken holds within
    refine keeps.subtractThen holds within fun next => ?_
    dsimp only
    split
    · exact tolerable_standard _
    · rfl
  · intro conn reno event taken holds within
    refine keeps.subtractThen holds within fun next => ?_
    have acked : Yields Tolerable (fun _ => True)
        (event.ackedPackets.foldlM NewReno.onPacketAcked reno) :=
      Yields.foldlM (fun state packet _ _ => newReno_onPacketAcked_tolerable state packet) trivial
    exact acked.bind fun _ _ => rfl

private theorem TakingKeeps.cubic (cubic : Cubic) :
    Yields allowed (fun result => property total result.1)
      (cubic.onPacketAckOrLoss conn readings ack loss) := by
  refine lossThenAck_keeps ?_ ?_ quiet holds whole
  · intro conn cubic event taken holds within
    unfold Cubic.onPacketLoss
    dsimp only
    split
    · exact keeps.tolerates _ (tolerable_standard _)
    · exact keeps.removes _ _ _ holds within
  · intro conn cubic event taken holds within
    have removed := keeps.removes _ _ _ holds within
    unfold Cubic.onPacketAcked
    dsimp only
    split
    · exact removed
    · split
      · exact ((cubic_hystart_tolerable ..).allow keeps.tolerates).bind fun _ _ => removed
      · exact removed
      · exact ((cubic_recovery_tolerable ..).allow keeps.tolerates).bind fun _ _ => removed

private theorem TakingKeeps.copa (copa : Copa) :
    Yields allowed (fun result => property total result.1)
      (copa.onPacketAckOrLoss conn readings ack loss) := by
  refine lossThenAck_keeps ?_ ?_ quiet holds whole
  · intro conn copa event taken holds within
    exact keeps.subtractThen holds within fun _ => rfl
  · intro conn copa event taken holds within
    refine keeps.subtractThen holds within fun next => ?_
    dsimp only
    split
    · rfl
    · exact (copa_adjust_tolerable ..).bind fun _ _ => rfl

private theorem TakingKeeps.bbr (bbr : Bbr) :
    Yields allowed (fun result => property total result.1)
      (bbr.onPacketAckOrLoss conn readings ack loss) := by
  subst whole
  unfold Bbr.onPacketAckOrLoss
  cases ack with
  | none =>
    cases loss with
    | none => exact holds
    | some loss =>
      have less := keeps.subtracts conn 0 loss.lostBytes holds (by rw [Nat.zero_add]; rfl)
      rw [Nat.zero_add] at less
      exact less.bind fun _ taken => taken
  | some event =>
    have less := keeps.subtracts conn 0 event.ackedBytes holds
      (by rw [Nat.zero_add]; exact Nat.le_add_left ..)
    rw [Nat.zero_add] at less
    have acked {middle : QuicConnectionState} {taken : Nat} (taking : property taken middle)
        (bbr : Bbr) (hasLoss : Bool) : Yields allowed (fun result => property taken result.1)
          (if event.largestNewlyAckedPacket.isSome then
            bbr.onPacketAcked middle readings event conn.lossState.inflightBytes hasLoss
          else pure (middle,bbr)) := by
      split
      · exact keeps.bbrAcked taking ..
      · exact taking
    apply less.bind
    intro middle taken
    cases loss with
    | none =>
      rw [show lostBytes none = 0 from rfl,Nat.zero_add]
      exact acked taken ..
    | some loss =>
      have lost := keeps.subtracts middle _ loss.lostBytes taken (Nat.le_of_eq (Nat.add_comm ..))
      apply lost.bind
      intro next taken
      rw [Nat.add_comm (lostBytes _)]
      exact acked taken ..

/-- What the handlers keep, reporting an event to the controller of the connection keeps. -/
theorem TakingKeeps.onPacketAckOrLoss (controls : ∀ conn taken controller, property taken conn →
      property taken (withController conn controller)) (present : conn.congestionController.isSome) :
    Yields allowed (property total) (onPacketAckOrLoss conn readings ack loss) := by
  unfold Congestion.onPacketAckOrLoss
  split
  · next absent =>
    rw [absent] at present
    exact nomatch present
  · exact (keeps.newReno quiet holds whole _).bind fun _ taken => controls _ _ _ taken
  · exact (keeps.cubic quiet holds whole _).bind fun _ taken => controls _ _ _ taken
  · exact (keeps.bbr quiet holds whole _).bind fun _ taken => controls _ _ _ taken
  · exact (keeps.copa quiet holds whole _).bind fun _ taken => controls _ _ _ taken

end Rules

private theorem TakesOut.left {bytes : Nat} {next : QuicConnectionState}
    (taken : TakesOut conn bytes next) :
    next.lossState.inflightBytes = conn.lossState.inflightBytes - bytes := by
  obtain ⟨_,_,_,_,same,_⟩ := taken.shape
  rw [same]
  rfl

private theorem takesOut_keeps {total : Nat} (enough : total ≤ conn.lossState.inflightBytes)
    (bound : conn.lossState.inflightBytes < 2^64) : TakingKeeps Tolerable total (TakesOut conn) where
  tolerates _ := id
  subtracts middle taken bytes holds within := by
    have left := holds.left
    exact (subtractInflight_takesOut (by omega)).mono fun _ more => holds.trans more
  removes middle taken bytes holds within := by
    have left := holds.left
    exact holds.trans (cubic_takesOut (by omega) (by omega))
  requests middle taken threshold maxAckDelay reorderThreshold holds :=
    @TakesOut.trans _ _ _ taken 0 holds ⟨Nat.zero_le _,⟨_,_,_,_,rfl,rfl⟩,fun _ => .inl⟩

theorem onPacketAckOrLoss_takesOut {readings : Readings} {ack : Option AckEvent}
    (present : conn.congestionController.isSome) (reported : Reported conn ack loss) :
    Yields Tolerable (TakesOut conn (ackedBytes ack + lostBytes loss))
      (onPacketAckOrLoss conn readings ack loss) := by
  obtain ⟨current,controlled⟩ := Option.isSome_iff_exists.mp present
  refine (takesOut_keeps reported.enough reported.bound).onPacketAckOrLoss ?_ (.rfl conn)
    (Nat.add_comm ..) (fun _ _ controller taken => taken.withController controlled controller) present
  intro event middle taken same none holds
  rwa [reported.quiet event same none]

theorem onRemoveBytesFromInflight_takesOut {bytes : Nat}
    (present : conn.congestionController.isSome) (enough : bytes ≤ conn.lossState.inflightBytes)
    (bound : conn.lossState.inflightBytes < 2^64) :
    Yields Tolerable (TakesOut conn bytes) (onRemoveBytesFromInflight conn bytes) := by
  unfold onRemoveBytesFromInflight
  split
  · next absent =>
    rw [absent] at present
    exact nomatch present
  · exact cubic_takesOut enough bound
  · exact subtractInflight_takesOut enough

structure PutsIn (conn : QuicConnectionState) (bytes : Nat) (next : QuicConnectionState) :
    Prop where
  bound : conn.lossState.inflightBytes + bytes < 2^64
  shape : ∃ controller, next = settled conn controller [] conn.nextAckFrequencyFrameSequenceNumber
    conn.inflightSubtractions (conn.lossState.inflightBytes + bytes) ∧
      controller.isSome = conn.congestionController.isSome

private theorem put_in {bytes : Nat} (bound : conn.lossState.inflightBytes + bytes < 2^64) :
    PutsIn conn bytes (setInflight conn (conn.lossState.inflightBytes + bytes)) := by
  refine ⟨bound,conn.congestionController,?_,rfl⟩
  simp only [settled,setInflight,List.append_nil]

private theorem addInflight_putsIn {bytes : Nat} (size : bytes < 2^64) :
    Yields Tolerable (PutsIn conn bytes) (addInflight conn bytes) := by
  unfold addInflight addAndCheckOverflow
  split
  · exact tolerable_internal _ _
  · next fits =>
    simp only [maxUint64] at fits
    exact put_in (by omega)

theorem onPacketSent_putsIn {packet : OutstandingPacket}
    (present : conn.congestionController.isSome) (size : packet.metadata.encodedSize < 2^64)
    (bound : conn.lossState.inflightBytes < 2^64) :
    Yields Tolerable (PutsIn conn packet.metadata.encodedSize) (onPacketSent conn packet) := by
  unfold onPacketSent
  split
  · next absent =>
    rw [absent] at present
    exact nomatch present
  · exact addInflight_putsIn size
  · exact addInflight_putsIn size
  · unfold Cubic.onPacketSent
    split
    · exact tolerable_internal _ _
    · next fits =>
      simp only [maxUint64] at fits
      exact put_in (by omega)
  · next bbr current =>
    have sent : Yields Tolerable (fun result => PutsIn conn packet.metadata.encodedSize result.1)
        (bbr.onPacketSent conn packet) := (addInflight_putsIn size).bind fun _ put => put
    apply sent.bind
    intro result put
    obtain ⟨_,same,_⟩ := put.shape
    refine ⟨put.bound,some (.bbr result.2),?_,by rw [present]; rfl⟩
    rw [same]
    rfl

end StreamServer.Congestion
