import StreamServer.Api.UpdateConnection

/-! The limit on what goes to a peer address that is not validated. What may be written is the
credit rounded up to whole packets, and probes do not ask for it at all, while every packet is debited
with its size: one that is larger than the credit left turns it into a huge one. -/
namespace StreamServer.Api
open Protocol State Lib.Transition

def kDefaultInitialRtt : Microseconds := 50000

namespace PendingPathRateLimiter

def refills (limiter : PendingPathRateLimiter) (checkTime : TimePoint) (rtt : Microseconds) : Bool :=
  limiter.lastChecked.all fun lastChecked => checkTime > lastChecked + rtt * 1000

def currentCredit (limiter : PendingPathRateLimiter) (checkTime : TimePoint) (rtt : Microseconds) :
    PendingPathRateLimiter :=
  if refills limiter checkTime rtt then
    {limiter with lastChecked := some checkTime, credit := limiter.maxCredit}
  else limiter

end PendingPathRateLimiter

def packetMultiple (conn : QuicConnectionState) (writableBytes : Nat) : Nat :=
  sub64 (writableBytes + conn.udpSendPacketLen) 1 / conn.udpSendPacketLen * conn.udpSendPacketLen

def maybeUnvalidatedClientWritableBytes (conn : QuicConnectionState) : Nat :=
  match conn.writableBytesLimit with
  | none => maxUint64
  | some limit =>
    if limit ≤ conn.lossState.totalBytesSent then 0
    else packetMultiple conn (limit - conn.lossState.totalBytesSent)

def validatingPath (conn : QuicConnectionState) : Bool :=
  conn.pendingEvents.pathChallenge.isSome || conn.outstandingPathValidation.isSome

def pathRtt (conn : QuicConnectionState) : Microseconds :=
  if conn.lossState.srtt = 0 then kDefaultInitialRtt else conn.lossState.srtt

/-- The limit within the window of the controller, in whole packets. -/
def writableWithin (conn : QuicConnectionState) (limit : Nat) : Nat :=
  let writableBytes :=
    conn.congestionController.elim limit fun controller => min limit (controller.getWritableBytes conn)
  if writableBytes = maxUint64 then maxUint64 else packetMultiple conn writableBytes

/-- The bytes that may be written, and the connection with the limiter it has asked. -/
def congestionControlWritableBytes (conn : QuicConnectionState) (now : TimePoint) :
    Except Error (Nat × QuicConnectionState) :=
  if validatingPath conn then
    match conn.pathValidationLimiter with
    | none => .error (.standard "null path validation limiter")
    | some limiter =>
      let checked := PendingPathRateLimiter.currentCredit limiter now (pathRtt conn)
      .ok (writableWithin conn checked.credit,{conn with pathValidationLimiter := some checked})
  else .ok (writableWithin conn (maybeUnvalidatedClientWritableBytes conn),conn)

/-- What a probe may take; the limiter is not asked. -/
def probeWritableBytes (conn : QuicConnectionState) : Nat :=
  if conn.transportSettings.enableWritableBytesLimit then maybeUnvalidatedClientWritableBytes conn
  else maxUint64

/-- The connection at a moment while the path is validated, up to its limiter. -/
structure PathMoment where
  conn : QuicConnectionState
  now : TimePoint
  validating : validatingPath conn = true

namespace PathMoment

def limited (moment : PathMoment) (limiter : PendingPathRateLimiter) : QuicConnectionState :=
  {moment.conn with pathValidationLimiter := some limiter}

def refills (moment : PathMoment) (limiter : PendingPathRateLimiter) : Bool :=
  PendingPathRateLimiter.refills limiter moment.now (pathRtt moment.conn)

def checked (moment : PathMoment) (limiter : PendingPathRateLimiter) : PendingPathRateLimiter :=
  PendingPathRateLimiter.currentCredit limiter moment.now (pathRtt moment.conn)

end PathMoment

/-- The write loop asks what may be written, for a packet or only to see whether there is anything to
do; a probe is written without asking. A packet may elicit an acknowledgement or not. -/
inductive PathAction where
  | ask (moment : PathMoment)
  | write (moment : PathMoment) (packet : OutstandingPacket) (elicits : Bool)
  | probe (moment : PathMoment) (packet : OutstandingPacket) (elicits : Bool)

/-- The limiter, the bytes sent since it was last filled up and the size of the last packet. -/
structure PathState where
  limiter : PendingPathRateLimiter
  sent : Nat := 0
  last : Nat := 0

/-- The state once the limiter was asked, with what it allows. -/
def askLimiter (state : PathState) (moment : PathMoment) : Except Error (Nat × PathState) := do
  let (writableBytes,conn) ←
    congestionControlWritableBytes (moment.limited state.limiter) moment.now
  match conn.pathValidationLimiter with
  | none => .error (.standard "null path validation limiter")
  | some limiter =>
    return (writableBytes,
      {state with limiter, sent := if moment.refills state.limiter then 0 else state.sent})

/-- A packet within the bytes it may take; only one that elicits an acknowledgement is debited. -/
def sendWithin (state : PathState) (moment : PathMoment) (packet : OutstandingPacket) (elicits : Bool)
    (writableBytes : Nat) : Except Error PathState :=
  let size := packet.metadata.encodedSize
  if min moment.conn.udpSendPacketLen writableBytes < size then
    .error (.standard "no room for the packet")
  else
    let conn := moment.limited state.limiter
    match (if elicits then noteAckEliciting conn packet else conn).pathValidationLimiter with
    | none => .error (.standard "null path validation limiter")
    | some limiter => .ok ⟨limiter,state.sent + size,size⟩

def writeOnPath (state : PathState) : PathAction → Except Error PathState
  | .ask moment => do return (← askLimiter state moment).2
  | .write moment packet elicits => do
    let (writableBytes,state) ← askLimiter state moment
    sendWithin state moment packet elicits writableBytes
  | .probe moment packet elicits =>
    sendWithin state moment packet elicits (probeWritableBytes moment.conn)

structure PathLimited (state : PathState) : Prop where
  bounded : state.sent ≤ state.limiter.maxCredit + state.last
  unwrapped : state.limiter.credit ≤ state.limiter.maxCredit
  exhausted : state.limiter.maxCredit ≤ state.sent → ∀ moment : PathMoment,
    moment.refills state.limiter = false →
    congestionControlWritableBytes (moment.limited state.limiter) moment.now =
      .ok (0,moment.limited state.limiter)

/-- Every packet has the one size and is debited, and a probe is written while there is credit. -/
def EvenPackets (size : Nat) (state : PathState) : PathAction → Prop
  | .ask _ => True
  | .write _ packet elicits => elicits ∧ packet.metadata.encodedSize = size
  | .probe _ packet elicits =>
    elicits ∧ packet.metadata.encodedSize = size ∧ state.limiter.credit ≠ 0

/-- What was sent and what is left make up the credit, in packets of one size. -/
private structure Accounted (size : Nat) (state : PathState) : Prop where
  total : state.sent + state.limiter.credit = state.limiter.maxCredit
  small : state.limiter.maxCredit < 2^64
  packets : size ∣ state.limiter.maxCredit ∧ size ∣ state.limiter.credit

variable {state next : PathState} {moment : PathMoment} {size : Nat}

private theorem writableBytes_eq (limiter : PendingPathRateLimiter) :
    congestionControlWritableBytes (moment.limited limiter) moment.now =
      .ok (writableWithin (moment.limited limiter) (moment.checked limiter).credit,
        moment.limited (moment.checked limiter)) :=
  if_pos moment.validating

private theorem writableWithin_zero (conn : QuicConnectionState) : writableWithin conn 0 = 0 := by
  have none : packetMultiple conn 0 = 0 := by
    unfold packetMultiple sub64 wrap64
    by_cases none : conn.udpSendPacketLen = 0
    · rw [none,Nat.mul_zero]
    · rw [Nat.div_eq_of_lt (by omega),Nat.zero_mul]
  unfold writableWithin
  cases conn.congestionController <;> simp [none,maxUint64]

private theorem checked_idle {limiter : PendingPathRateLimiter} (late : moment.refills limiter = false) :
    moment.checked limiter = limiter :=
  if_neg (by rw [← PathMoment.refills,late]; decide)

private theorem Accounted.limited (accounted : Accounted size state) : PathLimited state := by
  obtain ⟨total,small,-⟩ := accounted
  refine ⟨by omega,by omega,fun spent moment late => ?_⟩
  rw [writableBytes_eq,checked_idle late,show state.limiter.credit = 0 by omega,writableWithin_zero]

/-- A full limiter has sent nothing; one that was not filled up is as before. Without credit nothing
may be written. -/
private theorem askLimiter_accounted {writableBytes : Nat} (accounted : Accounted size state)
    (asked : askLimiter state moment = .ok (writableBytes,next)) :
    Accounted size next ∧ (next.limiter.credit = 0 → writableBytes = 0) := by
  unfold askLimiter at asked
  rw [writableBytes_eq] at asked
  cases asked
  constructor
  · cases filled : moment.refills state.limiter with
    | true =>
      have full : moment.checked state.limiter = {state.limiter with
          lastChecked := some moment.now, credit := state.limiter.maxCredit} := if_pos filled
      rw [full]
      exact ⟨Nat.zero_add _,accounted.small,accounted.packets.1,accounted.packets.1⟩
    | false =>
      rw [checked_idle filled]
      exact accounted
  · intro none
    rw [none,writableWithin_zero]

private theorem sendWithin_accounted {packet : OutstandingPacket} {elicits : Bool} {writableBytes : Nat}
    (accounted : Accounted size state) (debited : elicits = true)
    (even : packet.metadata.encodedSize = size) (left : state.limiter.credit ≠ 0)
    (sent : sendWithin state moment packet elicits writableBytes = .ok next) :
    Accounted size next := by
  obtain ⟨total,small,packets⟩ := accounted
  have enough : size ≤ state.limiter.credit := Nat.le_of_dvd (Nat.pos_of_ne_zero left) packets.2
  have noted : (noteAckEliciting (moment.limited state.limiter) packet).pathValidationLimiter =
      some (PendingPathRateLimiter.onPacketSent state.limiter size) := even ▸ if_pos moment.validating
  unfold sendWithin at sent
  simp only [debited,if_true,noted,even] at sent
  split_ifs at sent
  cases sent
  have remains : (PendingPathRateLimiter.onPacketSent state.limiter size).credit =
      state.limiter.credit - size := sub64_of_le enough (by omega)
  refine ⟨?_,small,packets.1,remains ▸ Nat.dvd_sub packets.2 (Nat.dvd_refl size)⟩
  show state.sent + size + (PendingPathRateLimiter.onPacketSent state.limiter size).credit =
    state.limiter.maxCredit
  omega

private theorem writeOnPath_accounted {action : PathAction} (positive : 0 < size)
    (accounted : Accounted size state) (even : EvenPackets size state action)
    (written : writeOnPath state action = .ok next) : Accounted size next := by
  cases action with
  | ask moment =>
    obtain ⟨⟨writableBytes,after⟩,asked,rfl⟩ := map_ok written
    exact (askLimiter_accounted accounted asked).1
  | write moment packet elicits =>
    obtain ⟨⟨writableBytes,after⟩,asked,sent⟩ := bind_ok.mp written
    obtain ⟨kept,none⟩ := askLimiter_accounted accounted asked
    refine sendWithin_accounted kept even.1 even.2 (fun spent => ?_) sent
    simp only [sendWithin,even.2,none spent,Nat.min_zero,if_pos positive] at sent
    cases sent
  | probe moment packet elicits =>
    exact sendWithin_accounted accounted even.1 even.2.1 even.2.2 written

/-- Of a credit of whole packets of one size, each debited, the limiter keeps its bound from every
fill-up to the next, as long as no probe is written without credit. -/
theorem path_limited (limiter : PendingPathRateLimiter) (full : limiter.credit = limiter.maxCredit)
    (small : limiter.maxCredit < 2^64) (size : Nat) (positive : 0 < size) (whole : size ∣ limiter.maxCredit)
    (actions : List PathAction)
    (met : StepsMeet writeOnPath (EvenPackets size) ⟨limiter,0,0⟩ actions) :
    Throughout writeOnPath PathLimited ⟨limiter,0,0⟩ actions := by
  have initial : Accounted size ⟨limiter,0,0⟩ :=
    ⟨by rw [← full,Nat.zero_add],small,whole,full ▸ whole⟩
  refine throughout_of_stepsMeet ?_ initial initial.limited met
  intro state action next accounted _ even written
  have after := writeOnPath_accounted positive accounted even written
  exact ⟨after,after.limited⟩

/-- A client with a challenge outstanding, at a time. -/
def challenged (now : TimePoint) : PathMoment where
  conn := {nodeType := .client, outstandingPathValidation := some 7}
  now
  validating := rfl

def pingOfSize (size : Nat) : OutstandingPacket :=
  outstandingPacket {nodeType := .client} none ⟨.short ⟨.zero,.empty,5⟩,[.ping]⟩ 0 size size false
    false 0

/-- Two writes spend the credit, a later question fills it up again, and a probe and a write spend it
once more. -/
theorem path_limited_probed :
    Throughout writeOnPath PathLimited ⟨⟨2464,2464,none⟩,0,0⟩
      [.write (challenged 0) (pingOfSize 1232) true,.write (challenged 5) (pingOfSize 1232) true,
        .ask (challenged (10^9)),.probe (challenged (10^9)) (pingOfSize 1232) true,
        .write (challenged (10^9 + 1)) (pingOfSize 1232) true] := by
  refine path_limited ⟨2464,2464,none⟩ rfl (by decide) 1232 (by decide) (by decide) _ ?_
  rintro _ ⟨⟩
  refine ⟨⟨rfl,rfl⟩,?_⟩
  rintro _ ⟨⟩
  refine ⟨⟨rfl,rfl⟩,?_⟩
  rintro _ ⟨⟩
  refine ⟨trivial,?_⟩
  rintro _ ⟨⟩
  refine ⟨⟨rfl,rfl,by decide⟩,?_⟩
  rintro _ ⟨⟩
  exact ⟨⟨rfl,rfl⟩,trivial⟩

/-- Of a credit of two packets two small ones leave less than the third takes. -/
theorem path_credit_wraps :
    ¬Throughout writeOnPath PathLimited ⟨⟨2464,2464,none⟩,0,0⟩
      (List.replicate 3 (.write (challenged 0) (pingOfSize 1000) true)) := by
  intro limited
  have last := ((limited.2 _ rfl).2 _ rfl).2 _ rfl
  exact absurd last.unwrapped (by decide)

end StreamServer.Api
