import StreamServer.Congestion.LossBased

/-! The Copa controller: a window that follows a target rate, with a velocity that
doubles while the direction of the window stays the same. -/
namespace StreamServer.Congestion.Copa
open Protocol State

def checkAndUpdateDirection (conn : QuicConnectionState) (copa : Copa) (ackTime : TimePoint) :
    Copa :=
  let velocity := copa.velocityState
  match velocity.lastCwndRecordTime with
  | none => {copa with velocityState := {velocity with
      lastCwndRecordTime := some ackTime
      lastRecordedCwndBytes := copa.cwndBytes}}
  | some recorded =>
    if ackTime - recorded ≥ conn.lossState.srtt * 1000 then
      let newDirection : VelocityDirection :=
        if copa.cwndBytes > velocity.lastRecordedCwndBytes then .up else .down
      let numTimesDirectionSame := if newDirection = velocity.direction then
          velocity.numTimesDirectionSame + 1
        else 0
      let threshold := if copa.useRttStanding then 4 else 3
      {copa with velocityState := {
        velocity := if newDirection ≠ velocity.direction then 1
          else if numTimesDirectionSame ≥ threshold then mul64 2 velocity.velocity
          else velocity.velocity
        direction := newDirection
        numTimesDirectionSame := numTimesDirectionSame
        lastCwndRecordTime := some ackTime
        lastRecordedCwndBytes := copa.cwndBytes}}
    else copa

def changeDirection (copa : Copa) (newDirection : VelocityDirection) (ackTime : TimePoint) : Copa :=
  if copa.velocityState.direction = newDirection then copa
  else {copa with velocityState := {
    velocity := 1
    direction := newDirection
    numTimesDirectionSame := 0
    lastCwndRecordTime := some ackTime
    lastRecordedCwndBytes := copa.cwndBytes}}

/-- A velocity that was meant for the other direction is not kept. -/
def turn (copa : Copa) (direction : VelocityDirection) (ackTime : TimePoint) : Copa :=
  if copa.velocityState.direction ≠ direction ∧ copa.velocityState.velocity > 1 then
    copa.changeDirection direction ackTime
  else copa

def increaseCwnd (conn : QuicConnectionState) (copa : Copa) (readings : Readings)
    (ackTime : TimePoint) : Except Error Copa :=
  if copa.isSlowStart then
    match copa.lastCwndDoubleTime with
    | none => .ok {copa with lastCwndDoubleTime := some ackTime}
    | some doubled =>
      if ackTime - doubled > conn.lossState.srtt * 1000 then do
        let cwndBytes ← addAndCheckOverflow copa.cwndBytes copa.cwndBytes
        return {copa with cwndBytes := cwndBytes, lastCwndDoubleTime := some ackTime}
      else .ok copa
  else do
    let copa := copa.turn .up ackTime
    let cwndBytes ← addAndCheckOverflow copa.cwndBytes readings.windowChange
    return {copa with cwndBytes := cwndBytes}

def decreaseCwnd (conn : QuicConnectionState) (copa : Copa) (readings : Readings)
    (ackTime : TimePoint) : Except Error Copa := do
  let copa := copa.turn .down ackTime
  let cwndBytes ← subtractAndCheckUnderflow .cwndBytes copa.cwndBytes
    (min readings.windowChange (sub64 copa.cwndBytes (minCwnd conn)))
  return {copa with isSlowStart := false, cwndBytes := cwndBytes}

def adjustCwnd (conn : QuicConnectionState) (copa : Copa) (readings : Readings) (increase : Bool)
    (ackTime : TimePoint) : Except Error Copa :=
  if increase then copa.increaseCwnd conn readings ackTime
  else copa.decreaseCwnd conn readings ackTime

def onPacketAcked (conn : QuicConnectionState) (copa : Copa) (readings : Readings)
    (ack : AckEvent) : Except Error (QuicConnectionState × Copa) := do
  let conn ← subtractInflight conn ack.ackedBytes
  let delay := if copa.useRttStanding then readings.rttStanding - readings.rttMin
    else conn.lossState.lrtt - readings.rttMin
  if readings.rttStanding < readings.rttMin ∨ readings.rttStanding = 0 then return (conn,copa)
  else
    let increase := delay == 0 || readings.targetRateReached
    let copa := if increase && copa.isSlowStart then copa
      else copa.checkAndUpdateDirection conn ack.ackTime
    let copa ← copa.adjustCwnd conn readings increase ack.ackTime
    return (conn,copa)

def onPacketLoss (conn : QuicConnectionState) (copa : Copa) (loss : LossEvent) :
    Except Error (QuicConnectionState × Copa) := do
  let conn ← subtractInflight conn loss.lostBytes
  return (conn,if loss.persistentCongestion then {copa with cwndBytes := minCwnd conn} else copa)

def onPacketAckOrLoss (conn : QuicConnectionState) (copa : Copa) (readings : Readings)
    (ack : Option AckEvent) (loss : Option LossEvent) :
    Except Error (QuicConnectionState × Copa) :=
  lossThenAck onPacketLoss (fun conn copa => onPacketAcked conn copa readings) conn copa ack loss

end StreamServer.Congestion.Copa
