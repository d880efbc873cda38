import StreamServer.Lib.Outcome
import StreamServer.State.StreamIds

/-! Simple frames wait in a list of pending events, leave it when a packet with them is sent
and return to it when that packet is lost. -/
namespace StreamServer.State
open Protocol

/-- The equality of frames. Of two knobs it compares only the first buffers of the blobs. -/
def sameSimpleFrame : QuicSimpleFrame → QuicSimpleFrame → Bool
  | .knob first, .knob second =>
    first.knobSpace == second.knobSpace && first.id == second.id && first.len == second.len &&
      first.blob.headD [] == second.blob.headD []
  | first, second => first == second

def withFrames (conn : QuicConnectionState) (frames : List QuicSimpleFrame) : QuicConnectionState :=
  {conn with pendingEvents := {conn.pendingEvents with frames := frames}}

def sendSimpleFrame (conn : QuicConnectionState) (frame : QuicSimpleFrame) : QuicConnectionState :=
  withFrames conn (conn.pendingEvents.frames ++ [frame])

/-- The code erases at the end of the list when the frame is not there. -/
def frameNotPending : Error := .standard "sent frame is not pending"

def updateSimpleFrameOnPacketSent (conn : QuicConnectionState) (simpleFrame : QuicSimpleFrame) :
    Except Error QuicConnectionState :=
  match simpleFrame with
  | .pathChallenge _ => .ok {conn with
      outstandingPathValidation := conn.pendingEvents.pathChallenge
      pendingEvents := {conn.pendingEvents with pathChallenge := none}}
  | _ =>
    if conn.pendingEvents.frames.any (sameSimpleFrame · simpleFrame) then
      .ok (withFrames conn (conn.pendingEvents.frames.eraseP (sameSimpleFrame · simpleFrame)))
    else .error frameNotPending

def updateSimpleFrameOnPacketLoss (conn : QuicConnectionState) (frame : QuicSimpleFrame) :
    QuicConnectionState :=
  match frame with
  | .stopSending streamId _ =>
    if conn.streamManager.streamExists conn.nodeType streamId then sendSimpleFrame conn frame
    else conn
  | .pathChallenge pathData =>
    if conn.outstandingPathValidation = some pathData then
      {conn with pendingEvents := {conn.pendingEvents with pathChallenge := some pathData}}
    else conn
  | _ => sendSimpleFrame conn frame

end StreamServer.State
