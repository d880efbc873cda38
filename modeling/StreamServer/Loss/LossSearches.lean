import StreamServer.Loss.PacketNumbers

/-! Where a step of the transport searches for losses. The step is split there, so that a run can note
what its own search finds. -/
namespace StreamServer.Loss
open Protocol State Congestion Lib.Outcome Lib.Transition

structure DetectionCall where
  conn : QuicConnectionState
  largestAcked : Option PacketNum
  lossVisitor : LossVisitor
  lossTime : TimePoint
  pnSpace : PacketNumberSpace
  ackEvent : Option AckEvent

def DetectionCall.result (call : DetectionCall) : Except Error (QuicConnectionState × Option LossEvent) :=
  detectLossPackets call.conn call.largestAcked call.lossVisitor call.lossTime call.pnSpace call.ackEvent

def ackCall (lossVisitor : LossVisitor) (space : PacketNumberSpace)
    (acknowledged : QuicConnectionState × AckEvent) : DetectionCall :=
  let noted := noteNewlyAcked acknowledged.1 space acknowledged.2.largestNewlyAckedPacket
  ⟨noted,(noted.ackStates space).largestAckedByPeer,lossVisitor,acknowledged.2.ackTime,space,
    some acknowledged.2⟩

/-- The call for the loss timer, which has no acknowledgement. -/
def alarmCall (conn : QuicConnectionState) (now : TimePoint) : DetectionCall :=
  let space := (earliestLossTimer conn).2
  ⟨conn,(conn.ackStates space).largestAckedByPeer,markPacketLoss,now,space,none⟩

/-- The acknowledgement that stands for the end of a handshake space. -/
def implicitArguments (conn : QuicConnectionState) (level : EncryptionLevel) (now nowTime : TimePoint) :
    Option AckArguments :=
  let space := if level = .handshake then .handshake else .initial
  match (conn.outstandings.packets.filter (·.space == space)).map (·.number) with
  | [] => none
  | first :: rest =>
    let block : AckBlock := ⟨rest.foldl min first,rest.foldl max first⟩
    some ⟨space,{largestAcked := block.endPacket, implicit := true, ackBlocks := [block]},now,nowTime⟩

/-- An acknowledgement that a step processes, the peer's or the implicit one. -/
structure AckHandling where
  arguments : AckArguments
  ackVisitor : AckVisitor
  lossVisitor : LossVisitor
  readings : Readings
  finish : QuicConnectionState → QuicConnectionState
  acks : AckVisitorKeepsRecords ackVisitor
  losses : VisitorKeepsRecords lossVisitor

def ackHandling (conn : QuicConnectionState) : PacketAction → Option AckHandling
  | .handle (.ackFrame arguments readings) =>
    some ⟨arguments,clientAckVisitor arguments.pnSpace,markPacketLoss,readings,id,
      clientAckVisitor_records _,markPacketLoss_records⟩
  | .handle (.implicitAck level now nowTime readings) =>
    (implicitArguments conn level now nowTime).map fun arguments =>
      ⟨arguments,implicitAckVisitor arguments.pnSpace level,fun conn _ _ => conn,readings,
        (clearCryptoLossBuffer · level),implicitAckVisitor_records _ level,fun _ _ _ => rfl⟩
  | _ => none

namespace AckHandling

variable (handling : AckHandling) {conn : QuicConnectionState}

def acknowledged (conn : QuicConnectionState) : Except Error (QuicConnectionState × AckEvent) :=
  acknowledge handling.arguments handling.ackVisitor conn

/-- What is done with the connection when the controller has been told. -/
def settle (conn : QuicConnectionState) : QuicConnectionState :=
  handling.finish (clearOldOutstandingPackets conn handling.arguments.ackReceiveTime
    handling.arguments.pnSpace)

theorem keepsBooks : AckVisitorKeepsBooks handling.ackVisitor := fun conn packet frame =>
  (handling.acks conn packet frame).mono fun _ same => congrArg Prod.fst same

theorem lossKeepsBooks : VisitorKeepsBooks handling.lossVisitor := fun conn packet processed =>
  congrArg Prod.fst (handling.losses conn packet processed)

end AckHandling

variable {conn : QuicConnectionState} {action : PacketAction} {handling : AckHandling}

theorem packetStep_handling (handled : ackHandling conn action = some handling) :
    packetStep conn action = do
      let (conn,ack) ← handling.acknowledged conn
      let (conn,lossEvent) ← handleAckForLoss conn handling.lossVisitor ack handling.arguments.pnSpace
      let conn ← reportAck conn handling.readings ack lossEvent
      return handling.settle conn := by
  have processed : (fun acked : QuicConnectionState × AckEvent => handling.finish acked.1) <$>
      processAckFrame conn handling.arguments handling.ackVisitor handling.lossVisitor
        handling.readings = packetStep conn action := by
    unfold ackHandling at handled
    split at handled
    next =>
      cases handled
      rfl
    next level now nowTime readings =>
      obtain ⟨arguments,chosen,rfl⟩ := Option.map_eq_some_iff.mp handled
      dsimp only [implicitArguments] at chosen
      dsimp only [packetStep,handlerStep,implicitAckCryptoStream]
      generalize (conn.outstandings.packets.filter (·.space ==
        if level = .handshake then .handshake else .initial)).map (·.number) = numbers at chosen ⊢
      cases numbers with
      | nil => cases chosen
      | cons first rest =>
        cases chosen
        exact map_eq_pure_bind ..
    next => cases handled
  rw [← processed,processAckFrame_eq]
  simp only [AckHandling.acknowledged,concludeAck,AckHandling.settle,map_bind,map_pure]

/-- A search in the middle of a step, and how the step ends. -/
structure LossSearch where
  call : DetectionCall
  conclude : QuicConnectionState × Option LossEvent → Except Error QuicConnectionState

def AckHandling.search (handling : AckHandling) (acknowledged : QuicConnectionState × AckEvent) :
    LossSearch where
  call := ackCall handling.lossVisitor handling.arguments.pnSpace acknowledged
  conclude found := do
    let conn ← reportAck (alarmIfOutstanding found.1) handling.readings acknowledged.2 found.2
    return handling.settle conn

def alarmSearch (conn : QuicConnectionState) : PacketAction → Option LossSearch
  | .alarm now readings =>
    if conn.outstandings.packets.isEmpty then none
    else match conn.lossState.currentAlarmMethod with
      | .earlyRetransmitOrReordering => some
        {call := alarmCall conn now
         conclude := fun (conn,lossEvent) => alarmIfOutstanding <$> match lossEvent with
           | none => .ok conn
           | some event => onPacketAckOrLoss conn readings none (some event)}
      | .pto => none
  | .handle _ => none

def lossSearch (conn : QuicConnectionState) (action : PacketAction) : Except Error (Option LossSearch) :=
  match ackHandling conn action with
  | some handling => (fun acknowledged => some (handling.search acknowledged)) <$>
      handling.acknowledged conn
  | none => .ok (alarmSearch conn action)

def detection (conn : QuicConnectionState) (action : PacketAction) : Option DetectionCall :=
  (lossSearch conn action).toOption.join.map LossSearch.call

theorem detection_call {call : DetectionCall} (called : detection conn action = some call) :
    (∃ handling : AckHandling, ∃ acknowledged, handling.acknowledged conn = .ok acknowledged ∧
      call = ackCall handling.lossVisitor handling.arguments.pnSpace acknowledged) ∨
      ∃ now, call = alarmCall conn now := by
  obtain ⟨search,searched,rfl⟩ := Option.map_eq_some_iff.mp called
  unfold lossSearch at searched
  split at searched
  next handling handled =>
    left
    cases done : handling.acknowledged conn with
    | error error =>
      rw [done] at searched
      cases searched
    | ok acknowledged =>
      rw [done] at searched
      cases searched
      exact ⟨handling,acknowledged,done,rfl⟩
  next =>
    right
    change alarmSearch conn action = some search at searched
    unfold alarmSearch at searched
    split at searched
    next =>
      split_ifs at searched
      split at searched
      next =>
        cases searched
        exact ⟨_,rfl⟩
      next => cases searched
    next => cases searched

/-- The step, with the call it makes and the connection as the call leaves it. -/
def searchingStep (conn : QuicConnectionState) (action : PacketAction) :
    Except Error (QuicConnectionState × Option (DetectionCall × QuicConnectionState)) := do
  match ← lossSearch conn action with
  | none =>
    let next ← packetStep conn action
    return (next,none)
  | some search =>
    let found ← search.call.result
    let next ← search.conclude found
    return (next,some (search.call,found.1))

/-- To search and go on is what the step does. -/
theorem packetStep_searching (conn : QuicConnectionState) (action : PacketAction) :
    packetStep conn action = Prod.fst <$> searchingStep conn action := by
  unfold searchingStep lossSearch
  cases handled : ackHandling conn action with
  | some handling =>
    rw [packetStep_handling handled]
    simp only [handleAckForLoss,bind_assoc,pure_bind,bind_map_left,map_bind,map_pure,bind_pure]
    rfl
  | none =>
    dsimp only [bind,Except.bind]
    cases searched : alarmSearch conn action with
    | none => cases packetStep conn action <;> rfl
    | some search =>
      unfold alarmSearch at searched
      split at searched
      next now readings =>
        split at searched
        next => cases searched
        next waiting =>
          split at searched
          next method =>
            cases searched
            simp only [packetStep,onLossDetectionAlarm,if_neg waiting,onAlarm,method,onReorderingAlarm]
            change _ = Prod.fst <$> ((alarmCall conn now).result >>= _)
            rw [DetectionCall.result,alarmCall,map_bind,bind_assoc]
            congr 1
            funext found
            rcases found with ⟨found,_ | event⟩
            · rfl
            · dsimp only
              cases onPacketAckOrLoss found readings none (some event) with
              | error _ | ok _ => rfl
          next => cases searched
      next => cases searched

theorem searchingStep_found {next after : QuicConnectionState} {call : DetectionCall}
    (stepped : searchingStep conn action = .ok (next,some (call,after))) :
    detection conn action = some call ∧ ∃ event, call.result = .ok (after,event) := by
  obtain ⟨searched,searches,onward⟩ := bind_ok.mp stepped
  cases searched with
  | none =>
    obtain ⟨_,-,same⟩ := map_ok onward
    cases same
  | some search =>
    obtain ⟨⟨found,event⟩,finds,onward⟩ := bind_ok.mp onward
    obtain ⟨_,-,same⟩ := map_ok onward
    cases same
    refine ⟨?_,event,finds⟩
    rw [detection,searches]
    rfl

end StreamServer.Loss
