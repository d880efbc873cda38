import StreamServer.Lib.Transition
import StreamServer.State.ConnectionState

/-! Operations of the stream manager on its sets of stream ids. The limits on how
many streams either side may open are kept elsewhere and are not modelled here. -/
namespace StreamServer.State
open Protocol Lib.Transition

def insertId (id : StreamId) : List StreamId → List StreamId
  | [] => [id]
  | head :: tail =>
    if id < head then id :: head :: tail
    else if id = head then head :: tail
    else head :: insertId id tail

def setMembership (present : Bool) (id : StreamId) (ids : Finset StreamId) : Finset StreamId :=
  if present then insert id ids else ids.erase id

namespace QuicStreamManager

def findStream (manager : QuicStreamManager) (id : StreamId) : Option QuicStreamState :=
  manager.streams.lookup id

/-- Writes back a stream that a handler has changed in place. -/
def setStream (manager : QuicStreamManager) (stream : QuicStreamState) : QuicStreamManager :=
  {manager with streams := manager.streams.insert stream.id stream}

def updateReadableStreams (manager : QuicStreamManager) (stream : QuicStreamState) :
    QuicStreamManager :=
  {manager with
    readableStreams := setMembership (stream.hasReadableData || stream.streamReadError.isSome)
      stream.id manager.readableStreams}

def updatePeekableStreams (manager : QuicStreamManager) (stream : QuicStreamState) :
    QuicStreamManager :=
  {manager with
    peekableStreams := setMembership (stream.hasPeekableData || stream.streamReadError.isSome)
      stream.id manager.peekableStreams}

def eraseFromQueue (manager : QuicStreamManager) (stream : QuicStreamState) : QuicStreamManager :=
  if stream.isControl then
    {manager with controlWriteQueue := manager.controlWriteQueue.erase stream.id}
  else {manager with writeQueue := manager.writeQueue.erase stream.id}

def addToQueue (manager : QuicStreamManager) (stream : QuicStreamState) : QuicStreamManager :=
  if stream.isControl then
    {manager with controlWriteQueue := insertId stream.id manager.controlWriteQueue}
  else {manager with writeQueue := manager.writeQueue.insertOrUpdate stream.id stream.priority}

def removeWritable (manager : QuicStreamManager) (stream : QuicStreamState) : QuicStreamManager :=
  {manager.eraseFromQueue stream with
    writableStreams := manager.writableStreams.erase stream.id
    writableDSRStreams := manager.writableDSRStreams.erase stream.id
    lossStreams := manager.lossStreams.erase stream.id
    lossDSRStreams := manager.lossDSRStreams.erase stream.id}

def updateWritableStreams (manager : QuicStreamManager) (stream : QuicStreamState) :
    QuicStreamManager :=
  if stream.streamWriteError.isSome then manager.removeWritable stream
  else
    let updated := {manager with
      writableStreams := setMembership stream.hasWritableData stream.id manager.writableStreams
      writableDSRStreams :=
        setMembership stream.hasWritableBufMeta stream.id manager.writableDSRStreams
      lossStreams := setMembership (!stream.lossBuffer.isEmpty) stream.id manager.lossStreams
      lossDSRStreams :=
        setMembership (!stream.lossBufMetas.isEmpty) stream.id manager.lossDSRStreams}
    if stream.hasSchedulableData || stream.hasSchedulableDsr then updated.addToQueue stream
    else updated.eraseFromQueue stream

def addClosed (manager : QuicStreamManager) (id : StreamId) : QuicStreamManager :=
  {manager with closedStreams := insert id manager.closedStreams}

def addDeliverable (manager : QuicStreamManager) (id : StreamId) : QuicStreamManager :=
  {manager with deliverableStreams := insert id manager.deliverableStreams}

def addTx (manager : QuicStreamManager) (id : StreamId) : QuicStreamManager :=
  {manager with txStreams := insert id manager.txStreams}

def queueWindowUpdate (manager : QuicStreamManager) (id : StreamId) : QuicStreamManager :=
  {manager with windowUpdates := insertId id manager.windowUpdates}

def removeWindowUpdate (manager : QuicStreamManager) (id : StreamId) : QuicStreamManager :=
  {manager with windowUpdates := manager.windowUpdates.erase id}

def pendingWindowUpdate (manager : QuicStreamManager) (id : StreamId) : Bool :=
  manager.windowUpdates.contains id

/-- A stream that is queued already keeps the limit it was queued with. -/
def queueBlocked (manager : QuicStreamManager) (id : StreamId) (offset : Nat) : QuicStreamManager :=
  match manager.blockedStreams.lookup id with
  | some _ => manager
  | none => {manager with blockedStreams := manager.blockedStreams.insert id offset}

def removeBlocked (manager : QuicStreamManager) (id : StreamId) : QuicStreamManager :=
  {manager with blockedStreams := manager.blockedStreams.erase id}

def removeClosedStream (manager : QuicStreamManager) (id : StreamId) : QuicStreamManager :=
  match manager.findStream id with
  | none => manager
  | some stream =>
    {manager.removeWritable stream with
      readableStreams := manager.readableStreams.erase id
      peekableStreams := manager.peekableStreams.erase id
      blockedStreams := manager.blockedStreams.erase id
      deliverableStreams := manager.deliverableStreams.erase id
      txStreams := manager.txStreams.erase id
      windowUpdates := manager.windowUpdates.erase id
      flowControlUpdated := manager.flowControlUpdated.erase id
      streams := manager.streams.erase id}

@[simp] theorem eraseFromQueue_streams (manager : QuicStreamManager) (stream : QuicStreamState) :
    (manager.eraseFromQueue stream).streams = manager.streams := by
  simp only [eraseFromQueue]
  split <;> rfl

@[simp] theorem addToQueue_streams (manager : QuicStreamManager) (stream : QuicStreamState) :
    (manager.addToQueue stream).streams = manager.streams := by
  simp only [addToQueue]
  split <;> rfl

@[simp] theorem updateWritableStreams_streams (manager : QuicStreamManager)
    (stream : QuicStreamState) : (manager.updateWritableStreams stream).streams = manager.streams := by
  simp only [updateWritableStreams]
  split
  · simp [removeWritable]
  split <;> simp

theorem updateWritableStreams_told (manager : QuicStreamManager) (stream : QuicStreamState) :
    (manager.updateWritableStreams stream).deliverableStreams = manager.deliverableStreams ∧
      (manager.updateWritableStreams stream).closedStreams = manager.closedStreams := by
  unfold updateWritableStreams removeWritable addToQueue eraseFromQueue
  split
  · split <;> exact ⟨rfl,rfl⟩
  dsimp only
  split
  · split <;> exact ⟨rfl,rfl⟩
  · split <;> exact ⟨rfl,rfl⟩

theorem removeClosedStream_streams {manager : QuicStreamManager} {id : StreamId}
    {stream : QuicStreamState} (present : manager.findStream id = some stream) :
    (manager.removeClosedStream id).streams = manager.streams.erase id := by
  simp [removeClosedStream,present]

end QuicStreamManager

/-- The receive and send windows of a new stream, by its direction and initiator. -/
def QuicStreamState.make (conn : QuicConnectionState) (id : StreamId) : QuicStreamState :=
  let uni := isUnidirectionalStream id
  let isLocal := isLocalStream conn.nodeType id
  let settings := conn.transportSettings
  let window := if uni then settings.advertisedInitialUniStreamWindowSize
    else if isLocal then settings.advertisedInitialBidiLocalStreamWindowSize
    else settings.advertisedInitialBidiRemoteStreamWindowSize
  let peerWindow := if uni then conn.flowControlState.peerAdvertisedInitialMaxStreamOffsetUni
    else if isLocal then conn.flowControlState.peerAdvertisedInitialMaxStreamOffsetBidiRemote
    else conn.flowControlState.peerAdvertisedInitialMaxStreamOffsetBidiLocal
  {id := id
   flowControlState :=
     {windowSize := window.toNat
      advertisedMaxOffset := window.toNat
      peerAdvertisedMaxOffset := peerWindow}
   recvState := if uni && isLocal then .invalid else .openState
   sendState := if uni && !isLocal then .invalid else .openState
   priority := settings.defaultPriority}

namespace QuicConnectionState

def findStream (conn : QuicConnectionState) (id : StreamId) : Option QuicStreamState :=
  conn.streamManager.findStream id

def setStream (conn : QuicConnectionState) (stream : QuicStreamState) : QuicConnectionState :=
  {conn with streamManager := conn.streamManager.setStream stream}

def manage (conn : QuicConnectionState) (operation : QuicStreamManager → QuicStreamManager) :
    QuicConnectionState :=
  {conn with streamManager := operation conn.streamManager}

/-- Runs a handler on a stream, if it exists, and writes the stream back. -/
def withStream (conn : QuicConnectionState) (id : StreamId)
    (handler : QuicConnectionState → QuicStreamState →
      Except Error (QuicConnectionState × QuicStreamState)) : Except Error QuicConnectionState :=
  match conn.findStream id with
  | none => .ok conn
  | some stream => do
    let (conn,stream) ← handler conn stream
    return conn.setStream stream

/-- A stream with no state yet is created on first use; an existing one is left alone. -/
def openStream (conn : QuicConnectionState) (id : StreamId) : QuicConnectionState :=
  match conn.findStream id with
  | some _ => conn
  | none => conn.setStream (QuicStreamState.make conn id)

theorem withStream_ok {conn next : QuicConnectionState} {id : StreamId}
    {handler : QuicConnectionState → QuicStreamState →
      Except Error (QuicConnectionState × QuicStreamState)}
    (ok : conn.withStream id handler = .ok next) :
    (conn.findStream id = none ∧ next = conn) ∨
      ∃ stream handled changed, conn.findStream id = some stream ∧
        handler conn stream = .ok (handled,changed) ∧ next = handled.setStream changed := by
  simp only [withStream] at ok
  split at ok
  · rename_i absent
    cases ok
    exact .inl ⟨absent,rfl⟩
  · rename_i stream present
    obtain ⟨⟨handled,changed⟩,result,ok⟩ := bind_ok.mp ok
    cases ok
    exact .inr ⟨stream,handled,changed,present,result,rfl⟩

theorem findStream_setStream (conn : QuicConnectionState) (stream : QuicStreamState)
    (id : StreamId) : (conn.setStream stream).findStream id =
      if id = stream.id then some stream else conn.findStream id := by
  simp only [findStream,setStream,QuicStreamManager.findStream,QuicStreamManager.setStream]
  split
  · rename_i same
    rw [same,AList.lookup_insert]
  · rename_i other
    rw [AList.lookup_insert_ne other]

end QuicConnectionState

end StreamServer.State
