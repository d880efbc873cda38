import StreamServer.State.StreamManager

/-! The stream manager's discipline of stream ids: which ids are open, which come next and
where the limits are. Ids are opened in bulk, and the state of a stream is created when it
is first asked for. A function that throws also returns the state it leaves behind. -/
namespace StreamServer.State
open Protocol

/-- A result or an exception, with the connection as it is left in either case. -/
abbrev Leaves (α : Type) := Except Error α × QuicConnectionState

def streamStateError (message : String) : Error := .transport .streamStateError message
def streamLimitError (message : String) : Error := .transport .streamLimitError message

def initialStreamId (nodeType : QuicNodeType) (kind : StreamKind) : StreamId :=
  let initiator := match nodeType,kind.initiator with
    | .client,.localNode | .server,.remoteNode => 0
    | .client,.remoteNode | .server,.localNode => 1
  match kind.directionality with
  | .bidirectional => initiator
  | .unidirectional => initiator + 2

/-- The ids from one to another that are a whole number of increments away. -/
def idsUpTo (start streamId : StreamId) : List StreamId :=
  (List.range ((streamId - start) / kStreamIncrement + 1)).map fun i => start + kStreamIncrement * i

/-- Opens an id with all lower ones of its kind; local and peer streams differ only in that the
latter are reported. -/
def openStreamIfNotClosed (space : StreamIdSpace) (streamId : StreamId) :
    Except LocalErrorCode (StreamIdSpace × List StreamId) :=
  if streamId < space.nextAcceptableStreamId then .error .creatingExistingStream
  else if streamId ≥ space.maxStreamId then .error .streamLimitExceeded
  else
    let ids := idsUpTo space.nextAcceptableStreamId streamId
    .ok ({space with
      openStreams := space.openStreams ∪ ids.toFinset
      nextAcceptableStreamId := streamId + kStreamIncrement},ids)

namespace QuicStreamManager

def setStreamIds (manager : QuicStreamManager) (kind : StreamKind) (space : StreamIdSpace) :
    QuicStreamManager :=
  {manager with streamIds := Function.update manager.streamIds kind space}

def streamExists (manager : QuicStreamManager) (nodeType : QuicNodeType) (id : StreamId) : Bool :=
  id ∈ (manager.streamIds (getStreamKind nodeType id)).openStreams

def hasNonCtrlStreams (manager : QuicStreamManager) : Bool :=
  manager.streams.keys.length != manager.numControlStreams

def updateAppIdleState (manager : QuicStreamManager) : QuicStreamManager :=
  {manager with isAppIdle := !manager.hasNonCtrlStreams}

def setPriorityLevel (manager : QuicStreamManager) (id : StreamId) (level : Nat) : QuicStreamManager :=
  {manager with streamPriorityLevelsNoCtrl := manager.streamPriorityLevelsNoCtrl.insert id level}

def dropPriorityLevel (manager : QuicStreamManager) (id : StreamId) : QuicStreamManager :=
  {manager with streamPriorityLevelsNoCtrl := manager.streamPriorityLevelsNoCtrl.erase id}

def dropControlStream (manager : QuicStreamManager) : QuicStreamManager :=
  {manager with numControlStreams := sub64 manager.numControlStreams 1}

def addToStreamPriorityMap (manager : QuicStreamManager) (stream : QuicStreamState) :
    Except Error QuicStreamManager :=
  if stream.isControl then .ok manager
  else if (manager.streamPriorityLevelsNoCtrl.lookup stream.id).isSome then
    .error (streamStateError "Attempted to add stream already in priority map")
  else .ok (manager.setPriorityLevel stream.id stream.priority.level)

end QuicStreamManager

namespace QuicConnectionState

variable (conn : QuicConnectionState)

def streamIdsOf (id : StreamId) : StreamIdSpace :=
  conn.streamManager.streamIds (getStreamKind conn.nodeType id)

/-- Creates the state of a stream that has none; one that has keeps it. -/
def emplaceStream (id : StreamId) (groupId : Option Nat) : Leaves QuicStreamState :=
  let stream := (conn.findStream id).getD {QuicStreamState.make conn id with groupId}
  let conn := match conn.findStream id with
    | some _ => conn
    | none => conn.setStream stream
  match conn.streamManager.addToStreamPriorityMap stream with
  | .ok manager => (.ok stream,{conn with streamManager := manager})
  | .error error => (.error error,conn)

/-- Local streams are created lazily; nothing is returned for one that is closed or not open yet. -/
def getOrCreateOpenedLocalStream (id : StreamId) : Leaves (Option QuicStreamState) :=
  if id ∈ (conn.streamManager.streamIds ⟨.localNode,getStreamDirectionality id⟩).openStreams then
    match conn.findStream id with
    | some _ => (.error (streamStateError "Creating an active stream"),conn)
    | none =>
      let (result,next) := conn.emplaceStream id none
      (result.map some,next)
  else (.ok none,conn)

def noteGroup (groupId : Option Nat) : QuicConnectionState :=
  match groupId with
  | none => conn
  | some group =>
    if group ∈ conn.streamManager.peerStreamGroupsSeen then conn
    else conn.manage fun manager => {manager with
      newPeerStreamGroups := insert group manager.newPeerStreamGroups
      peerStreamGroupsSeen := insert group manager.peerStreamGroupsSeen}

/-- Ids are reported with the streams of groups if the frame that opened them named one. -/
def reportStreams (ids : List StreamId) (groupId : Option Nat) : QuicConnectionState :=
  conn.manage fun manager =>
    if groupId.isSome then
      {manager with newGroupedPeerStreams := manager.newGroupedPeerStreams ++ ids}
    else {manager with newPeerStreams := manager.newPeerStreams ++ ids}

def instantiatePeerStream (id : StreamId) (groupId : Option Nat) : Leaves (Option QuicStreamState) :=
  let noted := conn.noteGroup groupId
  let reported := if conn.transportSettings.notifyOnNewStreamsExplicitly then
    noted.reportStreams [id] groupId else noted
  let (result,next) := reported.emplaceStream id groupId
  (result.map some,next)

def maxStreamGroupId : Nat :=
  min (mul64 conn.transportSettings.advertisedMaxStreamGroups kStreamGroupIncrement) kMaxStreamGroupId

/-- The checks of the ids in a frame, before any state is looked up. -/
def checkPeerIds (id : StreamId) (groupId : Option Nat) : Except Error Unit :=
  if conn.nodeType = .client ∧ isClientStream id then
    .error (streamStateError "Attempted getting client peer stream on client")
  else if conn.nodeType = .server ∧ isServerStream id then
    .error (streamStateError "Attempted getting server peer stream on server")
  else match groupId with
    | none => .ok ()
    | some group =>
      if conn.nodeType = .client ∧ group % 2 = 0 then
        .error (streamStateError "Received a client stream group id on client")
      else if conn.nodeType = .server ∧ group % 2 = 1 then
        .error (streamStateError "Received a server stream group id on server")
      else if group ≥ conn.maxStreamGroupId then .error (streamLimitError "Invalid stream group id")
      else .ok ()

def getOrCreatePeerStream (id : StreamId) (groupId : Option Nat) : Leaves (Option QuicStreamState) :=
  match conn.checkPeerIds id groupId with
  | .error error => (.error error,conn)
  | .ok () =>
    match conn.findStream id with
    | some stream => (.ok (some stream),conn)
    | none =>
      let kind : StreamKind := ⟨.remoteNode,getStreamDirectionality id⟩
      let space := conn.streamManager.streamIds kind
      if id ∈ space.openStreams then conn.instantiatePeerStream id groupId
      else match openStreamIfNotClosed space id with
        | .error .creatingExistingStream => (.ok none,conn)
        | .error _ => (.error (streamLimitError "Exceeded stream limit."),conn)
        | .ok (space,ids) =>
          let opened := conn.manage (·.setStreamIds kind space)
          let reported := if conn.transportSettings.notifyOnNewStreamsExplicitly then opened
            else opened.reportStreams ids groupId
          reported.instantiatePeerStream id groupId

def updateAppIdleState : QuicConnectionState := conn.manage (·.updateAppIdleState)

def getStream (id : StreamId) (groupId : Option Nat) : Leaves (Option QuicStreamState) :=
  if isRemoteStream conn.nodeType id then
    match conn.getOrCreatePeerStream id groupId with
    | (.error error,next) => (.error error,next)
    | (.ok stream,next) => (.ok stream,next.updateAppIdleState)
  else match conn.findStream id with
    | some stream => (.ok (some stream),conn)
    | none =>
      let space := conn.streamManager.streamIds ⟨.localNode,getStreamDirectionality id⟩
      match conn.getOrCreateOpenedLocalStream id with
      | (.error error,next) => (.error error,next)
      | (.ok stream,next) =>
        if stream.isNone ∧ id ≥ space.nextAcceptableStreamId then
          (.error (streamStateError "Trying to get unopened local stream"),next)
        else (.ok stream,next.updateAppIdleState)

def checkLocalIds (id : StreamId) (groupId : Option Nat) : Except Error Unit :=
  if conn.nodeType = .client ∧ !isClientStream id then
    .error (streamStateError "Attempted creating non-client stream on client")
  else if conn.nodeType = .server ∧ !isServerStream id then
    .error (streamStateError "Attempted creating non-server stream on server")
  else match groupId with
    | none => .ok ()
    | some group =>
      if group ∉ conn.streamManager.openLocalStreamGroups (getStreamDirectionality id) then
        .error (streamStateError "Attempted creating a stream in non-existent group")
      else if conn.nodeType = .client ∧ group % 2 ≠ 0 then
        .error (streamStateError "Attempted creating a stream in non-client stream group on client")
      else if conn.nodeType = .server ∧ group % 2 ≠ 1 then
        .error (streamStateError "Attempted creating a stream in non-server stream group on server")
      else .ok ()

def createStream (id : StreamId) (groupId : Option Nat) :
    Leaves (Except LocalErrorCode QuicStreamState) :=
  match conn.checkLocalIds id groupId with
  | .error error => (.error error,conn)
  | .ok () =>
    match conn.getOrCreateOpenedLocalStream id with
    | (.error error,next) => (.error error,next)
    | (.ok (some stream),next) => (.ok (.ok stream),next)
    | (.ok none,next) =>
      let kind : StreamKind := ⟨.localNode,getStreamDirectionality id⟩
      match openStreamIfNotClosed (next.streamManager.streamIds kind) id with
      | .error code => (.ok (.error code),next)
      | .ok (space,_) =>
        match (next.manage (·.setStreamIds kind space)).emplaceStream id groupId with
        | (.error error,last) => (.error error,last)
        | (.ok stream,last) => (.ok (.ok stream),last.updateAppIdleState)

def createNextStream (directionality : StreamDirectionality) (groupId : Option Nat) :
    Leaves (Except LocalErrorCode QuicStreamState) :=
  match conn.createStream (conn.streamManager.nextStreamId directionality) groupId with
  | (.ok (.ok stream),next) => (.ok (.ok stream),next.manage fun manager => {manager with
      nextStreamId := Function.update manager.nextStreamId directionality
        (manager.nextStreamId directionality + kStreamIncrement)})
  | other => other

def createNextStreamGroup (directionality : StreamDirectionality) :
    Except LocalErrorCode Nat × QuicConnectionState :=
  let id := conn.streamManager.nextStreamGroupId directionality
  if id ≥ conn.maxStreamGroupId then (.error .streamLimitExceeded,conn)
  else (.ok id,conn.manage fun manager => {manager with
    nextStreamGroupId := Function.update manager.nextStreamGroupId directionality (id + kStreamIncrement)
    openLocalStreamGroups := Function.update manager.openLocalStreamGroups directionality
      (insert id (manager.openLocalStreamGroups directionality))})

/-- A limit is set only to a larger one, unless that is forced. -/
def setMaxStreams (kind : StreamKind) (maxStreams : Nat) (force : Bool) :
    Except Error (Bool × QuicConnectionState) :=
  if maxStreams > kMaxMaxStreams then
    .error (streamLimitError "Attempt to set maxStreams beyond the max allowed.")
  else
    let space := conn.streamManager.streamIds kind
    let maxStreamId := maxStreams * kStreamIncrement + initialStreamId conn.nodeType kind
    if force ∨ maxStreamId > space.maxStreamId then
      .ok (true,conn.manage (·.setStreamIds kind {space with maxStreamId}))
    else .ok (false,conn)

def setMaxLocalStreams (directionality : StreamDirectionality) (maxStreams : Nat) (force : Bool) :
    Leaves Unit :=
  match conn.setMaxStreams ⟨.localNode,directionality⟩ maxStreams force with
  | .error error => (.error error,conn)
  | .ok (increased,next) => (.ok (),if increased then next.manage fun manager => {manager with
      maxLocalStreamIdIncreased := Function.update manager.maxLocalStreamIdIncreased directionality true}
      else next)

def setMaxRemoteStreams (directionality : StreamDirectionality) (maxStreams : Nat) (force : Bool) :
    Leaves Unit :=
  match conn.setMaxStreams ⟨.remoteNode,directionality⟩ maxStreams force with
  | .error error => (.error error,conn)
  | .ok (_,next) => (.ok (),next)

def initialMaxStreams : StreamDirectionality → Nat
  | .bidirectional => conn.transportSettings.advertisedInitialMaxStreamsBidi
  | .unidirectional => conn.transportSettings.advertisedInitialMaxStreamsUni

/-- New settings force the limits of the peer to their own. -/
def refreshTransportSettings (settings : TransportSettings) : Leaves Unit :=
  let conn := {conn with transportSettings := settings}
  match conn.setMaxRemoteStreams .bidirectional (conn.initialMaxStreams .bidirectional) true with
  | (.error error,next) => (.error error,next)
  | (.ok (),next) => next.setMaxRemoteStreams .unidirectional (next.initialMaxStreams .unidirectional) true

/-- What it means to use the result of a function that ends without returning one. -/
def undefinedResult : Error := .standard "undefined: no value is returned"

/-- How many more streams the peer may open. The one for unidirectional streams has its return
statement commented out. -/
def openableRemoteStreams : StreamDirectionality → Except Error Nat
  | .bidirectional =>
    let space := conn.streamManager.streamIds ⟨.remoteNode,.bidirectional⟩
    .ok (sub64 space.maxStreamId space.nextAcceptableStreamId / kStreamIncrement)
  | .unidirectional => .error undefinedResult

/-- Raises the limit of the peer when enough of its streams were closed. -/
def returnStreamCredit (directionality : StreamDirectionality) (openable : Nat) : Leaves Unit :=
  let kind : StreamKind := ⟨.remoteNode,directionality⟩
  let space := conn.streamManager.streamIds kind
  let initialStreamLimit := conn.initialMaxStreams directionality
  let streamWindow := initialStreamLimit / conn.streamManager.streamLimitWindowingFraction
  let streamCredit := sub64 (sub64 initialStreamLimit openable) space.openStreams.card
  if streamCredit ≥ streamWindow then
    let maxStreams :=
      sub64 space.maxStreamId (initialStreamId conn.nodeType kind) / kStreamIncrement
    let update := add64 maxStreams streamCredit
    match conn.setMaxRemoteStreams directionality update false with
    | (.error error,next) => (.error error,next)
    | (.ok (),next) => (.ok (),next.manage fun manager => {manager with
        remoteStreamLimitUpdate :=
          Function.update manager.remoteStreamLimitUpdate directionality (some update)})
  else (.ok (),conn)

/-- The entry in the priority map, or in the count of control streams, that a stream gives up. -/
def dropPriority (id : StreamId) (stream : QuicStreamState) : Except Error QuicConnectionState :=
  if stream.isControl then .ok (conn.manage (·.dropControlStream))
  else if (conn.streamManager.streamPriorityLevelsNoCtrl.lookup id).isSome then
    .ok (conn.manage (·.dropPriorityLevel id))
  else .error (streamStateError "Removed stream is not in the priority map")

/-- A stream without an entry in the priority map throws when it has left the sets of ids that wait
for something, but is still there. -/
def closeStreamId (id : StreamId) (stream : QuicStreamState) : Except Error (Leaves Unit) :=
  match conn.dropPriority id stream with
  | .error error => .ok (.error error,conn.manage fun manager =>
      {manager.removeClosedStream id with streams := manager.streams})
  | .ok dropped => do
    let kind := getStreamKind conn.nodeType id
    let space := dropped.streamManager.streamIds kind
    let closed := dropped.manage fun manager =>
      (manager.removeClosedStream id).setStreamIds kind
        {space with openStreams := space.openStreams.erase id}
    if isRemoteStream conn.nodeType id then do
      let openable ← closed.openableRemoteStreams (getStreamDirectionality id)
      return match closed.returnStreamCredit (getStreamDirectionality id) openable with
        | (.error error,next) => (.error error,next)
        | (.ok (),next) => (.ok (),next.updateAppIdleState)
    else return (.ok (),closed.updateAppIdleState)

/-- Removing a stream that has a state; what is undefined is the error of the result. -/
def removeClosedStream (id : StreamId) : Except Error (Leaves Unit) :=
  match conn.findStream id with
  | none => .ok (.ok (),conn)
  | some stream => conn.closeStreamId id stream

def constructStreams : Leaves Unit :=
  let nextStreamId := fun directionality => initialStreamId conn.nodeType ⟨.localNode,directionality⟩
  let conn := {conn with streamManager := {
    streamIds := fun kind => {nextAcceptableStreamId := initialStreamId conn.nodeType kind}
    nextStreamId
    nextStreamGroupId := nextStreamId}}
  conn.refreshTransportSettings conn.transportSettings

end QuicConnectionState

end StreamServer.State
