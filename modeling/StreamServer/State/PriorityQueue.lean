import StreamServer.State.StreamData

/-! The queue of streams with data to send: one sorted set of streams for each
priority bucket, with the position its round robin has reached. -/
namespace StreamServer.State
open Protocol

structure OrderedStream where
  orderId : Nat
  streamId : StreamId
  deriving DecidableEq, Repr

def OrderedStream.before (lhs rhs : OrderedStream) : Bool :=
  if lhs.orderId = rhs.orderId then lhs.streamId < rhs.streamId else lhs.orderId < rhs.orderId

def insertOrdered (stream : OrderedStream) : List OrderedStream → List OrderedStream
  | [] => [stream]
  | head :: tail =>
    if stream.before head then stream :: head :: tail
    else if stream = head then head :: tail
    else head :: insertOrdered stream tail

/-- A bucket with its iterator. `nextStreamIt` and `startStreamIt`, which only a round robin has, are
none at the end of the set. -/
structure Level where
  streams : List OrderedStream := []
  incremental : Bool
  nextStreamIt : Option OrderedStream := none
  startStreamIt : Option OrderedStream := none
  nextsSoFar : Nat := 0
  maxNextsPerStream : Nat := 1
  streamToOrderId : AList (fun _ : StreamId => Nat) := ∅

/-- The element after a member of the set, none after the last. -/
def successor (streams : List OrderedStream) (stream : OrderedStream) : Option OrderedStream :=
  (streams.dropWhile (fun other => other != stream)).tail.head?

namespace Level

def getOrderedStream (level : Level) (id : StreamId) : OrderedStream :=
  ⟨(level.streamToOrderId.lookup id).getD 0,id⟩

def insert (level : Level) (streamId orderId : Nat) : Level :=
  {level with
    streamToOrderId :=
      if orderId > 0 then level.streamToOrderId.insert streamId orderId else level.streamToOrderId
    streams := insertOrdered ⟨orderId,streamId⟩ level.streams}

/-- The mapping to order ids and the start of the round robin are left as they are. -/
def eraseStream (level : Level) (id : StreamId) : Level :=
  let stream := level.getOrderedStream id
  if stream ∈ level.streams then
    if level.nextStreamIt = some stream then
      {level with
        nextStreamIt := successor level.streams stream
        nextsSoFar := 0
        streams := level.streams.erase stream}
    else {level with streams := level.streams.erase stream}
  else level

/-- The iterator at its first position; a round robin will stop when it is back there. -/
def begin (level : Level) : Level :=
  if level.incremental then
    let next := level.nextStreamIt.or level.streams.head?
    {level with nextStreamIt := next, startStreamIt := next}
  else {level with nextStreamIt := level.streams.head?}

def atEnd (level : Level) : Bool :=
  if level.incremental then level.nextStreamIt == level.startStreamIt else level.nextStreamIt.isNone

def next (level : Level) (force : Bool) : Level :=
  let moved := level.nextStreamIt.bind (successor level.streams)
  if level.incremental then
    if !force && level.nextsSoFar + 1 < level.maxNextsPerStream then
      {level with nextsSoFar := level.nextsSoFar + 1}
    else {level with nextStreamIt := moved.or level.streams.head?, nextsSoFar := 0}
  else {level with nextStreamIt := moved}

end Level

def kDefaultPriorityLevelsSize : Nat := 16

structure PriorityQueue where
  levels : List Level :=
    (List.range kDefaultPriorityLevelsSize).map fun index => {incremental := index % 2 == 1}
  writableStreamsToLevel : AList (fun _ : StreamId => Nat) := ∅

def priority2index (priority : Priority) : Nat :=
  priority.level * 2 + if priority.incremental then 1 else 0

namespace PriorityQueue

def updateExistingStreamPriority (queue : PriorityQueue) (id : StreamId) (current : Nat)
    (priority : Priority) : PriorityQueue :=
  let index := priority2index priority
  if current = index then queue
  else
    {levels := (queue.levels.modify current (·.eraseStream id)).modify index
        (·.insert id priority.orderId)
     writableStreamsToLevel := queue.writableStreamsToLevel.insert id index}

def insertOrUpdate (queue : PriorityQueue) (id : StreamId) (priority : Priority) : PriorityQueue :=
  match queue.writableStreamsToLevel.lookup id with
  | some current => queue.updateExistingStreamPriority id current priority
  | none =>
    let index := priority2index priority
    {levels := queue.levels.modify index (·.insert id priority.orderId)
     writableStreamsToLevel := queue.writableStreamsToLevel.insert id index}

def updateIfExist (queue : PriorityQueue) (id : StreamId) (priority : Priority) : PriorityQueue :=
  match queue.writableStreamsToLevel.lookup id with
  | some current => queue.updateExistingStreamPriority id current priority
  | none => queue

def erase (queue : PriorityQueue) (id : StreamId) : PriorityQueue :=
  match queue.writableStreamsToLevel.lookup id with
  | some current =>
    {levels := queue.levels.modify current (·.eraseStream id)
     writableStreamsToLevel := queue.writableStreamsToLevel.erase id}
  | none => queue

def empty (queue : PriorityQueue) : Bool := queue.writableStreamsToLevel.entries.isEmpty

/-- The stream the next packet starts with, and the queue after its first bucket with streams has
been positioned on it. -/
def getNextScheduledStream (queue : PriorityQueue) : Option StreamId × PriorityQueue :=
  match queue.levels.findIdx? (fun level => !level.streams.isEmpty) with
  | none => (none,queue)
  | some index =>
    match queue.levels[index]? with
    | none => (none,queue)
    | some level =>
      let positioned := level.begin
      (positioned.nextStreamIt.map (·.streamId),{queue with levels := queue.levels.set index positioned})

end PriorityQueue

end StreamServer.State
