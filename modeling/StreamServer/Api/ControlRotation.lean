import StreamServer.Api.Scheduler

/-! The iterator that walks an ordered set from the middle, and the round robin of the
control streams over it. A position is counted from the beginning of the set, and the
size of the set is its end. The walk is the list `startingFrom` of the scheduler. -/
namespace StreamServer.Api.StreamFrameScheduler
open Protocol State Lib.Transition

structure MiddleStartingIterator where
  wrappedAround : Bool := false
  itr : Nat
  deriving DecidableEq, Repr

namespace MiddleStartingIterator

def checkForWrapAround (streams : List StreamId) (iterator : MiddleStartingIterator) :
    MiddleStartingIterator :=
  if iterator.itr = streams.length then ⟨true,0⟩ else iterator

/-- The first id that does not compare below the start, not yet marked as wrapped around. -/
def make (streams : List StreamId) (start : StreamId) : MiddleStartingIterator :=
  let lowerBound := streams.findIdx fun id => !decide (id < start)
  {checkForWrapAround streams ⟨false,lowerBound⟩ with wrappedAround := false}

def increment (streams : List StreamId) (iterator : MiddleStartingIterator) :
    MiddleStartingIterator :=
  checkForWrapAround streams {iterator with itr := iterator.itr + 1}

def dereference (streams : List StreamId) (iterator : MiddleStartingIterator) : Option StreamId :=
  streams[iterator.itr]?

end MiddleStartingIterator

namespace MiddleStartingIterationWrapper

def cbegin (streams : List StreamId) (start : StreamId) : MiddleStartingIterator :=
  .make streams start

def cend (streams : List StreamId) (start : StreamId) : MiddleStartingIterator :=
  {MiddleStartingIterator.make streams start with wrappedAround := true}

end MiddleStartingIterationWrapper

open MiddleStartingIterator MiddleStartingIterationWrapper

variable {conn : QuicConnectionState} {progress : Progress} {ids : List StreamId}
  {start first : StreamId} {position fuel : Nat} {iterator : MiddleStartingIterator}

/-- The ids met from an iterator up to another, if that one is met at all. -/
def visited (streams : List StreamId) (last : MiddleStartingIterator) :
    Nat → MiddleStartingIterator → Option (List StreamId)
  | 0, _ => none
  | fuel + 1, iterator =>
    if iterator = last then some []
    else do
      let id ← iterator.dereference streams
      return id :: (← visited streams last fuel (iterator.increment streams))

/-- Where the next packet starts. -/
def resumeAt (streams : List StreamId) (iterator : MiddleStartingIterator) (progress : Progress) :
    Except Error (StreamId × Progress) :=
  match iterator.dereference streams with
  | none => .error nullStream
  | some id => .ok (id,progress)

/-- The loop over the streams, without a result when it has not ended by then. -/
def writeFrom (conn : QuicConnectionState) (streams : List StreamId) (streamPerPacket : Bool)
    (last : MiddleStartingIterator) :
    Nat → MiddleStartingIterator → Progress → Option (Except Error (StreamId × Progress))
  | 0, _, _ => none
  | fuel + 1, iterator, progress =>
    if iterator = last then some (resumeAt streams iterator progress)
    else
      match (iterator.dereference streams).bind conn.findStream with
      | none => some (.error nullStream)
      | some stream =>
        match writeSingleStream stream progress with
        | .error error => some (.error error)
        | .ok (written,next) =>
          if !written then some (resumeAt streams iterator next)
          else if streamPerPacket then some (resumeAt streams (iterator.increment streams) next)
          else writeFrom conn streams streamPerPacket last fuel (iterator.increment streams) next

def writeStreamsHelper (conn : QuicConnectionState) (writableStreams : List StreamId)
    (nextScheduledStream : StreamId) (streamPerPacket : Bool) (fuel : Nat) (progress : Progress) :
    Option (Except Error (StreamId × Progress)) :=
  writeFrom conn writableStreams streamPerPacket (cend writableStreams nextScheduledStream) fuel
    (cbegin writableStreams nextScheduledStream) progress

/-- What is still to be visited when the walk began at a position. -/
def ahead (streams : List StreamId) (position : Nat) (iterator : MiddleStartingIterator) :
    List StreamId :=
  if iterator.wrappedAround then (streams.take position).drop iterator.itr
  else streams.drop iterator.itr ++ streams.take position

/-- An iterator of a walk that began at a position. -/
def OnWalk (streams : List StreamId) (position : Nat) (iterator : MiddleStartingIterator) : Prop :=
  if iterator.wrappedAround then iterator.itr ≤ position else iterator.itr < streams.length

/-- The walk meets one id after the other until it is back, now wrapped around. -/
private theorem walk_step (inside : position < ids.length) (on : OnWalk ids position iterator)
    (going : iterator ≠ ⟨true,position⟩) :
    ∃ id, iterator.dereference ids = some id ∧
      ahead ids position iterator = id :: ahead ids position (iterator.increment ids) ∧
      OnWalk ids position (iterator.increment ids) := by
  obtain ⟨wrapped,itr⟩ := iterator
  have short : itr < ids.length := by
    cases wrapped with
    | false => exact on
    | true => exact lt_of_le_of_lt on inside
  refine ⟨ids[itr],List.getElem?_eq_getElem short,?_⟩
  cases wrapped with
  | false =>
    -- only from the last element does the walk go on at the beginning of the set
    by_cases atLast : itr + 1 = ids.length
    · simp [ahead,OnWalk,increment,checkForWrapAround,atLast,List.drop_eq_getElem_cons short]
    · simp only [ahead,OnWalk,increment,checkForWrapAround,atLast,List.drop_eq_getElem_cons short]
      exact ⟨rfl,show itr + 1 < ids.length by omega⟩
  | true =>
    have before : itr < position := by
      have le : itr ≤ position := on
      have other : itr ≠ position := fun same => going (by rw [same])
      omega
    have within : itr < (ids.take position).length := by
      rw [List.length_take]
      omega
    have inner : itr + 1 ≠ ids.length := by omega
    simp only [ahead,OnWalk,increment,checkForWrapAround,inner,if_false,if_true,
      List.drop_eq_getElem_cons within,List.getElem_take]
    exact ⟨trivial,before⟩

private theorem visited_ahead (inside : position < ids.length) (on : OnWalk ids position iterator)
    (enough : (ahead ids position iterator).length < fuel) :
    visited ids ⟨true,position⟩ fuel iterator = some (ahead ids position iterator) := by
  induction fuel generalizing iterator with
  | zero => exact absurd enough (Nat.not_lt_zero _)
  | succ fuel ih =>
    unfold visited
    split
    next back => simp [back,ahead]
    next going =>
      obtain ⟨id,met,order,on⟩ := walk_step inside on going
      rw [order,List.length_cons] at enough
      simp [met,order,ih on (by omega)]

private theorem resumeAt_ahead (inside : position < ids.length)
    (on : OnWalk ids position iterator) (begins : ids[position]? = some first) :
    resumeAt ids iterator progress =
      .ok ((ahead ids position iterator).head?.getD first,progress) := by
  by_cases back : iterator = ⟨true,position⟩
  · simp [back,ahead,resumeAt,dereference,begins]
  · obtain ⟨id,met,order,-⟩ := walk_step inside on back
    simp [resumeAt,met,order]

/-- The loop over the iterator is the recursion over the ids that are still to be visited. -/
private theorem writeFrom_ahead (inside : position < ids.length) (on : OnWalk ids position iterator)
    (begins : ids[position]? = some first)
    (enough : (ahead ids position iterator).length < fuel) :
    writeFrom conn ids conn.transportSettings.streamFramePerPacket ⟨true,position⟩ fuel iterator
      progress = some (writeControlStreams conn first (ahead ids position iterator) progress) := by
  induction fuel generalizing iterator progress with
  | zero => exact absurd enough (Nat.not_lt_zero _)
  | succ fuel ih =>
    unfold writeFrom
    split
    next back =>
      rw [resumeAt_ahead inside on begins]
      simp [back,ahead,writeControlStreams]
    next going =>
      obtain ⟨id,met,order,further⟩ := walk_step inside on going
      rw [order,List.length_cons] at enough
      rw [order,writeControlStreams,met,Option.bind_some]
      cases conn.findStream id with
      | none => rfl
      | some stream =>
        cases single : writeSingleStream stream progress with
        | error error => simp [single,bind,Except.bind]
        | ok answer =>
          obtain ⟨written,next⟩ := answer
          simp only [single,resumeAt_ahead inside on begins,resumeAt_ahead inside further begins,
            ih further (Nat.lt_of_succ_lt_succ enough),order,bind,Except.bind,pure,Except.pure]
          split_ifs <;> rfl

private theorem startingFrom_walk (nonempty : ids ≠ []) :
    ∃ position, position < ids.length ∧ cbegin ids start = ⟨false,position⟩ ∧
      startingFrom start ids = ids.drop position ++ ids.take position := by
  have cut : startingFrom start ids = ids.drop (ids.findIdx fun id => !decide (id < start)) ++
      ids.take (ids.findIdx fun id => !decide (id < start)) := by
    rw [startingFrom,List.dropWhile_eq_drop_findIdx_not,List.takeWhile_eq_take_findIdx_not]
  by_cases none : (ids.findIdx fun id => !decide (id < start)) = ids.length
  · refine ⟨0,List.length_pos_iff.mpr nonempty,?_,?_⟩
    · simp [cbegin,make,checkForWrapAround,none]
    · simp [cut,none]
  · refine ⟨_,lt_of_le_of_ne List.findIdx_le_length none,?_,cut⟩
    simp [cbegin,make,checkForWrapAround,none]

/-- With more steps than there are streams the loop has ended, and it is the round of the
scheduler over the ids from the start on. -/
theorem writeStreamsHelper_refines (nonempty : ids ≠ []) (enough : ids.length < fuel) :
    ∃ first rest, startingFrom start ids = first :: rest ∧
      visited ids (cend ids start) fuel (cbegin ids start) = some (first :: rest) ∧
      writeStreamsHelper conn ids start conn.transportSettings.streamFramePerPacket fuel progress =
        some (writeControlStreams conn first (first :: rest) progress) := by
  obtain ⟨position,inside,begins,order⟩ := @startingFrom_walk ids start nonempty
  have ends : cend ids start = ⟨true,position⟩ := by
    have made : make ids start = ⟨false,position⟩ := begins
    rw [cend,made]
  have cut : startingFrom start ids =
      ids[position] :: (ids.drop (position + 1) ++ ids.take position) := by
    rw [order,List.drop_eq_getElem_cons inside,List.cons_append]
  have whole : ahead ids position ⟨false,position⟩ = startingFrom start ids := order.symm
  have steps : (ahead ids position ⟨false,position⟩).length < fuel := by
    rw [whole,order,List.length_append,List.length_drop,List.length_take]
    omega
  refine ⟨_,_,cut,?_,?_⟩
  · rw [← cut,← whole,ends,begins]
    exact visited_ahead inside inside steps
  · rw [← cut,← whole,writeStreamsHelper,ends,begins]
    exact writeFrom_ahead inside inside (List.getElem?_eq_getElem inside) steps

theorem startingFrom_rotated : startingFrom start ids ~r ids := by
  have whole := @List.takeWhile_append_dropWhile _ (fun id : StreamId => decide (id < start)) ids
  rw [startingFrom]
  nth_rewrite 3 [← whole]
  exact List.isRotated_append

theorem startingFrom_head :
    (startingFrom start ids).head? = (ids.find? (start ≤ ·)).or ids.head? := by
  have found : ids.find? (start ≤ ·) = (ids.dropWhile (· < start)).head? := by
    rw [List.find?_eq_head?_dropWhile_not]
    simp only [← decide_not,not_le]
  rw [startingFrom,List.head?_append,found]
  have whole := @List.takeWhile_append_dropWhile _ (fun id : StreamId => decide (id < start)) ids
  cases later : ids.dropWhile (· < start) with
  | nil =>
    rw [later,List.append_nil] at whole
    rw [whole]
  | cons id rest => rfl

/-- A walk that starts at an id of the set meets that id first. -/
theorem startingFrom_member (sorted : ids.Pairwise (· < ·)) (member : start ∈ ids) :
    (startingFrom start ids).head? = some start := by
  obtain ⟨before,after,rfl⟩ := List.append_of_mem member
  have below : ∀ id ∈ before, decide (id < start) = true := fun id inside =>
    decide_eq_true ((List.pairwise_append.mp sorted).2.2 id inside start List.mem_cons_self)
  rw [startingFrom,List.dropWhile_append_of_pos below,List.dropWhile_cons_of_neg (by simp)]
  rfl

/-- The streams are written one after the other. -/
inductive Written (conn : QuicConnectionState) : List StreamId → Progress → Progress → Prop
  | done (progress : Progress) : Written conn [] progress progress
  | next {id : StreamId} {rest : List StreamId} {stream : QuicStreamState}
      {progress following last : Progress} (found : conn.findStream id = some stream)
      (wrote : writeSingleStream stream progress = .ok (true,following))
      (others : Written conn rest following last) : Written conn (id :: rest) progress last

/-- A round over an order of streams: those before the stop are written, and the id at the stop
is the result, or the first one again when none is left. -/
def Round (conn : QuicConnectionState) (first : StreamId) (order : List StreamId)
    (progress : Progress) (result : StreamId × Progress) : Prop :=
  ∃ before after middle, before ++ after = order ∧ Written conn before progress middle ∧
    after.head?.getD first = result.1 ∧
    (after = [] ∧ result.2 = middle ∨
      conn.transportSettings.streamFramePerPacket = true ∧ before.length = 1 ∧ result.2 = middle ∨
      ∃ stream, after.head? = some result.1 ∧ conn.findStream result.1 = some stream ∧
        writeSingleStream stream middle = .ok (false,result.2))

variable {order : List StreamId} {result : StreamId × Progress}

private theorem writeControlStreams_round
    (written : writeControlStreams conn first order progress = .ok result) :
    Round conn first order progress result := by
  induction order generalizing progress with
  | nil =>
    cases written
    exact ⟨[],[],progress,rfl,.done _,rfl,.inl ⟨rfl,rfl⟩⟩
  | cons id rest ih =>
    unfold writeControlStreams at written
    split at written
    · cases written
    next stream found =>
      obtain ⟨⟨wrote,next⟩,single,others⟩ := bind_ok.mp written
      cases wrote with
      | false =>
        cases others
        exact ⟨[],_,progress,rfl,.done _,rfl,.inr (.inr ⟨stream,rfl,found,single⟩)⟩
      | true =>
        cases setting : conn.transportSettings.streamFramePerPacket with
        | true =>
          simp only [setting] at others
          cases others
          exact ⟨[id],rest,next,rfl,.next found single (.done _),rfl,.inr (.inl ⟨setting,rfl,rfl⟩)⟩
        | false =>
          simp only [setting] at others
          obtain ⟨before,after,middle,parts,done,resumes,stopped⟩ := ih others
          rw [setting] at stopped
          exact ⟨id :: before,after,middle,congrArg (id :: ·) parts,.next found single done,resumes,
            stopped.imp_right fun other => .inr (other.resolve_left (by simp))⟩

private theorem Round.resumes_inside (round : Round conn first order progress result)
    (member : first ∈ order) : result.1 ∈ order := by
  obtain ⟨before,after,middle,parts,-,resumes,-⟩ := round
  cases after with
  | nil => rwa [← resumes]
  | cons id rest =>
    have stop : id = result.1 := resumes
    rw [← parts,← stop]
    simp

/-- The iterator visits each stream of a set once, in the cyclic order that begins with the
first id not below the start. A packet that is filled from the set ends at the stream it could
not write, or at the first one after a complete round, and the next packet begins there. -/
theorem control_streams_rotate (conn : QuicConnectionState) (progress : Progress)
    (start : StreamId) (sorted : ids.Pairwise (· < ·)) (nonempty : ids ≠ []) :
    ∃ first rest, (first :: rest) ~r ids ∧
      (∀ id, (first :: rest).count id = if id ∈ ids then 1 else 0) ∧
      some first = (ids.find? (start ≤ ·)).or ids.head? ∧
      ∀ fuel > ids.length,
        visited ids (cend ids start) fuel (cbegin ids start) = some (first :: rest) ∧
        ∃ outcome, writeStreamsHelper conn ids start
          conn.transportSettings.streamFramePerPacket fuel progress = some outcome ∧
          ∀ result, outcome = .ok result → Round conn first (first :: rest) progress result ∧
            ∃ others, visited ids (cend ids result.1) fuel (cbegin ids result.1) =
              some (result.1 :: others) := by
  obtain ⟨first,rest,order,-⟩ :=
    @writeStreamsHelper_refines conn progress ids start _ nonempty (Nat.lt_succ_self _)
  have rotated : (first :: rest) ~r ids := order ▸ startingFrom_rotated
  refine ⟨first,rest,rotated,?_,?_,?_⟩
  · intro id
    rw [rotated.perm.count_eq,sorted.nodup.count]
  · rw [← startingFrom_head,order,List.head?_cons]
  intro fuel enough
  obtain ⟨_,_,same,visits,writes⟩ :=
    @writeStreamsHelper_refines conn progress ids start fuel nonempty enough
  obtain ⟨rfl,rfl⟩ := List.cons.inj (order.symm.trans same)
  refine ⟨visits,_,writes,?_⟩
  intro result returned
  have round := writeControlStreams_round returned
  have inside : result.1 ∈ ids :=
    rotated.mem_iff.mp (round.resumes_inside List.mem_cons_self)
  obtain ⟨next,others,following,resumed,-⟩ :=
    @writeStreamsHelper_refines conn progress ids result.1 fuel nonempty enough
  have meets := startingFrom_member sorted inside
  rw [following,List.head?_cons] at meets
  rw [Option.some.inj meets] at resumed
  exact ⟨round,others,resumed⟩

theorem control_streams_rotate_middle : ([0,4,8] : List StreamId).Pairwise (· < ·) ∧
    ∃ rest, (8 :: rest) ~r [0,4,8] ∧ ∀ fuel > 3,
      visited [0,4,8] (cend [0,4,8] 5) fuel (cbegin [0,4,8] 5) = some (8 :: rest) := by
  obtain ⟨first,rest,rotated,-,starts,walks⟩ := @control_streams_rotate [0,4,8]
    {nodeType := .client} ⟨⟨0,.short ⟨.zero,⟨[],by decide⟩,0⟩,0,[],true,[],[],none,0,0,.chainedMemory⟩,0⟩
    5 (by decide) (by decide)
  have eight : first = 8 := Option.some.inj (starts.trans (by decide))
  subst eight
  exact ⟨by decide,rest,rotated,fun fuel enough => (walks fuel enough).1⟩

end StreamServer.Api.StreamFrameScheduler
