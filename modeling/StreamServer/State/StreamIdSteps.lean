import StreamServer.State.StreamIds

/-! What each operation of the stream manager does to the ids: opening them in bulk, giving a
stream its state, moving a limit and closing an id. -/
namespace StreamServer.State
open Protocol QuicConnectionState

variable {kind : StreamKind} {nodeType : QuicNodeType}

theorem getStreamKind_iff {id : Nat} :
    getStreamKind nodeType id = kind ↔ id % kStreamIncrement = initialStreamId nodeType kind := by
  obtain ⟨initiator,directionality⟩ := kind
  simp only [getStreamKind,StreamKind.mk.injEq,getStreamInitiator,getStreamDirectionality,isLocalStream,
    isClientStream,isServerStream,isUnidirectionalStream,kStreamIncrement,initialStreamId]
  have four : id % 4 = 2 * (id / 2 % 2) + id % 2 := by omega
  have low := Nat.mod_two_eq_zero_or_one id
  have high := Nat.mod_two_eq_zero_or_one (id / 2)
  rw [four]
  cases nodeType <;> cases initiator <;> cases directionality <;>
    rcases low with low | low <;> rcases high with high | high <;> simp [low,high]

theorem isRemoteStream_iff {id : Nat} :
    isRemoteStream nodeType id = true ↔ (getStreamKind nodeType id).initiator = .remoteNode := by
  have low := Nat.mod_two_eq_zero_or_one id
  simp only [isRemoteStream,getStreamKind,getStreamInitiator,isLocalStream,isClientStream,isServerStream]
  cases nodeType <;> rcases low with low | low <;> simp [low]

theorem mem_idsUpTo {start streamId id : Nat} (ordered : start ≤ streamId)
    (aligned : start % kStreamIncrement = streamId % kStreamIncrement) :
    id ∈ idsUpTo start streamId ↔
      start ≤ id ∧ id ≤ streamId ∧ id % kStreamIncrement = start % kStreamIncrement := by
  simp only [idsUpTo,List.mem_map,List.mem_range,kStreamIncrement] at *
  constructor
  · rintro ⟨i,small,rfl⟩
    omega
  · rintro ⟨least,most,same⟩
    exact ⟨(id - start) / 4,by omega,by omega⟩

theorem idsUpTo_nodup (start streamId : Nat) : (idsUpTo start streamId).Nodup := by
  apply List.Nodup.map _ List.nodup_range
  intro a b same
  have sums : start + 4 * a = start + 4 * b := same
  omega

/-- What the sets of ids say about each other at any time. -/
structure IdsSound (conn : QuicConnectionState) : Prop where
  below : ∀ kind id, id ∈ (conn.streamManager.streamIds kind).openStreams →
    getStreamKind conn.nodeType id = kind ∧ id < (conn.streamManager.streamIds kind).nextAcceptableStreamId
  aligned : ∀ kind, (conn.streamManager.streamIds kind).nextAcceptableStreamId % kStreamIncrement =
    initialStreamId conn.nodeType kind
  stated : ∀ id stream, conn.findStream id = some stream →
    stream.id = id ∧ id ∈ (conn.streamIdsOf id).openStreams
  ranked : ∀ id, (conn.streamManager.streamPriorityLevelsNoCtrl.lookup id).isSome ↔
    ∃ stream, conn.findStream id = some stream ∧ stream.isControl = false

def reportCount (conn : QuicConnectionState) (id : StreamId) : Nat :=
  conn.streamManager.newPeerStreams.count id + conn.streamManager.newGroupedPeerStreams.count id

/-- The streams that wait to be reported with a group. -/
def QuicConnectionState.grouped (conn : QuicConnectionState) : List StreamId :=
  conn.streamManager.newGroupedPeerStreams

def QuicStreamManager.credits (manager : QuicStreamManager) : (StreamDirectionality → Option Nat) × Nat :=
  (manager.remoteStreamLimitUpdate,manager.streamLimitWindowingFraction)

/-- What no operation on a single stream changes. -/
structure SameFrame (before after : QuicConnectionState) : Prop where
  node : after.nodeType = before.nodeType
  settings : after.transportSettings = before.transportSettings
  nexts : after.streamManager.nextStreamId = before.streamManager.nextStreamId

theorem SameFrame.trans {before middle after : QuicConnectionState} (first : SameFrame before middle)
    (second : SameFrame middle after) : SameFrame before after :=
  ⟨second.node.trans first.node,second.settings.trans first.settings,second.nexts.trans first.nexts⟩

/-- What opening ids and creating states does to a connection: `opened` are the ids that were opened
and `made` those that got a state. -/
structure Advance (before after : QuicConnectionState) (opened made : List StreamId) : Prop
    extends SameFrame before after where
  sound : IdsSound after
  credits : after.streamManager.credits = before.streamManager.credits
  limits : ∀ kind, (after.streamManager.streamIds kind).maxStreamId =
    (before.streamManager.streamIds kind).maxStreamId
  opens : ∀ id, id ∈ (after.streamIdsOf id).openStreams ↔
    id ∈ (before.streamIdsOf id).openStreams ∨ id ∈ opened
  reaches : ∀ id, id < (after.streamIdsOf id).nextAcceptableStreamId ↔
    id < (before.streamIdsOf id).nextAcceptableStreamId ∨ id ∈ opened
  fresh : ∀ id ∈ opened, ¬id < (before.streamIdsOf id).nextAcceptableStreamId ∧
    id < (before.streamIdsOf id).maxStreamId
  once : opened.Nodup ∧ made.Nodup
  makes : ∀ id, (after.findStream id).isSome ↔ (before.findStream id).isSome ∨ id ∈ made
  newly : ∀ id ∈ made, before.findStream id = none ∧ id ∈ (after.streamIdsOf id).openStreams
  reports : ∀ id, reportCount after id = reportCount before id +
    if isRemoteStream before.nodeType id then
      if before.transportSettings.notifyOnNewStreamsExplicitly then made.count id else opened.count id
    else 0

namespace Advance

variable {before middle after : QuicConnectionState} {opened made moreOpened moreMade : List StreamId}

theorem refl (sound : IdsSound before) : Advance before before [] [] :=
  {sound, node := rfl, settings := rfl, nexts := rfl, credits := rfl, limits := fun _ => rfl
   opens := by simp, reaches := by simp, fresh := by simp, once := by simp, makes := by simp
   newly := by simp, reports := by simp}

theorem trans (first : Advance before middle opened made)
    (second : Advance middle after moreOpened moreMade) :
    Advance before after (opened ++ moreOpened) (made ++ moreMade) := by
  have limit : ∀ id, (middle.streamIdsOf id).maxStreamId = (before.streamIdsOf id).maxStreamId := by
    intro id
    rw [streamIdsOf,streamIdsOf,first.node,first.limits]
  refine {
    toSameFrame := first.toSameFrame.trans second.toSameFrame
    sound := second.sound
    credits := second.credits.trans first.credits
    limits := fun kind => (second.limits kind).trans (first.limits kind)
    opens := fun id => by rw [second.opens,first.opens,List.mem_append,or_assoc]
    reaches := fun id => by rw [second.reaches,first.reaches,List.mem_append,or_assoc]
    fresh := ?_, once := ?_
    makes := fun id => by rw [second.makes,first.makes,List.mem_append,or_assoc]
    newly := ?_, reports := ?_}
  · intro id inside
    rcases List.mem_append.mp inside with here | later
    · exact first.fresh id here
    · obtain ⟨beyond,within⟩ := second.fresh id later
      refine ⟨fun low => beyond ((first.reaches id).mpr (.inl low)),?_⟩
      rwa [← limit]
  · constructor
    · refine List.nodup_append'.mpr ⟨first.once.1,second.once.1,fun id here later => ?_⟩
      exact (second.fresh id later).1 ((first.reaches id).mpr (.inr here))
    · refine List.nodup_append'.mpr ⟨first.once.2,second.once.2,fun id here later => ?_⟩
      have present := (first.makes id).mpr (.inr here)
      rw [(second.newly id later).1] at present
      cases present
  · intro id inside
    rcases List.mem_append.mp inside with here | later
    · obtain ⟨absent,isOpen⟩ := first.newly id here
      exact ⟨absent,(second.opens id).mpr (.inl isOpen)⟩
    · obtain ⟨absent,isOpen⟩ := second.newly id later
      refine ⟨?_,isOpen⟩
      by_contra present
      have some := (first.makes id).mpr (.inl (Option.isSome_iff_ne_none.mpr present))
      rw [absent] at some
      cases some
  · intro id
    rw [second.reports,first.reports,first.node,first.settings,List.count_append,List.count_append]
    split_ifs <;> omega

end Advance

/-- Two connections that differ in nothing the discipline speaks of but what is reported. -/
structure SameIds (before after : QuicConnectionState) : Prop extends SameFrame before after where
  credits : after.streamManager.credits = before.streamManager.credits
  ids : after.streamManager.streamIds = before.streamManager.streamIds
  streams : after.streamManager.streams = before.streamManager.streams
  levels : after.streamManager.streamPriorityLevelsNoCtrl = before.streamManager.streamPriorityLevelsNoCtrl

namespace SameIds

variable {before middle after : QuicConnectionState}

theorem trans (first : SameIds before middle) (second : SameIds middle after) : SameIds before after :=
  ⟨first.toSameFrame.trans second.toSameFrame,second.credits.trans first.credits,
    second.ids.trans first.ids,second.streams.trans first.streams,second.levels.trans first.levels⟩

theorem space (same : SameIds before after) (id : StreamId) :
    after.streamIdsOf id = before.streamIdsOf id := by
  rw [streamIdsOf,streamIdsOf,same.node,same.ids]

theorem find (same : SameIds before after) (id : StreamId) :
    after.findStream id = before.findStream id := by
  rw [findStream,findStream,QuicStreamManager.findStream,QuicStreamManager.findStream,same.streams]

theorem sound (same : SameIds before after) (sound : IdsSound before) : IdsSound after := by
  refine ⟨?_,?_,?_,?_⟩
  · intro kind id inside
    rw [same.ids] at inside ⊢
    rw [same.node]
    exact sound.below kind id inside
  · intro kind
    rw [same.ids,same.node]
    exact sound.aligned kind
  · intro id stream found
    rw [same.find] at found
    rw [same.space]
    exact sound.stated id stream found
  · intro id
    rw [same.levels,same.find]
    exact sound.ranked id

end SameIds

theorem noteGroup_same (conn : QuicConnectionState) (groupId : Option Nat) :
    SameIds conn (conn.noteGroup groupId) ∧
      ∀ id, reportCount (conn.noteGroup groupId) id = reportCount conn id := by
  unfold noteGroup
  split
  · exact ⟨⟨⟨rfl,rfl,rfl⟩,rfl,rfl,rfl,rfl⟩,fun _ => rfl⟩
  · split
    · exact ⟨⟨⟨rfl,rfl,rfl⟩,rfl,rfl,rfl,rfl⟩,fun _ => rfl⟩
    · exact ⟨⟨⟨rfl,rfl,rfl⟩,rfl,rfl,rfl,rfl⟩,fun _ => rfl⟩

theorem reportStreams_same (conn : QuicConnectionState) (ids : List StreamId) (groupId : Option Nat) :
    SameIds conn (conn.reportStreams ids groupId) ∧
      ∀ id, reportCount (conn.reportStreams ids groupId) id = reportCount conn id + ids.count id := by
  unfold reportStreams reportCount manage
  dsimp only
  cases groupId with
  | none =>
    refine ⟨⟨⟨rfl,rfl,rfl⟩,rfl,rfl,rfl,rfl⟩,fun id => ?_⟩
    simp only [Option.isSome_none,Bool.false_eq_true,if_false,List.count_append]
    omega
  | some group =>
    refine ⟨⟨⟨rfl,rfl,rfl⟩,rfl,rfl,rfl,rfl⟩,fun id => ?_⟩
    simp only [Option.isSome_some,if_true,List.count_append]
    omega

/-- The state of a stream that has none is created, and put into the priority map. -/
structure Emplaced (conn : QuicConnectionState) (id : StreamId) (stream : QuicStreamState)
    (next : QuicConnectionState) : Prop extends SameFrame conn next where
  sound : IdsSound next
  credits : next.streamManager.credits = conn.streamManager.credits
  ids : next.streamManager.streamIds = conn.streamManager.streamIds
  find : ∀ other, next.findStream other = if other = id then some stream else conn.findStream other
  counts : ∀ other, reportCount next other = reportCount conn other

variable {conn : QuicConnectionState} {stream : QuicStreamState} {space : StreamIdSpace}
  {ids : List StreamId} {id : StreamId}

theorem emplaceStream_emplaced (groupId : Option Nat) (sound : IdsSound conn)
    (absent : conn.findStream id = none) (isOpen : id ∈ (conn.streamIdsOf id).openStreams) :
    ∃ stream next, conn.emplaceStream id groupId = (.ok stream,next) ∧ Emplaced conn id stream next := by
  obtain ⟨stream,created,named,plain⟩ : ∃ stream,
      {QuicStreamState.make conn id with groupId} = stream ∧ stream.id = id ∧ stream.isControl = false :=
    ⟨_,rfl,rfl,rfl⟩
  have unranked : (conn.streamManager.streamPriorityLevelsNoCtrl.lookup id).isSome = false := by
    apply Bool.eq_false_iff.mpr
    intro ranked
    obtain ⟨present,found,-⟩ := (sound.ranked id).mp ranked
    rw [absent] at found
    cases found
  have added : (conn.setStream stream).streamManager.addToStreamPriorityMap stream =
      .ok ((conn.setStream stream).streamManager.setPriorityLevel id stream.priority.level) := by
    have free : ((conn.setStream stream).streamManager.streamPriorityLevelsNoCtrl.lookup
        stream.id).isSome = false := by
      subst named
      exact unranked
    simp only [QuicStreamManager.addToStreamPriorityMap,plain,named,free,Bool.false_eq_true,if_false]
  have find : ∀ other, (conn.setStream stream).findStream other =
      if other = id then some stream else conn.findStream other := by
    intro other
    rw [findStream_setStream,named]
  refine ⟨stream,(conn.setStream stream).manage (·.setPriorityLevel id stream.priority.level),?_,
    ⟨rfl,rfl,rfl⟩,⟨sound.below,sound.aligned,?_,?_⟩,rfl,rfl,find,fun _ => rfl⟩
  · unfold emplaceStream
    simp only [absent,Option.getD_none,created,added,manage]
  · intro other present found
    have found : (if other = id then some stream else conn.findStream other) = some present :=
      (find other).symm.trans found
    split at found
    next same =>
      cases found
      cases same
      exact ⟨named,isOpen⟩
    next => exact sound.stated other present found
  · intro other
    show ((conn.streamManager.streamPriorityLevelsNoCtrl.insert id _).lookup other).isSome ↔
      ∃ present, (conn.setStream stream).findStream other = some present ∧ _
    rw [find]
    by_cases same : other = id
    · subst same
      rw [AList.lookup_insert,if_pos rfl]
      exact ⟨fun _ => ⟨stream,rfl,plain⟩,fun _ => rfl⟩
    · rw [AList.lookup_insert_ne same,if_neg same]
      exact sound.ranked other

/-- What is reported for an id that was opened or got a state, by the mode of the settings. -/
def reportedFor (conn : QuicConnectionState) (opened made : List StreamId) (id : StreamId) : Nat :=
  if isRemoteStream conn.nodeType id then
    if conn.transportSettings.notifyOnNewStreamsExplicitly then made.count id else opened.count id
  else 0

theorem Emplaced.advance {reported next : QuicConnectionState} (same : SameIds conn reported)
    (counts : ∀ other, reportCount reported other = reportCount conn other + reportedFor conn [] [id] other)
    (emplaced : Emplaced reported id stream next) (absent : conn.findStream id = none)
    (isOpen : id ∈ (conn.streamIdsOf id).openStreams) : Advance conn next [] [id] := by
  have space : ∀ other, next.streamIdsOf other = conn.streamIdsOf other := by
    intro other
    rw [← same.space,streamIdsOf,streamIdsOf,emplaced.node,emplaced.ids]
  refine {
    toSameFrame := same.toSameFrame.trans emplaced.toSameFrame
    sound := emplaced.sound
    credits := emplaced.credits.trans same.credits
    limits := fun kind => by rw [emplaced.ids,same.ids]
    opens := fun other => by rw [space]; simp
    reaches := fun other => by rw [space]; simp
    fresh := by simp, once := by simp
    makes := ?_
    newly := ?_
    reports := fun other => by rw [emplaced.counts,counts,reportedFor]}
  · intro other
    rw [emplaced.find,same.find,List.mem_singleton]
    split
    next same => simp [same]
    next other => simp [other]
  · intro other inside
    obtain rfl := List.mem_singleton.mp inside
    exact ⟨absent,by rwa [space]⟩

theorem emplaceStream_advance (groupId : Option Nat) (sound : IdsSound conn)
    (absent : conn.findStream id = none) (isOpen : id ∈ (conn.streamIdsOf id).openStreams)
    (isLocal : isRemoteStream conn.nodeType id = false) :
    ∃ stream next, conn.emplaceStream id groupId = (.ok stream,next) ∧ Advance conn next [] [id] := by
  obtain ⟨stream,next,done,emplaced⟩ := emplaceStream_emplaced groupId sound absent isOpen
  refine ⟨stream,next,done,emplaced.advance ⟨⟨rfl,rfl,rfl⟩,rfl,rfl,rfl,rfl⟩ (fun other => ?_) absent isOpen⟩
  rw [reportedFor]
  by_cases same : other = id
  · simp [same,isLocal]
  · simp [Ne.symm same]

theorem instantiatePeerStream_advance (groupId : Option Nat) (sound : IdsSound conn)
    (absent : conn.findStream id = none) (isOpen : id ∈ (conn.streamIdsOf id).openStreams)
    (remote : isRemoteStream conn.nodeType id = true) :
    ∃ stream next, conn.instantiatePeerStream id groupId = (.ok (some stream),next) ∧
      Advance conn next [] [id] := by
  obtain ⟨noted,quiet⟩ := noteGroup_same conn groupId
  obtain ⟨reported,counted⟩ := reportStreams_same (conn.noteGroup groupId) [id] groupId
  obtain ⟨base,same,counts,based⟩ : ∃ base, SameIds conn base ∧
      (∀ other, reportCount base other = reportCount conn other + reportedFor conn [] [id] other) ∧
      (if conn.transportSettings.notifyOnNewStreamsExplicitly then
        (conn.noteGroup groupId).reportStreams [id] groupId else conn.noteGroup groupId) = base := by
    refine ⟨_,?_,?_,rfl⟩
    · split
      · exact noted.trans reported
      · exact noted
    · intro other
      rw [reportedFor]
      split
      next explicit =>
        rw [counted,quiet]
        by_cases same : other = id
        · simp [same,remote]
        · simp [Ne.symm same]
      next => simp [quiet]
  obtain ⟨stream,next,done,emplaced⟩ := emplaceStream_emplaced groupId (same.sound sound)
    ((same.find id).trans absent) (by rwa [same.space])
  refine ⟨stream,next,?_,emplaced.advance same counts absent isOpen⟩
  simp only [instantiatePeerStream,based,done]
  rfl

theorem openStreamIfNotClosed_ok {opened : StreamIdSpace}
    (done : openStreamIfNotClosed space id = .ok (opened,ids)) :
    ¬id < space.nextAcceptableStreamId ∧ id < space.maxStreamId ∧
      ids = idsUpTo space.nextAcceptableStreamId id ∧
      opened = {space with
        openStreams := space.openStreams ∪ ids.toFinset
        nextAcceptableStreamId := id + kStreamIncrement} := by
  unfold openStreamIfNotClosed at done
  split at done
  · cases done
  next low =>
    split at done
    · cases done
    next high =>
      cases done
      exact ⟨low,Nat.not_le.mp high,rfl,rfl⟩

theorem openStreamIfNotClosed_error {code : LocalErrorCode}
    (failed : openStreamIfNotClosed space id = .error code) :
    (code = .creatingExistingStream ∧ id < space.nextAcceptableStreamId) ∨
      code = .streamLimitExceeded ∧ ¬id < space.nextAcceptableStreamId ∧ space.maxStreamId ≤ id := by
  unfold openStreamIfNotClosed at failed
  split at failed
  next early =>
    cases failed
    exact .inl ⟨rfl,early⟩
  next late =>
    split at failed
    next limit =>
      cases failed
      exact .inr ⟨rfl,late,limit⟩
    next => cases failed

theorem opened_ids {id other : Nat} (sound : IdsSound conn)
    (low : ¬id < (conn.streamIdsOf id).nextAcceptableStreamId) :
    other ∈ idsUpTo (conn.streamIdsOf id).nextAcceptableStreamId id ↔
      getStreamKind conn.nodeType other = getStreamKind conn.nodeType id ∧
        ¬other < (conn.streamIdsOf id).nextAcceptableStreamId ∧ other ≤ id := by
  have aligned : (conn.streamIdsOf id).nextAcceptableStreamId % kStreamIncrement = _ :=
    sound.aligned (getStreamKind conn.nodeType id)
  have own : id % kStreamIncrement = initialStreamId conn.nodeType (getStreamKind conn.nodeType id) :=
    getStreamKind_iff.mp rfl
  rw [mem_idsUpTo (Nat.not_lt.mp low) (aligned.trans own.symm),getStreamKind_iff,aligned]
  constructor
  · rintro ⟨least,most,same⟩
    exact ⟨same,Nat.not_lt.mpr least,most⟩
  · rintro ⟨same,least,most⟩
    exact ⟨Nat.not_lt.mp least,most,same⟩

private theorem below_next {other id next : Nat} (lowBits : other % kStreamIncrement = id % kStreamIncrement)
    (low : ¬id < next) {kinds : Prop} (kind : kinds) :
    other < id + kStreamIncrement ↔ other < next ∨ kinds ∧ ¬other < next ∧ other ≤ id := by
  unfold kStreamIncrement at *
  constructor
  · intro small
    by_cases early : other < next
    · exact .inl early
    · exact .inr ⟨kind,early,by omega⟩
  · rintro (early | ⟨-,-,small⟩) <;> omega

/-- Opening an id opens all of its kind that were not yet, and only these. -/
theorem openIds_advance {reported : QuicConnectionState} {id : Nat} (sound : IdsSound conn)
    (done : openStreamIfNotClosed (conn.streamIdsOf id) id = .ok (space,ids))
    (same : SameIds (conn.manage (·.setStreamIds (getStreamKind conn.nodeType id) space)) reported)
    (counts : ∀ other, reportCount reported other = reportCount conn other + reportedFor conn ids [] other) :
    Advance conn reported ids [] := by
  obtain ⟨low,high,rfl,rfl⟩ := openStreamIfNotClosed_ok done
  have member := fun other => @opened_ids conn id other sound low
  have node : reported.nodeType = conn.nodeType := same.node
  have find : ∀ other, reported.findStream other = conn.findStream other := same.find
  have ids : ∀ kind, reported.streamManager.streamIds kind =
      if kind = getStreamKind conn.nodeType id then {conn.streamIdsOf id with
        openStreams := (conn.streamIdsOf id).openStreams ∪
          (idsUpTo (conn.streamIdsOf id).nextAcceptableStreamId id).toFinset
        nextAcceptableStreamId := id + kStreamIncrement}
      else conn.streamManager.streamIds kind := by
    intro kind
    rw [same.ids]
    exact Function.update_apply ..
  have opens : ∀ other, other ∈ (reported.streamIdsOf other).openStreams ↔
      other ∈ (conn.streamIdsOf other).openStreams ∨
        other ∈ idsUpTo (conn.streamIdsOf id).nextAcceptableStreamId id := by
    intro other
    rw [streamIdsOf,node,ids]
    split_ifs with kind
    · have space : conn.streamIdsOf other = conn.streamIdsOf id := by rw [streamIdsOf,kind]; rfl
      rw [space,Finset.mem_union,List.mem_toFinset]
    · rw [member]
      exact ⟨.inl,fun either => either.resolve_right fun inside => kind inside.1⟩
  have reaches : ∀ other, other < (reported.streamIdsOf other).nextAcceptableStreamId ↔
      other < (conn.streamIdsOf other).nextAcceptableStreamId ∨
        other ∈ idsUpTo (conn.streamIdsOf id).nextAcceptableStreamId id := by
    intro other
    rw [member,streamIdsOf,node,ids]
    split_ifs with kind
    · have space : conn.streamIdsOf other = conn.streamIdsOf id := by rw [streamIdsOf,kind]; rfl
      have lowBits : other % kStreamIncrement = id % kStreamIncrement :=
        (getStreamKind_iff.mp kind).trans (getStreamKind_iff.mp rfl).symm
      rw [space]
      exact below_next lowBits low kind
    · exact ⟨.inl,fun either => either.resolve_right fun inside => kind inside.1⟩
  refine {
    sound := ⟨?_,?_,?_,?_⟩
    node, settings := same.settings, nexts := same.nexts, credits := same.credits
    limits := ?_, opens, reaches, fresh := ?_
    once := ⟨idsUpTo_nodup _ _,List.nodup_nil⟩
    makes := fun other => by rw [find]; simp
    newly := by simp
    reports := fun other => by rw [counts,reportedFor]}
  · intro kind other inside
    rw [ids] at inside ⊢
    rw [node]
    split_ifs at inside ⊢ with own
    · subst own
      rcases Finset.mem_union.mp inside with old | new
      · obtain ⟨kind,early⟩ := sound.below _ other old
        exact ⟨kind,Nat.lt_of_lt_of_le early (Nat.le_trans (Nat.not_lt.mp low) (Nat.le_add_right ..))⟩
      · obtain ⟨kind,-,last⟩ := (member other).mp (List.mem_toFinset.mp new)
        exact ⟨kind,Nat.lt_of_le_of_lt last (Nat.lt_add_of_pos_right (by decide))⟩
    · exact sound.below kind other inside
  · intro kind
    rw [node,ids]
    split_ifs with own
    · subst own
      exact (Nat.add_mod_right ..).trans (getStreamKind_iff.mp rfl)
    · exact sound.aligned kind
  · intro other stream found
    rw [find] at found
    obtain ⟨named,inside⟩ := sound.stated other stream found
    exact ⟨named,(opens other).mpr (.inl inside)⟩
  · intro other
    rw [same.levels,find]
    exact sound.ranked other
  · intro kind
    rw [ids]
    split_ifs with own
    · subst own
      rfl
    · rfl
  · intro other inside
    obtain ⟨kind,late,last⟩ := (member other).mp inside
    have space : conn.streamIdsOf other = conn.streamIdsOf id := by rw [streamIdsOf,kind]; rfl
    rw [space]
    exact ⟨late,Nat.lt_of_le_of_lt last high⟩

theorem kind_remote (remote : isRemoteStream nodeType id = true) :
    (⟨.remoteNode,getStreamDirectionality id⟩ : StreamKind) = getStreamKind nodeType id := by
  rw [← isRemoteStream_iff.mp remote]
  rfl

theorem kind_local (isLocal : isRemoteStream nodeType id = false) :
    (⟨.localNode,getStreamDirectionality id⟩ : StreamKind) = getStreamKind nodeType id := by
  have other : (getStreamKind nodeType id).initiator ≠ .remoteNode := fun remote =>
    absurd (isRemoteStream_iff.mpr remote) (by rw [isLocal]; nofun)
  have initiator : (getStreamKind nodeType id).initiator = .localNode := by
    cases same : (getStreamKind nodeType id).initiator with
    | localNode => rfl
    | remoteNode => exact absurd same other
  rw [← initiator]
  rfl

/-- The ids of the peer that are opened are reported at once, unless that is left to their streams. -/
theorem openPeer_advance {id : Nat} (groupId : Option Nat) (sound : IdsSound conn)
    (remote : isRemoteStream conn.nodeType id = true)
    (done : openStreamIfNotClosed (conn.streamIdsOf id) id = .ok (space,ids)) :
    Advance conn (if conn.transportSettings.notifyOnNewStreamsExplicitly then
        conn.manage (·.setStreamIds (getStreamKind conn.nodeType id) space)
      else (conn.manage (·.setStreamIds (getStreamKind conn.nodeType id) space)).reportStreams
        ids groupId) ids [] := by
  obtain ⟨reported,counted⟩ := reportStreams_same
    (conn.manage (·.setStreamIds (getStreamKind conn.nodeType id) space)) ids groupId
  apply openIds_advance sound done
  · split
    · exact ⟨⟨rfl,rfl,rfl⟩,rfl,rfl,rfl,rfl⟩
    · exact reported
  · intro other
    unfold reportedFor
    split
    next =>
      show reportCount conn other = _
      simp
    next =>
      rw [counted]
      split
      next => rfl
      next isLocal =>
        obtain ⟨late,-,rfl,-⟩ := openStreamIfNotClosed_ok done
        rw [List.count_eq_zero.mpr]
        · rfl
        · intro inside
          obtain ⟨kind,-⟩ := (opened_ids sound late).mp inside
          exact isLocal (isRemoteStream_iff.mpr (kind ▸ isRemoteStream_iff.mp remote))

inductive PeerStream (conn : QuicConnectionState) (id : StreamId) (groupId : Option Nat) :
    Leaves (Option QuicStreamState) → Prop
  | refused {error : Error} (bad : conn.checkPeerIds id groupId = .error error) :
      PeerStream conn id groupId (.error error,conn)
  | existing {stream : QuicStreamState} (found : conn.findStream id = some stream) :
      PeerStream conn id groupId (.ok (some stream),conn)
  | stated {stream : QuicStreamState} {next : QuicConnectionState} (absent : conn.findStream id = none)
      (isOpen : id ∈ (conn.streamIdsOf id).openStreams) (advance : Advance conn next [] [id]) :
      PeerStream conn id groupId (.ok (some stream),next)
  | closed (isClosed : id ∉ (conn.streamIdsOf id).openStreams)
      (early : id < (conn.streamIdsOf id).nextAcceptableStreamId) :
      PeerStream conn id groupId (.ok none,conn)
  | beyond (late : ¬id < (conn.streamIdsOf id).nextAcceptableStreamId)
      (limit : (conn.streamIdsOf id).maxStreamId ≤ id) :
      PeerStream conn id groupId (.error (streamLimitError "Exceeded stream limit."),conn)
  | opened {stream : QuicStreamState} {next : QuicConnectionState}
      (late : ¬id < (conn.streamIdsOf id).nextAcceptableStreamId)
      (within : id < (conn.streamIdsOf id).maxStreamId)
      (advance : Advance conn next (idsUpTo (conn.streamIdsOf id).nextAcceptableStreamId id) [id]) :
      PeerStream conn id groupId (.ok (some stream),next)

variable {groupId : Option Nat}

theorem getOrCreatePeerStream_cases (sound : IdsSound conn)
    (remote : isRemoteStream conn.nodeType id = true) :
    PeerStream conn id groupId (conn.getOrCreatePeerStream id groupId) := by
  unfold getOrCreatePeerStream
  split
  next error bad => exact .refused bad
  next =>
    split
    next stream found => exact .existing found
    next absent =>
      rw [kind_remote remote]
      dsimp only
      rw [show conn.streamManager.streamIds (getStreamKind conn.nodeType id) = conn.streamIdsOf id from rfl]
      split
      next isOpen =>
        obtain ⟨stream,next,done,advance⟩ :=
          instantiatePeerStream_advance groupId sound absent isOpen remote
        rw [done]
        exact .stated absent isOpen advance
      next isClosed =>
        cases done : openStreamIfNotClosed (conn.streamIdsOf id) id with
        | error code =>
          rcases openStreamIfNotClosed_error done with ⟨rfl,early⟩ | ⟨rfl,late,limit⟩
          · exact .closed isClosed early
          · exact .beyond late limit
        | ok result =>
          obtain ⟨space,ids⟩ := result
          obtain ⟨late,within,listed,-⟩ := openStreamIfNotClosed_ok done
          have opening := openPeer_advance groupId sound remote done
          dsimp only
          generalize (if conn.transportSettings.notifyOnNewStreamsExplicitly then
              conn.manage (·.setStreamIds (getStreamKind conn.nodeType id) space)
            else (conn.manage (·.setStreamIds (getStreamKind conn.nodeType id) space)).reportStreams
              ids groupId) = base at opening ⊢
          have absentNow : base.findStream id = none := by
            rw [← Option.not_isSome_iff_eq_none,opening.makes,absent]
            simp
          have isOpen : id ∈ (base.streamIdsOf id).openStreams :=
            (opening.opens id).mpr (.inr (by
              rw [listed,opened_ids sound late]
              exact ⟨rfl,late,Nat.le_refl _⟩))
          obtain ⟨stream,next,finished,stating⟩ := instantiatePeerStream_advance groupId opening.sound
            absentNow isOpen (opening.node ▸ remote)
          rw [finished]
          have advance := opening.trans stating
          rw [List.append_nil,List.nil_append,listed] at advance
          exact .opened late within advance

theorem Advance.idle {before after : QuicConnectionState} {opened made : List StreamId}
    (advance : Advance before after opened made) : Advance before after.updateAppIdleState opened made :=
  {advance with sound := {advance.sound with}}

inductive LocalStream (conn : QuicConnectionState) (id : StreamId) :
    Leaves (Option QuicStreamState) → Prop
  | active {error : Error} (isOpen : id ∈ (conn.streamIdsOf id).openStreams) :
      LocalStream conn id (.error error,conn)
  | stated {stream : QuicStreamState} {next : QuicConnectionState}
      (isOpen : id ∈ (conn.streamIdsOf id).openStreams) (advance : Advance conn next [] [id]) :
      LocalStream conn id (.ok (some stream),next)
  | unopened (isClosed : id ∉ (conn.streamIdsOf id).openStreams) : LocalStream conn id (.ok none,conn)

theorem getOrCreateOpenedLocalStream_cases (sound : IdsSound conn)
    (isLocal : isRemoteStream conn.nodeType id = false) :
    LocalStream conn id (conn.getOrCreateOpenedLocalStream id) := by
  unfold getOrCreateOpenedLocalStream
  rw [kind_local isLocal]
  split
  next isOpen =>
    split
    next => exact .active isOpen
    next absent =>
      obtain ⟨stream,next,done,advance⟩ := emplaceStream_advance none sound absent isOpen isLocal
      simp only [done]
      exact .stated isOpen advance
  next isClosed => exact .unopened isClosed

/-- Whatever is asked for, the ids only advance. -/
theorem getStream_advance (sound : IdsSound conn) (id : StreamId) (groupId : Option Nat) :
    ∃ opened made, Advance conn (conn.getStream id groupId).2 opened made := by
  unfold getStream
  split
  next remote =>
    have cases := @getOrCreatePeerStream_cases conn id groupId sound remote
    generalize conn.getOrCreatePeerStream id groupId = result at cases
    cases cases with
    | refused | beyond => exact ⟨_,_,.refl sound⟩
    | existing | closed => exact ⟨_,_,(Advance.refl sound).idle⟩
    | stated _ _ advance | opened _ _ advance => exact ⟨_,_,advance.idle⟩
  next isLocal =>
    split
    next => exact ⟨_,_,.refl sound⟩
    next =>
      have cases := getOrCreateOpenedLocalStream_cases sound (Bool.eq_false_iff.mpr isLocal)
      generalize conn.getOrCreateOpenedLocalStream id = result at cases
      cases cases with
      | active => exact ⟨_,_,.refl sound⟩
      | stated _ advance => exact ⟨_,_,advance.idle⟩
      | unopened =>
        dsimp only
        split
        · exact ⟨_,_,.refl sound⟩
        · exact ⟨_,_,(Advance.refl sound).idle⟩

theorem getStream_some {next : QuicConnectionState} (sound : IdsSound conn)
    (remote : isRemoteStream conn.nodeType id = true)
    (returned : conn.getStream id groupId = (.ok (some stream),next)) :
    id ∈ (next.streamIdsOf id).openStreams := by
  unfold getStream at returned
  rw [if_pos remote] at returned
  have cases := @getOrCreatePeerStream_cases conn id groupId sound remote
  generalize conn.getOrCreatePeerStream id groupId = result at cases returned
  cases cases with
  | refused | closed | beyond => cases returned
  | existing found =>
    cases returned
    exact ((Advance.refl sound).idle.opens id).mpr (.inl (sound.stated id _ found).2)
  | stated _ isOpen advance =>
    cases returned
    exact (advance.idle.opens id).mpr (.inl isOpen)
  | opened late _ advance =>
    cases returned
    exact (advance.idle.opens id).mpr (.inr ((opened_ids sound late).mpr ⟨rfl,late,Nat.le_refl _⟩))

private theorem checkPeerIds_ungrouped (remote : isRemoteStream conn.nodeType id = true) :
    conn.checkPeerIds id none = .ok () := by
  have low := Nat.mod_two_eq_zero_or_one id
  simp only [isRemoteStream,isClientStream,isServerStream,checkPeerIds] at *
  cases node : conn.nodeType <;> rcases low with low | low <;> simp_all

theorem getStream_closed (groupId : Option Nat) (sound : IdsSound conn)
    (isClosed : id ∉ (conn.streamIdsOf id).openStreams)
    (early : id < (conn.streamIdsOf id).nextAcceptableStreamId) :
    (∀ stream, (conn.getStream id groupId).1 ≠ .ok (some stream)) ∧
      (groupId = none → (conn.getStream id groupId).1 = .ok none) := by
  have absent : ∀ stream, conn.findStream id ≠ some stream := by
    intro stream found
    exact isClosed (sound.stated id stream found).2
  unfold getStream
  split
  next remote =>
    have cases := @getOrCreatePeerStream_cases conn id groupId sound remote
    generalize conn.getOrCreatePeerStream id groupId = result at cases
    cases cases with
    | refused bad =>
      refine ⟨fun _ same => (nomatch same),?_⟩
      rintro rfl
      rw [checkPeerIds_ungrouped remote] at bad
      cases bad
    | existing found => exact absurd found (absent _)
    | stated _ isOpen => exact absurd isOpen isClosed
    | closed => exact ⟨fun _ same => (nomatch same),fun _ => rfl⟩
    | beyond late | opened late => exact absurd early late
  next isLocal =>
    cases found : conn.findStream id with
    | some stream => exact absurd found (absent stream)
    | none =>
      have cases := getOrCreateOpenedLocalStream_cases sound (Bool.eq_false_iff.mpr isLocal)
      have space := kind_local (Bool.eq_false_iff.mpr isLocal)
      generalize conn.getOrCreateOpenedLocalStream id = result at cases
      cases cases with
      | active isOpen | stated isOpen => exact absurd isOpen isClosed
      | unopened =>
        dsimp only
        rw [space,if_neg fun beyond => absurd early (Nat.not_lt.mpr beyond.2)]
        exact ⟨fun _ same => (nomatch same),fun _ => rfl⟩

theorem getStream_beyond (groupId : Option Nat) (sound : IdsSound conn)
    (remote : isRemoteStream conn.nodeType id = true)
    (late : ¬id < (conn.streamIdsOf id).nextAcceptableStreamId)
    (limit : (conn.streamIdsOf id).maxStreamId ≤ id) :
    ∃ error, conn.getStream id groupId = (.error error,conn) := by
  unfold getStream
  rw [if_pos remote]
  have cases := @getOrCreatePeerStream_cases conn id groupId sound remote
  generalize conn.getOrCreatePeerStream id groupId = result at cases
  cases cases with
  | refused | beyond => exact ⟨_,rfl⟩
  | existing found =>
    obtain ⟨-,isOpen⟩ := sound.stated id _ found
    exact absurd (sound.below _ id isOpen).2 late
  | stated _ isOpen => exact absurd (sound.below _ id isOpen).2 late
  | closed _ early => exact absurd early late
  | opened _ within => exact absurd within (Nat.not_lt.mpr limit)

theorem checkLocalIds_local (checked : conn.checkLocalIds id groupId = .ok ()) :
    isRemoteStream conn.nodeType id = false := by
  unfold checkLocalIds at checked
  split at checked
  · cases checked
  next client =>
    split at checked
    · cases checked
    next server =>
      unfold isRemoteStream isServerStream isClientStream at *
      have low := Nat.mod_two_eq_zero_or_one id
      cases node : conn.nodeType with
      | client =>
        have even : id % 2 = 0 := by simpa [node] using client
        simp [even]
      | server =>
        have odd : id % 2 = 1 := by simpa [node] using server
        simp [odd]

theorem openLocal_advance {id : Nat} (sound : IdsSound conn)
    (isLocal : isRemoteStream conn.nodeType id = false)
    (done : openStreamIfNotClosed (conn.streamIdsOf id) id = .ok (space,ids)) :
    Advance conn (conn.manage (·.setStreamIds (getStreamKind conn.nodeType id) space)) ids [] := by
  apply openIds_advance sound done ⟨⟨rfl,rfl,rfl⟩,rfl,rfl,rfl,rfl⟩
  intro other
  show reportCount conn other = _
  unfold reportedFor
  split
  next remote =>
    obtain ⟨late,-,rfl,-⟩ := openStreamIfNotClosed_ok done
    have absent : other ∉ idsUpTo (conn.streamIdsOf id).nextAcceptableStreamId id := by
      intro inside
      obtain ⟨kind,-⟩ := (opened_ids sound late).mp inside
      have same := isRemoteStream_iff.mpr (kind ▸ isRemoteStream_iff.mp remote)
      rw [isLocal] at same
      cases same
    rw [List.count_eq_zero.mpr absent]
    simp
  next => rfl

theorem createStream_advance (sound : IdsSound conn) (id : StreamId) (groupId : Option Nat) :
    ∃ opened made, Advance conn (conn.createStream id groupId).2 opened made := by
  unfold createStream
  split
  next => exact ⟨_,_,.refl sound⟩
  next checked =>
    have isLocal := checkLocalIds_local checked
    have cases := getOrCreateOpenedLocalStream_cases sound isLocal
    generalize conn.getOrCreateOpenedLocalStream id = result at cases
    cases cases with
    | active => exact ⟨_,_,.refl sound⟩
    | stated _ advance => exact ⟨_,_,advance⟩
    | unopened isClosed =>
      dsimp only
      rw [kind_local isLocal]
      rw [show conn.streamManager.streamIds (getStreamKind conn.nodeType id) = conn.streamIdsOf id from rfl]
      cases done : openStreamIfNotClosed (conn.streamIdsOf id) id with
      | error code => exact ⟨_,_,.refl sound⟩
      | ok result =>
        obtain ⟨space,ids⟩ := result
        obtain ⟨late,-,listed,-⟩ := openStreamIfNotClosed_ok done
        have opening := openLocal_advance sound isLocal done
        have absent : (conn.manage (·.setStreamIds (getStreamKind conn.nodeType id) space)).findStream id =
            none := by
          cases found : conn.findStream id with
          | none => exact found
          | some stream => exact absurd (sound.stated id stream found).2 isClosed
        have isOpen := (opening.opens id).mpr (.inr (by
          rw [listed,opened_ids sound late]
          exact ⟨rfl,late,Nat.le_refl _⟩))
        obtain ⟨stream,next,finished,stating⟩ :=
          emplaceStream_advance groupId opening.sound absent isOpen isLocal
        simp only [finished]
        exact ⟨_,_,(opening.trans stating).idle⟩

theorem initial_mod (count : Nat) (nodeType : QuicNodeType) (kind : StreamKind) :
    (count * kStreamIncrement + initialStreamId nodeType kind) % kStreamIncrement =
      initialStreamId nodeType kind := by
  have small : initialStreamId nodeType kind < kStreamIncrement := by
    obtain ⟨initiator,directionality⟩ := kind
    cases nodeType <;> cases initiator <;> cases directionality <;> decide
  rw [Nat.mul_comm,Nat.mul_add_mod,Nat.mod_eq_of_lt small]

/-- The limits may have moved, and nothing else of the ids. -/
structure Relimits (before after : QuicConnectionState) : Prop where
  node : after.nodeType = before.nodeType
  nexts : after.streamManager.nextStreamId = before.streamManager.nextStreamId
  streams : after.streamManager.streams = before.streamManager.streams
  levels : after.streamManager.streamPriorityLevelsNoCtrl = before.streamManager.streamPriorityLevelsNoCtrl
  counts : ∀ id, reportCount after id = reportCount before id
  grouped : after.grouped = before.grouped
  opens : ∀ kind, (after.streamManager.streamIds kind).openStreams =
    (before.streamManager.streamIds kind).openStreams
  reaches : ∀ kind, (after.streamManager.streamIds kind).nextAcceptableStreamId =
    (before.streamManager.streamIds kind).nextAcceptableStreamId

namespace Relimits

variable {before middle after : QuicConnectionState}

theorem refl (conn : QuicConnectionState) : Relimits conn conn :=
  ⟨rfl,rfl,rfl,rfl,fun _ => rfl,rfl,fun _ => rfl,fun _ => rfl⟩

theorem trans (first : Relimits before middle) (second : Relimits middle after) : Relimits before after :=
  ⟨second.node.trans first.node,second.nexts.trans first.nexts,second.streams.trans first.streams,
    second.levels.trans first.levels,fun id => (second.counts id).trans (first.counts id),
    second.grouped.trans first.grouped,fun kind => (second.opens kind).trans (first.opens kind),
    fun kind => (second.reaches kind).trans (first.reaches kind)⟩

theorem find (moved : Relimits before after) (id : StreamId) :
    after.findStream id = before.findStream id := by
  rw [findStream,findStream,QuicStreamManager.findStream,QuicStreamManager.findStream,moved.streams]

theorem sound (moved : Relimits before after) (sound : IdsSound before) : IdsSound after := by
  refine ⟨?_,?_,?_,?_⟩
  · intro kind id inside
    rw [moved.opens] at inside
    rw [moved.reaches,moved.node]
    exact sound.below kind id inside
  · intro kind
    rw [moved.reaches,moved.node]
    exact sound.aligned kind
  · intro id stream found
    rw [moved.find] at found
    rw [streamIdsOf,moved.opens,moved.node]
    exact sound.stated id stream found
  · intro id
    rw [moved.levels,moved.find]
    exact sound.ranked id

end Relimits

theorem setMaxStreams_ok {next : QuicConnectionState} {maxStreams : Nat} {force increased : Bool}
    (done : conn.setMaxStreams kind maxStreams force = .ok (increased,next)) :
    Relimits conn next ∧ next.transportSettings = conn.transportSettings ∧
      (∀ other, other ≠ kind → next.streamManager.streamIds other = conn.streamManager.streamIds other) ∧
      ((next.streamManager.streamIds kind).maxStreamId =
          maxStreams * kStreamIncrement + initialStreamId conn.nodeType kind ∨
        force = false ∧ (next.streamManager.streamIds kind).maxStreamId =
          (conn.streamManager.streamIds kind).maxStreamId) ∧
      (force = false → (conn.streamManager.streamIds kind).maxStreamId ≤
        (next.streamManager.streamIds kind).maxStreamId) := by
  unfold setMaxStreams at done
  split at done
  · cases done
  · dsimp only at done
    split at done
    next raise =>
      cases done
      have changed : ∀ space, (conn.manage (·.setStreamIds kind space)).streamManager.streamIds kind =
          space := fun space => Function.update_self ..
      have kept : ∀ space other, other ≠ kind →
          (conn.manage (·.setStreamIds kind space)).streamManager.streamIds other =
            conn.streamManager.streamIds other := fun space other ne => Function.update_of_ne ne ..
      refine ⟨⟨rfl,rfl,rfl,rfl,fun _ => rfl,rfl,?_,?_⟩,rfl,kept _,.inl (by rw [changed]),?_⟩
      · intro other
        by_cases same : other = kind
        · rw [same,changed]
        · rw [kept _ other same]
      · intro other
        by_cases same : other = kind
        · rw [same,changed]
        · rw [kept _ other same]
      · rintro rfl
        rw [changed]
        exact Nat.le_of_lt (raise.resolve_left nofun)
    next same =>
      cases done
      have unforced : force = false := Bool.eq_false_iff.mpr fun forced => same (.inl forced)
      exact ⟨.refl conn,rfl,fun _ _ => rfl,.inr ⟨unforced,rfl⟩,fun _ => Nat.le_refl _⟩

/-- Limits that moved are larger. -/
def LimitsGrow (before after : QuicConnectionState) : Prop :=
  ∀ kind, (after.streamManager.streamIds kind).maxStreamId =
      (before.streamManager.streamIds kind).maxStreamId ∨
    (before.streamManager.streamIds kind).maxStreamId ≤ (after.streamManager.streamIds kind).maxStreamId ∧
      (after.streamManager.streamIds kind).maxStreamId % kStreamIncrement =
        initialStreamId before.nodeType kind

/-- A stream was removed and its id closed; a limit may have been raised for it. -/
structure Closes (before after : QuicConnectionState) (id : StreamId) : Prop
    extends SameFrame before after where
  sound : IdsSound after
  counts : ∀ other, reportCount after other = reportCount before other
  grouped : after.grouped = before.grouped
  find : ∀ other, after.findStream other = if other = id then none else before.findStream other
  opens : ∀ other, other ∈ (after.streamIdsOf other).openStreams ↔
    other ≠ id ∧ other ∈ (before.streamIdsOf other).openStreams
  reaches : ∀ kind, (after.streamManager.streamIds kind).nextAcceptableStreamId =
    (before.streamManager.streamIds kind).nextAcceptableStreamId
  limits : LimitsGrow before after

theorem removeClosedStream_ids (manager : QuicStreamManager) (id : StreamId) :
    (manager.removeClosedStream id).streamIds = manager.streamIds ∧
      (manager.removeClosedStream id).nextStreamId = manager.nextStreamId ∧
      (manager.removeClosedStream id).newPeerStreams = manager.newPeerStreams ∧
      (manager.removeClosedStream id).newGroupedPeerStreams = manager.newGroupedPeerStreams ∧
      (manager.removeClosedStream id).streamPriorityLevelsNoCtrl = manager.streamPriorityLevelsNoCtrl ∧
      (manager.removeClosedStream id).credits = manager.credits := by
  unfold QuicStreamManager.removeClosedStream
  split
  · exact ⟨rfl,rfl,rfl,rfl,rfl,rfl⟩
  · unfold QuicStreamManager.removeWritable QuicStreamManager.eraseFromQueue
    split <;> exact ⟨rfl,rfl,rfl,rfl,rfl,rfl⟩

private theorem dropControlStream_ids (manager : QuicStreamManager) :
    manager.dropControlStream.streamIds = manager.streamIds ∧
      manager.dropControlStream.nextStreamId = manager.nextStreamId ∧
      manager.dropControlStream.streams = manager.streams ∧
      manager.dropControlStream.newPeerStreams = manager.newPeerStreams ∧
      manager.dropControlStream.newGroupedPeerStreams = manager.newGroupedPeerStreams ∧
      manager.dropControlStream.streamPriorityLevelsNoCtrl = manager.streamPriorityLevelsNoCtrl ∧
      manager.dropControlStream.credits = manager.credits := by
  -- On a variable the kernel would compare the two managers, and with them the wrapping counter.
  cases manager
  refine ⟨rfl,rfl,rfl,rfl,rfl,rfl,?_⟩
  simp only [QuicStreamManager.credits,QuicStreamManager.dropControlStream]

theorem dropPriority_ok (sound : IdsSound conn) (found : conn.findStream id = some stream) :
    ∃ dropped, conn.dropPriority id stream = .ok dropped ∧ SameFrame conn dropped ∧
      dropped.streamManager.streamIds = conn.streamManager.streamIds ∧
      dropped.streamManager.streams = conn.streamManager.streams ∧
      dropped.streamManager.credits = conn.streamManager.credits ∧
      (∀ other, reportCount dropped other = reportCount conn other) ∧
      dropped.streamManager.newGroupedPeerStreams = conn.streamManager.newGroupedPeerStreams ∧
      ∀ other, (dropped.streamManager.streamPriorityLevelsNoCtrl.lookup other).isSome ↔
        other ≠ id ∧ (conn.streamManager.streamPriorityLevelsNoCtrl.lookup other).isSome := by
  unfold dropPriority
  by_cases control : stream.isControl = true
  · rw [if_pos control]
    obtain ⟨ids,nexts,streams,new,grouped,levels,credits⟩ := dropControlStream_ids conn.streamManager
    simp only [manage]
    generalize conn.streamManager.dropControlStream = dropped at *
    refine ⟨{conn with streamManager := dropped},rfl,⟨rfl,rfl,nexts⟩,ids,streams,credits,?_,
      grouped,fun other => ?_⟩
    · intro other
      rw [reportCount,reportCount,new,grouped]
    rw [levels]
    constructor
    · intro ranked
      refine ⟨?_,ranked⟩
      rintro rfl
      obtain ⟨present,same,plain⟩ := (sound.ranked other).mp ranked
      cases found.symm.trans same
      rw [control] at plain
      cases plain
    · exact And.right
  · have ranked := (sound.ranked id).mpr ⟨stream,found,Bool.eq_false_iff.mpr control⟩
    rw [if_neg control,if_pos ranked]
    refine ⟨_,rfl,⟨rfl,rfl,rfl⟩,?_⟩
    simp only [manage,QuicStreamManager.dropPriorityLevel,QuicStreamManager.credits,reportCount,
      true_and,implies_true]
    intro other
    by_cases same : other = id
    · subst same
      rw [AList.lookup_erase]
      simp
    · rw [AList.lookup_erase_ne same]
      simp [same]

theorem closed_closes {dropped after : QuicConnectionState} (sound : IdsSound conn)
    (found : conn.findStream id = some stream)
    (dropping : conn.dropPriority id stream = .ok dropped)
    (shape : (dropped.manage fun manager => (manager.removeClosedStream id).setStreamIds
      (getStreamKind conn.nodeType id) {dropped.streamManager.streamIds (getStreamKind conn.nodeType id) with
        openStreams := (dropped.streamManager.streamIds
          (getStreamKind conn.nodeType id)).openStreams.erase id}) = after) : Closes conn after id := by
  obtain ⟨_,same,⟨node,settings,nexts⟩,ids,streams,-,counts,grouped,levels⟩ := dropPriority_ok sound found
  cases dropping.symm.trans same
  obtain ⟨keptIds,keptNexts,keptNew,keptGrouped,keptLevels,-⟩ :=
    removeClosedStream_ids dropped.streamManager id
  have present : dropped.streamManager.findStream id = some stream := by
    rw [QuicStreamManager.findStream,streams]
    exact found
  have erased := QuicStreamManager.removeClosedStream_streams present
  have afterNode : after.nodeType = conn.nodeType := by rw [← shape,← node]; rfl
  have find : ∀ other, after.findStream other = if other = id then none else conn.findStream other := by
    intro other
    rw [← shape]
    simp only [findStream,manage,QuicStreamManager.findStream,QuicStreamManager.setStreamIds,erased,
      streams]
    split
    next same =>
      subst same
      exact AList.lookup_erase ..
    next ne => exact AList.lookup_erase_ne ne
  have spaces : ∀ kind, after.streamManager.streamIds kind =
      if kind = getStreamKind conn.nodeType id then
        {conn.streamIdsOf id with openStreams := (conn.streamIdsOf id).openStreams.erase id}
      else conn.streamManager.streamIds kind := by
    intro kind
    rw [← shape,streamIdsOf,← ids,← keptIds]
    exact Function.update_apply ..
  have opens : ∀ other, other ∈ (after.streamIdsOf other).openStreams ↔
      other ≠ id ∧ other ∈ (conn.streamIdsOf other).openStreams := by
    intro other
    rw [streamIdsOf,afterNode,spaces]
    split_ifs with kind
    · have space : conn.streamIdsOf other = conn.streamIdsOf id := by rw [streamIdsOf,kind]; rfl
      rw [space,Finset.mem_erase]
    · exact ⟨fun inside => ⟨fun same => kind (by rw [same]),inside⟩,And.right⟩
  have reaches : ∀ kind, (after.streamManager.streamIds kind).nextAcceptableStreamId =
      (conn.streamManager.streamIds kind).nextAcceptableStreamId := by
    intro kind
    rw [spaces]
    split_ifs with own
    · rw [own]
      rfl
    · rfl
  refine {
    sound := ⟨?_,?_,?_,?_⟩
    node := afterNode
    settings := by rw [← shape,← settings]; rfl
    nexts := by
      rw [← shape,← nexts,← keptNexts]
      rfl
    counts := ?_, grouped := by rw [← shape]; exact keptGrouped.trans grouped
    find, opens, reaches, limits := ?_}
  · intro kind other inside
    rw [afterNode,reaches]
    apply sound.below
    rw [spaces] at inside
    split_ifs at inside with own
    · rw [own]
      exact Finset.mem_of_mem_erase inside
    · exact inside
  · intro kind
    rw [afterNode,reaches]
    exact sound.aligned kind
  · intro other present found
    rw [find] at found
    split at found
    · cases found
    next ne =>
      obtain ⟨named,inside⟩ := sound.stated other present found
      exact ⟨named,(opens other).mpr ⟨ne,inside⟩⟩
  · intro other
    have same : after.streamManager.streamPriorityLevelsNoCtrl =
        dropped.streamManager.streamPriorityLevelsNoCtrl := by
      rw [← shape,← keptLevels]
      rfl
    rw [same,levels,find,sound.ranked]
    split
    next same => simp [same]
    next ne => simp [ne]
  · intro other
    rw [← counts,← shape,reportCount,reportCount,← keptNew,← keptGrouped]
    rfl
  · intro kind
    left
    rw [spaces]
    split_ifs with own
    · rw [own]
      rfl
    · rfl

theorem setMaxRemoteStreams_unforced (conn : QuicConnectionState) (directionality : StreamDirectionality)
    (maxStreams : Nat) : ∃ result next,
    conn.setMaxRemoteStreams directionality maxStreams false = (result,next) ∧ Relimits conn next ∧
      next.transportSettings = conn.transportSettings ∧ LimitsGrow conn next := by
  unfold setMaxRemoteStreams
  cases done : conn.setMaxStreams ⟨.remoteNode,directionality⟩ maxStreams false with
  | error error => exact ⟨_,_,rfl,.refl conn,rfl,fun _ => .inl rfl⟩
  | ok result =>
    obtain ⟨increased,next⟩ := result
    obtain ⟨moved,settings,others,set,grown⟩ := setMaxStreams_ok done
    refine ⟨_,_,rfl,moved,settings,fun kind => ?_⟩
    by_cases own : kind = ⟨.remoteNode,directionality⟩
    · subst own
      rcases set with exact | ⟨-,same⟩
      · refine .inr ⟨grown rfl,?_⟩
        rw [exact]
        exact initial_mod maxStreams _ _
      · exact .inl same
    · exact .inl (by rw [others kind own])

theorem setMaxRemoteStreams_forced (conn : QuicConnectionState) (directionality : StreamDirectionality)
    (maxStreams : Nat) : ∃ result next,
    conn.setMaxRemoteStreams directionality maxStreams true = (result,next) ∧ Relimits conn next ∧
      next.transportSettings = conn.transportSettings ∧
      (∀ other, other ≠ ⟨.remoteNode,directionality⟩ →
        next.streamManager.streamIds other = conn.streamManager.streamIds other) ∧
      (next = conn ∧ result ≠ .ok () ∨
        (next.streamManager.streamIds ⟨.remoteNode,directionality⟩).maxStreamId =
          maxStreams * kStreamIncrement + initialStreamId conn.nodeType ⟨.remoteNode,directionality⟩) := by
  unfold setMaxRemoteStreams
  cases done : conn.setMaxStreams ⟨.remoteNode,directionality⟩ maxStreams true with
  | error error => exact ⟨_,_,rfl,.refl conn,rfl,fun _ _ => rfl,.inl ⟨rfl,nofun⟩⟩
  | ok result =>
    obtain ⟨increased,next⟩ := result
    obtain ⟨moved,settings,others,set,-⟩ := setMaxStreams_ok done
    exact ⟨_,_,rfl,moved,settings,others,.inr (set.resolve_right fun unforced => nomatch unforced.1)⟩

theorem Closes.relimit {before middle after : QuicConnectionState}
    (closes : Closes before middle id) (moved : Relimits middle after)
    (settings : after.transportSettings = middle.transportSettings)
    (limits : LimitsGrow middle after) : Closes before after id := by
  refine {
    toSameFrame := closes.toSameFrame.trans ⟨moved.node,settings,moved.nexts⟩
    sound := moved.sound closes.sound
    counts := fun other => (moved.counts other).trans (closes.counts other)
    grouped := moved.grouped.trans closes.grouped
    find := fun other => (moved.find other).trans (closes.find other)
    opens := fun other => ?_
    reaches := fun kind => (moved.reaches kind).trans (closes.reaches kind)
    limits := fun kind => ?_}
  · rw [streamIdsOf,moved.opens,moved.node]
    exact closes.opens other
  · rw [← closes.node]
    rcases limits kind with same | ⟨grown,aligned⟩
    · rw [same]
      rw [closes.node]
      exact closes.limits kind
    · rcases closes.limits kind with same | ⟨more,-⟩
      · exact .inr ⟨same ▸ grown,aligned⟩
      · exact .inr ⟨Nat.le_trans more grown,aligned⟩

theorem returnStreamCredit_closes {before closed : QuicConnectionState}
    (closes : Closes before closed id) (directionality : StreamDirectionality) (openable : Nat) :
    Closes before (closed.returnStreamCredit directionality openable).2 id := by
  unfold returnStreamCredit
  dsimp only
  split
  next =>
    -- The numbers wrap, but whatever they are, the limit does not shrink.
    generalize add64 _ _ = update
    obtain ⟨result,next,done,moved,settings,limits⟩ :=
      setMaxRemoteStreams_unforced closed directionality update
    have relimited := closes.relimit moved settings limits
    rw [done]
    cases result with
    | error error => exact relimited
    | ok done => exact {relimited with sound := {relimited.sound with}}
  next => exact closes

def PeerUnidirectional (conn : QuicConnectionState) (id : StreamId) : Prop :=
  isRemoteStream conn.nodeType id = true ∧ isUnidirectionalStream id = true

/-- Removing a stream closes its id, unless the result is undefined: that of a stream of the peer in
one direction. -/
theorem removeClosedStream_cases (sound : IdsSound conn) (id : StreamId) :
    (conn.findStream id = none ∧ conn.removeClosedStream id = .ok (.ok (),conn)) ∨
      ((conn.findStream id).isSome ∧ PeerUnidirectional conn id ∧
        conn.removeClosedStream id = .error undefinedResult) ∨
      ((conn.findStream id).isSome ∧ ¬PeerUnidirectional conn id ∧ ∃ result next,
        conn.removeClosedStream id = .ok (result,next) ∧ Closes conn next id) := by
  unfold removeClosedStream
  cases found : conn.findStream id with
  | none => exact .inl ⟨rfl,rfl⟩
  | some stream =>
    right
    obtain ⟨dropped,dropping,-⟩ := dropPriority_ok sound found
    have closes := closed_closes sound found dropping rfl
    simp only [closeStreamId,dropping,Option.isSome_some,true_and,PeerUnidirectional]
    by_cases remote : isRemoteStream conn.nodeType id = true
    · simp only [remote,if_true,true_and]
      by_cases uni : isUnidirectionalStream id = true
      · left
        refine ⟨uni,?_⟩
        rw [getStreamDirectionality,if_pos uni]
        rfl
      · right
        rw [getStreamDirectionality,if_neg uni]
        refine ⟨uni,?_⟩
        simp only [openableRemoteStreams,bind,Except.bind,pure,Except.pure]
        generalize sub64 _ _ / kStreamIncrement = openable
        have returned := returnStreamCredit_closes closes .bidirectional openable
        generalize returnStreamCredit _ .bidirectional openable = result at returned ⊢
        obtain ⟨result,next⟩ := result
        cases result with
        | error error => exact ⟨_,_,rfl,returned⟩
        | ok done =>
          exact ⟨_,_,rfl,{returned with sound := {returned.sound with}}⟩
    · right
      refine ⟨fun both => remote both.1,?_⟩
      rw [if_neg remote]
      exact ⟨_,_,rfl,{closes with sound := {closes.sound with}}⟩

section Groups

variable {groupId : Option Nat}

theorem emplaceStream_grouped : (conn.emplaceStream id groupId).2.grouped = conn.grouped := by
  unfold emplaceStream QuicStreamManager.addToStreamPriorityMap
  dsimp only
  cases conn.findStream id with
  | none => split_ifs <;> rfl
  | some stream => split_ifs <;> rfl

theorem instantiatePeerStream_grouped : (conn.instantiatePeerStream id none).2.grouped = conn.grouped := by
  refine emplaceStream_grouped.trans ?_
  split <;> rfl

theorem getOrCreateOpenedLocalStream_grouped :
    (conn.getOrCreateOpenedLocalStream id).2.grouped = conn.grouped := by
  unfold getOrCreateOpenedLocalStream
  split_ifs
  · cases conn.findStream id with
    | none => exact emplaceStream_grouped
    | some stream => rfl
  · rfl

theorem getOrCreatePeerStream_grouped :
    (conn.getOrCreatePeerStream id none).2.grouped = conn.grouped := by
  unfold getOrCreatePeerStream
  split
  · rfl
  split
  · rfl
  dsimp only
  split
  · exact instantiatePeerStream_grouped
  split
  · rfl
  · rfl
  · refine instantiatePeerStream_grouped.trans ?_
    split <;> rfl

theorem getStream_grouped : (conn.getStream id none).2.grouped = conn.grouped := by
  unfold getStream
  split
  · have peer := @getOrCreatePeerStream_grouped conn id
    cases made : conn.getOrCreatePeerStream id none with
    | mk result next =>
      rw [made] at peer
      cases result <;> exact peer
  · cases conn.findStream id with
    | some stream => rfl
    | none =>
      have own := @getOrCreateOpenedLocalStream_grouped conn id
      cases made : conn.getOrCreateOpenedLocalStream id with
      | mk result next =>
        rw [made] at own
        cases result with
        | error error => exact own
        | ok stream =>
          dsimp only
          split_ifs <;> exact own

theorem createStream_grouped : (conn.createStream id groupId).2.grouped = conn.grouped := by
  unfold createStream
  split
  · rfl
  have own := @getOrCreateOpenedLocalStream_grouped conn id
  split
  next made => exact (congrArg (fun pair => pair.2.grouped) made).symm.trans own
  next made => exact (congrArg (fun pair => pair.2.grouped) made).symm.trans own
  next middle made =>
    have kept : middle.grouped = conn.grouped :=
      (congrArg (fun pair => pair.2.grouped) made).symm.trans own
    dsimp only
    split
    · exact kept
    next space _ _ =>
      have placed := (@emplaceStream_grouped
        (middle.manage (·.setStreamIds ⟨.localNode,getStreamDirectionality id⟩ space)) id groupId).trans kept
      split
      next done => exact (congrArg (fun pair => pair.2.grouped) done).symm.trans placed
      next done => exact (congrArg (fun pair => pair.2.grouped) done).symm.trans placed

theorem createNextStream_grouped {directionality : StreamDirectionality} :
    (conn.createNextStream directionality groupId).2.grouped = conn.grouped := by
  have created := @createStream_grouped conn (conn.streamManager.nextStreamId directionality) groupId
  unfold createNextStream
  split
  next done => exact (congrArg (fun pair => pair.2.grouped) done).symm.trans created
  next => exact created

end Groups

end StreamServer.State
