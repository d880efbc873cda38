import StreamServer.State.StreamIdRuns

/-! The credit for streams of the peer. Removed streams give their places back in batches: what was
opened, what is open and what is withheld always add up to the limit of the settings. -/
namespace StreamServer.State
open Protocol Lib.Transition QuicConnectionState

/-- A fraction of zero is ignored. -/
def QuicConnectionState.setStreamLimitWindowingFraction (conn : QuicConnectionState) (fraction : Nat) :
    QuicConnectionState :=
  conn.manage fun manager => {manager with
    streamLimitWindowingFraction := if fraction > 0 then fraction else manager.streamLimitWindowingFraction}

/-- Reading the update to send also takes it. -/
def QuicConnectionState.takeStreamLimitUpdate (conn : QuicConnectionState)
    (directionality : StreamDirectionality) : Option Nat × QuicConnectionState :=
  (conn.streamManager.remoteStreamLimitUpdate directionality,conn.manage fun manager => {manager with
    remoteStreamLimitUpdate := Function.update manager.remoteStreamLimitUpdate directionality none})

inductive CreditAction where
  | peerOpens (id : StreamId) (groupId : Option Nat)
  | remove (id : StreamId)
  | sendUpdate (directionality : StreamDirectionality)

/-- The streams with their history, the limits that were advertised with the newest first, and
whether something undefined has happened. -/
structure CreditRun where
  streams : StreamIdRun
  advertised : StreamDirectionality → List Nat
  undefined : Bool := false

def idsOfKind (nodeType : QuicNodeType) (kind : StreamKind) (ids : Finset StreamId) : Finset StreamId :=
  ids.filter (getStreamKind nodeType · = kind)

namespace CreditRun

def step (run : CreditRun) : CreditAction → Except Error CreditRun
  | .peerOpens id groupId => do
    let streams ← run.streams.step (.get id groupId)
    return {run with streams}
  | .remove id =>
    match run.streams.step (.remove id) with
    | .ok streams => .ok {run with streams}
    | .error _ => .ok {run with undefined := true}
  | .sendUpdate directionality =>
    match run.streams.conn.takeStreamLimitUpdate directionality with
    | (none,conn) => .ok {run with streams := {run.streams with conn}}
    | (some limit,conn) => .ok {run with
        streams := {run.streams with conn}
        advertised := Function.update run.advertised directionality
          (limit :: run.advertised directionality)}

/-- The run of a new connection with its limits and a windowing fraction. -/
def start (conn : QuicConnectionState) (fraction : Nat) : CreditRun where
  streams := {conn := conn.setStreamLimitWindowingFraction fraction}
  advertised := fun directionality => [conn.initialMaxStreams directionality]

variable (run : CreditRun) (directionality : StreamDirectionality)

def space : StreamIdSpace := run.streams.conn.streamManager.streamIds ⟨.remoteNode,directionality⟩

def firstId : StreamId := initialStreamId run.streams.conn.nodeType ⟨.remoteNode,directionality⟩

def limit : Nat := ((run.space directionality).maxStreamId - run.firstId directionality) / kStreamIncrement

def opened : Nat :=
  ((run.space directionality).nextAcceptableStreamId - run.firstId directionality) / kStreamIncrement

def initialLimit : Nat := run.streams.conn.initialMaxStreams directionality

def removed : Nat := (idsOfKind run.streams.conn.nodeType ⟨.remoteNode,directionality⟩
  run.streams.closed).card

/-- The removed streams for which the limit was not raised yet. -/
def withheld : Nat := run.initialLimit directionality + run.removed directionality - run.limit directionality

def window : Nat :=
  run.initialLimit directionality / run.streams.conn.streamManager.streamLimitWindowingFraction

/-- The limits that were advertised do not decrease, nothing is lost of the credit, little of it is
withheld, and the manager reports what is left. -/
structure Conserves : Prop where
  defined : run.undefined = false
  advertised : (run.advertised directionality).Pairwise (· ≥ ·)
  released : run.limit directionality ≤ run.initialLimit directionality + run.removed directionality
  conserved : (run.limit directionality - run.opened directionality) +
    (run.space directionality).openStreams.card + run.withheld directionality =
      run.initialLimit directionality
  batched : run.withheld directionality < max 1 (run.window directionality)
  reported : run.streams.conn.openableRemoteStreams directionality =
    .ok (run.limit directionality - run.opened directionality)

end CreditRun

/-- What is raised when the credit of a removed stream is returned. -/
structure Raises (before after : QuicConnectionState) (directionality : StreamDirectionality)
    (limit : Nat) : Prop where
  raised : (after.streamManager.streamIds ⟨.remoteNode,directionality⟩).maxStreamId =
    limit * kStreamIncrement + initialStreamId before.nodeType ⟨.remoteNode,directionality⟩
  update : after.streamManager.remoteStreamLimitUpdate =
    Function.update before.streamManager.remoteStreamLimitUpdate directionality (some limit)
  fraction : after.streamManager.streamLimitWindowingFraction =
    before.streamManager.streamLimitWindowingFraction

private theorem limit_fits {limit : Nat} {nodeType : QuicNodeType} {kind : StreamKind}
    (small : limit ≤ kMaxMaxStreams) :
    limit * kStreamIncrement + initialStreamId nodeType kind < 2^64 := by
  have first : initialStreamId nodeType kind < 4 := by
    obtain ⟨initiator,directionality⟩ := kind
    cases nodeType <;> cases initiator <;> cases directionality <;> decide
  have most := Nat.add_lt_add_of_le_of_lt (Nat.mul_le_mul_right kStreamIncrement small) first
  exact Nat.lt_trans most (by decide)

variable {directionality : StreamDirectionality} {result : Except Error Unit}

/-- A batch of credit is returned when it is large enough, unless the limit would be too large. -/
theorem returnStreamCredit_cases {conn : QuicConnectionState} {openable limit credit : Nat}
    (credits : sub64 (sub64 (conn.initialMaxStreams directionality) openable)
      (conn.streamManager.streamIds ⟨.remoteNode,directionality⟩).openStreams.card = credit)
    (limited : (conn.streamManager.streamIds ⟨.remoteNode,directionality⟩).maxStreamId =
      limit * kStreamIncrement + initialStreamId conn.nodeType ⟨.remoteNode,directionality⟩)
    (small : limit ≤ kMaxMaxStreams) (some : 1 ≤ credit) (few : credit ≤ kMaxMaxStreams) :
    let window := conn.initialMaxStreams directionality / conn.streamManager.streamLimitWindowingFraction
    (credit < window ∧ conn.returnStreamCredit directionality openable = (.ok (),conn)) ∨
      (window ≤ credit ∧ limit + credit ≤ kMaxMaxStreams ∧ ∃ next,
        conn.returnStreamCredit directionality openable = (.ok (),next) ∧
          Raises conn next directionality (limit + credit)) ∨
      (window ≤ credit ∧ kMaxMaxStreams < limit + credit ∧ ∃ error,
        conn.returnStreamCredit directionality openable = (.error error,conn)) := by
  intro window
  have count : sub64 (conn.streamManager.streamIds ⟨.remoteNode,directionality⟩).maxStreamId
      (initialStreamId conn.nodeType ⟨.remoteNode,directionality⟩) / kStreamIncrement = limit := by
    rw [limited,sub64_of_le (Nat.le_add_left ..) (limit_fits small),Nat.add_sub_cancel]
    exact Nat.mul_div_cancel limit (by decide)
  have sum : add64 limit credit = limit + credit :=
    add64_of_lt (Nat.lt_of_le_of_lt (Nat.add_le_add small few) (by decide))
  unfold returnStreamCredit
  dsimp only
  rw [credits,count,sum]
  by_cases enough : window ≤ credit
  · right
    rw [if_pos enough]
    unfold setMaxRemoteStreams setMaxStreams
    by_cases large : kMaxMaxStreams < limit + credit
    · rw [if_pos large]
      exact .inr ⟨enough,large,_,rfl⟩
    · rw [if_neg large]
      left
      refine ⟨enough,Nat.not_lt.mp large,?_⟩
      have raised : (limit + credit) * kStreamIncrement +
          initialStreamId conn.nodeType ⟨.remoteNode,directionality⟩ >
            (conn.streamManager.streamIds ⟨.remoteNode,directionality⟩).maxStreamId := by
        rw [limited]
        unfold kStreamIncrement
        omega
      dsimp only
      rw [if_pos (.inr raised)]
      refine ⟨_,rfl,?_,rfl,rfl⟩
      simp only [manage,QuicStreamManager.setStreamIds,Function.update_self]
  · rw [if_neg enough]
    exact .inl ⟨Nat.not_le.mp enough,rfl⟩

theorem removeClosedStream_returns {conn : QuicConnectionState} {id : StreamId} (sound : IdsSound conn)
    (present : (conn.findStream id).isSome) (remote : isRemoteStream conn.nodeType id = true)
    (both : getStreamDirectionality id = .bidirectional) :
    ∃ closed, Closes conn closed id ∧ closed.streamManager.credits = conn.streamManager.credits ∧
      closed.streamManager.streamIds ⟨.remoteNode,.bidirectional⟩ =
        {conn.streamIdsOf id with openStreams := (conn.streamIdsOf id).openStreams.erase id} ∧
      let space := closed.streamManager.streamIds ⟨.remoteNode,.bidirectional⟩
      ∀ result next, closed.returnStreamCredit .bidirectional
          (sub64 space.maxStreamId space.nextAcceptableStreamId / kStreamIncrement) = (result,next) →
        ∃ last, conn.removeClosedStream id = .ok (result,last) ∧
          last.streamManager.streamIds = next.streamManager.streamIds ∧
          last.streamManager.credits = next.streamManager.credits := by
  obtain ⟨stream,found⟩ := Option.isSome_iff_exists.mp present
  obtain ⟨dropped,dropping,-,ids,-,credits,-⟩ := dropPriority_ok sound found
  have closes := closed_closes sound found dropping rfl
  have kind : getStreamKind conn.nodeType id = ⟨.remoteNode,.bidirectional⟩ := by
    rw [← kind_remote remote,both]
  refine ⟨_,closes,?_,?_,?_⟩
  · exact (removeClosedStream_ids dropped.streamManager id).2.2.2.2.2.trans credits
  · simp only [manage,QuicStreamManager.setStreamIds,streamIdsOf,kind,ids,Function.update_self]
  · intro space result next returned
    simp only [removeClosedStream,found,closeStreamId,dropping,remote,if_true,both,openableRemoteStreams,
      bind,Except.bind,pure,Except.pure]
    generalize sub64 _ _ / kStreamIncrement = openable at *
    rw [returned]
    cases result with
    | error error | ok done => exact ⟨_,rfl,rfl,rfl⟩

theorem removeClosedStream_closes {conn next : QuicConnectionState} {id : StreamId}
    (sound : IdsSound conn) (present : (conn.findStream id).isSome)
    (removal : conn.removeClosedStream id = .ok (result,next)) : Closes conn next id := by
  rcases removeClosedStream_cases sound id with ⟨absent,-⟩ | ⟨-,-,undefined⟩ | ⟨-,-,_,_,same,closes⟩
  · rw [absent] at present
    cases present
  · cases undefined.symm.trans removal
  · cases same.symm.trans removal
    exact closes

theorem removeClosedStream_local {conn : QuicConnectionState} {id : StreamId} (sound : IdsSound conn)
    (present : (conn.findStream id).isSome) (isLocal : isRemoteStream conn.nodeType id = false) :
    ∃ next, conn.removeClosedStream id = .ok (.ok (),next) ∧
      next.streamManager.credits = conn.streamManager.credits ∧
      ∀ directionality, next.streamManager.streamIds ⟨.remoteNode,directionality⟩ =
        conn.streamManager.streamIds ⟨.remoteNode,directionality⟩ := by
  obtain ⟨stream,found⟩ := Option.isSome_iff_exists.mp present
  obtain ⟨dropped,dropping,-,ids,-,credits,-⟩ := dropPriority_ok sound found
  simp only [removeClosedStream,found,closeStreamId,dropping,isLocal,Bool.false_eq_true,if_false]
  refine ⟨_,rfl,?_,?_⟩
  · exact (removeClosedStream_ids dropped.streamManager id).2.2.2.2.2.trans credits
  · intro directionality
    rw [← ids,← (removeClosedStream_ids dropped.streamManager id).1]
    have other : (⟨.remoteNode,directionality⟩ : StreamKind) ≠ getStreamKind conn.nodeType id := by
      rw [← kind_local isLocal]
      simp
    exact Function.update_of_ne other ..

private theorem card_below {first next : Nat} (aligned : next % kStreamIncrement = first) :
    ((Finset.range next).filter (· % kStreamIncrement = first)).card = (next - first) / kStreamIncrement := by
  have listed : (Finset.range next).filter (· % kStreamIncrement = first) =
      (Finset.range ((next - first) / kStreamIncrement)).image (first + kStreamIncrement * ·) := by
    unfold kStreamIncrement at *
    ext id
    simp only [Finset.mem_filter,Finset.mem_range,Finset.mem_image]
    constructor
    · rintro ⟨below,low⟩
      exact ⟨(id - first) / 4,by omega,by omega⟩
    · rintro ⟨index,small,rfl⟩
      omega
  rw [listed,Finset.card_image_of_injective,Finset.card_range]
  intro a b same
  have sums : first + 4 * a = first + 4 * b := same
  omega

namespace CreditRun

variable {run next : CreditRun} {directionality : StreamDirectionality} {streams : StreamIdRun}

theorem opened_eq (disciplined : run.streams.Disciplined) (directionality : StreamDirectionality) :
    run.opened directionality =
      (run.space directionality).openStreams.card + run.removed directionality := by
  have aligned := disciplined.sound.aligned ⟨.remoteNode,directionality⟩
  unfold opened removed idsOfKind firstId space
  rw [← card_below aligned,← Finset.card_union_of_disjoint]
  · congr 1
    ext id
    simp only [Finset.mem_filter,Finset.mem_range,Finset.mem_union]
    constructor
    · rintro ⟨below,low⟩
      have kind := getStreamKind_iff.mpr low
      have accounted := disciplined.accounted id
      rw [streamIdsOf,kind] at accounted
      exact (accounted below).imp_right fun isClosed => ⟨isClosed,kind⟩
    · rintro (isOpen | ⟨isClosed,kind⟩)
      · obtain ⟨kind,below⟩ := disciplined.sound.below _ id isOpen
        exact ⟨below,getStreamKind_iff.mp kind⟩
      · have gone := (disciplined.gone id isClosed).1
        rw [streamIdsOf,kind] at gone
        exact ⟨gone,getStreamKind_iff.mp kind⟩
  · rw [Finset.disjoint_left]
    intro id isOpen isClosed
    obtain ⟨isClosed,kind⟩ := Finset.mem_filter.mp isClosed
    have notOpen := (disciplined.gone id isClosed).2
    rw [streamIdsOf,kind] at notOpen
    exact notOpen isOpen

private theorem whole_increments {id first : Nat} (aligned : id % kStreamIncrement = first) :
    id = (id - first) / kStreamIncrement * kStreamIncrement + first := by
  unfold kStreamIncrement at *
  omega

theorem maxStreamId_eq (within : StreamIdRun.WithinLimits run.streams.conn)
    (directionality : StreamDirectionality) : (run.space directionality).maxStreamId =
      run.limit directionality * kStreamIncrement + run.firstId directionality :=
  whole_increments (within directionality).2

theorem opened_le (within : StreamIdRun.WithinLimits run.streams.conn)
    (directionality : StreamDirectionality) : run.opened directionality ≤ run.limit directionality :=
  Nat.div_le_div_right (Nat.sub_le_sub_right (within directionality).1 _)

theorem openable_eq (disciplined : run.streams.Disciplined)
    (within : StreamIdRun.WithinLimits run.streams.conn) (small : run.limit directionality ≤ kMaxMaxStreams) :
    sub64 (run.space directionality).maxStreamId (run.space directionality).nextAcceptableStreamId /
      kStreamIncrement = run.limit directionality - run.opened directionality := by
  have most := opened_le within directionality
  have next : (run.space directionality).nextAcceptableStreamId =
      run.opened directionality * kStreamIncrement + _ := whole_increments (disciplined.sound.aligned _)
  rw [maxStreamId_eq within,next,firstId]
  rw [sub64_of_le (Nat.add_le_add_right (Nat.mul_le_mul_right _ most) _) (limit_fits small),
    Nat.add_sub_add_right,← Nat.sub_mul]
  exact Nat.mul_div_cancel _ (by decide)

structure Kept (run : CreditRun) : Prop where
  disciplined : run.streams.Disciplined
  within : StreamIdRun.WithinLimits run.streams.conn
  small : run.limit .bidirectional ≤ kMaxMaxStreams
  initial : run.initialLimit .bidirectional ≤ kMaxMaxStreams
  pending : ∀ update, run.streams.conn.streamManager.remoteStreamLimitUpdate .bidirectional = some update →
    update = run.limit .bidirectional
  past : ∀ limit ∈ run.advertised .bidirectional, limit ≤ run.limit .bidirectional

/-- Of what conserves the credit, the part that does not follow from the rest. -/
abbrev Lasts (run : CreditRun) : Prop :=
  run.undefined = false ∧ (run.advertised .bidirectional).Pairwise (· ≥ ·) ∧
    run.limit .bidirectional ≤ run.initialLimit .bidirectional + run.removed .bidirectional ∧
    run.withheld .bidirectional < max 1 (run.window .bidirectional)

theorem Kept.conserves_iff (kept : Kept run) : run.Conserves .bidirectional ↔ Lasts run := by
  constructor
  · intro conserves
    exact ⟨conserves.defined,conserves.advertised,conserves.released,conserves.batched⟩
  · rintro ⟨defined,advertised,released,batched⟩
    refine ⟨defined,advertised,released,?_,batched,?_⟩
    · have opened := opened_eq kept.disciplined .bidirectional
      have most := opened_le kept.within .bidirectional
      unfold withheld
      omega
    · exact congrArg Except.ok (openable_eq kept.disciplined kept.within kept.small)

theorem Kept.and_conserves (kept : Kept run) (lasts : Lasts run) :
    Kept run ∧ run.Conserves .bidirectional := ⟨kept,kept.conserves_iff.mpr lasts⟩

/-- Nothing that the credit depends on has changed. -/
structure Unmoved (run next : CreditRun) : Prop where
  undefined : next.undefined = run.undefined
  advertised : next.advertised = run.advertised
  limit : next.limit .bidirectional = run.limit .bidirectional
  initial : next.initialLimit .bidirectional = run.initialLimit .bidirectional
  removed : next.removed .bidirectional = run.removed .bidirectional
  credits : next.streams.conn.streamManager.credits = run.streams.conn.streamManager.credits

theorem window_eq (initial : next.initialLimit .bidirectional = run.initialLimit .bidirectional)
    (fraction : next.streams.conn.streamManager.streamLimitWindowingFraction =
      run.streams.conn.streamManager.streamLimitWindowingFraction) :
    next.window .bidirectional = run.window .bidirectional := by
  rw [window,window,initial,fraction]

theorem Kept.unmoved (kept : Kept run) (conserves : run.Conserves .bidirectional)
    (same : Unmoved run next) (disciplined : next.streams.Disciplined)
    (within : StreamIdRun.WithinLimits next.streams.conn) :
    Kept next ∧ next.Conserves .bidirectional := by
  have after : Kept next := by
    refine ⟨disciplined,within,?_,?_,?_,?_⟩
    · rw [same.limit]
      exact kept.small
    · rw [same.initial]
      exact kept.initial
    · have updates : next.streams.conn.streamManager.remoteStreamLimitUpdate =
          run.streams.conn.streamManager.remoteStreamLimitUpdate := congrArg Prod.fst same.credits
      rw [updates,same.limit]
      exact kept.pending
    · rw [same.advertised,same.limit]
      exact kept.past
  refine ⟨after,after.conserves_iff.mpr ?_⟩
  obtain ⟨defined,advertised,released,batched⟩ := kept.conserves_iff.mp conserves
  rw [Lasts,withheld,same.undefined,same.advertised,same.limit,same.initial,same.removed,
    window_eq same.initial (congrArg Prod.snd same.credits)]
  exact ⟨defined,advertised,released,batched⟩

/-- The fields that only the credit uses. -/
theorem recredit_disciplined (disciplined : streams.Disciplined)
    (updates : StreamDirectionality → Option Nat) (fraction : Nat) :
    StreamIdRun.Disciplined {streams with conn := streams.conn.manage fun manager => {manager with
      remoteStreamLimitUpdate := updates, streamLimitWindowingFraction := fraction}} :=
  {disciplined with sound := {disciplined.sound with}}

/-- The run after a stream was removed and its id closed. -/
def closing (run : CreditRun) (id : StreamId) (conn : QuicConnectionState) : CreditRun :=
  {run with streams := {run.streams.note conn with closed := insert id run.streams.closed}}

section Closing

variable {id : StreamId} {conn : QuicConnectionState} (closes : Closes run.streams.conn conn id)
  (present : (run.streams.conn.findStream id).isSome)

include closes

theorem closing_initial :
    (run.closing id conn).initialLimit directionality = run.initialLimit directionality := by
  cases directionality with
  | bidirectional => exact congrArg TransportSettings.advertisedInitialMaxStreamsBidi closes.settings
  | unidirectional => exact congrArg TransportSettings.advertisedInitialMaxStreamsUni closes.settings

theorem closing_removed_other
    (other : getStreamKind run.streams.conn.nodeType id ≠ ⟨.remoteNode,directionality⟩) :
    (run.closing id conn).removed directionality = run.removed directionality := by
  have node : (run.closing id conn).streams.conn.nodeType = run.streams.conn.nodeType := closes.node
  rw [removed,removed,node]
  simp only [closing,idsOfKind,Finset.filter_insert,if_neg other]

theorem closing_limit {streams : Nat}
    (limited : (conn.streamManager.streamIds ⟨.remoteNode,.bidirectional⟩).maxStreamId =
      streams * kStreamIncrement + run.firstId .bidirectional) :
    (run.closing id conn).limit .bidirectional = streams := by
  have first : (run.closing id conn).firstId .bidirectional = run.firstId .bidirectional := by
    unfold firstId
    rw [show (run.closing id conn).streams.conn.nodeType = _ from closes.node]
  have space : ((run.closing id conn).space .bidirectional).maxStreamId = _ := limited
  rw [limit,space,first,Nat.add_sub_cancel]
  exact Nat.mul_div_cancel streams (by decide)

include present

theorem step_removes (removal : run.streams.conn.removeClosedStream id = .ok (result,conn)) :
    run.step (.remove id) = .ok (run.closing id conn) := by
  have gone : (conn.findStream id).isNone := by
    rw [closes.find,if_pos rfl]
    rfl
  simp only [step,StreamIdRun.step,removal,bind,Except.bind,pure,Except.pure,closing]
  rw [if_pos ⟨present,gone⟩]

theorem Kept.closing_sound (kept : Kept run) :
    (run.closing id conn).streams.Disciplined ∧
      StreamIdRun.WithinLimits (run.closing id conn).streams.conn := by
  have effect := StreamIdRun.Effect.closed present closes
  exact ⟨kept.disciplined.effect effect,kept.within.effect effect⟩

theorem Kept.closing_removed (kept : Kept run)
    (kind : getStreamKind run.streams.conn.nodeType id = ⟨.remoteNode,directionality⟩) :
    (run.closing id conn).removed directionality = run.removed directionality + 1 := by
  have node : (run.closing id conn).streams.conn.nodeType = run.streams.conn.nodeType := closes.node
  obtain ⟨stream,found⟩ := Option.isSome_iff_exists.mp present
  have isOpen := (kept.disciplined.sound.stated id stream found).2
  have fresh : id ∉ idsOfKind run.streams.conn.nodeType ⟨.remoteNode,directionality⟩ run.streams.closed :=
    fun inside => (kept.disciplined.gone id (Finset.mem_filter.mp inside).1).2 isOpen
  rw [removed,removed,node,← Finset.card_insert_of_notMem fresh]
  simp only [closing,idsOfKind,Finset.filter_insert,if_pos kind]

end Closing

/-- The steps that keep the credit conserved. A stream of the peer is removed only if it has both
directions, and if the limit that would be advertised next is not too large. -/
def Allowed (run : CreditRun) : CreditAction → Prop
  | .remove id => (run.streams.conn.findStream id).isSome → isRemoteStream run.streams.conn.nodeType id →
      getStreamDirectionality id = .bidirectional ∧
        (run.withheld .bidirectional + 1 < run.window .bidirectional ∨
          run.initialLimit .bidirectional + run.removed .bidirectional + 1 ≤ kMaxMaxStreams)
  | _ => True

inductive Returned (run : CreditRun) (conn : QuicConnectionState) : Prop
  | withheld (few : run.withheld .bidirectional + 1 < run.window .bidirectional)
      (same : (conn.streamManager.streamIds ⟨.remoteNode,.bidirectional⟩).maxStreamId =
        (run.space .bidirectional).maxStreamId)
      (updates : conn.streamManager.remoteStreamLimitUpdate =
        run.streams.conn.streamManager.remoteStreamLimitUpdate)
  | raised (enough : run.window .bidirectional ≤ run.withheld .bidirectional + 1)
      (fits : run.limit .bidirectional + (run.withheld .bidirectional + 1) ≤ kMaxMaxStreams)
      (raise : (conn.streamManager.streamIds ⟨.remoteNode,.bidirectional⟩).maxStreamId =
        (run.limit .bidirectional + (run.withheld .bidirectional + 1)) * kStreamIncrement +
          run.firstId .bidirectional)
      (updates : conn.streamManager.remoteStreamLimitUpdate .bidirectional =
        some (run.limit .bidirectional + (run.withheld .bidirectional + 1)))
  | refused (enough : run.window .bidirectional ≤ run.withheld .bidirectional + 1)
      (large : kMaxMaxStreams < run.limit .bidirectional + (run.withheld .bidirectional + 1))
      (same : (conn.streamManager.streamIds ⟨.remoteNode,.bidirectional⟩).maxStreamId =
        (run.space .bidirectional).maxStreamId)

private theorem credit_exact {initial openable left withheld : Nat} (bound : initial ≤ kMaxMaxStreams)
    (conserved : openable + (left + 1) + withheld = initial) :
    sub64 (sub64 initial openable) left = withheld + 1 := by
  have small : initial < 2^64 := Nat.lt_of_le_of_lt bound (by decide)
  rw [sub64_of_le (by omega) small,sub64_of_le (by omega) (by omega)]
  omega

section Steps

variable (kept : Kept run) (conserves : run.Conserves .bidirectional)

include kept conserves

theorem Kept.opens (id : StreamId) (groupId : Option Nat)
    (taken : run.streams.step (.get id groupId) = .ok streams) :
    Kept {run with streams} ∧ ({run with streams} : CreditRun).Conserves .bidirectional := by
  cases taken
  obtain ⟨opened,made,advance⟩ := getStream_advance kept.disciplined.sound id groupId
  refine kept.unmoved conserves ⟨rfl,rfl,?_,?_,?_,advance.credits⟩
    (kept.disciplined.advance advance) (kept.within.advance advance)
  · simp only [limit,space,firstId,StreamIdRun.note]
    rw [advance.limits,advance.node]
  · simp only [initialLimit,initialMaxStreams,StreamIdRun.note]
    rw [advance.settings]
  · simp only [removed,StreamIdRun.note]
    rw [advance.node]

theorem Kept.removal_cases {id : StreamId} (present : (run.streams.conn.findStream id).isSome)
    (remote : isRemoteStream run.streams.conn.nodeType id = true)
    (both : getStreamDirectionality id = .bidirectional) :
    ∃ result conn, run.streams.conn.removeClosedStream id = .ok (result,conn) ∧
      conn.streamManager.streamLimitWindowingFraction =
        run.streams.conn.streamManager.streamLimitWindowingFraction ∧ Returned run conn := by
  have kind : getStreamKind run.streams.conn.nodeType id = ⟨.remoteNode,.bidirectional⟩ := by
    rw [← kind_remote remote,both]
  obtain ⟨stream,found⟩ := Option.isSome_iff_exists.mp present
  obtain ⟨closed,closes,credits,spaceEq,computes⟩ :=
    removeClosedStream_returns kept.disciplined.sound present remote both
  have isOpen := (kept.disciplined.sound.stated id stream found).2
  have own : run.streams.conn.streamIdsOf id = run.space .bidirectional := by rw [streamIdsOf,kind]; rfl
  rw [own] at isOpen spaceEq
  have initial : closed.initialMaxStreams .bidirectional = run.initialLimit .bidirectional :=
    congrArg TransportSettings.advertisedInitialMaxStreamsBidi closes.settings
  have conserved := conserves.conserved
  have left := Finset.card_erase_add_one isOpen
  have credit : sub64 (sub64 (closed.initialMaxStreams .bidirectional)
      (run.limit .bidirectional - run.opened .bidirectional))
      (closed.streamManager.streamIds ⟨.remoteNode,.bidirectional⟩).openStreams.card =
        run.withheld .bidirectional + 1 := by
    rw [initial,spaceEq]
    apply credit_exact kept.initial
    rw [left]
    exact conserved
  have limited : (closed.streamManager.streamIds ⟨.remoteNode,.bidirectional⟩).maxStreamId =
      run.limit .bidirectional * kStreamIncrement +
        initialStreamId closed.nodeType ⟨.remoteNode,.bidirectional⟩ := by
    rw [spaceEq,closes.node]
    exact maxStreamId_eq kept.within .bidirectional
  have few : run.withheld .bidirectional + 1 ≤ kMaxMaxStreams := by
    have bound := kept.initial
    omega
  rw [spaceEq] at computes
  dsimp only at computes
  rw [openable_eq kept.disciplined kept.within kept.small] at computes
  have fraction : closed.streamManager.streamLimitWindowingFraction = _ := congrArg Prod.snd credits
  have cases := returnStreamCredit_cases credit limited kept.small (Nat.le_add_left ..) few
  rw [initial,fraction] at cases
  rcases cases with ⟨enough,same⟩ | ⟨enough,fits,next,raised,raises⟩ | ⟨enough,large,error,refused⟩
  · obtain ⟨last,removal,ids,untouched⟩ := computes _ _ same
    rw [credits] at untouched
    refine ⟨_,last,removal,congrArg Prod.snd untouched,.withheld enough ?_ (congrArg Prod.fst untouched)⟩
    rw [ids,spaceEq]
  · obtain ⟨last,removal,ids,untouched⟩ := computes _ _ raised
    refine ⟨_,last,removal,?_,.raised enough fits ?_ ?_⟩
    · exact (congrArg Prod.snd untouched).trans (raises.fraction.trans fraction)
    · rw [ids,raises.raised,closes.node]
      rfl
    · have updates : last.streamManager.remoteStreamLimitUpdate = next.streamManager.remoteStreamLimitUpdate :=
        congrArg Prod.fst untouched
      rw [updates,raises.update,Function.update_self]
  · obtain ⟨last,removal,ids,untouched⟩ := computes _ _ refused
    rw [credits] at untouched
    refine ⟨_,last,removal,congrArg Prod.snd untouched,.refused enough large ?_⟩
    rw [ids,spaceEq]

theorem Kept.returns {id : StreamId} (present : (run.streams.conn.findStream id).isSome)
    (remote : isRemoteStream run.streams.conn.nodeType id = true)
    (both : getStreamDirectionality id = .bidirectional) (taken : run.step (.remove id) = .ok next) :
    (Allowed run (.remove id) → Kept next) ∧
      (next.Conserves .bidirectional ↔ Allowed run (.remove id)) := by
  have kind : getStreamKind run.streams.conn.nodeType id = ⟨.remoteNode,.bidirectional⟩ := by
    rw [← kind_remote remote,both]
  obtain ⟨result,conn,removal,fraction,returned⟩ := kept.removal_cases conserves present remote both
  have closes := removeClosedStream_closes kept.disciplined.sound present removal
  cases (step_removes closes present removal).symm.trans taken
  obtain ⟨disciplined,within⟩ := kept.closing_sound closes present
  obtain ⟨defined,advertised,released,batched⟩ := kept.conserves_iff.mp conserves
  have removed := kept.closing_removed closes present kind
  have initial : (run.closing id conn).initialLimit .bidirectional = _ := closing_initial closes
  have window := window_eq initial fraction
  have withheld : run.withheld .bidirectional = _ - _ := rfl
  have withheldAfter : (run.closing id conn).withheld .bidirectional = _ - _ := rfl
  rw [initial,removed] at withheldAfter
  have allowed : Allowed run (.remove id) ↔ run.withheld .bidirectional + 1 < run.window .bidirectional ∨
      run.initialLimit .bidirectional + run.removed .bidirectional + 1 ≤ kMaxMaxStreams :=
    ⟨fun met => (met present remote).2,fun fits _ _ => ⟨both,fits⟩⟩
  rw [allowed]
  cases returned with
  | withheld few same updates =>
    have limit : (run.closing id conn).limit .bidirectional = run.limit .bidirectional :=
      closing_limit closes (same.trans (maxStreamId_eq kept.within .bidirectional))
    have after : Kept (run.closing id conn) := by
      refine ⟨disciplined,within,limit ▸ kept.small,initial ▸ kept.initial,?_,?_⟩
      · rw [limit]
        exact fun update waiting => kept.pending update (updates ▸ waiting)
      · rw [limit]
        exact kept.past
    refine ⟨fun _ => after,iff_of_true (after.conserves_iff.mpr ?_) (.inl few)⟩
    rw [Lasts,window,withheldAfter,removed,initial,limit]
    exact ⟨defined,advertised,by omega,by omega⟩
  | raised enough fits raise updates =>
    have limit := closing_limit closes raise
    have after : Kept (run.closing id conn) := by
      refine ⟨disciplined,within,limit ▸ fits,initial ▸ kept.initial,?_,?_⟩
      · intro update waiting
        rw [limit]
        exact (Option.some.inj (updates.symm.trans waiting)).symm
      · intro past inside
        rw [limit]
        exact Nat.le_add_right_of_le (kept.past past inside)
    refine ⟨fun _ => after,iff_of_true (after.conserves_iff.mpr ?_) (.inr (by omega))⟩
    rw [Lasts,window,withheldAfter,removed,initial,limit]
    exact ⟨defined,advertised,by omega,by omega⟩
  | refused enough large same =>
    have limit : (run.closing id conn).limit .bidirectional = run.limit .bidirectional :=
      closing_limit closes (same.trans (maxStreamId_eq kept.within .bidirectional))
    rw [limit] at withheldAfter
    refine ⟨fun met => ?_,iff_of_false (fun after => ?_) fun met => ?_⟩
    · omega
    · have few := after.batched
      rw [window,withheldAfter] at few
      omega
    · omega

theorem Kept.removes_local {id : StreamId} (present : (run.streams.conn.findStream id).isSome)
    (isLocal : isRemoteStream run.streams.conn.nodeType id = false)
    (taken : run.step (.remove id) = .ok next) : Kept next ∧ next.Conserves .bidirectional := by
  obtain ⟨conn,removal,credits,spaces⟩ :=
    removeClosedStream_local kept.disciplined.sound present isLocal
  have closes := removeClosedStream_closes kept.disciplined.sound present removal
  cases (step_removes closes present removal).symm.trans taken
  obtain ⟨disciplined,within⟩ := kept.closing_sound closes present
  have other : getStreamKind run.streams.conn.nodeType id ≠ ⟨.remoteNode,.bidirectional⟩ := by
    rw [← kind_local isLocal]
    nofun
  refine kept.unmoved conserves ⟨rfl,rfl,?_,closing_initial closes,
    closing_removed_other closes other,credits⟩ disciplined within
  apply closing_limit closes
  rw [spaces]
  exact maxStreamId_eq kept.within .bidirectional

theorem Kept.sends (directionality : StreamDirectionality)
    (taken : run.step (.sendUpdate directionality) = .ok next) :
    Kept next ∧ next.Conserves .bidirectional := by
  obtain ⟨defined,advertised,released,batched⟩ := kept.conserves_iff.mp conserves
  have disciplined := recredit_disciplined kept.disciplined
    (Function.update run.streams.conn.streamManager.remoteStreamLimitUpdate directionality none)
    run.streams.conn.streamManager.streamLimitWindowingFraction
  have pending : ∀ update, Function.update run.streams.conn.streamManager.remoteStreamLimitUpdate
      directionality none .bidirectional = some update → update = run.limit .bidirectional := by
    intro update waiting
    cases directionality with
    | bidirectional => cases waiting
    | unidirectional => exact kept.pending update waiting
  simp only [step,takeStreamLimitUpdate] at taken
  cases waiting : run.streams.conn.streamManager.remoteStreamLimitUpdate directionality with
  | none =>
    rw [waiting] at taken
    obtain rfl := Except.ok.inj taken
    refine Kept.and_conserves {kept with disciplined, pending} ?_
    exact ⟨defined,advertised,released,batched⟩
  | some limit =>
    rw [waiting] at taken
    obtain rfl := Except.ok.inj taken
    cases directionality with
    | bidirectional =>
      obtain rfl := kept.pending limit waiting
      have past : ∀ limit ∈ run.limit .bidirectional :: run.advertised .bidirectional,
          limit ≤ run.limit .bidirectional :=
        List.forall_mem_cons.mpr ⟨Nat.le_refl _,kept.past⟩
      refine Kept.and_conserves {kept with disciplined, pending, past} ?_
      exact ⟨defined,List.pairwise_cons.mpr ⟨kept.past,advertised⟩,released,batched⟩
    | unidirectional =>
      refine Kept.and_conserves {kept with disciplined, pending} ?_
      exact ⟨defined,advertised,released,batched⟩

theorem Kept.step_exact {action : CreditAction} (taken : run.step action = .ok next) :
    (Allowed run action → Kept next) ∧ (next.Conserves .bidirectional ↔ Allowed run action) := by
  cases action with
  | peerOpens id groupId =>
    obtain ⟨streams,opens,done⟩ := bind_ok.mp taken
    cases done
    obtain ⟨after,conserved⟩ := kept.opens conserves id groupId opens
    exact ⟨fun _ => after,iff_of_true conserved trivial⟩
  | sendUpdate directionality =>
    obtain ⟨after,conserved⟩ := kept.sends conserves directionality taken
    exact ⟨fun _ => after,iff_of_true conserved trivial⟩
  | remove id =>
    rcases removeClosedStream_cases kept.disciplined.sound id with
      ⟨absent,same⟩ | ⟨present,peer,undefined⟩ | ⟨present,other,-⟩
    · have stays : run.step (.remove id) = .ok {run with streams := run.streams.note run.streams.conn} := by
        simp only [step,StreamIdRun.step,same,bind,Except.bind,pure,Except.pure,absent]
        rfl
      cases stays.symm.trans taken
      have advance := Advance.refl kept.disciplined.sound
      have steady : Unmoved run {run with streams := run.streams.note run.streams.conn} :=
        ⟨rfl,rfl,rfl,rfl,rfl,rfl⟩
      obtain ⟨after,conserved⟩ :=
        kept.unmoved conserves steady (kept.disciplined.advance advance) kept.within
      refine ⟨fun _ => after,iff_of_true conserved fun found => ?_⟩
      rw [absent] at found
      cases found
    · have breaks : run.step (.remove id) = .ok {run with undefined := true} := by
        simp only [step,StreamIdRun.step,undefined,bind,Except.bind]
      cases breaks.symm.trans taken
      have single : getStreamDirectionality id ≠ .bidirectional := by
        rw [getStreamDirectionality,if_pos peer.2]
        decide
      have wrong : ¬Allowed run (.remove id) := fun met => single (met present peer.1).1
      exact ⟨fun met => absurd met wrong,iff_of_false (fun after => Bool.noConfusion after.defined) wrong⟩
    · cases remote : isRemoteStream run.streams.conn.nodeType id with
      | false =>
        obtain ⟨after,conserved⟩ := kept.removes_local conserves present remote taken
        exact ⟨fun _ => after,iff_of_true conserved fun _ isRemote => absurd isRemote (by rw [remote]; decide)⟩
      | true =>
        have both : getStreamDirectionality id = .bidirectional := by
          rw [getStreamDirectionality,if_neg fun uni => other ⟨remote,uni⟩]
        exact kept.returns conserves present remote both taken

end Steps

private theorem setMaxRemoteStreams_credits {conn next : QuicConnectionState} {maxStreams : Nat}
    (done : conn.setMaxRemoteStreams directionality maxStreams true = (.ok (),next)) :
    maxStreams ≤ kMaxMaxStreams ∧ next.streamManager.remoteStreamLimitUpdate =
      conn.streamManager.remoteStreamLimitUpdate := by
  unfold setMaxRemoteStreams setMaxStreams at done
  by_cases large : maxStreams > kMaxMaxStreams
  · rw [if_pos large] at done
    cases done
  · rw [if_neg large] at done
    dsimp only at done
    rw [if_pos (.inl rfl)] at done
    cases done
    exact ⟨Nat.not_lt.mp large,rfl⟩

theorem constructStreams_credits {conn start : QuicConnectionState}
    (constructed : conn.constructStreams = (.ok (),start)) :
    start.initialMaxStreams .bidirectional ≤ kMaxMaxStreams ∧
      start.streamManager.remoteStreamLimitUpdate = (fun _ => none) ∧
      (start.streamManager.streamIds ⟨.remoteNode,.bidirectional⟩).maxStreamId =
        start.initialMaxStreams .bidirectional * kStreamIncrement +
          initialStreamId start.nodeType ⟨.remoteNode,.bidirectional⟩ := by
  change (StreamIdRun.streamless conn).refreshTransportSettings conn.transportSettings = _ at constructed
  generalize fresh : StreamIdRun.streamless conn = empty at constructed
  have unset : empty.streamManager.remoteStreamLimitUpdate = fun _ => none := by rw [← fresh]
  obtain ⟨result,next,refreshed,moved,settings,limits⟩ :=
    StreamIdRun.refresh_relimits empty conn.transportSettings
  cases refreshed.symm.trans constructed
  have limit := (limits .bidirectional).resolve_left fun kept => kept.2 rfl
  have initial : start.initialMaxStreams .bidirectional =
      {empty with transportSettings := conn.transportSettings}.initialMaxStreams .bidirectional :=
    congrArg TransportSettings.advertisedInitialMaxStreamsBidi settings
  rw [initial,moved.node]
  unfold refreshTransportSettings at constructed
  dsimp only at constructed
  split at constructed
  · cases constructed
  next middle first =>
    obtain ⟨small,kept⟩ := setMaxRemoteStreams_credits first
    exact ⟨small,((setMaxRemoteStreams_credits constructed).2.trans kept).trans unset,limit⟩

theorem start_kept {conn begun : QuicConnectionState} (constructed : conn.constructStreams = (.ok (),begun))
    (fraction : Nat) : Kept (start begun fraction) ∧ (start begun fraction).Conserves .bidirectional := by
  obtain ⟨disciplined,within,-⟩ := StreamIdRun.constructStreams_disciplined constructed
  obtain ⟨small,unset,limited⟩ := constructStreams_credits constructed
  have limit : (start begun fraction).limit .bidirectional = begun.initialMaxStreams .bidirectional := by
    show (_ - _) / kStreamIncrement = _
    rw [show ((start begun fraction).space .bidirectional).maxStreamId = _ from limited]
    exact (congrArg (· / _) (Nat.add_sub_cancel ..)).trans (Nat.mul_div_cancel _ (by decide))
  have withheld : (start begun fraction).withheld .bidirectional = 0 := Nat.sub_eq_zero_of_le limit.ge
  have kept : Kept (start begun fraction) := by
    refine ⟨recredit_disciplined disciplined _ _,within,limit.trans_le small,small,?_,?_⟩
    · intro update waiting
      cases (congrFun unset .bidirectional).symm.trans waiting
    · intro past inside
      rw [List.mem_singleton.mp inside]
      exact limit.ge
  refine kept.and_conserves ⟨rfl,List.pairwise_singleton ..,limit.le,?_⟩
  rw [withheld]
  exact Nat.lt_of_lt_of_le Nat.zero_lt_one (Nat.le_max_left ..)

/-- The credit of the peer is conserved in every state of a run exactly if it is that for streams in
both directions and every stream of the peer that is removed has both, until the limits run out. -/
theorem stream_credit_conserved {conn begun : QuicConnectionState}
    (constructed : conn.constructStreams = (.ok (),begun)) (fraction : Nat) (actions : List CreditAction)
    (directionality : StreamDirectionality) :
    Throughout step (·.Conserves directionality) (start begun fraction) actions ↔
      directionality = .bidirectional ∧ StepsMeet step Allowed (start begun fraction) actions := by
  cases directionality with
  | unidirectional =>
    -- Nothing is returned for these streams.
    refine iff_of_false (fun conserves => ?_) fun wrong => nomatch wrong.1
    have first : (start begun fraction).Conserves .unidirectional := by
      cases actions with
      | nil => exact conserves
      | cons => exact conserves.1
    exact nomatch first.reported
  | bidirectional =>
    obtain ⟨kept,conserves⟩ := start_kept constructed fraction
    rw [throughout_iff_stepsMeet (fun _ _ _ kept still => kept.step_exact still) kept conserves]
    exact (and_iff_right rfl).symm

/-- The peer opens three streams of a server, two of them are removed and the limit is raised. -/
theorem stream_credit_conserved_server :
    Throughout step (·.Conserves .bidirectional) (start StreamIdRun.freshServer 1024)
      [.peerOpens 8 none,.peerOpens 0 none,.remove 0,.remove 8,.sendUpdate .bidirectional] := by
  have constructed : ({nodeType := .server} : QuicConnectionState).constructStreams =
    (.ok (),StreamIdRun.freshServer) := rfl
  refine (stream_credit_conserved constructed 1024 _ .bidirectional).mpr ⟨rfl,?_⟩
  refine fun _ first => ⟨trivial,fun _ second => ⟨trivial,fun _ third => ⟨?_,fun _ fourth => ⟨?_,
    fun _ _ => ⟨trivial,trivial⟩⟩⟩⟩⟩
  · cases first
    cases second
    exact fun _ _ => ⟨rfl,.inr (by decide)⟩
  · cases first
    cases second
    cases third
    exact fun _ _ => ⟨rfl,.inr (by decide)⟩

/-- The peer opens a stream in one direction, which is removed. -/
theorem unidirectional_credit_undefined :
    ((start StreamIdRun.freshServer 2).streams.conn.openableRemoteStreams .unidirectional =
        .error undefinedResult) ∧
      ∃ opened removed, (start StreamIdRun.freshServer 2).step (.peerOpens 2 none) = .ok opened ∧
        opened.step (.remove 2) = .ok removed ∧ removed.undefined = true ∧
        ¬removed.Conserves .unidirectional ∧ ¬removed.Conserves .bidirectional := by
  refine ⟨rfl,_,_,rfl,rfl,rfl,fun conserves => ?_,fun conserves => ?_⟩
  · exact nomatch conserves.defined
  · exact nomatch conserves.defined

end CreditRun

end StreamServer.State
