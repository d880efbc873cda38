import StreamServer.State.StreamIdSteps

/-! The discipline of stream ids over whole runs: what is open lies below the next id of its
kind, what was closed is never opened again, and each stream of the peer is reported once. -/
namespace StreamServer.State
open Protocol Lib.Transition QuicConnectionState

variable {conn : QuicConnectionState} {id : StreamId} {opened made : List StreamId}
  {action : StreamIdAction}

inductive StreamIdAction where
  | createNext (directionality : StreamDirectionality) (groupId : Option Nat)
  | createNextGroup (directionality : StreamDirectionality)
  | create (id : StreamId) (groupId : Option Nat)
  | get (id : StreamId) (groupId : Option Nat)
  | setMaxLocal (directionality : StreamDirectionality) (maxStreams : Nat) (force : Bool)
  | setMaxRemote (directionality : StreamDirectionality) (maxStreams : Nat)
  | refresh (settings : TransportSettings)
  | consume
  | remove (id : StreamId)

/-- The connection with what the run remembers: the ids whose streams were removed, those whose
streams ever had a state, the ids of the peer that were handed out as new, and those that were
created as the next ones. -/
structure StreamIdRun where
  conn : QuicConnectionState
  closed : Finset StreamId := ∅
  created : Finset StreamId := ∅
  consumed : List StreamId := []
  nextCreated : StreamDirectionality → List StreamId := fun _ => []

namespace StreamIdRun

def note (run : StreamIdRun) (conn : QuicConnectionState) : StreamIdRun :=
  {run with
    conn
    created := run.created ∪ conn.streamManager.streams.keys.toFinset}

def step (run : StreamIdRun) : StreamIdAction → Except Error StreamIdRun
  | .createNext directionality groupId =>
    let id := run.conn.streamManager.nextStreamId directionality
    match run.conn.createNextStream directionality groupId with
    | (.ok (.ok _),next) => .ok {run.note next with
        nextCreated := Function.update run.nextCreated directionality
          (run.nextCreated directionality ++ [id])}
    | (_,next) => .ok (run.note next)
  | .createNextGroup directionality => .ok (run.note (run.conn.createNextStreamGroup directionality).2)
  | .create id groupId => .ok (run.note (run.conn.createStream id groupId).2)
  | .get id groupId => .ok (run.note (run.conn.getStream id groupId).2)
  | .setMaxLocal directionality maxStreams force =>
    .ok (run.note (run.conn.setMaxLocalStreams directionality maxStreams force).2)
  | .setMaxRemote directionality maxStreams =>
    .ok (run.note (run.conn.setMaxRemoteStreams directionality maxStreams false).2)
  | .refresh settings => .ok (run.note (run.conn.refreshTransportSettings settings).2)
  | .consume => .ok {run.note (run.conn.manage fun manager =>
        {manager with newPeerStreams := [], newGroupedPeerStreams := []}) with
      consumed := run.consumed ++ run.conn.streamManager.newPeerStreams ++
        run.conn.streamManager.newGroupedPeerStreams}
  | .remove id => do
    let (_,next) ← run.conn.removeClosedStream id
    return {run.note next with
      closed := if (run.conn.findStream id).isSome ∧ (next.findStream id).isNone
        then insert id run.closed else run.closed}

/-- The ids that must have been reported: with explicit reports those that ever had a state, else
those that were ever opened. -/
def reportable (run : StreamIdRun) (id : StreamId) : Bool :=
  isRemoteStream run.conn.nodeType id &&
    if run.conn.transportSettings.notifyOnNewStreamsExplicitly then decide (id ∈ run.created)
    else decide (id < (run.conn.streamIdsOf id).nextAcceptableStreamId)

def WithinLimits (conn : QuicConnectionState) : Prop :=
  ∀ directionality, (conn.streamManager.streamIds ⟨.remoteNode,directionality⟩).nextAcceptableStreamId ≤
      (conn.streamManager.streamIds ⟨.remoteNode,directionality⟩).maxStreamId ∧
    (conn.streamManager.streamIds ⟨.remoteNode,directionality⟩).maxStreamId % kStreamIncrement =
      initialStreamId conn.nodeType ⟨.remoteNode,directionality⟩

/-- The ids that were created as the next ones, from the first on. -/
def Consecutive (run : StreamIdRun) : Prop :=
  ∀ directionality, let first := initialStreamId run.conn.nodeType ⟨.localNode,directionality⟩
    run.nextCreated directionality =
      (List.range (run.nextCreated directionality).length).map (first + kStreamIncrement * ·) ∧
    run.conn.streamManager.nextStreamId directionality =
      first + kStreamIncrement * (run.nextCreated directionality).length

structure Disciplined (run : StreamIdRun) : Prop where
  sound : IdsSound run.conn
  accounted : ∀ id, id < (run.conn.streamIdsOf id).nextAcceptableStreamId →
    id ∈ (run.conn.streamIdsOf id).openStreams ∨ id ∈ run.closed
  gone : ∀ id ∈ run.closed, id < (run.conn.streamIdsOf id).nextAcceptableStreamId ∧
    id ∉ (run.conn.streamIdsOf id).openStreams
  known : ∀ id, (run.conn.findStream id).isSome → id ∈ run.created
  past : ∀ id ∈ run.created, (run.conn.findStream id).isSome ∨ id ∈ run.closed
  reported : ∀ id, run.consumed.count id + reportCount run.conn id =
    if run.reportable id then 1 else 0
  consecutive : Consecutive run

section Effects

variable {run next : StreamIdRun}

@[simp] theorem note_conn : (run.note conn).conn = conn := rfl

theorem mem_note :
    id ∈ (run.note conn).created ↔ id ∈ run.created ∨ (conn.findStream id).isSome := by
  rw [note,Finset.mem_union,List.mem_toFinset,findStream,QuicStreamManager.findStream,
    AList.lookup_isSome,AList.mem_keys]

theorem Consecutive.note (consecutive : Consecutive run)
    (node : conn.nodeType = run.conn.nodeType)
    (nexts : conn.streamManager.nextStreamId = run.conn.streamManager.nextStreamId) :
    Consecutive (run.note conn) := by
  intro directionality
  have before := consecutive directionality
  rw [note_conn,node,nexts]
  exact before

theorem WithinLimits.advance {before after : QuicConnectionState}
    (within : WithinLimits before) (advance : Advance before after opened made) : WithinLimits after := by
  intro directionality
  obtain ⟨bound,aligned⟩ := within directionality
  rw [advance.limits,advance.node]
  refine ⟨?_,aligned⟩
  -- Beyond the limit the id at the limit would have been opened.
  generalize limit : (before.streamManager.streamIds ⟨.remoteNode,directionality⟩).maxStreamId = top at *
  have kind : getStreamKind before.nodeType top = ⟨.remoteNode,directionality⟩ :=
    getStreamKind_iff.mpr aligned
  have space : before.streamIdsOf top = before.streamManager.streamIds ⟨.remoteNode,directionality⟩ := by
    rw [streamIdsOf,kind]
  have spaceAfter : after.streamIdsOf top = after.streamManager.streamIds ⟨.remoteNode,directionality⟩ := by
    rw [streamIdsOf,advance.node,kind]
  apply Nat.not_lt.mp
  intro beyond
  rw [← spaceAfter] at beyond
  rcases (advance.reaches top).mp beyond with early | opening
  · rw [space] at early
    exact absurd early (Nat.not_lt.mpr bound)
  · have small := (advance.fresh top opening).2
    rw [space,limit] at small
    exact absurd small (Nat.lt_irrefl _)

private theorem once_more {added : List StreamId} {old : Prop} [Decidable old]
    (once : added.Nodup) (fresh : id ∈ added → ¬old) :
    (if old then 1 else 0) + added.count id = if old ∨ id ∈ added then 1 else 0 := by
  by_cases inside : id ∈ added
  · rw [List.count_eq_one_of_mem once inside]
    simp [inside,fresh inside]
  · rw [List.count_eq_zero.mpr inside]
    simp [inside]

theorem Disciplined.advance {next : QuicConnectionState}
    (disciplined : Disciplined run) (advance : Advance run.conn next opened made) :
    Disciplined (run.note next) := by
  have created : ∀ id, id ∈ (run.note next).created ↔ id ∈ run.created ∨ id ∈ made := by
    intro id
    rw [mem_note,advance.makes]
    constructor
    · rintro (old | old | new)
      · exact .inl old
      · exact .inl (disciplined.known id old)
      · exact .inr new
    · rintro (old | new)
      · exact .inl old
      · exact .inr (.inr new)
  have fresh : ∀ id ∈ made, id ∉ run.created := by
    intro id inside old
    obtain ⟨absent,isOpen⟩ := advance.newly id inside
    have isClosed := (disciplined.past id old).resolve_left (by rw [absent]; nofun)
    obtain ⟨early,notOpen⟩ := disciplined.gone id isClosed
    rcases (advance.opens id).mp isOpen with before | opening
    · exact notOpen before
    · exact (advance.fresh id opening).1 early
  refine ⟨advance.sound,?_,?_,?_,?_,?_,?_⟩
  · intro id early
    rcases (advance.reaches id).mp early with before | opening
    · exact (disciplined.accounted id before).imp_left fun isOpen => (advance.opens id).mpr (.inl isOpen)
    · exact .inl ((advance.opens id).mpr (.inr opening))
  · intro id isClosed
    obtain ⟨early,notOpen⟩ := disciplined.gone id isClosed
    refine ⟨(advance.reaches id).mpr (.inl early),fun isOpen => ?_⟩
    rcases (advance.opens id).mp isOpen with before | opening
    · exact notOpen before
    · exact (advance.fresh id opening).1 early
  · exact fun id present => mem_note.mpr (.inr present)
  · intro id inside
    rcases (created id).mp inside with old | new
    · exact (disciplined.past id old).imp_left fun present => (advance.makes id).mpr (.inl present)
    · exact .inl ((advance.makes id).mpr (.inr new))
  · intro id
    have before := disciplined.reported id
    show run.consumed.count id + reportCount next id = _
    rw [advance.reports,← Nat.add_assoc,before]
    unfold reportable
    rw [note_conn,advance.node,advance.settings]
    cases isRemoteStream run.conn.nodeType id with
    | false => rfl
    | true =>
      simp only [Bool.true_and,if_true]
      cases run.conn.transportSettings.notifyOnNewStreamsExplicitly with
      | true =>
        simp only [if_true,decide_eq_true_eq,created]
        exact once_more advance.once.2 (fresh id)
      | false =>
        simp only [Bool.false_eq_true,if_false,decide_eq_true_eq,advance.reaches]
        exact once_more advance.once.1 fun opening => (advance.fresh id opening).1
  · exact disciplined.consecutive.note advance.node advance.nexts

theorem Disciplined.relimit {next : QuicConnectionState} (disciplined : Disciplined run)
    (moved : Relimits run.conn next) (mode : next.transportSettings.notifyOnNewStreamsExplicitly =
      run.conn.transportSettings.notifyOnNewStreamsExplicitly) : Disciplined (run.note next) := by
  have space : ∀ id, (next.streamIdsOf id).openStreams = (run.conn.streamIdsOf id).openStreams ∧
      (next.streamIdsOf id).nextAcceptableStreamId = (run.conn.streamIdsOf id).nextAcceptableStreamId := by
    intro id
    rw [streamIdsOf,moved.node]
    exact ⟨moved.opens _,moved.reaches _⟩
  have created : ∀ id, id ∈ (run.note next).created ↔ id ∈ run.created := by
    intro id
    rw [mem_note,moved.find]
    exact ⟨fun either => either.elim (fun old => old) (disciplined.known id),.inl⟩
  refine ⟨moved.sound disciplined.sound,?_,?_,?_,?_,?_,?_⟩
  · intro id early
    rw [note_conn,(space id).2] at early
    rw [note_conn,(space id).1]
    exact disciplined.accounted id early
  · intro id isClosed
    rw [note_conn,(space id).1,(space id).2]
    exact disciplined.gone id isClosed
  · exact fun id present => mem_note.mpr (.inr present)
  · intro id inside
    rw [note_conn,moved.find]
    exact disciplined.past id ((created id).mp inside)
  · intro id
    show run.consumed.count id + reportCount next id = _
    rw [moved.counts,disciplined.reported id]
    unfold reportable
    simp only [note_conn,moved.node,mode,created,(space id).2]
  · exact disciplined.consecutive.note moved.node moved.nexts

theorem refresh_relimits (conn : QuicConnectionState) (settings : TransportSettings) :
    ∃ result next, conn.refreshTransportSettings settings = (result,next) ∧
      Relimits conn next ∧ next.transportSettings = settings ∧ ∀ directionality,
        (next.streamManager.streamIds ⟨.remoteNode,directionality⟩).maxStreamId =
            (conn.streamManager.streamIds ⟨.remoteNode,directionality⟩).maxStreamId ∧ result ≠ .ok () ∨
          (next.streamManager.streamIds ⟨.remoteNode,directionality⟩).maxStreamId =
            {conn with transportSettings := settings}.initialMaxStreams directionality * kStreamIncrement +
              initialStreamId conn.nodeType ⟨.remoteNode,directionality⟩ := by
  have renewed : Relimits conn {conn with transportSettings := settings} :=
    ⟨rfl,rfl,rfl,rfl,fun _ => rfl,rfl,fun _ => rfl,fun _ => rfl⟩
  unfold refreshTransportSettings
  dsimp only
  obtain ⟨result,middle,first,moved,kept,others,set⟩ :=
    setMaxRemoteStreams_forced {conn with transportSettings := settings} .bidirectional
      ({conn with transportSettings := settings}.initialMaxStreams .bidirectional)
  rw [first]
  have untouched : middle.streamManager.streamIds ⟨.remoteNode,.unidirectional⟩ =
      conn.streamManager.streamIds ⟨.remoteNode,.unidirectional⟩ := others _ nofun
  cases result with
  | error error =>
    refine ⟨_,_,rfl,renewed.trans moved,kept,fun directionality => ?_⟩
    cases directionality with
    | bidirectional => exact set.imp_left fun ⟨same,threw⟩ => ⟨by rw [same],threw⟩
    | unidirectional => exact .inl ⟨by rw [untouched],nofun⟩
  | ok done =>
    have bidirectional := set.resolve_left fun threw => threw.2 rfl
    obtain ⟨_,last,second,movedOn,keptOn,othersOn,setOn⟩ :=
      setMaxRemoteStreams_forced middle .unidirectional (middle.initialMaxStreams .unidirectional)
    dsimp only
    rw [second]
    refine ⟨_,_,rfl,(renewed.trans moved).trans movedOn,keptOn.trans kept,fun directionality => ?_⟩
    cases directionality with
    | bidirectional =>
      rw [othersOn ⟨.remoteNode,.bidirectional⟩ nofun]
      exact .inr bidirectional
    | unidirectional =>
      rcases setOn with ⟨rfl,threw⟩ | exact
      · exact .inl ⟨by rw [untouched],threw⟩
      · right
        rw [exact,initialMaxStreams,kept,moved.node]
        rfl

/-- A limit moves only to where the peer has not been yet. -/
theorem WithinLimits.move {before after : QuicConnectionState} (within : WithinLimits before)
    (node : after.nodeType = before.nodeType)
    (reaches : ∀ kind, (after.streamManager.streamIds kind).nextAcceptableStreamId =
      (before.streamManager.streamIds kind).nextAcceptableStreamId)
    (limits : ∀ directionality, let limit := fun conn : QuicConnectionState =>
        (conn.streamManager.streamIds ⟨.remoteNode,directionality⟩).maxStreamId
      limit after = limit before ∨
        (before.streamManager.streamIds ⟨.remoteNode,directionality⟩).nextAcceptableStreamId ≤ limit after ∧
          limit after % kStreamIncrement = initialStreamId before.nodeType ⟨.remoteNode,directionality⟩) :
    WithinLimits after := by
  intro directionality
  obtain ⟨bound,aligned⟩ := within directionality
  rw [reaches,node]
  rcases limits directionality with same | moved
  · dsimp only at same
    rw [same]
    exact ⟨bound,aligned⟩
  · exact moved

/-- New settings that the peer cannot notice: streams go on being reported the way they were, and no
limit falls below the streams that are open. -/
def Keeps (conn : QuicConnectionState) : StreamIdAction → Prop
  | .refresh settings => settings.notifyOnNewStreamsExplicitly =
        conn.transportSettings.notifyOnNewStreamsExplicitly ∧
      ∀ directionality,
        (conn.streamManager.streamIds ⟨.remoteNode,directionality⟩).nextAcceptableStreamId ≤
          {conn with transportSettings := settings}.initialMaxStreams directionality * kStreamIncrement +
            initialStreamId conn.nodeType ⟨.remoteNode,directionality⟩
  | _ => True

inductive Effect (run : StreamIdRun) : StreamIdRun → Prop
  | advanced {conn : QuicConnectionState} {opened made : List StreamId}
      (advance : Advance run.conn conn opened made) : Effect run (run.note conn)
  | created {conn : QuicConnectionState} {opened made : List StreamId}
      (directionality : StreamDirectionality) (advance : Advance run.conn conn opened made) :
      Effect run {run.note (conn.manage fun manager => {manager with
          nextStreamId := Function.update manager.nextStreamId directionality
            (manager.nextStreamId directionality + kStreamIncrement)}) with
        nextCreated := Function.update run.nextCreated directionality
          (run.nextCreated directionality ++ [run.conn.streamManager.nextStreamId directionality])}
  | relimited {conn : QuicConnectionState} (moved : Relimits run.conn conn)
      (mode : conn.transportSettings.notifyOnNewStreamsExplicitly =
        run.conn.transportSettings.notifyOnNewStreamsExplicitly)
      (within : WithinLimits run.conn → WithinLimits conn) : Effect run (run.note conn)
  | consumed : Effect run {run.note (run.conn.manage fun manager =>
        {manager with newPeerStreams := [], newGroupedPeerStreams := []}) with
      consumed := run.consumed ++ run.conn.streamManager.newPeerStreams ++
        run.conn.streamManager.newGroupedPeerStreams}
  | closed {conn : QuicConnectionState} {id : StreamId} (present : (run.conn.findStream id).isSome)
      (closes : Closes run.conn conn id) :
      Effect run {run.note conn with closed := insert id run.closed}

private theorem setMaxLocalStreams_relimits (conn : QuicConnectionState)
    (directionality : StreamDirectionality) (maxStreams : Nat) (force : Bool) : ∃ result next,
    conn.setMaxLocalStreams directionality maxStreams force = (result,next) ∧ Relimits conn next ∧
      next.transportSettings = conn.transportSettings ∧
      ∀ other, next.streamManager.streamIds ⟨.remoteNode,other⟩ =
        conn.streamManager.streamIds ⟨.remoteNode,other⟩ := by
  unfold setMaxLocalStreams
  cases done : conn.setMaxStreams ⟨.localNode,directionality⟩ maxStreams force with
  | error error => exact ⟨_,_,rfl,.refl conn,rfl,fun _ => rfl⟩
  | ok result =>
    obtain ⟨increased,next⟩ := result
    obtain ⟨moved,settings,others,-⟩ := setMaxStreams_ok done
    refine ⟨_,_,rfl,?_⟩
    cases increased with
    | false => exact ⟨moved,settings,fun other => others _ nofun⟩
    | true =>
      exact ⟨moved.trans ⟨rfl,rfl,rfl,rfl,fun _ => rfl,rfl,fun _ => rfl,fun _ => rfl⟩,settings,
        fun other => others _ nofun⟩

theorem step_effect (sound : IdsSound run.conn)
    (keeps : Keeps run.conn action) (done : run.step action = .ok next) : Effect run next := by
  cases action with
  | createNext directionality groupId =>
    obtain ⟨opened,made,advance⟩ :=
      createStream_advance sound (run.conn.streamManager.nextStreamId directionality) groupId
    simp only [step,createNextStream] at done
    generalize run.conn.createStream _ groupId = result at advance done
    obtain ⟨(error | error | stream),conn⟩ := result
    · cases done
      exact .advanced advance
    · cases done
      exact .advanced advance
    · cases done
      exact .created directionality advance
  | createNextGroup directionality =>
    cases done
    unfold createNextStreamGroup
    dsimp only
    split
    · exact .advanced (.refl sound)
    · exact .relimited ⟨rfl,rfl,rfl,rfl,fun _ => rfl,rfl,fun _ => rfl,fun _ => rfl⟩ rfl fun within => within
  | create id groupId =>
    cases done
    obtain ⟨opened,made,advance⟩ := createStream_advance sound id groupId
    exact .advanced advance
  | get id groupId =>
    cases done
    obtain ⟨opened,made,advance⟩ := getStream_advance sound id groupId
    exact .advanced advance
  | setMaxLocal directionality maxStreams force =>
    cases done
    obtain ⟨result,conn,set,moved,settings,others⟩ :=
      setMaxLocalStreams_relimits run.conn directionality maxStreams force
    rw [set]
    refine .relimited moved (by rw [settings]) fun within => ?_
    exact within.move moved.node moved.reaches fun directionality =>
      .inl (congrArg StreamIdSpace.maxStreamId (others directionality))
  | setMaxRemote directionality maxStreams =>
    cases done
    obtain ⟨result,conn,set,moved,settings,limits⟩ :=
      setMaxRemoteStreams_unforced run.conn directionality maxStreams
    rw [set]
    refine .relimited moved (by rw [settings]) fun within => ?_
    refine within.move moved.node moved.reaches fun directionality => ?_
    exact (limits _).imp_right fun grown => ⟨Nat.le_trans (within directionality).1 grown.1,grown.2⟩
  | refresh settings =>
    cases done
    obtain ⟨result,conn,set,moved,kept,limits⟩ := refresh_relimits run.conn settings
    rw [set]
    refine .relimited moved (by rw [kept]; exact keeps.1) fun within => ?_
    refine within.move moved.node moved.reaches fun directionality => ?_
    refine (limits directionality).imp And.left fun forced => ?_
    dsimp only
    rw [forced]
    exact ⟨keeps.2 directionality,initial_mod _ _ _⟩
  | consume =>
    cases done
    exact .consumed
  | remove id =>
    simp only [step] at done
    rcases removeClosedStream_cases sound id with ⟨absent,same⟩ | ⟨-,-,same⟩ | ⟨present,-,_,conn,same,closes⟩
    · rw [same] at done
      cases done
      rw [absent]
      exact .advanced (.refl sound)
    · rw [same] at done
      cases done
    · rw [same] at done
      cases done
      have gone : (conn.findStream id).isNone := by
        rw [closes.find,if_pos rfl]
        rfl
      rw [if_pos ⟨present,gone⟩]
      exact .closed present closes

/-- A stream of the peer is asked for without a group. -/
def Ungrouped : StreamIdAction → Prop
  | .get _ groupId => groupId = none
  | _ => True

/-- Nothing waits to be reported with a group, and streams are reported when they are opened. -/
structure Plain (conn : QuicConnectionState) : Prop where
  ungrouped : conn.grouped = []
  implicit : conn.transportSettings.notifyOnNewStreamsExplicitly = false

theorem step_grouped (sound : IdsSound run.conn) (plain : Ungrouped action)
    (done : run.step action = .ok next) :
    next.conn.grouped = run.conn.grouped ∨ next.conn.grouped = [] := by
  cases action with
  | createNext directionality groupId =>
    have kept := @createNextStream_grouped run.conn groupId directionality
    simp only [step] at done
    split at done
    next same =>
      rw [same] at kept
      cases done
      exact .inl kept
    next same =>
      rw [same] at kept
      cases done
      exact .inl kept
  | createNextGroup directionality =>
    cases done
    left
    simp only [createNextStreamGroup,note_conn]
    split <;> rfl
  | create id groupId =>
    cases done
    exact .inl createStream_grouped
  | get id groupId =>
    cases done
    cases plain
    exact .inl getStream_grouped
  | setMaxLocal directionality maxStreams force =>
    cases done
    obtain ⟨_,_,set,moved,-⟩ := setMaxLocalStreams_relimits run.conn directionality maxStreams force
    rw [set]
    exact .inl moved.grouped
  | setMaxRemote directionality maxStreams =>
    cases done
    obtain ⟨_,_,set,moved,-⟩ := setMaxRemoteStreams_unforced run.conn directionality maxStreams
    rw [set]
    exact .inl moved.grouped
  | refresh settings =>
    cases done
    obtain ⟨_,_,set,moved,-⟩ := refresh_relimits run.conn settings
    rw [set]
    exact .inl moved.grouped
  | consume =>
    cases done
    exact .inr rfl
  | remove id =>
    simp only [step] at done
    rcases removeClosedStream_cases sound id with ⟨-,same⟩ | ⟨-,-,same⟩ | ⟨-,-,_,conn,same,closes⟩
    · rw [same] at done
      cases done
      exact .inl rfl
    · rw [same] at done
      cases done
    · rw [same] at done
      cases done
      exact .inl closes.grouped

theorem Effect.implicit (effect : Effect run next)
    (implicit : run.conn.transportSettings.notifyOnNewStreamsExplicitly = false) :
    next.conn.transportSettings.notifyOnNewStreamsExplicitly = false := by
  cases effect with
  | advanced advance | created _ advance => exact (congrArg _ advance.settings).trans implicit
  | relimited _ mode => exact mode.trans implicit
  | consumed => exact implicit
  | closed _ closes => exact (congrArg _ closes.settings).trans implicit

theorem Disciplined.close (disciplined : Disciplined run)
    (present : (run.conn.findStream id).isSome)
    (closes : Closes run.conn conn id) :
    Disciplined {run.note conn with closed := insert id run.closed} := by
  have next : ∀ other, (conn.streamIdsOf other).nextAcceptableStreamId =
      (run.conn.streamIdsOf other).nextAcceptableStreamId := by
    intro other
    rw [streamIdsOf,closes.node]
    exact closes.reaches _
  have created : ∀ other, other ∈ (run.note conn).created ↔ other ∈ run.created := by
    intro other
    rw [mem_note,closes.find]
    constructor
    · rintro (old | stated)
      · exact old
      · split at stated
        · cases stated
        · exact disciplined.known other stated
    · exact .inl
  refine ⟨closes.sound,?_,?_,?_,?_,?_,?_⟩
  · intro other early
    rw [note_conn,next] at early
    rw [note_conn,closes.opens,Finset.mem_insert]
    by_cases same : other = id
    · exact .inr (.inl same)
    · exact (disciplined.accounted other early).imp (fun isOpen => ⟨same,isOpen⟩) .inr
  · intro other isClosed
    rw [note_conn,closes.opens,next]
    rcases Finset.mem_insert.mp isClosed with rfl | before
    · obtain ⟨stream,found⟩ := Option.isSome_iff_exists.mp present
      obtain ⟨-,isOpen⟩ := disciplined.sound.stated other stream found
      exact ⟨(disciplined.sound.below _ other isOpen).2,fun inside => inside.1 rfl⟩
    · obtain ⟨early,notOpen⟩ := disciplined.gone other before
      exact ⟨early,fun inside => notOpen inside.2⟩
  · exact fun other stated => mem_note.mpr (.inr stated)
  · intro other inside
    rw [note_conn,closes.find,Finset.mem_insert]
    by_cases same : other = id
    · exact .inr (.inl same)
    · rw [if_neg same]
      exact (disciplined.past other ((created other).mp inside)).imp_right .inr
  · intro other
    show run.consumed.count other + reportCount conn other = _
    rw [closes.counts,disciplined.reported other]
    unfold reportable
    simp only [note_conn,closes.node,closes.settings,created,next]
  · exact disciplined.consecutive.note closes.node closes.nexts

theorem Effect.grows (effect : Effect run next) :
    run.closed ⊆ next.closed ∧ next.conn.nodeType = run.conn.nodeType := by
  cases effect with
  | advanced advance | created directionality advance => exact ⟨Finset.Subset.refl _,advance.node⟩
  | relimited moved => exact ⟨Finset.Subset.refl _,moved.node⟩
  | consumed => exact ⟨Finset.Subset.refl _,rfl⟩
  | closed present closes => exact ⟨Finset.subset_insert ..,closes.node⟩

/-- An id is opened only below the limit in force. -/
theorem Effect.opens (effect : Effect run next)
    (isOpen : id ∈ (next.conn.streamIdsOf id).openStreams)
    (before : id ∉ (run.conn.streamIdsOf id).openStreams) : id < (run.conn.streamIdsOf id).maxStreamId := by
  cases effect with
  | advanced advance => exact (advance.fresh id (((advance.opens id).mp isOpen).resolve_left before)).2
  | created directionality advance =>
    exact (advance.fresh id (((advance.opens id).mp isOpen).resolve_left before)).2
  | relimited moved =>
    rw [streamIdsOf,note_conn,moved.node] at isOpen
    exact absurd ((moved.opens _).symm ▸ isOpen) before
  | consumed => exact absurd isOpen before
  | closed present closes => exact absurd ((closes.opens id).mp isOpen).2 before

theorem Disciplined.effect (disciplined : Disciplined run) (effect : Effect run next) :
    Disciplined next := by
  cases effect with
  | advanced advance => exact disciplined.advance advance
  | created directionality advance =>
    have noted := disciplined.advance advance
    refine {noted with sound := {noted.sound with}, consecutive := fun other => ?_}
    obtain ⟨listed,next⟩ := disciplined.consecutive other
    dsimp only [note,manage]
    rw [advance.node,advance.nexts]
    by_cases same : other = directionality
    · subst same
      simp only [Function.update_self]
      rw [List.length_append,List.length_singleton,next,Nat.mul_add,Nat.mul_one,Nat.add_assoc]
      refine ⟨?_,rfl⟩
      rw [List.range_succ,List.map_append,← listed]
      rfl
    · simp only [Function.update_of_ne same]
      exact ⟨listed,next⟩
  | relimited moved mode => exact disciplined.relimit moved mode
  | consumed =>
    have noted := disciplined.advance (.refl disciplined.sound)
    refine {noted with sound := {noted.sound with}, reported := fun id => ?_}
    refine Eq.trans ?_ (noted.reported id)
    show (run.consumed ++ _ ++ _).count id + 0 = run.consumed.count id + reportCount run.conn id
    rw [List.count_append,List.count_append,Nat.add_zero,Nat.add_assoc]
    rfl
  | closed present closes => exact disciplined.close present closes

theorem WithinLimits.effect (within : WithinLimits run.conn)
    (effect : Effect run next) : WithinLimits next.conn := by
  cases effect with
  | advanced advance => exact within.advance advance
  | created directionality advance =>
    have moved := within.advance advance
    exact moved
  | relimited _ _ moves => exact moves within
  | consumed => exact within
  | closed _ closes =>
    refine within.move closes.node closes.reaches fun directionality => ?_
    exact (closes.limits _).imp_right fun grown => ⟨Nat.le_trans (within directionality).1 grown.1,grown.2⟩

end Effects

private theorem initial_below (nodeType : QuicNodeType) (kind : StreamKind) :
    initialStreamId nodeType kind % kStreamIncrement = initialStreamId nodeType kind := by
  cases nodeType <;> obtain ⟨_ | _,_ | _⟩ := kind <;> rfl

/-- Before the limits are read from the settings. -/
abbrev streamless (conn : QuicConnectionState) : QuicConnectionState :=
  let nextStreamId := fun directionality => initialStreamId conn.nodeType ⟨.localNode,directionality⟩
  {conn with streamManager := {
    streamIds := fun kind => {nextAcceptableStreamId := initialStreamId conn.nodeType kind}
    nextStreamId
    nextStreamGroupId := nextStreamId}}

theorem constructStreams_disciplined {start : QuicConnectionState}
    (constructed : conn.constructStreams = (.ok (),start)) :
    Disciplined {conn := start} ∧ WithinLimits start ∧
      (conn.transportSettings.notifyOnNewStreamsExplicitly = false → Plain start) := by
  change (streamless conn).refreshTransportSettings conn.transportSettings = _ at constructed
  generalize fresh : streamless conn = empty at constructed
  obtain ⟨result,next,refreshed,moved,settings,limits⟩ := refresh_relimits empty conn.transportSettings
  cases refreshed.symm.trans constructed
  have node : empty.nodeType = conn.nodeType := by rw [← fresh]
  have nexts : ∀ kind, (empty.streamManager.streamIds kind).nextAcceptableStreamId =
      initialStreamId empty.nodeType kind := by
    intro kind
    rw [← fresh]
  have streams : empty.streamManager.streams = ∅ := by rw [← fresh]
  have noStreams : ∀ id, empty.findStream id = none := by
    intro id
    rw [findStream,QuicStreamManager.findStream,streams]
    exact AList.lookup_empty id
  have notOpen : ∀ kind, (empty.streamManager.streamIds kind).openStreams = ∅ := by
    intro kind
    rw [← fresh]
  have sound : IdsSound empty := by
    refine ⟨?_,?_,?_,?_⟩
    · intro kind id isOpen
      rw [notOpen] at isOpen
      exact absurd isOpen (Finset.notMem_empty id)
    · intro kind
      rw [nexts]
      exact initial_below _ _
    · intro id stream found
      rw [noStreams] at found
      cases found
    · intro id
      rw [noStreams,show empty.streamManager.streamPriorityLevelsNoCtrl.lookup id = none by
        rw [← fresh]; exact AList.lookup_empty id]
      simp
  have early : ∀ id, ¬id < (empty.streamIdsOf id).nextAcceptableStreamId := by
    intro id
    have aligned : id % kStreamIncrement = initialStreamId empty.nodeType _ := getStreamKind_iff.mp rfl
    rw [streamIdsOf,nexts,← aligned]
    exact Nat.not_lt.mpr (Nat.mod_le ..)
  have disciplined : Disciplined {conn := empty} := by
    refine ⟨sound,?_,List.forall_mem_nil _,?_,List.forall_mem_nil _,?_,?_⟩
    · exact fun id below => absurd below (early id)
    · intro id present
      rw [noStreams] at present
      cases present
    · intro id
      have notReported : ({conn := empty} : StreamIdRun).reportable id = false := by
        simp [reportable,early]
      rw [notReported,← fresh]
      rfl
    · intro directionality
      rw [← fresh]
      exact ⟨rfl,rfl⟩
  have noted : ({conn := empty} : StreamIdRun).note start = {conn := start} := by
    rw [note,moved.streams,streams]
    rfl
  refine ⟨noted ▸ disciplined.relimit moved (by rw [settings,← fresh]),?_,fun implicit =>
    ⟨moved.grouped.trans (by rw [← fresh]; rfl),by rw [settings,implicit]⟩⟩
  intro directionality
  have limit := (limits directionality).resolve_left fun kept => kept.2 rfl
  rw [moved.reaches,nexts,limit,moved.node]
  exact ⟨Nat.le_add_left ..,initial_mod _ _ _⟩

theorem run_disciplined {start reached : StreamIdRun} {actions : List StreamIdAction}
    (disciplined : Disciplined start) (within : WithinLimits start.conn)
    (keeps : StepsMeet step (fun run action => Keeps run.conn action) start actions)
    (ran : run step start actions = .ok reached) :
    Disciplined reached ∧ WithinLimits reached.conn ∧ start.closed ⊆ reached.closed ∧
      reached.conn.nodeType = start.conn.nodeType := by
  induction actions generalizing start with
  | nil =>
    cases ran
    exact ⟨disciplined,within,Finset.Subset.refl _,rfl⟩
  | cons action rest ih =>
    obtain ⟨next,taken,ran⟩ := run_cons.mp ran
    obtain ⟨kept,later⟩ := keeps next taken
    have effect := step_effect disciplined.sound kept taken
    obtain ⟨done,limited,grown,node⟩ := ih (disciplined.effect effect) (within.effect effect) later ran
    exact ⟨done,limited,effect.grows.1.trans grown,node.trans effect.grows.2⟩

theorem run_plain {start reached : StreamIdRun} {actions : List StreamIdAction}
    (disciplined : Disciplined start) (plain : Plain start.conn)
    (keeps : StepsMeet step (fun run action => Keeps run.conn action) start actions)
    (ungrouped : ∀ action ∈ actions, Ungrouped action)
    (ran : run step start actions = .ok reached) : Plain reached.conn := by
  induction actions generalizing start with
  | nil =>
    cases ran
    exact plain
  | cons action rest ih =>
    obtain ⟨next,taken,ran⟩ := run_cons.mp ran
    obtain ⟨kept,later⟩ := keeps next taken
    obtain ⟨now,others⟩ := List.forall_mem_cons.mp ungrouped
    have effect := step_effect disciplined.sound kept taken
    refine ih (disciplined.effect effect) ⟨?_,effect.implicit plain.implicit⟩ later others ran
    exact (step_grouped disciplined.sound now taken).elim (·.trans plain.ungrouped) id

/-- Each stream of the peer that was opened is in the list of new streams, or was handed out from it,
exactly once. -/
theorem Disciplined.reported_plain {run : StreamIdRun} (disciplined : Disciplined run)
    (plain : Plain run.conn) (id : StreamId) (remote : isRemoteStream run.conn.nodeType id = true) :
    run.consumed.count id + run.conn.streamManager.newPeerStreams.count id =
      if id < (run.conn.streamIdsOf id).nextAcceptableStreamId then 1 else 0 := by
  have reported := disciplined.reported id
  have ungrouped : run.conn.streamManager.newGroupedPeerStreams = [] := plain.ungrouped
  simpa [reportCount,ungrouped,reportable,remote,plain.implicit] using reported

/-- A step whose result is undefined: it removes a stream of the peer in one direction. -/
def Undefined (run : StreamIdRun) : StreamIdAction → Prop
  | .remove id => (run.conn.findStream id).isSome ∧ PeerUnidirectional run.conn id
  | _ => False

theorem step_error_iff {run : StreamIdRun} (sound : IdsSound run.conn) :
    (∃ error, run.step action = .error error) ↔ Undefined run action := by
  cases action with
  | createNext directionality groupId =>
    simp only [step,Undefined,iff_false]
    rintro ⟨error,failed⟩
    split at failed <;> cases failed
  | remove id =>
    simp only [step,Undefined]
    rcases removeClosedStream_cases sound id with
      ⟨absent,same⟩ | ⟨present,peer,same⟩ | ⟨present,other,_,conn,same,closes⟩
    · rw [same,absent]
      exact iff_of_false (fun ⟨_,failed⟩ => nomatch failed) fun removed => nomatch removed.1
    · rw [same]
      exact iff_of_true ⟨_,rfl⟩ ⟨present,peer⟩
    · rw [same]
      exact iff_of_false (fun ⟨_,failed⟩ => nomatch failed) fun removed => other removed.2
  | createNextGroup | create | get | setMaxLocal | setMaxRemote | refresh | consume =>
    exact iff_of_false (fun ⟨_,failed⟩ => nomatch failed) id

structure IdLaw (run : StreamIdRun) : Prop where
  openBelow : ∀ kind, ∀ id ∈ (run.conn.streamManager.streamIds kind).openStreams,
    getStreamKind run.conn.nodeType id = kind ∧
      id < (run.conn.streamManager.streamIds kind).nextAcceptableStreamId
  statedOpen : ∀ id, (run.conn.findStream id).isSome → id ∈ (run.conn.streamIdsOf id).openStreams
  closedBefore : ∀ id, id < (run.conn.streamIdsOf id).nextAcceptableStreamId →
    id ∉ (run.conn.streamIdsOf id).openStreams → id ∈ run.closed ∧
      (run.conn.getStream id none).1 = .ok none ∧
      ∀ groupId stream, (run.conn.getStream id groupId).1 ≠ .ok (some stream)
  beyondThrows : ∀ id groupId, isRemoteStream run.conn.nodeType id = true →
    (run.conn.streamIdsOf id).maxStreamId ≤ id →
      ∃ error, run.conn.getStream id groupId = (.error error,run.conn)
  opensLower : ∀ id groupId stream next, isRemoteStream run.conn.nodeType id = true →
    run.conn.getStream id groupId = (.ok (some stream),next) → ∀ lower ≤ id,
      getStreamKind run.conn.nodeType lower = getStreamKind run.conn.nodeType id →
        lower ∈ (next.streamIdsOf lower).openStreams ∨ lower ∈ run.closed
  reportedOnce : ∀ id, run.consumed.count id + run.conn.streamManager.newPeerStreams.count id +
    run.conn.streamManager.newGroupedPeerStreams.count id = if run.reportable id then 1 else 0
  consecutive : ∀ directionality, run.nextCreated directionality =
    (List.range (run.nextCreated directionality).length).map
      (initialStreamId run.conn.nodeType ⟨.localNode,directionality⟩ + kStreamIncrement * ·)

theorem Disciplined.law {run : StreamIdRun} (disciplined : Disciplined run)
    (within : WithinLimits run.conn) : IdLaw run := by
  have sound := disciplined.sound
  refine {
    openBelow := sound.below
    statedOpen := ?_, closedBefore := ?_, beyondThrows := ?_, opensLower := ?_, reportedOnce := ?_
    consecutive := fun directionality => (disciplined.consecutive directionality).1}
  · intro id present
    obtain ⟨stream,found⟩ := Option.isSome_iff_exists.mp present
    exact (sound.stated id stream found).2
  · intro id early isClosed
    refine ⟨(disciplined.accounted id early).resolve_left isClosed,?_,fun groupId => ?_⟩
    · exact (getStream_closed none sound isClosed early).2 rfl
    · exact (getStream_closed groupId sound isClosed early).1
  · intro id groupId remote limit
    apply getStream_beyond groupId sound remote ?_ limit
    have kind : getStreamKind run.conn.nodeType id = ⟨.remoteNode,getStreamDirectionality id⟩ := by
      rw [← isRemoteStream_iff.mp remote]
      rfl
    have bound := (within (getStreamDirectionality id)).1
    rw [← kind] at bound
    exact Nat.not_lt.mpr (Nat.le_trans bound limit)
  · intro id groupId stream next remote returned lower least kind
    obtain ⟨opened,made,advance⟩ := getStream_advance sound id groupId
    rw [returned] at advance
    have isOpen := getStream_some sound remote returned
    have reached := (advance.sound.below _ id isOpen).2
    rw [advance.node,← kind,← advance.node] at reached
    exact (disciplined.advance advance).accounted lower (Nat.lt_of_le_of_lt least reached)
  · intro id
    rw [Nat.add_assoc]
    exact disciplined.reported id

/-- Runs of the stream manager from its construction keep the discipline of stream ids in every
state, as long as no stream of the peer in one direction is removed: nothing is defined then. Without
groups and explicit reports each stream of the peer is among the new ones once. -/
theorem stream_id_discipline {conn start : QuicConnectionState}
    (constructed : conn.constructStreams = (.ok (),start)) {actions : List StreamIdAction}
    {reached : StreamIdRun}
    (keeps : StepsMeet step (fun run action => Keeps run.conn action) {conn := start} actions)
    (ran : run step {conn := start} actions = .ok reached) :
    IdLaw reached ∧
      (∀ action, (∃ error, reached.step action = .error error) ↔ Undefined reached action) ∧
      (∀ action next, Keeps reached.conn action → reached.step action = .ok next → IdLaw next ∧
        ∀ id, id ∈ (next.conn.streamIdsOf id).openStreams → id ∉ (reached.conn.streamIdsOf id).openStreams →
          id < (reached.conn.streamIdsOf id).maxStreamId) ∧
      (∀ id ∈ reached.closed, ∀ more last,
        StepsMeet step (fun run action => Keeps run.conn action) reached more →
          run step reached more = .ok last → id ∉ (last.conn.streamIdsOf id).openStreams) ∧
      (conn.transportSettings.notifyOnNewStreamsExplicitly = false →
        (∀ action ∈ actions, Ungrouped action) → reached.conn.streamManager.newGroupedPeerStreams = [] ∧
        ∀ id, isRemoteStream reached.conn.nodeType id = true →
          reached.consumed.count id + reached.conn.streamManager.newPeerStreams.count id =
            if id < (reached.conn.streamIdsOf id).nextAcceptableStreamId then 1 else 0) := by
  obtain ⟨fresh,limited,plain⟩ := constructStreams_disciplined constructed
  obtain ⟨disciplined,within,-,-⟩ := run_disciplined fresh limited keeps ran
  refine ⟨disciplined.law within,fun action => step_error_iff disciplined.sound,?_,?_,?_⟩
  · intro action next kept taken
    have effect := step_effect disciplined.sound kept taken
    exact ⟨(disciplined.effect effect).law (within.effect effect),fun id => effect.opens⟩
  · intro id isClosed more last kept ranOn
    obtain ⟨later,-,grown,-⟩ := run_disciplined disciplined within kept ranOn
    exact (later.gone id (grown isClosed)).2
  · intro implicit ungrouped
    have still := run_plain fresh (plain implicit) keeps ungrouped ran
    exact ⟨still.ungrouped,disciplined.reported_plain still⟩

def freshServer : QuicConnectionState := ({nodeType := .server} : QuicConnectionState).constructStreams.2

private theorem freshServer_constructed :
    ({nodeType := .server} : QuicConnectionState).constructStreams = (.ok (),freshServer) := rfl

/-- The peer's frames name stream 8 and then stream 4, which opens streams 0, 4 and 8; they are handed
out, stream 4 is removed and a frame names stream 12. -/
theorem stream_id_discipline_server : ∃ reached,
    run step {conn := freshServer} [.createNext .bidirectional none,.get 8 none,.get 4 none,.consume,
        .remove 4,.get 12 none] = .ok reached ∧
      IdLaw reached ∧ reached.closed = {4} ∧ reached.consumed = [0,4,8] ∧
      reached.conn.streamManager.newPeerStreams.count 12 = 1 := by
  obtain ⟨reached,ran,closed,consumed,node,next⟩ : ∃ reached, run step {conn := freshServer}
      [.createNext .bidirectional none,.get 8 none,.get 4 none,.consume,.remove 4,.get 12 none] =
        .ok reached ∧ reached.closed = {4} ∧ reached.consumed = [0,4,8] ∧
        reached.conn.nodeType = .server ∧ (reached.conn.streamIdsOf 12).nextAcceptableStreamId = 16 :=
    ⟨_,rfl,rfl,rfl,rfl,rfl⟩
  have law := stream_id_discipline freshServer_constructed (stepsMeet_of_always (by simp [Keeps]) _) ran
  have once := (law.2.2.2.2 rfl (by simp [Ungrouped])).2 12 (by rw [node]; rfl)
  rw [consumed,next] at once
  exact ⟨reached,ran,law.1,closed,consumed,(Nat.zero_add _).symm.trans once⟩

/-- A frame of the peer opens its first stream in one direction; removing the stream reads a value
that was never returned. -/
theorem removed_peer_stream_undefined :
    run step {conn := freshServer} [.get 2 none,.remove 2] = .error undefinedResult := by
  rfl

end StreamIdRun

end StreamServer.State
