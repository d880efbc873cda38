import StreamServer.FlowControl.ReceiveAccounts

/-! Runs of the receive side of a connection: streams opened and removed, data and
resets received, reads, window updates and STOP_SENDING in any order. -/
namespace StreamServer.FlowControl
open Protocol State Lib.Chunks Lib.Transition Lib.Tally

variable {id : StreamId} {stream : QuicStreamState} {conn : QuicConnectionState}

/-- A connection with a record of the streams removed from it, as they were then, and of what each
stream has added to the sum of read offsets. -/
structure ReceiveSide where
  conn : QuicConnectionState
  removed : List QuicStreamState := []
  credit : StreamId → Nat := fun _ => 0

inductive ReceiveEvent where
  | openStream (id : StreamId)
  | data (frame : ReadStreamFrame)
  | resetStream (frame : RstStreamFrame) (now : TimePoint)
  | read (id : StreamId) (amount : Nat) (now : TimePoint)
  | consume (id : StreamId) (amount : Nat) (now : TimePoint)
  | stopSending (id : StreamId)
  | sendReset (id : StreamId) (errorCode : Nat)
  | connWindowUpdateSent (now : TimePoint)
  | streamWindowUpdateSent (id : StreamId) (now : TimePoint)
  | connWindowUpdateLost
  | streamWindowUpdateLost (id : StreamId)
  | connBlocked
  | streamBlocked (id : StreamId)
  | removeStream (id : StreamId)

namespace ReceiveSide

/-- Runs a handler on a stream and books what it adds to the sum of read offsets. -/
def onStream (state : ReceiveSide) (id : StreamId)
    (handler : QuicConnectionState → QuicStreamState →
      Except Error (QuicConnectionState × QuicStreamState)) : Except Error ReceiveSide := do
  let conn ← state.conn.withStream id handler
  return {state with
    conn := conn
    credit := Function.update state.credit id (state.credit id +
      (conn.flowControlState.sumCurReadOffset - state.conn.flowControlState.sumCurReadOffset))}

/-- The id of a removed stream is not used again. -/
def step (state : ReceiveSide) : ReceiveEvent → Except Error ReceiveSide
  | .openStream id =>
    if state.removed.any (·.id == id) then .ok state
    else .ok {state with conn := state.conn.openStream id}
  | .data frame => state.onStream frame.streamId
      (fun conn stream => receiveReadStreamFrameSMHandler conn stream frame)
  | .resetStream frame now => state.onStream frame.streamId
      (fun conn stream => receiveRstStreamSMHandler conn stream frame now)
  | .read id amount now => state.onStream id (fun conn stream => do
      let outcome ← readDataFromQuicStream conn stream amount now
      return (outcome.conn,outcome.stream))
  | .consume id amount now => state.onStream id
      (fun conn stream => consumeDataFromQuicStream conn stream amount now)
  | .stopSending id => state.onStream id
      (fun conn stream => .ok (processTxStopSending conn stream))
  | .sendReset id errorCode => state.onStream id
      (fun conn stream => sendRstSMHandler conn stream errorCode)
  | .connWindowUpdateSent now =>
    .ok {state with conn := onConnWindowUpdateSent state.conn (generateMaxDataFrame state.conn) now}
  | .streamWindowUpdateSent id now => state.onStream id (fun conn stream =>
      .ok (onStreamWindowUpdateSent conn stream (generateMaxStreamDataFrame stream) now))
  | .connWindowUpdateLost => .ok {state with conn := onConnWindowUpdateLost state.conn}
  | .streamWindowUpdateLost id => state.onStream id
      (fun conn stream => .ok (onStreamWindowUpdateLost conn stream,stream))
  | .connBlocked => .ok {state with conn := handleConnBlocked state.conn}
  | .streamBlocked id => state.onStream id
      (fun conn stream => .ok (handleStreamBlocked conn stream,stream))
  | .removeStream id => match state.conn.findStream id with
    | none => .ok state
    | some stream => .ok {state with
        conn := state.conn.manage (·.removeClosedStream id)
        removed := stream :: state.removed}

/-- A connection as it starts: no streams, and the limit of the settings advertised. -/
def start (nodeType : QuicNodeType) (settings : TransportSettings) : ReceiveSide :=
  {conn := updateFlowControlStateWithSettings {nodeType := nodeType, transportSettings := settings}}

structure Accounts (state : ReceiveSide) : Prop where
  keyed : ∀ id stream, state.conn.findStream id = some stream → stream.id = id
  account : ∀ id stream, state.conn.findStream id = some stream → StreamAccount stream
  removedAccount : ∀ stream ∈ state.removed, StreamAccount stream
  notLive : ∀ stream ∈ state.removed, state.conn.findStream stream.id = none
  observed : state.conn.flowControlState.sumMaxObservedOffset =
    total (fun stream => stream.maxOffsetObserved) state.conn.streamManager.streams +
      (state.removed.map (fun stream => stream.maxOffsetObserved)).sum
  within : state.conn.flowControlState.sumMaxObservedOffset ≤
    state.conn.flowControlState.advertisedMaxOffset
  read : state.conn.flowControlState.sumCurReadOffset =
    total readBytes state.conn.streamManager.streams + (state.removed.map readBytes).sum
  noWrap : ∀ pair ∈ state.conn.subtractions, pair.2 ≤ pair.1

variable {state next : ReceiveSide} {changed : QuicStreamState}
  {handler : QuicConnectionState → QuicStreamState → Except Error (QuicConnectionState × QuicStreamState)}
  {event : ReceiveEvent}

theorem accounts_start (nodeType : QuicNodeType) (settings : TransportSettings) :
    Accounts (start nodeType settings) := by
  have none (id : StreamId) : (start nodeType settings).conn.findStream id = none := rfl
  refine ⟨by simp [none],by simp [none],by simp [start],by simp [start],rfl,Nat.zero_le _,rfl,?_⟩
  intro pair member
  cases member

theorem find_opened (other : StreamId) :
    (state.conn.setStream (QuicStreamState.make state.conn id)).findStream other =
      if other = id then some (QuicStreamState.make state.conn id)
      else state.conn.findStream other := QuicConnectionState.findStream_setStream _ _ _

theorem find_removed
    (present : state.conn.findStream id = some stream) (other : StreamId) :
    (state.conn.manage (·.removeClosedStream id)).findStream other =
      if other = id then none else state.conn.findStream other := by
  have streams := QuicStreamManager.removeClosedStream_streams present
  simp only [QuicConnectionState.findStream,QuicConnectionState.manage,
    QuicStreamManager.findStream,streams]
  split
  · rename_i same
    rw [same,AList.lookup_erase]
  · rename_i different
    rw [AList.lookup_erase_ne different]

/-- What is known of every stream stays known when one of them is replaced. -/
theorem known_replaced {property : StreamId → QuicStreamState → Prop}
    {find replaced : StreamId → Option QuicStreamState} {entry : Option QuicStreamState}
    (same : ∀ other, replaced other = if other = id then entry else find other)
    (known : ∀ other stream, other ≠ id → find other = some stream → property other stream)
    (new : ∀ stream, entry = some stream → property id stream) :
    ∀ other stream, replaced other = some stream → property other stream := by
  intro other stream found
  rw [same] at found
  split at found
  · next here =>
    rw [here]
    exact new stream found
  · next elsewhere => exact known other stream elsewhere found

section Accounts

variable (accounts : Accounts state)
include accounts

private theorem Accounts.gone : (state.removed.map readBytes).sum ≤
    (state.removed.map (fun stream => stream.maxOffsetObserved)).sum :=
  List.sum_le_sum fun stream member => (accounts.removedAccount stream member).readBytes_le

theorem Accounts.read_le :
    state.conn.flowControlState.sumCurReadOffset ≤
      state.conn.flowControlState.sumMaxObservedOffset := by
  have live : total readBytes state.conn.streamManager.streams ≤
      total (fun stream => stream.maxOffsetObserved) state.conn.streamManager.streams :=
    total_le fun id stream present => (accounts.account id stream present).readBytes_le
  have gone := accounts.gone
  rw [accounts.observed,accounts.read]
  omega

variable (present : state.conn.findStream id = some stream)
include present

theorem Accounts.balanced : Balanced state.conn stream := by
  refine ⟨accounts.within,?_⟩
  have observed := accounts.observed
  have read := accounts.read
  have splitObserved := total_erase (f := fun stream => stream.maxOffsetObserved) present
  have splitRead := total_erase (f := readBytes) present
  have others : total readBytes (state.conn.streamManager.streams.erase id) ≤
      total (fun stream => stream.maxOffsetObserved) (state.conn.streamManager.streams.erase id) := by
    refine total_le (fun other value found => ?_)
    by_cases same : other = id
    · rw [same,AList.lookup_erase] at found
      cases found
    · rw [AList.lookup_erase_ne same] at found
      exact (accounts.account other value found).readBytes_le
  have gone := accounts.gone
  omega

theorem Accounts.find_handled (step : StreamStep state.conn conn stream changed) (other : StreamId) :
    (conn.setStream changed).findStream other =
      if other = id then some changed else state.conn.findStream other := by
  rw [QuicConnectionState.findStream_setStream,
    step.sameId.trans (accounts.keyed id stream present)]
  split
  · rfl
  · simp only [QuicConnectionState.findStream,QuicStreamManager.findStream,step.sameStreams]

theorem Accounts.apart : ∀ gone ∈ state.removed, gone.id ≠ id := by
  intro gone member same
  have absent := accounts.notLive gone member
  rw [same,present] at absent
  cases absent

theorem Accounts.streamStep {credit : StreamId → Nat}
    (step : StreamStep state.conn conn stream changed) :
    Accounts {state with conn := conn.setStream changed, credit := credit} := by
  have sameId : changed.id = id := step.sameId.trans (accounts.keyed id stream present)
  have streams : (conn.setStream changed).streamManager.streams =
      state.conn.streamManager.streams.insert id changed := by
    rw [← sameId,← step.sameStreams]
    rfl
  have observed := step.observed
  have read := step.read
  have sumObserved := total_insert_old (f := fun stream => stream.maxOffsetObserved) changed
    present
  have sumRead := total_insert_old (f := readBytes) changed present
  have accountsObserved := accounts.observed
  have accountsRead := accounts.read
  have find := accounts.find_handled present step
  refine ⟨known_replaced find (fun _ _ _ => accounts.keyed _ _) ?_,
    known_replaced find (fun _ _ _ => accounts.account _ _) ?_,accounts.removedAccount,
    fun gone member => ?_,?_,step.within,?_,?_⟩
  · rintro _ ⟨⟩
    exact sameId
  · rintro _ ⟨⟩
    exact step.account
  · rw [find,if_neg (accounts.apart present gone member)]
    exact accounts.notLive gone member
  · simp only [streams]
    change conn.flowControlState.sumMaxObservedOffset = _
    omega
  · simp only [streams]
    change conn.flowControlState.sumCurReadOffset = _
    omega
  · intro pair member
    exact (step.noWrap pair member).elim (accounts.noWrap pair) fun fine => fine

private theorem Accounts.remove :
    Accounts {state with
      conn := state.conn.manage (·.removeClosedStream id)
      removed := stream :: state.removed} := by
  have streams : (state.conn.manage (·.removeClosedStream id)).streamManager.streams =
      state.conn.streamManager.streams.erase id :=
    QuicStreamManager.removeClosedStream_streams present
  have find := find_removed present
  have observed := total_erase (f := fun stream => stream.maxOffsetObserved) present
  have read := total_erase (f := readBytes) present
  have accountsObserved := accounts.observed
  have accountsRead := accounts.read
  refine ⟨known_replaced find (fun _ _ _ => accounts.keyed _ _) (by rintro _ ⟨⟩),
    known_replaced find (fun _ _ _ => accounts.account _ _) (by rintro _ ⟨⟩),
    List.forall_mem_cons.mpr ⟨accounts.account id stream present,accounts.removedAccount⟩,
    List.forall_mem_cons.mpr ⟨(find _).trans (if_pos (accounts.keyed id stream present)),
      fun gone member => by simp only [find,accounts.notLive gone member,ite_self]⟩,
    ?_,accounts.within,?_,accounts.noWrap⟩
  · simp only [streams,List.map_cons,List.sum_cons]
    change state.conn.flowControlState.sumMaxObservedOffset = _
    omega
  · simp only [streams,List.map_cons,List.sum_cons]
    change state.conn.flowControlState.sumCurReadOffset = _
    omega

end Accounts

/-- The condition under which an event leaves no credit behind: when a stream is stopped, or its
sending side is reset after its receiving side was closed, everything observed on it was read. -/
def LeavesNoCredit (state : ReceiveSide) : ReceiveEvent → Prop
  | .stopSending id => ∀ stream, state.conn.findStream id = some stream →
      readBytes stream = stream.maxOffsetObserved
  | .sendReset id _ => ∀ stream, state.conn.findStream id = some stream →
      stream.sendState = .openState → stream.recvState = .closed →
        readBytes stream = stream.maxOffsetObserved
  | _ => True

def after (state : ReceiveSide) (id : StreamId) (conn : QuicConnectionState)
    (changed : QuicStreamState) : ReceiveSide :=
  {state with
    conn := conn.setStream changed
    credit := Function.update state.credit id (state.credit id +
      (conn.flowControlState.sumCurReadOffset - state.conn.flowControlState.sumCurReadOffset))}

theorem onStream_ok (ok : state.onStream id handler = .ok next) :
    (state.conn.findStream id = none ∧ next = state) ∨
      ∃ stream conn changed, state.conn.findStream id = some stream ∧
        handler state.conn stream = .ok (conn,changed) ∧ next = state.after id conn changed := by
  obtain ⟨handled,ran,ok⟩ := bind_ok.mp ok
  cases ok
  rcases QuicConnectionState.withStream_ok ran with ⟨absent,rfl⟩ |
    ⟨stream,conn,changed,present,result,rfl⟩
  · refine .inl ⟨absent,?_⟩
    simp
  · exact .inr ⟨stream,conn,changed,present,result,rfl⟩

inductive StepKind (state next : ReceiveSide) (event : ReceiveEvent) : Prop where
  | idle (condition : state.LeavesNoCredit event) (same : next = state)
  | handled (id : StreamId) (stream changed : QuicStreamState) (conn : QuicConnectionState)
      (present : state.conn.findStream id = some stream)
      (step : StreamStep state.conn conn stream changed) (result : next = state.after id conn changed)
      (closing : Pending stream → Settled stream →
        Pending changed ∧ (Settled changed ↔ state.LeavesNoCredit event))
  | opened (id : StreamId) (condition : state.LeavesNoCredit event)
      (absent : state.conn.findStream id = none) (unused : ∀ stream ∈ state.removed, stream.id ≠ id)
      (result : next = {state with
        conn := state.conn.setStream (QuicStreamState.make state.conn id)})
  | advertised (conn : QuicConnectionState) (condition : state.LeavesNoCredit event)
      (sameStreams : conn.streamManager.streams = state.conn.streamManager.streams)
      (sameObserved : conn.flowControlState.sumMaxObservedOffset =
        state.conn.flowControlState.sumMaxObservedOffset)
      (sameRead : conn.flowControlState.sumCurReadOffset =
        state.conn.flowControlState.sumCurReadOffset)
      (grows : state.conn.flowControlState.advertisedMaxOffset ≤
        conn.flowControlState.advertisedMaxOffset)
      (sameSubtractions : conn.subtractions = state.conn.subtractions)
      (result : next = {state with conn := conn})
  | removed (id : StreamId) (stream : QuicStreamState) (condition : state.LeavesNoCredit event)
      (present : state.conn.findStream id = some stream)
      (result : next = {state with
        conn := state.conn.manage (·.removeClosedStream id)
        removed := stream :: state.removed})

private theorem kind_of_handler (accounts : Accounts state) (ok : state.onStream id handler = .ok next)
    (absent : state.conn.findStream id = none → state.LeavesNoCredit event)
    (effect : ∀ {stream conn changed}, StreamAccount stream → Balanced state.conn stream →
      handler state.conn stream = .ok (conn,changed) → state.conn.findStream id = some stream →
        StreamStep state.conn conn stream changed ∧ (Pending stream → Settled stream →
          Pending changed ∧ (Settled changed ↔ state.LeavesNoCredit event))) :
    StepKind state next event := by
  rcases onStream_ok ok with ⟨missing,same⟩ | ⟨stream,conn,changed,present,handled,result⟩
  · exact .idle (absent missing) same
  · obtain ⟨step,closing⟩ := effect (accounts.account id stream present)
      (accounts.balanced present) handled present
    exact .handled id stream changed conn present step result closing

private theorem kind_of_kept (accounts : Accounts state) (condition : state.LeavesNoCredit event)
    (ok : state.onStream id handler = .ok next)
    (effect : ∀ {stream conn changed}, StreamAccount stream → Balanced state.conn stream →
      handler state.conn stream = .ok (conn,changed) →
        StreamStep state.conn conn stream changed ∧
          (Pending stream → Settled stream → Pending changed ∧ Settled changed)) :
    StepKind state next event := by
  refine kind_of_handler accounts ok (fun _ => condition) ?_
  intro stream conn changed account balanced handled _
  obtain ⟨step,closing⟩ := effect account balanced handled
  exact ⟨step,fun pending settled => ⟨(closing pending settled).1,fun _ => condition,
    fun _ => (closing pending settled).2⟩⟩

private theorem windowUpdateSent_step
    (before : StreamAccount stream) (balanced : Balanced conn stream) (now : TimePoint) :
    let sent := onStreamWindowUpdateSent conn stream (generateMaxStreamDataFrame stream) now
    StreamStep conn sent.1 stream sent.2 := by
  have grows : stream.flowControlState.advertisedMaxOffset ≤ generateMaxStreamDataFrame stream :=
    Nat.le_max_right _ _
  have small : generateMaxStreamDataFrame stream < 2^64 := by
    refine Nat.max_lt.mpr ⟨Nat.mod_lt _ (by decide),before.representable⟩
  exact .unchanged ⟨rfl,rfl,rfl⟩ balanced.observed
    {before with advertised := before.advertised.trans grows, representable := small} rfl grows rfl rfl

theorem step_kind (accounts : Accounts state) (taken : state.step event = .ok next) :
    StepKind state next event := by
  cases event with
  | openStream id =>
    simp only [step] at taken
    split at taken
    · cases taken
      exact .idle trivial rfl
    · rename_i unused
      cases taken
      cases found : state.conn.findStream id with
      | some stream =>
        refine .idle trivial ?_
        simp [QuicConnectionState.openStream,found]
      | none =>
        refine .opened id trivial found ?_ ?_
        · intro stream member same
          exact unused (List.any_eq_true.mpr ⟨stream,member,by simp [same]⟩)
        · simp [QuicConnectionState.openStream,found]
  | data frame => exact kind_of_kept accounts trivial taken fun account balanced => data_step account balanced
  | resetStream frame now =>
    refine kind_of_kept accounts trivial taken fun account balanced handled => ?_
    exact (rst_step account balanced handled).imp_right fun closing _ _ => closing
  | read id amount now =>
    refine kind_of_kept accounts trivial taken fun account balanced handled => ?_
    obtain ⟨outcome,ok,handled⟩ := bind_ok.mp handled
    cases handled
    exact read_step account balanced ok
  | consume id amount now =>
    exact kind_of_kept accounts trivial taken fun account balanced => consume_step account balanced
  | stopSending id =>
    refine kind_of_handler accounts taken (fun absent => by simp [LeavesNoCredit,absent]) ?_
    intro stream conn changed account balanced handled present
    obtain ⟨step,pending,settled⟩ := stop_step account balanced (Except.ok.inj handled)
    exact ⟨step,fun _ _ => ⟨pending,settled.trans (by simp [LeavesNoCredit,present])⟩⟩
  | sendReset id errorCode =>
    refine kind_of_handler accounts taken (fun absent => by simp [LeavesNoCredit,absent]) ?_
    intro stream conn changed account balanced handled present
    obtain ⟨step,closing⟩ := sendReset_step account balanced handled
    exact ⟨step,fun pending settled =>
      (closing pending settled).imp_right fun settled => settled.trans (by simp [LeavesNoCredit,present])⟩
  | connWindowUpdateSent now =>
    cases taken
    exact .advertised (onConnWindowUpdateSent state.conn (generateMaxDataFrame state.conn) now)
      trivial rfl rfl rfl (Nat.le_max_right _ _) rfl rfl
  | streamWindowUpdateSent id now =>
    refine kind_of_kept accounts trivial taken fun account balanced handled => ?_
    have step := windowUpdateSent_step account balanced now
    rw [Except.ok.inj handled] at step
    cases handled
    exact ⟨step,fun pending settled => ⟨pending,settled⟩⟩
  | connWindowUpdateLost =>
    cases taken
    exact .advertised (onConnWindowUpdateLost state.conn) trivial rfl rfl rfl (Nat.le_refl _) rfl rfl
  | streamWindowUpdateLost id =>
    refine kind_of_kept accounts trivial taken fun account balanced handled => ?_
    cases handled
    refine ⟨.unchanged ?_ balanced.observed account rfl le_rfl rfl rfl,
      fun pending settled => ⟨pending,settled⟩⟩
    simp only [onStreamWindowUpdateLost]
    split
    · exact ⟨rfl,rfl,rfl⟩
    · exact .manage rfl
  | connBlocked =>
    cases taken
    exact .advertised (handleConnBlocked state.conn) trivial rfl rfl rfl (Nat.le_refl _) rfl rfl
  | streamBlocked id =>
    refine kind_of_kept accounts trivial taken fun account balanced handled => ?_
    cases handled
    exact ⟨.unchanged (.manage rfl) balanced.observed account rfl le_rfl rfl rfl,
      fun pending settled => ⟨pending,settled⟩⟩
  | removeStream id =>
    simp only [step] at taken
    split at taken
    · cases taken
      exact .idle trivial rfl
    · rename_i stream present
      cases taken
      exact .removed id stream trivial present rfl

private theorem make_account (conn : QuicConnectionState) (id : StreamId) :
    StreamAccount (QuicStreamState.make conn id) :=
  ⟨Nat.zero_le _,UInt64.toNat_lt _,sparse_nil,by simp [QuicStreamState.make,chunks],
    by simp [QuicStreamState.make,chunks],by simp [QuicStreamState.make],.inl (Nat.le_refl _)⟩

private theorem accounts_opened (accounts : Accounts state)
    (absent : state.conn.findStream id = none)
    (unused : ∀ stream ∈ state.removed, stream.id ≠ id) :
    Accounts {state with conn := state.conn.setStream (QuicStreamState.make state.conn id)} := by
  refine ⟨known_replaced find_opened (fun _ _ _ => accounts.keyed _ _) fun _ is => ?_,
    known_replaced find_opened (fun _ _ _ => accounts.account _ _) fun _ is => ?_,
    accounts.removedAccount,fun gone member => ?_,?_,accounts.within,?_,accounts.noWrap⟩
  · rw [← Option.some.inj is]
    rfl
  · rw [← Option.some.inj is]
    exact make_account _ _
  · rw [find_opened,if_neg (unused gone member)]
    exact accounts.notLive gone member
  · have added := total_insert_new (f := fun stream => stream.maxOffsetObserved)
      (QuicStreamState.make state.conn id) absent
    exact accounts.observed.trans (congrArg (· + _) added.symm)
  · have added := total_insert_new (f := readBytes) (QuicStreamState.make state.conn id) absent
    exact accounts.read.trans (congrArg (· + _) added.symm)

theorem accounts_step (accounts : Accounts state) (taken : state.step event = .ok next) :
    Accounts next := by
  cases step_kind accounts taken with
  | idle _ same => exact same ▸ accounts
  | handled id stream changed conn present step result closing =>
    rw [result]
    exact accounts.streamStep present step
  | opened id _ absent unused result =>
    rw [result]
    exact accounts_opened accounts absent unused
  | advertised conn _ sameStreams sameObserved sameRead grows sameSubtractions result =>
    rw [result]
    have find (id : StreamId) : conn.findStream id = state.conn.findStream id := by
      simp only [QuicConnectionState.findStream,QuicStreamManager.findStream,sameStreams]
    refine ⟨?_,?_,accounts.removedAccount,?_,?_,?_,?_,?_⟩
    · simp only [find]
      exact accounts.keyed
    · simp only [find]
      exact accounts.account
    · simp only [find]
      exact accounts.notLive
    · simp only [sameObserved,sameStreams]
      exact accounts.observed
    · simp only [sameObserved]
      exact Nat.le_trans accounts.within grows
    · simp only [sameRead,sameStreams]
      exact accounts.read
    · simp only [sameSubtractions]
      exact accounts.noWrap
  | removed id stream _ present result =>
    rw [result]
    exact accounts.remove present

/-- No advertised limit shrinks; a stream leaves only by being removed. -/
structure LimitsGrow (first last : ReceiveSide) : Prop where
  conn : first.conn.flowControlState.advertisedMaxOffset ≤
    last.conn.flowControlState.advertisedMaxOffset
  stream : ∀ id stream, first.conn.findStream id = some stream →
    (∃ later, last.conn.findStream id = some later ∧
      stream.flowControlState.advertisedMaxOffset ≤ later.flowControlState.advertisedMaxOffset) ∨
    ∃ gone ∈ last.removed, gone.id = id
  removed : ∀ stream ∈ first.removed, stream ∈ last.removed

private theorem limits_refl (state : ReceiveSide) : LimitsGrow state state :=
  ⟨Nat.le_refl _,fun _ stream present => .inl ⟨stream,present,Nat.le_refl _⟩,fun _ member => member⟩

private theorem limits_trans (first second third : ReceiveSide) (left : LimitsGrow first second)
    (right : LimitsGrow second third) : LimitsGrow first third := by
  refine ⟨Nat.le_trans left.conn right.conn,?_,fun stream member =>
    right.removed stream (left.removed stream member)⟩
  intro id stream present
  rcases left.stream id stream present with ⟨later,found,grows⟩ | ⟨gone,member,same⟩
  · rcases right.stream id later found with ⟨last,found,growsMore⟩ | gone
    · exact .inl ⟨last,found,Nat.le_trans grows growsMore⟩
    · exact .inr gone
  · exact .inr ⟨gone,right.removed gone member,same⟩

private theorem limits_set {credit : StreamId → Nat} (find : ∀ other, conn.findStream other =
      if other = id then some changed else state.conn.findStream other)
    (grows : state.conn.flowControlState.advertisedMaxOffset ≤
      conn.flowControlState.advertisedMaxOffset)
    (higher : ∀ old, state.conn.findStream id = some old →
      old.flowControlState.advertisedMaxOffset ≤ changed.flowControlState.advertisedMaxOffset) :
    LimitsGrow state {state with conn, credit} := by
  refine ⟨grows,fun other value found => .inl ?_,fun _ member => member⟩
  by_cases same : other = id
  · exact ⟨changed,(find other).trans (if_pos same),higher value (same ▸ found)⟩
  · exact ⟨value,(find other).trans ((if_neg same).trans found),le_rfl⟩

private theorem limits_step (accounts : Accounts state) (taken : state.step event = .ok next) :
    LimitsGrow state next := by
  cases step_kind accounts taken with
  | idle _ same => exact same ▸ limits_refl state
  | handled id stream changed conn present step result closing =>
    subst result
    refine limits_set (accounts.find_handled present step) step.sameAdvertised.ge fun old found => ?_
    rw [present] at found
    exact Option.some.inj found ▸ step.grows
  | opened id _ absent unused result =>
    subst result
    refine limits_set find_opened le_rfl fun old found => ?_
    rw [absent] at found
    cases found
  | advertised conn _ sameStreams _ _ grows _ result =>
    subst result
    refine ⟨grows,?_,fun _ member => member⟩
    intro other value found
    refine .inl ⟨value,?_,Nat.le_refl _⟩
    simpa only [QuicConnectionState.findStream,QuicStreamManager.findStream,sameStreams] using found
  | removed id stream _ present result =>
    subst result
    refine ⟨Nat.le_refl _,?_,fun _ member => List.mem_cons_of_mem _ member⟩
    intro other value found
    by_cases same : other = id
    · refine .inr ⟨stream,List.mem_cons_self,?_⟩
      rw [same]
      exact accounts.keyed id stream present
    · exact .inl ⟨value,(find_removed present other).trans ((if_neg same).trans found),Nat.le_refl _⟩

private theorem data_refused
    {frame : ReadStreamFrame} (receiving : stream.recvState = .openState)
    (carries : frame.fin = true ∨ frame.data ≠ [])
    (consistent : FinalConsistent stream.toQuicStreamLike (frame.offset + frame.data.length)
      frame.fin)
    (breaks : BreaksLimit conn stream (frame.offset + frame.data.length)) :
    ∃ error, receiveReadStreamFrameSMHandler conn stream frame = .error error ∧
      LimitError conn stream (frame.offset + frame.data.length) error := by
  obtain ⟨error,refused,kind⟩ := updateFlowControlOnStreamData_breaks breaks
  refine ⟨error,?_,kind⟩
  have notIgnored : (!frame.fin && frame.data.isEmpty) = false := by
    rcases carries with fin | filled
    · simp [fin]
    · simp [filled]
  have checked := checkFinalOffset_ok.mpr ⟨consistent,rfl⟩
  simp only [receiveReadStreamFrameSMHandler,receiving,appendDataToReadBuffer,
    appendDataToReadBufferCommon,notIgnored,StreamBuffer.stop,checked]
  simp only [bind,Except.bind,Bool.false_eq_true,if_false,refused]

private theorem reset_refused
    {frame : RstStreamFrame} {now : TimePoint} (receiving : stream.recvState ≠ .invalid)
    (same : ∀ final ∈ stream.finalReadOffset, final = frame.offset)
    (bound : stream.maxOffsetObserved ≤ frame.offset)
    (breaks : BreaksLimit conn stream frame.offset) :
    ∃ error, receiveRstStreamSMHandler conn stream frame now = .error error ∧
      LimitError conn stream frame.offset error := by
  -- Closing the receive side first touches neither the limits nor the offsets.
  have refused (other : QuicConnectionState) (sameFlow : other.flowControlState =
      conn.flowControlState) (recvState : StreamRecvState) :
      ∃ error, onResetQuicStream other {stream with recvState := recvState} frame now =
        .error error ∧ LimitError conn stream frame.offset error := by
    have breaksOther : BreaksLimit other {stream with recvState := recvState} frame.offset := by
      simpa only [BreaksLimit,sameFlow] using breaks
    obtain ⟨error,refused,kind⟩ := updateFlowControlOnStreamData_breaks breaksOther
    refine ⟨error,?_,?_⟩
    · have notMiddle : ¬stream.maxOffsetObserved > frame.offset := Nat.not_lt_of_le bound
      have resets : onResetQuicStream.reset other {stream with recvState := recvState} frame now =
          .error error := by
        simp only [onResetQuicStream.reset,notMiddle,if_false,refused]
        rfl
      simp only [onResetQuicStream]
      split
      · rename_i final known
        rw [if_neg (fun different => different (same final known))]
        exact resets
      · exact resets
    · simpa only [LimitError,sameFlow] using kind
  simp only [receiveRstStreamSMHandler]
  split
  · rename_i closed
    have := refused conn rfl stream.recvState
    exact this
  · exact refused _ (SameAccounts.addClosedIfTerminal _ _).flow .closed
  · rename_i invalid
    exact absurd invalid receiving

end ReceiveSide

open ReceiveSide in
/-- In every state of a run: the limits are kept, the sums are those over all streams ever opened,
no more is read than was observed, no subtraction wraps and no limit ever shrinks; and a frame that
reaches the flow control check and would break a limit is refused. -/
theorem receive_flow_control {nodeType : QuicNodeType} {settings : TransportSettings}
    {events : List ReceiveEvent} {state : ReceiveSide}
    (ran : run ReceiveSide.step (ReceiveSide.start nodeType settings) events = .ok state) :
    (∀ id stream, state.conn.findStream id = some stream →
      stream.maxOffsetObserved ≤ stream.flowControlState.advertisedMaxOffset ∧
      min stream.currentReadOffset (stream.finalReadOffset.getD stream.currentReadOffset) ≤
        stream.maxOffsetObserved) ∧
    state.conn.flowControlState.sumMaxObservedOffset =
      total (fun stream => stream.maxOffsetObserved) state.conn.streamManager.streams +
        (state.removed.map (fun stream => stream.maxOffsetObserved)).sum ∧
    state.conn.flowControlState.sumMaxObservedOffset ≤
      state.conn.flowControlState.advertisedMaxOffset ∧
    state.conn.flowControlState.sumCurReadOffset ≤
      state.conn.flowControlState.sumMaxObservedOffset ∧
    (∀ pair ∈ state.conn.subtractions, pair.2 ≤ pair.1) ∧
    state.conn.flowControlState.sumCurReadOffset ≤
      state.conn.flowControlState.advertisedMaxOffset ∧
    (∀ more last, run ReceiveSide.step state more = .ok last →
      state.conn.flowControlState.advertisedMaxOffset ≤
        last.conn.flowControlState.advertisedMaxOffset ∧
      ∀ id stream later, state.conn.findStream id = some stream →
        last.conn.findStream id = some later →
          stream.flowControlState.advertisedMaxOffset ≤
            later.flowControlState.advertisedMaxOffset) ∧
    (∀ id stream frame, state.conn.findStream id = some stream →
      stream.recvState = .openState → (frame.fin = true ∨ frame.data ≠ []) →
      FinalConsistent stream.toQuicStreamLike (frame.offset + frame.data.length) frame.fin →
      BreaksLimit state.conn stream (frame.offset + frame.data.length) →
        ∃ error, receiveReadStreamFrameSMHandler state.conn stream frame = .error error ∧
          LimitError state.conn stream (frame.offset + frame.data.length) error) ∧
    (∀ id stream frame now, state.conn.findStream id = some stream →
      stream.recvState ≠ .invalid → (∀ final ∈ stream.finalReadOffset, final = frame.offset) →
      stream.maxOffsetObserved ≤ frame.offset → BreaksLimit state.conn stream frame.offset →
        ∃ error, receiveRstStreamSMHandler state.conn stream frame now = .error error ∧
          LimitError state.conn stream frame.offset error) := by
  have accounts : Accounts state := run_preserves (fun _ _ _ accounts taken =>
    accounts_step accounts taken) (accounts_start nodeType settings) ran
  refine ⟨?_,accounts.observed,accounts.within,accounts.read_le,accounts.noWrap,
    Nat.le_trans accounts.read_le accounts.within,?_,?_,?_⟩
  · intro id stream present
    have account := accounts.account id stream present
    exact ⟨account.advertised,account.readBytes_le⟩
  · intro more last continued
    have grow : LimitsGrow state last := run_relates limits_refl limits_trans
      (fun _ _ _ accounts taken => ⟨accounts_step accounts taken,limits_step accounts taken⟩)
      accounts continued
    have lastAccounts : Accounts last := run_preserves (fun _ _ _ accounts taken =>
      accounts_step accounts taken) accounts continued
    refine ⟨grow.conn,?_⟩
    intro id stream later present found
    rcases grow.stream id stream present with ⟨same,again,grows⟩ | ⟨gone,member,rfl⟩
    · rw [found] at again
      rw [Option.some.inj again]
      exact grows
    · rw [lastAccounts.notLive gone member] at found
      cases found
  · intro id stream frame present receiving carries consistent breaks
    exact data_refused receiving carries consistent breaks
  · intro id stream frame now present receiving same bound breaks
    exact reset_refused receiving same bound breaks

/-- Two streams, one with a gap that a reset closes, and both limits announced anew. -/
private def twoStreams : List ReceiveEvent :=
  [.openStream 0,.openStream 4,.data ⟨0,0,[7,8,9],false,none⟩,.data ⟨4,5,[1],true,none⟩,.read 0 2 0,
   .resetStream ⟨4,0,6⟩ 0,.connWindowUpdateSent 1,.streamWindowUpdateSent 0 1]

theorem receive_flow_control_two_streams :
    ∃ state, run ReceiveSide.step (ReceiveSide.start .server {}) twoStreams = .ok state ∧
      state.conn.flowControlState.sumMaxObservedOffset = 9 ∧
      state.conn.flowControlState.sumCurReadOffset ≤
        state.conn.flowControlState.sumMaxObservedOffset ∧
      ∀ pair ∈ state.conn.subtractions, pair.2 ≤ pair.1 := by
  obtain ⟨state,ran,sum⟩ : ∃ state, run ReceiveSide.step (ReceiveSide.start .server {}) twoStreams =
      .ok state ∧ state.conn.flowControlState.sumMaxObservedOffset = 9 := ⟨_,rfl,rfl⟩
  obtain ⟨-,-,-,read,subtractions,-⟩ := receive_flow_control ran
  exact ⟨state,ran,sum,read,subtractions⟩

/-- The final offset is checked before the limits: data past both is refused as FINAL_SIZE_ERROR. -/
theorem final_size_checked_before_limits :
    ∃ state stream, run ReceiveSide.step (ReceiveSide.start .server {})
        [.openStream 0,.data ⟨0,5,[7],true,none⟩] = .ok state ∧
      state.conn.findStream 0 = some stream ∧ stream.recvState = .openState ∧
      BreaksLimit state.conn stream (66560 + [(7 : UInt8)].length) ∧
      receiveReadStreamFrameSMHandler state.conn stream ⟨0,66560,[7],false,none⟩ =
        .error (.transport .finalSizeError "Invalid data after EOF") :=
  ⟨_,_,rfl,rfl,rfl,.inl (by decide),rfl⟩

end StreamServer.FlowControl
