import StreamServer.FlowControl.ReceiveRuns

/-! Receive credit of the connection. A stream that is done receiving should have
added to the sum of read offsets what it added to the sum of observed ones; along a
run this holds exactly as long as no stream is dropped with unread bytes. -/
namespace StreamServer.FlowControl
open Protocol State Lib.Transition

namespace ReceiveSide

def EverOpened (state : ReceiveSide) (stream : QuicStreamState) : Prop :=
  (∃ id, state.conn.findStream id = some stream) ∨ stream ∈ state.removed

/-- Every stream that is closed for receiving and has nothing buffered has returned the bytes it
contributed to the sum of observed offsets. -/
def CreditReturned (state : ReceiveSide) : Prop :=
  ∀ stream, state.EverOpened stream → stream.recvState = .closed → stream.readBuffer = [] →
    state.credit stream.id = stream.maxOffsetObserved

/-- What was booked for a stream is what was read from it. -/
structure Booked (state : ReceiveSide) : Prop where
  accounts : Accounts state
  live : ∀ id stream, state.conn.findStream id = some stream → state.credit id = readBytes stream
  removed : ∀ stream ∈ state.removed, state.credit stream.id = readBytes stream
  fresh : ∀ id, state.conn.findStream id = none → (∀ stream ∈ state.removed, stream.id ≠ id) →
    state.credit id = 0
  pending : ∀ id stream, state.conn.findStream id = some stream → Pending stream

variable {state next : ReceiveSide}

theorem booked_start (nodeType : QuicNodeType) (settings : TransportSettings) :
    Booked (start nodeType settings) ∧ CreditReturned (start nodeType settings) := by
  have none (id : StreamId) : (start nodeType settings).conn.findStream id = none := rfl
  refine ⟨⟨accounts_start nodeType settings,by simp [none],by simp [start],fun _ _ _ => rfl,
    by simp [none]⟩,?_⟩
  rintro stream (⟨id,present⟩ | member)
  · rw [none] at present
    cases present
  · cases member

theorem Booked.credit (booked : Booked state) {stream : QuicStreamState}
    (opened : state.EverOpened stream) : state.credit stream.id = readBytes stream := by
  rcases opened with ⟨id,present⟩ | member
  · rw [booked.accounts.keyed id stream present]
    exact booked.live id stream present
  · exact booked.removed stream member

theorem Booked.creditReturned_iff (booked : Booked state) :
    CreditReturned state ↔ (∀ id stream, state.conn.findStream id = some stream → Settled stream) ∧
      ∀ stream ∈ state.removed, Settled stream := by
  constructor
  · intro returned
    have settled (stream : QuicStreamState) (opened : state.EverOpened stream) : Settled stream :=
      fun closed empty => (booked.credit opened).symm.trans (returned stream opened closed empty)
    exact ⟨fun id stream present => settled stream (.inl ⟨id,present⟩),
      fun stream member => settled stream (.inr member)⟩
  · rintro ⟨live,gone⟩ stream opened closed empty
    rw [booked.credit opened]
    rcases opened with ⟨id,present⟩ | member
    · exact live id stream present closed empty
    · exact gone stream member closed empty

private theorem booked_handled (booked : Booked state) {id : StreamId}
    {stream changed : QuicStreamState} {conn : QuicConnectionState}
    (present : state.conn.findStream id = some stream)
    (step : StreamStep state.conn conn stream changed) (pending : Pending changed) :
    Booked (state.after id conn changed) := by
  have accounts := booked.accounts
  have find := accounts.find_handled present step
  have credit := booked.live id stream present
  have read := step.read
  have added : (state.after id conn changed).credit id = readBytes changed := by
    simp only [after,Function.update_self]
    have forward := step.forward
    omega
  have others {other : StreamId} (different : other ≠ id) :
      (state.after id conn changed).credit other = state.credit other :=
    Function.update_of_ne different _ _
  refine ⟨accounts.streamStep present step,known_replaced find (fun other stream different found =>
      (others different).trans (booked.live other stream found)) ?_,
    fun gone member => (others (accounts.apart present gone member)).trans (booked.removed gone member),
    fun other absent unused => ?_,known_replaced find (fun _ _ _ => booked.pending _ _) ?_⟩
  · rintro _ ⟨⟩
    exact added
  · rw [show (state.after id conn changed).conn = conn.setStream changed from rfl,find] at absent
    split at absent
    · cases absent
    · next different => exact (others different).trans (booked.fresh other absent unused)
  · rintro _ ⟨⟩
    exact pending

theorem credit_step (booked : Booked state) (returned : CreditReturned state)
    {event : ReceiveEvent} (taken : state.step event = .ok next) :
    Booked next ∧ (CreditReturned next ↔ state.LeavesNoCredit event) := by
  have accounts := booked.accounts
  have nextAccounts := accounts_step accounts taken
  obtain ⟨live,gone⟩ := booked.creditReturned_iff.mp returned
  -- Steps that touch no stream keep the property, and their condition is met.
  have unchanged (bookedNext : Booked next) (condition : state.LeavesNoCredit event)
      (live : ∀ id stream, next.conn.findStream id = some stream → Settled stream)
      (gone : ∀ stream ∈ next.removed, Settled stream) :
      Booked next ∧ (CreditReturned next ↔ state.LeavesNoCredit event) :=
    ⟨bookedNext,iff_of_true (bookedNext.creditReturned_iff.mpr ⟨live,gone⟩) condition⟩
  cases step_kind accounts taken with
  | idle condition same =>
    subst same
    exact unchanged booked condition live gone
  | handled id stream changed conn present step result closing =>
    subst result
    have find := accounts.find_handled present step
    obtain ⟨pending,exactly⟩ := closing (booked.pending id stream present) (live id stream present)
    have bookedNext := booked_handled booked present step pending
    refine ⟨bookedNext,bookedNext.creditReturned_iff.trans (Iff.trans ⟨fun all => ?_,fun settled =>
      ⟨known_replaced find (fun _ _ _ => live _ _) ?_,gone⟩⟩ exactly)⟩
    · exact all.1 id changed ((find id).trans (if_pos rfl))
    · rintro _ ⟨⟩
      exact settled
  | opened id condition absent unused result =>
    subst result
    refine unchanged ⟨nextAccounts,known_replaced find_opened (fun _ _ _ => booked.live _ _)
        fun _ is => ?_,booked.removed,fun other missing notGone => ?_,
      known_replaced find_opened (fun _ _ _ => booked.pending _ _) fun _ is => ?_⟩ condition
      (known_replaced find_opened (fun _ _ _ => live _ _) fun _ is => ?_) gone
    · rw [← Option.some.inj is]
      exact booked.fresh id absent unused
    · simp only [find_opened] at missing
      split at missing
      · cases missing
      · exact booked.fresh other missing notGone
    · rw [← Option.some.inj is]
      exact fun _ nonempty => absurd rfl nonempty
    · rw [← Option.some.inj is]
      exact fun _ _ => rfl
  | advertised conn condition sameStreams _ _ _ _ result =>
    subst result
    have find (id : StreamId) : conn.findStream id = state.conn.findStream id := by
      simp only [QuicConnectionState.findStream,QuicStreamManager.findStream,sameStreams]
    refine unchanged ⟨nextAccounts,?_,booked.removed,?_,?_⟩ condition ?_ gone
    · simp only [find]
      exact booked.live
    · simp only [find]
      exact booked.fresh
    · simp only [find]
      exact booked.pending
    · simp only [find]
      exact live
  | removed id stream condition present result =>
    subst result
    have find := find_removed present
    have key := accounts.keyed id stream present
    refine unchanged ⟨nextAccounts,
      known_replaced find (fun _ _ _ => booked.live _ _) (by rintro _ ⟨⟩),
      List.forall_mem_cons.mpr ⟨?_,booked.removed⟩,fun other missing notGone => ?_,
      known_replaced find (fun _ _ _ => booked.pending _ _) (by rintro _ ⟨⟩)⟩ condition
      (known_replaced find (fun _ _ _ => live _ _) (by rintro _ ⟨⟩))
      (List.forall_mem_cons.mpr ⟨live id stream present,gone⟩)
    · rw [key]
      exact booked.live id stream present
    · obtain ⟨notThis,notGone⟩ := List.forall_mem_cons.mp notGone
      simp only [find] at missing
      rw [if_neg (fun same => notThis (key.trans same.symm))] at missing
      exact booked.fresh other missing notGone

/-- Credit is returned in every state of a run exactly if no step of it stops, or resets after the
receiving side was closed, a stream with bytes observed and not read. -/
theorem credit_returned_iff (nodeType : QuicNodeType) (settings : TransportSettings)
    (events : List ReceiveEvent) :
    Throughout ReceiveSide.step CreditReturned (start nodeType settings) events ↔
      StepsMeet ReceiveSide.step LeavesNoCredit (start nodeType settings) events := by
  obtain ⟨booked,returned⟩ := booked_start nodeType settings
  refine throughout_iff_stepsMeet ?_ booked returned
  intro state event next booked returned taken
  obtain ⟨bookedNext,exactly⟩ := credit_step booked returned taken
  exact ⟨fun _ => bookedNext,exactly⟩

/-- Stopping a stream with one byte observed and not read: the receive side is closed and empty,
and the byte is never returned. -/
theorem stop_sending_leaks_credit :
    ∃ state stream, run ReceiveSide.step (start .server {})
        [.openStream 0,.data ⟨0,0,[7],false,none⟩,.stopSending 0] = .ok state ∧
      state.conn.findStream 0 = some stream ∧ stream.recvState = .closed ∧
      stream.readBuffer = [] ∧ stream.maxOffsetObserved = 1 ∧ state.credit 0 = 0 ∧
      state.conn.flowControlState.sumCurReadOffset = 0 ∧
      state.conn.flowControlState.sumMaxObservedOffset = 1 :=
  ⟨_,_,rfl,rfl,rfl,rfl,rfl,rfl,rfl,rfl⟩

end ReceiveSide

end StreamServer.FlowControl
