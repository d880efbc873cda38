import StreamServer.Congestion.Controller

/-! What the congestion controllers have no part in: everything but the bytes in flight, the
controller itself and the frames that BBR queues. -/
namespace StreamServer.Congestion
open Protocol State Lib.Outcome

structure Aside (conn next : QuicConnectionState) : Prop where
  outstandings : next.outstandings = conn.outstandings
  history : next.history = conn.history
  ackStates : next.ackStates = conn.ackStates

theorem Aside.refl (conn : QuicConnectionState) : Aside conn conn := ⟨rfl,rfl,rfl⟩

/-- Nothing changed but what belongs to the controller. -/
def ControllerOnly (conn next : QuicConnectionState) : Prop :=
  ∃ controller frames sequence log inflightBytes,
    next = settled conn controller frames sequence log inflightBytes

theorem ControllerOnly.refl (conn : QuicConnectionState) : ControllerOnly conn conn :=
  ⟨conn.congestionController,[],conn.nextAckFrequencyFrameSequenceNumber,conn.inflightSubtractions,
    conn.lossState.inflightBytes,by simp [settled]⟩

theorem ControllerOnly.trans {first second third : QuicConnectionState}
    (one : ControllerOnly first second) (two : ControllerOnly second third) :
    ControllerOnly first third := by
  obtain ⟨_,frames,_,_,_,rfl⟩ := one
  obtain ⟨controller,more,sequence,log,inflightBytes,rfl⟩ := two
  exact ⟨controller,frames ++ more,sequence,log,inflightBytes,by simp [settled]⟩

theorem ControllerOnly.withController {conn next : QuicConnectionState}
    (only : ControllerOnly conn next) (controller : CongestionController) :
    ControllerOnly conn (withController next controller) := by
  obtain ⟨_,frames,sequence,log,inflightBytes,rfl⟩ := only
  exact ⟨some controller,frames,sequence,log,inflightBytes,rfl⟩

theorem ControllerOnly.aside {conn next : QuicConnectionState} (only : ControllerOnly conn next) :
    Aside conn next := by
  obtain ⟨_,_,_,_,_,rfl⟩ := only
  exact ⟨rfl,rfl,rfl⟩

variable (conn : QuicConnectionState)

theorem setInflight_only (inflightBytes : Nat) :
    ControllerOnly conn (setInflight conn inflightBytes) :=
  ⟨conn.congestionController,[],conn.nextAckFrequencyFrameSequenceNumber,conn.inflightSubtractions,
    inflightBytes,by simp [settled,setInflight]⟩

theorem noteInflightSubtraction_only (bytes : Nat) :
    ControllerOnly conn (noteInflightSubtraction conn bytes) :=
  ⟨conn.congestionController,[],conn.nextAckFrequencyFrameSequenceNumber,_,
    conn.lossState.inflightBytes,by simp [settled,noteInflightSubtraction]; rfl⟩

/-- Whatever the result, only what belongs to the controller changed. -/
abbrev StaysWithin {σ : Type} (conn : QuicConnectionState) :
    Except Error (QuicConnectionState × σ) → Prop :=
  Yields (fun _ => True) fun result => ControllerOnly conn result.1

theorem subtractInflight_within (bytes : Nat) :
    Yields (fun _ => True) (ControllerOnly conn) (subtractInflight conn bytes) := by
  unfold subtractInflight
  exact (Yields.anyway _).bind fun _ _ =>
    (noteInflightSubtraction_only conn bytes).trans (setInflight_only _ _)

theorem addInflight_within (bytes : Nat) :
    Yields (fun _ => True) (ControllerOnly conn) (addInflight conn bytes) := by
  unfold addInflight
  exact (Yields.anyway _).bind fun _ _ => setInflight_only _ _

private theorem only_keeps (total : Nat) :
    TakingKeeps (fun _ => True) total fun _ => ControllerOnly conn where
  tolerates _ _ := trivial
  subtracts _ _ _ only _ := (subtractInflight_within ..).mono fun _ more => only.trans more
  removes _ _ _ only _ :=
    only.trans ((noteInflightSubtraction_only ..).trans (setInflight_only ..))
  requests _ _ _ _ _ only := only.trans ⟨_,_,_,_,_,rfl⟩

theorem onPacketAckOrLoss_within (readings : Readings) (ack : Option AckEvent)
    (loss : Option LossEvent) :
    Yields (fun _ => True) (ControllerOnly conn) (onPacketAckOrLoss conn readings ack loss) := by
  by_cases present : conn.congestionController.isSome
  · exact (only_keeps conn _).onPacketAckOrLoss (fun _ _ _ _ _ only => only) (.refl conn) rfl
      (fun _ _ controller only => only.withController _) present
  · rw [onPacketAckOrLoss,Option.not_isSome_iff_eq_none.mp present]
    exact .refl conn

theorem onRemoveBytesFromInflight_within (bytes : Nat) :
    Yields (fun _ => True) (ControllerOnly conn) (onRemoveBytesFromInflight conn bytes) := by
  unfold onRemoveBytesFromInflight
  split
  · exact .refl conn
  · exact (noteInflightSubtraction_only conn bytes).trans (setInflight_only _ _)
  · exact subtractInflight_within ..

theorem onPacketSent_within (packet : OutstandingPacket) :
    Yields (fun _ => True) (ControllerOnly conn) (onPacketSent conn packet) := by
  unfold onPacketSent
  split
  · exact .refl conn
  · exact addInflight_within ..
  · exact addInflight_within ..
  · unfold Cubic.onPacketSent
    split
    · trivial
    · exact setInflight_only _ _
  · have sent (bbr : Bbr) : StaysWithin conn (bbr.onPacketSent conn packet) :=
      (addInflight_within ..).bind fun _ only => only
    exact (sent _).bind fun _ only => only.withController _

theorem onPacketAckOrLoss_aside (readings : Readings) (ack : Option AckEvent)
    (loss : Option LossEvent) :
    Yields (fun _ => True) (Aside conn) (onPacketAckOrLoss conn readings ack loss) :=
  (onPacketAckOrLoss_within conn readings ack loss).mono fun _ only => only.aside

end StreamServer.Congestion
