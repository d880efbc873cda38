import StreamServer.Loss.FrameSteps

/-! No copy of sent data is ever kept, whatever is called about the frames. -/
namespace StreamServer.Loss
open Protocol State Api Lib.Transition

theorem FrameStep.contentStep {conn next : QuicConnectionState} (step : FrameStep conn next) :
    ContentStep conn next := by
  cases step with
  | aside same =>
    refine .same ?_
    unfold contents
    rw [same.streamManager,same.cryptoState]
  | sent done => exact ((onFrameSent_call ..).ok done).content
  | acked done => exact ((clientAckVisitor_call ..).ok done).content
  | implicitlyAcked done => exact ((implicitAckVisitor_call ..).ok done).content
  | unlost done => exact ((unloseFrame_call ..).ok done).content
  | lost protectionType processed lost frame => exact (onFrameLost_call ..).content
  | cleared level => exact .crypto .cleared rfl

/-- No sent data is kept for a retransmission. -/
structure Copyless (stream : QuicStreamLike) : Prop where
  retransmission : stream.retransmissionBuffer = ∅
  loss : stream.lossBuffer = []

private theorem handleStreamWritten_copyless {conn after : QuicConnectionState}
    {like next : QuicStreamLike} {offset len : Nat} {fin isNew : Bool} (copyless : Copyless like)
    (done : handleStreamWritten conn like offset len fin = .ok (after,next,isNew)) :
    Copyless next := by
  unfold handleStreamWritten at done
  dsimp only at done
  split at done
  next =>
    cases done
    exact ⟨copyless.retransmission,copyless.loss⟩
  next =>
    split at done
    next => cases done
    next =>
      simp only [copyless.loss,List.dropWhile_nil] at done
      cases done
      exact copyless

theorem CryptoStep.copyless {like next : QuicCryptoStream} (step : CryptoStep like next)
    (copyless : Copyless like) : Copyless next := by
  cases step with
  | written done => exact handleStreamWritten_copyless copyless done
  | acked offset len =>
    unfold processCryptoStreamAck
    rw [copyless.retransmission]
    exact copyless
  | lost found =>
    rw [copyless.retransmission] at found
    cases found
  | cleared => exact ⟨copyless.retransmission,rfl⟩

/-- The crypto streams keep no copies. -/
def CryptoCopyless (state : QuicCryptoState) : Prop :=
  ∀ level, Copyless (getCryptoStream state level)

theorem CryptoCopyless.set {state : QuicCryptoState} (copyless : CryptoCopyless state)
    {stream : QuicCryptoStream} (own : Copyless stream) (level : EncryptionLevel) :
    CryptoCopyless (setCryptoStream state stream level) := by
  intro other
  cases level <;> cases other <;>
    first
    | exact own
    | exact copyless .initial
    | exact copyless .handshake
    | exact copyless .appData

theorem ContentStep.cryptoCopyless {conn next : QuicConnectionState} (step : ContentStep conn next)
    (copyless : CryptoCopyless conn.cryptoState) : CryptoCopyless next.cryptoState := by
  cases step with
  | same after | stream found step after =>
    rw [show next.cryptoState = conn.cryptoState from congrArg Prod.snd after]
    exact copyless
  | @crypto level changed step after =>
    rw [show next.cryptoState = _ from congrArg Prod.snd after]
    exact copyless.set (step.copyless (copyless level)) level

theorem FrameSteps.cryptoCopyless {conn next : QuicConnectionState} (steps : FrameSteps conn next)
    (copyless : CryptoCopyless conn.cryptoState) : CryptoCopyless next.cryptoState := by
  induction steps with
  | refl => exact copyless
  | tail _ step ih => exact step.contentStep.cryptoCopyless ih

variable {stream changed : QuicStreamState} {conn next : QuicConnectionState}

/-- The same for a stream, which sends metadata too. -/
structure StreamCopyless (stream : QuicStreamState) : Prop
    extends Copyless stream.toQuicStreamLike where
  retransmissionMetas : stream.retransmissionBufMetas = ∅
  lossMetas : stream.lossBufMetas = []

theorem StreamCopyless.removeAckedFrame (copyless : StreamCopyless stream)
    (frame : WriteStreamFrame) : removeAckedFrame stream frame = .ok stream := by
  unfold State.removeAckedFrame
  rw [copyless.retransmission,copyless.retransmissionMetas]
  split <;> rfl

theorem StreamStep.copyless (step : StreamStep stream changed) (copyless : StreamCopyless stream) :
    StreamCopyless changed := by
  cases step with
  | written done =>
    unfold onStreamFrameWritten at done
    split at done
    next =>
      unfold handleStreamBufMetaWritten at done
      rw [copyless.lossMetas] at done
      split at done
      next =>
        cases done
        exact {copyless with}
      next => cases done
    next =>
      obtain ⟨⟨_,like,_⟩,written,same⟩ := bind_ok.mp done
      cases same
      exact {copyless with toCopyless := handleStreamWritten_copyless copyless.toCopyless written}
  | acked done =>
    unfold sendAckSMHandler at done
    rw [copyless.removeAckedFrame] at done
    split at done
    next =>
      change (if allBytesTillFinAcked stream then _ else _) = _ at done
      split at done <;> cases done <;> exact {copyless with}
    all_goals
      cases done
      try exact copyless
  | rstAcked done =>
    unfold sendRstAckSMHandler at done
    split at done <;> cases done <;> exact {copyless with}
  | unlost done =>
    obtain ⟨_,_,rfl⟩ := map_ok done
    refine {copyless with loss := ?_}
    change removeFromLossBuffer stream.lossBuffer _ _ _ = []
    rw [copyless.loss]
    rfl
  | lost done =>
    unfold lostStreamData at done
    rw [copyless.retransmission,copyless.retransmissionMetas] at done
    split at done <;> cases done
  | announced => exact {copyless with}

/-- No stream keeps copies. -/
def Forgetful (conn : QuicConnectionState) : Prop :=
  ∀ id stream, conn.findStream id = some stream → StreamCopyless stream

theorem Forgetful.setStream (forgetful : Forgetful conn) (copyless : StreamCopyless changed)
    (streams : next.streamManager.streams = conn.streamManager.streams.insert changed.id changed) :
    Forgetful next := by
  intro id stream found
  have set : (conn.setStream changed).findStream id = some stream :=
    (congrArg (AList.lookup id) streams.symm).trans found
  rw [QuicConnectionState.findStream_setStream] at set
  split at set
  next =>
    cases set
    exact copyless
  next => exact forgetful id stream set

theorem FrameSteps.forgetful (steps : FrameSteps conn next) (forgetful : Forgetful conn) :
    Forgetful next := by
  induction steps with
  | refl => exact forgetful
  | tail _ step ih =>
    cases step.contentStep with
    | stream found step after =>
      exact ih.setStream (step.copyless (ih _ _ found)) (congrArg Prod.fst after)
    | same after | crypto _ after =>
      intro id stream found
      exact ih id stream ((congrArg (fun content => content.1.lookup id) after).symm.trans found)

/-- What happens elsewhere puts no copies into a stream. -/
def PacketAction.Forgets : PacketAction → Prop
  | .handle (.elsewhere other) => Forgetful other
  | _ => True

/-- Any acknowledged frame completes a stream whose FIN was sent and that has nothing to write. -/
def CompletesOnAck (conn : QuicConnectionState) : Prop :=
  ∀ id stream frame, conn.findStream id = some stream → stream.sendState = .openState →
    ∃ handled changed, sendAckSMHandler conn stream frame = .ok (handled,changed) ∧
      (changed.sendState = .closed ↔ stream.hasSentFIN = true ∧ stream.writeBuffer = [] ∧
        stream.hasWritableBufMeta = false)

section Runs

variable {actions : List PacketAction} (forgets : ∀ action ∈ actions, action.Forgets)
  (forgetful : Forgetful conn)

include forgets forgetful

private theorem packetRun_forgetful {first rest : List PacketAction} {last : QuicConnectionState}
    (split : actions = first ++ rest) (ran : run packetStep conn first = .ok last) :
    Forgetful last := by
  subst split
  refine run_preserves_allowed (fun conn action next forgets forgetful done => ?_)
    (fun action inside => forgets action (List.mem_append_left rest inside)) forgetful ran
  by_cases here : action.isElsewhere = false
  · exact (packetStep_frameSteps here done).forgetful forgetful
  · unfold PacketAction.isElsewhere at here
    split at here
    next other =>
      cases done
      exact forgets
    next => exact absurd rfl here

theorem sent_data_not_kept : Throughout packetStep Forgetful conn actions := by
  rw [throughout_iff_prefixes]
  intro first rest last split ran
  exact packetRun_forgetful forgets forgetful split ran

theorem first_ack_completes : Throughout packetStep CompletesOnAck conn actions := by
  rw [throughout_iff_prefixes]
  intro first rest last split ran id stream frame found opened
  have copyless := packetRun_forgetful forgets forgetful split ran id stream found
  have acked : allBytesTillFinAcked stream = true ↔ stream.hasSentFIN = true ∧
      stream.writeBuffer = [] ∧ stream.hasWritableBufMeta = false := by
    unfold allBytesTillFinAcked
    rw [copyless.retransmission,copyless.retransmissionMetas,copyless.loss,copyless.lossMetas]
    simp [and_assoc]
  unfold sendAckSMHandler
  rw [opened,copyless.removeAckedFrame,← acked]
  by_cases all : allBytesTillFinAcked stream
  · exact ⟨_,_,if_pos all,iff_of_true rfl all⟩
  · refine ⟨_,_,if_neg all,iff_of_false ?_ all⟩
    rw [opened]
    nofun

end Runs

/-- Three bytes and the FIN, sent in two packets, and two pings. The packet with the FIN and the first
ping are acknowledged; when the second ping is, the first packet is declared lost. -/
def halves : List PacketAction :=
  let send (sentTime : TimePoint) (frame : QuicWriteFrame) : PacketAction :=
    .handle (.send {pingPacket with sentTime, frames := [frame]})
  [.handle (.elsewhere (freshClient.setStream
    {id := 0, writeBuffer := [1,2,3], finalWriteOffset := some 3})),
   send 0 (.stream ⟨0,0,2,false,false,none,0⟩),send 0 (.stream ⟨0,2,1,true,false,none,0⟩),
   send 0 .ping,
   .handle (.ackFrame ⟨.appData,{largestAcked := 2, ackBlocks := [⟨1,2⟩]},50000,50000⟩ {}),
   send 60000 .ping,
   .handle (.ackFrame ⟨.appData,{largestAcked := 3, ackBlocks := [⟨3,3⟩]},100000,100000⟩ {})]

private theorem halves_lost : ∃ last, run packetStep freshClient halves = .ok last ∧
    last.outstandings.declaredLostCount = 1 :=
  ⟨_,rfl,rfl⟩

private theorem halves_forgets : (∀ action ∈ halves, action.Forgets) ∧ Forgetful freshClient := by
  have none : Forgetful freshClient := fun _ _ found => by cases found
  refine ⟨?_,none⟩
  simp only [halves,List.forall_mem_cons]
  exact ⟨none.setStream ⟨⟨rfl,rfl⟩,rfl,rfl⟩ rfl,trivial,trivial,trivial,trivial,trivial,trivial,
    List.forall_mem_nil _⟩

theorem sent_data_not_kept_halves :
    (∃ last, run packetStep freshClient halves = .ok last ∧ last.outstandings.declaredLostCount = 1) ∧
      Throughout packetStep Forgetful freshClient halves :=
  ⟨halves_lost,sent_data_not_kept halves_forgets.1 halves_forgets.2⟩

theorem first_ack_completes_halves :
    (∃ last, run packetStep freshClient halves = .ok last ∧ last.outstandings.declaredLostCount = 1) ∧
      Throughout packetStep CompletesOnAck freshClient halves :=
  ⟨halves_lost,first_ack_completes halves_forgets.1 halves_forgets.2⟩

end StreamServer.Loss
