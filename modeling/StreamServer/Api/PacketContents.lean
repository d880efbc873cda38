import StreamServer.Api.ScheduledWrites

/-! What a packet records is what its receiver reads: the frames the scheduler has written
are decoded from the body in their order. -/
namespace StreamServer.Api
open Protocol State Codec Lib.Transition

variable {before written : PacketBuilder} {after : QuicConnectionState} {next : FrameScheduler}

/-- The values a connection has queued are those the decoder of the peer accepts, which knows the
exponent the connection has announced, and its clock fits the counter of a delay. -/
structure InDecoderRange (conn : QuicConnectionState) (params : CodecParameters) (now : TimePoint) :
    Prop where
  resets : ∀ entry ∈ conn.pendingEvents.resets.entries, entry.2.errorCode < 2^16
  pathChallenge : ∀ pathData, conn.pendingEvents.pathChallenge = some pathData → pathData < 2^64
  frames : ∀ frame ∈ conn.pendingEvents.frames, simpleInRange frame
  ungrouped : ∀ key stream, conn.findStream key = some stream → stream.groupId = none
  exponent : 1 ≤ conn.transportSettings.ackDelayExponent ∧ conn.transportSettings.ackDelayExponent ≤ 20
  agreed : params.peerAckDelayExponent = conn.transportSettings.ackDelayExponent
  clock : ∀ space receivedTime, (conn.ackStates space).largestRecvdPacketTime = some receivedTime →
    now - receivedTime < 2^63

variable {conn : QuicConnectionState} {params : CodecParameters} {now : TimePoint}
  {cryptoStream : QuicCryptoStream} {header : PacketHeader}

private theorem ackDelay_bounds {ackingTime receivedTime : Int} (short : ackingTime - receivedTime < 2^63) :
    (0 : Int) ≤ AckScheduler.ackDelay ackingTime receivedTime ∧
      AckScheduler.ackDelay ackingTime receivedTime < (2^63 : Int) := by
  unfold AckScheduler.ackDelay
  split
  next later =>
    have positive : 0 ≤ ackingTime - receivedTime := Int.sub_nonneg.mpr (Int.le_of_lt later)
    exact ⟨Int.ediv_nonneg positive (by decide),Int.lt_of_le_of_lt (Int.ediv_le_self _ positive) short⟩
  next => exact ⟨Int.le_refl _,by decide⟩

section Range

variable (range : InDecoderRange conn params now)
include range

private theorem control_inRange {control : QuicWriteFrame} (offered : OfferedControl conn control) :
    inRange control := by
  cases control with
  | rstStream reset =>
    obtain ⟨entry,queued,rfl⟩ := offered
    simpa [inRange] using range.resets entry queued
  | datagram length data => simpa [inRange] using offered.2
  | connectionClose frame | simple frame => exact offered.elim
  | _ => rfl

theorem ackMetaData_readable {space : PacketNumberSpace} {metaData : WriteAckFrameMetaData}
    (gathered : AckScheduler.ackMetaData conn (conn.ackStates space) header now = .ok metaData) :
    (FrameWrite.ack metaData).Readable header params := by
  unfold AckScheduler.ackMetaData at gathered
  split at gathered
  · cases gathered
  next receivedTime received =>
    cases gathered
    have short := range.clock space receivedTime received
    have exponent := range.exponent
    have agreed : AckScheduler.ackDelayExponentToUse conn header = ackDelayExponentToUse header params := by
      cases header with
      | long longHeader => rfl
      | short shortHeader =>
        simp only [AckScheduler.ackDelayExponentToUse,ackDelayExponentToUse,range.agreed]
        omega
    refine ⟨agreed,?_,ackDelay_bounds short⟩
    have small : 1 ≤ AckScheduler.ackDelayExponentToUse conn header ∧
        AckScheduler.ackDelayExponentToUse conn header < 64 := by
      cases header with
      | long longHeader => exact (by decide : 1 ≤ 3 ∧ 3 < 64)
      | short shortHeader =>
        simp only [AckScheduler.ackDelayExponentToUse]
        omega
    exact small

theorem offered_readable {write : FrameWrite} (offered : Offered conn cryptoStream header now write) :
    write.Readable header params ∧ write.hinted = false := by
  cases write with
  | frame control => exact ⟨control_inRange range offered,rfl⟩
  | simple control =>
    refine ⟨?_,rfl⟩
    rcases List.mem_append.mp offered with challenge | queued
    · obtain ⟨pathData,inside,rfl⟩ := List.mem_map.mp challenge
      have small := range.pathChallenge pathData (Option.mem_toList.mp inside)
      simpa [FrameWrite.Readable,simpleInRange] using small
    · exact range.frames control queued
  | stream id offset source flowControlLen fin skipLenHint streamGroupId =>
    obtain ⟨rfl,key,stream,found,-,rfl,-⟩ := offered
    exact ⟨range.ungrouped key stream found,rfl⟩
  | crypto offset source => exact ⟨trivial,rfl⟩
  | ack metaData =>
    obtain ⟨space,gathered⟩ := offered
    exact ⟨ackMetaData_readable range gathered,rfl⟩

theorem offeredWhole_readable (write : FrameWrite)
    (offered : OfferedWhole conn cryptoStream header now write) :
    Offered conn cryptoStream header now write ∧ write.Readable header params ∧ write.delimited = true :=
  ⟨offered.1,(offered_readable range offered.1).1,offered.2⟩

theorem ControlWrites.faithful {after : PacketBuilder}
    (writes : ControlWrites conn cryptoStream header now before after) (small : before.Counted)
    (faithful : Faithful header params (Offered conn cryptoStream header now) false before) :
    Faithful header params (Offered conn cryptoStream header now) false after ∧ Kept before after := by
  have readable := @offeredWhole_readable conn params now cryptoStream header range
  cases writes with
  | limited performs =>
    obtain ⟨last,bytes,step⟩ := performs.whole readable small faithful
    exact ⟨last,step.kept⟩
  | @direct middle acked _ metaData first offered acks rest =>
    obtain ⟨whole,_,step⟩ := first.whole readable small faithful
    have counted := step.counted small
    -- The withheld bytes are no part of what is written or recorded.
    obtain ⟨ackedWhole,_,direct⟩ := (@Performs.single _ _ (OfferedWhole conn cryptoStream header now) _
      ⟨offered,rfl⟩ acks).whole readable counted whole
    obtain ⟨last,_,more⟩ := rest.whole readable (direct.counted counted) ackedWhole
    have rewrapped : Kept middle {acked with diff := middle.diff} :=
      ⟨direct.header,direct.encoding,direct.overhead,direct.counted⟩
    exact ⟨last,step.kept.trans (rewrapped.trans more.kept)⟩

end Range

namespace FrameScheduler

variable {scheduler : FrameScheduler}

theorem writeDatagrams_performs
    (same : after.datagramWriteBuffer = conn.datagramWriteBuffer) {last : QuicConnectionState}
    (wrote : scheduler.writeDatagrams after before = .ok (last,written)) :
    Performs (OfferedWhole conn cryptoStream header now) before written := by
  unfold writeDatagrams at wrote
  split at wrote
  · obtain ⟨⟨queue,_⟩,datagrams,done⟩ := bind_ok.mp wrote
    cases done
    refine Api.writeDatagrams_performs (fun payload inside => ?_) datagrams
    rwa [← same]
  · cases wrote
    exact .refl _

theorem writeStreams_cases (wrote : scheduler.writeStreams conn before = .ok (next,after,written)) :
    (next = scheduler ∧ after = conn ∧ written = before) ∨
      scheduler.streamFrameScheduler = true ∧
        ∃ nextStreamDsr, StreamFrameScheduler.writeStreams conn before = .ok (nextStreamDsr,after,written) := by
  unfold writeStreams at wrote
  split at wrote
  next pending =>
    obtain ⟨⟨nextStreamDsr,_,_⟩,streams,done⟩ := bind_ok.mp wrote
    cases done
    unfold hasPendingStreams at pending
    exact .inr ⟨(Bool.and_eq_true _ _ ▸ pending).1,nextStreamDsr,streams⟩
  next =>
    cases wrote
    exact .inl ⟨rfl,rfl,rfl⟩

/-- What was begun is whole, or its last frame takes the rest of a packet that is long enough. -/
abbrev Finished (header : PacketHeader) (params : CodecParameters) (allowed : FrameWrite → Prop)
    (wrapper padded : PacketBuilder) : Prop :=
  (∃ ragged, Faithful header params allowed ragged padded ∧
    (ragged = true → 3 ≤ padded.body.length)) ∧ Kept wrapper padded ∧ padded.diff = 0

theorem pad_faithful {wrapper padded : PacketBuilder} (range : InDecoderRange conn params now)
    {settings : QuicConnectionState} (small : wrapper.Counted) (headed : wrapper.header = header)
    (settled : Settled header params (Offered conn cryptoStream header now) wrapper)
    (initial : ∀ longHeader, header = .long longHeader → longHeader.headerType = .initial →
      Faithful header params (Offered conn cryptoStream header now) false wrapper)
    (wrote : pad settings wrapper = .ok padded) :
    Finished header params (Offered conn cryptoStream header now) wrapper padded := by
  have readable := @offeredWhole_readable conn params now cryptoStream header range
  have padding : OfferedWhole conn cryptoStream header now (.frame (.padding 1)) := ⟨trivial,rfl⟩
  have unwrapped : Kept wrapper wrapper.unwrapped := ⟨rfl,rfl,rfl,id⟩
  obtain ⟨ragged,faithful,full⟩ := settled
  have unpadded : Finished header params _ wrapper wrapper.unwrapped :=
    ⟨⟨ragged,faithful,fun last => (full last).2⟩,unwrapped,rfl⟩
  have filled : Faithful header params (Offered conn cryptoStream header now) false wrapper →
      Performs (OfferedWhole conn cryptoStream header now) wrapper.unwrapped padded →
      Finished header params (Offered conn cryptoStream header now) wrapper padded := by
    intro whole performs
    obtain ⟨last,bytes,step⟩ := performs.whole readable small whole
    exact ⟨⟨false,last,nofun⟩,unwrapped.trans step.kept,step.withheld⟩
  unfold pad at wrote
  dsimp only at wrote
  split at wrote
  · cases wrote
    exact unpadded
  · split at wrote
    next longHeader long =>
      split at wrote
      next first =>
        exact filled (initial longHeader (headed.symm.trans long) first)
          (fillWithPadding_performs padding wrote)
      next =>
        cases wrote
        exact unpadded
    next =>
      split at wrote
      next =>
        cases ragged with
        | false => exact filled faithful (writePaddings_performs padding wrote)
        | true =>
          -- A frame without a length field leaves no space to pad.
          rw [(full rfl).1,Nat.zero_mod] at wrote
          cases wrote
          exact unpadded
      next =>
        cases wrote
        exact unpadded

private theorem writeStreams_settled (range : InDecoderRange conn params now) (small : before.Counted)
    (faithful : Faithful header params (Offered conn cryptoStream header now) false before)
    (wrote : scheduler.writeStreams conn before = .ok (next,after,written)) :
    Settled header params (Offered conn cryptoStream header now) written ∧ Kept before written ∧
      after.datagramWriteBuffer = conn.datagramWriteBuffer ∧
      (scheduler.streamFrameScheduler = false →
        Faithful header params (Offered conn cryptoStream header now) false written) := by
  have settled : Settled header params (Offered conn cryptoStream header now) before :=
    ⟨false,faithful,nofun⟩
  rcases writeStreams_cases wrote with ⟨-,rfl,rfl⟩ | ⟨scheduled,nextStreamDsr,streams⟩
  · exact ⟨settled,Kept.refl _,rfl,fun _ => faithful⟩
  · obtain ⟨⟨left,writes⟩,nextStream,queue,rfl⟩ := StreamFrameScheduler.writeStreams_writes streams
    obtain ⟨last,bytes,step⟩ := Performs.settled (StreamFrameScheduler.StreamWrites.performs writes)
      (fun write => offered_readable range) small settled
    exact ⟨last,step.kept,rfl,fun none => absurd (none.symm.trans scheduled) nofun⟩

theorem scheduleFramesForPacket_recorded {limit overhead writableBytes : Nat}
    {largestAcked : PacketNum} {built : BuiltPacket}
    (range : InDecoderRange conn params now) (tag : 16 ≤ overhead)
    (initial : ∀ longHeader, header = .long longHeader → longHeader.headerType = .initial →
      scheduler.streamFrameScheduler = false)
    (scheduled : scheduler.scheduleFramesForPacket conn
      ((PacketBuilder.make limit header largestAcked).accountForCipherOverhead overhead)
      writableBytes now = .ok (next,after,built)) :
    built.packet.header = header ∧
      RecordedOnWire header params (Offered conn (scheduler.cryptoStream conn) header now) built := by
  obtain ⟨encoded,headed,scheduled⟩ := bind_ok.mp scheduled
  obtain ⟨headerBytes,_,scheduled⟩ := bind_ok.mp scheduled
  obtain ⟨control,controlled,scheduled⟩ := bind_ok.mp scheduled
  obtain ⟨⟨streamed,moved,streams⟩,wroteStreams,scheduled⟩ := bind_ok.mp scheduled
  obtain ⟨⟨last,datagrams⟩,wroteDatagrams,scheduled⟩ := bind_ok.mp scheduled
  obtain ⟨padded,wrotePadding,scheduled⟩ := bind_ok.mp scheduled
  obtain ⟨_,wrote,done⟩ := bind_ok.mp scheduled
  cases done
  have start := encodePacketHeader_headed (Nat.mod_lt _ (by decide)) rfl headed
  have named : encoded.header = header := start.header
  have bare : Faithful header params (Offered conn (scheduler.cryptoStream conn) header now) false
      (encoded.limitedTo (writableBytes - headerBytes)) :=
    ⟨[],[],start.frames.symm,nofun,start.body.symm ▸ Body.nil,rfl⟩
  have controls := writeControl_writes controlled
  rw [show (encoded.limitedTo (writableBytes - headerBytes)).header = header from named] at controls
  obtain ⟨controlFaithful,controlKept⟩ := controls.faithful range start.counted bare
  have controlCounted := controlKept.counted start.counted
  obtain ⟨settled,streamsKept,same,whole⟩ :=
    writeStreams_settled range controlCounted controlFaithful wroteStreams
  have streamsCounted := streamsKept.counted controlCounted
  have performs : Performs (OfferedWhole conn (scheduler.cryptoStream conn) header now) streams datagrams :=
    writeDatagrams_performs same wroteDatagrams
  obtain ⟨datagramsSettled,_,step⟩ := (performs.mono fun _ => And.left).settled
    (fun _ => offered_readable range) streamsCounted settled
  have kept : Kept encoded datagrams :=
    @Kept.trans _ _ (encoded.limitedTo (writableBytes - headerBytes)) ⟨rfl,rfl,rfl,id⟩
      (controlKept.trans (streamsKept.trans step.kept))
  have filled : ∀ longHeader, header = .long longHeader → longHeader.headerType = .initial →
      Faithful header params (Offered conn (scheduler.cryptoStream conn) header now) false datagrams :=
    fun longHeader long first => (performs.whole (offeredWhole_readable range) streamsCounted
      (whole (initial longHeader long first))).1
  obtain ⟨⟨ragged,faithful,long⟩,paddedKept,direct⟩ := pad_faithful range (kept.counted start.counted)
    (kept.header.trans named) datagramsSettled filled wrotePadding
  have whole := kept.trans paddedKept
  have numbered : ∀ encoding, padded.packetNumberEncoding = some encoding → 1 ≤ encoding.length := by
    rw [whole.encoding]
    exact start.numbered
  have overhead := whole.overhead.trans start.overhead
  obtain ⟨same,recorded⟩ := faithful.built long (whole.counted start.counted) direct
    (overhead ▸ tag) numbered wrote
  exact ⟨same.trans (whole.header.trans named),recorded⟩

end FrameScheduler

end StreamServer.Api
