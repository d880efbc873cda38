import StreamServer.Api.PacketContents
import StreamServer.Api.PacketRebuilder

/-! The clone of a packet records what its receiver reads, like any other packet: only its
last frame can lack a length, and then neither an ACK nor padding follows. -/
namespace StreamServer.Api
open Protocol State FlowControl Codec Lib.Transition PacketRebuilder

variable {write : FrameWrite} {packet : OutstandingPacket} {rebuilt builder : PacketBuilder}
  {writableBytes cipherOverhead : Nat} {frame : QuicWriteFrame} {list : List QuicWriteFrame}
  {built : BuiltPacket}

/-- A use of a writer for the clone of a packet with these frames. -/
def OfferedClone (conn : QuicConnectionState) (cryptoStream : QuicCryptoStream)
    (frames : List QuicWriteFrame) (header : PacketHeader) (now : TimePoint) : FrameWrite → Prop
  | .frame control => control ∈ frames ∨ control = .maxData (generateMaxDataFrame conn) ∨
      (∃ key stream, conn.findStream key = some stream ∧
        control = .maxStreamData stream.id (generateMaxStreamDataFrame stream)) ∨
      control = .padding 1
  | .simple control => .simple control ∈ frames
  | .stream id offset source _ fin _ streamGroupId => ∃ frame stream, .stream frame ∈ frames ∧
      conn.findStream id = some stream ∧ source = (cloneRetransmissionBuffer frame stream).getD [] ∧
      id = frame.streamId ∧ offset = frame.offset ∧ fin = frame.fin ∧ streamGroupId = frame.streamGroupId
  | .crypto offset source => ∃ frame, .crypto frame ∈ frames ∧ offset = frame.offset ∧
      cloneCryptoRetransmissionBuffer frame cryptoStream = some source
  | .ack metaData => ∃ space,
      AckScheduler.ackMetaData conn (conn.ackStates space) header now = .ok metaData

def CloneOf (conn : QuicConnectionState) (packet : OutstandingPacket) (header : PacketHeader)
    (now : TimePoint) : FrameWrite → Prop :=
  OfferedClone conn (getCryptoStream conn.cryptoState
    (protectionTypeToEncryptionLevel packet.packet.header.getProtectionType)) packet.packet.frames header now

/-- A write without a length for its frame has data for it. -/
def Substantial : FrameWrite → Prop
  | .stream _ _ source _ _ _ _ => source ≠ []
  | _ => True

/-- The frames of the outstanding packets are those the connection had queued within the ranges of
the decoder, and stream data is not sent at the first encryption level. -/
structure CloneInDecoderRange (conn : QuicConnectionState) (params : CodecParameters) (now : TimePoint) :
    Prop extends InDecoderRange conn params now where
  sent : ∀ packet ∈ conn.outstandings.packets, ∀ frame ∈ packet.packet.frames, inRange frame
  sentUngrouped : ∀ packet ∈ conn.outstandings.packets, ∀ frame,
    .stream frame ∈ packet.packet.frames → frame.streamGroupId = none
  early : ∀ packet ∈ conn.outstandings.packets, packet.packet.header.getProtectionType = .initial →
    ∀ frame, .stream frame ∉ packet.packet.frames

variable {conn : QuicConnectionState} {params : CodecParameters} {now : TimePoint}
  {cryptoStream : QuicCryptoStream} {header : PacketHeader} {frames : List QuicWriteFrame}
  {hasAckFrame lastFrame : Bool}

theorem offeredClone_readable (range : InDecoderRange conn params now)
    (sent : ∀ frame ∈ frames, inRange frame)
    (ungrouped : ∀ frame, .stream frame ∈ frames → frame.streamGroupId = none)
    (offered : OfferedClone conn cryptoStream frames header now write) : write.Readable header params := by
  cases write with
  | frame control =>
    rcases offered with inside | rfl | ⟨_,_,-,rfl⟩ | rfl
    · exact sent control inside
    all_goals rfl
  | simple control => exact sent _ offered
  | stream id offset source flowControlLen fin skipLenHint streamGroupId =>
    obtain ⟨frame,stream,inside,-,-,-,-,-,rfl⟩ := offered
    exact ungrouped frame inside
  | crypto offset source => trivial
  | ack metaData =>
    obtain ⟨space,gathered⟩ := offered
    exact ackMetaData_readable range gathered

/-- One frame of the clone: nothing is written for it, or one write that says where it ends unless
it is the last one. -/
def Rebuilt (allowed : FrameWrite → Prop) (ragged : Bool) (before after : PacketBuilder) : Prop :=
  after = before ∨ ∃ write, allowed write ∧
    (write.delimited = true ∨ ragged = true ∧ Substantial write) ∧ write.perform before = .ok after

variable {allowed : FrameWrite → Prop} {rebuild next : Rebuild} {ragged : Bool}

private theorem rebuildControl_rebuilt {note : Bool → Rebuild → Rebuild}
    (done : rebuildControl frame note rebuild = .ok next) (chosen : allowed (.frame frame))
    (same : ∀ written, (note written rebuild).shouldRebuildWriteAckFrame =
      rebuild.shouldRebuildWriteAckFrame) :
    Rebuilt allowed ragged rebuild.builder next.builder ∧
      next.shouldRebuildWriteAckFrame = rebuild.shouldRebuildWriteAckFrame := by
  obtain ⟨⟨wrote,builder⟩,written,done⟩ := bind_ok.mp done
  obtain ⟨⟨bytes,_⟩,first,reported⟩ := bind_ok.mp written
  cases reported
  cases done
  exact ⟨.inr ⟨.frame frame,chosen,.inl rfl,by rw [FrameWrite.perform,first]; rfl⟩,same _⟩

/-- The write of a cloned stream frame, all of whose data is offered. -/
def streamClone (hasAckFrame lastFrame : Bool) (frame : WriteStreamFrame) (stream : QuicStreamState) :
    FrameWrite :=
  let source := (cloneRetransmissionBuffer frame stream).getD []
  .stream frame.streamId frame.offset source source.length frame.fin
    (some (lastFrame && source.length != 0 && !hasAckFrame)) frame.streamGroupId

private theorem streamClone_delimited (frame : WriteStreamFrame) (stream : QuicStreamState) :
    (streamClone hasAckFrame lastFrame frame stream).delimited = true ∨
      (lastFrame && !hasAckFrame) = true ∧ Substantial (streamClone hasAckFrame lastFrame frame stream) := by
  simp only [streamClone,FrameWrite.delimited,Substantial,beq_iff_eq,Option.some.injEq]
  cases (cloneRetransmissionBuffer frame stream).getD [] with
  | nil => simp
  | cons first rest => cases lastFrame <;> cases hasAckFrame <;> simp

private theorem rebuildStream_rebuilt {frame : WriteStreamFrame} (inside : .stream frame ∈ frames)
    (done : rebuildStream conn hasAckFrame lastFrame frame rebuild = .ok next)
    (success : next.writeSuccess = true) :
    Rebuilt (OfferedClone conn cryptoStream frames header now) (lastFrame && !hasAckFrame)
      rebuild.builder next.builder ∧
      next.shouldRebuildWriteAckFrame = rebuild.shouldRebuildWriteAckFrame := by
  unfold rebuildStream at done
  split at done
  · cases done
    exact ⟨.inl rfl,rfl⟩
  next stream found =>
    obtain ⟨found,-⟩ := Option.filter_eq_some_iff.mp found
    obtain ⟨⟨dataLen,begun⟩,headed,done⟩ := bind_ok.mp done
    dsimp only at done
    split at done
    next same =>
      obtain ⟨builder,wrote,done⟩ := bind_ok.mp done
      cases done
      subst same
      have performed : (streamClone hasAckFrame lastFrame frame stream).perform rebuild.builder =
          .ok builder := by
        simp only [streamClone,FrameWrite.perform,writeStreamFrame,bind,Except.bind,headed,wrote]
        rfl
      have offered : OfferedClone conn cryptoStream frames header now
          (streamClone hasAckFrame lastFrame frame stream) :=
        ⟨frame,stream,inside,found,rfl,rfl,rfl,rfl,rfl⟩
      exact ⟨.inr ⟨_,offered,streamClone_delimited frame stream,performed⟩,rfl⟩
    next =>
      cases done
      cases success

private theorem updateSimpleFrameOnPacketClone_same {frame updated : QuicSimpleFrame}
    (kept : updateSimpleFrameOnPacketClone conn frame = some updated) : updated = frame := by
  unfold updateSimpleFrameOnPacketClone at kept
  split at kept
  · split at kept
    · cases kept
      rfl
    · cases kept
  · split at kept
    · cases kept
      rfl
    · cases kept
  · cases kept
    rfl

private theorem rebuildFrame_rebuilt (inside : frame ∈ frames)
    (done : rebuildFrame conn cryptoStream hasAckFrame lastFrame frame rebuild = .ok next)
    (success : (isAck frame || next.writeSuccess) = true) :
    Rebuilt (OfferedClone conn cryptoStream frames header now) (lastFrame && !hasAckFrame)
      rebuild.builder next.builder ∧
      (isAck frame = true ∨ next.shouldRebuildWriteAckFrame = rebuild.shouldRebuildWriteAckFrame) := by
  cases frame with
  | ack frame =>
    cases done
    exact ⟨.inl rfl,.inl rfl⟩
  | stream frame => exact (rebuildStream_rebuilt inside done success).imp_right .inr
  | crypto frame =>
    unfold rebuildFrame rebuildCrypto at done
    dsimp only at done
    split at done
    · cases done
      exact ⟨.inl rfl,.inr rfl⟩
    next source found =>
      obtain ⟨⟨result,builder⟩,wrote,done⟩ := bind_ok.mp done
      cases done
      exact ⟨.inr ⟨.crypto frame.offset source,⟨frame,inside,rfl,found⟩,.inl rfl,
        by rw [FrameWrite.perform,wrote]; rfl⟩,.inr rfl⟩
  | maxData limit =>
    simp only [rebuildFrame,rebuildWindowUpdate] at done
    exact (rebuildControl_rebuilt done (.inr (.inl rfl)) fun _ => rfl).imp_right .inr
  | maxStreamData id limit =>
    unfold rebuildFrame rebuildMaxStreamData at done
    dsimp only at done
    split at done
    · cases done
      exact ⟨.inl rfl,.inr rfl⟩
    next stream found =>
      obtain ⟨found,-⟩ := Option.filter_eq_some_iff.mp found
      exact (rebuildControl_rebuilt done (.inr (.inr (.inl ⟨id,stream,found,rfl⟩)))
        fun _ => rfl).imp_right .inr
  | simple frame =>
    unfold rebuildFrame rebuildSimple at done
    dsimp only at done
    split at done
    · cases done
      exact ⟨.inl rfl,.inr rfl⟩
    next updated kept =>
      cases updateSimpleFrameOnPacketClone_same kept
      obtain ⟨⟨wrote,builder⟩,written,done⟩ := bind_ok.mp done
      obtain ⟨⟨bytes,_⟩,first,same⟩ := bind_ok.mp written
      cases same
      cases done
      exact ⟨.inr ⟨.simple frame,inside,.inl rfl,by rw [FrameWrite.perform,first]; rfl⟩,.inr rfl⟩
  | datagram length data =>
    cases done
    exact ⟨.inl rfl,.inr rfl⟩
  | _ =>
    simp only [rebuildFrame,rebuildPlain,rebuildOther] at done
    exact (rebuildControl_rebuilt done (.inl inside) fun _ => rfl).imp_right .inr

private theorem Yields.nonempty {recorded : QuicWriteFrame} {data : Bytes}
    (yields : write.Yields recorded data) (substantial : Substantial write)
    (undelimited : write.delimited = false) : data ≠ [] := by
  cases write with
  | stream id offset source flowControlLen fin skipLenHint streamGroupId =>
    obtain ⟨-,shouldSetFin,-,whole,something | sets⟩ := yields
    · exact something
    · exact (whole sets).2 ▸ substantial
  | _ => cases undelimited

private theorem Rebuilt.faithful {before after : PacketBuilder} (rebuilt : Rebuilt allowed ragged before after)
    (readable : ∀ write, allowed write → write.Readable header params) (small : before.Counted)
    (faithful : Faithful header params allowed false before) :
    (∃ open', Faithful header params allowed open' after ∧ (open' = true → ragged = true ∧
      3 ≤ after.body.length ∧ ∃ write, allowed write ∧ write.delimited = false)) ∧
      ∃ bytes, Extends before after bytes := by
  rcases rebuilt with rfl | ⟨write,chosen,ends,performed⟩
  · exact ⟨⟨false,faithful,nofun⟩,[],Extends.refl _⟩
  · rcases FrameWrite.perform_added small (readable write chosen) performed with rfl |
      ⟨recorded,data,bytes,open',step⟩
    · exact ⟨⟨false,faithful,nofun⟩,[],Extends.refl _⟩
    · refine ⟨⟨open',faithful.added chosen step,fun lacks => ?_⟩,bytes,step.extends'⟩
      have undelimited := (step.last lacks).1
      rcases ends with delimited | ⟨last,substantial⟩
      · exact absurd (undelimited.symm.trans delimited) nofun
      · refine ⟨last,?_,write,chosen,undelimited⟩
        have something : data ≠ [] := Yields.nonempty step.yields substantial undelimited
        have sized := step.sized lacks
        have := List.length_pos_iff.mpr something
        rw [step.extends'.body,List.length_append]
        omega

private theorem offeredClone_stream
    (offered : OfferedClone conn cryptoStream frames header now write)
    (undelimited : write.delimited = false) : ∃ frame, .stream frame ∈ frames := by
  cases write with
  | stream id offset source flowControlLen fin skipLenHint streamGroupId =>
    obtain ⟨frame,-,inside,-⟩ := offered
    exact ⟨frame,inside⟩
  | _ => cases undelimited

private theorem rebuildFrames_faithful (readable : ∀ write,
      OfferedClone conn cryptoStream frames header now write → write.Readable header params)
    (inside : ∀ frame ∈ list, frame ∈ frames) {rebuild last : Rebuild}
    (done : rebuildFrames conn cryptoStream hasAckFrame list rebuild = .ok (some last))
    (small : rebuild.builder.Counted)
    (faithful : Faithful header params (OfferedClone conn cryptoStream frames header now) false
      rebuild.builder) :
    (∃ ragged, Faithful header params (OfferedClone conn cryptoStream frames header now) ragged last.builder ∧
      (ragged = true → 3 ≤ last.builder.body.length ∧ hasAckFrame = false ∧
        ∃ frame, .stream frame ∈ frames)) ∧
      (∃ bytes, Extends rebuild.builder last.builder bytes) ∧
      (last.shouldRebuildWriteAckFrame = true →
        rebuild.shouldRebuildWriteAckFrame = true ∨ list.any isAck = true) := by
  induction list generalizing rebuild with
  | nil =>
    cases done
    exact ⟨⟨false,faithful,nofun⟩,⟨[],Extends.refl _⟩,.inl⟩
  | cons frame rest ih =>
    obtain ⟨next,first,done⟩ := bind_ok.mp done
    split at done
    next success =>
      obtain ⟨rebuilt,flag⟩ := rebuildFrame_rebuilt (inside frame (List.mem_cons_self ..)) first success
      obtain ⟨⟨ragged,whole,ends⟩,bytes,step⟩ := rebuilt.faithful readable small faithful
      have asked : next.shouldRebuildWriteAckFrame = true →
          rebuild.shouldRebuildWriteAckFrame = true ∨ (frame :: rest).any isAck = true := by
        intro puts
        rw [List.any_cons,Bool.or_eq_true]
        rcases flag with here | same
        · exact .inr (.inl here)
        · exact .inl (same ▸ puts)
      cases ragged with
      | true =>
        obtain ⟨last,long,write,offered,undelimited⟩ := ends rfl
        rw [Bool.and_eq_true,List.isEmpty_iff,Bool.not_eq_true'] at last
        obtain ⟨rfl,unacked⟩ := last
        cases done
        exact ⟨⟨true,whole,fun _ => ⟨long,unacked,offeredClone_stream offered undelimited⟩⟩,
          ⟨bytes,step⟩,asked⟩
      | false =>
        obtain ⟨others,⟨more,wrote⟩,later⟩ :=
          ih (fun frame here => inside frame (List.mem_cons_of_mem _ here)) done (step.counted small) whole
        refine ⟨others,⟨_,step.trans wrote⟩,fun puts => ?_⟩
        rcases later puts with early | here
        · exact asked early
        · exact .inr (by rw [List.any_cons,here,Bool.or_true])
    next => cases done

theorem rebuildFromPacket_faithful
    (readable : ∀ write, CloneOf conn packet header now write → write.Readable header params)
    (early : packet.packet.header.getProtectionType = .initial →
      ∀ frame, .stream frame ∉ packet.packet.frames) (small : builder.Counted)
    (named : builder.header = header)
    (faithful : Faithful header params (CloneOf conn packet header now) false builder)
    (done : rebuildFromPacket conn packet now builder = .ok (some rebuilt)) :
    (∃ ragged, Faithful header params (CloneOf conn packet header now) ragged rebuilt ∧
      (ragged = true → 3 ≤ rebuilt.body.length)) ∧ ∃ bytes, Extends builder rebuilt bytes := by
  obtain ⟨_ | rebuild,loop,done⟩ := bind_ok.mp done
  · cases done
  obtain ⟨acked,acks,done⟩ := bind_ok.mp done
  obtain ⟨⟨ragged,whole,ends⟩,⟨bytes,step⟩,asked⟩ :=
    rebuildFrames_faithful readable (fun _ => id) loop small faithful
  obtain ⟨⟨open',ackedWhole,ackedEnds⟩,more,ackStep⟩ :
      (∃ ragged, Faithful header params (CloneOf conn packet header now) ragged acked ∧
        (ragged = true → 3 ≤ acked.body.length ∧ ∃ frame, .stream frame ∈ packet.packet.frames)) ∧
        ∃ bytes, Extends rebuild.builder acked bytes := by
    unfold rebuildAck at acks
    split at acks
    next puts =>
      have hasAck := (asked puts).resolve_left nofun
      cases ragged with
      | true => exact absurd (hasAck.symm.trans (ends rfl).2.1) nofun
      | false =>
        obtain ⟨metaData,gathered,performed⟩ := writeNextAcks_ack acks
        rw [step.header,named] at gathered
        have allowed : CloneOf conn packet header now (.ack metaData) := ⟨_,gathered⟩
        have performs : Performs (· = .ack metaData) rebuild.builder acked := .single rfl performed
        obtain ⟨last,wrote⟩ := performs.whole
          (fun write same => same ▸ ⟨allowed,readable _ allowed,rfl⟩) (step.counted small) whole
        exact ⟨⟨false,last,nofun⟩,wrote⟩
    next =>
      cases acks
      exact ⟨⟨ragged,whole,fun lacks => ⟨(ends lacks).1,(ends lacks).2.2⟩⟩,[],Extends.refl _⟩
  have total := step.trans ackStep
  split at done
  · cases done
  · split at done
    next initial =>
      obtain ⟨_,padding,done⟩ := bind_ok.mp done
      cases done
      have first : packet.packet.header.getProtectionType = .initial := by
        revert initial
        cases packet.packet.header.getProtectionType <;> decide
      have unragged : open' = false := by
        cases open' with
        | false => rfl
        | true =>
          obtain ⟨frame,inside⟩ := (ackedEnds rfl).2
          exact absurd inside (early first frame)
      subst unragged
      have allowed : CloneOf conn packet header now (.frame (.padding 1)) := .inr (.inr (.inr rfl))
      have performs : Performs (· = .frame (.padding 1)) acked rebuilt := fillWithPadding_performs rfl padding
      obtain ⟨last,_,wrote⟩ := performs.whole
        (fun write same => same ▸ ⟨allowed,readable _ allowed,rfl⟩) (total.counted small) ackedWhole
      exact ⟨⟨false,last,nofun⟩,_,total.trans wrote⟩
    next =>
      cases done
      exact ⟨⟨open',ackedWhole,fun lacks => (ackedEnds lacks).1⟩,_,total⟩

namespace CloningScheduler

/-- The builder holds a clone of the packet, rebuilt behind a new header. -/
structure ClonedFrom (conn : QuicConnectionState) (header : PacketHeader)
    (writableBytes cipherOverhead : Nat) (now : TimePoint) (packet : OutstandingPacket)
    (rebuilt : PacketBuilder) : Prop where
  chosen : cloneable conn.outstandings header.getPacketNumberSpace writableBytes cipherOverhead packet = true
  rebuilds : ∃ encoded, ((PacketBuilder.make conn.udpSendPacketLen header
      ((conn.ackStates header.getPacketNumberSpace).largestAckedByPeer.getD 0)
      conn.transportSettings.dataPathType).accountForCipherOverhead
        cipherOverhead).encodePacketHeader = .ok encoded ∧
    rebuildFromPacket conn packet now encoded = .ok (some rebuilt)

theorem findClone_found
    {before packets front rest : List OutstandingPacket}
    (found : findClone conn header writableBytes cipherOverhead now before packets =
      .ok (some (front,packet,rest,rebuilt))) :
    front ++ packet :: rest = before ++ packets ∧ packet ∈ packets ∧
      ClonedFrom conn header writableBytes cipherOverhead now packet rebuilt := by
  induction packets generalizing before with
  | nil => cases found
  | cons first others ih =>
    have later (more : findClone conn header writableBytes cipherOverhead now (before ++ [first]) others =
        .ok (some (front,packet,rest,rebuilt))) :
        front ++ packet :: rest = before ++ first :: others ∧ packet ∈ first :: others ∧
          ClonedFrom conn header writableBytes cipherOverhead now packet rebuilt := by
      obtain ⟨same,inside,cloned⟩ := ih more
      rw [List.append_assoc,List.singleton_append] at same
      exact ⟨same,List.mem_cons_of_mem _ inside,cloned⟩
    unfold findClone at found
    dsimp only at found
    split at found
    next chosen =>
      obtain ⟨encoded,headed,found⟩ := bind_ok.mp found
      obtain ⟨_ | clone,built,found⟩ := bind_ok.mp found
      · exact later found
      · cases found
        exact ⟨rfl,List.mem_cons_self ..,chosen,encoded,headed,built⟩
    next => exact later found

theorem clone_recorded (range : CloneInDecoderRange conn params now) (tag : 16 ≤ cipherOverhead)
    (inside : packet ∈ conn.outstandings.packets)
    (cloned : ClonedFrom conn header writableBytes cipherOverhead now packet rebuilt)
    (done : rebuilt.buildPacket = .ok built) :
    built.packet.header = header ∧ RecordedOnWire header params (CloneOf conn packet header now) built := by
  obtain ⟨-,encoded,headed,rebuilds⟩ := cloned
  have start := encodePacketHeader_headed (Nat.mod_lt _ (by decide)) rfl headed
  have bare : Faithful header params (CloneOf conn packet header now) false encoded :=
    ⟨[],[],start.frames.symm,nofun,start.body.symm ▸ Body.nil,rfl⟩
  obtain ⟨⟨ragged,faithful,long⟩,bytes,step⟩ := rebuildFromPacket_faithful
    (fun _ => offeredClone_readable range.toInDecoderRange (range.sent packet inside)
      (range.sentUngrouped packet inside))
    (range.early packet inside) start.counted start.header bare rebuilds
  have numbered : ∀ encoding, rebuilt.packetNumberEncoding = some encoding → 1 ≤ encoding.length := by
    rw [step.encoding]
    exact start.numbered
  have overhead : rebuilt.cipherOverhead = cipherOverhead := step.overhead.trans start.overhead
  obtain ⟨same,recorded⟩ := faithful.built long (step.counted start.counted)
    (step.withheld.trans start.withheld) (overhead ▸ tag) numbered done
  exact ⟨same.trans (step.header.trans start.header),recorded⟩

variable {scheduler next : FrameScheduler} {after : QuicConnectionState} {result : SchedulingResult}

theorem scheduleFramesForPacket_recorded {limit : Nat} {largestAcked : PacketNum}
    (range : CloneInDecoderRange conn params now) (tag : 16 ≤ cipherOverhead)
    (initial : ∀ longHeader, header = .long longHeader → longHeader.headerType = .initial →
      scheduler.streamFrameScheduler = false)
    (scheduled : scheduleFramesForPacket scheduler cipherOverhead conn
      ((PacketBuilder.make limit header largestAcked).accountForCipherOverhead cipherOverhead)
      writableBytes now = .ok (next,after,result)) (sent : result.packet = some built) :
    built.packet.header = header ∧
      ((result.packetEvent = none ∧
          RecordedOnWire header params (Offered conn (scheduler.cryptoStream conn) header now) built) ∨
        ∃ packet ∈ conn.outstandings.packets, result.packetEvent.isSome ∧
          RecordedOnWire header params (CloneOf conn packet header now) built) := by
  unfold scheduleFramesForPacket at scheduled
  split at scheduled
  · obtain ⟨⟨_,_,_⟩,wrote,done⟩ := bind_ok.mp scheduled
    cases done
    cases sent
    obtain ⟨same,recorded⟩ :=
      FrameScheduler.scheduleFramesForPacket_recorded range.toInDecoderRange tag initial wrote
    exact ⟨same,.inl ⟨rfl,recorded⟩⟩
  · obtain ⟨_ | ⟨front,packet,rest,rebuilt⟩,found,scheduled⟩ := bind_ok.mp scheduled
    · cases scheduled
      cases sent
    · obtain ⟨_,wrote,done⟩ := bind_ok.mp scheduled
      cases done
      cases sent
      obtain ⟨-,inside,cloned⟩ := findClone_found found
      obtain ⟨same,recorded⟩ := clone_recorded range tag inside cloned wrote
      exact ⟨same,.inr ⟨packet,inside,rfl,recorded⟩⟩

end CloningScheduler

/-- What a writer reports is what it has appended, within the space there was; a writer that reports
nothing has appended nothing. -/
structure WritersExact : Prop where
  control : ∀ frame before size after, PacketBuilder.Counted before → inRange frame →
    writeFrame frame before = .ok (size,after) →
    size = 0 ∧ after = before ∨ ∃ bytes, bytes.length = size ∧ Extends before after bytes
  simple : ∀ frame before size after, PacketBuilder.Counted before → simpleInRange frame →
    writeSimpleFrame frame before = .ok (size,after) →
    size = 0 ∧ after = before ∨ ∃ bytes, bytes.length = size ∧ Extends before after bytes
  stream : ∀ before id offset data flowControlLen fin skipLenHint streamGroupId result after,
    PacketBuilder.Counted before →
    writeStreamFrame before id offset data flowControlLen fin skipLenHint streamGroupId =
      .ok (result,after) →
    result = none ∧ after = before ∨ ∃ dataLen headerBytes, result = some dataLen ∧
      dataLen ≤ data.length ∧ Extends before after (headerBytes ++ data.take dataLen)
  crypto : ∀ offset data before result after, PacketBuilder.Counted before →
    writeCryptoFrame offset data before = .ok (result,after) →
    result = none ∧ after = before ∨ ∃ len headerBytes, result = some ⟨offset,len⟩ ∧
      len ≤ data.length ∧ Extends before after (headerBytes ++ data.take len)
  ack : ∀ metaData before result after, PacketBuilder.Counted before →
    writeAckFrame metaData before = .ok (result,after) →
    result = none ∧ after = before ∨ ∃ frame bytes, result = some (bytes.length,frame) ∧
      Extends before after bytes

private theorem cryptoFields_split {offset len : Nat} {data bytes : Bytes}
    (encoded : encodeFields (cryptoFields offset len data) = .ok bytes) :
    ∃ headerBytes, bytes = headerBytes ++ data.take len := by
  obtain ⟨typeBytes,_,-,fields,rfl⟩ := encodeFields_cons.mp encoded
  obtain ⟨offsetBytes,_,-,rest,rfl⟩ := encodeFields_cons.mp fields
  obtain ⟨lenBytes,_,-,last,rfl⟩ := encodeFields_cons.mp rest
  obtain ⟨front,_,taken,done,rfl⟩ := encodeFields_cons.mp last
  cases done
  simp only [Field.encode] at taken
  split at taken
  · cases taken
  · cases taken
    exact ⟨typeBytes ++ offsetBytes ++ lenBytes,by simp only [List.append_assoc,List.append_nil]⟩

theorem writersExact : WritersExact := by
  constructor
  case control =>
    intro frame before size after small range written
    rcases writeFrame_cases small (inRange_wholeBlob range) written with none |
      ⟨fields,bytes,-,-,length,step,-⟩
    · exact .inl none
    · exact .inr ⟨bytes,length,step⟩
  case simple =>
    intro frame before size after small range written
    rcases writeSimpleFrame_cases small (simpleInRange_wholeBlob range) written with none |
      ⟨bytes,-,length,step,-⟩
    · exact .inl none
    · exact .inr ⟨bytes,length,step⟩
  case stream =>
    intro before id offset data flowControlLen fin skipLenHint streamGroupId result after small written
    rcases writeStreamFrame_cases small written with none |
      ⟨dataLen,_,_,bytes,same,-,fit,step,-⟩
    · exact .inl none
    · exact .inr ⟨dataLen,bytes,same,fit.buffered,step⟩
  case crypto =>
    intro offset data before result after small written
    rcases writeCryptoFrame_cases small written with none | ⟨len,bytes,same,enough,encoded,step,-⟩
    · exact .inl none
    · obtain ⟨headerBytes,rfl⟩ := cryptoFields_split encoded
      exact .inr ⟨len,headerBytes,same,enough,step⟩
  case ack =>
    intro metaData before result after small written
    rcases writeAckFrame_cases small written with none | ⟨_,_,_,_,bytes,-,-,-,-,same,-,step,-⟩
    · exact .inl none
    · exact .inr ⟨_,bytes,same,step⟩

/-- What is recorded is what is on the wire, for the packets of either scheduler, apart from the
padding that a body of at most three bytes gets to be sampled. -/
theorem recorded_frames_on_wire {scheduler : FrameScheduler} {cipherOverhead : Nat}
    (range : CloneInDecoderRange conn params now) (tag : 16 ≤ cipherOverhead)
    (initial : ∀ longHeader, header = .long longHeader → longHeader.headerType = .initial →
      scheduler.streamFrameScheduler = false) :
    (∀ limit largestAcked writableBytes next after built,
      scheduler.scheduleFramesForPacket conn
        ((PacketBuilder.make limit header largestAcked).accountForCipherOverhead cipherOverhead)
        writableBytes now = .ok (next,after,built) →
      built.packet.header = header ∧
        RecordedOnWire header params (Offered conn (scheduler.cryptoStream conn) header now) built) ∧
    (∀ limit largestAcked writableBytes next after result built,
      CloningScheduler.scheduleFramesForPacket scheduler cipherOverhead conn
        ((PacketBuilder.make limit header largestAcked).accountForCipherOverhead cipherOverhead)
        writableBytes now = .ok (next,after,result) → result.packet = some built →
      built.packet.header = header ∧
        ((result.packetEvent = none ∧
            RecordedOnWire header params (Offered conn (scheduler.cryptoStream conn) header now) built) ∨
          ∃ packet ∈ conn.outstandings.packets, result.packetEvent.isSome ∧
            RecordedOnWire header params (CloneOf conn packet header now) built)) ∧
    WritersExact := by
  refine ⟨?_,?_,writersExact⟩
  · intro limit largestAcked writableBytes next after built scheduled
    exact FrameScheduler.scheduleFramesForPacket_recorded range.toInDecoderRange tag initial scheduled
  · intro limit largestAcked writableBytes next after result built scheduled sent
    exact CloningScheduler.scheduleFramesForPacket_recorded range tag initial scheduled sent

/-- A client that has only a PING to send, and no padding policy. -/
def pingConn : QuicConnectionState :=
  {nodeType := .client
   transportSettings := {paddingModulo := 0}
   pendingEvents := {sendPing := true}}

def pingScheduler : FrameScheduler :=
  {encryptionLevel := .appData, packetNumberSpace := .appData, pingFrameScheduler := true}

def shortHeaderZero : PacketHeader := .short ⟨.zero,.empty,0⟩

def pingPacket : BuiltPacket := ⟨⟨shortHeaderZero,[.ping]⟩,[0x40,0x00],[0x01,0x00,0x00]⟩

private theorem ping_scheduled : ∃ next after, pingScheduler.scheduleFramesForPacket pingConn
    ((PacketBuilder.make 1252 shortHeaderZero 0).accountForCipherOverhead 16) 1252 0 =
      .ok (next,after,pingPacket) :=
  ⟨_,_,rfl⟩

theorem lone_ping_unrecorded_padding :
    (∃ next after, pingScheduler.scheduleFramesForPacket pingConn
      ((PacketBuilder.make 1252 shortHeaderZero 0).accountForCipherOverhead 16) 1252 0 =
        .ok (next,after,pingPacket)) ∧
    pingPacket.packet.frames = [.ping] ∧
    decodeRegularPacket shortHeaderZero {} pingPacket.body = .ok [.ping,.padding 1] :=
  ⟨ping_scheduled,rfl,rfl⟩

/-- Two packets are waited for; the first one's stream is gone. -/
private def sentTwice (pendingEvents : PendingEvents) : QuicConnectionState :=
  let sent (number : PacketNum) (frames : List QuicWriteFrame) : OutstandingPacket :=
    {packet := ⟨.short ⟨.zero,.empty,number⟩,frames⟩, metadata := ⟨0,30,25,false,0,0,1,0,0,none,none⟩}
  {pingConn with
   pendingEvents
   outstandings := {packets := [sent 0 [.maxStreamData 8 500],
     sent 1 [.ping,.simple (.maxStreams 7 true)]]}}

private def queuedFrames : PendingEvents :=
  {sendPing := true, frames := [.maxStreams 9 true,.handshakeDone,.retireConnectionId 3]}

private def controlScheduler : FrameScheduler := {pingScheduler with simpleFrameScheduler := true}

private theorem sentTwice_range {pendingEvents : PendingEvents} (resets : pendingEvents.resets = ∅)
    (unchallenged : pendingEvents.pathChallenge = none)
    (frames : ∀ frame ∈ pendingEvents.frames, simpleInRange frame) :
    CloneInDecoderRange (sentTwice pendingEvents) {} 0 :=
  {resets := fun entry inside => by
     have none : entry ∈ pendingEvents.resets.entries := inside
     rw [resets] at none
     cases none
   pathChallenge := fun _ some => by cases unchallenged.symm.trans some
   frames
   ungrouped := fun key stream found => by cases (show none = some stream from found)
   exponent := (by decide : 1 ≤ pingConn.transportSettings.ackDelayExponent ∧
     pingConn.transportSettings.ackDelayExponent ≤ 20)
   agreed := rfl
   clock := fun _ _ none => by cases none
   sent := by simp [sentTwice,inRange,simpleInRange,Codec.kMaxMaxStreams]
   sentUngrouped := by simp [sentTwice]
   early := by simp [sentTwice]}

/-- The queued frames are written; with nothing queued the second packet is cloned. -/
theorem recorded_frames_on_wire_clone :
    (∃ next after built, controlScheduler.scheduleFramesForPacket (sentTwice queuedFrames)
        ((PacketBuilder.make 1252 shortHeaderZero 0).accountForCipherOverhead 16) 1252 0 =
          .ok (next,after,built) ∧
      built.packet.frames = [.simple (.maxStreams 9 true),.simple .handshakeDone,
        .simple (.retireConnectionId 3),.ping] ∧
      RecordedOnWire shortHeaderZero {} (Offered (sentTwice queuedFrames)
        (controlScheduler.cryptoStream (sentTwice queuedFrames)) shortHeaderZero 0) built) ∧
    ∃ next after event built, CloningScheduler.scheduleFramesForPacket controlScheduler 16
        (sentTwice {}) ((PacketBuilder.make 1252 shortHeaderZero 0).accountForCipherOverhead 16)
        1252 0 = .ok (next,after,⟨some event,some built⟩) ∧
      built.packet.frames = [.ping,.simple (.maxStreams 7 true)] ∧
      ∃ packet ∈ (sentTwice {}).outstandings.packets,
        RecordedOnWire shortHeaderZero {} (CloneOf (sentTwice {}) packet shortHeaderZero 0) built := by
  have queued := @sentTwice_range queuedFrames rfl rfl 
    (by simp [queuedFrames,simpleInRange,Codec.kMaxMaxStreams])
  have idle := @sentTwice_range {} rfl rfl fun _ none => by cases none
  constructor
  · obtain ⟨next,after,built,scheduled,frames⟩ : ∃ next after built,
        controlScheduler.scheduleFramesForPacket (sentTwice queuedFrames)
          ((PacketBuilder.make 1252 shortHeaderZero 0).accountForCipherOverhead 16) 1252 0 =
            .ok (next,after,built) ∧
        built.packet.frames = [.simple (.maxStreams 9 true),.simple .handshakeDone,
          .simple (.retireConnectionId 3),.ping] := ⟨_,_,_,rfl,rfl⟩
    exact ⟨next,after,built,scheduled,frames,((recorded_frames_on_wire queued (Nat.le_refl 16)
      (fun _ long => by cases long)).1 1252 0 1252 next after built scheduled).2⟩
  · obtain ⟨next,after,event,built,scheduled,frames⟩ : ∃ next after event built,
        CloningScheduler.scheduleFramesForPacket controlScheduler 16 (sentTwice {})
          ((PacketBuilder.make 1252 shortHeaderZero 0).accountForCipherOverhead 16) 1252 0 =
            .ok (next,after,⟨some event,some built⟩) ∧
        built.packet.frames = [.ping,.simple (.maxStreams 7 true)] := ⟨_,_,_,_,rfl,rfl⟩
    obtain ⟨-,⟨none,-⟩ | ⟨packet,inside,-,recorded⟩⟩ := (recorded_frames_on_wire idle (Nat.le_refl 16)
      (fun _ long => by cases long)).2.1 1252 0 1252 next after _ built scheduled rfl
    · cases none
    · exact ⟨next,after,event,built,scheduled,frames,packet,inside,recorded⟩

end StreamServer.Api
