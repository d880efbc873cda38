import StreamServer.Api.Scheduler
import StreamServer.Codec.RecordedFrames

/-! What the schedulers write: every packet is a sequence of uses of the frame writers, each
with a frame or with data that the connection offers. -/
namespace StreamServer.Api
open Protocol State FlowControl Codec Lib.Transition

/-- The control frames of a packet as the connection has them queued or generates them. -/
def OfferedControl (conn : QuicConnectionState) : QuicWriteFrame → Prop
  | .rstStream reset => ∃ entry ∈ conn.pendingEvents.resets.entries, reset = entry.2
  | .maxData maximumData => maximumData = generateMaxDataFrame conn
  | .maxStreamData streamId maximumData => ∃ key stream, conn.findStream key = some stream ∧
      streamId = stream.id ∧ maximumData = generateMaxStreamDataFrame stream
  | .dataBlocked dataLimit => dataLimit = conn.flowControlState.peerAdvertisedMaxOffset
  | .streamDataBlocked streamId dataLimit =>
    ∃ entry ∈ conn.streamManager.blockedStreams.entries, streamId = entry.1 ∧ dataLimit = entry.2
  | .datagram length data => data ∈ conn.datagramWriteBuffer ∧ length = data.length
  | .ping | .immediateAck | .padding _ => True
  | _ => False

/-- The data of a stream at an offset: the front of what is lost, or of what was never sent. -/
def OfferedData (stream : QuicStreamState) (offset : Nat) (source : Bytes) (fin : Bool) : Prop :=
  (∃ buffer ∈ stream.lossBuffer, offset = buffer.offset ∧ source = buffer.data ∧ fin = buffer.eof) ∨
    (offset = stream.currentWriteOffset ∧ source = stream.writeBuffer ∧
      (fin → stream.finalWriteOffset.isSome))

/-- A use of a writer with what the connection offers to a packet with this header. -/
def Offered (conn : QuicConnectionState) (cryptoStream : QuicCryptoStream) (header : PacketHeader)
    (now : TimePoint) : FrameWrite → Prop
  | .frame control => OfferedControl conn control
  | .simple control =>
    control ∈ conn.pendingEvents.pathChallenge.toList.map QuicSimpleFrame.pathChallenge ++
      conn.pendingEvents.frames
  | .stream id offset source _ fin skipLenHint streamGroupId =>
    skipLenHint = none ∧ ∃ key stream, conn.findStream key = some stream ∧ id = stream.id ∧
      streamGroupId = stream.groupId ∧ OfferedData stream offset source fin
  | .crypto offset source => (offset,source) ∈ CryptoStreamScheduler.pending cryptoStream
  | .ack metaData => ∃ space,
      AckScheduler.ackMetaData conn (conn.ackStates space) header now = .ok metaData

def OfferedWhole (conn : QuicConnectionState) (cryptoStream : QuicCryptoStream) (header : PacketHeader)
    (now : TimePoint) (write : FrameWrite) : Prop :=
  Offered conn cryptoStream header now write ∧ write.delimited = true

variable {allowed : FrameWrite → Prop} {before after : PacketBuilder} {wrote : Bool}

theorem writeEach_performs {α : Type} {write : α → PacketBuilder → Except Error (Bool × PacketBuilder)}
    {items : List α}
    (each : ∀ item ∈ items, ∀ first next written, write item first = .ok (written,next) →
      Performs allowed first next)
    (written : writeEach write items before = .ok (wrote,after)) : Performs allowed before after := by
  induction items generalizing before wrote with
  | nil =>
    cases written
    exact .refl _
  | cons item rest ih =>
    obtain ⟨⟨some,next⟩,first,others⟩ := bind_ok.mp written
    have performs := each item (List.mem_cons_self ..) before next some first
    dsimp only at others
    split at others
    · obtain ⟨⟨_,_⟩,more,done⟩ := bind_ok.mp others
      cases done
      exact performs.trans (ih (fun item inside => each item (List.mem_cons_of_mem _ inside)) more)
    · cases others
      exact performs

theorem frameWritten_performs {frame : QuicWriteFrame}
    (written : frameWritten frame before = .ok (wrote,after)) (chosen : allowed (.frame frame)) :
    Performs allowed before after := by
  obtain ⟨⟨bytes,next⟩,first,done⟩ := bind_ok.mp written
  cases done
  exact .single chosen (by rw [FrameWrite.perform,first]; rfl)

theorem simpleFrameWritten_performs {frame : QuicSimpleFrame}
    (written : simpleFrameWritten frame before = .ok (wrote,after)) (chosen : allowed (.simple frame)) :
    Performs allowed before after := by
  obtain ⟨⟨bytes,next⟩,first,done⟩ := bind_ok.mp written
  cases done
  exact .single chosen (by rw [FrameWrite.perform,first]; rfl)

theorem ifPending_performs {pending : Bool} {write : PacketBuilder → Except Error (Bool × PacketBuilder)}
    (each : ∀ written next, write before = .ok (written,next) → Performs allowed before next)
    (written : ifPending pending write before = .ok (wrote,after)) : Performs allowed before after := by
  unfold ifPending at written
  split at written
  · exact each _ _ written
  · cases written
    exact .refl _

variable {conn : QuicConnectionState} {cryptoStream : QuicCryptoStream} {header : PacketHeader}
  {now : TimePoint}

theorem writeCryptoData_performs
    (written : CryptoStreamScheduler.writeCryptoData cryptoStream before = .ok (wrote,after)) :
    Performs (OfferedWhole conn cryptoStream header now) before after := by
  refine writeEach_performs (fun item inside first next written result => ?_) written
  obtain ⟨⟨frame,builder⟩,taken,done⟩ := bind_ok.mp result
  cases done
  exact @Performs.single _ _ _ (.crypto item.1 item.2) ⟨inside,rfl⟩ (by rw [FrameWrite.perform,taken]; rfl)

theorem writeRsts_performs (written : writeRsts conn before = .ok (wrote,after)) :
    Performs (OfferedWhole conn cryptoStream header now) before after := by
  refine writeEach_performs (fun reset inside first next written result => ?_) written
  obtain ⟨entry,queued,rfl⟩ := List.mem_map.mp inside
  exact frameWritten_performs result ⟨⟨entry,queued,rfl⟩,rfl⟩

theorem writeSimpleFrames_performs (written : writeSimpleFrames conn before = .ok (wrote,after)) :
    Performs (OfferedWhole conn cryptoStream header now) before after :=
  writeEach_performs (fun _ inside _ _ _ result => simpleFrameWritten_performs result ⟨inside,rfl⟩) written

theorem writeWindowUpdates_performs (written : writeWindowUpdates conn before = .ok (wrote,after)) :
    Performs (OfferedWhole conn cryptoStream header now) before after := by
  obtain ⟨⟨_,middle⟩,first,others⟩ := bind_ok.mp written
  have connection : Performs (OfferedWhole conn cryptoStream header now) before middle := by
    unfold writeConnWindowUpdate at first
    split at first
    · exact frameWritten_performs first ⟨rfl,rfl⟩
    · cases first
      exact .refl _
  refine connection.trans (writeEach_performs (fun frame inside _ _ _ result => ?_) others)
  obtain ⟨id,-,made⟩ := List.mem_filterMap.mp inside
  obtain ⟨stream,found,rfl⟩ := Option.map_eq_some_iff.mp made
  exact frameWritten_performs result ⟨⟨id,stream,found,rfl,rfl⟩,rfl⟩

theorem writeBlockedFrames_performs (written : writeBlockedFrames conn before = .ok (wrote,after)) :
    Performs (OfferedWhole conn cryptoStream header now) before after := by
  refine writeEach_performs (fun frame inside _ _ _ result => frameWritten_performs result ⟨?_,rfl⟩) written
  rcases List.mem_append.mp inside with connection | stream
  · split at connection
    · rw [List.mem_singleton.mp connection]
      rfl
    · cases connection
  · obtain ⟨entry,queued,rfl⟩ := List.mem_map.mp stream
    exact ⟨entry,queued,rfl,rfl⟩

namespace StreamFrameScheduler

/-- A sequence of stream frames: lost data of some stream, or data it has not sent yet. Only the
latter is taken from what the connection may send. -/
inductive StreamWrites (conn : QuicConnectionState) : Progress → Progress → Prop
  | refl (progress : Progress) : StreamWrites conn progress progress
  | loss {progress last : Progress} {key : StreamId} {stream : QuicStreamState} {buffer : StreamBuffer}
      {result : Option Nat} {builder : PacketBuilder} (found : conn.findStream key = some stream)
      (lost : buffer ∈ stream.lossBuffer)
      (written : Codec.writeStreamFrame progress.builder stream.id buffer.offset buffer.data
        buffer.data.length buffer.eof none stream.groupId = .ok (result,builder))
      (rest : StreamWrites conn {progress with builder} last) : StreamWrites conn progress last
  | fresh {progress next last : Progress} {key : StreamId} {stream : QuicStreamState} {wrote : Bool}
      (found : conn.findStream key = some stream) (writable : stream.hasWritableData)
      (credit : progress.connWritableBytes > 0)
      (written : writeStreamFrame stream progress = .ok (wrote,next))
      (rest : StreamWrites conn next last) : StreamWrites conn progress last

variable {progress next last : Progress} {key : StreamId} {stream : QuicStreamState}

theorem StreamWrites.trans (first : StreamWrites conn progress next)
    (second : StreamWrites conn next last) : StreamWrites conn progress last := by
  induction first with
  | refl => exact second
  | loss found lost written _ ih => exact .loss found lost written (ih second)
  | fresh found writable credit written _ ih => exact .fresh found writable credit written (ih second)

private theorem writeLoss_writes {buffers : List StreamBuffer} {builder after : PacketBuilder}
    {credit : Nat} {wrote : Bool} (found : conn.findStream key = some stream)
    (lost : ∀ buffer ∈ buffers, buffer ∈ stream.lossBuffer)
    (written : writeEach (fun buffer builder => do
      let (dataLen,next) ← Codec.writeStreamFrame builder stream.id buffer.offset buffer.data
        buffer.data.length buffer.eof none stream.groupId
      return (dataLen.isSome,next)) buffers builder = .ok (wrote,after)) :
    StreamWrites conn ⟨builder,credit⟩ ⟨after,credit⟩ := by
  induction buffers generalizing builder wrote with
  | nil =>
    cases written
    exact .refl _
  | cons buffer rest ih =>
    obtain ⟨⟨some,middle⟩,first,others⟩ := bind_ok.mp written
    obtain ⟨⟨result,_⟩,header,done⟩ := bind_ok.mp first
    cases done
    refine .loss found (lost buffer (List.mem_cons_self ..)) header ?_
    dsimp only at others
    split at others
    · obtain ⟨⟨_,_⟩,more,done⟩ := bind_ok.mp others
      cases done
      exact ih (fun buffer inside => lost buffer (List.mem_cons_of_mem _ inside)) more
    · cases others
      exact .refl _

theorem writeSingleStream_writes {wrote : Bool} (found : conn.findStream key = some stream)
    (written : writeSingleStream stream progress = .ok (wrote,next)) :
    StreamWrites conn progress next := by
  obtain ⟨⟨complete,builder⟩,loss,rest⟩ := bind_ok.mp written
  have lost : StreamWrites conn progress {progress with builder} := by
    unfold writeLossIfAny at loss
    split at loss
    · cases loss
      exact .refl _
    · exact writeLoss_writes found (fun _ inside => inside) loss
  dsimp only at rest
  split at rest
  · cases rest
    exact lost
  · split at rest
    next ready =>
      rw [Bool.and_eq_true,decide_eq_true_eq] at ready
      exact lost.trans (.fresh found ready.1 ready.2 rest (.refl _))
    next =>
      cases rest
      exact lost

theorem writeControlStreams_writes {first id : StreamId} {ids : List StreamId}
    (written : writeControlStreams conn first ids progress = .ok (id,last)) :
    StreamWrites conn progress last := by
  induction ids generalizing progress with
  | nil =>
    cases written
    exact .refl _
  | cons id rest ih =>
    unfold writeControlStreams at written
    split at written
    · cases written
    next stream found =>
      obtain ⟨⟨wrote,next⟩,single,others⟩ := bind_ok.mp written
      have head := writeSingleStream_writes found single
      dsimp only at others
      split at others
      · cases others
        exact head
      · split at others
        · cases others
          exact head
        · exact head.trans (ih others)

theorem writeLevel_writes {fuel : Nat} {level visited : Level} {stopped : Bool}
    (written : writeLevel conn fuel level progress = .ok (stopped,visited,last)) :
    StreamWrites conn progress last := by
  induction fuel generalizing level progress with
  | zero =>
    cases written
    exact .refl _
  | succ fuel ih =>
    unfold writeLevel at written
    split at written
    · cases written
    next stream current =>
      obtain ⟨ordered,-,found⟩ := Option.bind_eq_some_iff.mp current
      split at written
      · cases written
        exact .refl _
      · obtain ⟨⟨wrote,next⟩,single,others⟩ := bind_ok.mp written
        have head := writeSingleStream_writes found single
        dsimp only at others
        split at others
        · cases others
          exact head
        · split at others
          · cases others
            exact head
          · split at others
            · cases others
              exact head
            · exact head.trans (ih others)

theorem writeLevels_writes {levels visited : List Level}
    (written : writeLevels conn levels progress = .ok (visited,last)) :
    StreamWrites conn progress last := by
  induction levels generalizing progress visited with
  | nil =>
    cases written
    exact .refl _
  | cons level rest ih =>
    unfold writeLevels at written
    split at written
    · cases written
      exact .refl _
    · split at written
      · obtain ⟨⟨_,_⟩,others,done⟩ := bind_ok.mp written
        cases done
        exact ih others
      · obtain ⟨⟨stopped,_,next⟩,head,others⟩ := bind_ok.mp written
        have first := writeLevel_writes head
        dsimp only at others
        split at others
        · cases others
          exact first
        · obtain ⟨⟨_,_⟩,more,done⟩ := bind_ok.mp others
          cases done
          exact first.trans (ih more)

theorem StreamWrites.congr {other : QuicConnectionState} (same : other.findStream = conn.findStream)
    (writes : StreamWrites other progress last) : StreamWrites conn progress last := by
  induction writes with
  | refl => exact .refl _
  | loss found lost written _ ih =>
    rw [same] at found
    exact .loss found lost written ih
  | fresh found writable credit written _ ih =>
    rw [same] at found
    exact .fresh found writable credit written ih

/-- While streams are written only the positions of the two queues move. -/
theorem writeStreams_writes {conn after : QuicConnectionState} {builder written : PacketBuilder}
    {nextStreamDsr : Bool} (wrote : writeStreams conn builder = .ok (nextStreamDsr,after,written)) :
    (∃ left, StreamWrites conn ⟨builder,getSendConnFlowControlBytesWire conn⟩ ⟨written,left⟩) ∧
      ∃ next queue, after = {conn with
        nextScheduledControlStream := next
        streamManager := {conn.streamManager with writeQueue := queue}} := by
  obtain ⟨⟨middle,progress⟩,control,others⟩ := bind_ok.mp wrote
  obtain ⟨⟨_,last,finished⟩,priority,done⟩ := bind_ok.mp others
  cases done
  have first : StreamWrites conn ⟨builder,getSendConnFlowControlBytesWire conn⟩ progress ∧
      ∃ next, middle = {conn with nextScheduledControlStream := next} := by
    unfold writeControlQueue at control
    split at control
    · cases control
      exact ⟨.refl _,conn.nextScheduledControlStream,rfl⟩
    · obtain ⟨⟨next,_⟩,streams,done⟩ := bind_ok.mp control
      cases done
      exact ⟨writeControlStreams_writes streams,next,rfl⟩
  obtain ⟨writes,next,rfl⟩ := first
  unfold writePriorityQueue at priority
  dsimp only at priority
  split at priority
  · cases priority
    exact ⟨⟨_,writes⟩,next,conn.streamManager.writeQueue,rfl⟩
  · obtain ⟨⟨levels,_⟩,streams,done⟩ := bind_ok.mp priority
    cases done
    refine ⟨⟨_,writes.trans (StreamWrites.congr ?_ (writeLevels_writes streams))⟩,next,_,rfl⟩
    rfl

private theorem writeStreamFrame_performs {wrote : Bool} (found : conn.findStream key = some stream)
    (written : writeStreamFrame stream progress = .ok (wrote,next)) :
    Performs (Offered conn cryptoStream header now) progress.builder next.builder := by
  unfold writeStreamFrame at written
  split at written
  · cases written
    exact .refl _
  · obtain ⟨⟨result,builder⟩,frame,done⟩ := bind_ok.mp written
    have offered : Offered conn cryptoStream header now (.stream stream.id stream.currentWriteOffset
        stream.writeBuffer (min (getSendStreamFlowControlBytesWire stream) progress.connWritableBytes)
        (canWriteFin stream (min (getSendStreamFlowControlBytesWire stream) progress.connWritableBytes))
        none stream.groupId) := by
      refine ⟨rfl,key,stream,found,rfl,rfl,.inr ⟨rfl,rfl,fun ends => ?_⟩⟩
      simp only [canWriteFin,Bool.and_eq_true] at ends
      exact ends.1.1
    have performs : Performs (Offered conn cryptoStream header now) progress.builder builder :=
      .single offered (by rw [FrameWrite.perform,frame]; rfl)
    cases result with
    | none | some dataLen =>
      cases done
      exact performs

theorem StreamWrites.performs (writes : StreamWrites conn progress last) :
    Performs (Offered conn cryptoStream header now) progress.builder last.builder := by
  induction writes with
  | refl => exact .refl _
  | @loss progress last key stream buffer result builder found lost written _ ih =>
    have offered : Offered conn cryptoStream header now (.stream stream.id buffer.offset buffer.data
        buffer.data.length buffer.eof none stream.groupId) :=
      ⟨rfl,key,stream,found,rfl,rfl,.inl ⟨buffer,lost,rfl,rfl,rfl⟩⟩
    exact .step offered (by rw [FrameWrite.perform,written]; rfl) ih
  | fresh found writable credit written _ ih => exact (writeStreamFrame_performs found written).trans ih

end StreamFrameScheduler

theorem writeDatagrams_performs {framePerPacket : Bool} {fuel i : Nat} {queue left : List Bytes}
    (queued : ∀ payload ∈ queue, payload ∈ conn.datagramWriteBuffer)
    (written : writeDatagrams framePerPacket fuel i queue before = .ok (left,after)) :
    Performs (OfferedWhole conn cryptoStream header now) before after := by
  induction fuel generalizing i queue before with
  | zero =>
    cases written
    exact .refl _
  | succ fuel ih =>
    cases queue with
    | nil =>
      unfold writeDatagrams at written
      split at written <;> cases written
      exact .refl _
    | cons payload rest =>
      unfold writeDatagrams at written
      split at written
      · cases written
        exact .refl _
      · obtain ⟨frameTypeSize,-,written⟩ := bind_ok.mp written
        obtain ⟨datagramLenSize,-,written⟩ := bind_ok.mp written
        split at written
        · obtain ⟨⟨_,middle⟩,frame,written⟩ := bind_ok.mp written
          have first : Performs (OfferedWhole conn cryptoStream header now) before middle :=
            frameWritten_performs frame ⟨⟨queued payload (List.mem_cons_self ..),rfl⟩,rfl⟩
          dsimp only at written
          split at written
          · cases written
            exact first
          · exact first.trans (ih (fun payload inside => queued payload (List.mem_cons_of_mem _ inside)) written)
        · split at written
          · cases written
            exact .refl _
          · exact ih queued written

theorem writePaddings_performs {count : Nat} (padding : allowed (.frame (.padding 1)))
    (written : writePaddings count before = .ok after) : Performs allowed before after := by
  induction count generalizing before with
  | zero =>
    cases written
    exact .refl _
  | succ count ih =>
    obtain ⟨⟨_,middle⟩,frame,others⟩ := bind_ok.mp written
    exact .step padding (by rw [FrameWrite.perform,frame]; rfl) (ih others)

theorem fillWithPadding_performs {fuel : Nat} (padding : allowed (.frame (.padding 1)))
    (written : fillWithPadding fuel before = .ok after) : Performs allowed before after := by
  induction fuel generalizing before with
  | zero =>
    cases written
    exact .refl _
  | succ fuel ih =>
    unfold fillWithPadding at written
    split at written
    · obtain ⟨⟨_,middle⟩,frame,others⟩ := bind_ok.mp written
      exact .step padding (by rw [FrameWrite.perform,frame]; rfl) (ih others)
    · cases written
      exact .refl _

/-- The frames of a packet before its streams, with the ACKs that were written past the limit. -/
inductive ControlWrites (conn : QuicConnectionState) (cryptoStream : QuicCryptoStream)
    (header : PacketHeader) (now : TimePoint) : PacketBuilder → PacketBuilder → Prop
  | limited {before after : PacketBuilder}
      (performs : Performs (OfferedWhole conn cryptoStream header now) before after) :
      ControlWrites conn cryptoStream header now before after
  | direct {before middle acked after : PacketBuilder} {metaData : WriteAckFrameMetaData}
      (first : Performs (OfferedWhole conn cryptoStream header now) before middle)
      (offered : Offered conn cryptoStream header now (.ack metaData))
      (acks : (FrameWrite.ack metaData).perform middle.unwrapped = .ok acked)
      (rest : Performs (OfferedWhole conn cryptoStream header now) {acked with diff := middle.diff} after) :
      ControlWrites conn cryptoStream header now before after

theorem writeNextAcks_ack {space : PacketNumberSpace}
    (written : AckScheduler.writeNextAcks conn (conn.ackStates space) now before = .ok after) :
    ∃ metaData, AckScheduler.ackMetaData conn (conn.ackStates space) before.header now = .ok metaData ∧
      (FrameWrite.ack metaData).perform before = .ok after := by
  obtain ⟨metaData,gathered,others⟩ := bind_ok.mp written
  obtain ⟨⟨result,_⟩,frame,done⟩ := bind_ok.mp others
  cases done
  exact ⟨metaData,gathered,by rw [FrameWrite.perform,frame]; rfl⟩

namespace FrameScheduler

variable {scheduler : FrameScheduler}

theorem writeControl_writes (written : scheduler.writeControl conn now before = .ok after) :
    ControlWrites conn (scheduler.cryptoStream conn) before.header now before after := by
  unfold writeControl at written
  obtain ⟨⟨cryptoDataWritten,first⟩,crypto,written⟩ := bind_ok.mp written
  obtain ⟨⟨rstWritten,second⟩,resets,written⟩ := bind_ok.mp written
  obtain ⟨third,acks,written⟩ := bind_ok.mp written
  obtain ⟨⟨_,fourth⟩,immediate,written⟩ := bind_ok.mp written
  obtain ⟨⟨_,fifth⟩,updates,written⟩ := bind_ok.mp written
  obtain ⟨⟨_,sixth⟩,blocked,written⟩ := bind_ok.mp written
  obtain ⟨⟨_,seventh⟩,simple,written⟩ := bind_ok.mp written
  obtain ⟨⟨_,_⟩,ping,done⟩ := bind_ok.mp written
  cases done
  have start : Performs (OfferedWhole conn (scheduler.cryptoStream conn) before.header now) before second :=
    (ifPending_performs (fun _ _ => writeCryptoData_performs) crypto).trans
      (ifPending_performs (fun _ _ => writeRsts_performs) resets)
  have asked : Performs (OfferedWhole conn (scheduler.cryptoStream conn) before.header now) third fourth := by
    refine ifPending_performs (fun _ _ result => ?_) immediate
    exact frameWritten_performs result ⟨trivial,rfl⟩
  have pinged : Performs (OfferedWhole conn (scheduler.cryptoStream conn) before.header now) seventh after := by
    refine ifPending_performs (fun _ _ result => ?_) ping
    exact frameWritten_performs result ⟨trivial,rfl⟩
  have rest : Performs (OfferedWhole conn (scheduler.cryptoStream conn) before.header now) third after :=
    (((asked.trans (ifPending_performs (fun _ _ => writeWindowUpdates_performs) updates)).trans
      (ifPending_performs (fun _ _ => writeBlockedFrames_performs) blocked)).trans
      (ifPending_performs (fun _ _ => writeSimpleFrames_performs) simple)).trans pinged
  have header := start.sameHeader
  unfold writeAcks at acks
  split at acks
  · dsimp only at acks
    split at acks
    · obtain ⟨metaData,gathered,acked⟩ := writeNextAcks_ack acks
      rw [header] at gathered
      have offered : Offered conn (scheduler.cryptoStream conn) before.header now (.ack metaData) :=
        ⟨_,gathered⟩
      exact .limited (start.trans (.step ⟨offered,rfl⟩ acked rest))
    · obtain ⟨written,direct,same⟩ := bind_ok.mp acks
      cases same
      obtain ⟨metaData,gathered,acked⟩ := writeNextAcks_ack direct
      rw [show second.unwrapped.header = before.header from header] at gathered
      exact .direct start ⟨_,gathered⟩ acked rest
  · cases acks
    exact .limited (start.trans rest)

end FrameScheduler

end StreamServer.Api
