import StreamServer.Api.ClonedPackets
import StreamServer.Codec.PacketSize

/-! The packets of the schedulers within the size limit: the frames of the connection and
the clones of outstanding packets, and the Initial packets that fill all of it. -/
namespace StreamServer.Api
open Protocol State Codec Lib.Transition

/-- The blobs of the knob frames that wait to be sent are each in one buffer. -/
def WholeBlobsQueued (conn : QuicConnectionState) : Prop :=
  ∀ frame ∈ conn.pendingEvents.frames, wholeBlob (.simple frame)

variable {limit overhead : Nat} {encoding : PacketNumEncodingResult} {header : PacketHeader}
  {path : DataPathType} {conn : QuicConnectionState} {cryptoStream : QuicCryptoStream} {now : TimePoint}
  {before after : PacketBuilder}

theorem offered_wholeBlobs (queued : WholeBlobsQueued conn) (write : FrameWrite)
    (offered : Offered conn cryptoStream header now write) : write.wholeBlobs := by
  cases write with
  | frame control =>
    cases control with
    | simple frame => cases offered
    | _ => rfl
  | simple control =>
    rcases List.mem_append.mp offered with challenge | waiting
    · obtain ⟨pathData,-,rfl⟩ := List.mem_map.mp challenge
      rfl
    · exact queued control waiting
  | _ => rfl

theorem ControlWrites.accounted {named : PacketHeader} (queued : WholeBlobsQueued conn)
    (small : limit < 2^32) (writes : ControlWrites conn cryptoStream named now before after)
    (accounted : Accounted limit overhead encoding header path before) :
    Accounted limit overhead encoding header path after := by
  have whole : ∀ write, OfferedWhole conn cryptoStream named now write → write.wholeBlobs :=
    fun write offered => offered_wholeBlobs queued write offered.1
  cases writes with
  | limited performs => exact (performs.accounted whole small accounted).1
  | @direct middle acked _ metaData first offered acks rest =>
    have begun := (first.accounted whole small accounted).1
    have acked := FrameWrite.perform_accounted (begun.withhold 0) small rfl acks
    exact (rest.accounted whole small (acked.withhold middle.diff)).1

namespace FrameScheduler

variable {scheduler next : FrameScheduler}

end FrameScheduler

namespace CloningScheduler

variable {scheduler next : FrameScheduler}

end CloningScheduler

end StreamServer.Api
