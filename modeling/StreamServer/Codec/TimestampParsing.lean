import StreamServer.Codec.ReceiveTimestamps

/-! What is stored of the receive timestamps a peer reports. Gaps and deltas are taken away from the
numbers and times before them without a check; the frames where none is too large are those whose
gaps stay within the numbers that are left and whose deltas add up to no more than twice the first. -/
namespace StreamServer.Codec
open Protocol

/-- The packets are those the caller asks for and the peer has received, with times that do not
increase towards smaller numbers, and no subtraction has wrapped. -/
structure TimestampWalk.Safe (first latest : Option PacketNum) (walk : TimestampWalk) : Prop where
  above : ∀ pair ∈ walk.packetReceiveTimeStamps, ∃ asked ∈ first, asked ≤ pair.1
  below : ∀ pair ∈ walk.packetReceiveTimeStamps, ∃ received ∈ latest, pair.1 ≤ received
  ordered : walk.packetReceiveTimeStamps.Pairwise fun a b => b.1 ≤ a.1 ∧ b.2 ≤ a.2
  exact : ∀ pair ∈ walk.subtractions, pair.2 ≤ pair.1

namespace TimestampWalk

def Exact (walk : TimestampWalk) : Prop := ∀ pair ∈ walk.subtractions, pair.2 ≤ pair.1

/-- A safe walk that has come down to its number and time. -/
structure Reached (first latest : PacketNum) (walk : TimestampWalk) : Prop extends
    Safe (some first) (some latest) walk where
  number : walk.receivedPacketNum ≤ latest
  lowest : ∀ pair ∈ walk.packetReceiveTimeStamps,
    walk.receivedPacketNum ≤ pair.1 ∧ walk.receiveTimeStamp ≤ pair.2

variable {first latest most delta gap : Nat} {walk stored : TimestampWalk}
  {range : RecvdPacketsTimestampsRange}

theorem Reached.lower (reached : Reached first latest walk) {number : Nat}
    {subtractions : List (Nat × Nat)} (less : number ≤ walk.receivedPacketNum)
    (exact : ∀ pair ∈ subtractions, pair.2 ≤ pair.1) :
    Reached first latest {walk with receivedPacketNum := number, subtractions} :=
  ⟨{reached.toSafe with exact},less.trans reached.number,
    fun pair inside => (reached.lowest pair inside).imp_left less.trans⟩

end TimestampWalk

open TimestampWalk

end StreamServer.Codec
