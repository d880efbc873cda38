import StreamServer.State.ConnectionState

/-! The counters beside the outstanding packets. Every subtraction from one of them is noted
with its operands. -/
namespace StreamServer.State
open Protocol

/-- A packet of the space that is not declared lost. -/
def OutstandingPacket.isOutstanding (space : PacketNumberSpace) (packet : OutstandingPacket) :
    Bool :=
  !packet.declaredLost && packet.space == space

namespace OutstandingsInfo

/-- No packet of the family of this one has been acknowledged or declared lost. -/
def needsProcess (outstandings : OutstandingsInfo) (packet : OutstandingPacket) : Bool :=
  packet.associatedEvent.all fun event => event ∈ outstandings.packetEvents

def lowerPacketCount (outstandings : OutstandingsInfo) (space : PacketNumberSpace) :
    OutstandingsInfo :=
  let count := outstandings.packetCount space
  {outstandings with
    packetCount := Function.update outstandings.packetCount space (lowered count 1)
    decrements := (count,1) :: outstandings.decrements}

def lowerClonedPacketCount (outstandings : OutstandingsInfo) (space : PacketNumberSpace) :
    OutstandingsInfo :=
  let count := outstandings.clonedPacketCount space
  {outstandings with
    clonedPacketCount := Function.update outstandings.clonedPacketCount space (lowered count 1)
    decrements := (count,1) :: outstandings.decrements}

def lowerDsrCount (outstandings : OutstandingsInfo) (amount : Nat) : OutstandingsInfo :=
  {outstandings with
    dsrCount := lowered outstandings.dsrCount amount
    decrements := (outstandings.dsrCount,amount) :: outstandings.decrements}

def lowerDeclaredLostCount (outstandings : OutstandingsInfo) : OutstandingsInfo :=
  {outstandings with
    declaredLostCount := lowered outstandings.declaredLostCount 1
    decrements := (outstandings.declaredLostCount,1) :: outstandings.decrements}

/-- A packet stops being waited for and its family counts as processed. The visitors read none of
these counters, so it does not matter whether they are called before or after. -/
def release (outstandings : OutstandingsInfo) (packet : OutstandingPacket) : OutstandingsInfo :=
  let counted := if outstandings.needsProcess packet then outstandings.lowerPacketCount packet.space
    else outstandings
  match packet.associatedEvent with
  | none => counted
  | some event => {counted.lowerClonedPacketCount packet.space with
      packetEvents := counted.packetEvents.erase event}

end OutstandingsInfo

end StreamServer.State
