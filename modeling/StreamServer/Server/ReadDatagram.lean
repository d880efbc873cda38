import StreamServer.Codec.FlatBuffer

/-! The server's loop over the packets of a datagram. The loop never moves its offset, and what the
parser returns is dropped. -/
namespace StreamServer.Server
open Protocol Codec

variable {parsePacket : Bytes → Except Error CodecResult} {packetData : Bytes}
  {packetOffset packetLen : Nat}

def kMaxNumCoalescedPackets : Nat := 5
def kDefaultConnectionIdSize : Nat := 8

structure ServerConnection where
  readCodec : Option QuicReadCodec := none
  serverConnectionId : Option ConnectionId := none
  ackStates : AckStates

/-- The id for the connection, the handshake's ciphers and the packet parser. -/
structure ServerEnvironment where
  createAndAddNewSelfConnId : Option ConnectionId
  codecParameters : UInt32 → CodecParameters
  getClientInitialCipher : ConnectionId → UInt32 → Aead
  makeClientInitialHeaderCipher : ConnectionId → UInt32 → PacketNumberCipher
  parsePacket : QuicReadCodec → AckStates → Bytes → Except Error CodecResult

/-- A pass of the loop: the offsets before and after it, and what the parser is given. -/
structure Iteration where
  start : Nat
  next : Nat
  given : Bytes
  deriving DecidableEq, Repr

/-- How the handler ends: a read outside the datagram, or a missing id that is used. -/
inductive Undefined where
  | beyond
  | missingConnId
  deriving DecidableEq, Repr

/-- An exception of the parser leaves the loop. -/
def packetLoop (parsePacket : Bytes → Except Error CodecResult) (packetData : Bytes)
    (packetOffset packetLen : Nat) : Nat → List Iteration × Option Error
  | 0 => ([],none)
  | count + 1 =>
    if 0 < packetLen then
      let given := (packetData.drop packetOffset).take packetLen
      let iteration : Iteration := ⟨packetOffset,packetOffset,given⟩
      match parsePacket given with
      | .error error => ([iteration],some error)
      | .ok _ =>
        let (rest,thrown) := packetLoop parsePacket packetData packetOffset packetLen count
        (iteration :: rest,thrown)
    else ([],none)

/-- The codec a first header gives, or nothing if the datagram is dropped, and the offset behind
the invariant part of the header. -/
def acceptHeader (environment : ServerEnvironment) (conn : ServerConnection)
    (parsed : Except (BufferFailure TransportErrorCode) (LongHeaderInvariant × Nat)) :
    Except Undefined (Option (ServerConnection × QuicReadCodec × Nat)) :=
  match parsed with
  | .error .beyond => .error .beyond
  | .error (.refused _) => .ok none
  | .ok (invariant,packetOffset) =>
    if invariant.version = 0 then .ok none
    else if invariant.dstConnId.bytes.length < kDefaultConnectionIdSize then .ok none
    else match environment.createAndAddNewSelfConnId with
      | none => .error .missingConnId
      | some connId =>
        let codec : QuicReadCodec := {
          nodeType := .server
          params := environment.codecParameters invariant.version
          initialReadCipher :=
            some (environment.getClientInitialCipher invariant.dstConnId invariant.version)
          initialHeaderCipher :=
            some (environment.makeClientInitialHeaderCipher invariant.dstConnId invariant.version) }
        .ok (some ({conn with serverConnectionId := some connId,readCodec := some codec},codec,
          packetOffset))

def acceptFirstPacket (environment : ServerEnvironment) (conn : ServerConnection)
    (packetData : Bytes) : Except Undefined (Option (ServerConnection × QuicReadCodec × Nat)) :=
  acceptHeader environment conn (Flat.parseLongHeaderInvariant packetData 1)

def readPackets (environment : ServerEnvironment) (conn : ServerConnection) (packetData : Bytes) :
    Option (ServerConnection × QuicReadCodec × Nat) →
      ServerConnection × List Iteration × Option Error
  | none => (conn,[],none)
  | some (conn,codec,packetOffset) =>
    (conn,packetLoop (environment.parsePacket codec conn.ackStates) packetData packetOffset
      (sub64 packetData.length packetOffset) kMaxNumCoalescedPackets)

def onServerReadDataFromOpen (environment : ServerEnvironment) (conn : ServerConnection)
    (packetData : Bytes) : Except Undefined (ServerConnection × List Iteration × Option Error) :=
  if packetData.length = 0 then .ok (conn,[],none)
  else
    match conn.readCodec with
    | some codec => .ok (readPackets environment conn packetData (some (conn,codec,0)))
    | none => readPackets environment conn packetData <$>
        acceptFirstPacket environment conn packetData

/-- Every pass consumes a byte, none is given to the parser after it was consumed, the first pass
starts at the first byte, and there are no more passes than bytes. -/
structure Progress (packetData : Bytes) (iterations : List Iteration) : Prop where
  consumes : ∀ iteration ∈ iterations, iteration.start < iteration.next
  once : iterations.Pairwise fun earlier later => earlier.next ≤ later.start
  first : ∀ iteration, iterations.head? = some iteration → iteration.start = 0
  ends : iterations.length ≤ packetData.length

theorem Progress.nil (packetData : Bytes) : Progress packetData [] :=
  ⟨fun _ member => (by cases member),.nil,fun _ member => (by cases member),Nat.zero_le _⟩

private theorem packetLoop_stuck {count : Nat} :
    ∀ iteration ∈ (packetLoop parsePacket packetData packetOffset packetLen count).1,
      iteration.next = iteration.start := by
  induction count with
  | zero => exact fun _ member => by cases member
  | succ count ih =>
    unfold packetLoop
    intro iteration member
    split_ifs at member with left
    · dsimp only at member
      split at member
      · obtain rfl := List.mem_singleton.mp member
        rfl
      · obtain rfl | member := List.mem_cons.mp member
        · rfl
        · exact ih iteration member
    · cases member

private theorem packetLoop_entered {count : Nat} (left : 0 < packetLen) :
    (packetLoop parsePacket packetData packetOffset packetLen (count + 1)).1 ≠ [] := by
  unfold packetLoop
  rw [if_pos left]
  dsimp only
  split <;> exact List.cons_ne_nil _ _

/-- The loop makes progress only where it is not entered. -/
private theorem packetLoop_progress (left : 0 < packetLen) :
    ¬Progress packetData
      (packetLoop parsePacket packetData packetOffset packetLen kMaxNumCoalescedPackets).1 := by
  intro progress
  obtain ⟨iteration,member⟩ := List.exists_mem_of_ne_nil _ (packetLoop_entered left)
  have moved := progress.consumes iteration member
  have stuck := packetLoop_stuck iteration member
  omega

theorem server_loop_progress (environment : ServerEnvironment) (conn : ServerConnection)
    (packetData : Bytes) (sized : packetData.length < 2^64) :
    (∃ result, onServerReadDataFromOpen environment conn packetData = .ok result ∧
        Progress packetData result.2.1) ↔
      packetData = [] ∨ conn.readCodec = none ∧ (5 < packetData.length - 1 ∨
        packetData.length - 1 = 5 ∧
          ∃ byte, packetData[5]? = some byte ∧ kMaxConnectionIdSize < byte.toNat) := by
  by_cases empty : packetData = []
  · subst empty
    exact iff_of_true ⟨_,rfl,.nil _⟩ (.inl rfl)
  have filled := List.length_pos_of_ne_nil empty
  simp only [empty,false_or]
  unfold onServerReadDataFromOpen
  rw [if_neg (Nat.ne_of_gt filled)]
  cases codec : conn.readCodec with
  | some codec =>
    have left : 0 < sub64 packetData.length 0 := by
      rw [sub64_of_le (Nat.zero_le _) sized]
      exact filled
    refine iff_of_false ?_ (fun none => by cases none.1)
    rintro ⟨_,ran,progress⟩
    obtain rfl := Except.ok.inj ran
    dsimp only [readPackets] at progress
    generalize sub64 packetData.length 0 = packetLen at left progress
    exact packetLoop_progress left progress
  | none =>
    rw [and_iff_right rfl,acceptFirstPacket]
    obtain ⟨condition,_,refused⟩ | ⟨condition,beyond⟩ := flat_invariant_cases filled sized
    · refine iff_of_true ⟨(conn,[],none),?_,.nil _⟩ condition
      rw [refused]
      rfl
    · refine iff_of_false ?_ condition
      rw [beyond]
      rintro ⟨_,ran,_⟩
      cases ran

/-- The handshake's parts play no role where the parser gives nothing. -/
def quietEnvironment : ServerEnvironment where
  createAndAddNewSelfConnId := none
  codecParameters := fun _ => {}
  getClientInitialCipher := fun _ _ => ⟨fun _ _ _ => [],fun _ _ _ => none,0⟩
  makeClientInitialHeaderCipher := fun _ _ => ⟨fun _ _ => 0⟩
  parsePacket := fun _ _ _ => .ok .nothing

theorem server_loop_progress_long_header :
    ([0xc0,0,0,0,1,0,0] : Bytes).length = 7 ∧
    ∃ result, onServerReadDataFromOpen quietEnvironment {ackStates := fun _ => {}}
        [0xc0,0,0,0,1,0,0] = .ok result ∧ Progress [0xc0,0,0,0,1,0,0] result.2.1 :=
  ⟨rfl,(server_loop_progress quietEnvironment {ackStates := fun _ => {}} [0xc0,0,0,0,1,0,0]
    (by decide)).mpr (.inr ⟨rfl,.inl (by decide)⟩)⟩

/-- A datagram of one byte on an open connection is given to the parser five times, and a first
datagram of one byte makes the handler read beyond it. -/
theorem server_loop_stuck :
    ¬(∃ result, onServerReadDataFromOpen quietEnvironment
        {readCodec := some {nodeType := .server},ackStates := fun _ => {}} [0x40] = .ok result ∧
      Progress [0x40] result.2.1) ∧
    (∃ conn, onServerReadDataFromOpen quietEnvironment
        {readCodec := some {nodeType := .server},ackStates := fun _ => {}} [0x40] =
      .ok (conn,[⟨0,0,[0x40]⟩,⟨0,0,[0x40]⟩,⟨0,0,[0x40]⟩,⟨0,0,[0x40]⟩,⟨0,0,[0x40]⟩],none)) ∧
    onServerReadDataFromOpen quietEnvironment {ackStates := fun _ => {}} [0xc0] =
      .error .beyond := by
  refine ⟨?_,⟨_,rfl⟩,rfl⟩
  rintro ⟨_,ran,progress⟩
  cases ran
  exact absurd progress.ends (by decide)

end StreamServer.Server
