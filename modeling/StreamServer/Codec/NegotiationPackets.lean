import StreamServer.Codec.PacketRoundTrip

/-! Packets a server sends before there is a connection: the versions it speaks, and a token to
come back with. Both are read back; the token of a retry has no length of its own and is what is
left before the integrity tag. -/
namespace StreamServer.Codec
open Protocol Lib.Wire
open Congestion (kDefaultUDPSendPacketLen)

structure VersionNegotiationPacket where
  packetType : UInt8
  sourceConnectionId : ConnectionId
  destinationConnectionId : ConnectionId
  versions : List UInt32 := []
  deriving DecidableEq, Repr

structure VersionNegotiationPacketBuilder where
  remainingBytes : Nat
  packet : VersionNegotiationPacket
  data : Bytes
  deriving DecidableEq, Repr

namespace VersionNegotiationPacketBuilder

def canBuildPacket (builder : VersionNegotiationPacketBuilder) : Bool := builder.remainingBytes != 0

/-- The versions are written one after the other until one does not fit. -/
def writeVersions (builder : VersionNegotiationPacketBuilder) :
    List UInt32 → VersionNegotiationPacketBuilder
  | [] => builder
  | version :: versions =>
    if builder.remainingBytes < 4 then builder
    else writeVersions
      {remainingBytes := builder.remainingBytes - 4
       packet := {builder.packet with versions := builder.packet.versions ++ [version]}
       data := builder.data ++ toBE 4 version.toNat} versions

def invariantBytes (version : UInt32) (sourceConnectionId destinationConnectionId : ConnectionId) :
    Bytes :=
  toBE 4 version.toNat ++
    ([UInt8.ofNat destinationConnectionId.bytes.length] ++ (destinationConnectionId.bytes ++
      ([UInt8.ofNat sourceConnectionId.bytes.length] ++ sourceConnectionId.bytes)))

/-- The header leaves less space than there was, counted in 32 bits. -/
def writeVersionNegotiationPacket (limit : UInt32)
    (sourceConnectionId destinationConnectionId : ConnectionId) (versions : List UInt32) :
    VersionNegotiationPacketBuilder :=
  let header := kHeaderFormMask :: invariantBytes 0 sourceConnectionId destinationConnectionId
  writeVersions
    {remainingBytes := sub32 limit.toNat header.length
     packet := ⟨kHeaderFormMask,sourceConnectionId,destinationConnectionId,[]⟩
     data := header} versions

/-- The builder of the source has a fixed limit. -/
def make (sourceConnectionId destinationConnectionId : ConnectionId) (versions : List UInt32) :
    VersionNegotiationPacketBuilder :=
  writeVersionNegotiationPacket (UInt32.ofNat kDefaultUDPSendPacketLen) sourceConnectionId
    destinationConnectionId versions

end VersionNegotiationPacketBuilder

def readVersions : Bytes → List UInt32
  | a :: b :: c :: d :: rest => UInt32.ofNat (ofBE [a,b,c,d]) :: readVersions rest
  | _ => []

def decodeVersionNegotiation (initialByte : UInt8) (invariant : LongHeaderInvariant) (cursor : Bytes) :
    Option VersionNegotiationPacket :=
  if cursor.length < 4 || cursor.length % 4 != 0 then none
  else some ⟨initialByte,invariant.srcConnId,invariant.dstConnId,readVersions cursor⟩

def tryParsingVersionNegotiation : Bytes → Option VersionNegotiationPacket
  | [] => none
  | initialByte :: rest =>
    if getHeaderForm initialByte ≠ .long then none
    else match parseLongHeaderInvariant rest with
      | .error _ => none
      | .ok (invariant,cursor) =>
        if invariant.version ≠ 0 then none else decodeVersionNegotiation initialByte invariant cursor

structure RetryPacketBuilder where
  remainingBytes : Nat
  packetBuf : Bytes
  deriving DecidableEq, Repr

namespace RetryPacketBuilder

/-- Without space for the tag the packet cannot be built. -/
def make (sourceConnectionId destinationConnectionId : ConnectionId) (quicVersion : UInt32)
    (retryToken integrityTag : Bytes) : Except Error RetryPacketBuilder := do
  let header : LongHeader :=
    ⟨.retry,sourceConnectionId,destinationConnectionId,0,quicVersion,retryToken⟩
  let (_,bytes,remainingBytes) ← encodeLongHeaderHelper header kDefaultUDPSendPacketLen 0
  return if remainingBytes ≤ kRetryIntegrityTagLen then {remainingBytes := 0, packetBuf := bytes}
    else {remainingBytes := remainingBytes - kRetryIntegrityTagLen
          packetBuf := bytes ++ integrityTag}

def canBuildPacket (builder : RetryPacketBuilder) : Bool := builder.remainingBytes != 0

end RetryPacketBuilder

open VersionNegotiationPacketBuilder

def versionBytes (versions : List UInt32) : Bytes := versions.flatMap fun version => toBE 4 version.toNat

private theorem versionBytes_length (versions : List UInt32) :
    (versionBytes versions).length = 4 * versions.length := by
  induction versions with
  | nil => rfl
  | cons version rest ih =>
    simp only [versionBytes,List.flatMap_cons,List.length_append,toBE_length,List.length_cons] at ih ⊢
    omega

private theorem readVersions_versionBytes (versions : List UInt32) :
    readVersions (versionBytes versions) = versions := by
  induction versions with
  | nil => rfl
  | cons version rest ih =>
    have back : UInt32.ofNat (ofBE (toBE 4 version.toNat)) = version := by
      rw [ofBE_toBE_of_lt version.toNat_lt,UInt32.ofNat_toNat]
    change UInt32.ofNat (ofBE (toBE 4 version.toNat)) :: readVersions (versionBytes rest) = _
    rw [back,ih]

/-- A front of the versions is written; the next one would not have fitted. -/
private theorem writeVersions_front (builder : VersionNegotiationPacketBuilder)
    (versions : List UInt32) :
    ∃ written left, versions = written ++ left ∧
      (builder.writeVersions versions).data = builder.data ++ versionBytes written ∧
      4 * written.length ≤ builder.remainingBytes ∧
      (left ≠ [] → builder.remainingBytes < 4 * written.length + 4) := by
  induction versions generalizing builder with
  | nil => exact ⟨[],[],rfl,by simp [writeVersions,versionBytes],Nat.zero_le _,fun some => absurd rfl some⟩
  | cons version rest ih =>
    unfold writeVersions
    split
    · next full =>
      exact ⟨[],version :: rest,rfl,by simp [versionBytes],Nat.zero_le _,fun _ => by simpa using full⟩
    · next room =>
      obtain ⟨written,left,same,data,fits,full⟩ := ih _
      refine ⟨version :: written,left,by rw [same,List.cons_append],?_,?_,fun some => ?_⟩
      · rw [data]
        simp [versionBytes]
      · simp only [List.length_cons]
        have fits : 4 * written.length ≤ builder.remainingBytes - 4 := fits
        omega
      · have full : builder.remainingBytes - 4 < 4 * written.length + 4 := full some
        simp only [List.length_cons]
        omega

def negotiationHeaderSize (sourceConnectionId destinationConnectionId : ConnectionId) : Nat :=
  7 + sourceConnectionId.bytes.length + destinationConnectionId.bytes.length

private theorem invariantBytes_reads (version : UInt32) (src dst : ConnectionId) :
    Reads parseLongHeaderInvariant (invariantBytes version src dst) ⟨version,src,dst⟩ :=
  parseLongHeaderInvariant_reads version src dst

section Negotiation

variable {limit : UInt32} {src dst : ConnectionId} {versions : List UInt32}

private theorem tryParsing_written {written : List UInt32} (present : written ≠ []) :
    tryParsingVersionNegotiation
        ((kHeaderFormMask :: invariantBytes 0 src dst) ++ versionBytes written) =
      some ⟨kHeaderFormMask,src,dst,written⟩ := by
  have form : getHeaderForm kHeaderFormMask = .long := rfl
  have invariant := invariantBytes_reads 0 src dst (versionBytes written)
  have nonempty : 0 < written.length := List.length_pos_of_ne_nil present
  have words : ¬((versionBytes written).length < 4 || (versionBytes written).length % 4 != 0) = true := by
    rw [versionBytes_length]
    simp only [Bool.or_eq_true,decide_eq_true_eq,bne_iff_ne]
    omega
  rw [List.cons_append,tryParsingVersionNegotiation,if_neg (by simp [form])]
  rw [invariant]
  dsimp only
  rw [if_neg (by simp),decodeVersionNegotiation,if_neg words,readVersions_versionBytes]

private theorem negotiation_read_back (present : versions ≠ [])
    (admits : negotiationHeaderSize src dst + 4 ≤ limit.toNat) :
    ∃ written, written <+: versions ∧
      tryParsingVersionNegotiation (writeVersionNegotiationPacket limit src dst versions).data =
        some ⟨kHeaderFormMask,src,dst,written⟩ ∧
      negotiationHeaderSize src dst + 4 * written.length ≤ limit.toNat ∧
      ∀ longer, longer <+: versions →
        negotiationHeaderSize src dst + 4 * longer.length ≤ limit.toNat →
          longer.length ≤ written.length := by
  have size : (kHeaderFormMask :: invariantBytes 0 src dst).length = negotiationHeaderSize src dst := by
    simp only [invariantBytes,negotiationHeaderSize,List.length_append,toBE_length,List.length_cons,
      List.length_nil]
    omega
  have remaining : sub32 limit.toNat (kHeaderFormMask :: invariantBytes 0 src dst).length =
      limit.toNat - negotiationHeaderSize src dst := by
    rw [size]
    exact sub32_of_le (by omega) limit.toNat_lt
  obtain ⟨written,left,same,data,fits,full⟩ := writeVersions_front
    {remainingBytes := sub32 limit.toNat (kHeaderFormMask :: invariantBytes 0 src dst).length
     packet := ⟨kHeaderFormMask,src,dst,[]⟩
     data := kHeaderFormMask :: invariantBytes 0 src dst} versions
  dsimp only at data fits full
  rw [remaining] at fits full
  have begun : written ≠ [] := by
    rintro rfl
    rw [List.nil_append] at same
    have := full (same ▸ present)
    simp only [List.length_nil] at this
    omega
  refine ⟨written,⟨left,same.symm⟩,?_,by omega,fun longer front room => ?_⟩
  · rw [writeVersionNegotiationPacket,data]
    exact tryParsing_written begun
  · have most := front.length_le
    rw [same,List.length_append] at most
    by_cases ended : left = []
    · rw [ended] at most
      simpa using most
    · have := full ended
      omega

end Negotiation

section Retry

variable {src dst : ConnectionId} {version : UInt32} {token tag : Bytes}

def retryHeader (src dst : ConnectionId) (version : UInt32) (token : Bytes) : LongHeader :=
  ⟨.retry,src,dst,0,version,token⟩

def retryInitialByte : UInt8 := longHeaderInitialByte .retry 1

private theorem retry_encoded (spaceCounter : Nat) :
    ∃ left, encodeLongHeaderHelper (retryHeader src dst version token) spaceCounter 0 =
      .ok (⟨0,1⟩,retryInitialByte :: (invariantBytes version src dst ++ token),left) := by
  have number : encodePacketNumber 0 0 = .ok ⟨0,1⟩ := by decide +kernel
  simp only [encodeLongHeaderHelper,retryHeader,number,longHeaderToken,bind,Except.bind,pure,
    Except.pure,retryInitialByte,invariantBytes,List.cons_append,List.append_assoc,List.nil_append]
  exact ⟨_,rfl⟩

private theorem retry_variants (nodeType : QuicNodeType) (present : token ≠ [])
    (size : tag.length = kRetryIntegrityTagLen) :
    parseLongHeaderVariants .retry retryInitialByte ⟨version,src,dst⟩ nodeType (token ++ tag) =
      .ok (⟨retryHeader src dst version token,0⟩,tag) := by
  have some : 0 < token.length := List.length_pos_of_ne_nil present
  have longer : ¬(token ++ tag).length ≤ kRetryIntegrityTagLen := by
    rw [List.length_append]
    omega
  have tokenLen : (token ++ tag).length - kRetryIntegrityTagLen = token.length := by
    rw [List.length_append]
    omega
  rw [parseLongHeaderVariants,if_pos rfl,parseRetryVariants,if_neg longer]
  dsimp only
  rw [tokenLen,List.take_left' rfl,List.drop_left' rfl]
  rfl

end Retry

/-- Both packets are read back: the longest front of the versions that fits, and the ids, the token
and the tag of a retry, with nothing left over. -/
theorem negotiation_and_retry_read_back (src dst : ConnectionId) :
    (∀ (limit : UInt32) (versions : List UInt32), versions ≠ [] →
      negotiationHeaderSize src dst + 4 ≤ limit.toNat →
      ∃ written, written <+: versions ∧
        tryParsingVersionNegotiation (writeVersionNegotiationPacket limit src dst versions).data =
          some ⟨kHeaderFormMask,src,dst,written⟩ ∧
        negotiationHeaderSize src dst + 4 * written.length ≤ limit.toNat ∧
        ∀ longer, longer <+: versions →
          negotiationHeaderSize src dst + 4 * longer.length ≤ limit.toNat →
            longer.length ≤ written.length) ∧
    ∀ (version : UInt32) (token tag : Bytes), token ≠ [] → tag.length = kRetryIntegrityTagLen →
      ∃ builder, RetryPacketBuilder.make src dst version token tag = .ok builder ∧
        (builder.canBuildPacket →
          ∃ rest, builder.packetBuf = retryInitialByte :: rest ∧
            parseLongHeaderType retryInitialByte = .retry ∧
            parseLongHeaderInvariant rest = .ok (⟨version,src,dst⟩,token ++ tag) ∧
            (∀ nodeType, parseLongHeaderVariants .retry retryInitialByte ⟨version,src,dst⟩ nodeType
              (token ++ tag) = .ok (⟨retryHeader src dst version token,0⟩,tag)) ∧
            (version ≠ 0 → ∀ (codec : QuicReadCodec) now ackStates dstConnIdSize,
              codec.parsePacket now ackStates dstConnIdSize builder.packetBuf =
                (.ok (.retry (retryHeader src dst version token) tag retryInitialByte),[]))) := by
  refine ⟨fun _ _ present admits => negotiation_read_back present admits,?_⟩
  intro version token tag present size
  obtain ⟨left,encoded⟩ :=
    @retry_encoded src dst version token kDefaultUDPSendPacketLen
  have header : (⟨.retry,src,dst,0,version,token⟩ : LongHeader) = retryHeader src dst version token := rfl
  unfold RetryPacketBuilder.make
  dsimp only
  rw [header,encoded]
  refine ⟨_,rfl,fun builds => ?_⟩
  dsimp only at builds ⊢
  split at builds
  · cases builds
  · next room =>
    rw [if_neg room]
    have invariant := invariantBytes_reads version src dst (token ++ tag)
    have variants := fun nodeType => @retry_variants src dst version token tag nodeType present size
    refine ⟨invariantBytes version src dst ++ (token ++ tag),by simp,rfl,invariant,variants,?_⟩
    intro versioned codec now ackStates dstConnIdSize
    have form : getHeaderForm retryInitialByte = .long := rfl
    have type : parseLongHeaderType retryInitialByte = .retry := rfl
    simp only [List.cons_append,List.append_assoc,QuicReadCodec.parsePacket,form,
      QuicReadCodec.parseLongHeaderPacket,tryParseLongHeader,invariant,bind,Except.bind]
    rw [if_neg versioned,type,variants]
    dsimp only
    rw [if_pos (show (retryHeader src dst version token).headerType = .retry from rfl),← size,
      List.take_length]

private def shortId : ConnectionId := ⟨[1,2,3,5],by decide⟩

private def longId : ConnectionId := ⟨[9,8,7,6,5,4,3,2,1],by decide⟩

/-- Of three versions two fit into thirty bytes; the limit of the source leaves space behind all. -/
theorem negotiation_and_retry_read_back_ids :
    (∃ written, written <+: [1,0xff00001d,2] ∧
      tryParsingVersionNegotiation
        (writeVersionNegotiationPacket 30 shortId longId [1,0xff00001d,2]).data =
        some ⟨kHeaderFormMask,shortId,longId,written⟩ ∧ 2 ≤ written.length) ∧
    (∃ written, written <+: [1,0xff00001d,2] ∧
      tryParsingVersionNegotiation (make shortId longId [1,0xff00001d,2]).data =
        some ⟨kHeaderFormMask,shortId,longId,written⟩ ∧
      (make shortId longId [1,0xff00001d,2]).canBuildPacket) ∧
    ∃ builder, RetryPacketBuilder.make shortId longId 1 [7,8,9] (List.replicate 16 5) =
        .ok builder ∧ builder.canBuildPacket ∧
      ∀ (codec : QuicReadCodec) now ackStates dstConnIdSize,
        codec.parsePacket now ackStates dstConnIdSize builder.packetBuf =
          (.ok (.retry (retryHeader shortId longId 1 [7,8,9]) (List.replicate 16 5)
            retryInitialByte),[]) := by
  obtain ⟨negotiation,retry⟩ := negotiation_and_retry_read_back shortId longId
  obtain ⟨two,front,parsed,-,longest⟩ := negotiation 30 [1,0xff00001d,2] (by decide) (by decide)
  obtain ⟨all,prefixed,whole,-⟩ := negotiation (UInt32.ofNat kDefaultUDPSendPacketLen)
    [1,0xff00001d,2] (by decide) (by decide)
  obtain ⟨builder,made,read⟩ := retry 1 [7,8,9] (List.replicate 16 5) (by decide) (by decide)
  have room : builder.canBuildPacket = true := by
    cases made
    rfl
  obtain ⟨-,-,-,-,-,parses⟩ := read room
  refine ⟨⟨two,front,parsed,longest [1,0xff00001d] (by decide) (by decide)⟩,
    ⟨all,prefixed,whole,by decide⟩,builder,made,room,parses (by decide)⟩

end StreamServer.Codec
