import StreamServer.Codec.ReadCodec
import StreamServer.Codec.WriterSpecs

/-! A packet that is built, sealed and protected is read back by a receiver that has
the ciphers and expects a packet number near the one sent. -/
namespace StreamServer.Codec
open Protocol Lib.Wire Lib.Transition

private theorem mask_keeps {byte mask changed kept : UInt8} (disjoint : changed &&& kept = 0) :
    (byte ^^^ (mask &&& changed)) &&& kept = byte &&& kept := by
  have bits := congrArg UInt8.toBitVec disjoint
  apply UInt8.eq_of_toBitVec_eq
  simp only [UInt8.toBitVec_and,UInt8.toBitVec_xor] at *
  ext i inside
  have bit := congrArg (fun word => word.getLsbD i) bits
  simp at bit ⊢
  grind

private theorem masked_form (cipher : PacketNumberCipher) (sample : Bytes) (form : HeaderForm)
    (byte : UInt8) :
    getHeaderForm (cipher.maskInitialByte sample form byte) = getHeaderForm byte := by
  have kept : cipher.maskInitialByte sample form byte &&& kHeaderFormMask = byte &&& kHeaderFormMask :=
    mask_keeps (by cases form <;> decide)
  rw [getHeaderForm,getHeaderForm,kept]

theorem long_byte {type : LongHeaderType} {length : Nat} (least : 1 ≤ length)
    (most : length ≤ 4) (regular : type ≠ .retry) :
    parsePacketNumberLength (longHeaderInitialByte type length) = length ∧
      getHeaderForm (longHeaderInitialByte type length) = .long ∧
      longHeaderInitialByte type length &&& LongHeader.kPacketTypeMask = type.bits := by
  obtain rfl | rfl | rfl | rfl : length = 1 ∨ length = 2 ∨ length = 3 ∨ length = 4 := by omega
  all_goals
    cases type with
    | retry => exact absurd rfl regular
    | _ => decide

private theorem short_byte {length : Nat} (least : 1 ≤ length) (most : length ≤ 4) :
    parsePacketNumberLength (shortHeaderInitialByte .zero length) = length ∧
      getHeaderForm (shortHeaderInitialByte .zero length) = .short ∧
      shortHeaderInitialByte .zero length &&& kFixedBitMask ≠ 0 ∧
      shortHeaderInitialByte .zero length &&& ShortHeader.kReservedBitsMask = 0 ∧
      shortHeaderInitialByte .zero length &&& ShortHeader.kKeyPhaseMask = 0 := by
  obtain rfl | rfl | rfl | rfl : length = 1 ∨ length = 2 ∨ length = 3 ∨ length = 4 := by omega
  all_goals decide

/-- A protected header: the first byte, the bytes up to the packet number and the packet number. -/
def protectedHeader (form : HeaderForm) (headerCipher : PacketNumberCipher) (sample : Bytes)
    (initialByte : UInt8) (middle packetNumber : Bytes) : Bytes :=
  headerCipher.maskInitialByte sample form initialByte :: middle ++
    maskBytes (headerCipher.mask sample) packetNumber.length packetNumber

section Protection

variable {form : HeaderForm} {headerCipher : PacketNumberCipher} {initialByte : UInt8}
  {middle packetNumber encryptedBody : Bytes}
  (length : packetNumber.length = parsePacketNumberLength initialByte)

include length

theorem encryptPacketHeader_some
    (sampled : kMaxPacketNumEncodingSize + kSampleSize ≤ packetNumber.length + encryptedBody.length) :
    encryptPacketHeader form (initialByte :: middle ++ packetNumber) encryptedBody headerCipher =
      some (protectedHeader form headerCipher (headerSample packetNumber.length encryptedBody)
        initialByte middle packetNumber) := by
  have split : (middle ++ packetNumber).length - packetNumber.length = middle.length := by
    rw [List.length_append]
    omega
  have room : ¬encryptedBody.length <
      kMaxPacketNumEncodingSize - packetNumber.length + kSampleSize := by
    have most := parsePacketNumberLength_le initialByte
    unfold kMaxPacketNumEncodingSize at *
    omega
  simp only [List.cons_append,encryptPacketHeader,← length,split,if_neg room,
    PacketNumberCipher.cipherHeader,List.drop_left,List.take_left,protectedHeader]

theorem receiver_sample :
    ((protectedHeader form headerCipher (headerSample packetNumber.length encryptedBody) initialByte
        middle packetNumber ++ encryptedBody).drop (readSampleOffset (1 + middle.length))).take
          kSampleSize = headerSample packetNumber.length encryptedBody := by
  have most := parsePacketNumberLength_le initialByte
  have behind : readSampleOffset (1 + middle.length) =
      (protectedHeader form headerCipher (headerSample packetNumber.length encryptedBody) initialByte
        middle packetNumber).length + (kMaxPacketNumEncodingSize - packetNumber.length) := by
    simp only [protectedHeader,List.length_append,List.length_cons,maskBytes_length,readSampleOffset,
      kMaxPacketNumEncodingSize]
    omega
  rw [behind,List.drop_append,List.drop_of_length_le (Nat.le_add_right _ _),List.nil_append,
    Nat.add_sub_cancel_left,headerSample]

end Protection

theorem openPacket_protected {params : CodecParameters} {form : HeaderForm}
    {headerCipher : PacketNumberCipher} {cipher : LawfulAead} {initialByte : UInt8}
    {middle packetNumber body encryptedBody : Bytes} {expected packetNum : PacketNum}
    {parseHeader : UInt8 → PacketNum → Option PacketHeader} {header : PacketHeader}
    (length : packetNumber.length = parsePacketNumberLength initialByte)
    (sealed : encryptedBody =
      cipher.inplaceEncrypt body (initialByte :: middle ++ packetNumber) packetNum)
    (decoded : decodePacketNumber (ofBE packetNumber) packetNumber.length expected = packetNum)
    (parsed : parseHeader initialByte packetNum = some header) :
    openPacket params headerCipher cipher.toAead form (1 + middle.length) expected parseHeader
        (protectedHeader form headerCipher (headerSample packetNumber.length encryptedBody)
          initialByte middle packetNumber ++ encryptedBody) =
      (decodeRegularPacket header params body).map (.regularPacket header) := by
  have most := parsePacketNumberLength_le initialByte
  have sample := @receiver_sample form headerCipher initialByte middle packetNumber encryptedBody length
  generalize headerSample packetNumber.length encryptedBody = taken at *
  generalize masking : maskBytes (headerCipher.mask taken) packetNumber.length packetNumber = masked
  have size : masked.length = packetNumber.length := by rw [← masking,maskBytes_length]
  have shape : protectedHeader form headerCipher taken initialByte middle packetNumber ++
      encryptedBody = headerCipher.maskInitialByte taken form initialByte ::
        (middle ++ (masked ++ encryptedBody)) := by
    simp only [protectedHeader,masking,List.cons_append,List.append_assoc]
  rw [shape] at sample ⊢
  have range : ((headerCipher.maskInitialByte taken form initialByte ::
      (middle ++ (masked ++ encryptedBody))).drop (1 + middle.length)).take kMaxPacketNumEncodingSize =
      masked ++ encryptedBody.take (kMaxPacketNumEncodingSize - packetNumber.length) := by
    rw [Nat.add_comm,List.drop_succ_cons,List.drop_left,List.take_append,size,
      List.take_of_length_le (by rw [size,kMaxPacketNumEncodingSize]; omega)]
  have behind : (headerCipher.maskInitialByte taken form initialByte ::
      (middle ++ (masked ++ encryptedBody))).drop (1 + middle.length + packetNumber.length) =
      encryptedBody := by
    rw [← List.drop_drop,Nat.add_comm,List.drop_succ_cons,List.drop_left,← size,List.drop_left]
  have unmasked := decipherHeader_cipherHeader headerCipher taken form
    (encryptedBody.take (kMaxPacketNumEncodingSize - packetNumber.length)) length
  simp only [PacketNumberCipher.cipherHeader,← length,masking] at unmasked
  simp only [openPacket,sample,range,unmasked,parsePacketNumber,← length,List.take_left,decoded,
    parsed,behind,Nat.add_sub_cancel_left]
  rw [sealed,cipher.opens]
  dsimp only
  cases decodeRegularPacket header params body <;> rfl

private theorem readConnectionId_reads (connId : ConnectionId) :
    Reads (readConnectionId connId.bytes.length) connId.bytes connId := by
  intro rest
  have enough : ¬(connId.bytes ++ rest).length < connId.bytes.length := by
    rw [List.length_append]
    omega
  simp only [readConnectionId,dif_pos connId.bounded,if_neg enough,List.take_left,List.drop_left]

private theorem connIdLength_reads (connId : ConnectionId) (error : TransportErrorCode) :
    Reads (takeExactly error 1) [UInt8.ofNat connId.bytes.length] [UInt8.ofNat connId.bytes.length] ∧
      ofBE [UInt8.ofNat connId.bytes.length] = connId.bytes.length := by
  have small : connId.bytes.length ≤ 20 := connId.bounded
  refine ⟨takeExactly_reads error rfl,?_⟩
  simp only [ofBE,List.foldl,UInt8.toNat_ofNat']
  omega

theorem parseLongHeaderInvariant_reads (version : UInt32) (src dst : ConnectionId) :
    Reads parseLongHeaderInvariant
      (toBE 4 version.toNat ++ ([UInt8.ofNat dst.bytes.length] ++ (dst.bytes ++
        ([UInt8.ofNat src.bytes.length] ++ src.bytes)))) ⟨version,src,dst⟩ := by
  obtain ⟨dstLength,dstSize⟩ := connIdLength_reads dst .frameEncodingError
  obtain ⟨srcLength,srcSize⟩ := connIdLength_reads src .frameEncodingError
  refine (takeExactly_reads _ (toBE_length 4 _)).bind (dstLength.bind ?_)
  rw [dstSize]
  refine (readConnectionId_reads dst).bind (srcLength.bind ?_)
  rw [srcSize]
  have back : UInt32.ofNat (ofBE (toBE 4 version.toNat)) = version := by
    rw [ofBE_toBE_of_lt version.toNat_lt,UInt32.ofNat_toNat]
  refine (readConnectionId_reads src).last ?_
  rw [back]
  exact Reads.pure _

variable {bytes : Bytes} {nodeType : QuicNodeType} {encoding : PacketNumEncodingResult}

theorem headerInteger_reads {value : Nat} (encoded : QuicInteger.encode value = .ok bytes) :
    Reads headerInteger bytes value := by
  intro rest
  simp only [headerInteger,decode_encode encoded rest]

def tokenBytes (header : LongHeader) (tokenLengthInt : Bytes) : Bytes :=
  if header.headerType = .initial then tokenLengthInt ++ header.token else []

private theorem parseToken_reads {header : LongHeader} {tokenLengthInt : Bytes}
    (encoded : header.headerType = .initial → QuicInteger.encode header.token.length = .ok tokenLengthInt)
    (carried : header.headerType ≠ .initial → header.token = []) :
    Reads (parseToken header.headerType) (tokenBytes header tokenLengthInt) header.token := by
  unfold parseToken tokenBytes
  by_cases initial : header.headerType = .initial
  · rw [if_pos initial,if_pos initial]
    exact (headerInteger_reads (encoded initial)).bind (takeExactly_reads _ rfl)
  · rw [if_neg initial,if_neg initial,carried initial]
    exact Reads.pure _

/-- The bytes between the first one and the packet number of a long header. -/
def longHeaderMiddle (header : LongHeader) (tokenLengthInt pktLenBytes : Bytes) : Bytes :=
  toBE 4 header.version.toNat ++ ([UInt8.ofNat header.destinationConnId.bytes.length] ++
    (header.destinationConnId.bytes ++ ([UInt8.ofNat header.sourceConnId.bytes.length] ++
      header.sourceConnId.bytes))) ++ (tokenBytes header tokenLengthInt ++ pktLenBytes)

/-- What a receiver must not object to in a header: an Initial packet to a server has a destination
id of at least eight bytes, the version is not that of a negotiation, only an Initial packet has a
token, and of the key phases the first is in use. -/
def Acceptable (nodeType : QuicNodeType) : PacketHeader → Prop
  | .long header => header.headerType ≠ .retry ∧ header.version ≠ 0 ∧
      (header.headerType = .initial → nodeType = .server →
        kMinInitialDestinationConnIdLength ≤ header.destinationConnId.bytes.length) ∧
      (header.headerType ≠ .initial → header.token = [])
  | .short header => header.keyPhase = .zero

instance (nodeType : QuicNodeType) (header : PacketHeader) :
    Decidable (Acceptable nodeType header) := by
  cases header <;> unfold Acceptable <;> infer_instance

private theorem tryParseLongHeader_protected {header : LongHeader}
    {tokenLengthInt pktLenBytes tail : Bytes} {byte : UInt8}
    (acceptable : Acceptable nodeType (.long header))
    (typed : byte &&& LongHeader.kPacketTypeMask = header.headerType.bits)
    (token : header.headerType = .initial →
      QuicInteger.encode header.token.length = .ok tokenLengthInt)
    (sized : QuicInteger.encode tail.length = .ok pktLenBytes) (long : 4 ≤ tail.length) :
    tryParseLongHeader nodeType (byte :: (longHeaderMiddle header tokenLengthInt pktLenBytes ++ tail)) =
      .ok (⟨{header with packetSequenceNum := 0},tail.length⟩,tail) := by
  obtain ⟨regular,versioned,server,carried⟩ := acceptable
  have type : parseLongHeaderType byte = header.headerType := by
    unfold parseLongHeaderType
    rw [typed]
    cases header.headerType <;> rfl
  have invariant := parseLongHeaderInvariant_reads header.version header.sourceConnId
    header.destinationConnId (tokenBytes header tokenLengthInt ++ (pktLenBytes ++ tail))
  have most := parsePacketNumberLength_le byte
  have willing : ¬(header.headerType = .initial ∧ nodeType = .server ∧
      header.destinationConnId.bytes.length < kMinInitialDestinationConnIdLength) := by
    rintro ⟨initial,serving,short⟩
    exact absurd (server initial serving) (Nat.not_le.mpr short)
  have tokenRead := parseToken_reads token carried (pktLenBytes ++ tail)
  have lengthRead := headerInteger_reads sized tail
  have shape : longHeaderMiddle header tokenLengthInt pktLenBytes ++ tail =
      toBE 4 header.version.toNat ++ ([UInt8.ofNat header.destinationConnId.bytes.length] ++
        (header.destinationConnId.bytes ++ ([UInt8.ofNat header.sourceConnId.bytes.length] ++
          header.sourceConnId.bytes))) ++ (tokenBytes header tokenLengthInt ++ (pktLenBytes ++ tail)) := by
    simp only [longHeaderMiddle,List.append_assoc]
  have advances : ¬tail.length < parsePacketNumberLength byte := by omega
  rw [shape]
  simp only [tryParseLongHeader,invariant,bind,Except.bind]
  rw [if_neg versioned,type,parseLongHeaderVariants,if_neg regular,if_neg willing]
  simp only [bind,StateT.bind,Except.bind,tokenRead,lengthRead,canAdvance,Nat.lt_irrefl,if_false,
    if_neg advances]
  rfl

def HasCiphers (codec : QuicReadCodec) (headerCipher : PacketNumberCipher) (aead : Aead) :
    PacketHeader → Prop
  | .long header => match header.headerType with
    | .initial | .retry =>
      codec.initialHeaderCipher = some headerCipher ∧ codec.initialReadCipher = some aead
    | .handshake =>
      codec.handshakeHeaderCipher = some headerCipher ∧ codec.handshakeReadCipher = some aead
    | .zeroRtt =>
      codec.zeroRttHeaderCipher = some headerCipher ∧ codec.zeroRttReadCipher = some aead
  | .short _ => codec.oneRttHeaderCipher = some headerCipher ∧ codec.oneRttReadCipher = some aead

def ZeroRttRetained (codec : QuicReadCodec) (now : TimePoint) : PacketHeader → Prop
  | .long header => header.headerType = .zeroRtt →
      ∀ handshakeDoneTime ∈ codec.handshakeDoneTime, now - handshakeDoneTime ≤ kTimeToRetainZeroRttKeys
  | .short _ => True

private theorem longHeaderCiphers_some {codec : QuicReadCodec} {headerCipher : PacketNumberCipher}
    {aead : Aead} {now : TimePoint} {header : LongHeader}
    (ciphers : HasCiphers codec headerCipher aead (.long header))
    (retained : ZeroRttRetained codec now (.long header)) :
    codec.longHeaderCiphers now header.headerType = some (some headerCipher,some aead) := by
  unfold HasCiphers at ciphers
  unfold ZeroRttRetained at retained
  unfold QuicReadCodec.longHeaderCiphers
  cases type : header.headerType with
  | initial | retry | handshake =>
    simp only [type] at ciphers
    simp [ciphers.1,ciphers.2]
  | zeroRtt =>
    simp only [type] at ciphers
    simp only [ciphers.1,ciphers.2]
    cases done : codec.handshakeDoneTime with
    | none => rfl
    | some handshakeDoneTime =>
      have recent := retained type handshakeDoneTime done
      exact if_neg (Int.not_lt.mpr recent)

inductive HeaderBytes (packetNumLength encryptedLength : Nat) : PacketHeader → UInt8 → Bytes → Prop
  | long {header : LongHeader} {tokenLengthInt pktLenBytes : Bytes}
      (token : header.headerType = .initial →
        QuicInteger.encode header.token.length = .ok tokenLengthInt)
      (sized : QuicInteger.encode (packetNumLength + encryptedLength) = .ok pktLenBytes) :
      HeaderBytes packetNumLength encryptedLength (.long header)
        (longHeaderInitialByte header.headerType packetNumLength)
        (longHeaderMiddle header tokenLengthInt pktLenBytes)
  | short {header : ShortHeader} (phase : header.keyPhase = .zero) :
      HeaderBytes packetNumLength encryptedLength (.short header)
        (shortHeaderInitialByte .zero packetNumLength) header.connectionId.bytes

def receiverSampleOffset (nodeType : QuicNodeType) (dstConnIdSize : Nat) (packet : Bytes) : Option Nat :=
  match packet with
  | [] => none
  | initialByte :: _ =>
    match getHeaderForm initialByte with
    | .short => some (readSampleOffset (1 + dstConnIdSize))
    | .long =>
      match tryParseLongHeader nodeType packet with
      | .ok (_,rest) => some (readSampleOffset (packet.length - rest.length))
      | .error _ => none

section Receiver

variable {codec : QuicReadCodec} {headerCipher : PacketNumberCipher} {aead : LawfulAead}
  {now : TimePoint} {ackStates : AckStates} {header : PacketHeader} {initialByte : UInt8}
  {middle packetNumber body encryptedBody sample wire : Bytes} {dstConnIdSize : Nat}

/-- A packet whose parts the receiver can tell apart, whatever the mask. -/
structure Legible (nodeType : QuicNodeType) (dstConnIdSize : Nat) (header : PacketHeader)
    (initialByte : UInt8) (middle packetNumber encryptedBody : Bytes) : Prop where
  acceptable : Acceptable nodeType header
  sized : ∀ short, header = .short short → dstConnIdSize = short.connectionId.bytes.length
  bytes : HeaderBytes packetNumber.length encryptedBody.length header initialByte middle
  least : 1 ≤ packetNumber.length
  most : packetNumber.length ≤ 4
  sampled : kMaxPacketNumEncodingSize + kSampleSize ≤ packetNumber.length + encryptedBody.length

/-- The body is sealed under the packet number that the receiver makes out. -/
structure Opens (aead : LawfulAead) (ackStates : AckStates) (header : PacketHeader)
    (initialByte : UInt8) (middle packetNumber body encryptedBody : Bytes) : Prop where
  sealed : encryptedBody = aead.inplaceEncrypt body (initialByte :: middle ++ packetNumber)
    header.getPacketSequenceNum
  decoded : decodePacketNumber (ofBE packetNumber) packetNumber.length
    (ackStates.expectedNextPacketNum header.getPacketNumberSpace) = header.getPacketSequenceNum

private theorem Legible.firstByte
    (legible : Legible nodeType dstConnIdSize header initialByte middle packetNumber encryptedBody) :
    packetNumber.length = parsePacketNumberLength initialByte ∧
      getHeaderForm initialByte = header.form := by
  obtain ⟨acceptable,-,bytes,least,most,-⟩ := legible
  cases bytes with
  | long token sized =>
    obtain ⟨length,formed,-⟩ := long_byte least most acceptable.1
    exact ⟨length.symm,formed⟩
  | short phase =>
    obtain ⟨length,formed,-⟩ := short_byte least most
    exact ⟨length.symm,formed⟩

private theorem Legible.started
    (legible : Legible nodeType dstConnIdSize header initialByte middle packetNumber encryptedBody)
    (headerCipher : PacketNumberCipher) (sample : Bytes) :
    ∃ first rest, protectedHeader header.form headerCipher sample initialByte middle packetNumber ++
      encryptedBody = first :: rest ∧ getHeaderForm first = header.form :=
  ⟨_,_,rfl,(masked_form ..).trans legible.firstByte.2⟩

private theorem Legible.parsed {header : LongHeader} (legible : Legible nodeType dstConnIdSize
      (.long header) initialByte middle packetNumber encryptedBody)
    (headerCipher : PacketNumberCipher) (sample : Bytes) :
    ∃ tail, tail.length = packetNumber.length + encryptedBody.length ∧
      tryParseLongHeader nodeType
        (protectedHeader .long headerCipher sample initialByte middle packetNumber ++ encryptedBody) =
        .ok (⟨{header with packetSequenceNum := 0},tail.length⟩,tail) := by
  obtain ⟨acceptable,-,bytes,least,most,sampled⟩ := legible
  cases bytes with
  | long token sized =>
    have kept : headerCipher.maskInitialByte sample .long
        (longHeaderInitialByte header.headerType packetNumber.length) &&& LongHeader.kPacketTypeMask =
        header.headerType.bits := by
      rw [← (long_byte least most acceptable.1).2.2]
      exact mask_keeps (by decide)
    have tailLength : (maskBytes (headerCipher.mask sample) packetNumber.length packetNumber ++
        encryptedBody).length = packetNumber.length + encryptedBody.length := by
      rw [List.length_append,maskBytes_length]
    refine ⟨_,tailLength,?_⟩
    rw [← tailLength] at sized sampled
    rw [protectedHeader,List.append_assoc,List.cons_append]
    exact tryParseLongHeader_protected acceptable kept token sized (Nat.le_trans (by decide) sampled)

private theorem protected_length {form : HeaderForm} :
    (protectedHeader form headerCipher sample initialByte middle packetNumber ++ encryptedBody).length =
      1 + middle.length + (packetNumber.length + encryptedBody.length) := by
  simp only [protectedHeader,List.length_append,List.length_cons,maskBytes_length]
  omega

private theorem parseLongHeaderPacket_protected {header : LongHeader} (masked : UInt8)
    (legible : Legible codec.nodeType dstConnIdSize (.long header) initialByte middle packetNumber
      encryptedBody)
    (ciphers : HasCiphers codec headerCipher aead.toAead (.long header))
    (retained : ZeroRttRetained codec now (.long header))
    (opens : Opens aead ackStates (.long header) initialByte middle packetNumber body encryptedBody)
    (wired : protectedHeader .long headerCipher (headerSample packetNumber.length encryptedBody)
      initialByte middle packetNumber ++ encryptedBody = wire) :
    codec.parseLongHeaderPacket now ackStates masked wire =
      ((decodeRegularPacket (.long header) codec.params body).map (.regularPacket (.long header)),[]) := by
  have opened := @openPacket_protected codec.params .long headerCipher aead initialByte middle
    packetNumber body encryptedBody _ header.packetSequenceNum
    (fun _ packetNum => some (.long {header with packetSequenceNum := packetNum})) (.long header)
    legible.firstByte.1 opens.sealed opens.decoded rfl
  obtain ⟨tail,tailLength,parsed⟩ := legible.parsed headerCipher
    (headerSample packetNumber.length encryptedBody)
  have total : wire.length = 1 + middle.length + tail.length := by
    rw [← wired,protected_length,tailLength]
  rw [wired] at opened parsed
  have offset : wire.length - tail.length = 1 + middle.length := by omega
  have enough : ¬wire.length < readSampleOffset (1 + middle.length) + kSampleSize := by
    have := legible.sampled
    rw [total,tailLength,readSampleOffset]
    omega
  simp only [QuicReadCodec.parseLongHeaderPacket,parsed]
  rw [if_neg legible.acceptable.1,offset,← total,if_neg (Nat.lt_irrefl _),List.take_length,
    List.drop_length,if_neg enough,QuicReadCodec.openLongHeaderPacket,
    longHeaderCiphers_some ciphers retained]
  exact congrArg (·,_) opened

private theorem tryParseShortHeaderPacket_protected {header : ShortHeader}
    (legible : Legible codec.nodeType dstConnIdSize (.short header) initialByte middle packetNumber
      encryptedBody)
    (opens : Opens aead ackStates (.short header) initialByte middle packetNumber body encryptedBody)
    (wired : protectedHeader .short headerCipher (headerSample packetNumber.length encryptedBody)
      initialByte middle packetNumber ++ encryptedBody = wire) :
    codec.tryParseShortHeaderPacket headerCipher aead.toAead ackStates dstConnIdSize wire =
      (decodeRegularPacket (.short header) codec.params body).map (.regularPacket (.short header)) := by
  obtain ⟨acceptable,size,bytes,least,most,sampled⟩ := legible
  cases bytes with
  | short zero =>
    obtain ⟨length,formed,fixed,reserved,phase⟩ := short_byte least most
    have shape : wire.tail = header.connectionId.bytes ++ (maskBytes
        (headerCipher.mask (headerSample packetNumber.length encryptedBody)) packetNumber.length
          packetNumber ++ encryptedBody) := by
      rw [← wired]
      simp only [protectedHeader,List.cons_append,List.append_assoc,List.tail_cons]
    have enough : ¬wire.length <
        readSampleOffset (1 + header.connectionId.bytes.length) + kSampleSize := by
      rw [← wired,protected_length,readSampleOffset]
      omega
    obtain ⟨rest,parsed⟩ : ∃ rest, parseShortHeader (shortHeaderInitialByte .zero packetNumber.length)
        header.connectionId.bytes.length wire.tail = .ok ({header with packetSequenceNum := 0},rest) := by
      rw [parseShortHeader,if_neg (not_not.mpr formed),if_neg fixed,if_neg (not_not.mpr reserved),shape]
      simp only [bind,StateT.bind,Except.bind,readConnectionId_reads header.connectionId _,
        if_neg (not_not.mpr phase)]
      rw [← zero]
      exact ⟨_,rfl⟩
    rw [QuicReadCodec.tryParseShortHeaderPacket,size header rfl,if_neg enough,← wired]
    refine openPacket_protected length.symm opens.sealed opens.decoded ?_
    rw [wired]
    simp only [parsed]
    exact if_neg (by rw [zero]; decide)

theorem parsePacket_protected
    (legible : Legible codec.nodeType dstConnIdSize header initialByte middle packetNumber encryptedBody)
    (ciphers : HasCiphers codec headerCipher aead.toAead header)
    (retained : ZeroRttRetained codec now header)
    (opens : Opens aead ackStates header initialByte middle packetNumber body encryptedBody) :
    codec.parsePacket now ackStates dstConnIdSize
        (protectedHeader header.form headerCipher (headerSample packetNumber.length encryptedBody)
          initialByte middle packetNumber ++ encryptedBody) =
      ((decodeRegularPacket header codec.params body).map (.regularPacket header),[]) := by
  obtain ⟨first,rest,shape,formed⟩ := legible.started headerCipher
    (headerSample packetNumber.length encryptedBody)
  rw [shape]
  cases header with
  | long header =>
    simp only [QuicReadCodec.parsePacket,formed,PacketHeader.form]
    exact parseLongHeaderPacket_protected first legible ciphers retained opens shape
  | short header =>
    have read := @tryParseShortHeaderPacket_protected codec headerCipher aead ackStates initialByte
      middle packetNumber body encryptedBody _ dstConnIdSize header legible opens shape
    simp only [QuicReadCodec.parsePacket,formed,PacketHeader.form,ciphers.1,ciphers.2,read]
    cases decodeRegularPacket (.short header) codec.params body with
    | error error => rfl
    | ok frames =>
      simp only [Except.map]
      cases codec.matchedResetToken _ _ <;> rfl

theorem receiverSampleOffset_protected
    (legible : Legible nodeType dstConnIdSize header initialByte middle packetNumber encryptedBody) :
    receiverSampleOffset nodeType dstConnIdSize
        (protectedHeader header.form headerCipher sample initialByte middle packetNumber ++
          encryptedBody) = some (readSampleOffset (1 + middle.length)) := by
  obtain ⟨first,rest,shape,formed⟩ := legible.started headerCipher sample
  cases header with
  | long header =>
    obtain ⟨tail,tailLength,parsed⟩ := legible.parsed headerCipher sample
    have total := @protected_length headerCipher initialByte middle packetNumber encryptedBody sample
      .long
    rw [PacketHeader.form] at shape ⊢
    rw [shape] at parsed total ⊢
    simp only [receiverSampleOffset,formed,PacketHeader.form,parsed,total,tailLength,
      Nat.add_sub_cancel]
  | short header =>
    have bytes := legible.bytes
    cases bytes
    rw [shape,legible.sized header rfl]
    simp only [receiverSampleOffset,formed,PacketHeader.form]

end Receiver

/-- A builder for a packet of at most `limit` bytes, its header encoded. -/
def beginPacket (limit : Nat) (header : PacketHeader) (largestAckedPacketNum : PacketNum)
    (cipherOverhead : Nat) : Except Error PacketBuilder :=
  ((PacketBuilder.make limit header largestAckedPacketNum).accountForCipherOverhead
    cipherOverhead).encodePacketHeader

/-- The space counted for a header with a packet number of this length. -/
def headerSpace (packetNumLength : Nat) : PacketHeader → Nat
  | .long header => 1 + 4 + 1 + header.sourceConnId.bytes.length + 1 +
      header.destinationConnId.bytes.length +
      (if header.headerType = .initial then
        (getQuicIntegerSize header.token.length).getD 0 + header.token.length else 0) +
      (kMaxPacketLenSize + packetNumLength)
  | .short header => 1 + header.connectionId.bytes.length + packetNumLength

/-- The bytes of a header that are counted but written only when the packet is built. -/
def deferredSize (packetNumLength : Nat) : PacketHeader → Nat
  | .long header => if header.headerType = .retry then 0 else kMaxPacketLenSize + packetNumLength
  | .short _ => 0

/-- The space counted for any header; a retry has a token without a length and nothing deferred. -/
def headerSize (packetNumLength : Nat) : PacketHeader → Nat
  | .long header =>
    if header.headerType = .retry then 1 + 4 + 1 + header.sourceConnId.bytes.length + 1 +
      header.destinationConnId.bytes.length + header.token.length
    else headerSpace packetNumLength (.long header)
  | .short header => headerSpace packetNumLength (.short header)

/-- A builder that has its header and nothing else. -/
structure Begun (start : PacketBuilder) (header : PacketHeader) (encoding : PacketNumEncodingResult)
    (overhead room : Nat) : Prop where
  headed : start.header = header
  numbered : start.packetNumberEncoding = some encoding
  charged : start.cipherOverhead = overhead
  left : start.remainingBytes = room
  direct : start.diff = 0
  bare : start.body = []
  unrecorded : start.frames = []
  /-- The header can be completed for any body, and then has its known form. -/
  completes : ∀ after body, Extends start after body →
    encoding.length + body.length + overhead ≤ kEightByteLimit →
    ∃ initialByte middle, HeaderBytes encoding.length (body.length + overhead) header initialByte middle ∧
      after.finishHeader encoding =
        .ok (initialByte :: middle ++ toBE encoding.length encoding.result)

private theorem token_encodes {header : LongHeader}
    (small : header.headerType = .initial → header.token.length ≤ kEightByteLimit) :
    ∃ tokenLengthInt token, longHeaderToken header = .ok token ∧
      token = tokenBytes header tokenLengthInt ++
        (if header.headerType = .retry then header.token else []) ∧
      (header.headerType = .initial →
        QuicInteger.encode header.token.length = .ok tokenLengthInt) ∧
      ∀ packetNumLength, headerSize packetNumLength (.long header) = 1 + 4 + 1 +
        header.sourceConnId.bytes.length + 1 + header.destinationConnId.bytes.length + token.length +
          deferredSize packetNumLength (.long header) := by
  unfold longHeaderToken tokenBytes headerSize deferredSize headerSpace
  cases type : header.headerType with
  | initial =>
    obtain ⟨bytes,encoded⟩ := encode_total (small type)
    have counted : QuicInteger.getSize header.token.length = .ok bytes.length :=
      getSize_ok.mpr ⟨bytes,encoded,rfl⟩
    have size : (getQuicIntegerSize header.token.length).getD 0 = bytes.length := by
      unfold QuicInteger.getSize getQuicIntegerSizeThrows at counted
      split at counted
      next same => cases counted; rw [same]; rfl
      next => cases counted
    refine ⟨bytes,bytes ++ header.token,?_,by simp,fun _ => encoded,fun _ => ?_⟩
    · simp only [counted,encoded]
      rfl
    · simp [type,size]
  | retry => exact ⟨[],header.token,rfl,rfl,nofun,fun _ => by simp [type]⟩
  | zeroRtt | handshake => exact ⟨[],[],rfl,rfl,nofun,fun _ => by simp [type]⟩

private theorem token_le_headerSize {header : LongHeader} (initial : header.headerType = .initial)
    (packetNumLength : Nat) : header.token.length ≤ headerSize packetNumLength (.long header) := by
  simp only [headerSize,headerSpace,initial,if_true,if_neg (by decide : LongHeaderType.initial ≠ .retry)]
  omega

/-- What is written of a header at first; a long one lacks its length and its number. -/
inductive HeaderFront (encoding : PacketNumEncodingResult) : PacketHeader → Bytes → Prop
  | long {header : LongHeader} {tokenLengthInt : Bytes}
      (token : header.headerType = .initial →
        QuicInteger.encode header.token.length = .ok tokenLengthInt) :
      HeaderFront encoding (.long header) (longHeaderInitialByte header.headerType encoding.length ::
        longHeaderMiddle header tokenLengthInt
          (if header.headerType = .retry then header.token else []))
  | short {header : ShortHeader} :
      HeaderFront encoding (.short header) (shortHeaderInitialByte header.keyPhase encoding.length ::
        header.connectionId.bytes ++ toBE encoding.length encoding.result)

theorem encodePacketHeader_front {builder : PacketBuilder} {encoding : PacketNumEncodingResult}
    (small : builder.Counted) (fresh : builder.headerBuf = [])
    (encodable : encodePacketNumber builder.header.getPacketSequenceNum
      builder.largestAckedPacketNum = .ok encoding)
    (fits : headerSize encoding.length builder.header ≤ builder.remainingBytes) :
    ∃ buf, HeaderFront encoding builder.header buf ∧
      buf.length + deferredSize encoding.length builder.header =
        headerSize encoding.length builder.header ∧
      builder.encodePacketHeader = .ok {builder with
        packetNumberEncoding := some encoding
        headerBuf := buf
        remainingBytes := builder.remainingBytes - headerSize encoding.length builder.header} := by
  unfold PacketBuilder.Counted at small
  unfold PacketBuilder.encodePacketHeader
  cases headed : builder.header with
  | long header =>
    rw [headed] at encodable fits
    have short : header.headerType = .initial → header.token.length ≤ kEightByteLimit := fun initial =>
      Nat.le_trans (token_le_headerSize initial encoding.length) (by unfold kEightByteLimit; omega)
    obtain ⟨tokenLengthInt,token,tokens,same,written,size⟩ := token_encodes short
    have enough : ¬builder.remainingBytes < headerSize encoding.length (.long header) := by omega
    refine ⟨_,.long written,?_,?_⟩
    · rw [size,same]
      simp only [longHeaderMiddle,List.length_append,List.length_cons,List.length_nil,toBE_length]
      omega
    · dsimp only
      rw [encodeLongHeaderHelper,show encodePacketNumber header.packetSequenceNum _ = .ok encoding
        from encodable,tokens]
      simp only [bind,Except.bind,pure,Except.pure]
      rw [← deferredSize,← size,if_neg enough,fresh,same]
      simp only [longHeaderMiddle,List.append_assoc,List.cons_append,List.nil_append]
  | short header =>
    rw [headed] at encodable fits
    simp only [headerSize,headerSpace] at fits
    have enough : ¬builder.remainingBytes <
        1 + encoding.length + header.connectionId.bytes.length := by omega
    have left : sub32 (builder.remainingBytes - 1 - header.connectionId.bytes.length) encoding.length =
        builder.remainingBytes - headerSize encoding.length (.short header) := by
      rw [sub32_of_le (by omega) (by omega),headerSize,headerSpace]
      omega
    refine ⟨_,.short,?_,?_⟩
    · simp only [List.length_append,List.length_cons,toBE_length,deferredSize,headerSize,headerSpace]
      omega
    · dsimp only
      rw [encodeShortHeaderHelper,show encodePacketNumber header.packetSequenceNum _ = .ok encoding
        from encodable]
      simp only [bind,Except.bind,pure,Except.pure,if_neg enough,fresh,left,List.nil_append]

theorem beginPacket_begun {limit : Nat} {header : PacketHeader} {largestAcked overhead : Nat}
    (acceptable : Acceptable nodeType header)
    (encodable : encodePacketNumber header.getPacketSequenceNum largestAcked = .ok encoding)
    (small : limit < 2^32) (fits : headerSpace encoding.length header + overhead ≤ limit) :
    ∃ start, beginPacket limit header largestAcked overhead = .ok start ∧
      Begun start header encoding overhead (limit - overhead - headerSpace encoding.length header) := by
  have counted : sub32 limit overhead = limit - overhead := sub32_of_le (by omega) small
  have size : headerSize encoding.length header = headerSpace encoding.length header := by
    cases header with
    | long header => exact if_neg acceptable.1
    | short header => rfl
  obtain ⟨buf,front,-,encoded⟩ := @encodePacketHeader_front
    ((PacketBuilder.make limit header largestAcked).accountForCipherOverhead overhead) encoding
    (Nat.mod_lt _ (by decide)) rfl encodable (by
      change headerSize encoding.length header ≤ sub32 limit overhead
      rw [counted,size]
      exact Nat.le_sub_of_add_le fits)
  refine ⟨_,encoded,rfl,rfl,rfl,?_,rfl,rfl,rfl,fun after body step bounded => ?_⟩
  · show sub32 limit overhead - headerSize encoding.length header = _
    rw [counted,size]
  change HeaderFront encoding header buf at front
  rw [PacketBuilder.finishHeader,show after.header = header from step.header]
  cases front with
  | @long header tokenLengthInt token =>
    obtain ⟨pktLenBytes,sized⟩ := encode_total bounded
    have grown : after.body = body := step.body
    have chained : after.dataPathType = .chainedMemory := step.path
    rw [Nat.add_assoc] at sized
    refine ⟨_,_,.long token sized,?_⟩
    simp only [PacketBuilder.packetLength,chained,if_neg acceptable.1,grown,step.overhead,
      step.headerBuf,Nat.add_assoc,sized,PacketBuilder.make,PacketBuilder.accountForCipherOverhead]
    simp only [bind,Except.bind,pure,Except.pure,longHeaderMiddle,List.append_nil,
      List.append_assoc,List.cons_append]
  | short =>
    have zero : _ = KeyPhase.zero := acceptable
    refine ⟨_,_,.short zero,?_⟩
    simp only [step.headerBuf,zero]

/-- Building a packet: its header, then one frame after another. -/
def fillPacket (limit : Nat) (header : PacketHeader) (largestAckedPacketNum : PacketNum)
    (cipherOverhead : Nat) (writes : List FrameWrite) : Except Error PacketBuilder := do
  let start ← beginPacket limit header largestAckedPacketNum cipherOverhead
  run FrameWrite.perform start writes

theorem run_perform {writes : List FrameWrite} {start final : PacketBuilder} (small : start.Counted)
    (whole : ∀ write ∈ writes, write.wholeBlobs) (ran : run FrameWrite.perform start writes = .ok final) :
    final = start ∨ ∃ bytes, bytes ≠ [] ∧ Extends start final bytes ∧ final.empty = false := by
  induction writes generalizing start with
  | nil =>
    cases ran
    exact .inl rfl
  | cons write rest ih =>
    obtain ⟨next,performed,more⟩ := run_cons.mp ran
    have others : ∀ write ∈ rest, write.wholeBlobs := fun write inside => whole write (by simp [inside])
    rcases perform_cases small (whole write (by simp)) performed with rfl | ⟨bytes,some,step,marked⟩
    · exact ih small others more
    · rcases ih (step.counted small) others more with rfl | ⟨behind,_,further,marked⟩
      · exact .inr ⟨bytes,some,step,marked⟩
      · exact .inr ⟨bytes ++ behind,by simp [some],step.trans further,marked⟩

private theorem buildPacket_sampled {start final : PacketBuilder} {header : PacketHeader}
    {room : Nat} (begun : Begun start header encoding 16 room) (small : room < 2^14)
    (least : 1 ≤ encoding.length) (most : encoding.length ≤ 4) (enough : 5 ≤ room)
    (some : bytes ≠ []) (step : Extends start final bytes) (marked : final.empty = false) :
    ∃ padding initialByte middle, final.buildPacket = .ok ⟨⟨header,final.frames⟩,
        initialByte :: middle ++ toBE encoding.length encoding.result,
        final.body ++ List.replicate padding 0⟩ ∧
      HeaderBytes encoding.length ((final.body ++ List.replicate padding 0).length + 16) header
        initialByte middle ∧
      kMaxPacketNumEncodingSize + kSampleSize ≤
        encoding.length + ((final.body ++ List.replicate padding 0).length + 16) := by
  have counted : start.Counted := by
    unfold PacketBuilder.Counted
    rw [begun.left]
    omega
  have body : final.body = bytes := by rw [step.body,begun.bare,List.nil_append]
  have positive : 0 < bytes.length := List.length_pos_of_ne_nil some
  have fits := Nat.le_trans step.fits start.space_le
  have left := step.left
  rw [begun.left] at fits left
  have charged : final.cipherOverhead = 16 := step.overhead.trans begun.charged
  obtain ⟨padding,padded,less,stopped⟩ := padToMinBodySize_spec
    (kMaxPacketNumEncodingSize - encoding.length + kSampleSize - (final.body.length + 16))
    (step.counted counted) marked (step.withheld.trans begun.direct)
  have grown := padded.body
  have short := Nat.le_trans padded.fits final.space_le
  rw [List.length_replicate] at short
  have all := step.trans padded
  have size : (bytes ++ List.replicate padding (0 : UInt8)).length = bytes.length + padding := by
    rw [List.length_append,List.length_replicate]
  obtain ⟨initialByte,middle,headerBytes,finished⟩ := begun.completes _ _ all
    (by rw [size,kEightByteLimit]; omega)
  rw [← body] at headerBytes positive left size
  refine ⟨padding,initialByte,middle,?_,headerBytes,?_⟩
  · rw [PacketBuilder.buildPacket,step.encoding.trans begun.numbered]
    simp only [charged,finished,grown,step.header.trans begun.headed]
    rfl
  · rw [size]
    unfold kMaxPacketNumEncodingSize kSampleSize kMaxPacketLenSize at *
    omega

/-- A packet of any frames, built within the limit and protected, is read back by a receiver that
has its ciphers, does not object to its header and expects a number near its own: the header, the
packet number and the decoding of its body. Both sides take the sample from the same bytes of the
sealed body. -/
theorem packet_protection_round_trip {limit : Nat} {header : PacketHeader} {largestAcked : PacketNum}
    {encoding : PacketNumEncodingResult} {writes : List FrameWrite} {final : PacketBuilder}
    {aead : LawfulAead} {headerCipher : PacketNumberCipher} {codec : QuicReadCodec} {now : TimePoint}
    {ackStates : AckStates} {dstConnIdSize : Nat}
    (acceptable : Acceptable codec.nodeType header)
    (encodable : encodePacketNumber header.getPacketSequenceNum largestAcked = .ok encoding)
    (valid : header.getPacketSequenceNum < 2^62) (limited : limit ≤ 16383)
    (overhead : aead.getCipherOverhead = 16)
    (room : headerSpace encoding.length header + 16 + 5 ≤ limit)
    (whole : ∀ write ∈ writes, write.wholeBlobs)
    (filled : fillPacket limit header largestAcked 16 writes = .ok final)
    (framed : final.frames ≠ []) (ciphers : HasCiphers codec headerCipher aead.toAead header)
    (retained : ZeroRttRetained codec now header)
    (sized : ∀ short, header = .short short → dstConnIdSize = short.connectionId.bytes.length)
    (window : InDecodingWindow encoding.length
      (ackStates.expectedNextPacketNum header.getPacketNumberSpace) header.getPacketSequenceNum) :
    ∃ built wire padding, final.buildPacket = .ok built ∧ built.packet = ⟨header,final.frames⟩ ∧
      built.body = final.body ++ List.replicate padding 0 ∧
      protectPacket aead.toAead headerCipher built = some wire ∧
      codec.parsePacket now ackStates dstConnIdSize wire =
        ((decodeRegularPacket header codec.params built.body).map (.regularPacket header),[]) ∧
      let offset := built.header.length + (kMaxPacketNumEncodingSize - encoding.length)
      receiverSampleOffset codec.nodeType dstConnIdSize wire = some offset ∧
        offset + kSampleSize ≤ wire.length ∧
        (wire.drop offset).take kSampleSize = headerSample encoding.length
          (aead.inplaceEncrypt built.body built.header header.getPacketSequenceNum) := by
  obtain ⟨least,most,truncated⟩ := encodePacketNumber_ok encodable
  obtain ⟨start,beginning,ran⟩ := bind_ok.mp filled
  obtain ⟨_,same,begun⟩ := beginPacket_begun acceptable encodable
    (Nat.lt_of_le_of_lt limited (by decide)) (Nat.le_trans (Nat.le_add_right _ 5) room)
  cases beginning.symm.trans same
  have counted : start.Counted := by
    unfold PacketBuilder.Counted
    rw [begun.left]
    omega
  rcases run_perform counted whole ran with rfl | ⟨bytes,some,step,marked⟩
  · exact absurd begun.unrecorded framed
  obtain ⟨padding,initialByte,middle,built,headerBytes,sampled⟩ :=
    buildPacket_sampled begun (by omega) least most (by omega) some step marked
  generalize wholeBody : final.body ++ List.replicate padding 0 = body at *
  generalize numbered : toBE encoding.length encoding.result = packetNumber at *
  have length : packetNumber.length = encoding.length := by rw [← numbered,toBE_length]
  have decoded : decodePacketNumber (ofBE packetNumber) encoding.length
      (ackStates.expectedNextPacketNum header.getPacketNumberSpace) = header.getPacketSequenceNum := by
    have digits : 256^encoding.length = 2^(8 * encoding.length) := by
      rw [Nat.pow_mul]
    rw [← numbered,ofBE_toBE,truncated,digits,Nat.mod_mod]
    exact decodePacketNumber_window least most valid window
  generalize sealing : aead.inplaceEncrypt body (initialByte :: middle ++ packetNumber)
    header.getPacketSequenceNum = encryptedBody
  have sealedLength : encryptedBody.length = body.length + 16 := by rw [← sealing,aead.adds,overhead]
  rw [← length] at least most decoded headerBytes sampled ⊢
  rw [← sealedLength] at headerBytes sampled
  have legible : Legible codec.nodeType dstConnIdSize header initialByte middle packetNumber
      encryptedBody := ⟨acceptable,sized,headerBytes,least,most,sampled⟩
  have firstByte := legible.firstByte.1
  have hidden : encryptPacketHeader header.form (initialByte :: middle ++ packetNumber) encryptedBody
      headerCipher = _ := encryptPacketHeader_some firstByte sampled
  have offset : (initialByte :: middle ++ packetNumber).length +
      (kMaxPacketNumEncodingSize - packetNumber.length) = readSampleOffset (1 + middle.length) := by
    rw [List.length_append,List.length_cons,readSampleOffset,kMaxPacketNumEncodingSize]
    omega
  refine ⟨⟨⟨header,final.frames⟩,initialByte :: middle ++ packetNumber,body⟩,_,padding,built,rfl,
    wholeBody.symm,?_,parsePacket_protected legible ciphers retained ⟨sealing.symm,decoded⟩,?_⟩
  · simp only [protectPacket,sealing,hidden,Option.map_some]
  · simp only [offset,sealing]
    refine ⟨receiverSampleOffset_protected legible,?_,receiver_sample firstByte⟩
    rw [protected_length,readSampleOffset]
    omega

def taggingAead : LawfulAead where
  inplaceEncrypt plaintext _ _ := plaintext ++ List.replicate 16 0
  tryDecrypt ciphertext _ _ := some (ciphertext.take (ciphertext.length - 16))
  getCipherOverhead := 16
  opens plaintext _ _ := by
    rw [List.length_append,List.length_replicate,Nat.add_sub_cancel,List.take_left]
  adds plaintext _ _ := by
    rw [List.length_append,List.length_replicate]

def samplingCipher : PacketNumberCipher := ⟨fun sample index => sample.getD index 0⟩

def taggingCodec (nodeType : QuicNodeType) : QuicReadCodec :=
  {nodeType
   initialReadCipher := some taggingAead.toAead
   oneRttReadCipher := some taggingAead.toAead
   initialHeaderCipher := some samplingCipher
   oneRttHeaderCipher := some samplingCipher}

private def idHeader : PacketHeader := .short ⟨.zero,⟨[1,2,3,4],by decide⟩,70000⟩

private def threeWrites : List FrameWrite :=
  [.frame .ping,.crypto 40 [5,6,7],.stream 4 300 [1,2,3] 3 true none none]

private def received : AckStates := fun _ => {largestRecvdPacketNum := some 69990}

theorem packet_protection_round_trip_three :
    ∃ final built wire, fillPacket 1200 idHeader 69000 16 threeWrites = .ok final ∧
      final.frames.length = 3 ∧ final.buildPacket = .ok built ∧
      protectPacket taggingAead.toAead samplingCipher built = some wire ∧
      (taggingCodec .client).parsePacket 0 received 4 wire =
        ((decodeRegularPacket idHeader {} built.body).map (.regularPacket idHeader),[]) := by
  obtain ⟨final,filled,framed⟩ : ∃ final,
      fillPacket 1200 idHeader 69000 16 threeWrites = .ok final ∧ final.frames.length = 3 :=
    ⟨_,rfl,by decide⟩
  obtain ⟨built,wire,-,finished,-,-,hidden,read,-⟩ := @packet_protection_round_trip 1200 idHeader
    69000 ⟨4464,2⟩ threeWrites final taggingAead samplingCipher (taggingCodec .client) 0 received 4
    rfl rfl (by decide) (by decide) rfl (by decide)
    (by simp [threeWrites,FrameWrite.wholeBlobs,wholeBlob]) filled
    (fun none => by rw [none] at framed; cases framed)
    ⟨rfl,rfl⟩ trivial (by rintro short ⟨⟩; rfl) (by decide)
  exact ⟨final,built,wire,filled,framed,finished,hidden,read⟩

/-- A server drops an Initial packet whose destination id is shorter than eight bytes. -/
theorem short_destination_id_dropped :
    ∃ final built wire,
      fillPacket 1200 (.long ⟨.initial,.empty,.empty,0,1,[]⟩) 0 16 [.frame .ping] = .ok final ∧
      final.frames = [.ping] ∧ final.buildPacket = .ok built ∧
      protectPacket taggingAead.toAead samplingCipher built = some wire ∧
      HasCiphers (taggingCodec .server) samplingCipher taggingAead.toAead
        (.long ⟨.initial,.empty,.empty,0,1,[]⟩) ∧
      InDecodingWindow 1 0 0 ∧
      (taggingCodec .server).parsePacket 0 (fun _ => {}) 0 wire = (.ok .nothing,[]) :=
  ⟨_,_,_,rfl,rfl,rfl,rfl,⟨rfl,rfl⟩,by decide,rfl⟩

end StreamServer.Codec
