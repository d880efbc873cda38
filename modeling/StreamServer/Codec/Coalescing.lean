import StreamServer.Codec.ReadCodec

/-! Packets that share a datagram. Every call of the parser shortens the queue, a long
packet that declares its own length is parsed as if nothing followed it, and what
cannot be opened may still be a stateless reset. -/
namespace StreamServer.Codec
open Protocol Lib.Wire

/-- The bytes of an Initial, 0-RTT or Handshake packet: the fields of its header can be read, and
the length it declares is that of the bytes behind them, at least twenty. -/
structure DeclaredPacket (type : LongHeaderType) (invariant : LongHeaderInvariant)
    (initialByte : UInt8) (fields payload : Bytes) (token : Bytes) : Prop where
  formed : getHeaderForm initialByte = .long
  typed : parseLongHeaderType initialByte = type
  regular : type ≠ .retry
  versioned : invariant.version ≠ 0
  fields : ∃ invariantBytes tokenBytes lengthBytes, fields = invariantBytes ++ (tokenBytes ++ lengthBytes) ∧
    Reads parseLongHeaderInvariant invariantBytes invariant ∧
    Reads (parseToken type) tokenBytes token ∧ Reads headerInteger lengthBytes payload.length
  long : kMaxPacketNumEncodingSize + kSampleSize ≤ payload.length

/-- A server refuses Initial packets with a destination id of less than eight bytes. -/
def Accepts (nodeType : QuicNodeType) (type : LongHeaderType) (invariant : LongHeaderInvariant) : Prop :=
  type = .initial → nodeType = .server →
    kMinInitialDestinationConnIdLength ≤ invariant.dstConnId.bytes.length

variable {codec : QuicReadCodec} {now : TimePoint} {ackStates : AckStates} {dstConnIdSize : Nat}
  {type : LongHeaderType} {invariant : LongHeaderInvariant} {initialByte : UInt8}
  {fields payload token queue data : Bytes} {headerCipher : PacketNumberCipher}

private theorem tryParseLongHeader_declared
    (packet : DeclaredPacket type invariant initialByte fields payload token)
    (accepts : Accepts codec.nodeType type invariant) (more : Bytes) :
    tryParseLongHeader codec.nodeType (initialByte :: fields ++ payload ++ more) =
      .ok (⟨invariant.toHeader type token,payload.length⟩,payload ++ more) := by
  obtain ⟨invariantBytes,tokenBytes,lengthBytes,rfl,first,second,third⟩ := packet.fields
  have willing : ¬(type = .initial ∧ codec.nodeType = .server ∧
      invariant.dstConnId.bytes.length < kMinInitialDestinationConnIdLength) := by
    rintro ⟨initial,serving,short⟩
    exact absurd (accepts initial serving) (Nat.not_le.mpr short)
  have shape : initialByte :: (invariantBytes ++ (tokenBytes ++ lengthBytes)) ++ payload ++ more =
      initialByte :: (invariantBytes ++ (tokenBytes ++ (lengthBytes ++ (payload ++ more)))) := by
    simp only [List.cons_append,List.append_assoc]
  have long := packet.long
  have most := parsePacketNumberLength_le initialByte
  have declared : ¬(payload ++ more).length < payload.length := by
    rw [List.length_append]
    omega
  have numbered : ¬(payload ++ more).length < parsePacketNumberLength initialByte := by
    rw [List.length_append]
    unfold kMaxPacketNumEncodingSize at long
    omega
  rw [shape]
  simp only [tryParseLongHeader,bind,Except.bind,first (tokenBytes ++ (lengthBytes ++ (payload ++ more)))]
  rw [if_neg packet.versioned,packet.typed,parseLongHeaderVariants,if_neg packet.regular,if_neg willing]
  simp only [bind,StateT.bind,Except.bind,second (lengthBytes ++ (payload ++ more)),
    third (payload ++ more),canAdvance,if_neg declared,if_neg numbered]
  rfl

private theorem parsePacket_declared
    (packet : DeclaredPacket type invariant initialByte fields payload token)
    (accepts : Accepts codec.nodeType type invariant) (more : Bytes) :
    codec.parsePacket now ackStates dstConnIdSize (initialByte :: fields ++ payload ++ more) =
      ((codec.parsePacket now ackStates dstConnIdSize (initialByte :: fields ++ payload)).1,more) := by
  have read (more : Bytes) : codec.parsePacket now ackStates dstConnIdSize
      (initialByte :: fields ++ payload ++ more) = codec.parseLongHeaderPacket now ackStates initialByte
        (initialByte :: fields ++ payload ++ more) := by
    simp only [List.cons_append,QuicReadCodec.parsePacket,packet.formed]
  have parse (more : Bytes) : codec.parseLongHeaderPacket now ackStates initialByte
      (initialByte :: fields ++ payload ++ more) = (codec.openLongHeaderPacket now ackStates
        (invariant.toHeader type token) (1 + fields.length) (initialByte :: fields ++ payload),more) := by
    have total : (initialByte :: fields ++ payload).length = 1 + fields.length + payload.length := by
      rw [List.length_append,List.length_cons]
      omega
    have offset : (initialByte :: fields ++ payload ++ more).length - (payload ++ more).length =
        1 + fields.length := by
      rw [List.length_append,total,List.length_append]
      omega
    have whole : ¬(initialByte :: fields ++ payload ++ more).length <
        (initialByte :: fields ++ payload).length := by
      rw [List.length_append]
      omega
    have sampled : ¬(initialByte :: fields ++ payload).length <
        readSampleOffset (1 + fields.length) + kSampleSize := by
      have long := packet.long
      rw [total,readSampleOffset]
      omega
    have regular : ¬(invariant.toHeader type token).headerType = .retry := packet.regular
    simp only [QuicReadCodec.parseLongHeaderPacket,tryParseLongHeader_declared packet accepts more]
    rw [if_neg regular,offset,← total,if_neg whole,List.take_left,List.drop_left,if_neg sampled]
  have alone := (read []).trans (parse [])
  rw [List.append_nil] at alone
  rw [read,parse,alone]

structure Round where
  codec : QuicReadCodec
  now : TimePoint
  ackStates : AckStates
  dstConnIdSize : Nat

def Round.leaves (round : Round) (queue : Bytes) : Bytes :=
  (round.codec.parsePacket round.now round.ackStates round.dstConnIdSize queue).2

theorem parsePacket_shortens (some : queue ≠ []) :
    (codec.parsePacket now ackStates dstConnIdSize queue).2.length < queue.length := by
  cases queue with
  | nil => exact absurd rfl some
  | cons initialByte rest =>
    have nonempty : (0 : Nat) < (initialByte :: rest).length := Nat.succ_pos _
    unfold QuicReadCodec.parsePacket
    dsimp only
    split
    · unfold QuicReadCodec.parseLongHeaderPacket
      split
      · exact nonempty
      next parsed tail _ =>
        dsimp only
        split_ifs with retry truncated short
        · exact nonempty
        · exact nonempty
        · exact nonempty
        · have left : ((initialByte :: rest).drop ((initialByte :: rest).length - tail.length +
              parsed.packetLength)).length < (initialByte :: rest).length := by
            -- There was room for a sample, so the packet that is split off is not empty.
            rw [List.length_take,readSampleOffset,kMaxPacketNumEncodingSize] at short
            rw [List.length_drop]
            omega
          exact left
    · split <;> exact nonempty

private theorem leaves_empty (rounds : List Round) :
    rounds.foldl (fun queue round => round.leaves queue) [] = [] := by
  induction rounds with
  | nil => rfl
  | cons round rest ih => exact ih

theorem parse_loop_ends (rounds : List Round) (queue : Bytes) (enough : queue.length ≤ rounds.length) :
    rounds.foldl (fun queue round => round.leaves queue) queue = [] := by
  induction rounds generalizing queue with
  | nil => exact List.length_eq_zero_iff.mp (Nat.le_zero.mp enough)
  | cons round rest ih =>
    by_cases none : queue = []
    · subst none
      exact leaves_empty (round :: rest)
    · have shorter : (round.leaves queue).length < queue.length := parsePacket_shortens none
      rw [List.length_cons] at enough
      apply ih
      exact Nat.le_of_lt_succ (Nat.lt_of_lt_of_le shorter enough)

variable {token : StatelessResetToken}

private theorem openPacket_no_reset {params : CodecParameters} {cipher : Aead} {form : HeaderForm}
    {offset : Nat} {expected : PacketNum} {parseHeader : UInt8 → PacketNum → Option PacketHeader} :
    openPacket params headerCipher cipher form offset expected parseHeader data ≠
      .ok (.statelessReset token) := by
  intro reset
  unfold openPacket at reset
  split at reset
  · cases reset
  · dsimp only at reset
    split at reset
    · cases reset
    · split at reset
      · cases reset
      · obtain ⟨frames,-,done⟩ := Lib.Transition.bind_ok.mp reset
        cases done

private theorem longHeader_no_reset :
    (codec.parseLongHeaderPacket now ackStates initialByte queue).1 ≠ .ok (.statelessReset token) := by
  unfold QuicReadCodec.parseLongHeaderPacket
  split
  · exact nofun
  · dsimp only
    split_ifs
    · exact nofun
    · exact nofun
    · exact nofun
    · unfold QuicReadCodec.openLongHeaderPacket
      dsimp only
      split
      · exact nofun
      · exact openPacket_no_reset
      · exact nofun

/-- What makes a datagram a stateless reset for this receiver. -/
structure IsReset (codec : QuicReadCodec) (ackStates : AckStates) (dstConnIdSize : Nat) (queue : Bytes)
    (token : StatelessResetToken) : Prop where
  short : ∃ initialByte rest, queue = initialByte :: rest ∧ getHeaderForm initialByte = .short ∧
    initialByte &&& kFixedBitMask ≠ 0
  client : codec.nodeType = .client
  known : codec.statelessResetToken = some token
  long : kStatelessResetTokenLength < queue.length
  ends : queue.drop (queue.length - kStatelessResetTokenLength) = token.bytes
  unopened : ∃ headerCipher cipher, codec.oneRttHeaderCipher = some headerCipher ∧
    codec.oneRttReadCipher = some cipher ∧
    codec.tryParseShortHeaderPacket headerCipher cipher ackStates dstConnIdSize queue = .ok .nothing

private theorem matchedResetToken_iff :
    codec.matchedResetToken initialByte data = some token ↔
      codec.statelessResetToken = some token ∧ codec.nodeType = .client ∧
        initialByte &&& kFixedBitMask ≠ 0 ∧ kStatelessResetTokenLength < data.length ∧
        data.drop (data.length - kStatelessResetTokenLength) = token.bytes := by
  unfold QuicReadCodec.matchedResetToken
  cases codec.statelessResetToken with
  | none => simp
  | some known =>
    simp only [Option.some.injEq]
    constructor
    · intro matched
      split at matched
      next facts =>
        cases matched
        exact ⟨rfl,facts⟩
      next => cases matched
    · rintro ⟨rfl,facts⟩
      rw [if_pos facts]

theorem reset_iff :
    (codec.parsePacket now ackStates dstConnIdSize queue).1 = .ok (.statelessReset token) ↔
      IsReset codec ackStates dstConnIdSize queue token := by
  constructor
  · intro reset
    unfold QuicReadCodec.parsePacket at reset
    split at reset
    · cases reset
    next initialByte rest =>
      split at reset
      · exact absurd reset longHeader_no_reset
      next formed =>
        split at reset
        next headerCipher cipher headerKnown known =>
          obtain ⟨packet,opened,same⟩ := Lib.Transition.bind_ok.mp reset
          simp only [pure,Except.pure,Except.ok.injEq] at same
          split at same
          next found matched =>
            cases same
            obtain ⟨given,client,fixed,long,ends⟩ := matchedResetToken_iff.mp matched
            exact ⟨⟨initialByte,rest,rfl,formed,fixed⟩,client,given,long,ends,headerCipher,cipher,
              headerKnown,known,opened⟩
          next =>
            subst same
            unfold QuicReadCodec.tryParseShortHeaderPacket at opened
            dsimp only at opened
            split at opened
            · cases opened
            · exact absurd opened openPacket_no_reset
        next => cases reset
  · rintro ⟨⟨initialByte,rest,rfl,formed,fixed⟩,client,given,long,ends,headerCipher,cipher,headerKnown,
      known,opened⟩
    have matched := matchedResetToken_iff.mpr ⟨given,client,fixed,long,ends⟩
    simp only [QuicReadCodec.parsePacket,formed,headerKnown,known,opened,matched]
    rfl

/-- The operands of the subtractions of lengths that a call of the parser computes: the bytes of the
invariant fields, the token of a retry, the bytes behind the packet number, and the place of the
token of a reset. -/
def lengthSubtractions (codec : QuicReadCodec) (now : TimePoint) (queue : Bytes) : List (Nat × Nat) :=
  match queue with
  | [] => []
  | initialByte :: rest =>
    match getHeaderForm initialByte with
    | .short =>
      if codec.statelessResetToken.isSome ∧ codec.nodeType = .client ∧
          initialByte &&& kFixedBitMask ≠ 0 ∧ queue.length > kStatelessResetTokenLength then
        [(queue.length,kStatelessResetTokenLength)]
      else []
    | .long => invariantFields rest ++ retryToken initialByte rest ++ behindNumber initialByte
where
  invariantFields (rest : Bytes) : List (Nat × Nat) :=
    match parseLongHeaderInvariant rest with
    | .error _ => []
    | .ok (_,cursor) => [(rest.length,cursor.length)]
  retryToken (initialByte : UInt8) (rest : Bytes) : List (Nat × Nat) :=
    match parseLongHeaderInvariant rest with
    | .error _ => []
    | .ok (_,cursor) =>
      if parseLongHeaderType initialByte = .retry ∧ ¬cursor.length ≤ kRetryIntegrityTagLen then
        [(cursor.length,kRetryIntegrityTagLen)]
      else []
  behindNumber (initialByte : UInt8) : List (Nat × Nat) :=
    match tryParseLongHeader codec.nodeType queue with
    | .error _ => []
    | .ok (parsed,cursor) =>
      let packetNumberOffset := queue.length - cursor.length
      let currentPacketData := queue.take (packetNumberOffset + parsed.packetLength)
      if parsed.header.headerType = .retry ∨ queue.length < packetNumberOffset + parsed.packetLength ∨
          currentPacketData.length < readSampleOffset packetNumberOffset + kSampleSize then []
      else match codec.longHeaderCiphers now parsed.header.headerType with
        | some (some headerCipher,some _) =>
          let sample := (currentPacketData.drop (readSampleOffset packetNumberOffset)).take kSampleSize
          [(parsed.packetLength,
            parsePacketNumberLength (headerCipher.maskInitialByte sample .long initialByte))]
        | _ => []

private theorem readConnectionId_shrinks (size : Nat) : Shrinks (readConnectionId size) := by
  intro bytes value rest read
  unfold readConnectionId at read
  split_ifs at read with bounded short
  cases read
  rw [List.length_drop]
  exact Nat.sub_le _ _

private theorem parseLongHeaderInvariant_shrinks : Shrinks parseLongHeaderInvariant := by
  apply Shrinks.bind (takeExactly_shrinks _ _)
  intro version
  apply Shrinks.bind (takeExactly_shrinks _ _)
  intro destConnIdLen
  apply Shrinks.bind (readConnectionId_shrinks _)
  intro destConnId
  apply Shrinks.bind (takeExactly_shrinks _ _)
  intro srcConnIdLen
  apply Shrinks.bind (readConnectionId_shrinks _)
  intro srcConnId
  exact Shrinks.pure _

theorem lengthSubtractions_ordered :
    ∀ pair ∈ lengthSubtractions codec now queue, pair.2 ≤ pair.1 := by
  intro pair inside
  unfold lengthSubtractions at inside
  split at inside
  · cases inside
  next initialByte rest =>
    split at inside
    · split at inside
      next facts =>
        cases List.mem_singleton.mp inside
        exact Nat.le_of_lt facts.2.2.2
      next => cases inside
    · rcases List.mem_append.mp inside with early | behind
      · rcases List.mem_append.mp early with fields | token
        · unfold lengthSubtractions.invariantFields at fields
          split at fields
          · cases fields
          next invariant cursor parsed =>
            cases List.mem_singleton.mp fields
            exact parseLongHeaderInvariant_shrinks _ _ _ parsed
        · unfold lengthSubtractions.retryToken at token
          split at token
          · cases token
          next invariant cursor parsed =>
            split at token
            next facts =>
              cases List.mem_singleton.mp token
              exact Nat.le_of_not_le facts.2
            next => cases token
      · unfold lengthSubtractions.behindNumber at behind
        split at behind
        · cases behind
        next parsed cursor read =>
          dsimp only at behind
          split at behind
          · cases behind
          next facts =>
            split at behind
            next headerCipher cipher ciphers =>
              cases List.mem_singleton.mp behind
              -- The packet has room for the longest packet number and the sample behind it.
              have room : 4 ≤ parsed.packetLength := by
                have sampled := Nat.not_lt.mp fun short => facts (.inr (.inr short))
                rw [List.length_take,readSampleOffset,kMaxPacketNumEncodingSize] at sampled
                omega
              exact Nat.le_trans (parsePacketNumberLength_le _) room
            next => cases behind

/-- Parsing of the packets of a datagram, for any ciphers. -/
theorem coalesced_parsing (codec : QuicReadCodec) (now : TimePoint) (ackStates : AckStates)
    (dstConnIdSize : Nat) :
    (∀ queue, queue ≠ [] →
      (codec.parsePacket now ackStates dstConnIdSize queue).2.length < queue.length) ∧
    (∀ (rounds : List Round) (queue : Bytes), queue.length ≤ rounds.length →
      rounds.foldl (fun queue round => round.leaves queue) queue = []) ∧
    (∀ type invariant initialByte fields payload token more,
      DeclaredPacket type invariant initialByte fields payload token →
      Accepts codec.nodeType type invariant →
      codec.parsePacket now ackStates dstConnIdSize (initialByte :: fields ++ payload ++ more) =
        ((codec.parsePacket now ackStates dstConnIdSize (initialByte :: fields ++ payload)).1,more)) ∧
    (∀ queue, ∀ pair ∈ lengthSubtractions codec now queue, pair.2 ≤ pair.1) ∧
    (∀ queue token,
      (codec.parsePacket now ackStates dstConnIdSize queue).1 = .ok (.statelessReset token) ↔
        IsReset codec ackStates dstConnIdSize queue token) := by
  refine ⟨?_,?_,?_,?_,?_⟩
  · intro queue some
    exact parsePacket_shortens some
  · intro rounds queue enough
    exact parse_loop_ends rounds queue enough
  · intro type invariant initialByte fields payload token more packet accepts
    exact parsePacket_declared packet accepts more
  · intro queue
    exact lengthSubtractions_ordered
  · intro queue token
    exact reset_iff

private def noId : ConnectionId := .empty

private theorem zeros_declared {initialByte : UInt8} {type : LongHeaderType} {tokenBytes : Bytes}
    (formed : getHeaderForm initialByte = .long) (typed : parseLongHeaderType initialByte = type)
    (regular : type ≠ .retry) (token : Reads (parseToken type) tokenBytes []) :
    DeclaredPacket type ⟨1,noId,noId⟩ initialByte ([0,0,0,1,0,0] ++ (tokenBytes ++ [20]))
      (List.replicate 20 0) [] where
  formed := formed
  typed := typed
  regular := regular
  versioned := by decide
  fields := ⟨[0,0,0,1,0,0],tokenBytes,[20],rfl,fun _ => rfl,token,fun _ => rfl⟩
  long := by decide

theorem coalesced_parsing_handshake :
    Accepts .client .handshake ⟨1,noId,noId⟩ ∧
    QuicReadCodec.parsePacket {nodeType := .client} 0 (fun _ => {}) 0
        (0xe0 :: ([0,0,0,1,0,0] ++ ([] ++ [20])) ++ List.replicate 20 0 ++ [0x40]) =
      (.ok (.cipherUnavailable (0xe0 :: [0,0,0,1,0,0,20] ++ List.replicate 20 0) .handshake),[0x40]) := by
  have accepts : Accepts .client .handshake ⟨1,noId,noId⟩ := nofun
  have declared := @zeros_declared 0xe0 .handshake [] rfl rfl (by decide) (fun _ => rfl)
  have read := (coalesced_parsing {nodeType := .client} 0 (fun _ => {}) 0).2.2.1 _ _ _ _ _ _ [0x40]
    declared accepts
  exact ⟨accepts,read⟩

/-- An Initial packet without a destination id takes what follows it along at a server, and a
datagram that ends in the token is no reset without the ciphers to try it with. -/
theorem refused_packet_drops_datagram :
    (DeclaredPacket .initial ⟨1,noId,noId⟩ 0xc0 ([0,0,0,1,0,0] ++ ([0] ++ [20])) (List.replicate 20 0) [] ∧
      QuicReadCodec.parsePacket {nodeType := .server} 0 (fun _ => {}) 0
        (0xc0 :: ([0,0,0,1,0,0] ++ ([0] ++ [20])) ++ List.replicate 20 0 ++ [0x40]) = (.ok .nothing,[])) ∧
    (QuicReadCodec.parsePacket
      {nodeType := .client, statelessResetToken := some ⟨List.replicate 16 0,rfl⟩} 0 (fun _ => {}) 0
        (0x40 :: List.replicate 16 0)).1 =
      .ok (.cipherUnavailable (0x40 :: List.replicate 16 0) .keyPhaseZero) :=
  ⟨⟨zeros_declared rfl rfl (by decide) (fun _ => rfl),rfl⟩,rfl⟩

end StreamServer.Codec
