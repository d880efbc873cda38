import StreamServer.Codec.ReadCodec

/-! The header parsers over a flat buffer with an offset, and when they agree with the parsers over
a cursor. A read outside the buffer has no defined result. -/
namespace StreamServer.Codec
open Protocol Lib.Wire Lib.Transition

variable {byte initialByte : UInt8} {value width next last : Nat} {rest : Bytes}
  {type : LongHeaderType} {invariant : LongHeaderInvariant} {nodeType : QuicNodeType} {ε α : Type}

/-- How a parser over a flat buffer ends without a value: it refuses the bytes, or it reads one
that is not in the buffer. -/
inductive BufferFailure (ε : Type) where
  | refused (error : ε)
  | beyond
  deriving DecidableEq, Repr

/-- The state is the offset. -/
abbrev BufferReader (ε α : Type) := StateT Nat (Except (BufferFailure ε)) α

structure PacketLength where
  packetLength : Nat
  lengthLength : Nat
  deriving DecidableEq, Repr

namespace Flat

def refuse (error : ε) : BufferReader ε α := fun _ => .error (.refused error)

def advance (count : Nat) : BufferReader ε Unit := fun offset => .ok ((),offset + count)

/-- Reading a value does not move the offset. -/
def getTypedBuf (buf : Bytes) (size : Nat) : BufferReader ε Bytes := fun offset =>
  if buf.length < offset + size then .error .beyond else .ok ((buf.drop offset).take size,offset)

/-- The value of a first byte that takes a whole word with the bytes after it. -/
def wordValue (bytes : Bytes) (bytesExpected : Nat) : Nat :=
  (ofBE (bytes.take bytesExpected ++ List.replicate (8 - bytesExpected) 0) &&& (2^62 - 1))
    >>> ((8 - bytesExpected) * 8)

/-- The bytes of a long form are copied from the start of the buffer, and the offset moves over
its first byte twice. -/
def decodeQuicInteger (buf : Bytes) (atMost : Nat) : BufferReader Unit (Nat × Nat) :=
  if atMost = 0 ∨ buf.length < 1 then refuse ()
  else do
    let firstByte ← getTypedBuf buf 1
    advance 1
    let varintType := ofBE firstByte >>> 6 &&& 0x03
    let bytesExpected := 1 <<< varintType
    if varintType = 0 then return (ofBE firstByte &&& 0x3f,1)
    else if buf.length < bytesExpected ∨ atMost < bytesExpected then refuse ()
    else
      advance bytesExpected
      return (wordValue buf bytesExpected,bytesExpected)

/-- The ids are read byte by byte and not stored. -/
def readIds (buf : Bytes) : Nat → BufferReader TransportErrorCode Unit
  | 0 => return ()
  | count + 1 => do
    let _ ← getTypedBuf buf 1
    advance 1
    readIds buf count

def checkNeeded (needLen initialLength : Nat) : BufferReader TransportErrorCode Unit :=
  if needLen < initialLength then refuse .frameEncodingError else return ()

def connIdLength (buf : Bytes) : BufferReader TransportErrorCode Nat := do
  let size ← getTypedBuf buf 1
  if kMaxConnectionIdSize < ofBE size then refuse .protocolViolation
  else
    advance 1
    return ofBE size

def noConnectionId : ConnectionId := ⟨[],Nat.zero_le _⟩

/-- The version is read in the byte order of the machine. -/
def parseLongHeaderInvariant (buf : Bytes) : BufferReader TransportErrorCode LongHeaderInvariant := do
  let initialLength := sub64 buf.length (← get)
  checkNeeded 5 initialLength
  let version ← getTypedBuf buf 4
  advance 4
  let destConnIdLen ← connIdLength buf
  checkNeeded (5 + destConnIdLen) initialLength
  readIds buf destConnIdLen
  checkNeeded (5 + destConnIdLen + 1) initialLength
  let srcConnIdLen ← connIdLength buf
  checkNeeded (5 + destConnIdLen + 1 + srcConnIdLen) initialLength
  readIds buf srcConnIdLen
  return ⟨UInt32.ofNat (ofBE version.reverse),noConnectionId,noConnectionId⟩

/-- An integer that cannot be decoded is an encoding error of the header. -/
def headerInteger (buf : Bytes) : BufferReader TransportErrorCode (Nat × Nat) := fun offset =>
  match decodeQuicInteger buf 8 offset with
  | .ok result => .ok result
  | .error (.refused _) => .error (.refused .frameEncodingError)
  | .error .beyond => .error .beyond

def checkLength (buf : Bytes) (count : Nat) : BufferReader TransportErrorCode Unit := fun offset =>
  if buf.length < count + offset then .error (.refused .frameEncodingError) else .ok ((),offset)

/-- The token is copied into a variable of the inner block, so none is kept. -/
def skipToken (buf : Bytes) (tokenLen : Nat × Nat) : BufferReader TransportErrorCode Unit := do
  checkLength buf tokenLen.1
  advance tokenLen.1

def parseToken (type : LongHeaderType) (buf : Bytes) : BufferReader TransportErrorCode Unit :=
  if type = .initial then headerInteger buf >>= skipToken buf else return ()

def checkPacketLength (buf : Bytes) (packetNumLen : Nat) (pktLen : Nat × Nat) :
    BufferReader TransportErrorCode PacketLength := do
  checkLength buf pktLen.1
  checkLength buf packetNumLen
  if kMaxPacketNumEncodingSize < packetNumLen then refuse .frameEncodingError
  else return ⟨pktLen.1,pktLen.2⟩

def parsePacketLength (buf : Bytes) (packetNumLen : Nat) :
    BufferReader TransportErrorCode PacketLength :=
  headerInteger buf >>= checkPacketLength buf packetNumLen

/-- A Retry's token is the whole buffer, and its length is compared in place of what is left. -/
def parseLongHeaderVariants (type : LongHeaderType) (initialByte : UInt8)
    (invariant : LongHeaderInvariant) (nodeType : QuicNodeType) (buf : Bytes) :
    BufferReader TransportErrorCode (LongHeader × PacketLength) :=
  if type = .retry then
    if buf.length ≤ kRetryIntegrityTagLen then refuse .frameEncodingError
    else return (invariant.toHeader .retry buf,⟨0,0⟩)
  else if type = .initial ∧ nodeType = .server ∧
      invariant.dstConnId.bytes.length < kMinInitialDestinationConnIdLength then
    refuse .frameEncodingError
  else do
    parseToken type buf
    let packetLength ← parsePacketLength buf (parsePacketNumberLength initialByte)
    return (invariant.toHeader type [],packetLength)

end Flat

namespace Cursor

def headerInteger : HeaderReader (Nat × Nat) := fun cursor =>
  match Codec.decodeQuicInteger cursor with
  | some (result,rest) => .ok (result,rest)
  | none => .error .frameEncodingError

def parsePacketLength (packetNumLen : Nat) : HeaderReader PacketLength := do
  let pktLen ← headerInteger
  canAdvance pktLen.1
  canAdvance packetNumLen
  return ⟨pktLen.1,pktLen.2⟩

/-- With the length of the length field, which no reader of a packet needs. -/
def parseLongHeaderVariants (type : LongHeaderType) (initialByte : UInt8)
    (invariant : LongHeaderInvariant) (nodeType : QuicNodeType) :
    HeaderReader (LongHeader × PacketLength) :=
  if type = .retry then do
    let parsed ← parseRetryVariants invariant
    return (parsed.header,⟨parsed.packetLength,0⟩)
  else if type = .initial ∧ nodeType = .server ∧
      invariant.dstConnId.bytes.length < kMinInitialDestinationConnIdLength then
    throw .frameEncodingError
  else do
    let token ← Codec.parseToken type
    let packetLength ← parsePacketLength (parsePacketNumberLength initialByte)
    return (invariant.toHeader type token,packetLength)

theorem headerInteger_value (cursor : Bytes) :
    Codec.headerInteger cursor = ((fun result => result.1) <$> headerInteger) cursor := by
  unfold Codec.headerInteger
  show _ = (fun result : (Nat × Nat) × Bytes => (result.1.1,result.2)) <$> headerInteger cursor
  unfold headerInteger
  cases Codec.decodeQuicInteger cursor with
  | none => rfl
  | some result => rfl

end Cursor

/-- The flat parser refuses where the one over the cursor fails. Where that one succeeds, the flat
parser gives the same value and moves the offset over the bytes that were consumed. -/
def Agrees (buf : Bytes) (offset : Nat) (flat : Except (BufferFailure ε) (α × Nat)) :
    Option (α × Bytes) → Prop
  | some (value,rest) => flat = .ok (value,offset + ((buf.drop offset).length - rest.length))
  | none => ∃ error, flat = .error (.refused error)

section Integers

variable {buf : Bytes} {offset atMost : Nat} {byte : UInt8}

private theorem drop_at (found : buf[offset]? = some byte) :
    offset < buf.length ∧ buf.drop offset = byte :: buf.drop (offset + 1) := by
  obtain ⟨inside,value⟩ := List.getElem?_eq_some_iff.mp found
  exact ⟨inside,by rw [List.drop_eq_getElem_cons inside,value]⟩

private theorem drop_outside (missing : buf[offset]? = none) : buf.drop offset = [] :=
  List.drop_eq_nil_iff.mpr (List.getElem?_eq_none_iff.mp missing)

private theorem length_one_iff (byte : UInt8) :
    decodeQuicIntegerLength byte = 1 ↔ byte.toNat >>> 6 &&& 0x03 = 0 := by
  rw [decodeQuicIntegerLength,Nat.one_shiftLeft]
  generalize byte.toNat >>> 6 &&& 0x03 = form
  cases form with
  | zero => simp
  | succ form =>
    have := Nat.one_lt_two_pow (n := form + 1) (Nat.succ_ne_zero form)
    omega

theorem flat_integer_refused (nothing : atMost = 0 ∨ buf = []) :
    Flat.decodeQuicInteger buf atMost offset = .error (.refused ()) := by
  have early : atMost = 0 ∨ buf.length < 1 := by
    rcases nothing with zero | empty
    · exact .inl zero
    · exact .inr (by rw [empty]; exact Nat.one_pos)
  rw [Flat.decodeQuicInteger,if_pos early]
  rfl

theorem flat_integer_outside (allowed : atMost ≠ 0) (filled : buf ≠ [])
    (missing : buf[offset]? = none) :
    Flat.decodeQuicInteger buf atMost offset = .error .beyond := by
  have outside := List.getElem?_eq_none_iff.mp missing
  have positive := List.length_pos_of_ne_nil filled
  rw [Flat.decodeQuicInteger,if_neg (by omega)]
  simp only [bind,StateT.bind,Except.bind,Flat.getTypedBuf,
    if_pos (show buf.length < offset + 1 by omega)]

theorem flat_integer_at (allowed : atMost ≠ 0) (found : buf[offset]? = some byte) :
    Flat.decodeQuicInteger buf atMost offset =
      if decodeQuicIntegerLength byte = 1 then .ok ((byte.toNat &&& 0x3f,1),offset + 1)
      else if buf.length < decodeQuicIntegerLength byte ∨ atMost < decodeQuicIntegerLength byte then
        .error (.refused ())
      else .ok ((Flat.wordValue buf (decodeQuicIntegerLength byte),decodeQuicIntegerLength byte),
        offset + 1 + decodeQuicIntegerLength byte) := by
  obtain ⟨inside,split⟩ := drop_at found
  have first : ofBE [byte] = byte.toNat := by simp [ofBE]
  have width : 1 <<< (byte.toNat >>> 6 &&& 0x03) = decodeQuicIntegerLength byte := rfl
  rw [Flat.decodeQuicInteger,if_neg (by omega)]
  simp only [bind,StateT.bind,Except.bind,Flat.getTypedBuf,
    if_neg (show ¬buf.length < offset + 1 by omega),split,List.take_succ_cons,List.take_zero,first,
    Flat.advance,width,← length_one_iff]
  split_ifs with short few
  · rfl
  · rfl
  · rfl

theorem cursor_integer_outside (missing : buf[offset]? = none) :
    decodeQuicInteger (buf.drop offset) atMost = none := by
  rw [drop_outside missing]
  rfl

theorem cursor_integer_at (allowed : atMost ≠ 0) (found : buf[offset]? = some byte) :
    decodeQuicInteger (buf.drop offset) atMost =
      if decodeQuicIntegerLength byte = 1 then
        some ((byte.toNat &&& 0x3f,1),buf.drop (offset + 1))
      else if buf.length - offset < decodeQuicIntegerLength byte ∨
          atMost < decodeQuicIntegerLength byte then none
      else some ((Flat.wordValue (buf.drop offset) (decodeQuicIntegerLength byte),
        decodeQuicIntegerLength byte),buf.drop (offset + decodeQuicIntegerLength byte)) := by
  obtain ⟨inside,split⟩ := drop_at found
  have size : (buf.drop offset).length = buf.length - offset := List.length_drop
  have later : (buf.drop offset).drop (decodeQuicIntegerLength byte) =
      buf.drop (offset + decodeQuicIntegerLength byte) := List.drop_drop
  rw [← size,← later,split,decodeQuicInteger,if_neg allowed]
  simp only [length_one_iff]
  rfl

/-- Nothing is decoded, or the form is short, or it is longer than all of the buffer. -/
def IntegerAgreeable (buf : Bytes) (offset atMost : Nat) : Prop :=
  atMost = 0 ∨ buf = [] ∨ ∃ byte, buf[offset]? = some byte ∧
    (decodeQuicIntegerLength byte = 1 ∨ buf.length < decodeQuicIntegerLength byte ∨
      atMost < decodeQuicIntegerLength byte)

private theorem integer_agrees_iff (buf : Bytes) (offset atMost : Nat) :
    Agrees buf offset (Flat.decodeQuicInteger buf atMost offset)
      (decodeQuicInteger (buf.drop offset) atMost) ↔ IntegerAgreeable buf offset atMost := by
  by_cases nothing : atMost = 0 ∨ buf = []
  · have cursor : decodeQuicInteger (buf.drop offset) atMost = none := by
      rcases nothing with rfl | rfl
      · cases buf.drop offset <;> rfl
      · rw [List.drop_nil]
        rfl
    rw [cursor,flat_integer_refused nothing]
    exact iff_of_true ⟨(),rfl⟩ (nothing.imp_right .inl)
  · obtain ⟨allowed,filled⟩ := not_or.mp nothing
    cases found : buf[offset]? with
    | none =>
      rw [cursor_integer_outside found,flat_integer_outside allowed filled found]
      refine iff_of_false (fun ⟨_,refused⟩ => by cases refused) ?_
      rintro (zero | empty | ⟨byte,read,_⟩)
      · exact allowed zero
      · exact filled empty
      · rw [found] at read
        cases read
    | some byte =>
      have agreeable : IntegerAgreeable buf offset atMost ↔ decodeQuicIntegerLength byte = 1 ∨
          buf.length < decodeQuicIntegerLength byte ∨ atMost < decodeQuicIntegerLength byte := by
        simp [IntegerAgreeable,allowed,filled,found]
      have inside := (drop_at found).1
      rw [cursor_integer_at allowed found,flat_integer_at allowed found,agreeable]
      by_cases short : decodeQuicIntegerLength byte = 1
      · rw [if_pos short,if_pos short]
        refine iff_of_true ?_ (.inl short)
        simp only [Agrees,List.length_drop]
        congr 2
        omega
      rw [if_neg short,if_neg short]
      by_cases long : buf.length < decodeQuicIntegerLength byte ∨ atMost < decodeQuicIntegerLength byte
      · rw [if_pos long,if_pos (by omega)]
        exact iff_of_true ⟨(),rfl⟩ (.inr long)
      · -- the flat parser succeeds, one byte too far or where there is no integer
        rw [if_neg long]
        refine iff_of_false ?_ (by omega)
        split_ifs with few
        · rintro ⟨_,refused⟩
          cases refused
        · intro same
          have ends := congrArg Prod.snd (Except.ok.inj same)
          simp only [List.length_drop] at ends
          omega

end Integers

section Invariants

variable {buf : Bytes} {offset : Nat}

private theorem flat_invariant_long (long : 5 < sub64 buf.length offset) :
    Flat.parseLongHeaderInvariant buf offset = .error (.refused .frameEncodingError) := by
  simp only [Flat.parseLongHeaderInvariant,bind,StateT.bind,Except.bind,get,getThe,MonadStateOf.get,
    StateT.get,pure,Except.pure,Flat.checkNeeded,if_pos long,Flat.refuse]

private theorem connIdLength_outside (outside : buf.length ≤ offset) :
    Flat.connIdLength buf offset = .error .beyond := by
  simp only [Flat.connIdLength,bind,StateT.bind,Except.bind,Flat.getTypedBuf,
    if_pos (Nat.lt_succ_of_le outside)]

private theorem flat_invariant_short (whole : sub64 buf.length offset = buf.length - offset)
    (short : buf.length - offset < 5) :
    Flat.parseLongHeaderInvariant buf offset = .error .beyond := by
  simp only [Flat.parseLongHeaderInvariant,bind,StateT.bind,Except.bind,get,getThe,MonadStateOf.get,
    StateT.get,pure,Except.pure,Flat.checkNeeded,whole,if_neg (show ¬5 < buf.length - offset by omega),
    StateT.pure,Flat.getTypedBuf]
  by_cases four : buf.length < offset + 4
  · rw [if_pos four]
  · rw [if_neg four]
    simp only [Flat.advance,connIdLength_outside (show buf.length ≤ offset + 4 by omega)]

private theorem flat_invariant_five (five : buf.length = offset + 5)
    (whole : sub64 buf.length offset = 5) (found : buf[offset + 4]? = some byte) :
    Flat.parseLongHeaderInvariant buf offset =
      if kMaxConnectionIdSize < byte.toNat then .error (.refused .protocolViolation)
      else .error .beyond := by
  have value : ofBE [byte] = byte.toNat := by simp [ofBE]
  have last := (drop_at found).2
  simp only [Flat.parseLongHeaderInvariant,bind,StateT.bind,Except.bind,get,getThe,MonadStateOf.get,
    StateT.get,pure,Except.pure,Flat.checkNeeded,whole,if_neg (Nat.lt_irrefl 5),
    StateT.pure,Flat.getTypedBuf,if_neg (show ¬buf.length < offset + 4 by omega),Flat.advance,
    Flat.connIdLength,if_neg (show ¬buf.length < offset + 4 + 1 by omega),last,List.take_succ_cons,
    List.take_zero,value]
  by_cases large : kMaxConnectionIdSize < byte.toNat
  · rw [if_pos large,if_pos large]
    rfl
  rw [if_neg large,if_neg large]
  simp only [bind,StateT.bind,Except.bind,Flat.advance,pure,Except.pure,StateT.pure,
    if_neg (show ¬5 + byte.toNat < 5 by omega)]
  cases byte.toNat with
  | zero =>
    simp only [Flat.readIds,pure,Except.pure,StateT.pure,if_neg (show ¬5 + 0 + 1 < 5 by omega),
      if_pos (show buf.length < offset + 4 + 1 + 1 by omega)]
  | succ count =>
    simp only [Flat.readIds,bind,StateT.bind,Except.bind,Flat.getTypedBuf,
      if_pos (show buf.length < offset + 4 + 1 + 1 by omega)]

/-- The bytes are no header, and there are too many of them for the flat parser or the first
connection id is too long. -/
def InvariantAgreeable (buf : Bytes) (offset : Nat) : Prop :=
  (∃ error, parseLongHeaderInvariant (buf.drop offset) = .error error) ∧
    (5 < buf.length - offset ∨ buf.length - offset = 5 ∧
      ∃ byte, buf[offset + 4]? = some byte ∧ kMaxConnectionIdSize < byte.toNat)

theorem flat_invariant_cases (within : offset ≤ buf.length) (sized : buf.length < 2^64) :
    let refused := 5 < buf.length - offset ∨ buf.length - offset = 5 ∧
      ∃ byte, buf[offset + 4]? = some byte ∧ kMaxConnectionIdSize < byte.toNat
    refused ∧ (∃ error, Flat.parseLongHeaderInvariant buf offset = .error (.refused error)) ∨
      ¬refused ∧ Flat.parseLongHeaderInvariant buf offset = .error .beyond := by
  have whole := sub64_of_le within sized
  rcases Nat.lt_trichotomy 5 (buf.length - offset) with long | five | short
  · exact .inl ⟨.inl long,_,flat_invariant_long (by omega)⟩
  · obtain ⟨byte,found⟩ : ∃ byte, buf[offset + 4]? = some byte :=
      ⟨_,List.getElem?_eq_getElem (show offset + 4 < buf.length by omega)⟩
    have parsed := flat_invariant_five (by omega) (by omega) found
    by_cases large : kMaxConnectionIdSize < byte.toNat
    · rw [if_pos large] at parsed
      exact .inl ⟨.inr ⟨five.symm,_,found,large⟩,_,parsed⟩
    · rw [if_neg large] at parsed
      refine .inr ⟨?_,parsed⟩
      rintro (long | ⟨_,_,same,large'⟩)
      · omega
      · cases found.symm.trans same
        exact large large'
  · exact .inr ⟨by omega,flat_invariant_short whole short⟩

private theorem invariant_agrees_iff (within : offset ≤ buf.length) (sized : buf.length < 2^64) :
    Agrees buf offset (Flat.parseLongHeaderInvariant buf offset)
      (parseLongHeaderInvariant (buf.drop offset)).toOption ↔ InvariantAgreeable buf offset := by
  unfold InvariantAgreeable
  cases cursor : parseLongHeaderInvariant (buf.drop offset) with
  | error error =>
    rw [and_iff_right ⟨error,rfl⟩]
    obtain ⟨condition,refused⟩ | ⟨condition,beyond⟩ := flat_invariant_cases within sized
    · exact iff_of_true refused condition
    · refine iff_of_false ?_ condition
      rintro ⟨_,refused⟩
      cases beyond.symm.trans refused
  | ok result =>
    refine iff_of_false ?_ (fun ⟨⟨_,refused⟩,_⟩ => by cases refused)
    intro accepted
    obtain ⟨_,_,refused⟩ | ⟨_,beyond⟩ := flat_invariant_cases within sized
    · cases refused.symm.trans accepted
    · cases beyond.symm.trans accepted

end Invariants

section Variants

variable {buf : Bytes} {offset packetNumLen : Nat} {byte : UInt8} {packetLength : PacketLength}
  {header : LongHeader}

theorem length_le (byte : UInt8) : decodeQuicIntegerLength byte ≤ 8 := by
  rw [decodeQuicIntegerLength,Nat.one_shiftLeft,show (0x03 : Nat) = 2^2 - 1 from rfl,
    Nat.and_two_pow_sub_one_eq_mod]
  exact Nat.pow_le_pow_right (by omega) (show _ ≤ 3 by omega)

private theorem flat_headerInteger_at (found : buf[offset]? = some byte) :
    Flat.headerInteger buf offset =
      if decodeQuicIntegerLength byte = 1 then .ok ((byte.toNat &&& 0x3f,1),offset + 1)
      else if buf.length < decodeQuicIntegerLength byte then .error (.refused .frameEncodingError)
      else .ok ((Flat.wordValue buf (decodeQuicIntegerLength byte),decodeQuicIntegerLength byte),
        offset + 1 + decodeQuicIntegerLength byte) := by
  have most := length_le byte
  rw [Flat.headerInteger,flat_integer_at (by decide) found]
  simp only [or_iff_left (Nat.not_lt.mpr most)]
  split_ifs <;> rfl

private theorem flat_headerInteger_empty :
    Flat.headerInteger [] offset = .error (.refused .frameEncodingError) := by
  rw [Flat.headerInteger,flat_integer_refused (.inr rfl)]

private theorem flat_headerInteger_outside (filled : buf ≠ []) (missing : buf[offset]? = none) :
    Flat.headerInteger buf offset = .error .beyond := by
  rw [Flat.headerInteger,flat_integer_outside (by decide) filled missing]

/-- The value, its form and the offset after it, as the flat decoder takes them. -/
def Flat.IntegerRead (buf : Bytes) (offset value width next : Nat) : Prop :=
  ∃ byte, buf[offset]? = some byte ∧ width = decodeQuicIntegerLength byte ∧
    (width = 1 ∧ value = byte.toNat &&& 0x3f ∧ next = offset + 1 ∨
      width ≠ 1 ∧ width ≤ buf.length ∧ value = Flat.wordValue buf width ∧ next = offset + 1 + width)

def Flat.IntegerRefused (buf : Bytes) (offset : Nat) : Prop :=
  buf = [] ∨ ∃ byte, buf[offset]? = some byte ∧ buf.length < decodeQuicIntegerLength byte

def Cursor.IntegerRead (buf : Bytes) (offset value width next : Nat) : Prop :=
  ∃ byte, buf[offset]? = some byte ∧ width = decodeQuicIntegerLength byte ∧ next = offset + width ∧
    next ≤ buf.length ∧ (width = 1 ∧ value = byte.toNat &&& 0x3f ∨
      width ≠ 1 ∧ value = Flat.wordValue (buf.drop offset) width)

private theorem flat_headerInteger_read :
    Flat.headerInteger buf offset = .ok ((value,width),next) ↔
      Flat.IntegerRead buf offset value width next := by
  cases found : buf[offset]? with
  | none =>
    refine iff_of_false ?_ (fun ⟨byte,read,_⟩ => by rw [found] at read; cases read)
    by_cases empty : buf = []
    · rw [empty,flat_headerInteger_empty]
      exact fun same => by cases same
    · rw [flat_headerInteger_outside empty found]
      exact fun same => by cases same
  | some byte =>
    simp only [Flat.IntegerRead,found,Option.some.injEq,exists_eq_left',flat_headerInteger_at found]
    split_ifs with short few
    · simp only [Except.ok.injEq,Prod.mk.injEq]
      omega
    · refine iff_of_false (fun same => by cases same) (by omega)
    · simp only [Except.ok.injEq,Prod.mk.injEq]
      constructor
      · rintro ⟨⟨rfl,rfl⟩,rfl⟩
        exact ⟨rfl,.inr ⟨short,by omega,rfl,rfl⟩⟩
      · rintro ⟨rfl,⟨one,_⟩ | ⟨_,_,rfl,rfl⟩⟩
        · exact absurd one short
        · exact ⟨⟨rfl,rfl⟩,rfl⟩

private theorem flat_headerInteger_refused :
    (∃ error, Flat.headerInteger buf offset = .error (.refused error)) ↔
      Flat.IntegerRefused buf offset := by
  by_cases empty : buf = []
  · rw [empty,flat_headerInteger_empty]
    exact iff_of_true ⟨_,rfl⟩ (.inl rfl)
  cases found : buf[offset]? with
  | none =>
    rw [flat_headerInteger_outside empty found]
    refine iff_of_false (fun ⟨_,same⟩ => by cases same) ?_
    rintro (nothing | ⟨byte,read,_⟩)
    · exact empty nothing
    · rw [found] at read
      cases read
  | some byte =>
    have inside := (drop_at found).1
    simp only [Flat.IntegerRefused,empty,false_or,found,Option.some.injEq,exists_eq_left',
      flat_headerInteger_at found]
    split_ifs with short few
    · exact iff_of_false (fun ⟨_,same⟩ => by cases same) (by omega)
    · exact iff_of_true ⟨_,rfl⟩ few
    · exact iff_of_false (fun ⟨_,same⟩ => by cases same) few

private theorem cursor_headerInteger_read {result : Nat × Nat}
    (read : Cursor.headerInteger (buf.drop offset) = .ok (result,rest)) :
    ∃ next, Cursor.IntegerRead buf offset result.1 result.2 next ∧ rest = buf.drop next := by
  cases found : buf[offset]? with
  | none =>
    rw [Cursor.headerInteger,cursor_integer_outside found] at read
    cases read
  | some byte =>
    have inside := (drop_at found).1
    rw [Cursor.headerInteger,cursor_integer_at (by decide) found] at read
    simp only [or_iff_left (Nat.not_lt.mpr (length_le byte))] at read
    split_ifs at read with short few
    · cases read
      exact ⟨offset + 1,⟨byte,found,short.symm,rfl,inside,.inl ⟨rfl,rfl⟩⟩,rfl⟩
    · cases read
      exact ⟨_,⟨byte,found,rfl,rfl,by omega,.inr ⟨short,rfl⟩⟩,rfl⟩

private theorem bind_ok_iff {σ φ β : Type} {first : StateT σ (Except φ) α}
    {next : α → StateT σ (Except φ) β} {state : σ} {result : β × σ} :
    (first >>= next) state = .ok result ↔
      ∃ value between, first state = .ok (value,between) ∧ next value between = .ok result :=
  bind_ok.trans Prod.exists

private theorem bind_error_iff {σ φ β : Type} {first : StateT σ (Except φ) α}
    {next : α → StateT σ (Except φ) β} {state : σ} {error : φ} :
    (first >>= next) state = .error error ↔ first state = .error error ∨
      ∃ value between, first state = .ok (value,between) ∧ next value between = .error error :=
  bind_error.trans (or_congr_right Prod.exists)

private theorem flat_length_rest (most : packetNumLen ≤ kMaxPacketNumEncodingSize)
    (pktLen : Nat × Nat) (next : Nat) :
    Flat.checkPacketLength buf packetNumLen pktLen next =
      if buf.length < next + max pktLen.1 packetNumLen then .error (.refused .frameEncodingError)
      else .ok (⟨pktLen.1,pktLen.2⟩,next) := by
  simp only [Flat.checkPacketLength,bind,StateT.bind,Except.bind,Flat.checkLength,
    if_neg (Nat.not_lt.mpr most)]
  by_cases first : buf.length < pktLen.1 + next
  · rw [if_pos first,if_pos (by omega)]
  rw [if_neg first]
  by_cases second : buf.length < packetNumLen + next
  · simp only [if_pos second]
    rw [if_pos (by omega)]
  · simp only [if_neg second]
    rw [if_neg (by omega)]
    rfl

def Flat.LengthRefused (buf : Bytes) (packetNumLen offset : Nat) : Prop :=
  Flat.IntegerRefused buf offset ∨ ∃ value width next,
    Flat.IntegerRead buf offset value width next ∧ buf.length < next + max value packetNumLen

private theorem flat_length_refused (most : packetNumLen ≤ kMaxPacketNumEncodingSize) :
    (∃ error, Flat.parsePacketLength buf packetNumLen offset = .error (.refused error)) ↔
      Flat.LengthRefused buf packetNumLen offset := by
  simp only [Flat.parsePacketLength,bind_error_iff,exists_or]
  refine or_congr flat_headerInteger_refused ?_
  constructor
  · rintro ⟨error,⟨value,width⟩,next,read,refused⟩
    rw [flat_length_rest most] at refused
    split_ifs at refused with few
    exact ⟨value,width,next,flat_headerInteger_read.mp read,few⟩
  · rintro ⟨value,width,next,read,few⟩
    refine ⟨.frameEncodingError,(value,width),next,flat_headerInteger_read.mpr read,?_⟩
    rw [flat_length_rest most,if_pos few]

private theorem flat_length_ok (most : packetNumLen ≤ kMaxPacketNumEncodingSize) :
    Flat.parsePacketLength buf packetNumLen offset = .ok (packetLength,next) ↔
      Flat.IntegerRead buf offset packetLength.packetLength packetLength.lengthLength next ∧
        next + max packetLength.packetLength packetNumLen ≤ buf.length := by
  simp only [Flat.parsePacketLength,bind_ok_iff]
  constructor
  · rintro ⟨⟨value,width⟩,between,read,rest⟩
    rw [flat_length_rest most] at rest
    split_ifs at rest with few
    cases rest
    exact ⟨flat_headerInteger_read.mp read,Nat.not_lt.mp few⟩
  · rintro ⟨read,enough⟩
    refine ⟨(packetLength.packetLength,packetLength.lengthLength),next,
      flat_headerInteger_read.mpr read,?_⟩
    rw [flat_length_rest most,if_neg (Nat.not_lt.mpr enough)]

private theorem flat_token_rest (tokenLen : Nat × Nat) (next : Nat) :
    Flat.skipToken buf tokenLen next =
      if buf.length < next + tokenLen.1 then .error (.refused .frameEncodingError)
      else .ok ((),next + tokenLen.1) := by
  simp only [Flat.skipToken,bind,StateT.bind,Except.bind,Flat.checkLength,Nat.add_comm next]
  split_ifs with few
  · rfl
  · rw [Nat.add_comm]
    rfl

def Flat.TokenRead (type : LongHeaderType) (buf : Bytes) (offset next : Nat) : Prop :=
  if type = .initial then ∃ value width between,
    Flat.IntegerRead buf offset value width between ∧ between + value ≤ buf.length ∧
      next = between + value
  else next = offset

def Flat.TokenRefused (type : LongHeaderType) (buf : Bytes) (offset : Nat) : Prop :=
  type = .initial ∧ (Flat.IntegerRefused buf offset ∨ ∃ value width between,
    Flat.IntegerRead buf offset value width between ∧ buf.length < between + value)

private theorem flat_token_ok :
    Flat.parseToken type buf offset = .ok ((),next) ↔ Flat.TokenRead type buf offset next := by
  unfold Flat.parseToken Flat.TokenRead
  split_ifs with initial
  · rw [bind_ok_iff]
    constructor
    · rintro ⟨⟨value,width⟩,between,read,rest⟩
      rw [flat_token_rest] at rest
      split_ifs at rest with few
      cases rest
      exact ⟨value,width,between,flat_headerInteger_read.mp read,Nat.not_lt.mp few,rfl⟩
    · rintro ⟨value,width,between,read,enough,rfl⟩
      refine ⟨(value,width),between,flat_headerInteger_read.mpr read,?_⟩
      rw [flat_token_rest,if_neg (Nat.not_lt.mpr enough)]
  · constructor
    · intro same
      cases same
      rfl
    · rintro rfl
      rfl

private theorem flat_token_refused :
    (∃ error, Flat.parseToken type buf offset = .error (.refused error)) ↔
      Flat.TokenRefused type buf offset := by
  unfold Flat.parseToken Flat.TokenRefused
  split_ifs with initial
  · simp only [bind_error_iff,exists_or,initial,true_and]
    refine or_congr flat_headerInteger_refused ?_
    constructor
    · rintro ⟨error,⟨value,width⟩,between,read,refused⟩
      rw [flat_token_rest] at refused
      split_ifs at refused with few
      exact ⟨value,width,between,flat_headerInteger_read.mp read,few⟩
    · rintro ⟨value,width,between,read,few⟩
      refine ⟨.frameEncodingError,(value,width),between,flat_headerInteger_read.mpr read,?_⟩
      rw [flat_token_rest,if_pos few]
  · exact iff_of_false (fun ⟨_,same⟩ => by cases same) (fun ⟨same,_⟩ => initial same)

private theorem cursor_length_ok
    (read : Cursor.parsePacketLength packetNumLen (buf.drop offset) = .ok (packetLength,rest)) :
    ∃ next, Cursor.IntegerRead buf offset packetLength.packetLength packetLength.lengthLength next ∧
      next + max packetLength.packetLength packetNumLen ≤ buf.length ∧ rest = buf.drop next := by
  obtain ⟨result,between,integer,checked⟩ := bind_ok_iff.mp read
  obtain ⟨next,taken,rfl⟩ := cursor_headerInteger_read integer
  obtain ⟨_,_,first,checked⟩ := bind_ok_iff.mp checked
  obtain ⟨_,_,second,done⟩ := bind_ok_iff.mp checked
  unfold canAdvance at first second
  split_ifs at first with few
  cases first
  split_ifs at second with fewer
  cases second
  cases done
  have inside : next ≤ buf.length := by
    obtain ⟨_,_,_,_,inside,_⟩ := taken
    exact inside
  rw [List.length_drop] at few fewer
  exact ⟨next,taken,show next + max result.1 packetNumLen ≤ buf.length by omega,rfl⟩

private theorem cursor_token_ok {token : Bytes}
    (read : parseToken type (buf.drop offset) = .ok (token,rest)) :
    type = .initial ∧ (∃ width between, Cursor.IntegerRead buf offset token.length width between ∧
        between + token.length ≤ buf.length ∧ rest = buf.drop (between + token.length)) ∨
      type ≠ .initial ∧ token = [] ∧ rest = buf.drop offset := by
  unfold parseToken at read
  split_ifs at read with initial
  · refine .inl ⟨initial,?_⟩
    obtain ⟨tokenLen,between,integer,taken⟩ := bind_ok_iff.mp read
    rw [Cursor.headerInteger_value,map_eq_pure_bind] at integer
    obtain ⟨result,_,integer,same⟩ := bind_ok_iff.mp integer
    cases same
    obtain ⟨next,counted,rfl⟩ := cursor_headerInteger_read integer
    have inside : next ≤ buf.length := by
      obtain ⟨_,_,_,_,inside,_⟩ := counted
      exact inside
    unfold takeExactly at taken
    split_ifs at taken with few
    rw [List.length_drop] at few
    cases taken
    have size : ((buf.drop next).take result.1).length = result.1 := by
      rw [List.length_take,List.length_drop]
      omega
    rw [size,List.drop_drop]
    exact ⟨result.2,next,counted,by omega,rfl⟩
  · cases read
    exact .inr ⟨initial,rfl,rfl⟩

/-- No token, and both lengths in one byte. -/
def OneByteForms (type : LongHeaderType) (buf : Bytes) (offset : Nat) : Prop :=
  type ≠ .retry ∧ (type = .initial → buf[offset]? = some 0) ∧
    ∃ byte, buf[if type = .initial then offset + 1 else offset]? = some byte ∧
      decodeQuicIntegerLength byte = 1

def Flat.VariantsRefused (type : LongHeaderType) (initialByte : UInt8)
    (invariant : LongHeaderInvariant) (nodeType : QuicNodeType) (buf : Bytes) (offset : Nat) : Prop :=
  if type = .retry then buf.length ≤ kRetryIntegrityTagLen
  else (type = .initial ∧ nodeType = .server ∧
      invariant.dstConnId.bytes.length < kMinInitialDestinationConnIdLength) ∨
    Flat.TokenRefused type buf offset ∨ ∃ next, Flat.TokenRead type buf offset next ∧
      Flat.LengthRefused buf (parsePacketNumberLength initialByte) next

private theorem flat_variants_refused :
    (∃ error, Flat.parseLongHeaderVariants type initialByte invariant nodeType buf offset =
        .error (.refused error)) ↔
      Flat.VariantsRefused type initialByte invariant nodeType buf offset := by
  unfold Flat.parseLongHeaderVariants Flat.VariantsRefused
  split_ifs with retry short small
  · exact iff_of_true ⟨_,rfl⟩ short
  · exact iff_of_false (fun ⟨_,same⟩ => by cases same) short
  · exact iff_of_true ⟨_,rfl⟩ (.inl small)
  · simp only [bind_error_iff,exists_or,small,false_or,flat_token_refused]
    refine or_congr_right ?_
    constructor
    · rintro ⟨error,_,next,token,length | ⟨_,_,_,same⟩⟩
      · exact ⟨next,flat_token_ok.mp token,
          (flat_length_refused (parsePacketNumberLength_le _)).mp ⟨error,length⟩⟩
      · cases same
    · rintro ⟨next,token,length⟩
      obtain ⟨error,refused⟩ := (flat_length_refused (parsePacketNumberLength_le _)).mpr length
      exact ⟨error,(),next,flat_token_ok.mpr token,.inl refused⟩

private theorem flat_variants_ok (regular : type ≠ .retry)
    (large : ¬(type = .initial ∧ nodeType = .server ∧
      invariant.dstConnId.bytes.length < kMinInitialDestinationConnIdLength)) :
    Flat.parseLongHeaderVariants type initialByte invariant nodeType buf offset =
        .ok ((header,packetLength),last) ↔
      header = invariant.toHeader type [] ∧ ∃ next, Flat.TokenRead type buf offset next ∧
        Flat.IntegerRead buf next packetLength.packetLength packetLength.lengthLength last ∧
        last + max packetLength.packetLength (parsePacketNumberLength initialByte) ≤ buf.length := by
  simp only [Flat.parseLongHeaderVariants,if_neg regular,if_neg large,bind_ok_iff]
  constructor
  · rintro ⟨_,next,token,taken,between,length,same⟩
    cases same
    exact ⟨rfl,next,flat_token_ok.mp token,
      (flat_length_ok (parsePacketNumberLength_le _)).mp length⟩
  · rintro ⟨rfl,next,token,length⟩
    exact ⟨(),next,flat_token_ok.mpr token,packetLength,last,
      (flat_length_ok (parsePacketNumberLength_le _)).mpr length,rfl⟩

/-- A flat read ends where the read over the cursor does, with the same form, only in one byte. -/
private theorem integer_short {value' : Nat}
    (flat : Flat.IntegerRead buf offset value width last)
    (cursor : Cursor.IntegerRead buf offset value' width last) :
    ∃ byte, buf[offset]? = some byte ∧ decodeQuicIntegerLength byte = 1 := by
  obtain ⟨byte,found,rfl,short | long⟩ := flat
  · exact ⟨byte,found,short.1⟩
  · obtain ⟨_,_,_,ends,_⟩ := cursor
    omega

private theorem integer_same (found : buf[offset]? = some byte)
    (short : decodeQuicIntegerLength byte = 1)
    (cursor : Cursor.IntegerRead buf offset value width last) :
    Flat.IntegerRead buf offset value width last := by
  obtain ⟨byte',found',rfl,rfl,_,form⟩ := cursor
  cases found.symm.trans found'
  obtain ⟨one,value⟩ | ⟨long,_⟩ := form
  · exact ⟨byte,found,rfl,.inl ⟨one,value,by rw [one]⟩⟩
  · exact absurd short long

private theorem Flat.IntegerRead.after
    (read : Flat.IntegerRead buf offset value width last) : offset + width ≤ last := by
  obtain ⟨_,_,_,⟨_,_,_⟩ | ⟨_,_,_,_⟩⟩ := read <;> omega

private theorem byte_zero (short : decodeQuicIntegerLength byte = 1)
    (zero : byte.toNat &&& 0x3f = 0) : byte = 0 := by
  have high := (length_one_iff byte).mp short
  have small := byte.toNat_lt
  rw [show (0x3f : Nat) = 2^6 - 1 from rfl,Nat.and_two_pow_sub_one_eq_mod] at zero
  rw [show (0x03 : Nat) = 2^2 - 1 from rfl,Nat.and_two_pow_sub_one_eq_mod,
    Nat.shiftRight_eq_div_pow] at high
  apply UInt8.toNat_inj.mp
  show byte.toNat = 0
  omega

private theorem token_short {between packetValue packetWidth : Nat}
    (cursor : Cursor.IntegerRead buf offset 0 width between)
    (length : Cursor.IntegerRead buf between packetValue packetWidth last)
    (token : Flat.TokenRead .initial buf offset next)
    (flat : Flat.IntegerRead buf next packetValue packetWidth last) :
    buf[offset]? = some 0 ∧ between = offset + 1 ∧ next = offset + 1 := by
  rw [Flat.TokenRead,if_pos rfl] at token
  obtain ⟨value',width',between',⟨byte',found',same',form'⟩,_,rfl⟩ := token
  obtain ⟨byte,found,rfl,rfl,_,form⟩ := cursor
  cases found.symm.trans found'
  subst same'
  obtain ⟨short,value⟩ | ⟨long,_⟩ := form
  · obtain ⟨_,rfl,rfl⟩ | ⟨long,_⟩ := form'
    · refine ⟨?_,by rw [short],by rw [← value]⟩
      rw [found,byte_zero short value.symm]
    · exact absurd short long
  · obtain ⟨short,_⟩ | ⟨_,_,_,rfl⟩ := form'
    · exact absurd short long
    · have later := flat.after
      obtain ⟨_,_,_,ends,_⟩ := length
      omega

private theorem variants_accepted (within : offset ≤ buf.length)
    (cursor : Cursor.parseLongHeaderVariants type initialByte invariant nodeType (buf.drop offset) =
      .ok ((header,packetLength),rest)) :
    Flat.parseLongHeaderVariants type initialByte invariant nodeType buf offset =
        .ok ((header,packetLength),offset + ((buf.drop offset).length - rest.length)) ↔
      OneByteForms type buf offset := by
  unfold Cursor.parseLongHeaderVariants at cursor
  split_ifs at cursor with retry small
  · -- the flat parser leaves the offset where it is
    subst retry
    refine iff_of_false ?_ (fun forms => forms.1 rfl)
    obtain ⟨parsed,_,taken,same⟩ := bind_ok_iff.mp cursor
    cases same
    unfold parseRetryVariants at taken
    dsimp only at taken
    split_ifs at taken with few
    cases taken
    unfold Flat.parseLongHeaderVariants
    rw [if_pos rfl]
    split_ifs with short
    · exact fun same => by cases same
    · intro same
      have ends := congrArg Prod.snd (Except.ok.inj same)
      simp only [List.length_drop] at ends few
      omega
  · cases cursor
  obtain ⟨token,_,read,cursor⟩ := bind_ok_iff.mp cursor
  obtain ⟨_,_,length,same⟩ := bind_ok_iff.mp cursor
  cases same
  rw [flat_variants_ok retry small]
  obtain ⟨initial,width,between,tokenLen,enough,rfl⟩ | ⟨regular,rfl,rfl⟩ := cursor_token_ok read
  · subst initial
    obtain ⟨last,taken,room,rfl⟩ := cursor_length_ok length
    have ends : offset + ((buf.drop offset).length - (buf.drop last).length) = last := by
      obtain ⟨_,_,_,_,_,_⟩ := tokenLen
      obtain ⟨_,_,_,_,_,_⟩ := taken
      simp only [List.length_drop]
      omega
    rw [ends]
    constructor
    · rintro ⟨same,next,skipped,flat,_⟩
      have empty : token = [] := congrArg LongHeader.token same
      subst empty
      obtain ⟨zero,rfl,rfl⟩ := token_short tokenLen taken skipped flat
      exact ⟨retry,fun _ => zero,by rw [if_pos rfl]; exact integer_short flat taken⟩
    · rintro ⟨_,zero,byte,found,short⟩
      obtain ⟨first,found',same,rfl,_,form⟩ := tokenLen
      cases (zero rfl).symm.trans found'
      rw [if_pos rfl] at found
      have one : decodeQuicIntegerLength 0 = 1 := rfl
      have empty : token = [] := by
        obtain ⟨_,none⟩ | ⟨long,_⟩ := form
        · exact List.eq_nil_of_length_eq_zero none
        · exact absurd (same.trans one) long
      subst empty
      rw [same,one] at taken
      refine ⟨rfl,offset + 1,?_,integer_same found short taken,room⟩
      rw [Flat.TokenRead,if_pos rfl]
      exact ⟨0,1,offset + 1,⟨0,zero rfl,rfl,.inl ⟨rfl,rfl,rfl⟩⟩,by omega,rfl⟩
  · obtain ⟨last,taken,room,rfl⟩ := cursor_length_ok length
    have ends : offset + ((buf.drop offset).length - (buf.drop last).length) = last := by
      obtain ⟨_,_,_,_,_,_⟩ := taken
      simp only [List.length_drop]
      omega
    rw [ends]
    simp only [Flat.TokenRead,if_neg regular,exists_eq_left,true_and,OneByteForms]
    constructor
    · rintro ⟨flat,_⟩
      exact ⟨retry,fun initial => absurd initial regular,integer_short flat taken⟩
    · rintro ⟨_,_,byte,found,short⟩
      exact ⟨integer_same found short taken,room⟩

end Variants

/-- Both parsers of the variants refuse, or the header has no token and both lengths take one
byte. -/
def VariantsAgreeable (type : LongHeaderType) (initialByte : UInt8) (invariant : LongHeaderInvariant)
    (nodeType : QuicNodeType) (buf : Bytes) (offset : Nat) : Prop :=
  match Cursor.parseLongHeaderVariants type initialByte invariant nodeType (buf.drop offset) with
  | .ok _ => OneByteForms type buf offset
  | .error _ => Flat.VariantsRefused type initialByte invariant nodeType buf offset

theorem flat_parsers_agree (buf : Bytes) (offset : Nat) (within : offset ≤ buf.length)
    (sized : buf.length < 2^64) :
    (∀ atMost, Agrees buf offset (Flat.decodeQuicInteger buf atMost offset)
      (decodeQuicInteger (buf.drop offset) atMost) ↔ IntegerAgreeable buf offset atMost) ∧
    (Agrees buf offset (Flat.parseLongHeaderInvariant buf offset)
      (parseLongHeaderInvariant (buf.drop offset)).toOption ↔ InvariantAgreeable buf offset) ∧
    ∀ type initialByte invariant nodeType,
      Agrees buf offset (Flat.parseLongHeaderVariants type initialByte invariant nodeType buf offset)
        (Cursor.parseLongHeaderVariants type initialByte invariant nodeType
          (buf.drop offset)).toOption ↔
        VariantsAgreeable type initialByte invariant nodeType buf offset := by
  refine ⟨integer_agrees_iff buf offset,invariant_agrees_iff within sized,?_⟩
  intro type initialByte invariant nodeType
  unfold VariantsAgreeable
  cases cursor : Cursor.parseLongHeaderVariants type initialByte invariant nodeType
      (buf.drop offset) with
  | error error => exact flat_variants_refused
  | ok result => exact variants_accepted within cursor

theorem flat_parsers_agree_handshake :
    ([0x04,1,2,3,4] : Bytes).length = 5 ∧ Agrees [0x04,1,2,3,4] 0
      (Flat.parseLongHeaderVariants .handshake 0xe0 ⟨1,Flat.noConnectionId,Flat.noConnectionId⟩
        .server [0x04,1,2,3,4] 0)
      (Cursor.parseLongHeaderVariants .handshake 0xe0
        ⟨1,Flat.noConnectionId,Flat.noConnectionId⟩ .server [0x04,1,2,3,4]).toOption :=
  ⟨rfl,((flat_parsers_agree [0x04,1,2,3,4] 0 (by decide) (by decide)).2.2 .handshake 0xe0
    ⟨1,Flat.noConnectionId,Flat.noConnectionId⟩ .server).mpr
      ⟨by decide,fun initial => (by cases initial),4,rfl,rfl⟩⟩

/-- An integer of two bytes behind another byte, a header with two empty connection ids, and a
packet length of two bytes: the parsers over the cursor accept all three. The flat ones give
another value and offset, and refuse the headers. -/
theorem flat_parsers_differ :
    ¬Agrees [0x00,0x40,0x05] 1 (Flat.decodeQuicInteger [0x00,0x40,0x05] 8 1)
      (decodeQuicInteger (([0x00,0x40,0x05] : Bytes).drop 1) 8) ∧
    Flat.decodeQuicInteger [0x00,0x40,0x05] 8 1 = .ok ((64,2),4) ∧
    ¬Agrees [0,0,0,1,0,0] 0 (Flat.parseLongHeaderInvariant [0,0,0,1,0,0] 0)
      (parseLongHeaderInvariant [0,0,0,1,0,0]).toOption ∧
    ¬Agrees [0x40,0x04,1,2,3,4] 0
      (Flat.parseLongHeaderVariants .handshake 0xe0 ⟨1,Flat.noConnectionId,Flat.noConnectionId⟩
        .server [0x40,0x04,1,2,3,4] 0)
      (Cursor.parseLongHeaderVariants .handshake 0xe0 ⟨1,Flat.noConnectionId,Flat.noConnectionId⟩
        .server [0x40,0x04,1,2,3,4]).toOption := by
  refine ⟨?_,by decide,?_,?_⟩
  · show ¬Flat.decodeQuicInteger [0x00,0x40,0x05] 8 1 = .ok ((5,2),3)
    decide
  · exact fun same => by cases same
  · exact fun same => by cases same

end StreamServer.Codec
