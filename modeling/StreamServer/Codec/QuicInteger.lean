import StreamServer.Lib.Wire
import StreamServer.Protocol.Constants

/-! Variable-length integers. The two high bits of the first byte give the length,
which is the smallest that holds the value. -/
namespace StreamServer.Codec
open Protocol Lib.Wire

def kOneByteLimit : Nat := 0x3F
def kTwoByteLimit : Nat := 0x3FFF
def kFourByteLimit : Nat := 0x3FFFFFFF
def kEightByteLimit : Nat := 0x3FFFFFFFFFFFFFFF

def getQuicIntegerSize (value : Nat) : Option Nat :=
  if value ≤ kOneByteLimit then some 1
  else if value ≤ kTwoByteLimit then some 2
  else if value ≤ kFourByteLimit then some 4
  else if value ≤ kEightByteLimit then some 8
  else none

def getQuicIntegerSizeThrows (value : Nat) : Except Error Nat :=
  match getQuicIntegerSize value with
  | some size => .ok size
  | none => .error (.standard s!"Value too large: {value}")

def encodeQuicInteger (value : Nat) : Option Bytes :=
  if value ≤ kOneByteLimit then some (toBE 1 value)
  else if value ≤ kTwoByteLimit then some (toBE 2 (value ||| 0x4000))
  else if value ≤ kFourByteLimit then some (toBE 4 (value ||| 0x80000000))
  else if value ≤ kEightByteLimit then some (toBE 8 (value ||| 0xC000000000000000))
  else none

/-- The form of two bytes, whatever the value: it is cut to sixteen bits. -/
def encodeTwoBytes (value : Nat) : Bytes := toBE 2 (value % 2^16 ||| 0x4000)

/-- The overload with a requested size, which cuts a value that does not fit. -/
def encodeQuicIntegerOfSize (value : Nat) : Nat → Option Bytes
  | 1 => some (toBE 1 (value % 2^8))
  | 2 => some (encodeTwoBytes value)
  | 4 => some (toBE 4 (value % 2^32 ||| 0x80000000))
  | 8 => some (toBE 8 (value % 2^64 ||| 0xC000000000000000))
  | _ => none

/-- What reading the missing value of a failed encoding throws. -/
def badExpectedAccess : Error := .standard "bad expected access"

def QuicInteger.getSize (value : Nat) : Except Error Nat := getQuicIntegerSizeThrows value

def QuicInteger.encode (value : Nat) : Except Error Bytes :=
  match encodeQuicInteger value with
  | some bytes => .ok bytes
  | none => .error badExpectedAccess

def decodeQuicIntegerLength (firstByte : UInt8) : Nat := 1 <<< (firstByte.toNat >>> 6 &&& 0x03)

/-- The value, the number of bytes it took, and the bytes after it. The bytes are pulled to the
high end of a 64-bit word, whose two high bits are cleared, and shifted down. -/
def decodeQuicInteger (cursor : Bytes) (atMost : Nat := 8) : Option ((Nat × Nat) × Bytes) :=
  match cursor with
  | [] => none
  | firstByte :: rest =>
    if atMost = 0 then none
    else
      let varintType := firstByte.toNat >>> 6 &&& 0x03
      let bytesExpected := 1 <<< varintType
      if varintType = 0 then some ((firstByte.toNat &&& 0x3f,1),rest)
      else if cursor.length < bytesExpected ∨ atMost < bytesExpected then none
      else
        let result := ofBE (cursor.take bytesExpected ++ List.replicate (8 - bytesExpected) 0)
        some (((result &&& (2^62 - 1)) >>> ((8 - bytesExpected) * 8),bytesExpected),
          cursor.drop bytesExpected)

theorem decodeQuicInteger_shorter {cursor rest : Bytes} {atMost : Nat} {result : Nat × Nat}
    (decoded : decodeQuicInteger cursor atMost = some (result,rest)) :
    rest.length < cursor.length := by
  unfold decodeQuicInteger at decoded
  cases cursor with
  | nil => cases decoded
  | cons firstByte tail =>
    dsimp only at decoded
    split_ifs at decoded with none one long
    · cases decoded
      exact Nat.lt_succ_self _
    · cases decoded
      have positive : 0 < 1 <<< (firstByte.toNat >>> 6 &&& 0x03) := by
        rw [Nat.shiftLeft_eq,Nat.one_mul]
        exact Nat.two_pow_pos _
      rw [List.length_drop]
      omega

theorem getSize_ok {value size : Nat} :
    QuicInteger.getSize value = .ok size ↔
      ∃ bytes, QuicInteger.encode value = .ok bytes ∧ bytes.length = size := by
  unfold QuicInteger.getSize getQuicIntegerSizeThrows getQuicIntegerSize QuicInteger.encode
    encodeQuicInteger
  split_ifs <;> simp

theorem encode_total {value : Nat} (small : value ≤ kEightByteLimit) :
    ∃ bytes, QuicInteger.encode value = .ok bytes := by
  unfold QuicInteger.encode encodeQuicInteger
  rw [if_pos small]
  split_ifs <;> exact ⟨_,rfl⟩

theorem getSize_total {value : Nat} (small : value ≤ kEightByteLimit) :
    ∃ size, QuicInteger.getSize value = .ok size := by
  obtain ⟨bytes,encoded⟩ := encode_total small
  exact ⟨bytes.length,getSize_ok.mpr ⟨bytes,encoded,rfl⟩⟩

private theorem or_marker {value width marker : Nat} (small : value < 2^width) :
    value ||| 2^width * marker = 2^width * marker + value := by
  rw [Nat.or_comm,← Nat.two_pow_add_eq_or_of_lt small]

private theorem decode_marked {marker width value : Nat} (rest : Bytes)
    (kind : marker = 1 ∧ width = 2 ∨ marker = 2 ∧ width = 4 ∨ marker = 3 ∧ width = 8)
    (small : value < 2^(8 * width - 2)) :
    decodeQuicInteger (toBE width (2^(8 * width - 2) * marker + value) ++ rest) =
      some ((value,width),rest) := by
  obtain ⟨tail,split⟩ : ∃ tail, toBE width (2^(8 * width - 2) * marker + value) =
      UInt8.ofNat ((2^(8 * width - 2) * marker + value) / 256^(width - 1)) :: tail := by
    rcases kind with ⟨rfl,rfl⟩ | ⟨rfl,rfl⟩ | ⟨rfl,rfl⟩ <;> exact ⟨_,rfl⟩
  have whole := ofBE_toBE width (2^(8 * width - 2) * marker + value)
  have size := toBE_length width (2^(8 * width - 2) * marker + value)
  generalize toBE width (2^(8 * width - 2) * marker + value) = encoded at *
  have typed : (UInt8.ofNat ((2^(8 * width - 2) * marker + value) / 256^(width - 1))).toNat >>> 6
      &&& 0x03 = marker := by
    rw [show (0x03 : Nat) = 2^2 - 1 from rfl,Nat.and_two_pow_sub_one_eq_mod,
      Nat.shiftRight_eq_div_pow,UInt8.toNat_ofNat']
    rcases kind with ⟨rfl,rfl⟩ | ⟨rfl,rfl⟩ | ⟨rfl,rfl⟩ <;> omega
  have expected : 1 <<< marker = width := by
    rcases kind with ⟨rfl,rfl⟩ | ⟨rfl,rfl⟩ | ⟨rfl,rfl⟩ <;> rfl
  have long : ¬((encoded ++ rest).length < width ∨ 8 < width) := by
    rw [List.length_append]
    omega
  have value_back : (ofBE (encoded ++ List.replicate (8 - width) 0) &&& (2^62 - 1))
      >>> ((8 - width) * 8) = value := by
    rw [Nat.and_two_pow_sub_one_eq_mod,Nat.shiftRight_eq_div_pow,ofBE_append,ofBE_zeros,
      List.length_replicate,whole]
    rcases kind with ⟨rfl,rfl⟩ | ⟨rfl,rfl⟩ | ⟨rfl,rfl⟩ <;> omega
  rw [split,List.cons_append,decodeQuicInteger,← List.cons_append,← split]
  simp only [typed,expected]
  rw [if_neg (by omega),if_neg (by omega),if_neg long,List.take_left' size,List.drop_left' size,
    value_back]

private theorem decode_one {value : Nat} (rest : Bytes) (small : value < 2^6) :
    decodeQuicInteger (toBE 1 value ++ rest) = some ((value,1),rest) := by
  have byte : (UInt8.ofNat (value / 256^0)).toNat = value := by
    rw [UInt8.toNat_ofNat']
    omega
  simp only [toBE,List.cons_append,List.nil_append,decodeQuicInteger,byte]
  have typed : value >>> 6 &&& 0x03 = 0 := by
    rw [Nat.shiftRight_eq_div_pow,Nat.div_eq_of_lt (by omega),Nat.zero_and]
  have masked : value &&& 0x3f = value := by
    rw [show (0x3f : Nat) = 2^6 - 1 from rfl,Nat.and_two_pow_sub_one_eq_mod,Nat.mod_eq_of_lt (by omega)]
  simp [typed,masked]

theorem decode_encode {value : Nat} {bytes : Bytes} (encoded : QuicInteger.encode value = .ok bytes)
    (rest : Bytes) : decodeQuicInteger (bytes ++ rest) = some ((value,bytes.length),rest) := by
  unfold QuicInteger.encode encodeQuicInteger kOneByteLimit kTwoByteLimit kFourByteLimit
    kEightByteLimit at encoded
  split_ifs at encoded with one two four eight <;> cases encoded
  · exact decode_one rest (by omega)
  · rw [show (0x4000 : Nat) = 2^14 * 1 from rfl,or_marker (by omega),toBE_length]
    exact decode_marked rest (.inl ⟨rfl,rfl⟩) (by omega)
  · rw [show (0x80000000 : Nat) = 2^30 * 2 from rfl,or_marker (by omega),toBE_length]
    exact decode_marked rest (.inr (.inl ⟨rfl,rfl⟩)) (by omega)
  · rw [show (0xC000000000000000 : Nat) = 2^62 * 3 from rfl,or_marker (by omega),toBE_length]
    exact decode_marked rest (.inr (.inr ⟨rfl,rfl⟩)) (by omega)

theorem decode_encodeTwoBytes {value : Nat} (small : value ≤ kTwoByteLimit) (rest : Bytes) :
    decodeQuicInteger (encodeTwoBytes value ++ rest) = some ((value,2),rest) := by
  unfold kTwoByteLimit at small
  rw [encodeTwoBytes,Nat.mod_eq_of_lt (by omega),show (0x4000 : Nat) = 2^14 * 1 from rfl,
    or_marker (by omega)]
  exact decode_marked rest (.inl ⟨rfl,rfl⟩) (by omega)

theorem encode_head {value : Nat} {bytes : Bytes} (encoded : QuicInteger.encode value = .ok bytes)
    (positive : value ≠ 0) : ∃ first tail, bytes = first :: tail ∧ first ≠ 0 := by
  have decoded := decode_encode encoded []
  cases bytes with
  | nil => cases decoded
  | cons first tail =>
    refine ⟨first,tail,rfl,?_⟩
    rintro rfl
    simp only [List.append_nil,decodeQuicInteger] at decoded
    simp at decoded
    exact positive decoded.1.symm

theorem encode_nonempty {value : Nat} {bytes : Bytes} (encoded : QuicInteger.encode value = .ok bytes) :
    bytes ≠ [] := by
  rintro rfl
  cases decode_encode encoded []

private theorem decode_encodeOfSize {value size : Nat} (known : size = 1 ∨ size = 2 ∨ size = 4 ∨ size = 8)
    (small : value < 2^(8 * size - 2)) : ∃ bytes, encodeQuicIntegerOfSize value size = some bytes ∧
      bytes.length = size ∧ ∀ rest, decodeQuicInteger (bytes ++ rest) = some ((value,size),rest) := by
  rcases known with rfl | rfl | rfl | rfl
  · refine ⟨_,rfl,toBE_length ..,fun rest => ?_⟩
    rw [Nat.mod_eq_of_lt (by omega)]
    exact decode_one rest small
  · exact ⟨_,rfl,toBE_length ..,decode_encodeTwoBytes (Nat.le_of_lt_succ small)⟩
  · refine ⟨_,rfl,toBE_length ..,fun rest => ?_⟩
    rw [Nat.mod_eq_of_lt (by omega),show (0x80000000 : Nat) = 2^30 * 2 from rfl,or_marker (by omega)]
    exact decode_marked rest (.inr (.inl ⟨rfl,rfl⟩)) small
  · refine ⟨_,rfl,toBE_length ..,fun rest => ?_⟩
    rw [Nat.mod_eq_of_lt (by omega),show (0xC000000000000000 : Nat) = 2^62 * 3 from rfl,
      or_marker (by omega)]
    exact decode_marked rest (.inr (.inr ⟨rfl,rfl⟩)) small

/-- The encoding is one of the four lengths, and no shorter one holds the value. -/
private theorem encode_minimal {value : Nat} (small : value < 2^62) :
    ∃ bytes, encodeQuicInteger value = some bytes ∧ getQuicIntegerSize value = some bytes.length ∧
      bytes.length ∈ [1,2,4,8] ∧
      ∀ size ∈ [1,2,4,8], value < 2^(8 * size - 2) → bytes.length ≤ size := by
  unfold encodeQuicInteger getQuicIntegerSize kOneByteLimit kTwoByteLimit kFourByteLimit kEightByteLimit
  split_ifs with one two four eight
  all_goals first
    | refine ⟨_,rfl,?_⟩
      rw [toBE_length]
      refine ⟨rfl,by decide,?_⟩
      simp only [List.mem_cons,List.not_mem_nil,or_false]
      rintro size (rfl | rfl | rfl | rfl) fits <;> omega
    | omega

private theorem decodeQuicInteger_isSome {cursor : Bytes} {atMost : Nat} :
    (decodeQuicInteger cursor atMost).isSome ↔ ∃ firstByte ∈ cursor.head?,
      decodeQuicIntegerLength firstByte ≤ cursor.length ∧
        decodeQuicIntegerLength firstByte ≤ atMost := by
  cases cursor with
  | nil => simp [decodeQuicInteger]
  | cons firstByte rest =>
    have positive : 0 < 1 <<< (firstByte.toNat >>> 6 &&& 0x03) := by
      rw [Nat.shiftLeft_eq,Nat.one_mul]
      exact Nat.two_pow_pos _
    simp only [decodeQuicInteger,decodeQuicIntegerLength,List.head?_cons,Option.mem_some_iff,
      exists_eq_left',List.length_cons] at *
    split_ifs with none one short
    · simp only [Option.isSome_none,Bool.false_eq_true,false_iff]
      omega
    · rw [one]
      simp only [Option.isSome_some,true_iff]
      omega
    · simp only [Option.isSome_none,Bool.false_eq_true,false_iff]
      omega
    · simp only [Option.isSome_some,true_iff]
      omega

/-- Values below the limit are written in the shortest form and read back, larger ones are refused,
and reading succeeds and advances when the announced bytes are there. -/
theorem quic_integer_laws :
    (∀ value < 2^62, ∃ bytes, encodeQuicInteger value = some bytes ∧
      getQuicIntegerSize value = some bytes.length ∧ bytes.length ∈ [1,2,4,8] ∧
      (∀ size ∈ [1,2,4,8], value < 2^(8 * size - 2) → bytes.length ≤ size) ∧
      ∀ rest, decodeQuicInteger (bytes ++ rest) = some ((value,bytes.length),rest)) ∧
    (∀ size ∈ [1,2,4,8], ∀ value < 2^(8 * size - 2), ∃ bytes,
      encodeQuicIntegerOfSize value size = some bytes ∧ bytes.length = size ∧
      ∀ rest, decodeQuicInteger (bytes ++ rest) = some ((value,size),rest)) ∧
    (∀ value ≥ 2^62, encodeQuicInteger value = none ∧ getQuicIntegerSize value = none) ∧
    ∀ cursor atMost,
      ((decodeQuicInteger cursor atMost).isSome ↔ ∃ firstByte ∈ cursor.head?,
        decodeQuicIntegerLength firstByte ≤ cursor.length ∧
          decodeQuicIntegerLength firstByte ≤ atMost) ∧
      (((decodeQuicInteger cursor atMost).elim cursor Prod.snd).length < cursor.length ↔
        (decodeQuicInteger cursor atMost).isSome) := by
  refine ⟨fun value small => ?_,fun size known value small => ?_,fun value large => ?_,
    fun cursor atMost => ⟨decodeQuicInteger_isSome,?_⟩⟩
  · obtain ⟨bytes,encoded,size,known,minimal⟩ := encode_minimal small
    have written : QuicInteger.encode value = .ok bytes := by
      rw [QuicInteger.encode,encoded]
    exact ⟨bytes,encoded,size,known,minimal,decode_encode written⟩
  · exact decode_encodeOfSize (by simpa using known) small
  · unfold encodeQuicInteger getQuicIntegerSize kOneByteLimit kTwoByteLimit kFourByteLimit kEightByteLimit
    split_ifs <;> first | exact ⟨rfl,rfl⟩ | omega
  · cases decoded : decodeQuicInteger cursor atMost with
    | none => simp
    | some result => simpa using decodeQuicInteger_shorter decoded

/-- A requested size is not checked against the value: one beyond the limit is written as zero. -/
theorem sized_overload_writes_too_large :
    encodeQuicIntegerOfSize (2^62) 8 = some [192,0,0,0,0,0,0,0] ∧
      decodeQuicInteger [192,0,0,0,0,0,0,0] = some ((0,8),[]) ∧ encodeQuicInteger (2^62) = none :=
  ⟨rfl,rfl,rfl⟩

end StreamServer.Codec
