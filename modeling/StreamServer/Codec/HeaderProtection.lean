import StreamServer.Codec.PacketBuilder

/-! Packet protection on the sending side: the body is sealed with the header as
associated data, and the first byte and the packet number are masked with a
sample of the sealed body. The ciphers are parameters. -/
namespace StreamServer.Codec
open Protocol

structure Aead where
  inplaceEncrypt : (plaintext associatedData : Bytes) → (seqNum : Nat) → Bytes
  tryDecrypt : (ciphertext associatedData : Bytes) → (seqNum : Nat) → Option Bytes
  getCipherOverhead : Nat

/-- Authenticated encryption whose opening undoes its sealing. -/
structure LawfulAead extends Aead where
  opens : ∀ plaintext associatedData seqNum,
    tryDecrypt (inplaceEncrypt plaintext associatedData seqNum) associatedData seqNum = some plaintext
  adds : ∀ plaintext associatedData seqNum,
    (inplaceEncrypt plaintext associatedData seqNum).length = plaintext.length + getCipherOverhead

structure PacketNumberCipher where
  mask : (sample : Bytes) → Nat → UInt8

def parsePacketNumberLength (initialByte : UInt8) : Nat := (initialByte &&& kPacketNumLenMask).toNat + 1

theorem parsePacketNumberLength_le (byte : UInt8) : parsePacketNumberLength byte ≤ 4 := by
  unfold parsePacketNumberLength kPacketNumLenMask
  rw [UInt8.toNat_and]
  exact Nat.succ_le_succ Nat.and_le_right

/-- The first bytes of a packet number, combined with the mask after its first byte. -/
def maskBytes (mask : Nat → UInt8) (count : Nat) (bytes : Bytes) : Bytes :=
  (bytes.take count).mapIdx (fun i byte => byte ^^^ mask (i + 1)) ++ bytes.drop count

namespace PacketNumberCipher

def maskInitialByte (cipher : PacketNumberCipher) (sample : Bytes) (form : HeaderForm)
    (initialByte : UInt8) : UInt8 := initialByte ^^^ (cipher.mask sample 0 &&& form.typeBitsMask)

/-- The length of the packet number is read before the first byte is masked. -/
def cipherHeader (cipher : PacketNumberCipher) (sample : Bytes) (form : HeaderForm)
    (initialByte : UInt8) (packetNumberBytes : Bytes) : UInt8 × Bytes :=
  (cipher.maskInitialByte sample form initialByte,
    maskBytes (cipher.mask sample) (parsePacketNumberLength initialByte) packetNumberBytes)

/-- The length of the packet number is read after the first byte is unmasked. -/
def decipherHeader (cipher : PacketNumberCipher) (sample : Bytes) (form : HeaderForm)
    (initialByte : UInt8) (packetNumberBytes : Bytes) : UInt8 × Bytes :=
  let unmasked := cipher.maskInitialByte sample form initialByte
  (unmasked,maskBytes (cipher.mask sample) (parsePacketNumberLength unmasked) packetNumberBytes)

end PacketNumberCipher

/-- The sender's sample: a packet number shorter than the longest makes it skip bytes of the body. -/
def headerSample (packetNumberLength : Nat) (encryptedBody : Bytes) : Bytes :=
  (encryptedBody.drop (kMaxPacketNumEncodingSize - packetNumberLength)).take kSampleSize

/-- The header with its first byte and its packet number, the last bytes, masked. There is none if
the sample would be copied from beyond the sealed body. -/
def encryptPacketHeader (form : HeaderForm) (header encryptedBody : Bytes)
    (headerCipher : PacketNumberCipher) : Option Bytes :=
  match header with
  | [] => none
  | initialByte :: rest =>
    let packetNumberLength := parsePacketNumberLength initialByte
    let sampleBytesToUse := kMaxPacketNumEncodingSize - packetNumberLength
    if encryptedBody.length < sampleBytesToUse + kSampleSize then none
    else
      let sample := headerSample packetNumberLength encryptedBody
      let packetNumberOffset := rest.length - packetNumberLength
      let (masked,packetNumber) :=
        headerCipher.cipherHeader sample form initialByte (rest.drop packetNumberOffset)
      some (masked :: rest.take packetNumberOffset ++ packetNumber)

def protectPacket (aead : Aead) (headerCipher : PacketNumberCipher) (built : BuiltPacket) :
    Option Bytes :=
  let encryptedBody :=
    aead.inplaceEncrypt built.body built.header built.packet.header.getPacketSequenceNum
  (encryptPacketHeader built.packet.header.form built.header encryptedBody headerCipher).map
    (· ++ encryptedBody)

theorem maskBytes_length (mask : Nat → UInt8) (count : Nat) (bytes : Bytes) :
    (maskBytes mask count bytes).length = bytes.length := by
  simp only [maskBytes,List.length_append,List.length_mapIdx,List.length_take,List.length_drop]
  omega

theorem maskBytes_twice (mask : Nat → UInt8) {count : Nat} {bytes : Bytes} (rest : Bytes)
    (whole : bytes.length = count) :
    maskBytes mask count (maskBytes mask count bytes ++ rest) = bytes ++ rest := by
  have first : maskBytes mask count bytes = bytes.mapIdx (fun i byte => byte ^^^ mask (i + 1)) := by
    rw [maskBytes,List.take_of_length_le (by omega),List.drop_of_length_le (by omega),
      List.append_nil]
  have size : (bytes.mapIdx (fun i byte => byte ^^^ mask (i + 1))).length = count := by
    rw [List.length_mapIdx,whole]
  rw [first,maskBytes,List.take_left' size,List.drop_left' size,List.mapIdx_mapIdx]
  congr 1
  have undo : (fun i => (fun byte => byte ^^^ mask (i + 1)) ∘ fun byte => byte ^^^ mask (i + 1)) =
      fun _ byte => byte := by
    funext i byte
    simp
  rw [undo]
  exact List.mapIdx_eq_iff.mpr (by simp)

theorem maskInitialByte_twice (cipher : PacketNumberCipher) (sample : Bytes) (form : HeaderForm)
    (initialByte : UInt8) :
    cipher.maskInitialByte sample form (cipher.maskInitialByte sample form initialByte) =
      initialByte := by
  simp [PacketNumberCipher.maskInitialByte]

theorem decipherHeader_cipherHeader (cipher : PacketNumberCipher) (sample : Bytes)
    (form : HeaderForm) {initialByte : UInt8} {packetNumber : Bytes} (rest : Bytes)
    (whole : packetNumber.length = parsePacketNumberLength initialByte) :
    cipher.decipherHeader sample form
        (cipher.cipherHeader sample form initialByte packetNumber).1
        ((cipher.cipherHeader sample form initialByte packetNumber).2 ++ rest) =
      (initialByte,packetNumber ++ rest) := by
  simp only [PacketNumberCipher.cipherHeader,PacketNumberCipher.decipherHeader,
    maskInitialByte_twice,maskBytes_twice _ rest whole]

end StreamServer.Codec
