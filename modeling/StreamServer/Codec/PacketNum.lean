import StreamServer.Lib.Wire
import StreamServer.Protocol.Constants

/-! Truncated packet numbers: the sender keeps as many low bytes as twice the
distance to the largest acknowledged number needs, and the receiver takes the
number nearest to the one it expects next. -/
namespace StreamServer.Codec
open Protocol Lib.Wire

structure PacketNumEncodingResult where
  result : Nat
  length : Nat
  deriving DecidableEq, Repr

/-- One more than the index of the highest bit that is set, zero for zero. -/
def findLastSet (v : Nat) : Nat := if v = 0 then 0 else Nat.log2 v + 1

def encodePacketNumber (packetNum largestAckedPacketNum : Nat) :
    Except Error PacketNumEncodingResult :=
  let twiceDistance := mul64 (sub64 packetNum largestAckedPacketNum) 2
  let lengthInBits := findLastSet twiceDistance
  let lengthInBytes := if lengthInBits = 0 then 1 else (lengthInBits + 7) >>> 3
  if lengthInBytes > 4 then .error (.standard "Impossible to encode PacketNum")
  else
    let mask := 1 <<< (lengthInBytes * 8) - 1
    .ok ⟨packetNum &&& mask,lengthInBytes⟩

def decodePacketNumber (encodedPacketNum packetNumBytes expectedNextPacketNum : Nat) : Nat :=
  let packetNumBits := 8 * packetNumBytes
  let packetNumWin := 1 <<< packetNumBits
  let packetNumHalfWin := packetNumWin >>> 1
  let mask := packetNumWin - 1
  let candidate := (expectedNextPacketNum &&& (maxUint64 - mask)) ||| encodedPacketNum
  if expectedNextPacketNum > packetNumHalfWin ∧
      candidate ≤ sub64 expectedNextPacketNum packetNumHalfWin ∧ candidate < 2^62 - packetNumWin then
    add64 candidate packetNumWin
  else if candidate > add64 expectedNextPacketNum packetNumHalfWin ∧ candidate ≥ packetNumWin then
    sub64 candidate packetNumWin
  else candidate

/-- The numbers a receiver that expects `expected` recovers from `length` bytes: those closer to it
than half the range of the bytes, and the upper end of that range. That end is out of reach when
the expected number is half the range itself, where the guard against a negative bound is off. -/
def InDecodingWindow (length expected packetNum : Nat) : Prop :=
  let half := 2^(8 * length) / 2
  expected < packetNum + half ∧ packetNum ≤ expected + half ∧
    ¬(expected = half ∧ packetNum = 2 * half)

instance (length expected packetNum : Nat) : Decidable (InDecodingWindow length expected packetNum) :=
  inferInstanceAs (Decidable (expected < packetNum + 2^(8 * length) / 2 ∧
    packetNum ≤ expected + 2^(8 * length) / 2 ∧
    ¬(expected = 2^(8 * length) / 2 ∧ packetNum = 2 * (2^(8 * length) / 2))))

theorem encodePacketNumber_ok {packetNum largestAcked : Nat} {encoding : PacketNumEncodingResult}
    (ok : encodePacketNumber packetNum largestAcked = .ok encoding) :
    1 ≤ encoding.length ∧ encoding.length ≤ 4 ∧
      encoding.result = packetNum % 2^(8 * encoding.length) := by
  unfold encodePacketNumber at ok
  extract_lets twiceDistance lengthInBits lengthInBytes mask at ok
  split_ifs at ok with long
  cases ok
  have positive : 1 ≤ lengthInBytes := by
    simp only [lengthInBytes,Nat.shiftRight_eq_div_pow]
    split <;> omega
  refine ⟨positive,Nat.le_of_not_lt long,?_⟩
  simp only [mask,Nat.one_shiftLeft,Nat.and_two_pow_sub_one_eq_mod,Nat.mul_comm 8]

private theorem and_high {n bits : Nat} (small : n < 2^64) (fits : bits ≤ 64) :
    n &&& (maxUint64 - (2^bits - 1)) = 2^bits * (n / 2^bits) := by
  have high : maxUint64 - (2^bits - 1) = (2^(64 - bits) - 1) <<< bits := by
    have whole : 2^(64 - bits) * 2^bits = 2^64 := by rw [← Nat.pow_add]; congr 1; omega
    have low : 1 ≤ 2^bits := Nat.one_le_two_pow
    rw [Nat.shiftLeft_eq,Nat.sub_mul,whole,maxUint64]
    omega
  have low : 2^bits * (n / 2^bits) = (n >>> bits) <<< bits := by
    rw [Nat.shiftLeft_eq,Nat.shiftRight_eq_div_pow,Nat.mul_comm]
  rw [high,low]
  apply Nat.eq_of_testBit_eq
  intro i
  rw [Nat.testBit_and,Nat.testBit_shiftLeft,Nat.testBit_shiftLeft,Nat.testBit_two_pow_sub_one,
    Nat.testBit_shiftRight]
  by_cases below : i < bits
  · simp [Nat.not_le.mpr below]
  · have index : bits + (i - bits) = i := by omega
    rw [index]
    by_cases inside : i < 64
    · simp [Nat.le_of_not_lt below,show i - bits < 64 - bits by omega]
    · rw [Nat.testBit_lt_two_pow (Nat.lt_of_lt_of_le small
        (Nat.pow_le_pow_right (by decide) (Nat.le_of_not_lt inside)))]
      simp

theorem decodePacketNumber_window {length expected packetNum : Nat} (least : 1 ≤ length)
    (most : length ≤ 4) (valid : packetNum < 2^62)
    (window : InDecodingWindow length expected packetNum) :
    decodePacketNumber (packetNum % 2^(8 * length)) length expected = packetNum := by
  obtain ⟨near,far,edge⟩ := window
  have small : expected < 2^63 := by
    have : 2^(8 * length) ≤ 2^(8 * 4) := Nat.pow_le_pow_right (by decide) (by omega)
    omega
  have candidate : (expected &&& (maxUint64 - (2^(8 * length) - 1))) |||
      packetNum % 2^(8 * length) =
        2^(8 * length) * (expected / 2^(8 * length)) + packetNum % 2^(8 * length) := by
    rw [and_high (by omega) (by omega),
      ← Nat.two_pow_add_eq_or_of_lt (Nat.mod_lt _ (Nat.two_pow_pos _))]
  -- The two numbers lie in the same or in neighbouring windows.
  have split := Nat.div_add_mod packetNum (2^(8 * length))
  have splitExpected := Nat.div_add_mod expected (2^(8 * length))
  have bound := Nat.mod_lt packetNum (Nat.two_pow_pos (8 * length))
  have boundExpected := Nat.mod_lt expected (Nat.two_pow_pos (8 * length))
  have lower : 2^(8 * length) / 2 < expected →
      sub64 expected (2^(8 * length) / 2) = expected - 2^(8 * length) / 2 := by
    intro above
    exact sub64_of_le (Nat.le_of_lt above) (by omega)
  unfold decodePacketNumber
  simp only [Nat.one_shiftLeft,candidate,Nat.shiftRight_eq_div_pow,Nat.pow_one]
  clear candidate
  generalize packetNum % 2^(8 * length) = r at *
  generalize packetNum / 2^(8 * length) = p at *
  generalize expected % 2^(8 * length) = s at *
  generalize expected / 2^(8 * length) = q at *
  have cases : length = 1 ∨ length = 2 ∨ length = 3 ∨ length = 4 := by omega
  rcases cases with rfl | rfl | rfl | rfl
  all_goals
    simp only [Nat.reduceMul,Nat.reducePow,Nat.reduceDiv] at *
    have neighbours : p = q ∨ p = q + 1 ∨ q = p + 1 := by omega
    rw [add64_of_lt (by omega),add64_of_lt (by omega)]
    split_ifs with up down
    · omega
    · rw [sub64_of_le down.2 (by omega)]
      omega
    · omega

private theorem lt_of_findLastSet_le {v bits : Nat} (few : findLastSet v ≤ bits) : v < 2^bits := by
  unfold findLastSet at few
  split at few
  next zero =>
    rw [zero]
    exact Nat.two_pow_pos bits
  next => exact Nat.lt_of_lt_of_le Nat.lt_log2_self (Nat.pow_le_pow_right (by decide) few)

theorem encodePacketNumber_distance {packetNum largestAcked : Nat} {encoding : PacketNumEncodingResult}
    (ordered : largestAcked ≤ packetNum) (valid : packetNum < 2^62)
    (ok : encodePacketNumber packetNum largestAcked = .ok encoding) :
    2 * (packetNum - largestAcked) < 2^(8 * encoding.length) := by
  unfold encodePacketNumber at ok
  extract_lets twiceDistance lengthInBits lengthInBytes mask at ok
  split_ifs at ok with long
  cases ok
  have exact : twiceDistance = 2 * (packetNum - largestAcked) := by
    simp only [twiceDistance]
    rw [sub64_of_le ordered (by omega),mul64,wrap64,Nat.mod_eq_of_lt (by omega),Nat.mul_comm]
  have enough : lengthInBits ≤ 8 * lengthInBytes := by
    simp only [lengthInBytes,Nat.shiftRight_eq_div_pow]
    split <;> omega
  rw [← exact]
  exact lt_of_findLastSet_le enough

/-- A receiver that expects any number from the largest acknowledged one up to half a window above
the packet recovers its number from the bytes that were sent. -/
theorem packet_number_round_trip {largestAcked packetNum expected : Nat}
    {encoding : PacketNumEncodingResult} (ordered : largestAcked ≤ packetNum) (valid : packetNum < 2^62)
    (encoded : encodePacketNumber packetNum largestAcked = .ok encoding)
    (above : largestAcked ≤ expected)
    (near : expected ≤ packetNum + 2^(8 * encoding.length - 1) - 1) :
    decodePacketNumber (ofBE (toBE encoding.length encoding.result)) encoding.length expected =
      packetNum := by
  obtain ⟨least,most,kept⟩ := encodePacketNumber_ok encoded
  have distance := encodePacketNumber_distance ordered valid encoded
  have half : 2^(8 * encoding.length) = 2 * 2^(8 * encoding.length - 1) := by
    rw [← Nat.pow_succ',Nat.succ_eq_add_one,Nat.sub_add_cancel (by omega)]
  have positive := Nat.two_pow_pos (8 * encoding.length - 1)
  have bytes : ofBE (toBE encoding.length encoding.result) = encoding.result := by
    refine ofBE_toBE_of_lt ?_
    rw [kept,show 256 = 2^8 by rfl,← Nat.pow_mul]
    exact Nat.mod_lt _ (Nat.two_pow_pos _)
  rw [bytes,kept]
  refine decodePacketNumber_window least most valid ?_
  unfold InDecodingWindow
  dsimp only
  rw [half] at distance ⊢
  rw [Nat.mul_div_cancel_left _ (by decide)]
  exact ⟨by omega,by omega,by omega⟩

theorem packet_number_round_trip_rfc :
    decodePacketNumber (ofBE (toBE 2 0x5c02)) 2 0xabe8b4 = 0xac5c02 :=
  @packet_number_round_trip 0xabe8b3 0xac5c02 0xabe8b4 ⟨0x5c02,2⟩ (by decide) (by decide) (by rfl)
    (by decide) (by decide)

end StreamServer.Codec
