import Mathlib

/-! Readers of byte lists that may fail, the relation between a reader and the
bytes it consumes, and big-endian numbers. A reader that reads some bytes does
so whatever follows them, so encodings can be concatenated. -/
namespace StreamServer.Lib.Wire

variable {ε α β : Type} {bytes : List UInt8}

abbrev Reader (ε α : Type) := StateT (List UInt8) (Except ε) α

/-- The reader consumes exactly these bytes, whatever follows them, and returns the value. -/
def Reads (reader : Reader ε α) (bytes : List UInt8) (value : α) : Prop :=
  ∀ rest, reader (bytes ++ rest) = .ok (value,rest)

/-- The reader consumes exactly these bytes if nothing follows them. -/
def ReadsLast (reader : Reader ε α) (bytes : List UInt8) (value : α) : Prop :=
  reader bytes = .ok (value,[])

namespace Reads

theorem pure (value : α) : Reads (Pure.pure value : Reader ε α) [] value := by
  intro rest
  rfl

variable {a : List UInt8} {x : α} {y : β} {next : α → Reader ε β} {first : Reader ε α}

theorem bind {b : List UInt8} (front : Reads first a x) (back : Reads (next x) b y) :
    Reads (first >>= next) (a ++ b) y := by
  intro rest
  have stepped : (first >>= next) (a ++ (b ++ rest)) =
      (first (a ++ (b ++ rest)) >>= fun result => next result.1 result.2) := rfl
  rw [List.append_assoc,stepped,front (b ++ rest)]
  exact back rest

theorem last (front : Reads first a x) (back : Reads (next x) [] y) :
    Reads (first >>= next) a y := by
  have whole := front.bind back
  rwa [List.append_nil] at whole

theorem whole {reader : Reader ε α} {value : α} (reads : Reads reader bytes value) :
    ReadsLast reader bytes value := by
  have := reads []
  rwa [List.append_nil] at this

theorem bindLast {b : List UInt8} (front : Reads first a x) (back : ReadsLast (next x) b y) :
    ReadsLast (first >>= next) (a ++ b) y := by
  have stepped : (first >>= next) (a ++ b) =
      (first (a ++ b) >>= fun result => next result.1 result.2) := rfl
  rw [ReadsLast,stepped,front b]
  exact back

theorem step (front : Reads first a x) (rest : List UInt8) :
    (first >>= next) (a ++ rest) = next x rest := by
  have stepped : (first >>= next) (a ++ rest) =
      (first (a ++ rest) >>= fun result => next result.1 result.2) := rfl
  rw [stepped,front rest]
  rfl

theorem check {first : Except ε α} (passed : first = .ok x) (back : Reads (next x) bytes y) :
    Reads ((liftM first : Reader ε α) >>= next) bytes y := by
  subst passed
  exact back

end Reads

/-- The reader leaves no more than it was given. -/
def Shrinks (reader : Reader ε α) : Prop :=
  ∀ bytes value rest, reader bytes = .ok (value,rest) → rest.length ≤ bytes.length

namespace Shrinks

theorem pure (value : α) : Shrinks (Pure.pure value : Reader ε α) := by
  intro bytes _ rest read
  cases read
  exact Nat.le_refl _

theorem bind (front : Shrinks first) (back : ∀ value, Shrinks (next value)) :
    Shrinks (first >>= next) := by
  intro bytes value rest read
  have stepped : (first >>= next) bytes = (first bytes >>= fun result => next result.1 result.2) := rfl
  rw [stepped] at read
  cases reading : first bytes with
  | error error =>
    rw [reading] at read
    cases read
  | ok result =>
    rw [reading] at read
    exact Nat.le_trans (back result.1 result.2 value rest read) (front bytes result.1 result.2 reading)

end Shrinks

def takeExactly (error : ε) (n : Nat) : Reader ε (List UInt8) := fun bytes =>
  if bytes.length < n then .error error else .ok (bytes.take n,bytes.drop n)

theorem takeExactly_reads (error : ε) {n : Nat} (size : bytes.length = n) :
    Reads (takeExactly error n) bytes bytes := by
  intro rest
  have enough : ¬(bytes ++ rest).length < n := by rw [List.length_append]; omega
  simp only [takeExactly,if_neg enough,List.take_left' size,List.drop_left' size]

theorem takeExactly_shrinks (error : ε) (n : Nat) : Shrinks (takeExactly error n) := by
  intro bytes value rest read
  unfold takeExactly at read
  split at read
  · cases read
  · cases read
    rw [List.length_drop]
    exact Nat.sub_le _ _

def toBE : Nat → Nat → List UInt8
  | 0, _ => []
  | width + 1, n => UInt8.ofNat (n / 256^width) :: toBE width n

def ofBE (bytes : List UInt8) : Nat := bytes.foldl (fun sum byte => sum * 256 + byte.toNat) 0

@[simp] theorem toBE_length (width n : Nat) : (toBE width n).length = width := by
  induction width with
  | zero => rfl
  | succ width ih => rw [toBE,List.length_cons,ih]

private theorem foldl_from (bytes : List UInt8) (start : Nat) :
    bytes.foldl (fun sum byte => sum * 256 + byte.toNat) start =
      start * 256^bytes.length + ofBE bytes := by
  induction bytes generalizing start with
  | nil => simp [ofBE]
  | cons byte rest ih =>
    simp only [ofBE,List.foldl_cons,List.length_cons]
    rw [ih,ih (0 * 256 + byte.toNat)]
    ring

theorem ofBE_cons (byte : UInt8) (rest : List UInt8) :
    ofBE (byte :: rest) = byte.toNat * 256^rest.length + ofBE rest := by
  rw [ofBE,List.foldl_cons,foldl_from]
  simp

theorem ofBE_append (a b : List UInt8) : ofBE (a ++ b) = ofBE a * 256^b.length + ofBE b := by
  rw [ofBE,List.foldl_append,foldl_from]
  rfl

theorem ofBE_zeros (n : Nat) : ofBE (List.replicate n 0) = 0 := by
  induction n with
  | zero => rfl
  | succ n ih => rw [List.replicate_succ,ofBE_cons,ih]; simp

theorem ofBE_toBE (width n : Nat) : ofBE (toBE width n) = n % 256^width := by
  induction width with
  | zero => simp [toBE,ofBE,Nat.mod_one]
  | succ width ih =>
    have digit : (UInt8.ofNat (n / 256^width)).toNat = n / 256^width % 256 := by simp
    rw [toBE,ofBE_cons,ih,toBE_length,digit,Nat.pow_succ,Nat.mod_mul]
    ring

theorem ofBE_toBE_of_lt {width n : Nat} (small : n < 256^width) : ofBE (toBE width n) = n := by
  rw [ofBE_toBE,Nat.mod_eq_of_lt small]

end StreamServer.Lib.Wire
