import MemoryBridge.Stream.Source
import MemoryBridge.Stream.Sink

/-!
# Integers on the wire

Every integer in a payload or a reply is a signed word of 32 bits in two's complement, least
significant byte first. `decode_encode` and `encode_decode` say that the four bytes and the word
determine each other.
-/

namespace MemoryBridge.Wire

/-- Width of an integer in bytes. -/
def intSize : Nat := 4

/-- The number whose base-256 digits are `bs`, least significant first. -/
def natOfBytes : Bytes → Nat
  | [] => 0
  | b :: bs => b.toNat + 256 * natOfBytes bs

/-- The lowest `k` base-256 digits of `n`, least significant first. -/
def bytesOfNat : Nat → Nat → Bytes
  | 0, _ => []
  | k + 1, n => UInt8.ofNat (n % 256) :: bytesOfNat k (n / 256)

/-- How many numbers `k` bytes can hold. -/
def capacity : Nat → Nat
  | 0 => 1
  | k + 1 => 256 * capacity k

def encode (v : Int32) : Bytes :=
  bytesOfNat intSize v.toUInt32.toNat

def decode (bs : Bytes) : Int32 :=
  (UInt32.ofNat (natOfBytes bs)).toInt32

@[simp] theorem length_bytesOfNat (k n : Nat) : (bytesOfNat k n).length = k := by
  induction k generalizing n with
  | zero => rfl
  | succ k ih => simp [bytesOfNat, ih]

@[simp] theorem length_encode (v : Int32) : (encode v).length = 4 := by
  simp [encode, intSize]

theorem natOfBytes_bytesOfNat (k n : Nat) : natOfBytes (bytesOfNat k n) = n % capacity k := by
  induction k generalizing n with
  | zero => simp [bytesOfNat, natOfBytes, capacity, Nat.mod_one]
  | succ k ih =>
    have h : (UInt8.ofNat (n % 256)).toNat = n % 256 := by simp
    rw [bytesOfNat, natOfBytes, ih, h, capacity, Nat.mod_mul]

theorem natOfBytes_lt (bs : Bytes) : natOfBytes bs < capacity bs.length := by
  induction bs with
  | nil => simp [natOfBytes, capacity]
  | cons b bs ih =>
    have hb : b.toNat < 256 := b.toNat_lt
    simp only [natOfBytes, List.length_cons, capacity]
    omega

theorem bytesOfNat_natOfBytes (bs : Bytes) : bytesOfNat bs.length (natOfBytes bs) = bs := by
  induction bs with
  | nil => rfl
  | cons b bs ih =>
    have hb : b.toNat < 256 := b.toNat_lt
    have hm : (b.toNat + 256 * natOfBytes bs) % 256 = b.toNat := by omega
    have hd : (b.toNat + 256 * natOfBytes bs) / 256 = natOfBytes bs := by omega
    simp [bytesOfNat, natOfBytes, hm, hd, ih]

theorem decode_encode (v : Int32) : decode (encode v) = v := by
  have h : v.toUInt32.toNat < capacity 4 := v.toUInt32.toNat_lt
  simp [decode, encode, intSize, natOfBytes_bytesOfNat, Nat.mod_eq_of_lt h]

theorem encode_decode {bs : Bytes} (h : bs.length = 4) : encode (decode bs) = bs := by
  have hlt : natOfBytes bs < 4294967296 := by
    have := natOfBytes_lt bs
    rw [h] at this
    exact this
  have hn : (UInt32.ofNat (natOfBytes bs)).toNat = natOfBytes bs := by
    simp [Nat.mod_eq_of_lt hlt]
  have := bytesOfNat_natOfBytes bs
  rw [h] at this
  simp [encode, decode, intSize, Nat.mod_eq_of_lt hlt, this]

variable {σ : Type}

/-- Reads one integer. The bytes of an incomplete one are lost. -/
def readInt (source : Source σ) : EStateM Fault σ Int32 :=
  decode <$> source.readExact intSize

def writeInt (sink : Sink σ) (v : Int32) : EStateM Fault σ Unit :=
  sink.writeAll (encode v)

end MemoryBridge.Wire
