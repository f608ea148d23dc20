import Jrok.Codec.BigEndian
import Jrok.Error
import Jrok.Net.Addr

/-!
# STUN messages

The constants of `stun/mod.rs`, and Binding Success responses as a server writes them: a header
with the length of what follows it, then attributes, each padded to a multiple of four bytes.
-/

namespace Jrok.Stun

open BigEndian Imperative

def bindingResponse : UInt16 := 0x0101

def magicCookie : UInt32 := 0x2112A442

def attrMappedAddress : UInt16 := 0x0001

def attrXorMappedAddress : UInt16 := 0x0020

def attrErrorCode : UInt16 := 0x0009

/-- `(n + 3) & !3` of a `usize`. -/
def align4 (n : Nat) : Nat := (n + 3) &&& (2 ^ 64 - 4)

theorem align4_eq {n : Nat} (h : n < 65536) : align4 n = (n + 3) / 4 * 4 := by
  have hmask : (2 ^ 64 - 4 : Nat) = (2 ^ 62 - 1) <<< 2 := by decide
  have hround : (n + 3) / 4 * 4 = ((n + 3) >>> 2) <<< 2 := by
    rw [Nat.shiftLeft_eq, Nat.shiftRight_eq_div_pow]
  apply Nat.eq_of_testBit_eq
  intro i
  rw [align4, hmask, hround, Nat.testBit_and, Nat.testBit_shiftLeft, Nat.testBit_shiftLeft,
    Nat.testBit_two_pow_sub_one, Nat.testBit_shiftRight]
  by_cases hi : 2 ≤ i
  · have hle : 2 + (i - 2) = i := by omega
    by_cases hlt : i < 64
    · simp [hi, hle, show i - 2 < 62 by omega]
    · have hbit : (n + 3).testBit i = false := by
        apply Nat.testBit_lt_two_pow
        calc n + 3 < 2 ^ 17 := by omega
          _ ≤ 2 ^ i := Nat.pow_le_pow_right (by omega) (by omega)
      simp [hle, hbit]
  · simp [hi]

/-- An attribute on the wire. The bytes that pad its value may be any. -/
structure Attribute where
  type : UInt16
  value : List UInt8
  padding : List UInt8
  aligned : value.length + padding.length = (value.length + 3) / 4 * 4

namespace Attribute

/-- An attribute padded with zeros. -/
def zeroPadded (type : UInt16) (value : List UInt8) : Attribute where
  type := type
  value := value
  padding := List.replicate ((value.length + 3) / 4 * 4 - value.length) 0
  aligned := by
    rw [List.length_replicate]
    omega

def encode (a : Attribute) : List UInt8 :=
  bytes16 a.type ++ (bytes16 (.ofNat a.value.length) ++ (a.value ++ a.padding))

theorem length_encode (a : Attribute) :
    a.encode.length = 4 + (a.value.length + 3) / 4 * 4 := by
  have haligned := a.aligned
  simp only [encode, List.length_append, length_bytes16]
  omega

end Attribute

/-- The length of a value as its header gives it. -/
theorem toNat_length {n : Nat} (h : n < 65536) : (UInt16.ofNat n).toNat = n :=
  UInt16.toNat_ofNat_of_lt' h

def encodeAttributes (attrs : List Attribute) : List UInt8 := attrs.flatMap Attribute.encode

theorem encodeAttributes_cons (a : Attribute) (attrs : List Attribute) :
    encodeAttributes (a :: attrs) = a.encode ++ encodeAttributes attrs := rfl

theorem length_le_encodeAttributes (attrs : List Attribute) :
    attrs.length * 4 ≤ (encodeAttributes attrs).length := by
  induction attrs with
  | nil => exact Nat.le_refl 0
  | cons a attrs ih =>
    have ha := a.length_encode
    rw [encodeAttributes_cons, List.length_append, List.length_cons]
    omega

/-- A header of 20 bytes. -/
def header (type length : UInt16) (transactionId : Vector UInt8 12) : List UInt8 :=
  bytes16 type ++ (bytes16 length ++ (bytes32 magicCookie ++ transactionId.toList))

theorem length_header (type length : UInt16) (transactionId : Vector UInt8 12) :
    (header type length transactionId).length = 20 := by
  simp only [header, List.length_append, length_bytes16, length_bytes32, Vector.length_toList]

section

variable (type length : UInt16) (transactionId : Vector UInt8 12) (rest : List UInt8)

theorem u16At_header_type : u16At (header type length transactionId ++ rest) 0 = .ok type := by
  unfold header
  rw [List.append_assoc]
  exact u16At_bytes16 []

theorem u16At_header_length : u16At (header type length transactionId ++ rest) 2 = .ok length := by
  unfold header
  rw [List.append_assoc, List.append_assoc]
  exact u16At_bytes16 (bytes16 type)

theorem u32At_header : u32At (header type length transactionId ++ rest) 4 = .ok magicCookie := rfl

theorem slice_header :
    slice (header type length transactionId ++ rest) 8 20 = .ok transactionId.toList := by
  have hlength : transactionId.toList.length = 12 := Vector.length_toList
  have hslice : slice ((bytes16 type ++ (bytes16 length ++ bytes32 magicCookie)) ++
      (transactionId.toList ++ rest)) 8 (8 + transactionId.toList.length) =
        .ok transactionId.toList := slice_append
  rw [hlength] at hslice
  simpa only [header, List.append_assoc] using hslice

end

/-- The Binding Success response with these attributes. -/
def bindingSuccess (transactionId : Vector UInt8 12) (attrs : List Attribute) : List UInt8 :=
  header bindingResponse (.ofNat (encodeAttributes attrs).length) transactionId ++
    encodeAttributes attrs

end Jrok.Stun
