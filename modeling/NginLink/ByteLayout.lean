import Mathlib.Data.Nat.Digits.Defs
import Mathlib.Data.Nat.Digits.Lemmas
import Mathlib.Logic.Equiv.Basic

/-!
Fixed-size byte layouts of plain records: little-endian words, single bytes and
byte arrays, put side by side without padding. A layout carries both round-trip
laws, so a record composed from its fields inherits them. Decoding is total;
the laws only speak about byte strings of the layout's own size.
-/

namespace NginLink.ByteLayout

universe u v
variable {α : Type u} {β : Type v}

def leValue (bytes : List UInt8) : Nat := Nat.ofDigits 256 (bytes.map UInt8.toNat)

def leBytes : Nat → Nat → List UInt8
  | 0, _ => []
  | width + 1, value => UInt8.ofNat value :: leBytes width (value / 256)

@[simp] theorem le_value_nil : leValue [] = 0 := rfl

@[simp] theorem le_value_cons (byte : UInt8) (rest : List UInt8) :
    leValue (byte :: rest) = byte.toNat + 256 * leValue rest := rfl

@[simp] theorem le_bytes_length (width value : Nat) : (leBytes width value).length = width := by
  induction width generalizing value with
  | zero => rfl
  | succ width ih => simp [leBytes, ih]

theorem le_value_lt (bytes : List UInt8) : leValue bytes < 256 ^ bytes.length := by
  have digits : ∀ digit ∈ bytes.map UInt8.toNat, digit < 256 := by
    intro digit member
    obtain ⟨byte, _, rfl⟩ := List.mem_map.mp member
    exact byte.toNat_lt
  simpa [leValue] using Nat.ofDigits_lt_base_pow_length (by decide : 1 < 256) digits

theorem le_value_le_bytes (width value : Nat) :
    leValue (leBytes width value) = value % 256 ^ width := by
  induction width generalizing value with
  | zero => simp [leBytes, Nat.mod_one]
  | succ width ih =>
      have byte : (UInt8.ofNat value).toNat = value % 256 := by simp
      rw [leBytes, le_value_cons, ih, byte, Nat.pow_succ', Nat.mod_mul]

theorem le_bytes_le_value (bytes : List UInt8) :
    leBytes bytes.length (leValue bytes) = bytes := by
  induction bytes with
  | nil => rfl
  | cons byte rest ih =>
      have small := byte.toNat_lt
      have quotient : (byte.toNat + 256 * leValue rest) / 256 = leValue rest := by omega
      have head : UInt8.ofNat (byte.toNat + 256 * leValue rest) = byte := by
        apply UInt8.toNat.inj
        simp
      simp only [List.length_cons, leBytes, le_value_cons, quotient, ih, head]

structure Layout (α : Type u) where
  size : Nat
  encode : α → List UInt8
  decode : List UInt8 → α
  encode_length : ∀ value, (encode value).length = size
  decode_encode : ∀ value, decode (encode value) = value
  encode_decode : ∀ bytes, bytes.length = size → encode (decode bytes) = bytes

attribute [simp] Layout.encode_length Layout.decode_encode

namespace Layout

def u8 : Layout UInt8 where
  size := 1
  encode byte := [byte]
  decode bytes := bytes.headD 0
  encode_length _ := rfl
  decode_encode _ := rfl
  encode_decode bytes single := by
    obtain ⟨byte, rfl⟩ := List.length_eq_one_iff.mp single
    rfl

def u32 : Layout UInt32 where
  size := 4
  encode word := leBytes 4 word.toNat
  decode bytes := UInt32.ofNat (leValue bytes)
  encode_length _ := le_bytes_length 4 _
  decode_encode word := by
    apply UInt32.toNat.inj
    have bound := word.toNat_lt
    rw [le_value_le_bytes, UInt32.toNat_ofNat']
    omega
  encode_decode bytes four := by
    have bound := le_value_lt bytes
    rw [four] at bound
    rw [UInt32.toNat_ofNat', Nat.mod_eq_of_lt (by omega), ← four]
    exact le_bytes_le_value bytes

-- A byte array `[u8; count]`; a string of another length decodes to zeros.
def array (count : Nat) : Layout (Vector UInt8 count) where
  size := count
  encode bytes := bytes.toList
  decode bytes := if sized : bytes.length = count then ⟨bytes.toArray, by simpa using sized⟩
    else Vector.replicate count 0
  encode_length bytes := by simp
  decode_encode bytes := by simp [Vector.toList]
  encode_decode bytes sized := by simp [sized]

def pair (first : Layout α) (second : Layout β) : Layout (α × β) where
  size := first.size + second.size
  encode value := first.encode value.1 ++ second.encode value.2
  decode bytes := (first.decode (bytes.take first.size), second.decode (bytes.drop first.size))
  encode_length value := by simp
  decode_encode value := by
    have front : (first.encode value.1 ++ second.encode value.2).take first.size =
        first.encode value.1 := List.take_left' (first.encode_length _)
    have back : (first.encode value.1 ++ second.encode value.2).drop first.size =
        second.encode value.2 := List.drop_left' (first.encode_length _)
    rw [front, back, first.decode_encode, second.decode_encode]
  encode_decode bytes sized := by
    have front := first.encode_decode (bytes.take first.size) (by simp; omega)
    have back := second.encode_decode (bytes.drop first.size) (by simp; omega)
    simp only [front, back, List.take_append_drop]

def record (fields : Layout α) (shape : α ≃ β) : Layout β where
  size := fields.size
  encode value := fields.encode (shape.symm value)
  decode bytes := shape (fields.decode bytes)
  encode_length value := fields.encode_length _
  decode_encode value := by simp
  encode_decode bytes sized := by simp [fields.encode_decode bytes sized]

/-- Decoding looks at the first `size` bytes of a longer buffer only through `take`,
so what lies behind them cannot matter. -/
theorem decode_take_append (layout : Layout α) (bytes rest : List UInt8)
    (sized : layout.size ≤ bytes.length) :
    layout.decode ((bytes ++ rest).take layout.size) =
      layout.decode (bytes.take layout.size) := by
  rw [List.take_append_of_le_length sized]

end Layout
end NginLink.ByteLayout
