import Mathlib.Data.Nat.Basic
import Mathlib.Data.List.Basic
import Mathlib.Tactic.Ring

/-!
# Big-endian numbers and UTF-8 texts in byte strings

A number of a given width is a list of that many bytes, the most significant
one first.  Encoding a number that fits and decoding a list of that width are
inverse to each other, so that a reader which consumes a fixed number of bytes
recovers what a writer appended.

A text is the list of its bytes in UTF-8.
-/

namespace FitzClient

namespace BigEndian

/-- The last `width` base-256 digits of a number, most significant first. -/
def encode : Nat → Nat → List UInt8
  | 0, _ => []
  | width + 1, value => UInt8.ofNat (value / 256 ^ width) :: encode width value

/-- The number whose base-256 digits these are. -/
def decode : List UInt8 → Nat
  | [] => 0
  | digit :: digits => digit.toNat * 256 ^ digits.length + decode digits

@[simp]
theorem length_encode (width value : Nat) : (encode width value).length = width := by
  induction width with
  | zero => rfl
  | succ width ih => simp [encode, ih]

theorem decode_lt (digits : List UInt8) : decode digits < 256 ^ digits.length := by
  induction digits with
  | nil => simp [decode]
  | cons digit digits ih =>
      have digitBound : digit.toNat ≤ 255 := Nat.le_of_lt_succ digit.toNat_lt
      calc
        decode (digit :: digits) < digit.toNat * 256 ^ digits.length + 256 ^ digits.length :=
          Nat.add_lt_add_left ih _
        _ ≤ 255 * 256 ^ digits.length + 256 ^ digits.length :=
          Nat.add_le_add_right (Nat.mul_le_mul_right _ digitBound) _
        _ = 256 ^ (digit :: digits).length := by rw [List.length_cons]; ring

theorem decode_encode_mod (width value : Nat) :
    decode (encode width value) = value % 256 ^ width := by
  induction width with
  | zero => simp [encode, decode, Nat.mod_one]
  | succ width ih =>
      have split : value % 256 ^ (width + 1) =
          value % 256 ^ width + 256 ^ width * (value / 256 ^ width % 256) := by
        rw [pow_succ]
        exact Nat.mod_mul
      rw [encode, decode, length_encode, ih, split, UInt8.toNat_ofNat']
      ring

/-- What was written in enough bytes is read back. -/
theorem decode_encode {width value : Nat} (fits : value < 256 ^ width) :
    decode (encode width value) = value := by
  rw [decode_encode_mod, Nat.mod_eq_of_lt fits]

/-- The digits below the first one do not see it. -/
theorem encode_add_mul (width value high : Nat) :
    encode width (high * 256 ^ width + value) = encode width value := by
  induction width generalizing high with
  | zero => rfl
  | succ width ih =>
      have positive : 0 < 256 ^ width := Nat.pow_pos (by decide)
      have shifted : high * 256 ^ (width + 1) = high * 256 * 256 ^ width := by ring
      have quotient : (high * 256 ^ (width + 1) + value) / 256 ^ width =
          high * 256 + value / 256 ^ width := by
        rw [shifted, Nat.mul_comm, Nat.mul_add_div positive]
      have digit : UInt8.ofNat (high * 256 + value / 256 ^ width) =
          UInt8.ofNat (value / 256 ^ width) := by
        apply UInt8.toNat_inj.mp
        simp
      rw [encode, encode, quotient, digit, shifted, ih]

/-- Every list of bytes is the encoding of the number it decodes to. -/
theorem encode_decode (digits : List UInt8) :
    encode digits.length (decode digits) = digits := by
  induction digits with
  | nil => rfl
  | cons digit digits ih =>
      have positive : 0 < 256 ^ digits.length := Nat.pow_pos (by decide)
      have quotient : (digit.toNat * 256 ^ digits.length + decode digits) / 256 ^ digits.length =
          digit.toNat := by
        rw [Nat.mul_comm, Nat.mul_add_div positive, Nat.div_eq_of_lt (decode_lt digits),
          Nat.add_zero]
      rw [List.length_cons, encode, decode, quotient, encode_add_mul, ih, UInt8.ofNat_toNat]

theorem encode_decode_of_length {digits : List UInt8} {width : Nat}
    (sized : digits.length = width) : encode width (decode digits) = digits := by
  rw [← sized]
  exact encode_decode digits

end BigEndian

namespace Utf8

/-- The bytes of a text. -/
def encode (text : String) : List UInt8 :=
  text.toByteArray.data.toList

/-- The text with these bytes, if they are valid UTF-8. -/
def decode? (bytes : List UInt8) : Option String :=
  String.fromUTF8? ⟨bytes.toArray⟩

theorem decode?_encode (text : String) : decode? (encode text) = some text := by
  have whole : (⟨(encode text).toArray⟩ : ByteArray) = text.toByteArray := by
    simp [encode]
  rw [decode?, whole, String.fromUTF8?, dif_pos text.isValidUTF8]
  exact congrArg some (String.toByteArray_inj.mp rfl)

theorem encode_of_decode?_eq_some {bytes : List UInt8} {text : String}
    (decoded : decode? bytes = some text) : encode text = bytes := by
  rw [decode?, String.fromUTF8?] at decoded
  split at decoded
  · obtain rfl := Option.some.inj decoded
    rfl
  · cases decoded

end Utf8

end FitzClient
