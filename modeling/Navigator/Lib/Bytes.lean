/-
Byte encodings that can be read back.

Fixed-width big-endian numbers and length-prefixed strings, with the facts that
let two equal encodings be taken apart field by field: an encoding of known width
splits off the front (`bigEndian_append_inj`), and so does a length-prefixed one
(`prefixed_append_inj`).
-/
import Mathlib

namespace Bytes

/-- The lowest `width` bytes of `value`, most significant first. -/
def bigEndian : ℕ → ℕ → List UInt8
  | 0, _ => []
  | w + 1, value => UInt8.ofNat (value / 256 ^ w) :: bigEndian w value

/-- A byte string after its length, as a 64-bit number. -/
def prefixed (bytes : List UInt8) : List UInt8 := bigEndian 8 bytes.length ++ bytes

/-- The UTF-8 bytes of a text. -/
def utf8 (text : String) : List UInt8 := text.toList.flatMap String.utf8EncodeChar

@[simp] theorem bigEndian_length (w v : ℕ) : (bigEndian w v).length = w := by
  induction w with
  | zero => rfl
  | succ w ih => simp [bigEndian, ih]

theorem bigEndian_inj {w v v' : ℕ} (h : bigEndian w v = bigEndian w v') :
    v % 256 ^ w = v' % 256 ^ w := by
  induction w with
  | zero => simp [Nat.mod_one]
  | succ w ih =>
    obtain ⟨hhead, htail⟩ := List.cons.inj h
    have hbyte : v / 256 ^ w % 256 = v' / 256 ^ w % 256 := by
      simpa using congrArg UInt8.toNat hhead
    rw [pow_succ, Nat.mod_mul, Nat.mod_mul, hbyte, ih htail]

variable {xs xs' : List UInt8}

/-- Numbers that fit are split off the front. -/
theorem bigEndian_append_inj {w v v' : ℕ} (hv : v < 256 ^ w) (hv' : v' < 256 ^ w)
    (h : bigEndian w v ++ xs = bigEndian w v' ++ xs') : v = v' ∧ xs = xs' := by
  obtain ⟨hnum, hrest⟩ := List.append_inj h (by simp)
  have hmod := bigEndian_inj hnum
  rw [Nat.mod_eq_of_lt hv, Nat.mod_eq_of_lt hv'] at hmod
  exact ⟨hmod, hrest⟩

/-- Length-prefixed strings are, if their lengths fit. -/
theorem prefixed_append_inj {bs bs' : List UInt8} (hb : bs.length < 256 ^ 8)
    (hb' : bs'.length < 256 ^ 8) (h : prefixed bs ++ xs = prefixed bs' ++ xs') :
    bs = bs' ∧ xs = xs' := by
  rw [prefixed, prefixed, List.append_assoc, List.append_assoc] at h
  obtain ⟨hlen, hrest⟩ := bigEndian_append_inj hb hb' h
  exact List.append_inj hrest hlen

theorem utf8_toByteArray (text : String) : (utf8 text).toByteArray = text.toByteArray :=
  String.utf8Encode_toList

theorem utf8_injective : Function.Injective utf8 := by
  intro text text' h
  rw [← String.toByteArray_inj, ← utf8_toByteArray, ← utf8_toByteArray, h]

theorem utf8_length (text : String) : (utf8 text).length = text.utf8ByteSize := by
  rw [← String.size_toByteArray, ← utf8_toByteArray, List.size_toByteArray]

end Bytes
