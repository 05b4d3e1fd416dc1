import Mathlib.Data.Nat.Bitwise
import Mathlib.Data.List.Basic

/-!
# The UTF-8 bytes of a text

`String.toUTF8`, the bytes `str::as_bytes` reads, writes each character with
`String.utf8EncodeChar`. Read as numbers, those bytes are one of the four forms of UTF-8
(`utf8Form`): a first byte that gives the length, then continuation bytes of six bits each
(`utf8EncodeChar_toNat`). The first byte of each form lies in its own range, so reading the
bytes back (`decodeForm`) finds each code point again, no form is the start of another, and two
texts with the same bytes are the same text (`toUTF8_inj`).

The bytes are built with masks and shifts on `UInt8` and `UInt32`; `byte_form` turns each
`x &&& (2 ^ k - 1) ||| 2 ^ k * c` into arithmetic, after which `omega` does the rest.
-/

namespace AgentIam.Utf8

/-! ### Bytes as numbers -/

theorem or_mul_two_pow {r c k : ℕ} (hr : r < 2 ^ k) : r ||| 2 ^ k * c = 2 ^ k * c + r := by
  apply Nat.eq_of_testBit_eq
  intro i
  rw [Nat.testBit_lor, Nat.testBit_mul_pow_two_add _ hr, Nat.testBit_mul_pow_two]
  by_cases hi : i < k
  · simp [hi]
  · have hki : k ≤ i := not_lt.1 hi
    simp [hi, hki,
      Nat.testBit_lt_two_pow (lt_of_lt_of_le hr (Nat.pow_le_pow_right Nat.two_pos hki))]

theorem toNat_and_or (x m t : UInt8) :
    (x &&& m ||| t).toNat = x.toNat &&& m.toNat ||| t.toNat := by
  show (x.toBitVec &&& m.toBitVec ||| t.toBitVec).toNat = _
  simp [BitVec.toNat_or, BitVec.toNat_and]
  rfl

/-- A byte made of the low `k` bits of `x` under the tag `2 ^ k * c`. -/
theorem byte_form {x : UInt8} (m t : UInt8) (k c : ℕ) (hm : m.toNat = 2 ^ k - 1)
    (ht : t.toNat = 2 ^ k * c) : (x &&& m ||| t).toNat = 2 ^ k * c + x.toNat % 2 ^ k := by
  rw [toNat_and_or, hm, ht, Nat.and_pow_two_sub_one_eq_mod]
  exact or_mul_two_pow (Nat.mod_lt _ (Nat.two_pow_pos k))

theorem toNat_toUInt8 (v : UInt32) : v.toUInt8.toNat = v.toNat % 256 := by
  show (BitVec.ofNat 8 v.toNat).toNat = _
  simp

theorem toNat_toUInt8_shift (v s : UInt32) (hs : s.toNat < 32) :
    (v >>> s).toUInt8.toNat = v.toNat / 2 ^ s.toNat % 256 := by
  have h32 : (s % 32).toBitVec.toNat = s.toNat := by
    show (s.toBitVec % (32 : UInt32).toBitVec).toNat = _
    rw [BitVec.toNat_umod]
    exact Nat.mod_eq_of_lt hs
  show (BitVec.ofNat 8 (v.toBitVec >>> (s % 32).toBitVec).toNat).toNat = _
  simp [BitVec.toNat_ushiftRight, Nat.shiftRight_eq_div_pow, h32]
  rfl

/-! ### The four forms -/

/-- The bytes of the code point `v` in UTF-8, as numbers. -/
def utf8Form (v : ℕ) : List ℕ :=
  if v ≤ 0x7f then [v]
  else if v ≤ 0x7ff then [0xc0 + v / 64, 0x80 + v % 64]
  else if v ≤ 0xffff then [0xe0 + v / 4096, 0x80 + v / 64 % 64, 0x80 + v % 64]
  else [0xf0 + v / 262144, 0x80 + v / 4096 % 64, 0x80 + v / 64 % 64, 0x80 + v % 64]

theorem char_toNat_lt (c : Char) : c.toNat < 0x110000 := by
  have := c.valid
  simp only [UInt32.isValidChar, Nat.isValidChar] at this
  unfold Char.toNat
  omega

/-- `String.utf8EncodeChar` writes the UTF-8 form of the character's code point. -/
theorem utf8EncodeChar_toNat (c : Char) :
    (String.utf8EncodeChar c).map UInt8.toNat = utf8Form c.toNat := by
  have hv := char_toNat_lt c
  have e1 : (c.val ≤ 0x7f) = (c.toNat ≤ 0x7f) := rfl
  have e2 : (c.val ≤ 0x7ff) = (c.toNat ≤ 0x7ff) := rfl
  have e3 : (c.val ≤ 0xffff) = (c.toNat ≤ 0xffff) := rfl
  simp only [String.utf8EncodeChar, utf8Form, e1, e2, e3]
  split_ifs <;>
    simp only [List.map_cons, List.map_nil, List.cons.injEq, and_true,
      byte_form 0x3f 0x80 6 2 rfl rfl, byte_form 0x1f 0xc0 5 6 rfl rfl,
      byte_form 0x0f 0xe0 4 14 rfl rfl, byte_form 0x07 0xf0 3 30 rfl rfl, toNat_toUInt8,
      toNat_toUInt8_shift _ 6 (by decide), toNat_toUInt8_shift _ 12 (by decide),
      toNat_toUInt8_shift _ 18 (by decide), show (6 : UInt32).toNat = 6 from rfl,
      show (12 : UInt32).toNat = 12 from rfl, show (18 : UInt32).toNat = 18 from rfl] <;>
    unfold Char.toNat at * <;> omega

/-- The code point whose form starts `bytes`, and the bytes after it: UTF-8 read back. -/
def decodeForm : List ℕ → Option (ℕ × List ℕ)
  | [] => none
  | b :: rest =>
    if b < 0x80 then some (b, rest)
    else if b < 0xe0 then
      match rest with
      | b1 :: rest => some ((b - 0xc0) * 64 + (b1 - 0x80), rest)
      | _ => none
    else if b < 0xf0 then
      match rest with
      | b1 :: b2 :: rest => some ((b - 0xe0) * 4096 + (b1 - 0x80) * 64 + (b2 - 0x80), rest)
      | _ => none
    else
      match rest with
      | b1 :: b2 :: b3 :: rest =>
        some ((b - 0xf0) * 262144 + (b1 - 0x80) * 4096 + (b2 - 0x80) * 64 + (b3 - 0x80), rest)
      | _ => none

/-- Reading a form back gives its code point and leaves what follows it: the first byte fixes
the form. -/
theorem decodeForm_utf8Form {v : ℕ} (hv : v < 0x110000) (r : List ℕ) :
    decodeForm (utf8Form v ++ r) = some (v, r) := by
  unfold utf8Form
  split_ifs <;> simp only [List.cons_append, List.nil_append, decodeForm]
  · rw [if_pos (by omega)]
  · rw [if_neg (by omega), if_pos (by omega)]
    simp only [Option.some.injEq, Prod.mk.injEq, and_true]
    omega
  · rw [if_neg (by omega), if_neg (by omega), if_pos (by omega)]
    simp only [Option.some.injEq, Prod.mk.injEq, and_true]
    omega
  · rw [if_neg (by omega), if_neg (by omega), if_neg (by omega)]
    simp only [Option.some.injEq, Prod.mk.injEq, and_true]
    omega

/-- No form is the start of another, and the form fixes the code point. -/
theorem utf8Form_append_inj {v w : ℕ} (hv : v < 0x110000) (hw : w < 0x110000) {r s : List ℕ}
    (h : utf8Form v ++ r = utf8Form w ++ s) : v = w ∧ r = s := by
  have hdecode := congrArg decodeForm h
  rwa [decodeForm_utf8Form hv, decodeForm_utf8Form hw, Option.some.injEq, Prod.mk.injEq]
    at hdecode

/-! ### Texts -/

theorem utf8EncodeChar_ne_nil (c : Char) : String.utf8EncodeChar c ≠ [] := fun h => by
  have := congrArg List.length h
  simp only [String.length_utf8EncodeChar, List.length_nil] at this
  exact absurd this (Char.utf8Size_pos c).ne'

theorem flatMap_utf8EncodeChar_inj :
    ∀ {a b : List Char}, a.flatMap String.utf8EncodeChar = b.flatMap String.utf8EncodeChar →
      a = b
  | [], [], _ => rfl
  | [], d :: _, h => absurd h.symm (by simp [utf8EncodeChar_ne_nil])
  | c :: _, [], h => absurd h (by simp [utf8EncodeChar_ne_nil])
  | c :: cs, d :: ds, h => by
    have hnat := congrArg (List.map UInt8.toNat) h
    simp only [List.flatMap_cons, List.map_append, utf8EncodeChar_toNat] at hnat
    obtain ⟨hcd, hrest⟩ := utf8Form_append_inj (char_toNat_lt c) (char_toNat_lt d) hnat
    have hc : c = d := Char.ext (UInt32.toNat.inj hcd)
    rw [hc, flatMap_utf8EncodeChar_inj
      (List.map_injective_iff.2 (fun _ _ => UInt8.toNat.inj) hrest)]

/-- **Two texts with the same UTF-8 bytes are the same text.** -/
theorem toUTF8_inj {a b : String} : a.toUTF8.data.toList = b.toUTF8.data.toList ↔ a = b :=
  ⟨fun h => String.ext (flatMap_utf8EncodeChar_inj h), fun h => h ▸ rfl⟩

end AgentIam.Utf8
