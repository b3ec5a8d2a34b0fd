import JavaScriptCore.Value

/-!
# The encoding, and what a conversion between formats keeps

The word-level facts every exit path rests on: or-ing the number tag into a zero-extended int32 gives its encoding, the low
half of an encoded int32 is the int32, and `denote` reads these back. `gprConversion` is the word a GPR-to-GPR move or an
in-place conversion leaves; `denote_gprConversion` says it holds the same value in the new format, for every pair of formats a
GPR can have.
-/

namespace JavaScriptCore

/-- The number tag is `0xFFFF` shifted past the low 48 bits. -/
theorem toNat_tagTypeNumber : TagTypeNumber.toNat = 2 ^ 48 * 65535 := rfl

/-- Or-ing the number tag into a word below 2^48 adds it. -/
theorem toNat_or_tagTypeNumber {w : Word} (hw : w.toNat < 2 ^ 48) :
    (w ||| TagTypeNumber).toNat = w.toNat + 2 ^ 48 * 65535 := by
  rw [BitVec.toNat_or, toNat_tagTypeNumber, Nat.or_comm, ← Nat.mul_add_lt_is_or hw]
  omega

/-- The low half of a word, zero-extended, is below 2^32. -/
theorem toNat_low32 (w : Word) : (low32 w).toNat = w.toNat % 2 ^ 32 := by
  simp [low32, BitVec.toNat_setWidth]; omega

@[simp] theorem setWidth_low32 (w : Word) : (low32 w).setWidth 32 = w.setWidth 32 := by
  apply BitVec.eq_of_toNat_eq; simp [toNat_low32]

/-- Boxing a zero-extended int32: the tag is set and the low half kept. -/
theorem or_tagTypeNumber_of_lt {w : Word} (hw : w.toNat < 2 ^ 32) :
    TagTypeNumber ≤ w ||| TagTypeNumber ∧ (w ||| TagTypeNumber).setWidth 32 = w.setWidth 32 := by
  have h := toNat_or_tagTypeNumber (w := w) (by omega)
  refine ⟨?_, BitVec.eq_of_toNat_eq ?_⟩
  · rw [BitVec.le_def, h, toNat_tagTypeNumber]; omega
  · simp only [BitVec.toNat_setWidth, h]; omega

/-- Adding the number tag is subtracting the double bias: the two sum to 2^64. -/
theorem add_tagTypeNumber (w : Word) : w + TagTypeNumber = w - DoubleEncodeOffset := by
  apply BitVec.eq_of_toNat_eq
  have : DoubleEncodeOffset.toNat = 2 ^ 48 := rfl
  simp only [BitVec.toNat_add, BitVec.toNat_sub, toNat_tagTypeNumber, this]
  omega

/-- Subtracting the number tag, as `boxDouble` does, is encoding the double. -/
theorem sub_tagTypeNumber (w : Word) : w - TagTypeNumber = JSValue.encode (.double w) := by
  apply BitVec.eq_of_toNat_eq
  have : DoubleEncodeOffset.toNat = 2 ^ 48 := rfl
  simp only [JSValue.encode, BitVec.toNat_add, BitVec.toNat_sub, toNat_tagTypeNumber, this]
  omega

/-- Or-ing the number tag into an `Integer` GPR is encoding the int32 it holds. -/
theorem encode_of_denote_integer {w : Word} {v : JSValue} (h : denote .integer w = some v) :
    v.encode = w ||| TagTypeNumber := by
  simp only [denote] at h
  split_ifs at h with hw
  cases h
  have : (w.setWidth 32).setWidth 64 = w := by
    apply BitVec.eq_of_toNat_eq
    simp only [BitVec.toNat_setWidth]
    omega
  rw [JSValue.encode, this]

/-! ## Doubles from int32s -/

/-- The highest set bit of a positive number below `2 ^ k` bounds it from above. -/
theorem lt_two_pow_highestBit {k m : Nat} (hm : m < 2 ^ k) (hpos : 0 < m) : m < 2 ^ (highestBit k m + 1) := by
  induction k with
  | zero => omega
  | succ k ih =>
    simp only [highestBit]
    split
    · exact hm
    · exact ih (by omega)

/-- The highest set bit among the `k` lowest is below `k`. -/
theorem highestBit_lt {k : Nat} (hk : 0 < k) (m : Nat) : highestBit k m < k := by
  induction k with
  | zero => omega
  | succ k ih =>
    simp only [highestBit]
    split
    · omega
    · rcases Nat.eq_zero_or_pos k with rfl | hk'
      · simp [highestBit]
      · exact Nat.lt_succ_of_lt (ih hk')

/-- The highest set bit is set. -/
theorem two_pow_highestBit_le {k m : Nat} (hm : m < 2 ^ k) (hpos : 0 < m) : 2 ^ highestBit k m ≤ m := by
  induction k with
  | zero => omega
  | succ k ih =>
    simp only [highestBit]
    split
    · assumption
    · exact ih (by omega)

/-- An int32's double is below the tag range: its exponent is at most 1054. -/
theorem toNat_int32ToDouble_lt (i : BitVec 32) : (int32ToDouble i).toNat < 0xFFFE000000000000 := by
  by_cases h0 : i.toInt.natAbs = 0
  · simp [int32ToDouble, h0]
  have hm : i.toInt.natAbs < 2 ^ 32 := by
    have := i.isLt; rw [BitVec.toInt_eq_toNat_cond]; split <;> omega
  have he := highestBit_lt (by decide : 0 < 32) i.toInt.natAbs
  have hhi := lt_two_pow_highestBit hm (by omega)
  have hlo := two_pow_highestBit_le hm (by omega)
  simp only [int32ToDouble, h0, if_false, BitVec.toNat_ofNat]
  generalize highestBit 32 i.toInt.natAbs = e at he hhi hlo ⊢
  have hfrac : (i.toInt.natAbs - 2 ^ e) * 2 ^ (52 - e) < 2 ^ 52 := by
    calc (i.toInt.natAbs - 2 ^ e) * 2 ^ (52 - e) < 2 ^ e * 2 ^ (52 - e) :=
          Nat.mul_lt_mul_of_pos_right (by rw [Nat.pow_succ] at hhi; omega) (Nat.two_pow_pos _)
      _ = 2 ^ 52 := by rw [← Nat.pow_add]; congr 1; omega
  have hexp : (1023 + e) * 2 ^ 52 ≤ 1054 * 2 ^ 52 := Nat.mul_le_mul_right _ (by omega)
  split <;> omega

namespace JSValue

theorem decode_of_tag_le {w : Word} (h : TagTypeNumber ≤ w) : decode w = .int32 (w.setWidth 32) := by
  simp [decode, h]

theorem decode_of_lt_tag {w : Word} (h : ¬TagTypeNumber ≤ w) :
    decode w = if DoubleEncodeOffset ≤ w then .double (w - DoubleEncodeOffset) else .other w := by
  simp [decode, h]

/-- A word that decodes as an int32 carries the number tag. -/
theorem tag_le_of_decode_int32 {w : Word} {i : BitVec 32} (h : decode w = .int32 i) :
    TagTypeNumber ≤ w ∧ i = w.setWidth 32 := by
  unfold decode at h
  split at h
  · exact ⟨‹_›, (JSValue.int32.inj h).symm⟩
  · split at h <;> cases h

/-- The encoding of an int32 decodes to it. -/
@[simp] theorem decode_encode_int32 (i : BitVec 32) : decode (encode (.int32 i)) = .int32 i := by
  have hi : (i.setWidth 64).toNat < 2 ^ 32 := by simp [BitVec.toNat_setWidth]; omega
  obtain ⟨hle, hlow⟩ := or_tagTypeNumber_of_lt hi
  rw [encode, decode_of_tag_le hle, hlow]
  congr 1
  apply BitVec.eq_of_toNat_eq; simp [BitVec.toNat_setWidth]

/-- A word below the number tag and above the bias decodes as the double it biases. -/
theorem decode_of_lt_tag_of_le {w : Word} (h : ¬TagTypeNumber ≤ w) (h' : DoubleEncodeOffset ≤ w) :
    decode w = .double (w - DoubleEncodeOffset) := by
  simp [decode, h, h']

/-- A decoded double is below the tag range. -/
theorem toNat_lt_of_decode_double {w b : Word} (h : decode w = .double b) : b.toNat < 0xFFFE000000000000 := by
  unfold decode at h
  split at h
  · cases h
  · rename_i ht
    split at h
    · rename_i ho
      cases h
      rw [BitVec.le_def, toNat_tagTypeNumber] at ht
      rw [BitVec.le_def] at ho
      have : DoubleEncodeOffset.toNat = 2 ^ 48 := rfl
      rw [BitVec.toNat_sub, this]
      omega
    · cases h

/-- A purified double's encoding decodes to it. -/
theorem decode_encode_double {b : Word} (h : b.toNat < 0xFFFE000000000000) : decode (encode (.double b)) = .double b := by
  have ho : DoubleEncodeOffset.toNat = 2 ^ 48 := rfl
  have hb : (b + DoubleEncodeOffset).toNat = b.toNat + 2 ^ 48 := by rw [BitVec.toNat_add, ho]; omega
  rw [encode, decode_of_lt_tag_of_le (by rw [BitVec.le_def, hb, toNat_tagTypeNumber]; omega)
    (by rw [BitVec.le_def, hb, ho]; omega)]
  simp

end JSValue

/-- An int32 held as a double: the bits `cvtsi2sd` gives. -/
theorem holds_int32ToDouble (i : BitVec 32) : Holds .double (int32ToDouble i) (.int32 i) := by
  simp [Holds, denote, toNat_int32ToDouble_lt, JSValue.canonical]

/-- A purified double held as a double. -/
theorem holds_double {b : Word} (h : b.toNat < 0xFFFE000000000000) : Holds .double b (.double b) := by
  simp [Holds, denote, h, JSValue.canonical]

/-- The formats that hold an encoded value: all but the unboxed `Integer` and `Double`. -/
def DataFormat.isBoxed (f : DataFormat) : Bool := f != .integer && f != .double

theorem denote_boxed {f : DataFormat} (hf : f.isBoxed) (w : Word) :
    denote f w = if (JSValue.decode w).fits f then some (JSValue.decode w) else none := by
  cases f <;> simp_all [denote, DataFormat.isBoxed]

/-- No conversion between two boxed formats: they share one encoding. -/
theorem needDataFormatConversion_boxed {old new : DataFormat} (ho : old.isBoxed) (hn : new.isBoxed) :
    needDataFormatConversion old new = false := by
  simp only [DataFormat.isBoxed, Bool.and_eq_true, bne_iff_ne] at ho hn
  cases old <;> simp_all [needDataFormatConversion]

/-- A boxed format converts to `Integer`. -/
theorem needDataFormatConversion_boxed_integer {old : DataFormat} (ho : old.isBoxed) :
    needDataFormatConversion old .integer = true := by
  cases old <;> simp_all [DataFormat.isBoxed, needDataFormatConversion]

/-- Only an int32 fits `Integer`. -/
theorem JSValue.fits_integer {v : JSValue} (h : v.fits .integer) : ∃ i, v = .int32 i := by
  cases v with
  | int32 i => exact ⟨i, rfl⟩
  | double => nomatch h
  | other => nomatch h

/-- The word a GPR-to-GPR move (`moveTo`, a `swapWith` between GPRs) or an in-place `convert` leaves, from `old` format to
`new`: nothing to do, box an `Integer`, or zero-extend into `Integer`. -/
def gprConversion (old new : DataFormat) (w : Word) : Word :=
  if !needDataFormatConversion old new then w else if old = .integer then w ||| TagTypeNumber else low32 w

/-- No conversion between a format and itself. -/
@[simp] theorem gprConversion_self (f : DataFormat) (w : Word) : gprConversion f f w = w := by
  cases f <;> simp [gprConversion, needDataFormatConversion]

/-- A GPR-to-GPR conversion keeps the value: a word denoting `v` in `old` denotes it in `new` after the conversion, whenever
`v` fits `new` and neither format is `Double` (a GPR never holds a raw double). -/
theorem denote_gprConversion {old new : DataFormat} {w : Word} {v : JSValue} (hw : denote old w = some v)
    (hfit : v.fits new) (hold : old ≠ .double) (hnew : new ≠ .double) : denote new (gprConversion old new w) = some v := by
  by_cases hi : old = .integer
  · subst hi
    simp only [denote, Option.ite_none_right_eq_some, Option.some.injEq] at hw
    obtain ⟨hlt, rfl⟩ := hw
    by_cases hn : new = .integer
    · subst hn; simpa [gprConversion, needDataFormatConversion, denote] using hlt
    · obtain ⟨hle, hlow⟩ := or_tagTypeNumber_of_lt hlt
      have hb : new.isBoxed := by simp [DataFormat.isBoxed, hn, hnew]
      simp [gprConversion, needDataFormatConversion, hn, denote_boxed hb, JSValue.decode_of_tag_le hle, hlow, hfit]
  · have hb : old.isBoxed := by simp [DataFormat.isBoxed, hi, hold]
    rw [denote_boxed hb] at hw
    simp only [Option.ite_none_right_eq_some, Option.some.injEq] at hw
    obtain ⟨-, rfl⟩ := hw
    by_cases hn : new = .integer
    · subst hn
      obtain ⟨i, hi'⟩ := JSValue.fits_integer hfit
      obtain ⟨-, rfl⟩ := JSValue.tag_le_of_decode_int32 hi'
      simp [gprConversion, needDataFormatConversion_boxed_integer hb, hi, denote, toNat_low32, hi']
      omega
    · have hnb : new.isBoxed := by simp [DataFormat.isBoxed, hn, hnew]
      simp [gprConversion, needDataFormatConversion_boxed hb hnb, denote_boxed hnb, hfit]

end JavaScriptCore
