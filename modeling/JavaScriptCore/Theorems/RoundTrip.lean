import JavaScriptCore.Theorems.Spill
import JavaScriptCore.Theorems.Fill

/-!
# Spilling and filling are inverse

Part 1 of `jumpFromSpeculativeToNonSpeculative` stores an `Integer` GPR boxed (`orPtr` of the number tag) and an FPR biased
(its bits minus `TagTypeNumber`). Part 3 reads a slot back with an unsigned test against `tagTypeNumberRegister`: at or above
the tag it converts the low half to a double, below it removes the bias (`fillNumericToDouble`); or it keeps the low half
(`fillInt32ToInteger`). Each round trip gives back what was spilled (`fill_inverts_spill`), except for the sign-bit-set NaNs
just below the tag range: the encoding boxes only purified doubles, and the biased word of such a NaN lands in the tag range,
so it comes back as an int32 (`fill_misreads_impure_nan`).
-/

namespace JavaScriptCore

variable {m : Machine}

/-- The biased bits of a double outside the band of impure NaNs below the tag range fall below the tag. -/
theorem sub_tagTypeNumber_lt {b : Word} (hb : b.toNat < 0xFFFE000000000000 ∨ 0xFFFF000000000000 ≤ b.toNat) :
    ¬TagTypeNumber ≤ b - TagTypeNumber := by
  have := b.isLt
  rw [BitVec.le_def, BitVec.toNat_sub, toNat_tagTypeNumber]
  omega

section Fill

variable {graph : Graph} {n : NodeIndex} (hc : graph.constant n = none) (hm : m.gpr .tagTypeNumberRegister = TagTypeNumber)
  {t : GPRReg} (ht : t ≠ .tagTypeNumberRegister) (f : FPRReg)
include hc hm ht

/-- `fillNumericToDouble` from a slot at or above the tag: the int32 in its low half, converted. -/
theorem exec_fillNumericToDouble_of_tag_le {w : Word} (hw : TagTypeNumber ≤ w) :
    (exec (m.store (.frame (graph.virtualRegister n)) w) (fillNumericToDouble graph n f t)).fpr f =
      int32ToDouble (w.setWidth 32) := by
  simp [fillNumericToDouble, hc, Instr.exec, Op.exec, Ne.symm ht, hm, hw]

/-- `fillNumericToDouble` from a slot below the tag: the word unbiased. -/
theorem exec_fillNumericToDouble_of_lt_tag {w : Word} (hw : ¬TagTypeNumber ≤ w) :
    (exec (m.store (.frame (graph.virtualRegister n)) w) (fillNumericToDouble graph n f t)).fpr f =
      w + TagTypeNumber := by
  simp [fillNumericToDouble, hc, Instr.exec, Op.exec, unboxDouble, Ne.symm ht, hm, hw]

end Fill

/-- For every int32 `x`, the word Part 1 stores for an `Integer` GPR holding `x` is at or above the tag, so
`fillNumericToDouble` converts it to the double `x` and `fillInt32ToInteger` loads `x` back; for every bit pattern `b` of an
FPR outside the band of NaNs from `0xFFFE000000000000` to `0xFFFEFFFFFFFFFFFF`, the word Part 1 stores for it is below the
tag, so `fillNumericToDouble` unbiases it back to exactly `b`. -/
theorem fill_inverts_spill {graph : Graph} {n : NodeIndex} (hc : graph.constant n = none)
    (hm : m.gpr .tagTypeNumberRegister = TagTypeNumber) {t : GPRReg} (ht : t ≠ .tagTypeNumberRegister) (f : FPRReg)
    (g : GPRReg) :
    (∀ x : BitVec 32, TagTypeNumber ≤ spillWord .integer (x.setWidth 64) ∧
      (exec (m.store (.frame (graph.virtualRegister n)) (spillWord .integer (x.setWidth 64)))
        (fillNumericToDouble graph n f t)).fpr f = int32ToDouble x ∧
      (exec (m.store (.frame (graph.virtualRegister n)) (spillWord .integer (x.setWidth 64)))
        (fillInt32ToInteger graph n g)).gpr g = x.setWidth 64) ∧
    ∀ b : Word, b.toNat < 0xFFFE000000000000 ∨ 0xFFFF000000000000 ≤ b.toNat →
      ¬TagTypeNumber ≤ b - TagTypeNumber ∧
      (exec (m.store (.frame (graph.virtualRegister n)) (b - TagTypeNumber)) (fillNumericToDouble graph n f t)).fpr f = b := by
  refine ⟨fun x => ?_, fun b hb => ⟨sub_tagTypeNumber_lt hb, ?_⟩⟩
  · obtain ⟨hle, hlow⟩ := or_tagTypeNumber_of_lt (w := x.setWidth 64) (by simp [BitVec.toNat_setWidth]; omega)
    have hx : (x.setWidth 64 ||| TagTypeNumber).setWidth 32 = x := by
      rw [hlow, BitVec.setWidth_setWidth_of_le _ (by omega), BitVec.setWidth_eq]
    simp only [spillWord, if_true]
    refine ⟨hle, by rw [exec_fillNumericToDouble_of_tag_le hc hm ht f hle, hx], ?_⟩
    simp [fillInt32ToInteger, hc, Op.exec, low32, hx]
  · rw [exec_fillNumericToDouble_of_lt_tag hc hm ht f (sub_tagTypeNumber_lt hb), BitVec.sub_add_cancel]

/-- The double 1.5 spilled and filled back through `regT0` into FPR 0, from a machine at an exit. -/
theorem fill_inverts_spill_of_one_and_a_half :
    (⟨fun _ => 0, fun _ => none, fun _ _ h => nomatch h⟩ : Graph).constant 0 = none ∧
    (Machine.atExit (fun _ => 0) (fun _ => 0) (fun _ => 0)).gpr .tagTypeNumberRegister = TagTypeNumber ∧
    regT0 ≠ .tagTypeNumberRegister ∧
    ((0x3FF8000000000000#64).toNat < 0xFFFE000000000000 ∨ 0xFFFF000000000000 ≤ (0x3FF8000000000000#64).toNat) ∧
    (exec ((Machine.atExit (fun _ => 0) (fun _ => 0) (fun _ => 0)).store (.frame 0) (0x3FF8000000000000#64 - TagTypeNumber))
      (fillNumericToDouble ⟨fun _ => 0, fun _ => none, fun _ _ h => nomatch h⟩ 0 ⟨0⟩ regT0)).fpr ⟨0⟩ =
      0x3FF8000000000000#64 :=
  ⟨rfl, rfl, by decide, by decide, ((@fill_inverts_spill (Machine.atExit (fun _ => 0) (fun _ => 0) (fun _ => 0))
    ⟨fun _ => 0, fun _ => none, fun _ _ h => nomatch h⟩ 0 rfl rfl regT0 (by decide) ⟨0⟩ regT0).2 _ (by decide)).2⟩

/-- The sign-bit-set NaN `0xFFFE000000000000`, spilled from an FPR and filled back: its biased word is the tag itself, so the
test takes it for an int32 and the FPR receives `0.0`. -/
theorem fill_misreads_impure_nan :
    TagTypeNumber ≤ 0xFFFE000000000000#64 - TagTypeNumber ∧
    (exec ((Machine.atExit (fun _ => 0) (fun _ => 0) (fun _ => 0)).store (.frame 0) (0xFFFE000000000000#64 - TagTypeNumber))
      (fillNumericToDouble ⟨fun _ => 0, fun _ => none, fun _ _ h => nomatch h⟩ 0 ⟨0⟩ regT0)).fpr ⟨0⟩ ≠
      0xFFFE000000000000#64 := by
  decide

end JavaScriptCore
