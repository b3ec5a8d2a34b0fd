import JavaScriptCore.DFG.GeneralizedRegister
import JavaScriptCore.Lemmas.Encoding

/-!
# What `convert`, `moveTo` and `swapWith` do

Between two GPRs the three operations are exact: the destination receives `gprConversion` of the source, and nothing else
changes (`exec_moveTo_gpr_gpr`, `exec_convert_gpr`, `exec_swapWith_gpr_gpr`). So a value survives every such move whose
destination format it fits (`denote_gprConversion`).

Across the two kinds they are not. `moveTo` and `swapWith` move a GPR into an FPR with `unboxDouble`, which removes the double
bias without testing the tag, where `fillNumericToDouble`, the other path that reads a boxed value into an FPR, branches on
it: an int32, boxed or raw, comes out as a NaN (`moveTo_integer_gpr_to_fpr_loses_value`,
`swapWith_gpr_fpr_loses_value`).
-/

namespace JavaScriptCore

namespace GeneralizedRegister

variable {m : Machine}

/-- A move between two GPRs writes the converted source into the destination. -/
theorem exec_moveTo_gpr_gpr (hm : m.gpr .tagTypeNumberRegister = TagTypeNumber) (g g' : GPRReg) (f f' : DataFormat)
    (s : Option FPRReg) :
    exec m ((GeneralizedRegister.gpr g).moveTo (.gpr g') f f' s) = m.setGPR g' (gprConversion f f' (m.gpr g)) := by
  simp only [moveTo, gprConversion]
  split
  · simp [Op.exec]
  · split <;> simp [Op.exec, hm, low32]

/-- An in-place conversion of a GPR. -/
theorem exec_convert_gpr (hm : m.gpr .tagTypeNumberRegister = TagTypeNumber) (g : GPRReg) (f f' : DataFormat) :
    exec m ((GeneralizedRegister.gpr g).convert f f') = m.setGPR g (gprConversion f f' (m.gpr g)) := by
  simp only [convert, gprConversion]
  split
  · simp
  · split <;> simp [Op.exec, hm, low32]

/-- The conversion a GPR-to-GPR swap applies is `gprConversion` when neither format is `Double`. -/
theorem run_swapConversion (hm : m.gpr .tagTypeNumberRegister = TagTypeNumber) (g : GPRReg) {f f' : DataFormat}
    (hf : f ≠ .double) (hf' : f' ≠ .double) :
    Op.run m (swapConversion g f f') = m.setGPR g (gprConversion f f' (m.gpr g)) := by
  unfold swapConversion gprConversion
  by_cases hn : needDataFormatConversion f f' = true
  · by_cases hi : f = .integer
    · subst hi; simp [hn, Op.exec, hm]
    · have hi' : f' = .integer := by
        by_contra hi'
        rw [needDataFormatConversion_boxed (by simp [DataFormat.isBoxed, hi, hf]) (by simp [DataFormat.isBoxed, hi', hf'])]
          at hn
        cases hn
      subst hi'; simp [hn, hi, Op.exec, low32]
  · simp [hn]

/-- A swap of two GPRs exchanges them, each converted to its new format. -/
theorem exec_swapWith_gpr_gpr (hm : m.gpr .tagTypeNumberRegister = TagTypeNumber) {g g' : GPRReg} (hne : g ≠ g')
    (hg : g ≠ .tagTypeNumberRegister) (hg' : g' ≠ .tagTypeNumberRegister)
    {f₁ f₂ f₃ f₄ : DataFormat} (h₁ : f₁ ≠ .double) (h₂ : f₂ ≠ .double) (h₃ : f₃ ≠ .double) (h₄ : f₄ ≠ .double)
    (scratchGPR : GPRReg) (s : Option FPRReg) :
    exec m ((GeneralizedRegister.gpr g).swapWith (.gpr g') f₁ f₂ f₃ f₄ scratchGPR s) =
      (m.setGPR g (gprConversion f₃ f₂ (m.gpr g'))).setGPR g' (gprConversion f₁ f₄ (m.gpr g)) := by
  simp only [swapWith, exec_ops, Op.run_append, Op.run_cons, Op.run_nil, Op.exec]
  rw [run_swapConversion (by simp [hg.symm, hg'.symm, hm]) g h₃ h₂]
  simp only [Machine.setGPR_gpr, if_pos rfl, if_neg hne]
  rw [run_swapConversion (by simp [hg.symm, hg'.symm, hm]) g' h₁ h₄]
  simp only [Machine.setGPR_gpr, if_pos rfl, if_neg hne.symm]
  cases m
  simp only [Machine.setGPR, Machine.mk.injEq, and_true]
  funext r
  simp only [Function.update_apply]
  split_ifs <;> simp_all

/-- A GPR moved into an FPR holds an `Integer` 1; the FPR receives `0xFFFF000000000001`, a NaN, and not the double 1: the
value a `Double` FPR must hold for it. -/
theorem moveTo_integer_gpr_to_fpr_loses_value :
    denote .integer ((Machine.atExit (fun _ => 1#64) (fun _ => 0#64) (fun _ => 0#64)).gpr (.reg 0)) = some (.int32 1) ∧
      (JSValue.int32 1).fits .double ∧
      ¬Holds .double ((exec (Machine.atExit (fun _ => 1#64) (fun _ => 0#64) (fun _ => 0#64))
        ((GeneralizedRegister.gpr (.reg 0)).moveTo (.fpr ⟨0⟩) .integer .double none)).fpr ⟨0⟩) (.int32 1) := by
  decide

/-- A swap of an FPR holding 2.5 with a GPR holding an `Integer` 5: the FPR receives `0xFFFF000000000005`, a NaN, and not the
double 5. -/
theorem swapWith_gpr_fpr_loses_value :
    denote .integer ((Machine.atExit (fun _ => 5#64) (fun _ => 0x4004000000000000#64) (fun _ => 0#64)).gpr (.reg 0)) =
        some (.int32 5) ∧ (JSValue.int32 5).fits .double ∧
      ¬Holds .double ((exec (Machine.atExit (fun _ => 5#64) (fun _ => 0x4004000000000000#64) (fun _ => 0#64))
        ((GeneralizedRegister.fpr ⟨0⟩).swapWith (.gpr (.reg 0)) .double .double .integer .js (.reg 1) none)).fpr ⟨0⟩)
        (.int32 5) := by
  decide

end GeneralizedRegister

end JavaScriptCore
