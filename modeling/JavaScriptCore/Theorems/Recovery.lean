import JavaScriptCore.DFG.OSRExit
import JavaScriptCore.Lemmas.Encoding

/-!
# Undoing a speculative add

A `SpeculativeAdd` recovery names an `add32(src, dest)` that the speculative code performed before its overflow check. Both
exits revert it with `sub32(src, dest)`, which gives back the low half `dest` had, and rebox: the bridging exit when the check
records `dest` boxed, the OSR exit always, marking `dest` as already boxed so that step 4 leaves it alone
(`speculativeAdd_recovery_restores_dest`).

The subtraction reads `src` after the add, so it needs `src` to still hold the addend: with `src` and `dest` one register the
add has overwritten it, and the recovery leaves zero (`recovery_cannot_undo_self_add`).
-/

namespace JavaScriptCore

/-- Modelled from the spec: the `add32(src, dest)` of the speculative code that a `SpeculativeAdd` recovery reverts (it is
emitted by the speculative JIT, outside the sources): the 32-bit sum, zero-extended, in `dest`. -/
def speculativeAdd32 (m : Machine) (src dest : GPRReg) : Machine := m.setGPR dest (low32 (m.gpr dest + m.gpr src))

/-- Subtracting in 32 bits what was added in 32 bits gives back the low half. -/
theorem low32_sub_low32_add (a b : Word) : low32 (low32 (a + b) - b) = low32 a := by
  apply BitVec.eq_of_toNat_eq
  have := a.isLt
  have := b.isLt
  simp only [toNat_low32, BitVec.toNat_sub, BitVec.toNat_add]
  omega

/-- The low half of a zero-extended int32 is itself. -/
theorem low32_setWidth (d : BitVec 32) : low32 (d.setWidth 64) = d.setWidth 64 := by
  apply BitVec.eq_of_toNat_eq
  have := d.isLt
  simp only [toNat_low32, BitVec.toNat_setWidth]
  omega

/-- The low half of a boxed int32 is the int32 zero-extended. -/
theorem low32_boxInt32 (d : BitVec 32) : low32 (d.setWidth 64 ||| TagTypeNumber) = d.setWidth 64 := by
  rw [low32, (or_tagTypeNumber_of_lt (w := d.setWidth 64) (by simp [BitVec.toNat_setWidth]; omega)).2, ← low32,
    low32_setWidth]

/-- Step 4 never writes the register the recovery has boxed. -/
theorem reboxInt32s_alreadyBoxed (g : GPRReg) (rs : List ValueRecovery) (m : Machine) :
    (exec m (reboxInt32s (some g) rs)).gpr g = m.gpr g := by
  induction rs generalizing m with
  | nil => rfl
  | cons r rs ih =>
    cases r <;> simp only [reboxInt32s] <;> try exact ih m
    rename_i g'
    by_cases hg : g' = g
    · simp [hg, ih]
    · simp [hg, exec_append, ih, Op.exec, Ne.symm hg]

/-- For a `SpeculativeAdd` recovery whose `src` is not `dest`, and every int32 `d` that `dest` held before the add: the
bridging exit's pre-pass gives `dest` back as the check recorded it (`d` zero-extended for `Integer`, boxed otherwise); the
OSR exit's pre-pass leaves `d` boxed in `dest` and names `dest` as already boxed, and step 4 then never writes it. -/
theorem speculativeAdd_recovery_restores_dest {m : Machine} (hm : m.gpr .tagTypeNumberRegister = TagTypeNumber) {i : Nat}
    {src : GPRReg} (hsrc : src ≠ .reg i) (d : BitVec 32) (check : SpeculationCheck) :
    (m.gpr (.reg i) = (if (check.gprInfo i).format = .integer then d.setWidth 64 else d.setWidth 64 ||| TagTypeNumber) →
      (exec (speculativeAdd32 m src (.reg i)) (recoveryPrePass check (some (.speculativeAdd (.reg i) src)))).gpr (.reg i) =
        m.gpr (.reg i)) ∧
    ((m.gpr (.reg i) = d.setWidth 64 ∨ m.gpr (.reg i) = d.setWidth 64 ||| TagTypeNumber) →
      (exec (speculativeAdd32 m src (.reg i)) (osrRecoveryPrePass (some (.speculativeAdd (.reg i) src))).1).gpr (.reg i) =
        d.setWidth 64 ||| TagTypeNumber) ∧
    (osrRecoveryPrePass (some (.speculativeAdd (.reg i) src))).2 = some (.reg i) ∧
    ∀ (rs : List ValueRecovery) (m' : Machine), (exec m' (reboxInt32s (some (.reg i)) rs)).gpr (.reg i) = m'.gpr (.reg i) := by
  refine ⟨fun hd => ?_, fun hd => ?_, rfl, reboxInt32s_alreadyBoxed _⟩
  · by_cases hf : (check.gprInfo i).format = .integer
    · rw [if_pos hf] at hd
      simp [recoveryPrePass, GeneralizedRegister.previousDataFormat, GeneralizedRegister.findInSpeculationCheck, hf,
        speculativeAdd32, Op.exec, hsrc, low32_sub_low32_add, hd, low32_setWidth]
    · rw [if_neg hf] at hd
      simp [recoveryPrePass, GeneralizedRegister.previousDataFormat, GeneralizedRegister.findInSpeculationCheck, hf,
        speculativeAdd32, Op.exec, hsrc, low32_sub_low32_add, hd, low32_boxInt32, hm]
  · rcases hd with hd | hd <;>
    simp [osrRecoveryPrePass, speculativeAdd32, Op.exec, hsrc, low32_sub_low32_add, hd, low32_setWidth, low32_boxInt32, hm]

/-- Reverting `add32(regT1, regT0)` with `regT0` holding the `Integer` 5 and `regT1` another 5. -/
theorem speculativeAdd_recovery_restores_five :
    (Machine.atExit (fun _ => 5) (fun _ => 0) (fun _ => 0)).gpr .tagTypeNumberRegister = TagTypeNumber ∧
    GPRReg.reg 1 ≠ .reg 0 ∧
    (Machine.atExit (fun _ => 5) (fun _ => 0) (fun _ => 0)).gpr (.reg 0) =
      (if ((⟨0, fun _ => ⟨some 0, .integer, false⟩, fun _ => .noNode⟩ : SpeculationCheck).gprInfo 0).format = .integer
        then (5#32).setWidth 64 else (5#32).setWidth 64 ||| TagTypeNumber) ∧
    (exec (speculativeAdd32 (Machine.atExit (fun _ => 5) (fun _ => 0) (fun _ => 0)) (.reg 1) (.reg 0))
      (recoveryPrePass ⟨0, fun _ => ⟨some 0, .integer, false⟩, fun _ => .noNode⟩
        (some (.speculativeAdd (.reg 0) (.reg 1))))).gpr (.reg 0) = 5 :=
  ⟨rfl, by decide, by decide, (speculativeAdd_recovery_restores_dest rfl (by decide) 5
    ⟨0, fun _ => ⟨some 0, .integer, false⟩, fun _ => .noNode⟩).1 (by decide)⟩

/-- With `src` and `dest` both `regT0`, holding the `Integer` 1: the add leaves 2, and `sub32` subtracts the 2 it now finds in
`src`, so the bridging exit hands the non-speculative code 0. -/
theorem recovery_cannot_undo_self_add :
    (Machine.atExit (fun _ => 1) (fun _ => 0) (fun _ => 0)).gpr (.reg 0) =
      (if ((⟨0, fun _ => ⟨some 0, .integer, false⟩, fun _ => .noNode⟩ : SpeculationCheck).gprInfo 0).format = .integer
        then (1#32).setWidth 64 else (1#32).setWidth 64 ||| TagTypeNumber) ∧
    (exec (speculativeAdd32 (Machine.atExit (fun _ => 1) (fun _ => 0) (fun _ => 0)) (.reg 0) (.reg 0))
      (recoveryPrePass ⟨0, fun _ => ⟨some 0, .integer, false⟩, fun _ => .noNode⟩
        (some (.speculativeAdd (.reg 0) (.reg 0))))).gpr (.reg 0) = 0 := by
  decide

end JavaScriptCore
