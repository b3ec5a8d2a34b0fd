import JavaScriptCore.Theorems.ExitSteps
import JavaScriptCore.Theorems.Fill
import JavaScriptCore.Theorems.Spill
import JavaScriptCore.Theorems.GPRShuffle

/-!
# The tag registers

Baseline code keeps `TagTypeNumber` in `tagTypeNumberRegister` and `TagMask` in `tagMaskRegister` and never reloads them,
so code that jumps into it must leave both holding their constants (`Machine.Pinned`).

The OSR exit writes only allocatable GPRs, given that the registers its recoveries name are allocatable, as the DFG's
register allocator hands them out; so it leaves both tag registers as they were
(`exitSpeculativeWithOSR_keeps_tag_registers`). The link to the non-speculative path borrows `tagMaskRegister` as
`scratchGPR` when no allocatable GPR is free, and then writes it in Part 1's FPR spills and in Part 2's cycles; it writes
`TagMask` back last, so the tag registers hold their constants again when it jumps
(`jumpFromSpeculativeToNonSpeculative_keeps_pinned`).

`WritesOnly P code` says every GPR the code writes, on either arm of a branch, satisfies `P`; `WritesOnly.gpr_eq` is its
frame lemma. Part 2 writes the registers it walks to along `previous`, so the link state carries `WritesWithin P`: its code
writes only GPRs `P` admits, and every `previous` link points to such a register.
-/

namespace JavaScriptCore

/-! ### The GPRs an instruction writes -/

/-- The GPRs an operation writes. -/
def Op.writtenGPRs : Op → List GPRReg
  | .move _ d | .moveImmPtr _ d | .moveImm32 _ d | .orPtr _ d | .orPtr3 _ _ d | .xorPtr _ d | .addPtr _ d | .subPtr _ d
  | .sub32 _ d | .zeroExtend32ToPtr _ d | .loadPtr _ d | .load32 _ d | .moveDoubleToPtr _ d => [d]
  | .swap a b => [a, b]
  | .storePtr .. | .storeImmPtr .. | .store32 .. | .moveDouble .. | .movePtrToDouble .. | .convertInt32ToDouble .. => []

/-- The GPRs an instruction writes, on either arm; `branchConvertDoubleToInt32` writes its `dest` before it branches. -/
def Instr.writtenGPRs : Instr → List GPRReg
  | .op o => o.writtenGPRs
  | .branchConvertDoubleToInt32 _ dest _ isInt notInt => dest :: (isInt ++ notInt).flatMap Op.writtenGPRs
  | .branchPtrAboveOrEqual _ _ taken notTaken => (taken ++ notTaken).flatMap Op.writtenGPRs

/-- An operation that does not write `g` keeps it. -/
theorem Op.exec_gpr_of_not_mem {o : Op} {g : GPRReg} (h : g ∉ o.writtenGPRs) (m : Machine) :
    (o.exec m).gpr g = m.gpr g := by
  cases o <;> simp_all [Op.writtenGPRs, Op.exec]

theorem Op.run_gpr_of_not_mem {os : List Op} {g : GPRReg} (h : ∀ o ∈ os, g ∉ o.writtenGPRs) (m : Machine) :
    (Op.run m os).gpr g = m.gpr g := by
  induction os generalizing m with
  | nil => rfl
  | cons o os ih =>
    rw [Op.run_cons, ih (fun o' ho' => h o' (.tail _ ho')), Op.exec_gpr_of_not_mem (h o (.head _))]

/-- Code none of whose instructions writes `g` keeps it. -/
theorem exec_gpr_of_not_mem {code : List Instr} {g : GPRReg} (h : ∀ i ∈ code, g ∉ i.writtenGPRs) (m : Machine) :
    (exec m code).gpr g = m.gpr g := by
  induction code generalizing m with
  | nil => rfl
  | cons i code ih =>
    rw [exec_cons, ih (fun i' hi' => h i' (.tail _ hi'))]
    have hi := h i (.head _)
    cases i with
    | op o => exact Op.exec_gpr_of_not_mem hi m
    | branchConvertDoubleToInt32 src dest fpTemp isInt notInt =>
      have hs : ∀ o ∈ isInt ++ notInt, g ∉ o.writtenGPRs := fun o ho hg =>
        hi (List.mem_cons_of_mem _ (List.mem_flatMap.2 ⟨o, ho, hg⟩))
      have hd : g ≠ dest := fun e => hi (e ▸ List.mem_cons_self _ _)
      simp only [Instr.exec]
      split
      · rw [Op.run_gpr_of_not_mem fun o ho => hs o (List.mem_append_right _ ho)]; simp [hd]
      · split
        · rw [Op.run_gpr_of_not_mem fun o ho => hs o (List.mem_append_left _ ho)]; simp [hd]
        · rw [Op.run_gpr_of_not_mem fun o ho => hs o (List.mem_append_right _ ho)]; simp [hd]
    | branchPtrAboveOrEqual l r taken notTaken =>
      have hs : ∀ o ∈ taken ++ notTaken, g ∉ o.writtenGPRs := fun o ho hg => hi (List.mem_flatMap.2 ⟨o, ho, hg⟩)
      simp only [Instr.exec]
      split
      · exact Op.run_gpr_of_not_mem (fun o ho => hs o (List.mem_append_left _ ho)) m
      · exact Op.run_gpr_of_not_mem (fun o ho => hs o (List.mem_append_right _ ho)) m

/-! ### Code that writes only some GPRs -/

/-- Code every GPR write of which, on either arm of a branch, goes to a register `P` admits. -/
def WritesOnly (P : GPRReg → Bool) (code : List Instr) : Prop := ∀ i ∈ code, ∀ g ∈ i.writtenGPRs, P g = true

namespace WritesOnly

variable {P : GPRReg → Bool} {code c₁ c₂ : List Instr}

theorem nil : WritesOnly P [] := List.forall_mem_nil _

theorem append (h₁ : WritesOnly P c₁) (h₂ : WritesOnly P c₂) : WritesOnly P (c₁ ++ c₂) :=
  List.forall_mem_append.2 ⟨h₁, h₂⟩

/-- Which GPRs code writes can be read off its instructions, so it is checked by evaluation. -/
theorem of_all (h : (code.flatMap Instr.writtenGPRs).all P = true) : WritesOnly P code := fun i hi g hg =>
  List.all_eq_true.1 h g (List.mem_flatMap.2 ⟨i, hi, hg⟩)

theorem flatMap {α : Type} {l : List α} {f : α → List Instr} (h : ∀ x ∈ l, WritesOnly P (f x)) :
    WritesOnly P (l.flatMap f) := fun i hi => by
  obtain ⟨x, hx, hi⟩ := List.mem_flatMap.1 hi
  exact h x hx i hi

theorem ite {p : Prop} [Decidable p] (h : p → WritesOnly P code) : WritesOnly P (if p then code else []) := by
  split_ifs with hp
  exacts [h hp, nil]

/-- Code that writes only GPRs `P` admits keeps every other GPR. -/
theorem gpr_eq (h : WritesOnly P code) {g : GPRReg} (hg : P g = false) (m : Machine) : (exec m code).gpr g = m.gpr g :=
  exec_gpr_of_not_mem (fun i hi hgi => Bool.false_ne_true (hg ▸ h i hi g hgi)) m

end WritesOnly

theorem GPRReg.eq_reg_of_isAllocatable {g : GPRReg} (h : g.isAllocatable = true) : ∃ index, g = .reg index := by
  cases g with
  | reg index => exact ⟨index, rfl⟩
  | _ => nomatch h

/-! ### The OSR exit -/

section Exit

variable (layout : FrameLayout) (exit : OSRExit) (c : OSRClassification)

/-- Step 2 writes the recovery's `dest`. -/
theorem writesOnly_osrRecoveryPrePass {recovery : Option SpeculationRecovery}
    (h : ∀ r ∈ recovery, r.dest.isAllocatable = true) :
    WritesOnly GPRReg.isAllocatable (osrRecoveryPrePass recovery).1 := by
  rcases recovery with _ | ⟨dest, src⟩ | dest
  · exact .nil
  all_goals
    obtain ⟨index, rfl⟩ := GPRReg.eq_reg_of_isAllocatable (show dest.isAllocatable = true from h _ rfl)
    exact .of_all rfl

/-- Step 4 writes the unboxed int32s' registers. -/
theorem writesOnly_reboxInt32s (alreadyBoxed : Option GPRReg) {rs : List ValueRecovery}
    (h : ∀ g, .unboxedInt32InGPR g ∈ rs → g.isAllocatable = true) :
    WritesOnly GPRReg.isAllocatable (reboxInt32s alreadyBoxed rs) := by
  induction rs with
  | nil => exact .nil
  | cons r rs ih =>
    have ih := ih fun g hg => h g (.tail _ hg)
    cases r with
    | unboxedInt32InGPR g =>
      obtain ⟨index, rfl⟩ := GPRReg.eq_reg_of_isAllocatable (h g (.head _))
      refine WritesOnly.append ?_ ih
      split_ifs
      exacts [.of_all rfl, .nil]
    | _ => exact ih

theorem writesOnly_dumpGPRs (s : Nat) (l : List (Nat × ValueRecovery)) :
    WritesOnly GPRReg.isAllocatable (dumpGPRs layout exit c s l).1 := by
  induction l generalizing s with
  | nil => exact .nil
  | cons p l ih =>
    obtain ⟨index, r⟩ := p
    cases r with
    | inGPR g | unboxedInt32InGPR g =>
      simp only [dumpGPRs]
      split_ifs <;> exact WritesOnly.append (.of_all rfl) (ih _)
    | _ => exact ih s

theorem writesOnly_boxFPRs (rs : List ValueRecovery) : WritesOnly GPRReg.isAllocatable (boxFPRs rs) := by
  induction rs with
  | nil => exact .nil
  | cons r rs ih =>
    cases r with
    | inFPR f => exact WritesOnly.append (.of_all rfl) ih
    | _ => exact ih

theorem writesOnly_dumpFPRs (s : Nat) (l : List (Nat × ValueRecovery)) :
    WritesOnly GPRReg.isAllocatable (dumpFPRs layout exit c s l).1 := by
  induction l generalizing s with
  | nil => exact .nil
  | cons p l ih =>
    obtain ⟨index, r⟩ := p
    cases r with
    | inFPR f =>
      simp only [dumpFPRs]
      split_ifs <;> exact WritesOnly.append (.of_all rfl) (ih _)
    | _ => exact ih s

/-- Steps 2 to 7. -/
theorem writesOnly_exitStepsBeforeReshuffle {recovery : Option SpeculationRecovery}
    (hrebox : ∀ g, .unboxedInt32InGPR g ∈ exit.recoveries → g.isAllocatable = true)
    (hdest : ∀ r ∈ recovery, r.dest.isAllocatable = true) :
    WritesOnly GPRReg.isAllocatable (exitStepsBeforeReshuffle layout exit recovery) :=
  (((writesOnly_osrRecoveryPrePass hdest).append (.ite fun _ => writesOnly_reboxInt32s _ hrebox)).append
    (writesOnly_dumpGPRs layout exit _ 0 _)).append
      (.ite fun _ => (writesOnly_boxFPRs _).append (writesOnly_dumpFPRs layout exit _ _ _))

theorem writesOnly_loadDisplaced (k : Nat) (rs : List ValueRecovery) :
    WritesOnly GPRReg.isAllocatable (loadDisplaced k rs) := by
  induction rs generalizing k with
  | nil => exact .nil
  | cons r rs ih =>
    cases r with
    | displacedInRegisterFile vr => exact WritesOnly.append (.of_all rfl) (ih _)
    | _ => exact ih k

theorem writesOnly_storeDisplaced (k : Nat) (l : List (Nat × ValueRecovery)) :
    WritesOnly GPRReg.isAllocatable (storeDisplaced layout exit k l) := by
  induction l generalizing k with
  | nil => exact .nil
  | cons p l ih =>
    obtain ⟨index, r⟩ := p
    cases r with
    | displacedInRegisterFile vr => exact WritesOnly.append (.of_all rfl) (ih _)
    | _ => exact ih k

theorem writesOnly_saveDisplaced (s : Nat) (rs : List ValueRecovery) :
    WritesOnly GPRReg.isAllocatable (saveDisplaced s rs) := by
  induction rs generalizing s with
  | nil => exact .nil
  | cons r rs ih =>
    cases r with
    | displacedInRegisterFile vr => exact WritesOnly.append (.of_all rfl) (ih _)
    | _ => exact ih s

theorem writesOnly_restoreDisplaced (s : Nat) (l : List (Nat × ValueRecovery)) :
    WritesOnly GPRReg.isAllocatable (restoreDisplaced layout exit s l) := by
  induction l generalizing s with
  | nil => exact .nil
  | cons p l ih =>
    obtain ⟨index, r⟩ := p
    cases r with
    | displacedInRegisterFile vr => exact WritesOnly.append (.of_all rfl) (ih _)
    | _ => exact ih s

/-- Step 8, either way. -/
theorem writesOnly_reshuffleDisplaced (counts : RegisterCounts) (scratchIndex : Nat) :
    WritesOnly GPRReg.isAllocatable (reshuffleDisplaced counts layout exit c scratchIndex) := by
  unfold reshuffleDisplaced
  split_ifs
  · exact .nil
  · exact (writesOnly_loadDisplaced 0 _).append (writesOnly_storeDisplaced layout exit 0 _)
  · exact (writesOnly_saveDisplaced _ _).append (writesOnly_restoreDisplaced layout exit _ _)

theorem writesOnly_drainPoisoned (s : Nat) (l : List (Nat × ValueRecovery)) :
    WritesOnly GPRReg.isAllocatable (drainPoisoned c s l) := by
  induction l generalizing s with
  | nil => exact .nil
  | cons p l ih =>
    obtain ⟨vr, r⟩ := p
    simp only [drainPoisoned]
    split_ifs
    exacts [WritesOnly.append (.of_all rfl) (ih _), ih s]

theorem writesOnly_dumpConstants (l : List (Nat × ValueRecovery)) :
    WritesOnly GPRReg.isAllocatable (dumpConstants layout exit l) := by
  induction l with
  | nil => exact .nil
  | cons p l ih =>
    obtain ⟨index, r⟩ := p
    cases r with
    | constant v =>
      refine WritesOnly.append ?_ ih
      split_ifs <;> exact .of_all rfl
    | _ => exact ih

theorem writesOnly_drainStep : WritesOnly GPRReg.isAllocatable (drainStep exit) := by
  unfold drainStep
  split_ifs
  exacts [.nil, writesOnly_drainPoisoned _ _ _]

theorem writesOnly_constantsStep : WritesOnly GPRReg.isAllocatable (constantsStep layout exit) :=
  .ite fun _ => WritesOnly.append (.ite fun _ => .of_all (by rfl)) (writesOnly_dumpConstants layout exit _)

theorem writesOnly_epilogueSteps (baseline : Baseline) :
    WritesOnly GPRReg.isAllocatable (epilogueSteps layout exit baseline) := by
  unfold epilogueSteps
  split <;> exact .of_all rfl

end Exit

/-- For every exit whose unboxed int32s and speculation recovery name allocatable GPRs, as the DFG's register allocator hands
them out, the code `exitSpeculativeWithOSR` emits leaves both tag registers as they were, whatever the machine. -/
theorem exitSpeculativeWithOSR_keeps_tag_registers (counts : RegisterCounts) (layout : FrameLayout) (exit : OSRExit)
    (baseline : Baseline) (recovery : Option SpeculationRecovery)
    (hrebox : ∀ g, .unboxedInt32InGPR g ∈ exit.recoveries → g.isAllocatable = true)
    (hdest : ∀ r ∈ recovery, r.dest.isAllocatable = true) (m : Machine) :
    (exec m (exitSpeculativeWithOSR counts layout exit baseline recovery)).gpr .tagTypeNumberRegister =
        m.gpr .tagTypeNumberRegister ∧
      (exec m (exitSpeculativeWithOSR counts layout exit baseline recovery)).gpr .tagMaskRegister =
        m.gpr .tagMaskRegister := by
  have h : WritesOnly GPRReg.isAllocatable (exitSpeculativeWithOSR counts layout exit baseline recovery) := by
    rw [exitSpeculativeWithOSR_eq_steps]
    exact ((((writesOnly_exitStepsBeforeReshuffle layout exit hrebox hdest).append
      (writesOnly_reshuffleDisplaced layout exit _ counts _)).append (writesOnly_drainStep exit)).append
        (writesOnly_constantsStep layout exit)).append (writesOnly_epilogueSteps layout exit baseline)
  exact ⟨h.gpr_eq (by rfl) m, h.gpr_eq (by rfl) m⟩

/-- An exit that reverts an add into GPR 2, reboxes an int32 in GPR 3, boxes a double through GPR 1 and reshuffles a
displaced value through GPR 0: the tag registers come out as they went in. -/
theorem exitSpeculativeWithOSR_keeps_tag_registers_after_add :
    (∀ g, ValueRecovery.unboxedInt32InGPR g ∈ (⟨[], [.unboxedInt32InGPR (.reg 3), .inFPR ⟨1⟩, .displacedInRegisterFile 0], some 0, 5⟩ : OSRExit).recoveries → g.isAllocatable = true) ∧
    (∀ r ∈ some (SpeculationRecovery.speculativeAdd (.reg 2) (.reg 4)), r.dest.isAllocatable = true) ∧
    (exec (Machine.atExit (fun _ => 7) (fun _ => 0) fun _ => 3) (exitSpeculativeWithOSR ⟨4, 2, by decide, by decide⟩ .standard (⟨[], [.unboxedInt32InGPR (.reg 3), .inFPR ⟨1⟩, .displacedInRegisterFile 0], some 0, 5⟩ : OSRExit)
      ⟨0x1000, 0, 0x2000, [(5, 16)]⟩ (some (.speculativeAdd (.reg 2) (.reg 4))))).gpr .tagTypeNumberRegister = (Machine.atExit (fun _ => 7) (fun _ => 0) fun _ => 3).gpr .tagTypeNumberRegister ∧
    (exec (Machine.atExit (fun _ => 7) (fun _ => 0) fun _ => 3) (exitSpeculativeWithOSR ⟨4, 2, by decide, by decide⟩ .standard (⟨[], [.unboxedInt32InGPR (.reg 3), .inFPR ⟨1⟩, .displacedInRegisterFile 0], some 0, 5⟩ : OSRExit)
      ⟨0x1000, 0, 0x2000, [(5, 16)]⟩ (some (.speculativeAdd (.reg 2) (.reg 4))))).gpr .tagMaskRegister = (Machine.atExit (fun _ => 7) (fun _ => 0) fun _ => 3).gpr .tagMaskRegister :=
  have hrebox : ∀ g, ValueRecovery.unboxedInt32InGPR g ∈ (⟨[], [.unboxedInt32InGPR (.reg 3), .inFPR ⟨1⟩, .displacedInRegisterFile 0], some 0, 5⟩ : OSRExit).recoveries → g.isAllocatable = true := fun g h => by
    simp only [OSRExit.recoveries, List.nil_append, List.mem_cons, ValueRecovery.unboxedInt32InGPR.injEq, reduceCtorEq,
      List.not_mem_nil, or_false] at h
    subst h
    rfl
  have hdest : ∀ r ∈ some (SpeculationRecovery.speculativeAdd (.reg 2) (.reg 4)), r.dest.isAllocatable = true :=
    fun r h => by obtain rfl := Option.mem_some_iff.1 h; rfl
  ⟨hrebox, hdest, exitSpeculativeWithOSR_keeps_tag_registers _ _ _ _ _ hrebox hdest _⟩

/-! ### Register operations on generalized registers -/

namespace GeneralizedRegister

/-- Whether the register's GPR, if it is one, satisfies `P`. -/
def gprSatisfies (P : GPRReg → Bool) : GeneralizedRegister → Bool
  | .gpr g => P g
  | .fpr _ => true

variable {P : GPRReg → Bool}

theorem writesOnly_convert {r : GeneralizedRegister} (hr : r.gprSatisfies P = true) (oldDataFormat newDataFormat : DataFormat) :
    WritesOnly P (r.convert oldDataFormat newDataFormat) := by
  cases r with
  | fpr f => exact .nil
  | gpr g =>
    simp only [convert]
    split_ifs <;> exact .of_all (by simp [ops, Instr.writtenGPRs, Op.writtenGPRs, show P g = true from hr])

theorem writesOnly_boxFPRInto (f : FPRReg) {g : GPRReg} (hg : P g = true) (scratchFPR : Option FPRReg) :
    WritesOnly P (boxFPRInto f g scratchFPR) :=
  .of_all (by cases scratchFPR <;> simp [boxFPRInto, boxDouble, ops, Instr.writtenGPRs, Op.writtenGPRs, hg])

theorem writesOnly_moveTo {r other : GeneralizedRegister} (hr : r.gprSatisfies P = true)
    (ho : other.gprSatisfies P = true) (myDataFormat otherDataFormat : DataFormat) (scratchFPR : Option FPRReg) :
    WritesOnly P (r.moveTo other myDataFormat otherDataFormat scratchFPR) := by
  cases r with
  | fpr f =>
    cases other with
    | fpr f' => exact .of_all rfl
    | gpr g' => exact writesOnly_boxFPRInto f ho scratchFPR
  | gpr g =>
    cases other with
    | fpr f' => exact .of_all (by simp [moveTo, unboxDouble, ops, Instr.writtenGPRs, Op.writtenGPRs, show P g = true from hr])
    | gpr g' =>
      simp only [moveTo]
      split_ifs <;> exact .of_all (by simp [ops, Instr.writtenGPRs, Op.writtenGPRs, show P g' = true from ho])

theorem writesOnly_swapWith {r other : GeneralizedRegister} (hr : r.gprSatisfies P = true)
    (ho : other.gprSatisfies P = true) {scratchGPR : GPRReg} (hsc : P scratchGPR = true)
    (myDataFormat myNewDataFormat otherDataFormat otherNewDataFormat : DataFormat) (scratchFPR : Option FPRReg) :
    WritesOnly P (r.swapWith other myDataFormat myNewDataFormat otherDataFormat otherNewDataFormat scratchGPR scratchFPR) := by
  have hfg : ∀ f g, P g = true → WritesOnly P (swapFPRWithGPR f g scratchGPR scratchFPR) := fun f g hg =>
    WritesOnly.append (WritesOnly.append (.of_all (by simp [ops, Instr.writtenGPRs, Op.writtenGPRs, hsc]))
      (writesOnly_boxFPRInto f hg scratchFPR)) (.of_all (by simp [unboxDouble, ops, Instr.writtenGPRs, Op.writtenGPRs, hsc]))
  have hconv : ∀ g f f', P g = true → WritesOnly P (ops (swapConversion g f f')) := fun g f f' hg => by
    unfold swapConversion
    split_ifs <;> exact .of_all (by simp [ops, Instr.writtenGPRs, Op.writtenGPRs, hg])
  cases r with
  | fpr f =>
    cases other with
    | fpr f' => exact .of_all (by cases scratchFPR <;> simp [swapWith, ops, Instr.writtenGPRs, Op.writtenGPRs, hsc])
    | gpr g' => exact hfg f g' ho
  | gpr g =>
    cases other with
    | fpr f' => exact hfg f' g hr
    | gpr g' =>
      simp only [swapWith, ops, List.map_append]
      exact WritesOnly.append (WritesOnly.append
        (.of_all (by simp [Instr.writtenGPRs, Op.writtenGPRs, show P g = true from hr, show P g' = true from ho]))
        (hconv _ _ _ hr)) (hconv _ _ _ ho)

end GeneralizedRegister

/-! ### The link state -/

/-- The link so far writes only GPRs `P` admits, and every `previous` link points to a register whose GPR `P` admits. -/
structure LinkState.WritesWithin (P : GPRReg → Bool) (st : LinkState) : Prop where
  links : ∀ r p, (st.shuffled r).previous = some p → p.gprSatisfies P = true
  code : WritesOnly P st.code

/-- Part 1's link makes `r` the `previous` of `next` and changes no other `previous`. -/
theorem LinkState.link_previous (st : LinkState) (r next s : GeneralizedRegister) :
    ((st.link r next).shuffled s).previous = if s = next then some r else (st.shuffled s).previous := by
  rw [LinkState.link_shuffled]
  split_ifs <;> subst_vars <;> rfl

namespace LinkState.WritesWithin

variable {P : GPRReg → Bool} {st st' : LinkState}

theorem of_eq (h : st.WritesWithin P) (hs : st'.shuffled = st.shuffled) (hc : st'.code = st.code) : st'.WritesWithin P :=
  ⟨hs ▸ h.links, hc ▸ h.code⟩

theorem emit (h : st.WritesWithin P) {c : List Instr} (hc : WritesOnly P c) : (st.emit c).WritesWithin P :=
  ⟨h.links, h.code.append hc⟩

theorem ite_emit {p : Prop} [Decidable p] (h : st.WritesWithin P) {c : List Instr} (hc : ¬p → WritesOnly P c) :
    (if p then st else st.emit c).WritesWithin P := by
  split_ifs with hp
  exacts [h, h.emit (hc hp)]

theorem markHandled (h : st.WritesWithin P) (r : GeneralizedRegister) : (st.markHandled r).WritesWithin P :=
  ⟨fun s p hp => h.links s p ((markHandled_previous st r s).symm.trans hp), h.code⟩

theorem recordScratchFPR (h : st.WritesWithin P) (r : GeneralizedRegister) : (st.recordScratchFPR r).WritesWithin P :=
  h.of_eq (LinkState.recordScratchFPR_shuffled st r) (LinkState.recordScratchFPR_code st r)

/-- Part 1 links `r` into the graph as some register's `previous`. -/
theorem link (h : st.WritesWithin P) {r : GeneralizedRegister} (hr : r.gprSatisfies P = true) (next : GeneralizedRegister) :
    (st.link r next).WritesWithin P := by
  refine ⟨fun s p hp => ?_, h.code⟩
  rw [LinkState.link_previous] at hp
  split_ifs at hp
  · exact Option.some.inj hp ▸ hr
  · exact h.links _ _ hp

end LinkState.WritesWithin

section Handlers

variable {check : SpeculationCheck} {entry : EntryLocation} {P : GPRReg → Bool}

theorem writesWithin_handleNonCyclingPermutation (fuel : Nat) {cur : GeneralizedRegister} {st : LinkState}
    (h : st.WritesWithin P) (hcur : cur.gprSatisfies P = true) :
    (handleNonCyclingPermutation check entry fuel cur st).WritesWithin P := by
  induction fuel generalizing cur st with
  | zero => exact h
  | succ fuel ih =>
    simp only [handleNonCyclingPermutation]
    split
    · rename_i p hp
      exact ih (((h.emit (GeneralizedRegister.writesOnly_moveTo (h.links _ _ hp) hcur _ _ _)).markHandled cur).recordScratchFPR
        cur) (h.links _ _ hp)
    · exact (h.markHandled cur).recordScratchFPR cur

/-- The cycle walk emits nothing and ends on a register reached along `previous`. -/
theorem writesWithin_cycleWalk (start : GeneralizedRegister) (fuel : Nat) {cur : GeneralizedRegister} {st : LinkState}
    (h : st.WritesWithin P) (hcur : cur.gprSatisfies P = true) :
    (cycleWalk start fuel cur st).2.2.WritesWithin P ∧ (cycleWalk start fuel cur st).2.1.gprSatisfies P = true := by
  induction fuel generalizing cur st with
  | zero => exact ⟨h, hcur⟩
  | succ fuel ih =>
    simp only [cycleWalk]
    split
    · rename_i p hp
      split_ifs
      · exact ⟨h.markHandled cur, hcur⟩
      · exact ih (h.markHandled cur) ((h.markHandled cur).links _ _ hp)
    · exact ⟨h.markHandled cur, hcur⟩

theorem writesOnly_rotateCycle {shuffled : GeneralizedRegister → ShuffledRegister}
    (hl : ∀ r p, (shuffled r).previous = some p → p.gprSatisfies P = true) (start : GeneralizedRegister)
    (scratchFPR1 : Option FPRReg) (fuel : Nat) {cur : GeneralizedRegister} (hcur : cur.gprSatisfies P = true) :
    WritesOnly P (rotateCycle check entry shuffled start scratchFPR1 fuel cur) := by
  induction fuel generalizing cur with
  | zero => exact .nil
  | succ fuel ih =>
    simp only [rotateCycle]
    split
    · rename_i p hp
      split_ifs
      · exact .nil
      · exact (GeneralizedRegister.writesOnly_moveTo (hl _ _ hp) hcur _ _ _).append (ih (hl _ _ hp))
    · exact .nil

theorem writesWithin_handleCyclingPermutation (fuel : Nat) {this : GeneralizedRegister} {scratchGPR : GPRReg}
    (scratchFPR1 scratchFPR2 : Option FPRReg) {st : LinkState} (h : st.WritesWithin P)
    (hthis : this.gprSatisfies P = true) (hsc : P scratchGPR = true) :
    (handleCyclingPermutation check entry fuel this scratchGPR scratchFPR1 scratchFPR2 st).WritesWithin P := by
  obtain ⟨hw, hnext⟩ := writesWithin_cycleWalk this fuel h hthis
  unfold handleCyclingPermutation
  rcases hc : cycleWalk this fuel this st with ⟨cycleLength, next, st'⟩
  rw [hc] at hw hnext
  have hm := @GeneralizedRegister.writesOnly_moveTo P
  have hrot := @writesOnly_rotateCycle check entry P _ hw.links this scratchFPR1 fuel this hthis
  have hscr : (GeneralizedRegister.gpr scratchGPR).gprSatisfies P = true := hsc
  simp only
  split
  · exact hw.emit (GeneralizedRegister.writesOnly_convert hthis _ _)
  · rename_i p hp
    exact hw.emit (GeneralizedRegister.writesOnly_swapWith hthis (hw.links _ _ hp) hsc _ _ _ _ _)
  · exact hw
  · split_ifs
    · split
      · exact hw.emit (((hm hthis hscr _ _ _).append hrot).append (hm hscr hnext _ _ _))
      · exact hw.emit (((hm hthis (by rfl) _ _ _).append hrot).append (hm (by rfl) hnext _ _ _))
    · exact hw.emit (((hm hthis hscr _ _ _).append hrot).append (hm hscr hnext _ _ _))

end Handlers

/-! ### The three parts -/

/-- A GPR the link code may write once Part 1 has picked `scratchGPR` = `sc`: an allocatable one, or `sc`. -/
def linkWritable (sc g : GPRReg) : Bool := g.isAllocatable || g == sc

theorem linkWritable_eq_false {sc g : GPRReg} (hne : g ≠ sc) (hg : g.isAllocatable = false) : linkWritable sc g = false := by
  simp [linkWritable, hg, hne]

section Parts

variable {counts : RegisterCounts} {graph : Graph} {check : SpeculationCheck} {entry : EntryLocation} {sc : GPRReg}

theorem writesWithin_spillGPR {st : LinkState} (h : st.WritesWithin (linkWritable sc)) (index : Nat) :
    (spillGPR graph check entry st index).WritesWithin (linkWritable sc) := by
  unfold spillGPR
  dsimp only
  split
  · exact h
  · split
    · split
      · exact h.link (by rfl) _
      · exact (h.link (by rfl) _).ite_emit fun _ => by split_ifs <;> exact .of_all rfl
    · exact (h.of_eq (by split <;> rfl) (by split <;> rfl)).ite_emit fun _ => by split_ifs <;> exact .of_all rfl

/-- Part 1 at an FPR spills through `scratchGPR`. -/
theorem writesWithin_spillFPR {st : LinkState} (h : st.WritesWithin (linkWritable sc))
    (hs : st.scratchGPR.getD .tagMaskRegister = sc) (index : Nat) :
    (spillFPR graph check entry st index).WritesWithin (linkWritable sc) := by
  have hspill : ∀ g, g = sc → ∀ a : Address, WritesOnly (linkWritable sc)
      (ops [.moveDoubleToPtr ⟨index⟩ g, .subPtr .tagTypeNumberRegister g, .storePtr g a]) := by
    rintro g rfl a
    exact .of_all (by simp [ops, Instr.writtenGPRs, Op.writtenGPRs, linkWritable])
  unfold spillFPR
  dsimp only
  split
  · exact h
  · split
    · split
      · exact h.link (by rfl) _
      · exact (h.link (by rfl) _).ite_emit fun _ => hspill _ hs _
    · exact (h.of_eq (by split_ifs <;> rfl) (by split_ifs <;> rfl)).ite_emit fun _ => hspill _ (by split_ifs <;> exact hs) _

theorem writesWithin_afterPart1 (hsc : (afterPart1 counts graph check entry).scratchGPR.getD .tagMaskRegister = sc) :
    (afterPart1 counts graph check entry).WritesWithin (linkWritable sc) := by
  have hinit := @buildMaps_shuffled_code counts check entry
  simp only [afterPart1] at hsc ⊢
  generalize (List.range counts.fprs).foldl (buildMapsFPR check entry) _ = st0 at hinit hsc ⊢
  have h0 : st0.WritesWithin (linkWritable sc) :=
    ⟨fun r p hp => (by rw [hinit.1] at hp; cases hp), by rw [hinit.2]; exact .nil⟩
  have h1 := foldl_range_invariant (spillGPR graph check entry) (fun _ (st : LinkState) => st.WritesWithin (linkWritable sc))
    counts.gprs st0 h0 fun i _ st h => writesWithin_spillGPR h i
  generalize (List.range counts.gprs).foldl (spillGPR graph check entry) st0 = st1 at h1 hsc ⊢
  rw [(Prod.mk.inj (foldl_preserves (fun st => (st.scratchGPR, st.needToRestoreTagMaskRegister))
    (@scratch_spillFPR graph check entry) (List.range counts.fprs) (borrowTagMaskRegister st1))).1] at hsc
  refine (foldl_range_invariant (spillFPR graph check entry)
    (fun _ (st : LinkState) => st.WritesWithin (linkWritable sc) ∧ st.scratchGPR.getD .tagMaskRegister = sc) counts.fprs
    (borrowTagMaskRegister st1) ⟨h1.of_eq (shuffled_borrowTagMaskRegister st1) ?_, hsc⟩ fun i _ st h =>
      ⟨writesWithin_spillFPR h.1 h.2 i, ?_⟩).1
  · unfold borrowTagMaskRegister; split <;> rfl
  · rw [(Prod.mk.inj (@scratch_spillFPR graph check entry st i)).1]
    exact h.2

theorem gprSatisfies_lookupForRegister (index : Nat) :
    (lookupForRegister counts index).gprSatisfies (linkWritable sc) = true := by
  unfold lookupForRegister
  split <;> rfl

theorem writesWithin_afterPart2 (hsc : (afterPart1 counts graph check entry).scratchGPR.getD .tagMaskRegister = sc) :
    (afterPart2 counts graph check entry).WritesWithin (linkWritable sc) := by
  have hkept : ∀ {st st' : LinkState}, st'.kept = st.kept → st'.scratchGPR = st.scratchGPR := fun h => congrArg (·.2.1) h
  unfold afterPart2
  dsimp only
  refine (foldl_range_invariant _
    (fun _ (st : LinkState) => st.WritesWithin (linkWritable sc) ∧ st.scratchGPR.getD .tagMaskRegister = sc) _ _
    (foldl_range_invariant _
      (fun _ (st : LinkState) => st.WritesWithin (linkWritable sc) ∧ st.scratchGPR.getD .tagMaskRegister = sc) _ _
      ⟨writesWithin_afterPart1 hsc, hsc⟩ fun i _ st h => ⟨?_, by rw [hkept (kept_shuffleChain st i)]; exact h.2⟩)
    fun i _ st h => ⟨?_, by rw [hkept (kept_shuffleCycle st i)]; exact h.2⟩).1
  · unfold shuffleChain
    dsimp only
    split_ifs
    · exact h.1
    · exact writesWithin_handleNonCyclingPermutation _ h.1 (gprSatisfies_lookupForRegister _)
  · unfold shuffleCycle
    dsimp only
    split_ifs
    · exact h.1
    · exact writesWithin_handleCyclingPermutation _ _ _ h.1 (gprSatisfies_lookupForRegister _)
        (by rw [h.2]; simp [linkWritable])

theorem writesOnly_fillFPR (map : NodeToRegisterMap) (index : Nat) :
    WritesOnly (linkWritable sc) (fillFPR graph check entry map index) := by
  unfold fillFPR
  dsimp only
  split
  · exact .nil
  · split_ifs
    · exact .nil
    · unfold fillNumericToDouble
      split <;> exact .of_all rfl

theorem writesOnly_fillGPR (map : NodeToRegisterMap) (index : Nat) :
    WritesOnly (linkWritable sc) (fillGPR graph check entry map index) := by
  unfold fillGPR
  dsimp only
  split
  · exact .nil
  · split_ifs
    · exact .nil
    · unfold fillInt32ToInteger
      split <;> exact .of_all rfl
    · unfold fillToJS
      split <;> exact .of_all rfl

end Parts

theorem writesOnly_recoveryPrePass {sc : GPRReg} (check : SpeculationCheck) {recovery : Option SpeculationRecovery}
    (h : ∀ r ∈ recovery, r.dest.isAllocatable = true) : WritesOnly (linkWritable sc) (recoveryPrePass check recovery) := by
  rcases recovery with _ | ⟨dest, src⟩ | dest
  · exact .nil
  all_goals obtain ⟨index, rfl⟩ := GPRReg.eq_reg_of_isAllocatable (show dest.isAllocatable = true from h _ rfl)
  · simp only [recoveryPrePass]
    split_ifs <;> exact .of_all rfl
  · exact .of_all rfl

/-- For every check, entry location and graph, and a speculation recovery whose `dest` is an allocatable GPR, the code
`jumpFromSpeculativeToNonSpeculative` emits, run from a machine whose tag registers hold their constants, leaves them holding
their constants: it never writes `tagTypeNumberRegister`, and writes `tagMaskRegister` only when Part 1 has borrowed it,
after which its last instruction writes `TagMask` back. -/
theorem jumpFromSpeculativeToNonSpeculative_keeps_pinned (counts : RegisterCounts) (graph : Graph)
    (check : SpeculationCheck) (entry : EntryLocation) (recovery : Option SpeculationRecovery)
    (hdest : ∀ r ∈ recovery, r.dest.isAllocatable = true) {m : Machine} (hm : m.Pinned) :
    (exec m (jumpFromSpeculativeToNonSpeculative counts graph check entry recovery)).Pinned := by
  obtain ⟨sc, hsg, hS⟩ := @afterPart1_scratchGPR counts graph check entry
  have hrestore : (afterPart2 counts graph check entry).needToRestoreTagMaskRegister =
      (afterPart1 counts graph check entry).needToRestoreTagMaskRegister :=
    congrArg (·.2.2) (@kept_part2 counts check entry (afterPart1 counts graph check entry))
  have hbody : WritesOnly (linkWritable sc) (recoveryPrePass check recovery ++ (afterPart2 counts graph check entry).code ++
      (List.range counts.fprs).flatMap
        (fillFPR graph check entry (afterPart2 counts graph check entry).checkNodeToRegisterMap) ++
      (List.range counts.gprs).flatMap
        (fillGPR graph check entry (afterPart2 counts graph check entry).checkNodeToRegisterMap)) :=
    (((writesOnly_recoveryPrePass check hdest).append (writesWithin_afterPart2 (by rw [hsg]; rfl)).code).append
      (.flatMap fun _ _ => writesOnly_fillFPR _ _)).append (.flatMap fun _ _ => writesOnly_fillGPR _ _)
  have htag := (hbody.gpr_eq (linkWritable_eq_false (Ne.symm hS.ne_tagTypeNumber) rfl) m).trans hm.1
  rw [jumpFromSpeculativeToNonSpeculative, afterPart3_code, hrestore]
  simp only [← List.append_assoc]
  rw [exec_append]
  cases hb : (afterPart1 counts graph check entry).needToRestoreTagMaskRegister
  · have hmask := linkWritable_eq_false (fun e : GPRReg.tagMaskRegister = sc => by simpa [hb] using hS.restored e.symm) rfl
    simp only [Bool.false_eq_true, if_false, exec_nil]
    exact ⟨htag, (hbody.gpr_eq hmask m).trans hm.2⟩
  · simp only [if_true, exec_ops, Op.run_cons, Op.run_nil, Op.exec]
    exact ⟨by rw [Machine.setGPR_gpr, if_neg (by decide), htag], by rw [Machine.setGPR_gpr, if_pos rfl]⟩

/-- Both GPRs hold nodes the entry wants swapped, so Part 1 borrows `tagMaskRegister` to spill the double in FPR 0 and Part 3
restores it; the boolean recovery rewrites GPR 1. -/
theorem jumpFromSpeculativeToNonSpeculative_keeps_pinned_borrowing :
    (∀ r ∈ some (SpeculationRecovery.booleanSpeculationCheck (.reg 1)), r.dest.isAllocatable = true) ∧
    (Machine.atExit (fun _ => 7) (fun _ => 0x3FF0000000000000#64) fun _ => 0).Pinned ∧
    (exec (Machine.atExit (fun _ => 7) (fun _ => 0x3FF0000000000000#64) fun _ => 0)
      (jumpFromSpeculativeToNonSpeculative ⟨2, 1, by decide, by decide⟩ (⟨fun n => n, fun _ => none, by simp⟩ : Graph)
        (⟨0, fun i => if i = 0 then ⟨some 10, .js, false⟩ else if i = 1 then ⟨some 12, .js, false⟩ else .noNode,
          fun i => if i = 0 then ⟨some 11, .double, false⟩ else .noNode⟩ : SpeculationCheck)
        (⟨0, fun i => if i = 0 then ⟨some 12, .js, false⟩ else if i = 1 then ⟨some 10, .js, false⟩ else .noNode,
          fun _ => .noNode⟩ : EntryLocation)
        (some (.booleanSpeculationCheck (.reg 1))))).Pinned :=
  have hdest : ∀ r ∈ some (SpeculationRecovery.booleanSpeculationCheck (.reg 1)), r.dest.isAllocatable = true :=
    fun r h => by obtain rfl := Option.mem_some_iff.1 h; rfl
  have hm : (Machine.atExit (fun _ => 7) (fun _ => 0x3FF0000000000000#64) fun _ => 0).Pinned := Machine.atExit_pinned _ _ _
  ⟨hdest, hm, jumpFromSpeculativeToNonSpeculative_keeps_pinned _ _ _ _ _ hdest hm⟩

end JavaScriptCore
