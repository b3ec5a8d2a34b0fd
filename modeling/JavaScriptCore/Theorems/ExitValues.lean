import JavaScriptCore.Theorems.ExitSteps
import JavaScriptCore.Lemmas.Encoding

/-!
# The OSR exit restores the baseline frame

What `exitSpeculativeWithOSR` is for: after its code, the home slot of every recovery holds the encoded value the recovery
stands for at the exit (`ValueRecovery.recoveredValue`). Each home slot is written by exactly one step, chosen by its
recovery: step 5 or 7 for a register-held one that is not poisoned, step 9 for a poisoned one, step 8 for a displaced one,
step 10 for a constant, none for one already in the register file; every later step keeps it (`exec_*_home`). A poisoned
value travels through the scratch buffer: parked by step 5 or 7 at the index of its place among the values that step
parks, drained by step 9 from the index of its place in variable order. The two agree exactly when no poisoned variable in
an FPR comes before one in a GPR (`OSRExit.ParksInDrainOrder`); at an exit that breaks that order the drained values land in
each other's slots (`drain_exchanges_poisoned_values`, `exitSpeculativeWithOSR_misplaces_poisoned_double`).

The theorems: the exit restores every home slot (`exitSpeculativeWithOSR_recovers`), it writes no other frame slot but the
code block's (`exitSpeculativeWithOSR_keeps_other_slots`), and with a speculation recovery it is that recovery's code
followed by the exit without one (`exitSpeculativeWithOSR_eq_recovery_then_exit`): skipping the register the recovery has
boxed in step 4 is an optimisation only.
-/

namespace JavaScriptCore

/-! ### Counting the parked values by variable -/

section Counts

variable {exit : OSRExit} {c : OSRClassification}

/-- Only variables are poisoned, so a count of poisoned recoveries is a count of poisoned variables. -/
theorem countP_isPoisoned_enum (exit : OSRExit) (c : OSRClassification) (q : Nat → ValueRecovery → Bool) :
    exit.recoveries.enum.countP (fun p => c.isPoisoned exit p.1 && q (exit.variableForIndex p.1) p.2) =
      exit.variableRecoveries.enum.countP fun p => c.poisonedVirtualRegisters p.1 && q p.1 p.2 := by
  have hargs : exit.argumentRecoveries.enum.countP
      (fun p => c.isPoisoned exit p.1 && q (exit.variableForIndex p.1) p.2) = 0 :=
    List.countP_eq_zero.2 fun p hp => by
      simp [OSRClassification.isPoisoned, OSRExit.isVariable, List.fst_lt_of_mem_enum hp]
  rw [OSRExit.recoveries, List.enum_append, List.countP_append, hargs, List.enumFrom_eq_map_enum, List.countP_map]
  simp [Function.comp_def, OSRClassification.isPoisoned, OSRExit.isVariable, OSRExit.variableForIndex]

/-- Before the recovery of variable `v`, the recoveries parked in some register kind are the variables before `v`. -/
theorem countBefore_isPoisoned (P : ValueRecovery → Bool) (v : Nat) :
    countBefore (fun p => c.isPoisoned exit p.1 && P p.2) exit.recoveries.enum (exit.argumentRecoveries.length + v) =
      countBefore (fun p => c.poisonedVirtualRegisters p.1 && P p.2) exit.variableRecoveries.enum v := by
  have h := countP_isPoisoned_enum exit c fun w r => decide (w < v) && P r
  unfold countBefore
  convert h using 1 <;> refine List.countP_congr fun p _ => ?_
  · simp only [OSRClassification.isPoisoned, OSRExit.isVariable, OSRExit.variableForIndex]
    by_cases ha : exit.argumentRecoveries.length ≤ p.1
    · have : p.1 < exit.argumentRecoveries.length + v ↔ p.1 - exit.argumentRecoveries.length < v := by omega
      simp only [ha, this, decide_True, Bool.true_and, Bool.and_left_comm]
    · simp only [ha, decide_False, Bool.false_and, Bool.and_false]
  · simp only [Bool.and_left_comm]

end Counts

/-- Steps 5 and 7 park the poisoned values in the order step 9 drains them: no poisoned variable held in an FPR comes
before a poisoned variable held in a GPR. -/
def OSRExit.ParksInDrainOrder (exit : OSRExit) : Prop :=
  ∀ v < exit.variableRecoveries.length, ∀ w < v, (classify exit).poisonedVirtualRegisters v = true →
    (classify exit).poisonedVirtualRegisters w = true → (exit.variableRecoveries.getD v .dontKnow).isInGPR = true →
    (exit.variableRecoveries.getD w .dontKnow).isInFPR = true → False

instance (exit : OSRExit) : Decidable exit.ParksInDrainOrder := Nat.decidableBallLT _ _

/-- An exit that breaks that order: variable 0 is in an FPR and variable 1 in a GPR, and both home slots are sources of
displaced variables 2 and 3, so both are poisoned. Step 5 parks variable 1 at index 0 and step 7 parks variable 0 at index 1;
step 9 drains index 0 into variable 0 and index 1 into variable 1, so the two values are exchanged. -/
theorem drain_exchanges_poisoned_values :
    (classify ⟨[], [.inFPR ⟨0⟩, .inGPR (.reg 0), .displacedInRegisterFile 1, .displacedInRegisterFile 0], none, 5⟩
      ).poisonedVirtualRegisters 0 = true ∧
    (classify ⟨[], [.inFPR ⟨0⟩, .inGPR (.reg 0), .displacedInRegisterFile 1, .displacedInRegisterFile 0], none, 5⟩
      ).poisonedVirtualRegisters 1 = true ∧
    (exec (Machine.atExit (fun _ => 0xFFFF000000000007#64) (fun _ => 0x3FF8000000000000#64) (fun _ => 0#64))
      (exitSpeculativeWithOSR ⟨4, 2, by decide, by decide⟩ .standard
        ⟨[], [.inFPR ⟨0⟩, .inGPR (.reg 0), .displacedInRegisterFile 1, .displacedInRegisterFile 0], none, 5⟩
        ⟨0x1000, 0, 0x2000, [(5, 16)]⟩ none)).memory (.frame 0) = 0xFFFF000000000007#64 ∧
    (exec (Machine.atExit (fun _ => 0xFFFF000000000007#64) (fun _ => 0x3FF8000000000000#64) (fun _ => 0#64))
      (exitSpeculativeWithOSR ⟨4, 2, by decide, by decide⟩ .standard
        ⟨[], [.inFPR ⟨0⟩, .inGPR (.reg 0), .displacedInRegisterFile 1, .displacedInRegisterFile 0], none, 5⟩
        ⟨0x1000, 0, 0x2000, [(5, 16)]⟩ none)).memory (.frame 1) = JSValue.encode (.double 0x3FF8000000000000#64) := by
  decide

/-- At the same exit, the home slot of variable 0, recovered `InFPR`, does not hold its FPR's double boxed: it holds the
int32 7 that variable 1's GPR held. -/
theorem exitSpeculativeWithOSR_misplaces_poisoned_double :
    (exec (Machine.atExit (fun _ => 0xFFFF000000000007#64) (fun _ => 0x3FF8000000000000#64) (fun _ => 0#64))
      (exitSpeculativeWithOSR ⟨4, 2, by decide, by decide⟩ .standard
        ⟨[], [.inFPR ⟨0⟩, .inGPR (.reg 0), .displacedInRegisterFile 1, .displacedInRegisterFile 0], none, 5⟩
        ⟨0x1000, 0, 0x2000, [(5, 16)]⟩ none)).memory (.frame 0) ≠ JSValue.encode (.double 0x3FF8000000000000#64) := by
  decide

section Order

variable {exit : OSRExit} {c : OSRClassification}

theorem getD_of_mem_enum {l : List ValueRecovery} {v : Nat} {r : ValueRecovery} (h : (v, r) ∈ l.enum) :
    l.getD v .dontKnow = r := by
  simp [List.getD_eq_getElem?_getD, List.mem_enum_iff_getElem?.1 h]

/-- Step 9 drains the variables parked from GPRs and those parked from FPRs. -/
theorem countBefore_drains (l : List (Nat × ValueRecovery)) (v : Nat) :
    countBefore (drains c) l v = countBefore (fun p => c.poisonedVirtualRegisters p.1 && p.2.isInGPR) l v +
      countBefore (fun p => c.poisonedVirtualRegisters p.1 && p.2.isInFPR) l v := by
  have h := countP_isInGPR_add_isInFPR (fun w => decide (w < v) && c.poisonedVirtualRegisters w) l
  simp only [Bool.and_assoc] at h
  exact h.symm

variable (hord : exit.ParksInDrainOrder)
include hord

/-- In drain order, a poisoned variable held in a GPR comes after every poisoned variable held in an FPR: step 9 drains it
from the index step 5 parked it at. -/
theorem countBefore_drains_of_isInGPR {v : Nat} {r : ValueRecovery} (hv : (v, r) ∈ exit.variableRecoveries.enum)
    (hp : (classify exit).poisonedVirtualRegisters v = true) (hr : r.isInGPR = true) :
    countBefore (drains (classify exit)) exit.variableRecoveries.enum v =
      countBefore (fun p => (classify exit).poisonedVirtualRegisters p.1 && p.2.isInGPR) exit.variableRecoveries.enum v := by
  rw [countBefore_drains, Nat.add_right_eq_self]
  refine List.countP_eq_zero.2 fun p hq hpq => ?_
  simp only [Bool.and_eq_true, decide_eq_true_eq] at hpq
  exact hord v (List.fst_lt_of_mem_enum hv) p.1 hpq.1 hp hpq.2.1 (by rw [getD_of_mem_enum hv]; exact hr)
    (by rw [getD_of_mem_enum hq]; exact hpq.2.2)

/-- In drain order, a poisoned variable held in an FPR comes after every poisoned variable held in a GPR: step 9 drains it
from the index step 7 parked it at, after all those step 5 parked. -/
theorem countBefore_drains_of_isInFPR {v : Nat} {r : ValueRecovery} (hv : (v, r) ∈ exit.variableRecoveries.enum)
    (hp : (classify exit).poisonedVirtualRegisters v = true) (hr : r.isInFPR = true) :
    countBefore (drains (classify exit)) exit.variableRecoveries.enum v =
      exit.variableRecoveries.enum.countP (fun p => (classify exit).poisonedVirtualRegisters p.1 && p.2.isInGPR) +
        countBefore (fun p => (classify exit).poisonedVirtualRegisters p.1 && p.2.isInFPR)
          exit.variableRecoveries.enum v := by
  rw [countBefore_drains]
  congr 1
  refine List.countP_congr fun p hq => ?_
  simp only [Bool.and_eq_true, decide_eq_true_eq, and_iff_right_iff_imp]
  rintro ⟨hpp, hpg⟩
  by_contra hlt
  rcases Nat.lt_or_eq_of_le (Nat.not_lt.1 hlt) with hlt | rfl
  · exact hord p.1 (List.fst_lt_of_mem_enum hq) v hlt hpp hp (by rw [getD_of_mem_enum hq]; exact hpg)
      (by rw [getD_of_mem_enum hv]; exact hr)
  · rw [← getD_of_mem_enum hv, getD_of_mem_enum hq] at hr
    cases h : p.2 <;> simp_all [ValueRecovery.isInGPR, ValueRecovery.isInFPR]

end Order

/-! ### Which step writes a home slot -/

theorem eq_of_mem_enum {l : List ValueRecovery} {i : Nat} {r r' : ValueRecovery} (h : (i, r) ∈ l.enum)
    (h' : (i, r') ∈ l.enum) : r = r' :=
  Option.some.inj ((List.mem_enum_iff_getElem?.1 h).symm.trans (List.mem_enum_iff_getElem?.1 h'))

theorem pairwise_enum (l : List ValueRecovery) : (l.enum.map Prod.fst).Pairwise (· < ·) := by
  rw [List.enum_map_fst]
  exact List.pairwise_lt_range _

namespace OSRExit

variable {layout : FrameLayout} {exit : OSRExit}

/-- A variable's recovery, at its index among all recoveries. -/
theorem mem_variables_enum {index : Nat} {r : ValueRecovery} (hi : (index, r) ∈ exit.recoveries.enum)
    (hv : exit.argumentRecoveries.length ≤ index) : (exit.variableForIndex index, r) ∈ exit.variableRecoveries.enum := by
  rw [List.mem_enum_iff_getElem?, variableForIndex, ← List.getElem?_append_right hv]
  exact List.mem_enum_iff_getElem?.1 hi

theorem operandForIndex_of_le {index : Nat} (hv : exit.argumentRecoveries.length ≤ index) :
    exit.operandForIndex layout index = (exit.variableForIndex index : Int) := by
  simp [operandForIndex, variableForIndex, Nat.not_lt.2 hv]

/-- No home slot is the code block's. -/
theorem operandForIndex_ne_codeBlockSlot (index : Nat) : exit.operandForIndex layout index ≠ layout.codeBlockSlot := by
  unfold operandForIndex
  split_ifs
  · exact layout.codeBlock_ne_argument index
  · have := layout.codeBlock_lt_zero
    omega

end OSRExit

section Homes

variable {counts : RegisterCounts} {layout : FrameLayout} {exit : OSRExit} {baseline : Baseline} {index : Nat}
  {r : ValueRecovery}

/-- Steps 11 to 14 keep every home slot. -/
theorem exec_epilogueSteps_home (m : Machine) :
    (exec m (epilogueSteps layout exit baseline)).memory (.frame (exit.operandForIndex layout index)) =
      m.memory (.frame (exit.operandForIndex layout index)) :=
  exec_memory_of_not_mem (epilogueSteps_keeps layout exit baseline (OSRExit.operandForIndex_ne_codeBlockSlot index)) m

/-- Step 12 loads the last set operand's slot into regT0 after every store to a frame slot but step 13's: regT0 ends holding
what that slot ends holding. -/
theorem exec_epilogueSteps_cachedResult {operand : Int} (hlast : exit.lastSetOperand = some operand)
    (hcb : operand ≠ layout.codeBlockSlot) (m : Machine) :
    (exec m (epilogueSteps layout exit baseline)).gpr regT0 =
      (exec m (epilogueSteps layout exit baseline)).memory (.frame operand) := by
  simp [epilogueSteps, hlast, Op.exec, hcb, regT0, regT1]

/-- Step 10 stores only to the home slots of the constants. -/
theorem constantsStep_keeps {x : Int}
    (hx : ∀ index v, (index, .constant v) ∈ exit.recoveries.enum → exit.operandForIndex layout index ≠ x) :
    ∀ i ∈ constantsStep layout exit, Address.frame x ∉ i.storeAddresses := by
  have hkeep : ∀ i ∈ dumpConstants layout exit exit.recoveries.enum, Address.frame x ∉ i.storeAddresses :=
    dumpConstants_keeps _ fun index v h he => hx index v h (Address.frame.inj he).symm
  intro i hi
  unfold constantsStep at hi
  split_ifs at hi <;> simp only [List.mem_append, ops, List.map_cons, List.map_nil, List.mem_singleton,
    List.not_mem_nil, false_or] at hi <;> first
    | exact absurd hi (List.not_mem_nil _)
    | exact hkeep i hi
    | (rcases hi with rfl | hi
       · simp [Instr.storeAddresses, Op.storeAddress]
       · exact hkeep i hi)

/-- Step 10 keeps the home slot of every recovery that is not a constant. -/
theorem exec_constantsStep_home (hi : (index, r) ∈ exit.recoveries.enum) (hr : ∀ v, r ≠ .constant v) (m : Machine) :
    (exec m (constantsStep layout exit)).memory (.frame (exit.operandForIndex layout index)) =
      m.memory (.frame (exit.operandForIndex layout index)) :=
  exec_memory_of_not_mem (constantsStep_keeps fun i' v h he =>
    hr v (eq_of_mem_enum hi (by rwa [← OSRExit.operandForIndex_injective he]))) m

/-- Step 9 stores only to the home slots of the variables it drains. -/
theorem drainStep_keeps {x : Int}
    (hx : ∀ v r, (v, r) ∈ exit.variableRecoveries.enum → drains (classify exit) (v, r) → (v : Int) ≠ x) :
    ∀ i ∈ drainStep exit, Address.frame x ∉ i.storeAddresses := by
  unfold drainStep
  split_ifs
  · exact fun _ h => absurd h (List.not_mem_nil _)
  · exact drainPoisoned_keeps 0 _ fun p hp hd he => hx p.1 p.2 hp hd (Address.frame.inj he).symm

/-- Step 9 keeps the home slot of every recovery that is not a poisoned register-held one. -/
theorem exec_drainStep_home (hi : (index, r) ∈ exit.recoveries.enum)
    (hr : r.isInRegister = true → (classify exit).isPoisoned exit index = false) (m : Machine) :
    (exec m (drainStep exit)).memory (.frame (exit.operandForIndex layout index)) =
      m.memory (.frame (exit.operandForIndex layout index)) := by
  refine exec_memory_of_not_mem (drainStep_keeps fun v r' hp hd he => ?_) m
  have hv : exit.argumentRecoveries.length ≤ index := by
    by_contra h
    have := layout.argument_lt_zero index
    rw [OSRExit.operandForIndex, if_pos (Nat.lt_of_not_le h)] at he
    omega
  rw [OSRExit.operandForIndex_of_le hv, Nat.cast_inj] at he
  subst he
  obtain rfl := eq_of_mem_enum (OSRExit.mem_variables_enum hi hv) hp
  simp only [drains, Bool.and_eq_true] at hd
  simp [OSRClassification.isPoisoned, OSRExit.isVariable, hv, hd] at hr

/-- Step 8 keeps the home slot of every recovery that is not displaced. -/
theorem exec_reshuffle_home (hi : (index, r) ∈ exit.recoveries.enum) (hr : ∀ vr, r ≠ .displacedInRegisterFile vr)
    (m : Machine) :
    (exec m (reshuffleDisplaced counts layout exit (classify exit) (classify exit).numberOfPoisonedVirtualRegisters)).memory
      (.frame (exit.operandForIndex layout index)) = m.memory (.frame (exit.operandForIndex layout index)) :=
  (reshuffleDisplaced_assigns counts layout exit m).1.2 _ fun i' vr h he =>
    hr vr (eq_of_mem_enum hi (by rwa [← OSRExit.operandForIndex_injective he]))

/-- Steps 2 to 7 keep the home slot of every recovery that is not a register-held one that is not poisoned. -/
theorem exec_stepsBefore_home (hi : (index, r) ∈ exit.recoveries.enum)
    (hr : r.isInRegister = true → (classify exit).isPoisoned exit index = true) (recovery : Option SpeculationRecovery)
    (m : Machine) :
    (exec m (exitStepsBeforeReshuffle layout exit recovery)).memory (.frame (exit.operandForIndex layout index)) =
      m.memory (.frame (exit.operandForIndex layout index)) :=
  exec_memory_of_not_mem (exitStepsBeforeReshuffle_keeps_frame layout recovery fun i' r' h hr' hp he => by
    obtain rfl := OSRExit.operandForIndex_injective he
    obtain rfl := eq_of_mem_enum hi h
    simp [hr hr'] at hp) m

/-- Step 10 stores every constant to its home slot. -/
theorem exec_constantsStep_constant {v : Word} (hi : (index, .constant v) ∈ exit.recoveries.enum) (m : Machine) :
    (exec m (constantsStep layout exit)).memory (.frame (exit.operandForIndex layout index)) = v := by
  have hmem := List.snd_mem_of_mem_enum hi
  unfold constantsStep
  rw [if_pos (classify_haveConstants hmem), exec_append]
  split_ifs with hu
  · exact exec_dumpConstants _ (pairwise_enum _) _ index v hi fun _ => by simp [Op.exec, regT0]
  · refine exec_dumpConstants _ (pairwise_enum _) _ index v hi fun hv => ?_
    exact absurd (classify_haveUndefined (hv ▸ hmem)) hu

/-- Step 9 drains into the home slot of a poisoned register-held variable the scratch slot of its place in drain order. -/
theorem exec_drainStep_poisoned (hi : (index, r) ∈ exit.recoveries.enum) (hr : r.isInRegister = true)
    (hp : (classify exit).isPoisoned exit index = true) (m : Machine) :
    (exec m (drainStep exit)).memory (.frame (exit.operandForIndex layout index)) =
      m.memory (.scratchBuffer
        (countBefore (drains (classify exit)) exit.variableRecoveries.enum (exit.variableForIndex index))) := by
  simp only [OSRClassification.isPoisoned, OSRExit.isVariable, Bool.and_eq_true, decide_eq_true_eq] at hp
  have hvar := OSRExit.mem_variables_enum hi hp.1
  have hd : drains (classify exit) (exit.variableForIndex index, r) = true := by simp [drains, hr, hp.2]
  have hP : (classify exit).numberOfPoisonedVirtualRegisters ≠ 0 := by
    rw [← (classifiedAs_classify exit).countP_poisoned]
    exact (List.countP_pos_iff.2 ⟨_, hvar, hd⟩).ne'
  unfold drainStep
  rw [if_neg hP, OSRExit.operandForIndex_of_le hp.1, exec_drainPoisoned 0 _ (pairwise_enum _) m _ hvar hd, Nat.zero_add]

/-- Step 4, as the exit emits it without a speculation recovery. -/
theorem exec_step4 (m : Machine) (hT : m.gpr .tagTypeNumberRegister = TagTypeNumber) :
    (exec m (if (classify exit).haveUnboxedInt32s then reboxInt32s none exit.recoveries else [])).memory = m.memory ∧
    (exec m (if (classify exit).haveUnboxedInt32s then reboxInt32s none exit.recoveries else [])).fpr = m.fpr ∧
    ∀ g, (exec m (if (classify exit).haveUnboxedInt32s then reboxInt32s none exit.recoveries else [])).gpr g =
      if .unboxedInt32InGPR g ∈ exit.recoveries then m.gpr g ||| TagTypeNumber else m.gpr g := by
  split_ifs with h
  · exact exec_reboxInt32s _ m hT
  · exact ⟨rfl, rfl, fun g => (if_neg fun hg => h (classify_haveUnboxedInt32s hg)).symm⟩

/-- Steps 2 to 7, without a speculation recovery, leave at the word step 5 gives a GPR-held recovery its GPR, reboxed if
it is an unboxed int32's. -/
theorem exec_stepsBefore_gpr {m : Machine} (hT : m.gpr .tagTypeNumberRegister = TagTypeNumber) {g : GPRReg}
    (hi : (index, .inGPR g) ∈ exit.recoveries.enum ∨ (index, .unboxedInt32InGPR g) ∈ exit.recoveries.enum) :
    (exec m (exitStepsBeforeReshuffle layout exit none)).memory
        (dumpAddress layout exit (classify exit) (gprParks exit (classify exit)) 0 exit.recoveries.enum index) =
      if .unboxedInt32InGPR g ∈ exit.recoveries then m.gpr g ||| TagTypeNumber else m.gpr g := by
  obtain ⟨r, hri, hrg⟩ : ∃ r, (index, r) ∈ exit.recoveries.enum ∧ r.isInGPR = true := by
    rcases hi with h | h <;> exact ⟨_, h, rfl⟩
  obtain ⟨-, -, h4⟩ := exec_step4 m hT
  obtain ⟨-, -, h5⟩ := exec_dumpGPRs 0 _ (pairwise_enum _) (exec m
    (if (classify exit).haveUnboxedInt32s then reboxInt32s none exit.recoveries else []))
  simp only [exitStepsBeforeReshuffle, osrRecoveryPrePass, exec_append, exec_nil]
  rw [exec_memory_of_not_mem, h5 index g hi, h4]
  unfold dumpAddress
  split_ifs with hF hp <;> try exact fun _ h => absurd h (List.not_mem_nil _)
  · refine scratch_not_mem_storeAddresses ?_
    have hlt : countBefore (gprParks exit (classify exit)) exit.recoveries.enum index <
        exit.recoveries.enum.countP (gprParks exit (classify exit)) :=
      countBefore_lt hri (by simp [gprParks, hp, hrg])
    rw [scratchIndices_append, scratchIndices_eq_nil (addresses_boxFPRs _), List.nil_append,
      (dumpFPRs_scratch layout exit _ _ _).1, (dumpGPRs_scratch layout exit _ _ _).2, List.mem_range'_1]
    unfold gprParks at hlt ⊢
    omega
  · refine List.forall_mem_append.2 ⟨fun i hi => not_mem_storeAddresses_of_addresses_nil (addresses_boxFPRs _ i hi),
      dumpFPRs_keeps_frame layout exit _ (fun i' f h _ he => ?_) _⟩
    obtain rfl := OSRExit.operandForIndex_injective he
    obtain rfl := eq_of_mem_enum hri h
    exact Bool.false_ne_true hrg

/-- Steps 2 to 7, without a speculation recovery, leave at the word step 7 gives an `InFPR` recovery its FPR's double,
boxed. -/
theorem exec_stepsBefore_fpr {m : Machine} (hT : m.gpr .tagTypeNumberRegister = TagTypeNumber) {f : FPRReg}
    (hi : (index, .inFPR f) ∈ exit.recoveries.enum) :
    (exec m (exitStepsBeforeReshuffle layout exit none)).memory
        (dumpAddress layout exit (classify exit) (fprParks exit (classify exit))
          (dumpGPRs layout exit (classify exit) 0 exit.recoveries.enum).2 exit.recoveries.enum index) =
      m.fpr f - TagTypeNumber := by
  have hmem := List.snd_mem_of_mem_enum hi
  have hF : (classify exit).haveFPRs = true := by
    rw [(classifiedAs_classify exit).haveFPRs_eq]
    exact List.any_eq_true.2 ⟨_, hmem, rfl⟩
  obtain ⟨-, h4f, h4⟩ := exec_step4 m hT
  set m4 := exec m (if (classify exit).haveUnboxedInt32s then reboxInt32s none exit.recoveries else [])
  obtain ⟨h5g, h5f, -⟩ := exec_dumpGPRs 0 _ (pairwise_enum _) m4
  set m5 := exec m4 (dumpGPRs layout exit (classify exit) 0 exit.recoveries.enum).1
  have hT5 : m5.gpr .tagTypeNumberRegister = TagTypeNumber := by
    rw [h5g, h4]
    split_ifs <;> simp [hT]
  obtain ⟨-, h6⟩ := exec_boxFPRs exit.recoveries m5 hT5
  obtain ⟨-, h7⟩ := exec_dumpFPRs (dumpGPRs layout exit (classify exit) 0 exit.recoveries.enum).2 _ (pairwise_enum _)
    (exec m5 (boxFPRs exit.recoveries))
  simp only [exitStepsBeforeReshuffle, osrRecoveryPrePass, hF, if_true, exec_append, exec_nil]
  rw [h7 index f hi, h6, if_pos hmem, h5f, h4f]

end Homes

/-- What the baseline code is to find in the home slot `home` of a recovery, read on the machine at the exit: the encoded
value the recovery stands for. An unboxed int32 stands for one only when its GPR holds it zero-extended, as the `Integer`
format says; `DontKnow` stands for none. -/
def ValueRecovery.recoveredValue (m : Machine) (home : Int) : ValueRecovery → Option Word
  | .alreadyInRegisterFile => some (m.memory (.frame home))
  | .inGPR g => some (m.gpr g)
  | .unboxedInt32InGPR g => (denote .integer (m.gpr g)).map JSValue.encode
  | .inFPR f => some (JSValue.encode (.double (m.fpr f)))
  | .displacedInRegisterFile vr => some (m.memory (.frame vr))
  | .constant v => some v
  | .dontKnow => none

section Recovers

variable {counts : RegisterCounts} {layout : FrameLayout} {exit : OSRExit} {index : Nat} {m : Machine}

theorem isVariable_of_isPoisoned {c : OSRClassification} (hp : c.isPoisoned exit index = true) :
    exit.argumentRecoveries.length ≤ index ∧ c.poisonedVirtualRegisters (exit.variableForIndex index) = true := by
  simpa [OSRClassification.isPoisoned, OSRExit.isVariable] using hp

/-- Steps 2 to 10, without a speculation recovery and parking in drain order, leave in the home slot of a GPR-held
recovery its GPR, reboxed if it is an unboxed int32's. -/
theorem exec_steps_home_gpr (hT : m.gpr .tagTypeNumberRegister = TagTypeNumber) (hord : exit.ParksInDrainOrder)
    {g : GPRReg} (hi : (index, .inGPR g) ∈ exit.recoveries.enum ∨ (index, .unboxedInt32InGPR g) ∈ exit.recoveries.enum) :
    (exec (exec (exec (exec m (exitStepsBeforeReshuffle layout exit none))
      (reshuffleDisplaced counts layout exit (classify exit) (classify exit).numberOfPoisonedVirtualRegisters))
        (drainStep exit)) (constantsStep layout exit)).memory (.frame (exit.operandForIndex layout index)) =
      if .unboxedInt32InGPR g ∈ exit.recoveries then m.gpr g ||| TagTypeNumber else m.gpr g := by
  obtain ⟨r, hri, hrg⟩ : ∃ r, (index, r) ∈ exit.recoveries.enum ∧ r.isInGPR = true := by
    rcases hi with h | h <;> exact ⟨_, h, rfl⟩
  have hreg : r.isInRegister = true := by rw [ValueRecovery.isInRegister_eq_or, hrg, Bool.true_or]
  rw [exec_constantsStep_home hri fun v h => by simp [h, ValueRecovery.isInGPR] at hrg, ← exec_stepsBefore_gpr hT hi]
  by_cases hp : (classify exit).isPoisoned exit index
  · obtain ⟨hv, hpv⟩ := isVariable_of_isPoisoned hp
    have hvar := OSRExit.mem_variables_enum hri hv
    have hlt : countBefore (drains (classify exit)) exit.variableRecoveries.enum (exit.variableForIndex index) <
        (classify exit).numberOfPoisonedVirtualRegisters := by
      rw [← (classifiedAs_classify exit).countP_poisoned]
      exact countBefore_lt hvar (by simp [drains, hpv, hreg])
    have hcount : countBefore (drains (classify exit)) exit.variableRecoveries.enum (exit.variableForIndex index) =
        countBefore (gprParks exit (classify exit)) exit.recoveries.enum index := by
      rw [countBefore_drains_of_isInGPR hord hvar hpv hrg, ← countBefore_isPoisoned, OSRExit.variableForIndex,
        Nat.add_sub_cancel' hv]
      rfl
    rw [exec_drainStep_poisoned hri hreg hp, (reshuffleDisplaced_assigns counts layout exit _).2 _ hlt, dumpAddress,
      if_pos hp, hcount, Nat.zero_add]
  · rw [Bool.not_eq_true] at hp
    rw [exec_drainStep_home hri fun _ => hp, exec_reshuffle_home hri fun vr h => by simp [h, ValueRecovery.isInGPR] at hrg]
    simp only [dumpAddress, hp, Bool.false_eq_true, if_false]

/-- Steps 2 to 10, without a speculation recovery and parking in drain order, leave in the home slot of an `InFPR`
recovery its FPR's double, boxed. -/
theorem exec_steps_home_fpr (hT : m.gpr .tagTypeNumberRegister = TagTypeNumber) (hord : exit.ParksInDrainOrder)
    {f : FPRReg} (hi : (index, .inFPR f) ∈ exit.recoveries.enum) :
    (exec (exec (exec (exec m (exitStepsBeforeReshuffle layout exit none))
      (reshuffleDisplaced counts layout exit (classify exit) (classify exit).numberOfPoisonedVirtualRegisters))
        (drainStep exit)) (constantsStep layout exit)).memory (.frame (exit.operandForIndex layout index)) =
      m.fpr f - TagTypeNumber := by
  rw [exec_constantsStep_home hi fun _ => (nomatch ·), ← exec_stepsBefore_fpr hT hi]
  by_cases hp : (classify exit).isPoisoned exit index
  · obtain ⟨hv, hpv⟩ := isVariable_of_isPoisoned hp
    have hvar := OSRExit.mem_variables_enum hi hv
    have hlt : countBefore (drains (classify exit)) exit.variableRecoveries.enum (exit.variableForIndex index) <
        (classify exit).numberOfPoisonedVirtualRegisters := by
      rw [← (classifiedAs_classify exit).countP_poisoned]
      exact countBefore_lt hvar (by simp [drains, hpv, ValueRecovery.isInRegister])
    have hcount : countBefore (drains (classify exit)) exit.variableRecoveries.enum (exit.variableForIndex index) =
        (dumpGPRs layout exit (classify exit) 0 exit.recoveries.enum).2 +
          countBefore (fprParks exit (classify exit)) exit.recoveries.enum index := by
      rw [countBefore_drains_of_isInFPR hord hvar hpv rfl, ← countBefore_isPoisoned, OSRExit.variableForIndex,
        Nat.add_sub_cancel' hv, (dumpGPRs_scratch layout exit _ _ _).2, Nat.zero_add,
        ← countP_isPoisoned_enum exit (classify exit) fun _ r => r.isInGPR]
      rfl
    rw [exec_drainStep_poisoned hi rfl hp, (reshuffleDisplaced_assigns counts layout exit _).2 _ hlt, dumpAddress,
      if_pos hp, hcount]
  · rw [Bool.not_eq_true] at hp
    rw [exec_drainStep_home hi fun _ => hp, exec_reshuffle_home hi fun _ => (nomatch ·)]
    simp only [dumpAddress, hp, Bool.false_eq_true, if_false]

end Recovers

/-! ### Speculation recovery -/

/-- Step 4 skips the register a speculation recovery boxed; when that register already carries the number tag, reboxing
it as well changes nothing. -/
theorem exec_reboxInt32s_some {g : GPRReg} (rs : List ValueRecovery) (m : Machine)
    (hg : m.gpr g ||| m.gpr .tagTypeNumberRegister = m.gpr g) :
    exec m (reboxInt32s (some g) rs) = exec m (reboxInt32s none rs) := by
  induction rs generalizing m with
  | nil => rfl
  | cons r rs ih =>
    cases r with
    | unboxedInt32InGPR g' =>
      by_cases h : g' = g
      · subst h
        have hm : (Op.orPtr .tagTypeNumberRegister g').exec m = m := by simp [Op.exec, Machine.setGPR, hg]
        simp [reboxInt32s, ops, Instr.exec, hm, ih m hg]
      · have ht : ((Op.orPtr .tagTypeNumberRegister g').exec m).gpr .tagTypeNumberRegister =
            m.gpr .tagTypeNumberRegister := by
          by_cases ht : GPRReg.tagTypeNumberRegister = g'
          · subst ht; simp [Op.exec]
          · simp [Op.exec, ht]
        have hg' : ((Op.orPtr .tagTypeNumberRegister g').exec m).gpr g |||
            ((Op.orPtr .tagTypeNumberRegister g').exec m).gpr .tagTypeNumberRegister =
            ((Op.orPtr .tagTypeNumberRegister g').exec m).gpr g := by
          rw [ht]; simpa [Op.exec, Ne.symm h] using hg
        simp only [reboxInt32s, ne_eq, Option.some.injEq, h, not_false_eq_true, if_true, reduceCtorEq, exec_append,
          exec_ops, Op.run_cons, Op.run_nil]
        exact ih _ hg'
    | _ => exact ih m hg

/-- The register a speculation recovery reports as boxed carries the number tag after step 2. -/
theorem osrRecoveryPrePass_boxed {recovery : Option SpeculationRecovery} {g : GPRReg}
    (h : (osrRecoveryPrePass recovery).2 = some g) (m : Machine) :
    (exec m (osrRecoveryPrePass recovery).1).gpr g |||
      (exec m (osrRecoveryPrePass recovery).1).gpr .tagTypeNumberRegister = (exec m (osrRecoveryPrePass recovery).1).gpr g := by
  rcases recovery with _ | ⟨dest, src⟩ | dest <;> simp only [osrRecoveryPrePass, reduceCtorEq, Option.some.injEq] at h
  subst h
  by_cases ht : dest = .tagTypeNumberRegister
  · subst ht; simp [osrRecoveryPrePass, Op.exec]
  · simp [osrRecoveryPrePass, Op.exec, Ne.symm ht, BitVec.or_assoc]

/-- Steps 2 and 4 with a speculation recovery are step 2, then step 4 without one. -/
theorem exec_exit_eq_recovery_append (counts : RegisterCounts) (layout : FrameLayout) (exit : OSRExit)
    (baseline : Baseline) (recovery : Option SpeculationRecovery) (m : Machine) :
    exec m (exitSpeculativeWithOSR counts layout exit baseline recovery) =
      exec (exec m (osrRecoveryPrePass recovery).1) (exitSpeculativeWithOSR counts layout exit baseline none) := by
  have h4 : exec (exec m (osrRecoveryPrePass recovery).1)
      (if (classify exit).haveUnboxedInt32s then reboxInt32s (osrRecoveryPrePass recovery).2 exit.recoveries else []) =
      exec (exec m (osrRecoveryPrePass recovery).1)
        (if (classify exit).haveUnboxedInt32s then reboxInt32s none exit.recoveries else []) := by
    split_ifs
    · cases hb : (osrRecoveryPrePass recovery).2 with
      | none => rfl
      | some g => exact exec_reboxInt32s_some _ _ (osrRecoveryPrePass_boxed hb m)
    · rfl
  simp only [exitSpeculativeWithOSR_eq_steps, exitStepsBeforeReshuffle, exec_append, h4,
    osrRecoveryPrePass.eq_1, exec_nil]

/-- For every exit, every speculation recovery and every machine: running the exit's code is running step 2's recovery
code, then the exit's code without a speculation recovery. Step 4's skipping of the register the recovery boxed is an
optimisation only. -/
theorem exitSpeculativeWithOSR_eq_recovery_then_exit (counts : RegisterCounts) (layout : FrameLayout) (exit : OSRExit)
    (baseline : Baseline) (recovery : Option SpeculationRecovery) (m : Machine) :
    exec m (exitSpeculativeWithOSR counts layout exit baseline recovery) =
      exec (exec m (osrRecoveryPrePass recovery).1) (exitSpeculativeWithOSR counts layout exit baseline none) :=
  exec_exit_eq_recovery_append counts layout exit baseline recovery m

/-- The exit without a speculation recovery restores every home slot. -/
theorem exitSpeculativeWithOSR_none_recovers (counts : RegisterCounts) (layout : FrameLayout) (exit : OSRExit)
    (baseline : Baseline) (m : Machine) (hm : m.Pinned)
    (hnn : ∀ vr, ValueRecovery.displacedInRegisterFile vr ∈ exit.recoveries → 0 ≤ vr)
    (hone : ∀ g, ValueRecovery.unboxedInt32InGPR g ∈ exit.recoveries → ValueRecovery.inGPR g ∉ exit.recoveries)
    (hord : exit.ParksInDrainOrder) :
    ∀ index r, (index, r) ∈ exit.recoveries.enum → ∀ w, r.recoveredValue m (exit.operandForIndex layout index) = some w →
      (exec m (exitSpeculativeWithOSR counts layout exit baseline none)).memory
        (.frame (exit.operandForIndex layout index)) = w := by
  intro index r hi w hw
  rw [exitSpeculativeWithOSR_eq_steps, exec_append, exec_append, exec_append, exec_append, exec_epilogueSteps_home]
  cases r with
  | alreadyInRegisterFile =>
    rw [exec_constantsStep_home hi fun _ => (nomatch ·), exec_drainStep_home hi (nomatch ·),
      exec_reshuffle_home hi fun _ => (nomatch ·), exec_stepsBefore_home hi (nomatch ·)]
    exact Option.some.inj hw
  | inGPR g =>
    rw [exec_steps_home_gpr hm.1 hord (.inl hi), if_neg fun h => hone g h (List.snd_mem_of_mem_enum hi)]
    exact Option.some.inj hw
  | unboxedInt32InGPR g =>
    obtain ⟨v, hv, rfl⟩ := Option.map_eq_some'.1 hw
    rw [exec_steps_home_gpr hm.1 hord (.inr hi), if_pos (List.snd_mem_of_mem_enum hi), encode_of_denote_integer hv]
  | inFPR f =>
    rw [exec_steps_home_fpr hm.1 hord hi, sub_tagTypeNumber]
    exact Option.some.inj hw
  | displacedInRegisterFile vr =>
    rw [exec_constantsStep_home hi fun _ => (nomatch ·), exec_drainStep_home hi (nomatch ·), ← exec_append,
      reshuffleDisplaced_after_steps hnn counts layout none m hi]
    exact Option.some.inj hw
  | constant v =>
    rw [exec_constantsStep_constant hi]
    exact Option.some.inj hw
  | dontKnow => nomatch hw


/-- For every OSR exit and every speculation recovery, on every machine whose number-tag register holds `TagTypeNumber` once
step 2 has run, if the displaced sources are non-negative (the assertion of step 3), no GPR is named both as holding a boxed
value and as holding an unboxed int32, and steps 5 and 7 park the poisoned values in the order step 9 drains them: after the
exit's code, the home slot of every recovery holds the encoded value the recovery stands for on the machine step 2 leaves. -/
theorem exitSpeculativeWithOSR_recovers (counts : RegisterCounts) (layout : FrameLayout) (exit : OSRExit)
    (baseline : Baseline) (recovery : Option SpeculationRecovery) (m : Machine)
    (hm : (exec m (osrRecoveryPrePass recovery).1).Pinned)
    (hnn : ∀ vr, ValueRecovery.displacedInRegisterFile vr ∈ exit.recoveries → 0 ≤ vr)
    (hone : ∀ g, ValueRecovery.unboxedInt32InGPR g ∈ exit.recoveries → ValueRecovery.inGPR g ∉ exit.recoveries)
    (hord : exit.ParksInDrainOrder) :
    ∀ index r, (index, r) ∈ exit.recoveries.enum → ∀ w,
      r.recoveredValue (exec m (osrRecoveryPrePass recovery).1) (exit.operandForIndex layout index) = some w →
      (exec m (exitSpeculativeWithOSR counts layout exit baseline recovery)).memory
        (.frame (exit.operandForIndex layout index)) = w := by
  rw [exec_exit_eq_recovery_append]
  exact exitSpeculativeWithOSR_none_recovers counts layout exit baseline _ hm hnn hone hord

/-- Variable 0 in a GPR and variable 1 in an FPR are both poisoned, as the sources of displaced variables 2 and 3; the GPR
one comes first, so the exit, after undoing a speculative add into GPR 5, restores every home slot. -/
theorem exitSpeculativeWithOSR_recovers_after_add :
    (exec (Machine.atExit (fun _ => 7) (fun _ => 0x3FF8000000000000#64) fun _ => 0)
      (osrRecoveryPrePass (some (.speculativeAdd (.reg 5) (.reg 6)))).1).Pinned ∧
    (∀ vr, ValueRecovery.displacedInRegisterFile vr ∈ (⟨[.alreadyInRegisterFile], [.inGPR (.reg 2), .inFPR ⟨1⟩, .displacedInRegisterFile 0, .displacedInRegisterFile 1,
      .unboxedInt32InGPR (.reg 3), .constant ValueUndefined], some 1, 5⟩ : OSRExit).recoveries → 0 ≤ vr) ∧
    (∀ g, ValueRecovery.unboxedInt32InGPR g ∈ (⟨[.alreadyInRegisterFile], [.inGPR (.reg 2), .inFPR ⟨1⟩, .displacedInRegisterFile 0, .displacedInRegisterFile 1,
      .unboxedInt32InGPR (.reg 3), .constant ValueUndefined], some 1, 5⟩ : OSRExit).recoveries →
      ValueRecovery.inGPR g ∉ (⟨[.alreadyInRegisterFile], [.inGPR (.reg 2), .inFPR ⟨1⟩, .displacedInRegisterFile 0, .displacedInRegisterFile 1,
      .unboxedInt32InGPR (.reg 3), .constant ValueUndefined], some 1, 5⟩ : OSRExit).recoveries) ∧
    (⟨[.alreadyInRegisterFile], [.inGPR (.reg 2), .inFPR ⟨1⟩, .displacedInRegisterFile 0, .displacedInRegisterFile 1,
      .unboxedInt32InGPR (.reg 3), .constant ValueUndefined], some 1, 5⟩ : OSRExit).ParksInDrainOrder ∧
    ∀ index r, (index, r) ∈ (⟨[.alreadyInRegisterFile], [.inGPR (.reg 2), .inFPR ⟨1⟩, .displacedInRegisterFile 0, .displacedInRegisterFile 1,
      .unboxedInt32InGPR (.reg 3), .constant ValueUndefined], some 1, 5⟩ : OSRExit).recoveries.enum → ∀ w,
      r.recoveredValue (exec (Machine.atExit (fun _ => 7) (fun _ => 0x3FF8000000000000#64) fun _ => 0)
          (osrRecoveryPrePass (some (.speculativeAdd (.reg 5) (.reg 6)))).1)
        ((⟨[.alreadyInRegisterFile], [.inGPR (.reg 2), .inFPR ⟨1⟩, .displacedInRegisterFile 0, .displacedInRegisterFile 1,
      .unboxedInt32InGPR (.reg 3), .constant ValueUndefined], some 1, 5⟩ : OSRExit).operandForIndex .standard index) = some w →
      (exec (Machine.atExit (fun _ => 7) (fun _ => 0x3FF8000000000000#64) fun _ => 0)
        (exitSpeculativeWithOSR ⟨4, 2, by decide, by decide⟩ .standard ⟨[.alreadyInRegisterFile], [.inGPR (.reg 2), .inFPR ⟨1⟩, .displacedInRegisterFile 0, .displacedInRegisterFile 1,
      .unboxedInt32InGPR (.reg 3), .constant ValueUndefined], some 1, 5⟩ ⟨0x1000, 0, 0x2000, [(5, 16)]⟩
          (some (.speculativeAdd (.reg 5) (.reg 6))))).memory
        (.frame ((⟨[.alreadyInRegisterFile], [.inGPR (.reg 2), .inFPR ⟨1⟩, .displacedInRegisterFile 0, .displacedInRegisterFile 1,
      .unboxedInt32InGPR (.reg 3), .constant ValueUndefined], some 1, 5⟩ : OSRExit).operandForIndex .standard index)) = w :=
  have hm : (exec (Machine.atExit (fun _ => 7) (fun _ => 0x3FF8000000000000#64) fun _ => 0)
      (osrRecoveryPrePass (some (.speculativeAdd (.reg 5) (.reg 6)))).1).Pinned := ⟨by decide, by decide⟩
  have hnn : ∀ vr, ValueRecovery.displacedInRegisterFile vr ∈ (⟨[.alreadyInRegisterFile], [.inGPR (.reg 2), .inFPR ⟨1⟩, .displacedInRegisterFile 0, .displacedInRegisterFile 1,
      .unboxedInt32InGPR (.reg 3), .constant ValueUndefined], some 1, 5⟩ : OSRExit).recoveries → 0 ≤ vr := fun vr h => by
    simp [OSRExit.recoveries] at h
    omega
  have hone : ∀ g, ValueRecovery.unboxedInt32InGPR g ∈ (⟨[.alreadyInRegisterFile], [.inGPR (.reg 2), .inFPR ⟨1⟩, .displacedInRegisterFile 0, .displacedInRegisterFile 1,
      .unboxedInt32InGPR (.reg 3), .constant ValueUndefined], some 1, 5⟩ : OSRExit).recoveries →
      ValueRecovery.inGPR g ∉ (⟨[.alreadyInRegisterFile], [.inGPR (.reg 2), .inFPR ⟨1⟩, .displacedInRegisterFile 0, .displacedInRegisterFile 1,
      .unboxedInt32InGPR (.reg 3), .constant ValueUndefined], some 1, 5⟩ : OSRExit).recoveries := fun g h => by
    simp [OSRExit.recoveries] at h
    simp [OSRExit.recoveries, h]
  have hord : (⟨[.alreadyInRegisterFile], [.inGPR (.reg 2), .inFPR ⟨1⟩, .displacedInRegisterFile 0, .displacedInRegisterFile 1,
      .unboxedInt32InGPR (.reg 3), .constant ValueUndefined], some 1, 5⟩ : OSRExit).ParksInDrainOrder := by decide
  ⟨hm, hnn, hone, hord, exitSpeculativeWithOSR_recovers _ _ _ _ _ _ hm hnn hone hord⟩

namespace OSRExit

variable {layout : FrameLayout} {exit : OSRExit}

/-- A variable's recovery, at its index among all recoveries. -/
theorem mem_recoveries_enum_of_variable {v : Nat} {r : ValueRecovery} (h : (v, r) ∈ exit.variableRecoveries.enum) :
    (exit.argumentRecoveries.length + v, r) ∈ exit.recoveries.enum := by
  rw [List.mem_enum_iff_getElem?, recoveries, List.getElem?_append_right (Nat.le_add_right _ _), Nat.add_sub_cancel_left]
  exact List.mem_enum_iff_getElem?.1 h

/-- Variable `v`'s home slot is slot `v`. -/
theorem operandForIndex_add (v : Nat) : exit.operandForIndex layout (exit.argumentRecoveries.length + v) = v := by
  rw [operandForIndex_of_le (Nat.le_add_right _ _), variableForIndex, Nat.add_sub_cancel_left]

end OSRExit

/-- For every exit, every speculation recovery and every machine: the exit's code leaves every frame slot that is neither
the home slot of one of the exit's recoveries nor the code block's slot as it was. -/
theorem exitSpeculativeWithOSR_keeps_other_slots (counts : RegisterCounts) (layout : FrameLayout) (exit : OSRExit)
    (baseline : Baseline) (recovery : Option SpeculationRecovery) (m : Machine) (x : Int)
    (hx : ∀ index < exit.numberOfRecoveries, exit.operandForIndex layout index ≠ x) (hcb : x ≠ layout.codeBlockSlot) :
    (exec m (exitSpeculativeWithOSR counts layout exit baseline recovery)).memory (.frame x) = m.memory (.frame x) := by
  have hx' : ∀ index r, (index, r) ∈ exit.recoveries.enum → exit.operandForIndex layout index ≠ x :=
    fun index _ h => hx index (List.fst_lt_of_mem_enum h)
  have hdrain : ∀ v r, (v, r) ∈ exit.variableRecoveries.enum → drains (classify exit) (v, r) → (v : Int) ≠ x :=
    fun v r h _ => @OSRExit.operandForIndex_add layout exit v ▸ hx' _ r (OSRExit.mem_recoveries_enum_of_variable h)
  rw [exitSpeculativeWithOSR_eq_steps]
  simp only [exec_append]
  rw [exec_memory_of_not_mem (epilogueSteps_keeps layout exit baseline hcb),
    exec_memory_of_not_mem (constantsStep_keeps fun index _ h => hx' index _ h),
    exec_memory_of_not_mem (drainStep_keeps hdrain),
    (reshuffleDisplaced_assigns counts layout exit _).1.2 x fun i _ h => hx' i _ h,
    exec_memory_of_not_mem (exitStepsBeforeReshuffle_keeps_frame layout recovery fun index r h _ _ => hx' index r h)]

/-- No recovery of an exit with one argument and four variables has slot 100 as its home, and it is not the code block's:
the exit leaves it alone. -/
theorem exitSpeculativeWithOSR_keeps_slot_100 :
    (∀ index < (⟨[.alreadyInRegisterFile], [.inGPR (.reg 2), .inFPR ⟨1⟩, .displacedInRegisterFile 0,
      .displacedInRegisterFile 1], some 1, 5⟩ : OSRExit).numberOfRecoveries,
      (⟨[.alreadyInRegisterFile], [.inGPR (.reg 2), .inFPR ⟨1⟩, .displacedInRegisterFile 0, .displacedInRegisterFile 1],
        some 1, 5⟩ : OSRExit).operandForIndex .standard index ≠ 100) ∧
    (100 : Int) ≠ FrameLayout.standard.codeBlockSlot ∧
    (exec (Machine.atExit (fun _ => 7) (fun _ => 0x3FF8000000000000#64) fun _ => 3)
      (exitSpeculativeWithOSR ⟨4, 2, by decide, by decide⟩ .standard
        ⟨[.alreadyInRegisterFile], [.inGPR (.reg 2), .inFPR ⟨1⟩, .displacedInRegisterFile 0, .displacedInRegisterFile 1],
          some 1, 5⟩ ⟨0x1000, 0, 0x2000, [(5, 16)]⟩ none)).memory (.frame 100) =
      (Machine.atExit (fun _ => 7) (fun _ => 0x3FF8000000000000#64) fun _ => 3).memory (.frame 100) :=
  have hx : ∀ index < (⟨[.alreadyInRegisterFile], [.inGPR (.reg 2), .inFPR ⟨1⟩, .displacedInRegisterFile 0,
      .displacedInRegisterFile 1], some 1, 5⟩ : OSRExit).numberOfRecoveries,
      (⟨[.alreadyInRegisterFile], [.inGPR (.reg 2), .inFPR ⟨1⟩, .displacedInRegisterFile 0, .displacedInRegisterFile 1],
        some 1, 5⟩ : OSRExit).operandForIndex .standard index ≠ 100 := by decide
  ⟨hx, by decide, exitSpeculativeWithOSR_keeps_other_slots _ _ _ _ _ _ _ hx (by decide)⟩

/-- For every OSR exit whose last set operand is the home slot of one of its recoveries, under the hypotheses of the
recovery theorem: the baseline code finds in `cachedResultRegister` (regT0) the value that recovery stands for, since step 12
loads the slot after steps 5 to 10 have written it. -/
theorem exitSpeculativeWithOSR_caches_last_result (counts : RegisterCounts) (layout : FrameLayout) (exit : OSRExit)
    (baseline : Baseline) (recovery : Option SpeculationRecovery) (m : Machine)
    (hm : (exec m (osrRecoveryPrePass recovery).1).Pinned)
    (hnn : ∀ vr, ValueRecovery.displacedInRegisterFile vr ∈ exit.recoveries → 0 ≤ vr)
    (hone : ∀ g, ValueRecovery.unboxedInt32InGPR g ∈ exit.recoveries → ValueRecovery.inGPR g ∉ exit.recoveries)
    (hord : exit.ParksInDrainOrder) {index : Nat} {r : ValueRecovery} (hi : (index, r) ∈ exit.recoveries.enum)
    (hlast : exit.lastSetOperand = some (exit.operandForIndex layout index)) {w : Word}
    (hw : r.recoveredValue (exec m (osrRecoveryPrePass recovery).1) (exit.operandForIndex layout index) = some w) :
    (exec m (exitSpeculativeWithOSR counts layout exit baseline recovery)).gpr regT0 = w := by
  rw [exec_exit_eq_recovery_append, exitSpeculativeWithOSR_eq_steps, exec_append,
    exec_epilogueSteps_cachedResult hlast (OSRExit.operandForIndex_ne_codeBlockSlot index), ← exec_append,
    ← exitSpeculativeWithOSR_eq_steps]
  exact exitSpeculativeWithOSR_none_recovers counts layout exit baseline _ hm hnn hone hord index r hi w hw

/-- The last set operand is variable 0, held in an FPR, whose home slot is the source of displaced variable 1: the value
parked in the scratch buffer and drained back in step 9 is the one regT0 gets. -/
theorem exitSpeculativeWithOSR_caches_drained_double :
    (exec (Machine.atExit (fun _ => 7) (fun _ => 0x3FF8000000000000#64) fun _ => 3) (osrRecoveryPrePass none).1).Pinned ∧
    (∀ vr, ValueRecovery.displacedInRegisterFile vr ∈ (⟨[], [.inFPR ⟨1⟩, .displacedInRegisterFile 0], some 0, 5⟩ : OSRExit).recoveries → 0 ≤ vr) ∧
    (∀ g, ValueRecovery.unboxedInt32InGPR g ∈ (⟨[], [.inFPR ⟨1⟩, .displacedInRegisterFile 0], some 0, 5⟩ : OSRExit).recoveries → ValueRecovery.inGPR g ∉ (⟨[], [.inFPR ⟨1⟩, .displacedInRegisterFile 0], some 0, 5⟩ : OSRExit).recoveries) ∧
    (⟨[], [.inFPR ⟨1⟩, .displacedInRegisterFile 0], some 0, 5⟩ : OSRExit).ParksInDrainOrder ∧
    (0, ValueRecovery.inFPR ⟨1⟩) ∈ (⟨[], [.inFPR ⟨1⟩, .displacedInRegisterFile 0], some 0, 5⟩ : OSRExit).recoveries.enum ∧
    (⟨[], [.inFPR ⟨1⟩, .displacedInRegisterFile 0], some 0, 5⟩ : OSRExit).lastSetOperand = some ((⟨[], [.inFPR ⟨1⟩, .displacedInRegisterFile 0], some 0, 5⟩ : OSRExit).operandForIndex .standard 0) ∧
    (ValueRecovery.inFPR ⟨1⟩).recoveredValue (exec (Machine.atExit (fun _ => 7) (fun _ => 0x3FF8000000000000#64) fun _ => 3) (osrRecoveryPrePass none).1)
      ((⟨[], [.inFPR ⟨1⟩, .displacedInRegisterFile 0], some 0, 5⟩ : OSRExit).operandForIndex .standard 0) = some (JSValue.encode (.double 0x3FF8000000000000#64)) ∧
    (exec (Machine.atExit (fun _ => 7) (fun _ => 0x3FF8000000000000#64) fun _ => 3) (exitSpeculativeWithOSR ⟨4, 2, by decide, by decide⟩ .standard (⟨[], [.inFPR ⟨1⟩, .displacedInRegisterFile 0], some 0, 5⟩ : OSRExit)
      ⟨0x1000, 0, 0x2000, [(5, 16)]⟩ none)).gpr regT0 = JSValue.encode (.double 0x3FF8000000000000#64) :=
  have hm : (exec (Machine.atExit (fun _ => 7) (fun _ => 0x3FF8000000000000#64) fun _ => 3) (osrRecoveryPrePass none).1).Pinned := ⟨by decide, by decide⟩
  have hnn : ∀ vr, ValueRecovery.displacedInRegisterFile vr ∈ (⟨[], [.inFPR ⟨1⟩, .displacedInRegisterFile 0], some 0, 5⟩ : OSRExit).recoveries → 0 ≤ vr := fun vr h => by
    simp [OSRExit.recoveries] at h
    omega
  have hone : ∀ g, ValueRecovery.unboxedInt32InGPR g ∈ (⟨[], [.inFPR ⟨1⟩, .displacedInRegisterFile 0], some 0, 5⟩ : OSRExit).recoveries → ValueRecovery.inGPR g ∉ (⟨[], [.inFPR ⟨1⟩, .displacedInRegisterFile 0], some 0, 5⟩ : OSRExit).recoveries :=
    fun g h => by simp [OSRExit.recoveries] at h
  have hord : (⟨[], [.inFPR ⟨1⟩, .displacedInRegisterFile 0], some 0, 5⟩ : OSRExit).ParksInDrainOrder := by decide
  have hi : (0, ValueRecovery.inFPR ⟨1⟩) ∈ (⟨[], [.inFPR ⟨1⟩, .displacedInRegisterFile 0], some 0, 5⟩ : OSRExit).recoveries.enum := by decide
  have hlast : (⟨[], [.inFPR ⟨1⟩, .displacedInRegisterFile 0], some 0, 5⟩ : OSRExit).lastSetOperand = some ((⟨[], [.inFPR ⟨1⟩, .displacedInRegisterFile 0], some 0, 5⟩ : OSRExit).operandForIndex .standard 0) := by decide
  have hw : (ValueRecovery.inFPR ⟨1⟩).recoveredValue (exec (Machine.atExit (fun _ => 7) (fun _ => 0x3FF8000000000000#64) fun _ => 3) (osrRecoveryPrePass none).1)
      ((⟨[], [.inFPR ⟨1⟩, .displacedInRegisterFile 0], some 0, 5⟩ : OSRExit).operandForIndex .standard 0) = some (JSValue.encode (.double 0x3FF8000000000000#64)) := rfl
  ⟨hm, hnn, hone, hord, hi, hlast, hw,
    exitSpeculativeWithOSR_caches_last_result _ _ _ _ _ _ hm hnn hone hord hi hlast hw⟩

end JavaScriptCore
