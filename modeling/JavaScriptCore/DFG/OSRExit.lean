import JavaScriptCore.DFG.JITCompiler

/-!
# `exitSpeculativeWithOSR`

The OSR exit of DFGJITCompiler.cpp, as the code it emits. An `OSRExit` gives, for each argument and each variable of the
baseline frame, a `ValueRecovery`: where the value is now. The exit writes every value to its home slot in the frame and
jumps into the baseline code. Three things make it more than a loop of stores:

* a variable's home slot may be the source of a displaced value (`DisplacedInRegisterFile`) that has not been read yet; such
  a slot is *poisoned*, and a register value bound for it is parked in the scratch buffer until step 9;
* the displaced values may permute slots among themselves, so step 8 reads them all before writing any;
* doubles are boxed through the GPRs, which step 5 has freed.

The frame layout of the arguments and the header (RegisterFile.h), the decoded bytecode map and the baseline code block are
read-only views the sources consume and do not contain.
-/

namespace JavaScriptCore

/-- `ValueRecovery`, by technique. A constant is its encoding. -/
inductive ValueRecovery where
  | alreadyInRegisterFile
  | inGPR (gpr : GPRReg)
  | unboxedInt32InGPR (gpr : GPRReg)
  | inFPR (fpr : FPRReg)
  | displacedInRegisterFile (virtualRegister : Int)
  | constant (value : Word)
  | dontKnow
  deriving DecidableEq, Repr

/-- Whether the recovery is in a register (`InGPR`, `UnboxedInt32InGPR`, `InFPR`): the techniques step 3 poisons. -/
def ValueRecovery.isInRegister : ValueRecovery → Bool
  | .inGPR _ | .unboxedInt32InGPR _ | .inFPR _ => true
  | _ => false

/-- `OSRExit`: the recoveries of the arguments and the variables, the last operand set (`numeric_limits<int>::max()` is
`none`) and the bytecode index to resume at. -/
structure OSRExit where
  argumentRecoveries : List ValueRecovery
  variableRecoveries : List ValueRecovery
  lastSetOperand : Option Int
  bytecodeIndex : Nat

/-- Modelled from the spec: the canonical call-frame layout the baseline code expects (RegisterFile.h and
`argumentToOperand`, absent from the sources): variables at their own index, arguments and the header below them. -/
structure FrameLayout where
  argumentToOperand : Nat → Int
  codeBlockSlot : Int
  argument_lt_zero : ∀ i, argumentToOperand i < 0
  argument_injective : Function.Injective argumentToOperand
  codeBlock_lt_zero : codeBlockSlot < 0
  codeBlock_ne_argument : ∀ i, argumentToOperand i ≠ codeBlockSlot

/-- Modelled from the spec: the layout of RegisterFile.h in this version, six header slots below the variables, the code block
in the lowest, `this` and the arguments below them. -/
def FrameLayout.standard : FrameLayout where
  argumentToOperand i := -7 - (i : Int)
  codeBlockSlot := -6
  argument_lt_zero i := by dsimp only; omega
  argument_injective a b h := by dsimp only at h; omega
  codeBlock_lt_zero := by decide
  codeBlock_ne_argument i := by dsimp only; omega

/-- Modelled from the spec: what the exit reads of the baseline code block (`codeBlock()->alternative()`): its address, the
warm-up value of its execute counter, the start of its machine code, and its decoded bytecode-to-machine-offset map. -/
structure Baseline where
  codeBlock : Word
  counterValueForOptimizeAfterWarmUp : BitVec 32
  codeStart : Word
  decodedCodeMap : List (Nat × Nat)

namespace OSRExit

variable (layout : FrameLayout) (exit : OSRExit)

/-- The recoveries in index order: arguments, then variables (`valueRecovery(index)`). -/
def recoveries : List ValueRecovery := exit.argumentRecoveries ++ exit.variableRecoveries

/-- `numberOfRecoveries`. -/
def numberOfRecoveries : Nat := exit.recoveries.length

/-- `isVariable`. -/
def isVariable (index : Nat) : Bool := exit.argumentRecoveries.length ≤ index

/-- `variableForIndex`. -/
def variableForIndex (index : Nat) : Nat := index - exit.argumentRecoveries.length

/-- `operandForIndex`. -/
def operandForIndex (index : Nat) : Int :=
  if index < exit.argumentRecoveries.length then layout.argumentToOperand index
  else (index - exit.argumentRecoveries.length : Nat)

end OSRExit

/-- The classification of step 3: the poisoned variables, the counts and the fast-path flags. -/
structure OSRClassification where
  poisonedVirtualRegisters : Nat → Bool
  numberOfPoisonedVirtualRegisters : Nat
  numberOfDisplacedVirtualRegisters : Nat
  haveUnboxedInt32s : Bool
  haveFPRs : Bool
  haveConstants : Bool
  haveUndefined : Bool

section OSR

variable (counts : RegisterCounts) (layout : FrameLayout) (exit : OSRExit)

/-- Step 2: perform speculation recovery; a reverted add leaves `dest` boxed (`alreadyBoxed`). -/
def osrRecoveryPrePass : Option SpeculationRecovery → List Instr × Option GPRReg
  | none => ([], none)
  | some (.speculativeAdd dest src) => (ops [.sub32 src dest, .orPtr .tagTypeNumberRegister dest], some dest)
  | some (.booleanSpeculationCheck dest) => (ops [.xorPtr (ValueFalse.setWidth 32) dest], none)

/-- Step 3, loop body: count the displaced values and poison the home slot of a register-held variable that is the source of
one (a negative source violates the source's assertion), and set the fast-path flags. -/
def classifyRecovery (c : OSRClassification) : ValueRecovery → OSRClassification
  | .displacedInRegisterFile vr =>
    let c := { c with numberOfDisplacedVirtualRegisters := c.numberOfDisplacedVirtualRegisters + 1 }
    if vr < exit.variableRecoveries.length ∧ (exit.variableRecoveries.getD vr.toNat .dontKnow).isInRegister ∧
        !c.poisonedVirtualRegisters vr.toNat then
      { c with poisonedVirtualRegisters := Function.update c.poisonedVirtualRegisters vr.toNat true,
               numberOfPoisonedVirtualRegisters := c.numberOfPoisonedVirtualRegisters + 1 }
    else c
  | .unboxedInt32InGPR _ => { c with haveUnboxedInt32s := true }
  | .inFPR _ => { c with haveFPRs := true }
  | .constant v => { c with haveConstants := true, haveUndefined := c.haveUndefined || v == ValueUndefined }
  | _ => c

/-- Step 3. -/
def classify : OSRClassification :=
  exit.recoveries.foldl (classifyRecovery exit) ⟨fun _ => false, 0, 0, false, false, false, false⟩

/-- `scratchBuffer`'s size, in values. -/
def OSRClassification.scratchBufferSize (c : OSRClassification) : Nat :=
  c.numberOfPoisonedVirtualRegisters +
    (if c.numberOfDisplacedVirtualRegisters ≤ counts.gprs then 0 else c.numberOfDisplacedVirtualRegisters)

/-- Whether the recovery at `index` is bound for a poisoned variable. -/
def OSRClassification.isPoisoned (c : OSRClassification) (index : Nat) : Bool :=
  exit.isVariable index && c.poisonedVirtualRegisters (exit.variableForIndex index)

/-- Step 4: rebox the unboxed int32s, except the one the recovery already boxed. -/
def reboxInt32s (alreadyBoxed : Option GPRReg) : List ValueRecovery → List Instr
  | [] => []
  | .unboxedInt32InGPR g :: rs =>
    (if some g ≠ alreadyBoxed then ops [.orPtr .tagTypeNumberRegister g] else []) ++ reboxInt32s alreadyBoxed rs
  | _ :: rs => reboxInt32s alreadyBoxed rs

/-- Step 5: dump the GPRs to their home slots, or, for a poisoned variable, to the next scratch index. Returns the code and
the scratch index after it. -/
def dumpGPRs (c : OSRClassification) : Nat → List (Nat × ValueRecovery) → List Instr × Nat
  | scratchIndex, [] => ([], scratchIndex)
  | scratchIndex, (index, r) :: rs =>
    let dump (g : GPRReg) : List Instr × Nat :=
      if c.isPoisoned exit index then
        let rest := dumpGPRs c (scratchIndex + 1) rs
        (ops [.storePtr g (.scratchBuffer scratchIndex)] ++ rest.1, rest.2)
      else
        let rest := dumpGPRs c scratchIndex rs
        (ops [.storePtr g (.frame (exit.operandForIndex layout index))] ++ rest.1, rest.2)
    match r with
    | .inGPR g | .unboxedInt32InGPR g => dump g
    | _ => dumpGPRs c scratchIndex rs

/-- Step 6: box each FPR into the GPR of the same index. -/
def boxFPRs : List ValueRecovery → List Instr
  | [] => []
  | .inFPR f :: rs => ops (boxDouble f (.reg f.index)) ++ boxFPRs rs
  | _ :: rs => boxFPRs rs

/-- Step 7: dump the boxed doubles, to the home slot or, for a poisoned variable, to the next scratch index. -/
def dumpFPRs (c : OSRClassification) : Nat → List (Nat × ValueRecovery) → List Instr × Nat
  | scratchIndex, [] => ([], scratchIndex)
  | scratchIndex, (index, .inFPR f) :: rs =>
    if c.isPoisoned exit index then
      let rest := dumpFPRs c (scratchIndex + 1) rs
      (ops [.storePtr (.reg f.index) (.scratchBuffer scratchIndex)] ++ rest.1, rest.2)
    else
      let rest := dumpFPRs c scratchIndex rs
      (ops [.storePtr (.reg f.index) (.frame (exit.operandForIndex layout index))] ++ rest.1, rest.2)
  | scratchIndex, _ :: rs => dumpFPRs c scratchIndex rs

/-- Step 8, register-staged: load every displaced source into consecutive GPRs. -/
def loadDisplaced : Nat → List ValueRecovery → List Instr
  | _, [] => []
  | k, .displacedInRegisterFile vr :: rs => ops [.loadPtr (.frame vr) (.reg k)] ++ loadDisplaced (k + 1) rs
  | k, _ :: rs => loadDisplaced k rs

/-- Step 8, register-staged: store them to their targets. -/
def storeDisplaced : Nat → List (Nat × ValueRecovery) → List Instr
  | _, [] => []
  | k, (index, .displacedInRegisterFile _) :: rs =>
    ops [.storePtr (.reg k) (.frame (exit.operandForIndex layout index))] ++ storeDisplaced (k + 1) rs
  | k, _ :: rs => storeDisplaced k rs

/-- Step 8, buffer-staged: copy every displaced source to the scratch buffer from `scratchIndex` on. -/
def saveDisplaced : Nat → List ValueRecovery → List Instr
  | _, [] => []
  | s, .displacedInRegisterFile vr :: rs =>
    ops [.loadPtr (.frame vr) regT0, .storePtr regT0 (.scratchBuffer s)] ++ saveDisplaced (s + 1) rs
  | s, _ :: rs => saveDisplaced s rs

/-- Step 8, buffer-staged: copy them from the scratch buffer to their targets. -/
def restoreDisplaced : Nat → List (Nat × ValueRecovery) → List Instr
  | _, [] => []
  | s, (index, .displacedInRegisterFile _) :: rs =>
    ops [.loadPtr (.scratchBuffer s) regT0, .storePtr regT0 (.frame (exit.operandForIndex layout index))] ++
      restoreDisplaced (s + 1) rs
  | s, _ :: rs => restoreDisplaced s rs

/-- Step 8. -/
def reshuffleDisplaced (c : OSRClassification) (scratchIndex : Nat) : List Instr :=
  if c.numberOfDisplacedVirtualRegisters = 0 then []
  else if c.numberOfDisplacedVirtualRegisters ≤ counts.gprs then
    loadDisplaced 0 exit.recoveries ++ storeDisplaced layout exit 0 exit.recoveries.enum
  else
    saveDisplaced scratchIndex exit.recoveries ++
      restoreDisplaced layout exit c.numberOfPoisonedVirtualRegisters exit.recoveries.enum

/-- Step 9: drain the scratch buffer into the poisoned variables, in variable order. -/
def drainPoisoned (c : OSRClassification) : Nat → List (Nat × ValueRecovery) → List Instr
  | _, [] => []
  | s, (vr, r) :: rs =>
    if c.poisonedVirtualRegisters vr && r.isInRegister then
      ops [.loadPtr (.scratchBuffer s) regT0, .storePtr regT0 (.frame vr)] ++ drainPoisoned c (s + 1) rs
    else drainPoisoned c s rs

/-- Step 10: the constants, `undefined` through `regT0`. -/
def dumpConstants : List (Nat × ValueRecovery) → List Instr
  | [] => []
  | (index, .constant v) :: rs =>
    ops [if v = ValueUndefined then .storePtr regT0 (.frame (exit.operandForIndex layout index))
      else .storeImmPtr v (.frame (exit.operandForIndex layout index))] ++ dumpConstants rs
  | _ :: rs => dumpConstants rs

/-- The jump target of step 14: the machine offset the decoded map gives the exit's bytecode index (`binarySearch`), past
the start of the baseline code. -/
def osrJumpTarget (baseline : Baseline) : Option Word :=
  (baseline.decodedCodeMap.find? (·.1 == exit.bytecodeIndex)).map fun e => baseline.codeStart + BitVec.ofNat 64 e.2

/-- `exitSpeculativeWithOSR`: the code emitted from the link of the exit's jump, steps 2 to 14 (the final `jump(regT1)`
itself left out). -/
def exitSpeculativeWithOSR (baseline : Baseline) (recovery : Option SpeculationRecovery) : List Instr :=
  let (step2, alreadyBoxed) := osrRecoveryPrePass recovery
  let c := classify exit
  let step4 := if c.haveUnboxedInt32s then reboxInt32s alreadyBoxed exit.recoveries else []
  let step5 := dumpGPRs layout exit c 0 exit.recoveries.enum
  let step67 := if c.haveFPRs then boxFPRs exit.recoveries ++ (dumpFPRs layout exit c step5.2 exit.recoveries.enum).1
    else []
  let scratchIndex := if c.haveFPRs then (dumpFPRs layout exit c step5.2 exit.recoveries.enum).2 else step5.2
  let step8 := reshuffleDisplaced counts layout exit c scratchIndex
  let step9 := if c.numberOfPoisonedVirtualRegisters = 0 then [] else drainPoisoned c 0 exit.variableRecoveries.enum
  let step10 := if c.haveConstants then
      (if c.haveUndefined then ops [.moveImmPtr ValueUndefined regT0] else []) ++ dumpConstants layout exit exit.recoveries.enum
    else []
  let step11 := ops [.store32 baseline.counterValueForOptimizeAfterWarmUp .executeCounter]
  let step12 := match exit.lastSetOperand with
    | some operand => ops [.loadPtr (.frame operand) regT0]
    | none => []
  let step13 := ops [.storeImmPtr baseline.codeBlock (.frame layout.codeBlockSlot)]
  let step14 := ops [.moveImmPtr ((osrJumpTarget exit baseline).getD 0) regT1]
  step2 ++ step4 ++ step5.1 ++ step67 ++ step8 ++ step9 ++ step10 ++ step11 ++ step12 ++ step13 ++ step14

end OSR

end JavaScriptCore
