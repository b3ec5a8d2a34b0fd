import JavaScriptCore.Value

/-!
# The machine the emitted code runs on

Both exit paths are code generators: they append macro-assembler operations to the JIT's buffer, and the theorems are about what
that code does when it runs. Here are the registers and memory (`Machine`), the operations the generators use (`Op`), the two
branching sequences they emit (`Instr`), and the meaning of a code sequence (`exec`).

`GPRReg.reg i` is `GPRInfo::toRegister(i)`, the `i`-th allocatable register; the two reserved registers the code names stand
beside them. Memory is addressed by frame slot (`addressFor(virtualRegister)`), by index in the OSR scratch buffer, or is the
baseline code block's execute counter. 32-bit operations zero-extend their result, as on x86-64.
-/

namespace JavaScriptCore

/-- A general-purpose register: `GPRInfo::toRegister(index)`, or one of the reserved registers. -/
inductive GPRReg where
  | reg (index : Nat)
  | tagTypeNumberRegister
  | tagMaskRegister
  deriving DecidableEq, Repr

/-- Whether a GPR is one of the allocatable registers `GPRInfo::toRegister(index)`, not a reserved one. -/
def GPRReg.isAllocatable : GPRReg → Bool
  | .reg _ => true
  | _ => false

/-- A floating-point register: `FPRInfo::toRegister(index)`. -/
structure FPRReg where
  index : Nat
  deriving DecidableEq, Repr

/-- Modelled from the spec: `GPRInfo::regT0`, the first allocatable register, which is also `cachedResultRegister`. -/
def regT0 : GPRReg := .reg 0

/-- Modelled from the spec: `GPRInfo::regT1`. -/
def regT1 : GPRReg := .reg 1

/-- A memory word the emitted code reads or writes. -/
inductive Address where
  | frame (operand : Int)
  | scratchBuffer (index : Nat)
  | executeCounter
  deriving DecidableEq, Repr

/-- Registers and memory. -/
structure Machine where
  gpr : GPRReg → Word
  fpr : FPRReg → Word
  memory : Address → Word

namespace Machine

/-- Write a GPR. -/
def setGPR (m : Machine) (r : GPRReg) (w : Word) : Machine := { m with gpr := Function.update m.gpr r w }

/-- Write an FPR. -/
def setFPR (m : Machine) (r : FPRReg) (w : Word) : Machine := { m with fpr := Function.update m.fpr r w }

/-- Write a memory word. -/
def store (m : Machine) (a : Address) (w : Word) : Machine := { m with memory := Function.update m.memory a w }

@[simp] theorem setGPR_gpr (m : Machine) (r s : GPRReg) (w : Word) :
    (m.setGPR r w).gpr s = if s = r then w else m.gpr s := Function.update_apply _ _ _ _
@[simp] theorem setGPR_fpr (m : Machine) (r : GPRReg) (w : Word) : (m.setGPR r w).fpr = m.fpr := rfl
@[simp] theorem setGPR_memory (m : Machine) (r : GPRReg) (w : Word) : (m.setGPR r w).memory = m.memory := rfl
@[simp] theorem setFPR_fpr (m : Machine) (r s : FPRReg) (w : Word) :
    (m.setFPR r w).fpr s = if s = r then w else m.fpr s := Function.update_apply _ _ _ _
@[simp] theorem setFPR_gpr (m : Machine) (r : FPRReg) (w : Word) : (m.setFPR r w).gpr = m.gpr := rfl
@[simp] theorem setFPR_memory (m : Machine) (r : FPRReg) (w : Word) : (m.setFPR r w).memory = m.memory := rfl
@[simp] theorem store_memory (m : Machine) (a b : Address) (w : Word) :
    (m.store a w).memory b = if b = a then w else m.memory b := Function.update_apply _ _ _ _
@[simp] theorem store_gpr (m : Machine) (a : Address) (w : Word) : (m.store a w).gpr = m.gpr := rfl
@[simp] theorem store_fpr (m : Machine) (a : Address) (w : Word) : (m.store a w).fpr = m.fpr := rfl
@[simp] theorem setGPR_self (m : Machine) (r : GPRReg) : m.setGPR r (m.gpr r) = m := by
  simp [setGPR]
@[simp] theorem setGPR_setGPR_same (m : Machine) (r : GPRReg) (a b : Word) : (m.setGPR r a).setGPR r b = m.setGPR r b := by
  simp [setGPR]

/-- The runtime's invariant at every exit: the reserved registers hold their constants. -/
def Pinned (m : Machine) : Prop := m.gpr .tagTypeNumberRegister = TagTypeNumber ∧ m.gpr .tagMaskRegister = TagMask

/-- A machine at an exit, from the contents of the allocatable GPRs, the FPRs and memory: the reserved registers hold their
constants. -/
def atExit (gprs fprs : Nat → Word) (memory : Address → Word) : Machine where
  gpr
    | .reg i => gprs i
    | .tagTypeNumberRegister => TagTypeNumber
    | .tagMaskRegister => TagMask
  fpr f := fprs f.index
  memory := memory

theorem atExit_pinned (gprs fprs : Nat → Word) (memory : Address → Word) : (atExit gprs fprs memory).Pinned :=
  ⟨rfl, rfl⟩

end Machine

/-- A straight-line macro-assembler operation (MacroAssemblerX86_64). -/
inductive Op where
  | move (src dest : GPRReg)
  | moveImmPtr (imm : Word) (dest : GPRReg)
  | moveImm32 (imm : BitVec 32) (dest : GPRReg)
  | orPtr (src dest : GPRReg)
  | orPtr3 (op1 op2 dest : GPRReg)
  | xorPtr (imm : BitVec 32) (dest : GPRReg)
  | addPtr (src dest : GPRReg)
  | subPtr (src dest : GPRReg)
  | sub32 (src dest : GPRReg)
  | zeroExtend32ToPtr (src dest : GPRReg)
  | swap (a b : GPRReg)
  | loadPtr (a : Address) (dest : GPRReg)
  | load32 (a : Address) (dest : GPRReg)
  | storePtr (src : GPRReg) (a : Address)
  | storeImmPtr (imm : Word) (a : Address)
  | store32 (imm : BitVec 32) (a : Address)
  | moveDouble (src dest : FPRReg)
  | moveDoubleToPtr (src : FPRReg) (dest : GPRReg)
  | movePtrToDouble (src : GPRReg) (dest : FPRReg)
  | convertInt32ToDouble (src : GPRReg) (dest : FPRReg)
  deriving DecidableEq, Repr

/-- One operation. -/
def Op.exec (m : Machine) : Op → Machine
  | .move s d => m.setGPR d (m.gpr s)
  | .moveImmPtr i d => m.setGPR d i
  | .moveImm32 i d => m.setGPR d (i.setWidth 64)
  | .orPtr s d => m.setGPR d (m.gpr d ||| m.gpr s)
  | .orPtr3 a b d => m.setGPR d (m.gpr a ||| m.gpr b)
  | .xorPtr i d => m.setGPR d (m.gpr d ^^^ i.signExtend 64)
  | .addPtr s d => m.setGPR d (m.gpr d + m.gpr s)
  | .subPtr s d => m.setGPR d (m.gpr d - m.gpr s)
  | .sub32 s d => m.setGPR d (low32 (m.gpr d - m.gpr s))
  | .zeroExtend32ToPtr s d => m.setGPR d (low32 (m.gpr s))
  | .swap a b => (m.setGPR a (m.gpr b)).setGPR b (m.gpr a)
  | .loadPtr a d => m.setGPR d (m.memory a)
  | .load32 a d => m.setGPR d (low32 (m.memory a))
  | .storePtr s a => m.store a (m.gpr s)
  | .storeImmPtr i a => m.store a i
  | .store32 i a => m.store a ((m.memory a &&& 0xFFFFFFFF00000000#64) ||| i.setWidth 64)
  | .moveDouble s d => m.setFPR d (m.fpr s)
  | .moveDoubleToPtr s d => m.setGPR d (m.fpr s)
  | .movePtrToDouble s d => m.setFPR d (m.gpr s)
  | .convertInt32ToDouble s d => m.setFPR d (int32ToDouble ((m.gpr s).setWidth 32))

/-- A straight-line sequence. -/
def Op.run (m : Machine) (os : List Op) : Machine := os.foldl Op.exec m

/-- An emitted instruction: an operation, or one of the two forward-branching sequences the generators emit, with the code of
each arm up to the label where they join. -/
inductive Instr where
  | op (o : Op)
  /-- `branchConvertDoubleToInt32(src, dest, notInt, fpTemp)` then the int arm, with `notInt` linked to the other arm:
  `cvttsd2si` into `dest`, fail on zero (it may have been `-0.0`), else convert back into `fpTemp` and fail unless equal. -/
  | branchConvertDoubleToInt32 (src : FPRReg) (dest : GPRReg) (fpTemp : FPRReg) (isInt notInt : List Op)
  /-- `branchPtr(AboveOrEqual, left, right)`: unsigned comparison. -/
  | branchPtrAboveOrEqual (left right : GPRReg) (taken notTaken : List Op)
  deriving DecidableEq, Repr

/-- One instruction. -/
def Instr.exec (m : Machine) : Instr → Machine
  | .op o => o.exec m
  | .branchConvertDoubleToInt32 src dest fpTemp isInt notInt =>
    let i := cvttsd2si (m.fpr src)
    let m₁ := m.setGPR dest (i.setWidth 64)
    if i = 0 then Op.run m₁ notInt
    else
      let m₂ := m₁.setFPR fpTemp (int32ToDouble i)
      if doubleEqual (m₂.fpr fpTemp) (m₂.fpr src) then Op.run m₂ isInt else Op.run m₂ notInt
  | .branchPtrAboveOrEqual l r taken notTaken =>
    if m.gpr r ≤ m.gpr l then Op.run m taken else Op.run m notTaken

/-- Running emitted code. -/
def exec (m : Machine) (code : List Instr) : Machine := code.foldl Instr.exec m

/-- Straight-line code as emitted instructions. -/
def ops (os : List Op) : List Instr := os.map .op

@[simp] theorem Op.run_nil (m : Machine) : Op.run m [] = m := rfl
@[simp] theorem Op.run_cons (m : Machine) (o : Op) (os : List Op) : Op.run m (o :: os) = Op.run (o.exec m) os := rfl
@[simp] theorem Op.run_append (m : Machine) (os os' : List Op) : Op.run m (os ++ os') = Op.run (Op.run m os) os' :=
  List.foldl_append _ _ _ _
@[simp] theorem exec_nil (m : Machine) : exec m [] = m := rfl
@[simp] theorem exec_cons (m : Machine) (i : Instr) (is : List Instr) : exec m (i :: is) = exec (i.exec m) is := rfl
@[simp] theorem exec_append (m : Machine) (is is' : List Instr) : exec m (is ++ is') = exec (exec m is) is' :=
  List.foldl_append _ _ _ _
@[simp] theorem exec_ops (m : Machine) (os : List Op) : exec m (ops os) = Op.run m os := by
  induction os generalizing m with
  | nil => rfl
  | cons o os ih => exact ih (o.exec m)

/-! ## Macro-assembler helpers of the DFG -/

/-- Modelled from the spec: `boxDouble` of DFGJITCompiler.h, absent from the sources: the double's bits minus
`TagTypeNumber`, i.e. plus the bias, as Part 1 spills a double. -/
def boxDouble (fpr : FPRReg) (gpr : GPRReg) : List Op :=
  [.moveDoubleToPtr fpr gpr, .subPtr .tagTypeNumberRegister gpr]

/-- Modelled from the spec: `unboxDouble` of DFGJITCompiler.h, absent from the sources: remove the bias in place and move the
bits to the FPR, with no test of the tag (`fillNumericToDouble` tests the tag before it calls it). -/
def unboxDouble (gpr : GPRReg) (fpr : FPRReg) : List Op :=
  [.addPtr .tagTypeNumberRegister gpr, .movePtrToDouble gpr fpr]

end JavaScriptCore
