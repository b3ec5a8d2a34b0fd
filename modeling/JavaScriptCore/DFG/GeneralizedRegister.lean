import JavaScriptCore.Machine

/-!
# Register descriptors and `GeneralizedRegister`

A `SpeculationCheck` (the exit side) and an `EntryLocation` (the baseline side) each record, for every GPR and FPR, the node
it holds (`NoNode` is `none`), the node's format there, and whether the node is also in its spill slot. `GeneralizedRegister`
is a GPR or an FPR with the three operations Part 2 of `jumpFromSpeculativeToNonSpeculative` is built from: `convert` in
place, `moveTo` another register, and `swapWith` another register, each converting between the two sides' formats.

The register counts, `GPRInfo::numberOfRegisters` and `FPRInfo::numberOfRegisters`, come from headers the sources do not
contain; they are a parameter (`RegisterCounts`).
-/

namespace JavaScriptCore

/-- Modelled from the spec: the register counts of the target, `GPRInfo::numberOfRegisters` and `FPRInfo::numberOfRegisters`.
The OSR exit boxes the `i`-th FPR into the `i`-th GPR ("relies on there being more GPRs than FPRs"), and both exit paths
name `regT0` and `regT1`. -/
structure RegisterCounts where
  gprs : Nat
  fprs : Nat
  fprs_le_gprs : fprs ≤ gprs
  two_le_gprs : 2 ≤ gprs

/-- `NodeIndex`. -/
abbrev NodeIndex := Nat

/-- `SpeculationCheck::RegisterInfo` and `EntryLocation::RegisterInfo`. -/
structure RegisterInfo where
  nodeIndex : Option NodeIndex
  format : DataFormat
  isSpilled : Bool

/-- A register holding no node. -/
def RegisterInfo.noNode : RegisterInfo := ⟨none, .none, false⟩

/-- `SpeculationCheck`: the register state at a speculation failure. -/
structure SpeculationCheck where
  nodeIndex : NodeIndex
  gprInfo : Nat → RegisterInfo
  fprInfo : Nat → RegisterInfo

/-- `EntryLocation`: the register state the non-speculative code expects at its entry point. -/
structure EntryLocation where
  nodeIndex : NodeIndex
  gprInfo : Nat → RegisterInfo
  fprInfo : Nat → RegisterInfo

/-- `GeneralizedRegister`: built by `createGPR` or `createFPR`. -/
inductive GeneralizedRegister where
  | gpr (r : GPRReg)
  | fpr (r : FPRReg)
  deriving DecidableEq, Repr

namespace GeneralizedRegister

/-- `isFPR`. -/
def isFPR : GeneralizedRegister → Bool
  | .gpr _ => false
  | .fpr _ => true

/-- `findInSpeculationCheck`; the reserved registers have no index and hold no node. -/
def findInSpeculationCheck (check : SpeculationCheck) : GeneralizedRegister → RegisterInfo
  | .gpr (.reg i) => check.gprInfo i
  | .fpr f => check.fprInfo f.index
  | _ => .noNode

/-- `findInEntryLocation`. -/
def findInEntryLocation (entry : EntryLocation) : GeneralizedRegister → RegisterInfo
  | .gpr (.reg i) => entry.gprInfo i
  | .fpr f => entry.fprInfo f.index
  | _ => .noNode

/-- `previousDataFormat`. -/
def previousDataFormat (r : GeneralizedRegister) (check : SpeculationCheck) : DataFormat :=
  (r.findInSpeculationCheck check).format

/-- `nextDataFormat`. -/
def nextDataFormat (r : GeneralizedRegister) (entry : EntryLocation) : DataFormat :=
  (r.findInEntryLocation entry).format

/-- `convert`: box an `Integer` in place, or zero-extend into `Integer`. An FPR is never converted (an FPR's format is always
`Double` on both sides; its `gpr()` would assert). -/
def convert (r : GeneralizedRegister) (oldDataFormat newDataFormat : DataFormat) : List Instr :=
  match r with
  | .fpr _ => []
  | .gpr g =>
    if !needDataFormatConversion oldDataFormat newDataFormat then []
    else if oldDataFormat = .integer then ops [.orPtr .tagTypeNumberRegister g]
    else ops [.zeroExtend32ToPtr g g]

/-- The sequence `moveTo` and `swapWith` both emit to put an FPR's double into a GPR: with a scratch FPR, attempt the
conversion to int32 and tag it; otherwise, or when the attempt fails, box the double. -/
def boxFPRInto (f : FPRReg) (g : GPRReg) (scratchFPR : Option FPRReg) : List Instr :=
  match scratchFPR with
  | some t => [.branchConvertDoubleToInt32 f g t [.orPtr .tagTypeNumberRegister g] (boxDouble f g)]
  | none => ops (boxDouble f g)

/-- `moveTo`: move this register's value into `other`, from `myDataFormat` to `otherDataFormat`. -/
def moveTo (r other : GeneralizedRegister) (myDataFormat otherDataFormat : DataFormat) (scratchFPR : Option FPRReg) :
    List Instr :=
  match r, other with
  | .fpr f, .fpr f' => ops [.moveDouble f f']
  | .fpr f, .gpr g => boxFPRInto f g scratchFPR
  | .gpr g, .fpr f => ops (unboxDouble g f)
  | .gpr g, .gpr g' =>
    if !needDataFormatConversion myDataFormat otherDataFormat then ops [.move g g']
    else if myDataFormat = .integer then ops [.orPtr3 g .tagTypeNumberRegister g']
    else ops [.zeroExtend32ToPtr g g']

/-- The conversion `swapWith` applies to a GPR that has received a value in `oldDataFormat` and must hold it in
`newDataFormat`. -/
def swapConversion (g : GPRReg) (oldDataFormat newDataFormat : DataFormat) : List Op :=
  if needDataFormatConversion oldDataFormat newDataFormat then
    if oldDataFormat = .integer then [.orPtr .tagTypeNumberRegister g]
    else if newDataFormat = .integer then [.zeroExtend32ToPtr g g]
    else []
  else []

/-- The FPR arm of `swapWith` when the other register is a GPR: park the GPR in `scratchGPR`, put the double into the GPR,
and unbox the parked value into the FPR. -/
def swapFPRWithGPR (f : FPRReg) (g scratchGPR : GPRReg) (scratchFPR : Option FPRReg) : List Instr :=
  ops [.move g scratchGPR] ++ boxFPRInto f g scratchFPR ++ ops (unboxDouble scratchGPR f)

/-- `swapWith`: exchange the values of two registers, each converted to the format the other side expects. -/
def swapWith (r other : GeneralizedRegister) (myDataFormat myNewDataFormat otherDataFormat otherNewDataFormat : DataFormat)
    (scratchGPR : GPRReg) (scratchFPR : Option FPRReg) : List Instr :=
  match r, other with
  | .fpr f, .fpr f' =>
    match scratchFPR with
    | none => ops [.moveDoubleToPtr f scratchGPR, .moveDouble f' f, .movePtrToDouble scratchGPR f']
    | some t => ops [.moveDouble f t, .moveDouble f' f, .moveDouble t f']
  | .fpr f, .gpr g => swapFPRWithGPR f g scratchGPR scratchFPR
  | .gpr g, .fpr f => swapFPRWithGPR f g scratchGPR scratchFPR
  | .gpr g, .gpr g' =>
    ops ([.swap g g'] ++ swapConversion g otherDataFormat myNewDataFormat ++
      swapConversion g' myDataFormat otherNewDataFormat)

end GeneralizedRegister

end JavaScriptCore
