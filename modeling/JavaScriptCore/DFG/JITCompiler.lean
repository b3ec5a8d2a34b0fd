import JavaScriptCore.DFG.ShuffledRegister

/-!
# `jumpFromSpeculativeToNonSpeculative`

The bridging exit of DFGJITCompiler.cpp, as the code it emits. After the recovery pre-pass and the two reverse maps, the
function works in three parts:

1. spill the values the entry wants in memory (and the exit-side values the entry does not hold), linking the registers into
   the move graph and picking scratch registers on the way;
2. resolve the graph: chains from their tails, then cycles;
3. fill the entry registers whose node did not arrive by a move, from its home slot or its constant.

The graph of the code (`graph()[nodeIndex]`: a node's virtual register, whether it is a constant and which) is a read-only view
the sources consume and do not contain; `Graph` is that view.
-/

namespace JavaScriptCore

/-- A constant node's value: `isInt32Constant`, `isNumberConstant`, or another `JSConstant` (its encoding). -/
inductive ConstantValue where
  | int32 (i : BitVec 32)
  | number (bits : Word)
  | js (encoded : Word)
  deriving DecidableEq, Repr

/-- What the constant accessors assume of a constant: `valueOfNumberConstant` is a double the engine has purified (its bits
are below the tag range, as every double stored in a frame is), and a `JSConstant` is not a number (`isInt32Constant`,
`isNumberConstant` and `isJSConstant` split the constants). -/
def ConstantValue.Valid : ConstantValue → Prop
  | .int32 _ => True
  | .number b => b.toNat < 0xFFFE000000000000
  | .js w => (JSValue.decode w).fits .double = false

/-- Modelled from the spec: the graph view the engine consumes (`graph()[nodeIndex]`, `constant_value(logical_id)`): each
node's home slot `virtualRegister()` and, for a constant node, its value. -/
structure Graph where
  virtualRegister : NodeIndex → Int
  constant : NodeIndex → Option ConstantValue
  constant_valid : ∀ n c, constant n = some c → c.Valid

/-- `valueOfNumberConstant`, as the bits of the double. -/
def ConstantValue.numberBits : ConstantValue → Word
  | .int32 i => int32ToDouble i
  | .number b => b
  | .js w => w

/-- The encoding `fillToJS` materialises: `jsNumber` of an int32, a double encoded as a double, or the constant itself. -/
def ConstantValue.encoded : ConstantValue → Word
  | .int32 i => JSValue.encode (.int32 i)
  | .number b => JSValue.encode (.double b)
  | .js w => w

/-- `SpeculationRecovery`: an operation that started mutating `dest` before its speculation was checked. -/
inductive SpeculationRecovery where
  | speculativeAdd (dest src : GPRReg)
  | booleanSpeculationCheck (dest : GPRReg)
  deriving DecidableEq, Repr

/-- `SpeculationRecovery::dest`: the register the recovery rewrites. -/
def SpeculationRecovery.dest : SpeculationRecovery → GPRReg
  | .speculativeAdd dest _ | .booleanSpeculationCheck dest => dest

section Fill

variable (graph : Graph)

/-- `fillNumericToDouble`: a constant's double through `temporary`; otherwise load the home slot and branch on the tag: an
int32 is converted, anything else unboxed. -/
def fillNumericToDouble (nodeIndex : NodeIndex) (fpr : FPRReg) (temporary : GPRReg) : List Instr :=
  match graph.constant nodeIndex with
  | some c => ops [.moveImmPtr c.numberBits temporary, .movePtrToDouble temporary fpr]
  | none =>
    [.op (.loadPtr (.frame (graph.virtualRegister nodeIndex)) temporary),
     .branchPtrAboveOrEqual temporary .tagTypeNumberRegister [.convertInt32ToDouble temporary fpr]
       (unboxDouble temporary fpr)]

/-- `fillInt32ToInteger`: a constant's int32, or the low half of the home slot (the redundant tag-checking load of
`DFG_JIT_ASSERT` builds is left out). -/
def fillInt32ToInteger (nodeIndex : NodeIndex) (gpr : GPRReg) : List Instr :=
  match graph.constant nodeIndex with
  | some (.int32 i) => ops [.moveImm32 i gpr]
  | some c => ops [.moveImm32 (c.numberBits.setWidth 32) gpr]
  | none => ops [.load32 (.frame (graph.virtualRegister nodeIndex)) gpr]

/-- `fillToJS`: a constant's encoding, or the home slot. -/
def fillToJS (nodeIndex : NodeIndex) (gpr : GPRReg) : List Instr :=
  match graph.constant nodeIndex with
  | some c => ops [.moveImmPtr c.encoded gpr]
  | none => ops [.loadPtr (.frame (graph.virtualRegister nodeIndex)) gpr]

end Fill

section Link

variable (counts : RegisterCounts) (graph : Graph) (check : SpeculationCheck) (entry : EntryLocation)

/-- The recovery pre-pass: revert a speculative add (reboxing unless the check holds `dest` as `Integer`), or flip a boolean
back. -/
def recoveryPrePass : Option SpeculationRecovery → List Instr
  | none => []
  | some (.speculativeAdd dest src) =>
    ops ([.sub32 src dest] ++
      if (GeneralizedRegister.gpr dest).previousDataFormat check != .integer then [.orPtr .tagTypeNumberRegister dest]
      else [])
  | some (.booleanSpeculationCheck dest) => ops [.xorPtr (ValueFalse.setWidth 32) dest]

/-- The locals before the reverse maps are built. -/
def LinkState.initial : LinkState := ⟨⟨[]⟩, ⟨[]⟩, none, none, none, false, fun _ => .initial, []⟩

/-- The GPR loop building the reverse maps: a register that holds a node on neither side becomes `scratchGPR`. -/
def buildMapsGPR (st : LinkState) (index : Nat) : LinkState :=
  let r := GeneralizedRegister.gpr (.reg index)
  let nodeIndexInCheck := (check.gprInfo index).nodeIndex
  let st := match nodeIndexInCheck with
    | some n => { st with checkNodeToRegisterMap := st.checkNodeToRegisterMap.set n r }
    | none => st
  match (entry.gprInfo index).nodeIndex with
  | some n => { st with entryNodeToRegisterMap := st.entryNodeToRegisterMap.set n r }
  | none => if nodeIndexInCheck = none then { st with scratchGPR := some (.reg index) } else st

/-- The FPR loop building the reverse maps: a free FPR becomes `scratchFPR1`, or else `scratchFPR2`. -/
def buildMapsFPR (st : LinkState) (index : Nat) : LinkState :=
  let r := GeneralizedRegister.fpr ⟨index⟩
  let nodeIndexInCheck := (check.fprInfo index).nodeIndex
  let st := match nodeIndexInCheck with
    | some n => { st with checkNodeToRegisterMap := st.checkNodeToRegisterMap.set n r }
    | none => st
  match (entry.fprInfo index).nodeIndex with
  | some n => { st with entryNodeToRegisterMap := st.entryNodeToRegisterMap.set n r }
  | none =>
    if nodeIndexInCheck = none then
      if st.scratchFPR1 = none then { st with scratchFPR1 := some ⟨index⟩ } else { st with scratchFPR2 := some ⟨index⟩ }
    else st

/-- Link a register holding a node on the exit side to the entry register that wants the node: `next->previous`. -/
def LinkState.link (st : LinkState) (r next : GeneralizedRegister) : LinkState :=
  (st.modify r ({ · with hasFrom := true })).modify next ({ · with previous := some r, hasTo := true })

/-- The C++ truth value of an `FPRReg` (`else if (scratchFPR2)`): `InvalidFPRReg` is -1, so only the register numbered 0 is
false. -/
def fprIsTrue : Option FPRReg → Bool
  | some ⟨0⟩ => false
  | _ => true

/-- Part 1, GPR loop body: link the register to the entry register of its node; spill it (boxing an `Integer` in place) unless
the entry takes it in a register that is not spilled, or the check has already spilled it. -/
def spillGPR (st : LinkState) (index : Nat) : LinkState :=
  let info := check.gprInfo index
  match info.nodeIndex with
  | none => st
  | some nodeIndex =>
    let r := GeneralizedRegister.gpr (.reg index)
    let spill (st : LinkState) : LinkState :=
      if info.isSpilled then st
      else st.emit (ops ((if info.format = .integer then [.orPtr .tagTypeNumberRegister (.reg index)] else []) ++
        [.storePtr (.reg index) (.frame (graph.virtualRegister nodeIndex))]))
    match st.entryNodeToRegisterMap.find nodeIndex with
    | some next =>
      let st := st.link r next
      if !(next.findInEntryLocation entry).isSpilled then st else spill st
    | none =>
      spill (if (entry.gprInfo index).nodeIndex = none then { st with scratchGPR := some (.reg index) } else st)

/-- Borrow `tagMaskRegister` when no GPR is free. -/
def borrowTagMaskRegister (st : LinkState) : LinkState :=
  if st.scratchGPR = none then { st with scratchGPR := some .tagMaskRegister, needToRestoreTagMaskRegister := true }
  else st

/-- Part 1, FPR loop body: as for a GPR; the spill boxes the double through `scratchGPR`. -/
def spillFPR (st : LinkState) (index : Nat) : LinkState :=
  let info := check.fprInfo index
  match info.nodeIndex with
  | none => st
  | some nodeIndex =>
    let r := GeneralizedRegister.fpr ⟨index⟩
    let spill (st : LinkState) : LinkState :=
      if info.isSpilled then st
      else
        let g := st.scratchGPR.getD .tagMaskRegister
        st.emit (ops [.moveDoubleToPtr ⟨index⟩ g, .subPtr .tagTypeNumberRegister g,
          .storePtr g (.frame (graph.virtualRegister nodeIndex))])
    match st.entryNodeToRegisterMap.find nodeIndex with
    | some next =>
      let st := st.link r next
      if !(next.findInEntryLocation entry).isSpilled then st else spill st
    | none =>
      let st :=
        if (entry.fprInfo index).nodeIndex = none then
          if st.scratchFPR1 = none then { st with scratchFPR1 := some ⟨index⟩ }
          else if fprIsTrue st.scratchFPR2 then { st with scratchFPR2 := some ⟨index⟩ }
          else st
        else st
      spill st

/-- The fuel of the walks along `previous`: the number of registers. -/
def RegisterCounts.total : Nat := counts.gprs + counts.fprs

/-- Part 2, first loop body: resolve the chain ending at this register, if it is an unhandled tail. -/
def shuffleChain (st : LinkState) (index : Nat) : LinkState :=
  let r := lookupForRegister counts index
  let s := st.shuffled r
  if !s.isEndOfNonCyclingPermutation || s.handled || (!s.hasFrom && !s.hasTo) then st
  else handleNonCyclingPermutation check entry counts.total r st

/-- Part 2, second loop body: resolve the cycle through this register, if it is linked and unhandled. -/
def shuffleCycle (st : LinkState) (index : Nat) : LinkState :=
  let r := lookupForRegister counts index
  let s := st.shuffled r
  if s.handled || (!s.hasFrom && !s.hasTo) then st
  else handleCyclingPermutation check entry counts.total r (st.scratchGPR.getD .tagMaskRegister) st.scratchFPR1
    st.scratchFPR2 st

/-- Whether Part 3 fills the entry register holding `nodeIndex`: unless the check holds the node in a register it has not
spilled (then Part 2 has moved it). -/
def needsFill (checkNodeToRegisterMap : NodeToRegisterMap) (nodeIndex : NodeIndex) : Bool :=
  match checkNodeToRegisterMap.find nodeIndex with
  | some r => (r.findInSpeculationCheck check).isSpilled
  | none => true

/-- Part 3, FPR loop body: the fill it emits, if any. The loop only reads `checkNodeToRegisterMap`, which Part 3 never
changes. -/
def fillFPR (checkNodeToRegisterMap : NodeToRegisterMap) (index : Nat) : List Instr :=
  let info := entry.fprInfo index
  match info.nodeIndex with
  | none => []
  | some nodeIndex =>
    if info.isSpilled || !needsFill check checkNodeToRegisterMap nodeIndex then []
    else fillNumericToDouble graph nodeIndex ⟨index⟩ regT0

/-- Part 3, GPR loop body. -/
def fillGPR (checkNodeToRegisterMap : NodeToRegisterMap) (index : Nat) : List Instr :=
  let info := entry.gprInfo index
  match info.nodeIndex with
  | none => []
  | some nodeIndex =>
    if info.isSpilled || !needsFill check checkNodeToRegisterMap nodeIndex then []
    else if info.format = .integer then fillInt32ToInteger graph nodeIndex (.reg index)
    else fillToJS graph nodeIndex (.reg index)

/-- Restore `tagMaskRegister` if it was borrowed. -/
def restoreTagMaskRegister (st : LinkState) : LinkState :=
  if st.needToRestoreTagMaskRegister then st.emit (ops [.moveImmPtr TagMask .tagMaskRegister]) else st

/-- The state after the two loops building the reverse maps, where Part 1 starts. -/
def afterBuildMaps : LinkState :=
  (List.range counts.fprs).foldl (buildMapsFPR check entry) ((List.range counts.gprs).foldl (buildMapsGPR check entry)
    LinkState.initial)

/-- The state after the reverse maps and Part 1. -/
def afterPart1 : LinkState :=
  let st := (List.range counts.gprs).foldl (buildMapsGPR check entry) LinkState.initial
  let st := (List.range counts.fprs).foldl (buildMapsFPR check entry) st
  let st := (List.range counts.gprs).foldl (spillGPR graph check entry) st
  (List.range counts.fprs).foldl (spillFPR graph check entry) (borrowTagMaskRegister st)

/-- The state after Part 2. -/
def afterPart2 : LinkState :=
  let st := (List.range counts.total).foldl (shuffleChain counts check entry) (afterPart1 counts graph check entry)
  (List.range counts.total).foldl (shuffleCycle counts check entry) st

/-- The state after Part 3 and the restoration of `tagMaskRegister`. -/
def afterPart3 : LinkState :=
  let st := afterPart2 counts graph check entry
  let st := st.emit ((List.range counts.fprs).flatMap (fillFPR graph check entry st.checkNodeToRegisterMap))
  restoreTagMaskRegister (st.emit ((List.range counts.gprs).flatMap (fillGPR graph check entry st.checkNodeToRegisterMap)))

/-- `jumpFromSpeculativeToNonSpeculative`: the code emitted from the link of the check's jump up to the final jump into the
non-speculative path. -/
def jumpFromSpeculativeToNonSpeculative (recovery : Option SpeculationRecovery) : List Instr :=
  recoveryPrePass check recovery ++ (afterPart3 counts graph check entry).code

end Link

/-! ## `linkSpeculationChecks` -/

/-- The `do`-`while` of `linkSpeculationChecks`: link `check` to `entry`, then each following check while there is one and
it has `entry`'s node. Returns the pairs linked, in order, and the checks left. -/
def linkEntryChecks (entry : EntryLocation) (check : SpeculationCheck) :
    List SpeculationCheck → List (SpeculationCheck × EntryLocation) × List SpeculationCheck
  | [] => ([(check, entry)], [])
  | c :: cs =>
    if c.nodeIndex = entry.nodeIndex then
      let r := linkEntryChecks entry c cs
      ((check, entry) :: r.1, r.2)
    else ([(check, entry)], c :: cs)

/-- The outer `while` of `linkSpeculationChecks`: the pairs linked and the entries left when `checksIter` reaches its end,
or `none` where `*entriesIter` is read at `entriesEnd` or `ASSERT(checksIter->m_nodeIndex == entriesIter->m_nodeIndex)`
fails. -/
def linkSpeculationChecksLoop :
    List SpeculationCheck → List EntryLocation → Option (List (SpeculationCheck × EntryLocation) × List EntryLocation)
  | [], entries => some ([], entries)
  | _ :: _, [] => none
  | c :: cs, e :: es =>
    if c.nodeIndex = e.nodeIndex then
      (linkSpeculationChecksLoop (linkEntryChecks e c cs).2 es).map fun r => ((linkEntryChecks e c cs).1 ++ r.1, r.2)
    else none

/-- `linkSpeculationChecks`: the code planted for each pair in turn, each call with the recovery of its check, or `none`
where the loop fails or `ASSERT(!(entriesIter != entriesEnd))` does. -/
def linkSpeculationChecks (counts : RegisterCounts) (graph : Graph)
    (speculationRecovery : SpeculationCheck → Option SpeculationRecovery) (checks : List SpeculationCheck)
    (entries : List EntryLocation) : Option (List Instr) :=
  match linkSpeculationChecksLoop checks entries with
  | some (links, []) =>
    some (links.flatMap fun l => jumpFromSpeculativeToNonSpeculative counts graph l.1 l.2 (speculationRecovery l.1))
  | _ => none

end JavaScriptCore
