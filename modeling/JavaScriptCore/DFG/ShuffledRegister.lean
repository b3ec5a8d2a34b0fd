import JavaScriptCore.DFG.GeneralizedRegister

/-!
# `ShuffledRegister`, `NodeToRegisterMap`, and the two permutation handlers

Part 1 of `jumpFromSpeculativeToNonSpeculative` links the registers into a graph: when the node in register `u` on the exit side
is in register `v` on the entry side, `v.previous` is `u`, `u.hasFrom` and `v.hasTo` are set. Part 2 resolves the graph's
chains from their tails (`handleNonCyclingPermutation`) and then its cycles (`handleCyclingPermutation`).

The locals of `jumpFromSpeculativeToNonSpeculative` that the loops update, the two `ShuffledRegister` arrays (as one function
of the register), the scratch registers and the emitted code, form one record, `LinkState`; each loop of the source is a fold
of its body over the indices. The walks along `previous` are `while`/`do`-`while` loops that stop on a well-formed graph;
here they take fuel, the number of registers, which is the length of the longest simple path.
-/

namespace JavaScriptCore

/-- `NodeToRegisterMap`: the tuples `m_payload[0 .. m_occupancy)`. -/
structure NodeToRegisterMap where
  payload : List (NodeIndex × GeneralizedRegister)

namespace NodeToRegisterMap

/-- `set`: write the next tuple. -/
def set (m : NodeToRegisterMap) (n : NodeIndex) (r : GeneralizedRegister) : NodeToRegisterMap := ⟨m.payload ++ [(n, r)]⟩

/-- `find`: scan from the last tuple down; `none` is `end()`. -/
def find (m : NodeToRegisterMap) (n : NodeIndex) : Option GeneralizedRegister :=
  (m.payload.reverse.find? (·.1 == n)).map (·.2)

end NodeToRegisterMap

/-- `ShuffledRegister`, without its `reg`, which is the register it is stored for. -/
structure ShuffledRegister where
  previous : Option GeneralizedRegister
  hasFrom : Bool
  hasTo : Bool
  handled : Bool

namespace ShuffledRegister

/-- `ShuffledRegister(reg)`. -/
def initial : ShuffledRegister := ⟨none, false, false, false⟩

/-- `isEndOfNonCyclingPermutation`: the tail of a chain. -/
def isEndOfNonCyclingPermutation (s : ShuffledRegister) : Bool := s.hasTo && !s.hasFrom

end ShuffledRegister

/-- The locals of `jumpFromSpeculativeToNonSpeculative` and the code emitted so far. -/
structure LinkState where
  checkNodeToRegisterMap : NodeToRegisterMap
  entryNodeToRegisterMap : NodeToRegisterMap
  scratchGPR : Option GPRReg
  scratchFPR1 : Option FPRReg
  scratchFPR2 : Option FPRReg
  needToRestoreTagMaskRegister : Bool
  shuffled : GeneralizedRegister → ShuffledRegister
  code : List Instr

namespace LinkState

/-- Append code to the JIT's buffer. -/
def emit (st : LinkState) (is : List Instr) : LinkState := { st with code := st.code ++ is }

/-- Update the `ShuffledRegister` of a register. -/
def modify (st : LinkState) (r : GeneralizedRegister) (f : ShuffledRegister → ShuffledRegister) : LinkState :=
  { st with shuffled := Function.update st.shuffled r (f (st.shuffled r)) }

/-- `cur->handled = true`. -/
def markHandled (st : LinkState) (r : GeneralizedRegister) : LinkState := st.modify r ({ · with handled := true })

@[simp] theorem emit_code (st : LinkState) (is : List Instr) : (st.emit is).code = st.code ++ is := rfl
@[simp] theorem emit_shuffled (st : LinkState) (is : List Instr) : (st.emit is).shuffled = st.shuffled := rfl
@[simp] theorem emit_scratchFPR1 (st : LinkState) (is : List Instr) : (st.emit is).scratchFPR1 = st.scratchFPR1 := rfl
@[simp] theorem emit_scratchFPR2 (st : LinkState) (is : List Instr) : (st.emit is).scratchFPR2 = st.scratchFPR2 := rfl
@[simp] theorem emit_checkNodeToRegisterMap (st : LinkState) (is : List Instr) :
    (st.emit is).checkNodeToRegisterMap = st.checkNodeToRegisterMap := rfl
@[simp] theorem emit_needToRestoreTagMaskRegister (st : LinkState) (is : List Instr) :
    (st.emit is).needToRestoreTagMaskRegister = st.needToRestoreTagMaskRegister := rfl
@[simp] theorem markHandled_code (st : LinkState) (r : GeneralizedRegister) : (st.markHandled r).code = st.code := rfl
@[simp] theorem markHandled_scratchFPR1 (st : LinkState) (r : GeneralizedRegister) :
    (st.markHandled r).scratchFPR1 = st.scratchFPR1 := rfl
@[simp] theorem markHandled_scratchFPR2 (st : LinkState) (r : GeneralizedRegister) :
    (st.markHandled r).scratchFPR2 = st.scratchFPR2 := rfl
@[simp] theorem markHandled_shuffled (st : LinkState) (r s : GeneralizedRegister) :
    (st.markHandled r).shuffled s = if s = r then { st.shuffled r with handled := true } else st.shuffled s :=
  Function.update_apply _ _ _ _

/-- What `handleNonCyclingPermutation` does with each register it has passed: an FPR becomes `scratchFPR1` if there is none,
and `scratchFPR2` otherwise. -/
def recordScratchFPR (st : LinkState) : GeneralizedRegister → LinkState
  | .fpr f => if st.scratchFPR1 = none then { st with scratchFPR1 := some f } else { st with scratchFPR2 := some f }
  | .gpr _ => st

@[simp] theorem recordScratchFPR_code (st : LinkState) (r : GeneralizedRegister) : (st.recordScratchFPR r).code = st.code := by
  cases r
  · rfl
  · simp only [recordScratchFPR]; split <;> rfl
@[simp] theorem recordScratchFPR_shuffled (st : LinkState) (r : GeneralizedRegister) :
    (st.recordScratchFPR r).shuffled = st.shuffled := by
  cases r
  · rfl
  · simp only [recordScratchFPR]; split <;> rfl

end LinkState

section Handlers

variable (check : SpeculationCheck) (entry : EntryLocation)

/-- `handleNonCyclingPermutation`, called on the tail of a chain: walk `previous` toward the head, moving each predecessor into
the current register, marking it handled and recording it as scratch. -/
def handleNonCyclingPermutation : Nat → GeneralizedRegister → LinkState → LinkState
  | 0, _, st => st
  | fuel + 1, cur, st =>
    match (st.shuffled cur).previous with
    | some p =>
      let st := st.emit (p.moveTo cur (p.previousDataFormat check) (cur.nextDataFormat entry) st.scratchFPR1)
      handleNonCyclingPermutation fuel p ((st.markHandled cur).recordScratchFPR cur)
    | none => (st.markHandled cur).recordScratchFPR cur

/-- The `do`-`while` walk that opens `handleCyclingPermutation`: mark every node of the cycle handled; return the cycle length
and `next`, the node whose `previous` is the start. -/
def cycleWalk (start : GeneralizedRegister) : Nat → GeneralizedRegister → LinkState → Nat × GeneralizedRegister × LinkState
  | 0, cur, st => (0, cur, st)
  | fuel + 1, cur, st =>
    let st := st.markHandled cur
    match (st.shuffled cur).previous with
    | some p => if p = start then (1, cur, st) else
      let r := cycleWalk start fuel p st
      (r.1 + 1, r.2.1, r.2.2)
    | none => (1, cur, st)

/-- The middle of a cycle of length three or more: from the start, while `cur->previous` is not the start, move
`cur->previous` into `cur` and step back. -/
def rotateCycle (shuffled : GeneralizedRegister → ShuffledRegister) (start : GeneralizedRegister)
    (scratchFPR1 : Option FPRReg) : Nat → GeneralizedRegister → List Instr
  | 0, _ => []
  | fuel + 1, cur =>
    match (shuffled cur).previous with
    | some p => if p = start then [] else
      p.moveTo cur (p.previousDataFormat check) (cur.nextDataFormat entry) scratchFPR1 ++
        rotateCycle shuffled start scratchFPR1 fuel p
    | none => []

/-- `handleCyclingPermutation`: a self-loop is a conversion in place, a 2-cycle a `swapWith`; a longer cycle saves the start
in a scratch register (an FPR when the start and `next` are FPRs and `scratchFPR2` exists), rotates the rest as a chain, and
writes the saved value into `next`. -/
def handleCyclingPermutation (fuel : Nat) (this : GeneralizedRegister) (scratchGPR : GPRReg)
    (scratchFPR1 scratchFPR2 : Option FPRReg) (st : LinkState) : LinkState :=
  let (cycleLength, next, st) := cycleWalk this fuel this st
  match cycleLength, (st.shuffled this).previous with
  | 1, _ => st.emit (this.convert (this.previousDataFormat check) (this.nextDataFormat entry))
  | 2, some p =>
    st.emit (this.swapWith p (this.previousDataFormat check) (this.nextDataFormat entry) (p.previousDataFormat check)
      (p.nextDataFormat entry) scratchGPR scratchFPR1)
  | 2, none => st
  | _, _ =>
    let rotation := rotateCycle check entry st.shuffled this scratchFPR1 fuel this
    if this.isFPR && next.isFPR then
      match scratchFPR2 with
      | none =>
        let scratch := GeneralizedRegister.gpr scratchGPR
        st.emit (this.moveTo scratch .double .jsDouble scratchFPR1 ++ rotation ++
          scratch.moveTo next .jsDouble .double scratchFPR1)
      | some f =>
        let scratch := GeneralizedRegister.fpr f
        st.emit (this.moveTo scratch .double .double scratchFPR1 ++ rotation ++
          scratch.moveTo next .double .double scratchFPR1)
    else
      let scratch := GeneralizedRegister.gpr scratchGPR
      st.emit (this.moveTo scratch (this.previousDataFormat check) (next.nextDataFormat entry) scratchFPR1 ++ rotation ++
        scratch.moveTo next (next.nextDataFormat entry) (next.nextDataFormat entry) scratchFPR1)

end Handlers

/-- `lookupForRegister`: the GPRs come first, then the FPRs. -/
def lookupForRegister (counts : RegisterCounts) (index : Nat) : GeneralizedRegister :=
  if index < counts.gprs then .gpr (.reg index) else .fpr ⟨index - counts.gprs⟩

end JavaScriptCore
