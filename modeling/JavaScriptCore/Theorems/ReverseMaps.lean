import JavaScriptCore.DFG.JITCompiler
import Mathlib.Data.List.Nodup

/-!
# The reverse maps

The first loops of `jumpFromSpeculativeToNonSpeculative` record, for each side, which register holds which node:
`checkNodeToRegisterMap` and `entryNodeToRegisterMap`. Their tuples are exactly the registers a side holds a node in, GPRs
first (`heldNodes`), and nothing after these loops changes them (`afterPart2_checkNodeToRegisterMap`). When a side names
every node at most once (`Unique`), `find` returns the register holding the node, and Part 3's test `needsFill` says that no
check register delivers the node (`needsFill_iff`).
-/

namespace JavaScriptCore

/-- The nodes a side holds, each with its register, in the order the loops visit the registers: the GPRs, then the FPRs. -/
def heldNodes (counts : RegisterCounts) (gprInfo fprInfo : Nat → RegisterInfo) : List (NodeIndex × GeneralizedRegister) :=
  (List.range counts.gprs).filterMap (fun i => (gprInfo i).nodeIndex.map (·, .gpr (.reg i))) ++
    (List.range counts.fprs).filterMap (fun i => (fprInfo i).nodeIndex.map (·, .fpr ⟨i⟩))

/-- A side names each node in at most one register. -/
def UniqueNodes (counts : RegisterCounts) (gprInfo fprInfo : Nat → RegisterInfo) : Prop :=
  ((heldNodes counts gprInfo fprInfo).map Prod.fst).Nodup

instance (counts : RegisterCounts) (gprInfo fprInfo : Nat → RegisterInfo) :
    Decidable (UniqueNodes counts gprInfo fprInfo) := inferInstanceAs (Decidable (List.Nodup _))

/-- A check register that holds `n` and has not spilled it: Part 2 delivers `n` from there. -/
def SpeculationCheck.Delivers (counts : RegisterCounts) (check : SpeculationCheck) (n : NodeIndex) : Prop :=
  ∃ r, (n, r) ∈ heldNodes counts check.gprInfo check.fprInfo ∧ (r.findInSpeculationCheck check).isSpilled = false

namespace NodeToRegisterMap

/-- With each node named once, `find` returns the register recorded for it. -/
theorem find_eq_some_iff {l : List (NodeIndex × GeneralizedRegister)} (hl : (l.map Prod.fst).Nodup) {n : NodeIndex}
    {r : GeneralizedRegister} : find ⟨l⟩ n = some r ↔ (n, r) ∈ l := by
  simp only [find, Option.map_eq_some']
  have key : ∀ {p}, l.reverse.find? (·.1 == n) = some p → p ∈ l ∧ p.1 = n := fun hp =>
    ⟨List.mem_reverse.mp (List.mem_of_find?_eq_some hp), by simpa using List.find?_some hp⟩
  constructor
  · rintro ⟨p, hp, rfl⟩
    obtain ⟨hmem, hkey⟩ := key hp
    exact hkey ▸ hmem
  · intro hmem
    have hsome : (l.reverse.find? (·.1 == n)).isSome :=
      List.find?_isSome.mpr ⟨(n, r), List.mem_reverse.mpr hmem, by simp⟩
    obtain ⟨p, hp⟩ := Option.isSome_iff_exists.mp hsome
    obtain ⟨hpmem, hkey⟩ := key hp
    exact ⟨p, hp, by rw [List.inj_on_of_nodup_map hl hpmem hmem hkey]⟩

/-- `find` fails exactly for a node not recorded. -/
theorem find_eq_none_iff {l : List (NodeIndex × GeneralizedRegister)} {n : NodeIndex} :
    find ⟨l⟩ n = none ↔ ∀ r, (n, r) ∉ l := by
  simp only [find, Option.map_eq_none', List.find?_eq_none, List.mem_reverse, beq_iff_eq]
  exact ⟨fun h r hr => h _ hr rfl, fun h p hp hn => h p.2 (hn ▸ hp)⟩

end NodeToRegisterMap

/-- A loop whose body keeps a part of the state keeps it. -/
theorem foldl_preserves {α β : Type} (g : LinkState → β) {f : LinkState → α → LinkState} (hf : ∀ st a, g (f st a) = g st)
    (l : List α) (st : LinkState) : g (l.foldl f st) = g st := by
  induction l generalizing st with
  | nil => rfl
  | cons a l ih => rw [List.foldl_cons, ih, hf]

/-- The two reverse maps, the part of the state the shuffle never changes. -/
def LinkState.maps (st : LinkState) : NodeToRegisterMap × NodeToRegisterMap :=
  (st.checkNodeToRegisterMap, st.entryNodeToRegisterMap)

namespace LinkState

@[simp] theorem maps_emit (st : LinkState) (is : List Instr) : (st.emit is).maps = st.maps := rfl
@[simp] theorem maps_modify (st : LinkState) (r : GeneralizedRegister) (f : ShuffledRegister → ShuffledRegister) :
    (st.modify r f).maps = st.maps := rfl
@[simp] theorem maps_markHandled (st : LinkState) (r : GeneralizedRegister) : (st.markHandled r).maps = st.maps := rfl
@[simp] theorem maps_link (st : LinkState) (r next : GeneralizedRegister) : (st.link r next).maps = st.maps := rfl
@[simp] theorem maps_recordScratchFPR (st : LinkState) (r : GeneralizedRegister) :
    (st.recordScratchFPR r).maps = st.maps := by
  cases r
  · rfl
  · simp only [recordScratchFPR]; split <;> rfl

end LinkState

section Maps

variable {counts : RegisterCounts} {graph : Graph} {check : SpeculationCheck} {entry : EntryLocation}

/-- What Part 2 never changes: the reverse maps, `scratchGPR`, and whether `tagMaskRegister` was borrowed. -/
def LinkState.kept (st : LinkState) : (NodeToRegisterMap × NodeToRegisterMap) × Option GPRReg × Bool :=
  (st.maps, st.scratchGPR, st.needToRestoreTagMaskRegister)

namespace LinkState

@[simp] theorem kept_emit (st : LinkState) (is : List Instr) : (st.emit is).kept = st.kept := rfl
@[simp] theorem kept_markHandled (st : LinkState) (r : GeneralizedRegister) : (st.markHandled r).kept = st.kept := rfl
@[simp] theorem kept_recordScratchFPR (st : LinkState) (r : GeneralizedRegister) :
    (st.recordScratchFPR r).kept = st.kept := by
  cases r
  · rfl
  · simp only [recordScratchFPR]; split <;> rfl

end LinkState

theorem kept_handleNonCyclingPermutation (fuel : Nat) (cur : GeneralizedRegister) (st : LinkState) :
    (handleNonCyclingPermutation check entry fuel cur st).kept = st.kept := by
  induction fuel generalizing cur st with
  | zero => rfl
  | succ fuel ih =>
    simp only [handleNonCyclingPermutation]
    split
    · rw [ih]; simp
    · simp

theorem kept_cycleWalk (start : GeneralizedRegister) (fuel : Nat) (cur : GeneralizedRegister) (st : LinkState) :
    (cycleWalk start fuel cur st).2.2.kept = st.kept := by
  induction fuel generalizing cur st with
  | zero => rfl
  | succ fuel ih =>
    simp only [cycleWalk]
    split
    · split
      · simp
      · rw [ih]; simp
    · simp

theorem kept_handleCyclingPermutation (fuel : Nat) (this : GeneralizedRegister) (scratchGPR : GPRReg)
    (scratchFPR1 scratchFPR2 : Option FPRReg) (st : LinkState) :
    (handleCyclingPermutation check entry fuel this scratchGPR scratchFPR1 scratchFPR2 st).kept = st.kept := by
  unfold handleCyclingPermutation
  have h := kept_cycleWalk this fuel this st
  generalize cycleWalk this fuel this st = w at h
  obtain ⟨len, next, st'⟩ := w
  simp only at h ⊢
  split <;> (try split) <;> (try split) <;> simp [h]

/-- One step of the GPR loop records the register on each side that holds a node in it. -/
theorem maps_buildMapsGPR (st : LinkState) (i : Nat) :
    (buildMapsGPR check entry st i).maps =
      (⟨st.checkNodeToRegisterMap.payload ++ ((check.gprInfo i).nodeIndex.map (·, .gpr (.reg i))).toList⟩,
        ⟨st.entryNodeToRegisterMap.payload ++ ((entry.gprInfo i).nodeIndex.map (·, .gpr (.reg i))).toList⟩) := by
  unfold buildMapsGPR
  cases (check.gprInfo i).nodeIndex <;> cases (entry.gprInfo i).nodeIndex <;>
    simp [LinkState.maps, NodeToRegisterMap.set]

/-- One step of the FPR loop, likewise. -/
theorem maps_buildMapsFPR (st : LinkState) (i : Nat) :
    (buildMapsFPR check entry st i).maps =
      (⟨st.checkNodeToRegisterMap.payload ++ ((check.fprInfo i).nodeIndex.map (·, .fpr ⟨i⟩)).toList⟩,
        ⟨st.entryNodeToRegisterMap.payload ++ ((entry.fprInfo i).nodeIndex.map (·, .fpr ⟨i⟩)).toList⟩) := by
  unfold buildMapsFPR
  cases (check.fprInfo i).nodeIndex <;> cases (entry.fprInfo i).nodeIndex <;>
    simp only [Option.map_none', Option.map_some', Option.toList_none, Option.toList_some, List.append_nil] <;>
    (try split) <;> (try split) <;> simp [LinkState.maps, NodeToRegisterMap.set]

/-- The reverse-map loop over the first `k` registers of a kind records, in order, the registers of that kind holding a
node. -/
theorem maps_foldl_range {f : LinkState → Nat → LinkState} (c e : Nat → Option (NodeIndex × GeneralizedRegister))
    (hf : ∀ st i, (f st i).maps = (⟨st.checkNodeToRegisterMap.payload ++ (c i).toList⟩,
      ⟨st.entryNodeToRegisterMap.payload ++ (e i).toList⟩)) (k : Nat) (st : LinkState) :
    ((List.range k).foldl f st).checkNodeToRegisterMap = ⟨st.checkNodeToRegisterMap.payload ++ (List.range k).filterMap c⟩ ∧
      ((List.range k).foldl f st).entryNodeToRegisterMap =
        ⟨st.entryNodeToRegisterMap.payload ++ (List.range k).filterMap e⟩ := by
  induction k with
  | zero => simp
  | succ k ih =>
    have h := hf ((List.range k).foldl f st) k
    simp only [LinkState.maps, Prod.mk.injEq] at h
    rw [List.range_succ, List.foldl_append, List.foldl_cons, List.foldl_nil, h.1, h.2, ih.1, ih.2]
    cases hc : c k <;> cases he : e k <;> simp [List.filterMap_append, hc, he]

theorem maps_spillGPR (st : LinkState) (i : Nat) : (spillGPR graph check entry st i).maps = st.maps := by
  dsimp only [spillGPR]
  split
  · rfl
  · split <;> simp only [apply_ite LinkState.maps, LinkState.maps_emit, LinkState.maps_link] <;>
      simp only [LinkState.maps, ite_self]

theorem maps_spillFPR (st : LinkState) (i : Nat) : (spillFPR graph check entry st i).maps = st.maps := by
  dsimp only [spillFPR]
  split
  · rfl
  · split <;> simp only [apply_ite LinkState.maps, LinkState.maps_emit, LinkState.maps_link] <;>
      simp only [LinkState.maps, ite_self]

theorem maps_borrowTagMaskRegister (st : LinkState) : (borrowTagMaskRegister st).maps = st.maps := by
  unfold borrowTagMaskRegister; split <;> rfl

theorem kept_shuffleChain (st : LinkState) (i : Nat) : (shuffleChain counts check entry st i).kept = st.kept := by
  dsimp only [shuffleChain]; split
  · rfl
  · exact kept_handleNonCyclingPermutation _ _ _

theorem kept_shuffleCycle (st : LinkState) (i : Nat) : (shuffleCycle counts check entry st i).kept = st.kept := by
  dsimp only [shuffleCycle]; split
  · rfl
  · exact kept_handleCyclingPermutation _ _ _ _ _ _

/-- Part 2 keeps what it never changes. -/
theorem kept_part2 (st : LinkState) :
    ((List.range counts.total).foldl (shuffleCycle counts check entry)
      ((List.range counts.total).foldl (shuffleChain counts check entry) st)).kept = st.kept := by
  rw [foldl_preserves _ kept_shuffleCycle, foldl_preserves _ kept_shuffleChain]

/-- After the two loops building them, the reverse maps are the registers each side holds its nodes in. -/
theorem maps_buildMaps :
    ((List.range counts.fprs).foldl (buildMapsFPR check entry)
      ((List.range counts.gprs).foldl (buildMapsGPR check entry) LinkState.initial)).maps =
      (⟨heldNodes counts check.gprInfo check.fprInfo⟩, ⟨heldNodes counts entry.gprInfo entry.fprInfo⟩) := by
  obtain ⟨g₁, g₂⟩ := maps_foldl_range _ _ (@maps_buildMapsGPR check entry) counts.gprs LinkState.initial
  obtain ⟨f₁, f₂⟩ := maps_foldl_range _ _ (@maps_buildMapsFPR check entry) counts.fprs
    ((List.range counts.gprs).foldl (buildMapsGPR check entry) LinkState.initial)
  simp only [LinkState.maps]
  rw [f₁, f₂, g₁, g₂]
  simp [LinkState.initial, heldNodes]

/-- After Part 1, the reverse maps are the registers each side holds its nodes in. -/
theorem afterPart1_maps :
    (afterPart1 counts graph check entry).maps =
      (⟨heldNodes counts check.gprInfo check.fprInfo⟩, ⟨heldNodes counts entry.gprInfo entry.fprInfo⟩) := by
  rw [afterPart1, foldl_preserves _ maps_spillFPR, maps_borrowTagMaskRegister, foldl_preserves _ maps_spillGPR,
    maps_buildMaps]

/-- After Part 2, the reverse maps are still the registers each side holds its nodes in. -/
theorem afterPart2_maps :
    (afterPart2 counts graph check entry).maps =
      (⟨heldNodes counts check.gprInfo check.fprInfo⟩, ⟨heldNodes counts entry.gprInfo entry.fprInfo⟩) := by
  have h := congrArg Prod.fst (@kept_part2 counts check entry (afterPart1 counts graph check entry))
  simp only [LinkState.kept] at h
  rw [afterPart2, h, afterPart1_maps]

/-- Part 3's test on the check's reverse map: a node needs a fill exactly when no check register delivers it. -/
theorem needsFill_iff (hu : UniqueNodes counts check.gprInfo check.fprInfo) (n : NodeIndex) :
    needsFill check ⟨heldNodes counts check.gprInfo check.fprInfo⟩ n = true ↔ ¬check.Delivers counts n := by
  unfold needsFill SpeculationCheck.Delivers
  cases h : NodeToRegisterMap.find ⟨heldNodes counts check.gprInfo check.fprInfo⟩ n with
  | none =>
    have := NodeToRegisterMap.find_eq_none_iff.mp h
    simp only [true_iff, not_exists, not_and]
    exact fun r hr => absurd hr (this r)
  | some r =>
    have hmem := (NodeToRegisterMap.find_eq_some_iff hu).mp h
    constructor
    · rintro hs ⟨r', hr', hs'⟩
      have : r' = r := Option.some.inj (((NodeToRegisterMap.find_eq_some_iff hu).mpr hr').symm.trans h)
      subst this
      simp_all
    · intro hd
      by_contra hs
      exact hd ⟨r, hmem, by simpa using hs⟩

end Maps

end JavaScriptCore
