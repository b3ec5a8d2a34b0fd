import JavaScriptCore.Theorems.Links

/-!
# Part 1: the spills and `scratchGPR`

Part 1 stores into its home slot every node of a check GPR that the check has not spilled and that the entry wants in memory
or not at all (`spillsGPR`); an `Integer` is boxed in place first. Each spill reads and writes only its own register and its
node's slot, so with distinct slots the loop leaves every slot it wrote holding its register's boxed word and every other
register and word as it was (`afterPart1_spills`, for exits whose nodes are all in GPRs).

On the way, the reverse-map loop and Part 1 pick `scratchGPR`: a GPR holding no node on either side, or a check GPR whose node
the entry does not hold and whose entry register is free; failing both, `tagMaskRegister`, to be restored after Part 3. Either
way it is linked to nothing, so no move of Part 2 reads or writes it (`afterPart1_scratchGPR`).
-/

namespace JavaScriptCore

section Spill

variable (counts : RegisterCounts) (check : SpeculationCheck) (entry : EntryLocation)

/-- Whether Part 1 spills check GPR `i`: it holds a node the check has not spilled, and the entry holds the node in no
register or in one it marks spilled. -/
def spillsGPR (i : Nat) : Bool :=
  (check.gprInfo i).nodeIndex.isSome && !(check.gprInfo i).isSpilled &&
    ((linkTo counts check entry (.gpr (.reg i))).map fun next => (next.findInEntryLocation entry).isSpilled).getD true

/-- The word Part 1 stores for a GPR in format `f` holding `w`: an `Integer` is boxed, in place, first. -/
def spillWord (f : DataFormat) (w : Word) : Word := if f = .integer then w ||| TagTypeNumber else w

/-- The check GPRs Part 1 spills, among the first `counts.gprs`, have nodes with distinct home slots. -/
def DistinctSpillSlots (graph : Graph) : Prop :=
  ∀ i < counts.gprs, ∀ j < counts.gprs, ∀ n n', (check.gprInfo i).nodeIndex = some n → (check.gprInfo j).nodeIndex = some n' →
    spillsGPR counts check entry i = true → spillsGPR counts check entry j = true →
    graph.virtualRegister n = graph.virtualRegister n' → i = j

/-- What Part 1's GPR loop has done over its first `k` registers, from `m` to `m'`: each spilled register's slot holds its
boxed word, and no other slot, no FPR and no register but the spilled ones has changed. -/
structure SpilledGPRs (graph : Graph) (k : Nat) (m m' : Machine) : Prop where
  gpr_eq : ∀ g, (∀ i < k, g = .reg i → spillsGPR counts check entry i = false) → m'.gpr g = m.gpr g
  fpr_eq : m'.fpr = m.fpr
  slot : ∀ i < k, ∀ n, (check.gprInfo i).nodeIndex = some n → spillsGPR counts check entry i = true →
    m'.memory (.frame (graph.virtualRegister n)) = spillWord (check.gprInfo i).format (m.gpr (.reg i))
  memory_eq : ∀ a, (∀ i < k, ∀ n, (check.gprInfo i).nodeIndex = some n → spillsGPR counts check entry i = true →
    a ≠ .frame (graph.virtualRegister n)) → m'.memory a = m.memory a

/-- `scratchGPR` as Part 2 receives it: linked to nothing, not `tagTypeNumberRegister`, and `tagMaskRegister` only when it
is borrowed. -/
structure ScratchGPR (st : LinkState) (g : GPRReg) : Prop where
  linkOf_none : linkOf counts check entry (.gpr g) = none
  linkTo_none : linkTo counts check entry (.gpr g) = none
  ne_tagTypeNumber : g ≠ .tagTypeNumberRegister
  restored : g = .tagMaskRegister → st.needToRestoreTagMaskRegister = true

/-- Before the borrow, `scratchGPR` is unset or an allocatable GPR linked to nothing. -/
def FreeScratch (st : LinkState) : Prop :=
  ∀ g, st.scratchGPR = some g → ∃ i, g = .reg i ∧ linkOf counts check entry (.gpr (.reg i)) = none ∧
    linkTo counts check entry (.gpr (.reg i)) = none

end Spill

section Part1

variable {counts : RegisterCounts} {graph : Graph} {check : SpeculationCheck} {entry : EntryLocation}

/-- One step of Part 1's GPR loop: it stores the boxed word of a spilled register into its node's slot and emits nothing
else. -/
theorem exec_spillGPR (st : LinkState) {i : Nat} (hi : i < counts.gprs)
    (hmap : st.entryNodeToRegisterMap = ⟨heldNodes counts entry.gprInfo entry.fprInfo⟩) :
    ∃ c, (spillGPR graph check entry st i).code = st.code ++ c ∧
      ∀ m : Machine, m.gpr .tagTypeNumberRegister = TagTypeNumber →
        exec m c = match (check.gprInfo i).nodeIndex with
          | some n =>
            if spillsGPR counts check entry i then
              (m.setGPR (.reg i) (spillWord (check.gprInfo i).format (m.gpr (.reg i)))).store
                (.frame (graph.virtualRegister n)) (spillWord (check.gprInfo i).format (m.gpr (.reg i)))
            else m
          | none => m := by
  have hto : linkTo counts check entry (.gpr (.reg i)) =
      (check.gprInfo i).nodeIndex.bind st.entryNodeToRegisterMap.find := by
    simp [linkTo, nodeIn, hi, hmap]
  have hrun : ∀ (m : Machine) (n : NodeIndex), m.gpr .tagTypeNumberRegister = TagTypeNumber →
      exec m (ops ((if (check.gprInfo i).format = .integer then [.orPtr .tagTypeNumberRegister (.reg i)] else []) ++
        [.storePtr (.reg i) (.frame (graph.virtualRegister n))])) =
      (m.setGPR (.reg i) (spillWord (check.gprInfo i).format (m.gpr (.reg i)))).store
        (.frame (graph.virtualRegister n)) (spillWord (check.gprInfo i).format (m.gpr (.reg i))) := by
    intro m n hm
    by_cases hf : (check.gprInfo i).format = .integer <;> simp [hf, spillWord, Op.exec, hm]
  refine ⟨match (check.gprInfo i).nodeIndex with
    | some n => if spillsGPR counts check entry i then ops ((if (check.gprInfo i).format = .integer then
        [.orPtr .tagTypeNumberRegister (.reg i)] else []) ++ [.storePtr (.reg i) (.frame (graph.virtualRegister n))])
      else []
    | none => [], ?_, fun m hm => ?_⟩
  · simp only [spillsGPR, hto]
    dsimp only [spillGPR]
    cases (check.gprInfo i).nodeIndex with
    | none => simp
    | some n =>
      simp only [Option.some_bind, Option.isSome_some, Bool.true_and]
      cases st.entryNodeToRegisterMap.find n with
      | some next =>
        cases hs : (next.findInEntryLocation entry).isSpilled <;> cases hc : (check.gprInfo i).isSpilled <;> simp [hs, hc]
      | none => cases hc : (check.gprInfo i).isSpilled <;> simp [hc] <;> split <;> rfl
  · cases (check.gprInfo i).nodeIndex with
    | none => rfl
    | some n =>
      simp only
      split
      · exact hrun m n hm
      · rfl

/-- A register holding no node is not spilled. -/
theorem spillsGPR_of_none {i : Nat} (h : (check.gprInfo i).nodeIndex = none) : spillsGPR counts check entry i = false := by
  simp [spillsGPR, h]

/-- The loop invariant of Part 1's GPR loop, one register further. -/
theorem SpilledGPRs.step {k : Nat} (hk : k < counts.gprs) (hslots : DistinctSpillSlots counts check entry graph)
    {m m' : Machine} (h : SpilledGPRs counts check entry graph k m m') :
    SpilledGPRs counts check entry graph (k + 1) m
      (match (check.gprInfo k).nodeIndex with
        | some n =>
          if spillsGPR counts check entry k then
            (m'.setGPR (.reg k) (spillWord (check.gprInfo k).format (m'.gpr (.reg k)))).store
              (.frame (graph.virtualRegister n)) (spillWord (check.gprInfo k).format (m'.gpr (.reg k)))
          else m'
        | none => m') := by
  obtain ⟨hgpr, hfpr, hslot, hmem⟩ := h
  cases hn : (check.gprInfo k).nodeIndex with
  | none =>
    have hs := @spillsGPR_of_none counts check entry k hn
    refine ⟨fun g hg => hgpr g fun i hi => hg i (by omega), hfpr, fun i hi n' hn' hs' => ?_,
      fun a ha => hmem a fun i hi => ha i (by omega)⟩
    rcases Nat.lt_succ_iff_lt_or_eq.mp hi with hi | rfl
    · exact hslot i hi n' hn' hs'
    · simp_all
  | some n =>
    simp only
    by_cases hs : spillsGPR counts check entry k
    · have hkk : m'.gpr (.reg k) = m.gpr (.reg k) := hgpr _ fun i hi h => by cases h; omega
      simp only [hs, if_true, hkk]
      refine ⟨fun g hg => ?_, by simp [hfpr], fun i hi n' hn' hs' => ?_, fun a ha => ?_⟩
      · have hgk : g ≠ .reg k := fun h => by simp [hg k (Nat.lt_succ_self k) h] at hs
        simp [hgk, hgpr g fun i hi => hg i (by omega)]
      · rcases Nat.lt_succ_iff_lt_or_eq.mp hi with hi | rfl
        · have hne : (Address.frame (graph.virtualRegister n')) ≠ .frame (graph.virtualRegister n) := fun he => by
            have := hslots i (by omega) k hk n' n hn' hn hs' hs (Address.frame.inj he)
            omega
          simp [Machine.store, Function.update_apply, hne, hslot i hi n' hn' hs']
        · obtain rfl : n' = n := Option.some.inj (hn'.symm.trans hn)
          simp [Machine.store]
      · have hne : a ≠ .frame (graph.virtualRegister n) := ha k (Nat.lt_succ_self k) n hn hs
        simp [Machine.store, Function.update_apply, hne, hmem a fun i hi => ha i (by omega)]
    · simp only [hs, if_false, Bool.false_eq_true]
      refine ⟨fun g hg => hgpr g fun i hi => hg i (by omega), hfpr, fun i hi n' hn' hs' => ?_,
        fun a ha => hmem a fun i hi => ha i (by omega)⟩
      rcases Nat.lt_succ_iff_lt_or_eq.mp hi with hi | rfl
      · exact hslot i hi n' hn' hs'
      · simp_all

/-- A check FPR holding no node leaves Part 1's state alone. -/
theorem spillFPR_of_none (st : LinkState) {i : Nat} (h : (check.fprInfo i).nodeIndex = none) :
    spillFPR graph check entry st i = st := by
  dsimp only [spillFPR]
  rw [h]

/-- Part 1 at an exit whose check holds no node in an FPR: the spills of its GPR loop, and nothing else. -/
theorem afterPart1_spills (hfpr : ∀ i < counts.fprs, (check.fprInfo i).nodeIndex = none)
    (hslots : DistinctSpillSlots counts check entry graph) (m : Machine)
    (hm : m.gpr .tagTypeNumberRegister = TagTypeNumber) :
    SpilledGPRs counts check entry graph counts.gprs m (exec m (afterPart1 counts graph check entry).code) := by
  have hmaps := @maps_buildMaps counts check entry
  have hinit := @buildMaps_shuffled_code counts check entry
  simp only [afterPart1]
  generalize (List.range counts.fprs).foldl (buildMapsFPR check entry) _ = st0 at hmaps hinit ⊢
  have hF : ∀ st, (List.range counts.fprs).foldl (spillFPR graph check entry) st = st := fun st =>
    foldl_range_invariant _ (fun _ st' => st' = st) _ st rfl fun i hi st' h => (spillFPR_of_none st' (hfpr i hi)).trans h
  rw [hF]
  have hG := foldl_range_invariant (spillGPR graph check entry)
    (fun k st => st.entryNodeToRegisterMap = ⟨heldNodes counts entry.gprInfo entry.fprInfo⟩ ∧
      ∀ m : Machine, m.gpr .tagTypeNumberRegister = TagTypeNumber →
        SpilledGPRs counts check entry graph k m (exec m st.code)) counts.gprs st0
    ⟨congrArg Prod.snd hmaps, fun m _ => by
      rw [hinit.2]; exact ⟨fun _ _ => rfl, rfl, fun _ h => absurd h (Nat.not_lt_zero _), fun _ _ => rfl⟩⟩
    (fun i hi st ⟨hmap, hsem⟩ => by
      obtain ⟨c, hc, hexec⟩ := @exec_spillGPR counts graph check entry st i hi hmap
      refine ⟨(congrArg Prod.snd (maps_spillGPR st i)).trans hmap, fun m hm => ?_⟩
      have h := hsem m hm
      have htag : (exec m st.code).gpr .tagTypeNumberRegister = TagTypeNumber := by
        rw [h.gpr_eq .tagTypeNumberRegister (fun _ _ h => nomatch h), hm]
      rw [hc, exec_append, hexec _ htag]
      exact h.step hi hslots)
  obtain ⟨-, hsem⟩ := hG
  have hcode : (borrowTagMaskRegister ((List.range counts.gprs).foldl (spillGPR graph check entry) st0)).code =
      ((List.range counts.gprs).foldl (spillGPR graph check entry) st0).code := by
    unfold borrowTagMaskRegister; split <;> rfl
  rw [hcode]
  exact hsem m hm

/-! ### `scratchGPR` -/

/-- A GPR the entry holds nothing in has no `previous`. -/
theorem linkOf_of_entry_none {i : Nat} (h : (entry.gprInfo i).nodeIndex = none) :
    linkOf counts check entry (.gpr (.reg i)) = none := by
  simp only [linkOf, nodeIn]; split <;> simp [h]

/-- A GPR the check holds nothing in is linked to nothing. -/
theorem linkTo_of_check_none {i : Nat} (h : (check.gprInfo i).nodeIndex = none) :
    linkTo counts check entry (.gpr (.reg i)) = none := by
  simp only [linkTo, nodeIn]; split <;> simp [h]

theorem scratchGPR_buildMapsGPR (st : LinkState) (i : Nat) :
    (buildMapsGPR check entry st i).scratchGPR =
      if (check.gprInfo i).nodeIndex = none ∧ (entry.gprInfo i).nodeIndex = none then some (.reg i) else st.scratchGPR := by
  unfold buildMapsGPR
  cases (check.gprInfo i).nodeIndex <;> cases (entry.gprInfo i).nodeIndex <;> simp

/-- The reverse-map loops leave `scratchGPR` free. -/
theorem freeScratch_buildMaps :
    FreeScratch counts check entry ((List.range counts.fprs).foldl (buildMapsFPR check entry)
      ((List.range counts.gprs).foldl (buildMapsGPR check entry) LinkState.initial)) := by
  have hF : ∀ st i, (buildMapsFPR check entry st i).scratchGPR = st.scratchGPR := by
    intro st i
    unfold buildMapsFPR
    cases (check.fprInfo i).nodeIndex <;> cases (entry.fprInfo i).nodeIndex <;> simp
    split <;> rfl
  have hG : FreeScratch counts check entry ((List.range counts.gprs).foldl (buildMapsGPR check entry) LinkState.initial) :=
    foldl_range_invariant _ (fun _ st => FreeScratch counts check entry st) _ _ (fun g h => by cases h)
      fun i _ st ih g hg => by
        rw [scratchGPR_buildMapsGPR] at hg
        split at hg
        · rename_i hn
          obtain rfl := Option.some.inj hg
          exact ⟨i, rfl, linkOf_of_entry_none hn.2, linkTo_of_check_none hn.1⟩
        · exact ih g hg
  intro g hg
  rw [foldl_preserves LinkState.scratchGPR hF] at hg
  exact hG g hg

theorem scratchGPR_spillGPR (st : LinkState) (i : Nat) :
    (spillGPR graph check entry st i).scratchGPR =
      match (check.gprInfo i).nodeIndex with
      | some n =>
        if st.entryNodeToRegisterMap.find n = none ∧ (entry.gprInfo i).nodeIndex = none then some (.reg i)
        else st.scratchGPR
      | none => st.scratchGPR := by
  dsimp only [spillGPR]
  cases (check.gprInfo i).nodeIndex with
  | none => rfl
  | some n =>
    cases hf : st.entryNodeToRegisterMap.find n with
    | some next =>
      simp only [hf, reduceCtorEq, false_and, if_false]
      split <;> (try split) <;> rfl
    | none =>
      by_cases he : (entry.gprInfo i).nodeIndex = none <;> simp only [hf, he, true_and, ↓reduceIte] <;> split <;> rfl

/-- Part 1's GPR loop keeps `scratchGPR` free: it takes a check GPR whose node the entry does not hold and whose entry
register is free. -/
theorem freeScratch_spillGPR (st : LinkState) {i : Nat} (hi : i < counts.gprs)
    (hmap : st.entryNodeToRegisterMap = ⟨heldNodes counts entry.gprInfo entry.fprInfo⟩)
    (h : FreeScratch counts check entry st) : FreeScratch counts check entry (spillGPR graph check entry st i) := by
  have hto : linkTo counts check entry (.gpr (.reg i)) =
      (check.gprInfo i).nodeIndex.bind st.entryNodeToRegisterMap.find := by
    simp [linkTo, nodeIn, hi, hmap]
  intro g hg
  rw [scratchGPR_spillGPR] at hg
  revert hg
  cases hn : (check.gprInfo i).nodeIndex with
  | none => exact h g
  | some n =>
    simp only
    split
    · rename_i he
      intro hg
      obtain rfl := Option.some.inj hg
      exact ⟨i, rfl, linkOf_of_entry_none he.2, by rw [hto, hn, Option.some_bind, he.1]⟩
    · exact h g

/-- With no `scratchGPR` yet, Part 1 borrows `tagMaskRegister` and will restore it. -/
theorem scratchGPR_borrowTagMaskRegister {st : LinkState} (h : FreeScratch counts check entry st) :
    ∃ g, (borrowTagMaskRegister st).scratchGPR = some g ∧ ScratchGPR counts check entry (borrowTagMaskRegister st) g := by
  unfold borrowTagMaskRegister
  split
  · exact ⟨.tagMaskRegister, rfl, ⟨by simp [linkOf, nodeIn], by simp [linkTo, nodeIn], by simp, fun _ => rfl⟩⟩
  · obtain ⟨g, hg⟩ := Option.ne_none_iff_exists'.mp ‹_›
    obtain ⟨i, rfl, h₁, h₂⟩ := h g hg
    exact ⟨.reg i, hg, ⟨h₁, h₂, by simp, by simp⟩⟩

/-- The part of the state `scratchGPR` is judged by. -/
theorem scratch_spillFPR (st : LinkState) (i : Nat) :
    ((spillFPR graph check entry st i).scratchGPR, (spillFPR graph check entry st i).needToRestoreTagMaskRegister) =
      (st.scratchGPR, st.needToRestoreTagMaskRegister) := by
  dsimp only [spillFPR]
  split
  · rfl
  · split <;> simp only [apply_ite LinkState.scratchGPR, apply_ite LinkState.needToRestoreTagMaskRegister,
      LinkState.link, LinkState.modify, LinkState.emit, ite_self]

/-- Part 1 leaves a `scratchGPR` that no move of Part 2 touches: linked to nothing, not `tagTypeNumberRegister`, and
`tagMaskRegister` only if Part 3 restores it. -/
theorem afterPart1_scratchGPR :
    ∃ g, (afterPart1 counts graph check entry).scratchGPR = some g ∧
      ScratchGPR counts check entry (afterPart1 counts graph check entry) g := by
  have hmaps := @maps_buildMaps counts check entry
  have hfree := @freeScratch_buildMaps counts check entry
  simp only [afterPart1]
  generalize (List.range counts.fprs).foldl (buildMapsFPR check entry) _ = st0 at hmaps hfree ⊢
  obtain ⟨-, hG⟩ := foldl_range_invariant (spillGPR graph check entry)
    (fun _ st => st.entryNodeToRegisterMap = ⟨heldNodes counts entry.gprInfo entry.fprInfo⟩ ∧
      FreeScratch counts check entry st) counts.gprs st0 ⟨congrArg Prod.snd hmaps, hfree⟩
    (fun i hi st ⟨hmap, h⟩ => ⟨(congrArg Prod.snd (maps_spillGPR st i)).trans hmap, freeScratch_spillGPR st hi hmap h⟩)
  obtain ⟨g, hg, hs⟩ := scratchGPR_borrowTagMaskRegister hG
  have hF := foldl_preserves (fun st => (st.scratchGPR, st.needToRestoreTagMaskRegister))
    (@scratch_spillFPR graph check entry)
    (List.range counts.fprs) (borrowTagMaskRegister ((List.range counts.gprs).foldl (spillGPR graph check entry) st0))
  simp only [Prod.mk.injEq] at hF
  exact ⟨g, hF.1.trans hg, ⟨hs.1, hs.2, hs.3, fun h => hF.2.trans (hs.4 h)⟩⟩

end Part1

end JavaScriptCore
