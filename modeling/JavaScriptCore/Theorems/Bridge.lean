import JavaScriptCore.Theorems.Resolve
import JavaScriptCore.Theorems.Fill

/-!
# The bridge between GPRs: every entry register receives its node

`jumpFromSpeculativeToNonSpeculative` is to leave the machine as the entry point expects it: every entry register holding
its node's value in the entry's format, every node the baseline code reads from memory in its home slot, and
`tagMaskRegister` restored. This holds, by design, only for entry registers the entry does not mark spilled: Part 3 skips
those, and an entry register marked spilled whose node no check register holds keeps whatever it held
(`part3_leaves_spilled_entry_register_stale`); the baseline code reloads such a node from its slot.

At an exit whose nodes all sit in GPRs (`GPRExit`) the rest holds (`jumpFromSpeculativeToNonSpeculative_reaches_entry`).
Part 1 stores the values the entry wants in memory (`afterPart1_spills`), Part 2 is a parallel move (`afterPart2_moves`),
and Part 3 fills what no check register delivered (`exec_fillGPRs`).

The exits with nodes in FPRs are left out, because there Part 2 loses values. Its moves from a GPR into an FPR unbox without
testing the tag (`moveTo_integer_gpr_to_fpr_loses_value`, `swapWith_gpr_fpr_loses_value`). Its FPR temporaries, for the
`branchConvertDoubleToInt32` that boxes an FPR and for the swap of two FPRs, are the FPRs the chain walk records as free, and
it records `cur`, the register its move has just written, not `cur->previous`, the one it has just read: the first FPR
recorded holds an entry value from then on, and a later use of the temporary destroys it, in a later cycle
(`shuffle_scratch_overwrites_delivered_value`) or in the next move of the same chain (`chain_walk_loses_delivered_double`).
A cycle of three FPRs with one FPR temporary saves a node through `scratchGPR` as a `JSDouble`, where an integral double is
boxed as an int32, and unboxes it as a double (`cycle_of_fprs_loses_integral_double`).
-/

namespace JavaScriptCore

section Exit

variable (counts : RegisterCounts) (graph : Graph) (check : SpeculationCheck) (entry : EntryLocation)

/-- An exit whose nodes all sit in GPRs, from a machine `m` after the recovery pre-pass in which node `n` has the value
`v n`: each check GPR holds its node's value in the check's format; a node the check has spilled, or that the entry holds
and no check register holds unspilled, has its value in its home slot or its constant; a constant the check holds is that
value; and the nodes of the check's GPRs have home slots distinct from every other node's. -/
structure GPRExit (m : Machine) (v : NodeIndex → JSValue) : Prop where
  maps : GPRMaps counts check entry
  pinned : m.Pinned
  check_value : ∀ i < counts.gprs, ∀ n ∈ (check.gprInfo i).nodeIndex,
    denote (check.gprInfo i).format (m.gpr (.reg i)) = some (v n)
  entry_fits : ∀ j < counts.gprs, ∀ n ∈ (entry.gprInfo j).nodeIndex, (v n).fits (entry.gprInfo j).format
  check_home : ∀ i < counts.gprs, ∀ n ∈ (check.gprInfo i).nodeIndex, (check.gprInfo i).isSpilled = true →
    graph.valueAt m.memory n = v n
  entry_home : ∀ j < counts.gprs, ∀ n ∈ (entry.gprInfo j).nodeIndex,
    (∀ i < counts.gprs, (check.gprInfo i).nodeIndex = some n → (check.gprInfo i).isSpilled = true) →
    graph.valueAt m.memory n = v n
  constant : ∀ i < counts.gprs, ∀ n ∈ (check.gprInfo i).nodeIndex, ∀ c ∈ graph.constant n, c.value = v n
  check_slots : ∀ i < counts.gprs, ∀ j < counts.gprs, ∀ n ∈ (check.gprInfo i).nodeIndex,
    ∀ n' ∈ (check.gprInfo j).nodeIndex, graph.virtualRegister n = graph.virtualRegister n' → n = n'
  entry_slots : ∀ i < counts.gprs, ∀ j < counts.gprs, ∀ n ∈ (check.gprInfo i).nodeIndex,
    ∀ n' ∈ (entry.gprInfo j).nodeIndex, graph.virtualRegister n = graph.virtualRegister n' → n = n'

/-- The machine `m'` as the entry point expects it, for the node values `v`: every entry GPR the entry does not mark spilled
holds its node's value in the entry's format; every node the entry marks spilled, and every node of a check GPR that no
entry GPR holds, has its value in its home slot or its constant; and `tagMaskRegister` holds `TagMask`. -/
structure AtEntry (v : NodeIndex → JSValue) (m' : Machine) : Prop where
  registers : ∀ j < counts.gprs, ∀ n ∈ (entry.gprInfo j).nodeIndex, (entry.gprInfo j).isSpilled = false →
    denote (entry.gprInfo j).format (m'.gpr (.reg j)) = some (v n)
  spilled : ∀ j < counts.gprs, ∀ n ∈ (entry.gprInfo j).nodeIndex, (entry.gprInfo j).isSpilled = true →
    graph.valueAt m'.memory n = v n
  dropped : ∀ i < counts.gprs, ∀ n ∈ (check.gprInfo i).nodeIndex,
    (∀ j < counts.gprs, (entry.gprInfo j).nodeIndex ≠ some n) → graph.valueAt m'.memory n = v n
  tagMask : m'.gpr .tagMaskRegister = TagMask

end Exit

/-! ### Part 1's stores, read back -/

/-- The word Part 1 stores decodes to the register's value: a GPR's format is not `Double`, so its word is boxed already or is
an `Integer` that the store boxes. -/
theorem decode_spillWord {f : DataFormat} {w : Word} {v : JSValue} (hf : f ≠ .double) (hw : denote f w = some v) :
    JSValue.decode (spillWord f w) = v := by
  have hconv : spillWord f w = gprConversion f .js w := by
    cases f <;> simp_all [spillWord, gprConversion, needDataFormatConversion]
  have h := @denote_gprConversion f .js w v hw (by cases v <;> rfl) hf (by simp)
  rw [← hconv] at h
  simp only [denote, Option.ite_none_right_eq_some, Option.some.injEq] at h
  exact h.2

/-- A node's value outside the registers depends only on its home slot. -/
theorem Graph.valueAt_congr (graph : Graph) {mem mem' : Address → Word} {n : NodeIndex}
    (h : mem' (.frame (graph.virtualRegister n)) = mem (.frame (graph.virtualRegister n))) :
    graph.valueAt mem' n = graph.valueAt mem n := by
  unfold Graph.valueAt
  rw [h]

section Lemmas

variable {counts : RegisterCounts} {graph : Graph} {check : SpeculationCheck} {entry : EntryLocation}

/-- A side holds a node in one GPR at most. -/
theorem gpr_inj {gprInfo fprInfo : Nat → RegisterInfo} (hu : UniqueNodes counts gprInfo fprInfo) {i j : Nat}
    (hi : i < counts.gprs) (hj : j < counts.gprs) {n : NodeIndex} (hin : (gprInfo i).nodeIndex = some n)
    (hjn : (gprInfo j).nodeIndex = some n) : i = j := by
  have := @nodeIn_inj counts gprInfo fprInfo hu n (.gpr (.reg i)) (.gpr (.reg j)) (by simp [nodeIn, hi, hin])
    (by simp [nodeIn, hj, hjn])
  simpa using this

namespace GPRMaps

variable (hm : GPRMaps counts check entry)
include hm

/-- A node the check delivers is in a check GPR it has not spilled. -/
theorem delivers_iff {n : NodeIndex} :
    check.Delivers counts n ↔
      ∃ i < counts.gprs, (check.gprInfo i).nodeIndex = some n ∧ (check.gprInfo i).isSpilled = false := by
  constructor
  · rintro ⟨r, hr, hs⟩
    obtain ⟨i, hi, rfl, hn⟩ := nodeIn_gpr hm.check_fpr (mem_heldNodes_iff.mp hr)
    exact ⟨i, hi, hn, hs⟩
  · rintro ⟨i, hi, hn, hs⟩
    exact ⟨.gpr (.reg i), mem_heldNodes_iff.mpr (by simp [nodeIn, hi, hn]), hs⟩

/-- Part 1 leaves a check GPR alone when the entry wants its node in a register it has not spilled. -/
theorem spillsGPR_eq_false {i j : Nat} (hi : i < counts.gprs) (hj : j < counts.gprs) {n : NodeIndex}
    (hin : (check.gprInfo i).nodeIndex = some n) (hjn : (entry.gprInfo j).nodeIndex = some n)
    (hjs : (entry.gprInfo j).isSpilled = false) : spillsGPR counts check entry i = false := by
  have hto : linkTo counts check entry (.gpr (.reg i)) = some (.gpr (.reg j)) :=
    (linkTo_eq_some hm.entry_unique).mpr ⟨n, by simp [nodeIn, hj, hjn], by simp [nodeIn, hi, hin]⟩
  simp [spillsGPR, hto, GeneralizedRegister.findInEntryLocation, hjs]

/-- Part 1 spills a check GPR holding a node the check has not spilled, when every entry GPR holding the node is spilled. -/
theorem spillsGPR_eq_true {i : Nat} (hi : i < counts.gprs) {n : NodeIndex} (hin : (check.gprInfo i).nodeIndex = some n)
    (his : (check.gprInfo i).isSpilled = false)
    (hj : ∀ j < counts.gprs, (entry.gprInfo j).nodeIndex = some n → (entry.gprInfo j).isSpilled = true) :
    spillsGPR counts check entry i = true := by
  cases hto : linkTo counts check entry (.gpr (.reg i)) with
  | none => simp [spillsGPR, hto, hin, his]
  | some s =>
    obtain ⟨n', hs, hn'⟩ := (linkTo_eq_some hm.entry_unique).mp hto
    obtain rfl : n' = n := by simpa [nodeIn, hi, hin] using hn'.symm
    obtain ⟨j, hj', rfl, hjn⟩ := nodeIn_gpr hm.entry_fpr hs
    simp [spillsGPR, hto, hin, his, GeneralizedRegister.findInEntryLocation, hj j hj' hjn]

/-- An entry GPR's `previous` is the check GPR holding its node. -/
theorem linkOf_reg {i j : Nat} (hi : i < counts.gprs) (hj : j < counts.gprs) {n : NodeIndex}
    (hin : (check.gprInfo i).nodeIndex = some n) (hjn : (entry.gprInfo j).nodeIndex = some n) :
    linkOf counts check entry (.gpr (.reg j)) = some (.gpr (.reg i)) :=
  (linkOf_eq_some hm.check_unique).mpr ⟨n, by simp [nodeIn, hj, hjn], by simp [nodeIn, hi, hin]⟩

/-- A node the check does not deliver is spilled in every check GPR holding it. -/
theorem isSpilled_of_not_delivers {n : NodeIndex} (hd : ¬check.Delivers counts n) :
    ∀ i < counts.gprs, (check.gprInfo i).nodeIndex = some n → (check.gprInfo i).isSpilled = true := by
  intro i hi hin
  by_contra hs
  exact hd (hm.delivers_iff.mpr ⟨i, hi, hin, by simpa using hs⟩)

end GPRMaps

/-- A spilled check GPR holds a node the check has not spilled. -/
theorem isSpilled_of_spillsGPR {i : Nat} (h : spillsGPR counts check entry i = true) :
    (check.gprInfo i).isSpilled = false := by
  simp only [spillsGPR, Bool.and_eq_true, Bool.not_eq_true'] at h
  exact h.1.2

end Lemmas

section Bridge

variable {counts : RegisterCounts} {graph : Graph} {check : SpeculationCheck} {entry : EntryLocation} {m : Machine}
  {v : NodeIndex → JSValue}

namespace GPRExit

variable (h : GPRExit counts graph check entry m v)
include h

/-- The nodes of the check's GPRs have distinct slots, so the stores of Part 1 do not overlap. -/
theorem distinctSpillSlots : DistinctSpillSlots counts check entry graph := fun i hi j hj n n' hn hn' _ _ hvr =>
  gpr_inj h.maps.check_unique hi hj hn (h.check_slots i hi j hj n hn n' hn' hvr ▸ hn')

/-- Part 1 stores no node the check does not deliver, so such a node keeps its value outside the registers. -/
theorem valueAt_of_not_delivers {m₁ : Machine} (hP1 : SpilledGPRs counts check entry graph counts.gprs m m₁)
    {n : NodeIndex} (hd : ¬check.Delivers counts n)
    (hheld : (∃ i < counts.gprs, n ∈ (check.gprInfo i).nodeIndex) ∨ ∃ j < counts.gprs, n ∈ (entry.gprInfo j).nodeIndex) :
    graph.valueAt m₁.memory n = graph.valueAt m.memory n := by
  refine graph.valueAt_congr (hP1.memory_eq _ fun i hi n' hn' hs heq => hd ?_)
  have hvr := Address.frame.inj heq
  obtain rfl : n' = n := by
    rcases hheld with ⟨j, hj, hn⟩ | ⟨j, hj, hn⟩
    · exact h.check_slots i hi j hj n' hn' n hn hvr.symm
    · exact h.entry_slots i hi j hj n' hn' n hn hvr.symm
  exact h.maps.delivers_iff.mpr ⟨i, hi, hn', isSpilled_of_spillsGPR hs⟩

/-- A node Part 1 stores has its value in its slot from then on. -/
theorem valueAt_of_spillsGPR {m₁ : Machine} (hP1 : SpilledGPRs counts check entry graph counts.gprs m m₁) {i : Nat}
    (hi : i < counts.gprs) {n : NodeIndex} (hn : n ∈ (check.gprInfo i).nodeIndex)
    (hs : spillsGPR counts check entry i = true) : graph.valueAt m₁.memory n = v n := by
  unfold Graph.valueAt
  cases hc : graph.constant n with
  | some c => exact h.constant i hi n hn c hc
  | none =>
    rw [hP1.slot i hi n hn hs]
    exact decode_spillWord (h.maps.check_format i hi (by simp [Option.mem_def.mp hn])) (h.check_value i hi n hn)

/-- An entry GPR whose node a check GPR delivers receives it from Part 2, in the entry's format: Part 1 has not touched the
check GPR, since the entry wants the node in a register. -/
theorem denote_moveTarget {m₁ : Machine} (hP1 : SpilledGPRs counts check entry graph counts.gprs m m₁) {i j : Nat}
    (hi : i < counts.gprs) (hj : j < counts.gprs) {n : NodeIndex} (hin : (check.gprInfo i).nodeIndex = some n)
    (hn : (entry.gprInfo j).nodeIndex = some n) (hjs : (entry.gprInfo j).isSpilled = false) :
    denote (entry.gprInfo j).format (moveTarget check entry (linkOf counts check entry) m₁ (.reg j)) = some (v n) := by
  rw [moveTarget_of_prev (h.maps.linkOf_reg hi hj hin hn), hP1.gpr_eq (.reg i) fun i' _ e => by
    cases e; exact h.maps.spillsGPR_eq_false hi hj hin hn hjs]
  exact denote_gprConversion (h.check_value i hi n hin) (h.entry_fits j hj n hn)
    (h.maps.check_format i hi (by simp [hin])) (h.maps.entry_format j hj (by simp [hn]))

/-- The code, part by part: the spills of Part 1 from `m` to `m₁`, the parallel move of Part 2 to `m₂` (of every GPR but
`scratchGPR`), the fills of Part 3 to `m₃`, and last the restoration of `tagMaskRegister`. -/
theorem run : ∃ sc m₁ m₂ m₃, ScratchGPR counts check entry (afterPart1 counts graph check entry) sc ∧
    SpilledGPRs counts check entry graph counts.gprs m m₁ ∧
    (∀ g, g ≠ sc → m₂.gpr g = moveTarget check entry (linkOf counts check entry) m₁ g) ∧ m₂.memory = m₁.memory ∧
    FilledGPRs counts graph check entry counts.gprs m₂ m₃ ∧
    (∀ j, (exec m (afterPart3 counts graph check entry).code).gpr (.reg j) = m₃.gpr (.reg j)) ∧
    (exec m (afterPart3 counts graph check entry).code).memory = m₃.memory ∧
    (exec m (afterPart3 counts graph check entry).code).gpr .tagMaskRegister =
      if (afterPart1 counts graph check entry).needToRestoreTagMaskRegister then TagMask else m₃.gpr .tagMaskRegister := by
  have hm := h.maps
  have hP1 := afterPart1_spills hm.check_fpr h.distinctSpillSlots m h.pinned.1
  obtain ⟨c2, hc2, hsem2⟩ := @afterPart2_moves counts graph check entry hm
  obtain ⟨sc, hsg, hS⟩ := @afterPart1_scratchGPR counts graph check entry
  rw [hsg, Option.getD_some] at hsem2
  have hrestore : (afterPart2 counts graph check entry).needToRestoreTagMaskRegister =
      (afterPart1 counts graph check entry).needToRestoreTagMaskRegister :=
    congrArg (·.2.2) (@kept_part2 counts check entry (afterPart1 counts graph check entry))
  have hnoF : (List.range counts.fprs).flatMap
      (fillFPR graph check entry (afterPart2 counts graph check entry).checkNodeToRegisterMap) = [] :=
    List.flatMap_eq_nil_iff.mpr fun i hi => by simp [fillFPR, hm.entry_fpr i (List.mem_range.mp hi)]
  have hmaps : (afterPart2 counts graph check entry).checkNodeToRegisterMap =
      ⟨heldNodes counts check.gprInfo check.fprInfo⟩ := congrArg Prod.fst afterPart2_maps
  rw [afterPart3_code, hc2, hnoF, hmaps, hrestore, List.nil_append]
  simp only [exec_append]
  have htag₁ : (exec m (afterPart1 counts graph check entry).code).gpr .tagTypeNumberRegister = TagTypeNumber := by
    rw [hP1.gpr_eq .tagTypeNumberRegister (fun _ _ h => nomatch h), h.pinned.1]
  obtain ⟨hg2, -, hmem2⟩ := hsem2 _ htag₁
  refine ⟨sc, _, _, _, hS, hP1, hg2, hmem2, exec_fillGPRs hm.check_unique counts.gprs fun j hj n hown =>
    ⟨hm.entry_format j hj (by simp [hown.1]), ?_⟩, ?_⟩
  · rw [hmem2, h.valueAt_of_not_delivers hP1 hown.2.2 (.inr ⟨j, hj, hown.1⟩),
      h.entry_home j hj n hown.1 (hm.isSpilled_of_not_delivers hown.2.2)]
    exact h.entry_fits j hj n hown.1
  · cases (afterPart1 counts graph check entry).needToRestoreTagMaskRegister <;> simp [Op.exec]

end GPRExit

/-- At an exit whose nodes all sit in GPRs, the code `jumpFromSpeculativeToNonSpeculative` emits after the recovery pre-pass
leaves the machine as the entry point expects it. -/
theorem jumpFromSpeculativeToNonSpeculative_reaches_entry (h : GPRExit counts graph check entry m v) :
    AtEntry counts graph check entry v (exec m (afterPart3 counts graph check entry).code) := by
  have hm := h.maps
  obtain ⟨sc, m₁, m₂, m₃, hS, hP1, hg2, hmem2, ⟨howed, hg3, -, hmem3⟩, hR1, hR2, hR3⟩ := h.run
  -- a node the check does not deliver, held on either side, keeps its value outside the registers
  have hkept : ∀ n, ¬check.Delivers counts n →
      ((∃ i < counts.gprs, n ∈ (check.gprInfo i).nodeIndex) ∨ ∃ j < counts.gprs, n ∈ (entry.gprInfo j).nodeIndex) →
      graph.valueAt (exec m (afterPart3 counts graph check entry).code).memory n = graph.valueAt m.memory n :=
    fun n hd hheld => by rw [hR2, hmem3, hmem2, h.valueAt_of_not_delivers hP1 hd hheld]
  have hstored : ∀ i < counts.gprs, ∀ n ∈ (check.gprInfo i).nodeIndex, spillsGPR counts check entry i = true →
      graph.valueAt (exec m (afterPart3 counts graph check entry).code).memory n = v n :=
    fun i hi n hn hs => by rw [hR2, hmem3, hmem2, h.valueAt_of_spillsGPR hP1 hi hn hs]
  refine ⟨fun j hj n hn hjs => ?_, fun j hj n hn hjs => ?_, fun i hi n hn hnone => ?_, ?_⟩
  · -- an entry register not spilled: moved by Part 2, or else filled by Part 3
    rw [hR1]
    by_cases hd : check.Delivers counts n
    · obtain ⟨i, hi, hin, -⟩ := hm.delivers_iff.mp hd
      have hjsc : GPRReg.reg j ≠ sc := fun e => by
        have := hS.linkOf_none
        rw [← e, hm.linkOf_reg hi hj hin hn] at this
        cases this
      rw [hg3 _ fun j' e => by
          cases e
          exact .inr fun n' hown => hown.2.2 (by rw [Option.some.inj (hown.1.symm.trans hn)]; exact hd),
        hg2 _ hjsc]
      exact h.denote_moveTarget hP1 hi hj hin hn hjs
    · rw [howed j hj n ⟨hn, hjs, hd⟩, hmem2, h.valueAt_of_not_delivers hP1 hd (.inr ⟨j, hj, hn⟩),
        h.entry_home j hj n hn (hm.isSpilled_of_not_delivers hd)]
  · -- an entry register spilled: its node is in memory, stored by Part 1 if a check GPR delivers it
    by_cases hd : check.Delivers counts n
    · obtain ⟨i, hi, hin, his⟩ := hm.delivers_iff.mp hd
      refine hstored i hi n hin (hm.spillsGPR_eq_true hi hin his fun j' hj' hj'n => ?_)
      rw [gpr_inj hm.entry_unique hj' hj hj'n hn]
      exact hjs
    · rw [hkept n hd (.inr ⟨j, hj, hn⟩)]
      exact h.entry_home j hj n hn (hm.isSpilled_of_not_delivers hd)
  · -- a check register whose node the entry does not hold: its node is in memory
    cases his : (check.gprInfo i).isSpilled
    · exact hstored i hi n hn (hm.spillsGPR_eq_true hi hn his fun j hj hjn => absurd hjn (hnone j hj))
    · have hd : ¬check.Delivers counts n := fun hd => by
        obtain ⟨i', hi', hin', his'⟩ := hm.delivers_iff.mp hd
        rw [gpr_inj hm.check_unique hi' hi hin' hn, his] at his'
        cases his'
      rw [hkept n hd (.inl ⟨i, hi, hn⟩)]
      exact h.check_home i hi n hn his
  · -- `tagMaskRegister`: restored, or never touched
    rw [hR3]
    split
    · rfl
    · rename_i hb
      have hsc : sc ≠ .tagMaskRegister := fun e => hb (hS.restored e)
      rw [hg3 .tagMaskRegister (fun _ e => nomatch e), hg2 _ (Ne.symm hsc),
        moveTarget_of_none (by simp [linkOf, nodeIn]), hP1.gpr_eq .tagMaskRegister (fun _ _ e => nomatch e), h.pinned.2]

/-- A swap of two GPRs that change format, a node the entry no longer holds, and a node the entry holds that no check
register holds: the first is resolved by Part 2, the second stored by Part 1, the third filled by Part 3. -/
theorem jumpFromSpeculativeToNonSpeculative_reaches_entry_of_swap :
    GPRExit ⟨4, 1, by decide, by decide⟩ ⟨fun n => n, fun _ => none, by simp⟩
      ⟨0, fun i => if i = 0 then ⟨some 10, .integer, false⟩ else if i = 1 then ⟨some 11, .js, false⟩
        else if i = 2 then ⟨some 12, .js, false⟩ else .noNode, fun _ => .noNode⟩
      ⟨0, fun i => if i = 0 then ⟨some 11, .jsInteger, false⟩ else if i = 1 then ⟨some 10, .js, false⟩
        else if i = 2 then ⟨some 13, .js, false⟩ else .noNode, fun _ => .noNode⟩
      (Machine.atExit (fun i => if i = 0 then 5#64 else if i = 1 then 0xFFFF000000000007#64 else if i = 2 then 0x10#64
        else 0#64) (fun _ => 0#64) (fun a => if a = .frame 13 then 0xFFFF000000000009#64 else 0#64))
      (fun n => if n = 10 then .int32 5 else if n = 11 then .int32 7 else if n = 12 then .other 0x10#64 else .int32 9) ∧
    AtEntry ⟨4, 1, by decide, by decide⟩ ⟨fun n => n, fun _ => none, by simp⟩
      ⟨0, fun i => if i = 0 then ⟨some 10, .integer, false⟩ else if i = 1 then ⟨some 11, .js, false⟩
        else if i = 2 then ⟨some 12, .js, false⟩ else .noNode, fun _ => .noNode⟩
      ⟨0, fun i => if i = 0 then ⟨some 11, .jsInteger, false⟩ else if i = 1 then ⟨some 10, .js, false⟩
        else if i = 2 then ⟨some 13, .js, false⟩ else .noNode, fun _ => .noNode⟩
      (fun n => if n = 10 then .int32 5 else if n = 11 then .int32 7 else if n = 12 then .other 0x10#64 else .int32 9)
      (exec (Machine.atExit (fun i => if i = 0 then 5#64 else if i = 1 then 0xFFFF000000000007#64
          else if i = 2 then 0x10#64 else 0#64) (fun _ => 0#64)
          (fun a => if a = .frame 13 then 0xFFFF000000000009#64 else 0#64))
        (afterPart3 ⟨4, 1, by decide, by decide⟩ ⟨fun n => n, fun _ => none, by simp⟩
          ⟨0, fun i => if i = 0 then ⟨some 10, .integer, false⟩ else if i = 1 then ⟨some 11, .js, false⟩
            else if i = 2 then ⟨some 12, .js, false⟩ else .noNode, fun _ => .noNode⟩
          ⟨0, fun i => if i = 0 then ⟨some 11, .jsInteger, false⟩ else if i = 1 then ⟨some 10, .js, false⟩
            else if i = 2 then ⟨some 13, .js, false⟩ else .noNode, fun _ => .noNode⟩).code) := by
  refine ⟨?h, jumpFromSpeculativeToNonSpeculative_reaches_entry ?h⟩
  exact ⟨⟨by decide, by decide, by decide, by decide, by decide, by decide⟩, Machine.atExit_pinned _ _ _, by decide,
    by decide, by decide, by decide, by decide, by decide, by decide⟩

end Bridge

/-- An entry GPR marked spilled whose node no check register holds, beside a node moved in place: the exit meets every
hypothesis of `GPRExit`, yet GPR 1 keeps its 0 where the entry says it holds node 11, whose home slot holds the int32 7. -/
theorem part3_leaves_spilled_entry_register_stale :
    GPRExit ⟨2, 1, by decide, by decide⟩ ⟨fun n => n, fun _ => none, by simp⟩
      ⟨0, fun i => if i = 0 then ⟨some 10, .integer, false⟩ else .noNode, fun _ => .noNode⟩
      ⟨0, fun i => if i = 0 then ⟨some 10, .jsInteger, false⟩ else if i = 1 then ⟨some 11, .integer, true⟩ else .noNode,
        fun _ => .noNode⟩
      (Machine.atExit (fun i => if i = 0 then 5#64 else 0#64) (fun _ => 0#64)
        (fun a => if a = .frame 11 then 0xFFFF000000000007#64 else 0#64))
      (fun n => if n = 10 then .int32 5 else .int32 7) ∧
    denote .integer ((exec (Machine.atExit (fun i => if i = 0 then 5#64 else 0#64) (fun _ => 0#64)
        (fun a => if a = .frame 11 then 0xFFFF000000000007#64 else 0#64))
      (afterPart3 ⟨2, 1, by decide, by decide⟩ ⟨fun n => n, fun _ => none, by simp⟩
        ⟨0, fun i => if i = 0 then ⟨some 10, .integer, false⟩ else .noNode, fun _ => .noNode⟩
        ⟨0, fun i => if i = 0 then ⟨some 10, .jsInteger, false⟩ else if i = 1 then ⟨some 11, .integer, true⟩
          else .noNode, fun _ => .noNode⟩).code).gpr (.reg 1)) ≠ some (.int32 7) :=
  ⟨⟨⟨by decide, by decide, by decide, by decide, by decide, by decide⟩, Machine.atExit_pinned _ _ _, by decide, by decide,
    by decide, by decide, by decide, by decide, by decide⟩, by decide⟩

/-! ### Exits with nodes in FPRs -/

/-- A chain `G0 → F0` and a 2-cycle `F1 ↔ F2` of doubles, with no FPR free: the chain makes F0 `scratchFPR1`, and the swap of
the cycle goes through it. F0, where the entry expects node 10 (the double 2.5, boxed in G0 at the check), ends holding F1's
1.0. -/
theorem shuffle_scratch_overwrites_delivered_value :
    (afterPart2 ⟨3, 3, by decide, by decide⟩ ⟨fun n => n, fun _ => none, by simp⟩
      ⟨0, fun i => if i = 0 then ⟨some 10, .js, false⟩ else .noNode,
        fun i => if i = 1 then ⟨some 11, .double, false⟩ else if i = 2 then ⟨some 12, .double, false⟩ else .noNode⟩
      ⟨0, fun _ => .noNode, fun i => if i = 0 then ⟨some 10, .double, false⟩ else if i = 1 then ⟨some 12, .double, false⟩
        else if i = 2 then ⟨some 11, .double, false⟩ else .noNode⟩).scratchFPR1 = some ⟨0⟩ ∧
    (exec (Machine.atExit (fun _ => 0x4005000000000000#64) (fun i => if i = 1 then 0x3FF0000000000000#64 else 0#64)
        (fun _ => 0#64))
      (jumpFromSpeculativeToNonSpeculative ⟨3, 3, by decide, by decide⟩ ⟨fun n => n, fun _ => none, by simp⟩
        ⟨0, fun i => if i = 0 then ⟨some 10, .js, false⟩ else .noNode,
          fun i => if i = 1 then ⟨some 11, .double, false⟩ else if i = 2 then ⟨some 12, .double, false⟩ else .noNode⟩
        ⟨0, fun _ => .noNode, fun i => if i = 0 then ⟨some 10, .double, false⟩ else if i = 1 then ⟨some 12, .double, false⟩
          else if i = 2 then ⟨some 11, .double, false⟩ else .noNode⟩ none)).fpr ⟨0⟩ = 0x3FF0000000000000#64 := by
  decide

/-- The chain `F1 → G0 → F0` with no FPR free: F1 holds node 10 (the double 1.0) and G0 node 11 (2.5, boxed); the entry wants
node 10 in G0 and node 11 in F0. F0 receives 2.5, becomes the temporary of the next move, and ends holding 1.0. -/
theorem chain_walk_loses_delivered_double :
    (exec (Machine.atExit (fun _ => 0x4005000000000000#64) (fun i => if i = 1 then 0x3FF0000000000000#64 else 0#64)
        (fun _ => 0#64))
      (jumpFromSpeculativeToNonSpeculative ⟨3, 2, by decide, by decide⟩ ⟨fun n => n, fun _ => none, by simp⟩
        ⟨0, fun i => if i = 0 then ⟨some 11, .js, false⟩ else .noNode, fun i => if i = 1 then ⟨some 10, .double, false⟩
          else .noNode⟩
        ⟨0, fun i => if i = 0 then ⟨some 10, .js, false⟩ else .noNode, fun i => if i = 0 then ⟨some 11, .double, false⟩
          else .noNode⟩ none)).fpr ⟨0⟩ = 0x3FF0000000000000#64 := by
  decide

set_option maxRecDepth 2000 in
/-- The 3-cycle of doubles `F0 → F1 → F2 → F0` with one FPR free: the saved node F0, holding 1.0, goes through `scratchGPR` as a
`JSDouble`, where it is boxed as the int32 1; the final move unboxes that as a double, and F1, where the entry expects 1.0,
receives `0xFFFE000000000001`, a NaN. -/
theorem cycle_of_fprs_loses_integral_double :
    (exec (Machine.atExit (fun _ => 0#64) (fun i => if i = 0 then 0x3FF0000000000000#64 else 0#64) (fun _ => 0#64))
      (jumpFromSpeculativeToNonSpeculative ⟨4, 4, by decide, by decide⟩ ⟨fun n => n, fun _ => none, by simp⟩
        ⟨0, fun _ => .noNode, fun i => if i < 3 then ⟨some (10 + i), .double, false⟩ else .noNode⟩
        ⟨0, fun _ => .noNode, fun i => if i < 3 then ⟨some (10 + (i + 2) % 3), .double, false⟩ else .noNode⟩ none)).fpr ⟨1⟩ =
      0xFFFE000000000001#64 := by
  decide

end JavaScriptCore
