import JavaScriptCore.Theorems.Classify
import JavaScriptCore.Theorems.Links

/-!
# The words `jumpFromSpeculativeToNonSpeculative` writes

The code linking a speculation check to its entry location moves and converts values between registers (the recovery
pre-pass, Part 2), and loads home slots (Part 3). It stores to memory only in Part 1, where it spills a node the check holds
in a register and has not spilled yet, and each such store goes to that node's home slot. So every other word, the home
slot of any other node, the scratch buffer, the execute counter, is left as it was
(`jumpFromSpeculativeToNonSpeculative_keeps_other_words`).

The code built from register operations only is `RegisterOnly`; the state of the link keeps `KeepsWord a` while nothing
emitted so far writes `a`, and every loop body of the three parts keeps it.
-/

namespace JavaScriptCore

/-! ### Code that writes no memory -/

/-- Code none of whose instructions writes a memory word, on either arm of a branch. -/
def RegisterOnly (code : List Instr) : Prop := ∀ i ∈ code, i.storeAddresses = []

theorem registerOnly_nil : RegisterOnly [] := List.forall_mem_nil _

theorem RegisterOnly.append {c₁ c₂ : List Instr} (h₁ : RegisterOnly c₁) (h₂ : RegisterOnly c₂) :
    RegisterOnly (c₁ ++ c₂) :=
  List.forall_mem_append.2 ⟨h₁, h₂⟩

/-- Whether code writes no memory word can be read off its instructions, so it is checked by evaluation. -/
theorem registerOnly_of_all {code : List Instr} (h : code.all (fun i => i.storeAddresses.isEmpty) = true) :
    RegisterOnly code := fun i hi => List.isEmpty_iff.1 (List.all_eq_true.1 h i hi)

theorem registerOnly_flatMap {α : Type} {l : List α} {f : α → List Instr} (h : ∀ x ∈ l, RegisterOnly (f x)) :
    RegisterOnly (l.flatMap f) := fun i hi => by
  obtain ⟨x, hx, hi⟩ := List.mem_flatMap.1 hi
  exact h x hx i hi

namespace GeneralizedRegister

theorem registerOnly_convert (r : GeneralizedRegister) (oldDataFormat newDataFormat : DataFormat) :
    RegisterOnly (r.convert oldDataFormat newDataFormat) := by
  unfold convert
  split
  · exact registerOnly_nil
  · split_ifs <;> exact registerOnly_of_all rfl

theorem registerOnly_boxFPRInto (f : FPRReg) (g : GPRReg) (scratchFPR : Option FPRReg) :
    RegisterOnly (boxFPRInto f g scratchFPR) := by
  cases scratchFPR <;> exact registerOnly_of_all rfl

theorem registerOnly_moveTo (r other : GeneralizedRegister) (myDataFormat otherDataFormat : DataFormat)
    (scratchFPR : Option FPRReg) : RegisterOnly (r.moveTo other myDataFormat otherDataFormat scratchFPR) := by
  cases r <;> cases other
  · simp only [moveTo]
    split_ifs <;> exact registerOnly_of_all rfl
  · exact registerOnly_of_all rfl
  · exact registerOnly_boxFPRInto _ _ _
  · exact registerOnly_of_all rfl

theorem registerOnly_swapWith (r other : GeneralizedRegister)
    (myDataFormat myNewDataFormat otherDataFormat otherNewDataFormat : DataFormat) (scratchGPR : GPRReg)
    (scratchFPR : Option FPRReg) :
    RegisterOnly (r.swapWith other myDataFormat myNewDataFormat otherDataFormat otherNewDataFormat scratchGPR scratchFPR) := by
  have hfg : ∀ f g, RegisterOnly (swapFPRWithGPR f g scratchGPR scratchFPR) := fun f g =>
    RegisterOnly.append (RegisterOnly.append (registerOnly_of_all rfl) (registerOnly_boxFPRInto _ _ _))
      (registerOnly_of_all rfl)
  have hsc : ∀ g f f', RegisterOnly (ops (swapConversion g f f')) := fun g f f' => by
    unfold swapConversion
    split_ifs <;> exact registerOnly_of_all rfl
  cases r <;> cases other
  · simp only [swapWith, ops, List.map_append]
    exact RegisterOnly.append (RegisterOnly.append (registerOnly_of_all rfl) (hsc _ _ _)) (hsc _ _ _)
  · exact hfg _ _
  · exact hfg _ _
  · cases scratchFPR <;> exact registerOnly_of_all rfl

end GeneralizedRegister

theorem registerOnly_recoveryPrePass (check : SpeculationCheck) (recovery : Option SpeculationRecovery) :
    RegisterOnly (recoveryPrePass check recovery) := by
  rcases recovery with _ | ⟨dest, src⟩ | dest
  · exact registerOnly_nil
  · simp only [recoveryPrePass]
    split_ifs <;> exact registerOnly_of_all rfl
  · exact registerOnly_of_all rfl

section Fills

variable (graph : Graph) (check : SpeculationCheck) (entry : EntryLocation)

theorem registerOnly_fillNumericToDouble (nodeIndex : NodeIndex) (fpr : FPRReg) (temporary : GPRReg) :
    RegisterOnly (fillNumericToDouble graph nodeIndex fpr temporary) := by
  unfold fillNumericToDouble
  split <;> exact registerOnly_of_all rfl

theorem registerOnly_fillGPR (map : NodeToRegisterMap) (index : Nat) : RegisterOnly (fillGPR graph check entry map index) := by
  unfold fillGPR
  dsimp only
  split
  · exact registerOnly_nil
  · split_ifs
    · exact registerOnly_nil
    · unfold fillInt32ToInteger
      split <;> exact registerOnly_of_all rfl
    · unfold fillToJS
      split <;> exact registerOnly_of_all rfl

theorem registerOnly_fillFPR (map : NodeToRegisterMap) (index : Nat) : RegisterOnly (fillFPR graph check entry map index) := by
  unfold fillFPR
  dsimp only
  split
  · exact registerOnly_nil
  · split_ifs
    · exact registerOnly_nil
    · exact registerOnly_fillNumericToDouble graph _ _ _

end Fills

/-! ### The link state -/

/-- No instruction emitted so far writes `a`. -/
def LinkState.KeepsWord (a : Address) (st : LinkState) : Prop := ∀ i ∈ st.code, a ∉ i.storeAddresses

namespace LinkState.KeepsWord

variable {a : Address} {st st' : LinkState}

theorem of_code (h : st.KeepsWord a) (he : st'.code = st.code) : st'.KeepsWord a := fun i hi => h i (he ▸ hi)

theorem emit {code : List Instr} (h : st.KeepsWord a) (hc : RegisterOnly code) : (st.emit code).KeepsWord a := by
  intro i hi
  rcases List.mem_append.1 hi with hi | hi
  · exact h i hi
  · simp [hc i hi]

theorem emit_ops {os : List Op} (h : st.KeepsWord a) (hos : a ∉ os.filterMap Op.storeAddress) :
    (st.emit (ops os)).KeepsWord a := by
  intro i hi
  rcases List.mem_append.1 hi with hi | hi
  · exact h i hi
  · obtain ⟨o, ho, rfl⟩ := List.mem_map.1 hi
    exact fun ha => hos (List.mem_filterMap.2 ⟨o, ho, by simpa [Instr.storeAddresses] using ha⟩)

theorem ite_emit {p : Prop} [Decidable p] {os : List Op} (h : st.KeepsWord a)
    (hos : ¬p → a ∉ os.filterMap Op.storeAddress) : (if p then st else st.emit (ops os)).KeepsWord a := by
  split_ifs with hp
  · exact h
  · exact h.emit_ops (hos hp)

theorem markHandled (h : st.KeepsWord a) (r : GeneralizedRegister) : (st.markHandled r).KeepsWord a :=
  h.of_code (LinkState.markHandled_code st r)

theorem recordScratchFPR (h : st.KeepsWord a) (r : GeneralizedRegister) : (st.recordScratchFPR r).KeepsWord a :=
  h.of_code (LinkState.recordScratchFPR_code st r)

theorem link (h : st.KeepsWord a) (r next : GeneralizedRegister) : (st.link r next).KeepsWord a :=
  h.of_code (LinkState.link_code st r next)

end LinkState.KeepsWord

section Handlers

variable {check : SpeculationCheck} {entry : EntryLocation} {a : Address}

theorem keepsWord_handleNonCyclingPermutation (fuel : Nat) (cur : GeneralizedRegister) {st : LinkState}
    (h : st.KeepsWord a) : (handleNonCyclingPermutation check entry fuel cur st).KeepsWord a := by
  induction fuel generalizing cur st with
  | zero => exact h
  | succ fuel ih =>
    simp only [handleNonCyclingPermutation]
    split
    · exact ih _ (((h.emit (GeneralizedRegister.registerOnly_moveTo _ _ _ _ _)).markHandled cur).recordScratchFPR cur)
    · exact (h.markHandled cur).recordScratchFPR cur

theorem cycleWalk_code (start : GeneralizedRegister) (fuel : Nat) (cur : GeneralizedRegister) (st : LinkState) :
    (cycleWalk start fuel cur st).2.2.code = st.code := by
  induction fuel generalizing cur st with
  | zero => rfl
  | succ fuel ih =>
    simp only [cycleWalk]
    split
    · split_ifs
      · rfl
      · exact (ih _ _).trans (LinkState.markHandled_code _ _)
    · rfl

theorem registerOnly_rotateCycle (shuffled : GeneralizedRegister → ShuffledRegister) (start : GeneralizedRegister)
    (scratchFPR1 : Option FPRReg) (fuel : Nat) (cur : GeneralizedRegister) :
    RegisterOnly (rotateCycle check entry shuffled start scratchFPR1 fuel cur) := by
  induction fuel generalizing cur with
  | zero => exact registerOnly_nil
  | succ fuel ih =>
    simp only [rotateCycle]
    split
    · split_ifs
      · exact registerOnly_nil
      · exact (GeneralizedRegister.registerOnly_moveTo _ _ _ _ _).append (ih _)
    · exact registerOnly_nil

theorem keepsWord_handleCyclingPermutation (fuel : Nat) (this : GeneralizedRegister) (scratchGPR : GPRReg)
    (scratchFPR1 scratchFPR2 : Option FPRReg) {st : LinkState} (h : st.KeepsWord a) :
    (handleCyclingPermutation check entry fuel this scratchGPR scratchFPR1 scratchFPR2 st).KeepsWord a := by
  have hw := h.of_code (cycleWalk_code this fuel this st)
  unfold handleCyclingPermutation
  rcases hc : cycleWalk this fuel this st with ⟨cycleLength, next, st'⟩
  rw [hc] at hw
  have hm := GeneralizedRegister.registerOnly_moveTo
  have hr := @registerOnly_rotateCycle check entry
  simp only
  split
  · exact hw.emit (GeneralizedRegister.registerOnly_convert _ _ _)
  · exact hw.emit (GeneralizedRegister.registerOnly_swapWith _ _ _ _ _ _ _ _)
  · exact hw
  · split_ifs
    · split
      · exact hw.emit (((hm _ _ _ _ _).append (hr _ _ _ _ _)).append (hm _ _ _ _ _))
      · exact hw.emit (((hm _ _ _ _ _).append (hr _ _ _ _ _)).append (hm _ _ _ _ _))
    · exact hw.emit (((hm _ _ _ _ _).append (hr _ _ _ _ _)).append (hm _ _ _ _ _))

end Handlers

/-! ### The three parts -/

section Parts

variable {counts : RegisterCounts} {graph : Graph} {check : SpeculationCheck} {entry : EntryLocation} {a : Address}

/-- Part 1 at GPR `index` writes only the home slot of the node it spills, which the check holds there unspilled. -/
theorem keepsWord_spillGPR {st : LinkState} {index : Nat} (h : st.KeepsWord a)
    (ha : ∀ n, (check.gprInfo index).nodeIndex = some n → (check.gprInfo index).isSpilled = false →
      a ≠ .frame (graph.virtualRegister n)) :
    (spillGPR graph check entry st index).KeepsWord a := by
  unfold spillGPR
  dsimp only
  split
  · exact h
  · rename_i n hn
    have hos : ¬(check.gprInfo index).isSpilled = true → a ∉ List.filterMap Op.storeAddress
        ((if (check.gprInfo index).format = .integer then [Op.orPtr .tagTypeNumberRegister (.reg index)] else []) ++
          [.storePtr (.reg index) (.frame (graph.virtualRegister n))]) := fun hs => by
      split_ifs <;> exact fun hm => ha n hn (by simpa using hs) (List.mem_singleton.1 hm)
    split
    · split
      · exact h.link _ _
      · exact (h.link _ _).ite_emit hos
    · exact (h.of_code (by split <;> rfl)).ite_emit hos

/-- Part 1 at FPR `index` writes only the home slot of the node it spills, which the check holds there unspilled. -/
theorem keepsWord_spillFPR {st : LinkState} {index : Nat} (h : st.KeepsWord a)
    (ha : ∀ n, (check.fprInfo index).nodeIndex = some n → (check.fprInfo index).isSpilled = false →
      a ≠ .frame (graph.virtualRegister n)) :
    (spillFPR graph check entry st index).KeepsWord a := by
  unfold spillFPR
  dsimp only
  split
  · exact h
  · rename_i n hn
    have hos : ∀ g, ¬(check.fprInfo index).isSpilled = true → a ∉ List.filterMap Op.storeAddress
        [Op.moveDoubleToPtr ⟨index⟩ g, .subPtr .tagTypeNumberRegister g, .storePtr g (.frame (graph.virtualRegister n))] :=
      fun g hs hm => ha n hn (by simpa using hs) (List.mem_singleton.1 hm)
    split
    · split
      · exact h.link _ _
      · exact (h.link _ _).ite_emit (hos _)
    · exact (h.of_code (by split_ifs <;> rfl)).ite_emit (hos _)

theorem keepsWord_afterPart1
    (hg : ∀ i < counts.gprs, ∀ n, (check.gprInfo i).nodeIndex = some n → (check.gprInfo i).isSpilled = false →
      a ≠ .frame (graph.virtualRegister n))
    (hf : ∀ i < counts.fprs, ∀ n, (check.fprInfo i).nodeIndex = some n → (check.fprInfo i).isSpilled = false →
      a ≠ .frame (graph.virtualRegister n)) :
    (afterPart1 counts graph check entry).KeepsWord a := by
  have h0 : ((List.range counts.fprs).foldl (buildMapsFPR check entry)
      ((List.range counts.gprs).foldl (buildMapsGPR check entry) LinkState.initial)).KeepsWord a :=
    fun i hi => by rw [(@buildMaps_shuffled_code counts check entry).2] at hi; exact absurd hi (List.not_mem_nil _)
  refine foldl_range_invariant _ (fun _ (st : LinkState) => st.KeepsWord a) _ _ ?_ fun i hi st h => keepsWord_spillFPR h (hf i hi)
  refine LinkState.KeepsWord.of_code ?_ (by unfold borrowTagMaskRegister; split <;> rfl)
  exact foldl_range_invariant _ (fun _ (st : LinkState) => st.KeepsWord a) _ _ h0 fun i hi st h => keepsWord_spillGPR h (hg i hi)

theorem keepsWord_afterPart2
    (hg : ∀ i < counts.gprs, ∀ n, (check.gprInfo i).nodeIndex = some n → (check.gprInfo i).isSpilled = false →
      a ≠ .frame (graph.virtualRegister n))
    (hf : ∀ i < counts.fprs, ∀ n, (check.fprInfo i).nodeIndex = some n → (check.fprInfo i).isSpilled = false →
      a ≠ .frame (graph.virtualRegister n)) :
    (afterPart2 counts graph check entry).KeepsWord a := by
  refine foldl_range_invariant _ (fun _ (st : LinkState) => st.KeepsWord a) _ _ ?_ fun i _ st h => ?_
  · refine foldl_range_invariant _ (fun _ (st : LinkState) => st.KeepsWord a) _ _ (keepsWord_afterPart1 hg hf) fun i _ st h => ?_
    unfold shuffleChain
    dsimp only
    split_ifs
    · exact h
    · exact keepsWord_handleNonCyclingPermutation _ _ h
  · unfold shuffleCycle
    dsimp only
    split_ifs
    · exact h
    · exact keepsWord_handleCyclingPermutation _ _ _ _ _ h

end Parts

/-- For every check, entry location, graph, speculation recovery and machine, the code `jumpFromSpeculativeToNonSpeculative`
emits leaves every memory word as it was, except the home slots of the nodes the check holds in a register without having
spilled them: the frame slots of all other nodes, the scratch buffer and the execute counter. -/
theorem jumpFromSpeculativeToNonSpeculative_keeps_other_words (counts : RegisterCounts) (graph : Graph)
    (check : SpeculationCheck) (entry : EntryLocation) (recovery : Option SpeculationRecovery) (m : Machine) (a : Address)
    (hg : ∀ i < counts.gprs, ∀ n, (check.gprInfo i).nodeIndex = some n → (check.gprInfo i).isSpilled = false →
      a ≠ .frame (graph.virtualRegister n))
    (hf : ∀ i < counts.fprs, ∀ n, (check.fprInfo i).nodeIndex = some n → (check.fprInfo i).isSpilled = false →
      a ≠ .frame (graph.virtualRegister n)) :
    (exec m (jumpFromSpeculativeToNonSpeculative counts graph check entry recovery)).memory a = m.memory a := by
  have h3 : (afterPart3 counts graph check entry).KeepsWord a := by
    have h2 : (afterPart2 counts graph check entry).KeepsWord a := keepsWord_afterPart2 hg hf
    have hfills : (((afterPart2 counts graph check entry).emit ((List.range counts.fprs).flatMap
        (fillFPR graph check entry (afterPart2 counts graph check entry).checkNodeToRegisterMap))).emit
          ((List.range counts.gprs).flatMap
            (fillGPR graph check entry (afterPart2 counts graph check entry).checkNodeToRegisterMap))).KeepsWord a :=
      (h2.emit (registerOnly_flatMap fun i _ => registerOnly_fillFPR graph check entry _ i)).emit
        (registerOnly_flatMap fun i _ => registerOnly_fillGPR graph check entry _ i)
    unfold afterPart3 restoreTagMaskRegister
    dsimp only [LinkState.emit_checkNodeToRegisterMap]
    split
    · exact hfills.emit_ops (List.not_mem_nil _)
    · exact hfills
  refine exec_memory_of_not_mem (List.forall_mem_append.2 ⟨fun i hi ha => ?_, h3⟩) m
  rw [registerOnly_recoveryPrePass check recovery i hi] at ha
  exact List.not_mem_nil _ ha

/-- Node 11 sits in FPR 1 at the check, already spilled: the link code, which moves it to FPR 2 and spills nodes 10 and 12,
leaves its home slot alone. -/
theorem jumpFromSpeculativeToNonSpeculative_keeps_spilled_slot :
    (∀ i < 3, ∀ n, ((⟨0, fun i => if i = 0 then ⟨some 10, .js, false⟩ else .noNode, fun i => if i = 1 then ⟨some 11, .double, true⟩ else if i = 2 then ⟨some 12, .double, false⟩ else .noNode⟩ : SpeculationCheck).gprInfo i).nodeIndex = some n → ((⟨0, fun i => if i = 0 then ⟨some 10, .js, false⟩ else .noNode, fun i => if i = 1 then ⟨some 11, .double, true⟩ else if i = 2 then ⟨some 12, .double, false⟩ else .noNode⟩ : SpeculationCheck).gprInfo i).isSpilled = false →
      Address.frame 11 ≠ .frame ((⟨fun n => n, fun _ => none, by simp⟩ : Graph).virtualRegister n)) ∧
    (∀ i < 3, ∀ n, ((⟨0, fun i => if i = 0 then ⟨some 10, .js, false⟩ else .noNode, fun i => if i = 1 then ⟨some 11, .double, true⟩ else if i = 2 then ⟨some 12, .double, false⟩ else .noNode⟩ : SpeculationCheck).fprInfo i).nodeIndex = some n → ((⟨0, fun i => if i = 0 then ⟨some 10, .js, false⟩ else .noNode, fun i => if i = 1 then ⟨some 11, .double, true⟩ else if i = 2 then ⟨some 12, .double, false⟩ else .noNode⟩ : SpeculationCheck).fprInfo i).isSpilled = false →
      Address.frame 11 ≠ .frame ((⟨fun n => n, fun _ => none, by simp⟩ : Graph).virtualRegister n)) ∧
    (exec (Machine.atExit (fun _ => 0x4005000000000000#64) (fun _ => 0x3FF0000000000000#64) fun _ => 0#64) (jumpFromSpeculativeToNonSpeculative ⟨3, 3, by decide, by decide⟩ (⟨fun n => n, fun _ => none, by simp⟩ : Graph) (⟨0, fun i => if i = 0 then ⟨some 10, .js, false⟩ else .noNode, fun i => if i = 1 then ⟨some 11, .double, true⟩ else if i = 2 then ⟨some 12, .double, false⟩ else .noNode⟩ : SpeculationCheck) (⟨0, fun _ => .noNode, fun i => if i = 0 then ⟨some 10, .double, false⟩ else if i = 1 then ⟨some 12, .double, false⟩ else if i = 2 then ⟨some 11, .double, false⟩ else .noNode⟩ : EntryLocation) none)).memory (.frame 11) =
      (Machine.atExit (fun _ => 0x4005000000000000#64) (fun _ => 0x3FF0000000000000#64) fun _ => 0#64).memory (.frame 11) :=
  have hg : ∀ i < 3, ∀ n, ((⟨0, fun i => if i = 0 then ⟨some 10, .js, false⟩ else .noNode, fun i => if i = 1 then ⟨some 11, .double, true⟩ else if i = 2 then ⟨some 12, .double, false⟩ else .noNode⟩ : SpeculationCheck).gprInfo i).nodeIndex = some n → ((⟨0, fun i => if i = 0 then ⟨some 10, .js, false⟩ else .noNode, fun i => if i = 1 then ⟨some 11, .double, true⟩ else if i = 2 then ⟨some 12, .double, false⟩ else .noNode⟩ : SpeculationCheck).gprInfo i).isSpilled = false →
      Address.frame 11 ≠ .frame ((⟨fun n => n, fun _ => none, by simp⟩ : Graph).virtualRegister n) := by
    intro i _ n hn _
    obtain rfl : n = 10 := by by_cases h0 : i = 0 <;> simp_all [RegisterInfo.noNode]
    decide
  have hf : ∀ i < 3, ∀ n, ((⟨0, fun i => if i = 0 then ⟨some 10, .js, false⟩ else .noNode, fun i => if i = 1 then ⟨some 11, .double, true⟩ else if i = 2 then ⟨some 12, .double, false⟩ else .noNode⟩ : SpeculationCheck).fprInfo i).nodeIndex = some n → ((⟨0, fun i => if i = 0 then ⟨some 10, .js, false⟩ else .noNode, fun i => if i = 1 then ⟨some 11, .double, true⟩ else if i = 2 then ⟨some 12, .double, false⟩ else .noNode⟩ : SpeculationCheck).fprInfo i).isSpilled = false →
      Address.frame 11 ≠ .frame ((⟨fun n => n, fun _ => none, by simp⟩ : Graph).virtualRegister n) := by
    intro i _ n hn hs
    clear hg
    obtain rfl : n = 12 := by by_cases h1 : i = 1 <;> by_cases h2 : i = 2 <;> simp_all [RegisterInfo.noNode]
    decide
  ⟨hg, hf, jumpFromSpeculativeToNonSpeculative_keeps_other_words _ _ _ _ _ _ _ hg hf⟩

end JavaScriptCore
