import JavaScriptCore.Theorems.Spill
import JavaScriptCore.Theorems.GPRShuffle

/-!
# Part 2 between GPRs: the shuffle is a parallel move

At an exit whose nodes all sit in GPRs on both sides (`GPRMaps`), Part 2 of `jumpFromSpeculativeToNonSpeculative` does what
its comment promises: every GPR ends holding `moveTarget`, its `previous`'s word before the shuffle converted from the check's
format to the entry's, and nothing else changes but `scratchGPR` (`afterPart2_moves`).

The proof follows the two loops. Part 2 only ever marks whole chains and whole cycles handled (`Resolving.closed`), and the
code it has emitted moves exactly the handled registers. The chain loop resolves each chain from its tail, the one register of
a chain nothing is linked to (`handleNonCyclingPermutation_walk`). After it every tail is handled, so a register the cycle loop
finds linked and unhandled cannot lie on a chain (`Linked.exists_tail`): following `previous` from it comes back to it
(`Walk.orbit`), and `handleCyclingPermutation_cycle` resolves that cycle.
-/

namespace JavaScriptCore

/-- Register maps whose nodes all sit in GPRs, each side naming a node once, in formats a GPR holds. -/
structure GPRMaps (counts : RegisterCounts) (check : SpeculationCheck) (entry : EntryLocation) : Prop where
  check_unique : UniqueNodes counts check.gprInfo check.fprInfo
  entry_unique : UniqueNodes counts entry.gprInfo entry.fprInfo
  check_fpr : ∀ i < counts.fprs, (check.fprInfo i).nodeIndex = none
  entry_fpr : ∀ i < counts.fprs, (entry.fprInfo i).nodeIndex = none
  check_format : ∀ i < counts.gprs, (check.gprInfo i).nodeIndex ≠ none → (check.gprInfo i).format ≠ .double
  entry_format : ∀ i < counts.gprs, (entry.gprInfo i).nodeIndex ≠ none → (entry.gprInfo i).format ≠ .double

section Maps

variable {counts : RegisterCounts} {check : SpeculationCheck} {entry : EntryLocation}

/-- With no node in an FPR, a side holds its nodes in allocatable GPRs. -/
theorem nodeIn_gpr {gprInfo fprInfo : Nat → RegisterInfo} (hfpr : ∀ i < counts.fprs, (fprInfo i).nodeIndex = none)
    {r : GeneralizedRegister} {n : NodeIndex} (h : nodeIn counts gprInfo fprInfo r = some n) :
    ∃ i < counts.gprs, r = .gpr (.reg i) ∧ (gprInfo i).nodeIndex = some n := by
  rcases r with (i | _ | _) | ⟨⟨i⟩⟩ <;> simp only [nodeIn, reduceCtorEq] at h <;> split at h
  · exact ⟨i, ‹_›, rfl, h⟩
  · cases h
  · simp [hfpr i ‹_›] at h
  · cases h

namespace GPRMaps

variable (h : GPRMaps counts check entry)
include h

/-- A link joins two allocatable GPRs, read in a format other than `Double` and written in one. -/
theorem linkOf_some {s p : GeneralizedRegister} (hl : linkOf counts check entry s = some p) :
    (∃ j < counts.gprs, s = .gpr (.reg j)) ∧ (∃ i < counts.gprs, p = .gpr (.reg i)) ∧
      s.nextDataFormat entry ≠ .double ∧ p.previousDataFormat check ≠ .double := by
  obtain ⟨n, hs, hp⟩ := (linkOf_eq_some h.check_unique).mp hl
  obtain ⟨j, hj, rfl, hjn⟩ := nodeIn_gpr h.entry_fpr hs
  obtain ⟨i, hi, rfl, hin⟩ := nodeIn_gpr h.check_fpr hp
  exact ⟨⟨j, hj, rfl⟩, ⟨i, hi, rfl⟩, h.entry_format j hj (by simp [hjn]), h.check_format i hi (by simp [hin])⟩

/-- The hypotheses of `Walk.orbit` for the links. -/
theorem linkOf_inj' {s s' p : GeneralizedRegister} (hs : linkOf counts check entry s = some p)
    (hs' : linkOf counts check entry s' = some p) : s = s' :=
  linkOf_inj h.check_unique h.entry_unique hs hs'

end GPRMaps

/-- The reserved registers are linked to nothing. -/
@[simp] theorem linkOf_tagTypeNumberRegister :
    linkOf counts check entry (.gpr .tagTypeNumberRegister) = none := by
  simp [linkOf, nodeIn]

end Maps

section Resolve

variable (counts : RegisterCounts) (check : SpeculationCheck) (entry : EntryLocation)

/-- Part 2 so far, from the state `st₀` that Part 1 left: the graph is unchanged but for `handled`, which agrees across every
link, and the code appended since `st₀` moves every handled GPR but `sc` to its target and changes nothing else. -/
structure Resolving (sc : GPRReg) (st₀ st : LinkState) : Prop where
  previous : ∀ r, (st.shuffled r).previous = (st₀.shuffled r).previous
  hasFrom : ∀ r, (st.shuffled r).hasFrom = (st₀.shuffled r).hasFrom
  hasTo : ∀ r, (st.shuffled r).hasTo = (st₀.shuffled r).hasTo
  closed : ∀ s p, linkOf counts check entry s = some p → (st.shuffled s).handled = (st.shuffled p).handled
  kept : st.kept = st₀.kept
  moves : ∃ c, st.code = st₀.code ++ c ∧ ∀ m : Machine, m.gpr .tagTypeNumberRegister = TagTypeNumber →
    (∀ g, g ≠ sc → (exec m c).gpr g =
      if (st.shuffled (.gpr g)).handled then moveTarget check entry (linkOf counts check entry) m g else m.gpr g) ∧
    (exec m c).fpr = m.fpr ∧ (exec m c).memory = m.memory

end Resolve

section Resolve

variable {counts : RegisterCounts} {check : SpeculationCheck} {entry : EntryLocation}

/-- Part 2 starts with nothing handled and nothing emitted. -/
theorem Resolving.start {sc : GPRReg} {st₀ : LinkState} (h₀ : ∀ r, (st₀.shuffled r).handled = false) :
    Resolving counts check entry sc st₀ st₀ :=
  ⟨fun _ => rfl, fun _ => rfl, fun _ => rfl, fun s p _ => by rw [h₀ s, h₀ p], rfl, [], by simp,
    fun m _ => ⟨fun g _ => by simp [h₀], rfl, rfl⟩⟩

/-- Resolving a set `l` of unhandled registers that the links neither enter nor leave, with code that moves exactly the
GPRs of `l` but `sc`, keeps the invariant. -/
theorem Resolving.mark {sc : GPRReg} (hst : sc ≠ .tagTypeNumberRegister) {st₀ st st' : LinkState}
    (h : Resolving counts check entry sc st₀ st)
    {l : List GeneralizedRegister} (hclosed : ∀ s p, linkOf counts check entry s = some p → (s ∈ l ↔ p ∈ l))
    (hun : ∀ y ∈ l, (st.shuffled y).handled = false) (hscl : .gpr sc ∉ l)
    (hsh : ∀ r, st'.shuffled r = if r ∈ l then { st.shuffled r with handled := true } else st.shuffled r)
    (hkept : st'.kept = st.kept)
    (hcode : ∃ c, st'.code = st.code ++ c ∧ ∀ m : Machine, m.gpr .tagTypeNumberRegister = TagTypeNumber →
      (∀ g, g ≠ sc → (exec m c).gpr g =
        if .gpr g ∈ l then moveTarget check entry (linkOf counts check entry) m g else m.gpr g) ∧
      (exec m c).fpr = m.fpr ∧ (exec m c).memory = m.memory) :
    Resolving counts check entry sc st₀ st' := by
  obtain ⟨hprev, hfrom, hto, hcl, hkept₀, c₀, hc₀, hsem₀⟩ := h
  obtain ⟨c, hc, hsem⟩ := hcode
  have hhandled : ∀ r, (st'.shuffled r).handled = (decide (r ∈ l) || (st.shuffled r).handled) := by
    intro r; rw [hsh]; by_cases hr : r ∈ l <;> simp [hr]
  refine ⟨fun r => ?_, fun r => ?_, fun r => ?_, fun s p hl => ?_, hkept.trans hkept₀, c₀ ++ c,
    by rw [hc, hc₀, List.append_assoc], fun m hm => ?_⟩
  · rw [hsh, ← hprev]; split <;> rfl
  · rw [hsh, ← hfrom]; split <;> rfl
  · rw [hsh, ← hto]; split <;> rfl
  · simp only [hhandled, hcl s p hl, hclosed s p hl]
  obtain ⟨hg₀, hf₀, hm₀⟩ := hsem₀ m hm
  have htag : (exec m c₀).gpr .tagTypeNumberRegister = TagTypeNumber := by
    rw [hg₀ _ (Ne.symm hst), moveTarget_of_none linkOf_tagTypeNumberRegister, ite_self, hm]
  obtain ⟨hg, hf, hmem⟩ := hsem (exec m c₀) htag
  refine ⟨fun g hgs => ?_, by rw [exec_append, hf, hf₀], by rw [exec_append, hmem, hm₀]⟩
  rw [exec_append, hg g hgs, hhandled]
  by_cases hgl : GeneralizedRegister.gpr g ∈ l
  · have hkeep : ∀ q, GeneralizedRegister.gpr q ∈ l → (exec m c₀).gpr q = m.gpr q := fun q hq => by
      rw [hg₀ q fun e => hscl (e ▸ hq), hun _ hq, if_neg Bool.false_ne_true]
    rw [if_pos hgl, decide_eq_true hgl, Bool.true_or, if_pos rfl]
    exact moveTarget_congr (fun q hq => hkeep q ((hclosed _ _ hq).mp hgl)) fun _ => hkeep g hgl
  · rw [if_neg hgl, decide_eq_false hgl, Bool.false_or, hg₀ g hgs]

variable {sc : GPRReg} {st₀ : LinkState}
  (h₀ : ∀ r, st₀.shuffled r =
    ⟨linkOf counts check entry r, (linkTo counts check entry r).isSome, (linkOf counts check entry r).isSome, false⟩)

include h₀ in
/-- Part 2 reads the links Part 1 left. -/
theorem Resolving.previous_eq {st : LinkState} (h : Resolving counts check entry sc st₀ st) (r : GeneralizedRegister) :
    (st.shuffled r).previous = linkOf counts check entry r := by
  rw [h.previous, h₀]

include h₀ in
/-- The chain walk from a tail: it resolves the tail's chain, and handles the tail. -/
theorem Resolving.chain (hm : GPRMaps counts check entry) (hsc : linkOf counts check entry (.gpr sc) = none)
    (hsc' : linkTo counts check entry (.gpr sc) = none) (hst : sc ≠ .tagTypeNumberRegister) {st : LinkState}
    (h : Resolving counts check entry sc st₀ st) {r : GeneralizedRegister} (hto : (linkOf counts check entry r).isSome)
    (hfrom : linkTo counts check entry r = none) (hun : (st.shuffled r).handled = false) :
    Resolving counts check entry sc st₀ (handleNonCyclingPermutation check entry counts.total r st) ∧
      ∀ y, (st.shuffled y).handled = true ∨ y = r →
        ((handleNonCyclingPermutation check entry counts.total r st).shuffled y).handled = true := by
  obtain ⟨p, hp⟩ := Option.isSome_iff_exists.mp hto
  have hin : ∀ s p, linkOf counts check entry s = some p → ∃ i < counts.gprs, p = .gpr (.reg i) :=
    fun _ _ hl => (hm.linkOf_some hl).2.1
  have hnot : ∀ s, linkOf counts check entry s ≠ some r := fun s hs => by
    rw [(linkOf_eq_some_iff hm.check_unique hm.entry_unique).mp hs] at hfrom; cases hfrom
  obtain ⟨l, x, hw, hnd, hlen, hx⟩ := Walk.orbit hin (fun _ _ _ => hm.linkOf_inj') (hm.linkOf_some hp).1
  replace hx : linkOf counts check entry x = none := hx.resolve_right (hnot x)
  obtain ⟨hsh, c, hc, hsem⟩ := handleNonCyclingPermutation_walk (h.previous_eq h₀) hw hx
    (show l.length ≤ counts.total by unfold RegisterCounts.total; omega)
  have hg := hw.forall_gpr hin (hm.linkOf_some hp).1
  refine ⟨h.mark hst (hw.closed_of_chain (fun _ _ _ => hm.linkOf_inj') hx hnot)
    (fun y hy => (hw.eq_of_closed h.closed y hy).trans hun) ?_ hsh (kept_handleNonCyclingPermutation _ _ _)
    ⟨c, hc, fun m hm' => ?_⟩, fun y hy => ?_⟩
  · intro hl
    rcases eq_or_ne (.gpr sc) r with e | e
    · rw [← e, hsc] at hp; cases hp
    · obtain ⟨s, -, hs⟩ := hw.prev_eq_of_mem_tail (hw.mem_tail_of_ne hl e)
      rw [(linkOf_eq_some_iff hm.check_unique hm.entry_unique).mp hs] at hsc'; cases hsc'
  · obtain ⟨hgpr, hfpr, hmem⟩ := hsem (fun y hy => (hg y hy).imp fun _ h => h.2) hnd m hm'
    exact ⟨fun g _ => hgpr g, hfpr, hmem⟩
  · rw [hsh]
    split
    · rfl
    · rename_i hyl
      exact hy.resolve_right fun e => hyl (e ▸ hw.head_mem)

include h₀ in
/-- The cycle walk from a linked, unhandled register once every tail is handled: the register lies on a cycle, which it
resolves, and it handles the register. -/
theorem Resolving.cycle (hm : GPRMaps counts check entry) (hsc : linkOf counts check entry (.gpr sc) = none)
    (hst : sc ≠ .tagTypeNumberRegister) {st : LinkState} (h : Resolving counts check entry sc st₀ st)
    (htails : ∀ t, (linkOf counts check entry t).isSome → linkTo counts check entry t = none →
      (st.shuffled t).handled = true)
    {r : GeneralizedRegister} (hlinked : (linkOf counts check entry r).isSome ∨ (linkTo counts check entry r).isSome)
    (hun : (st.shuffled r).handled = false) (s₁ s₂ : Option FPRReg) :
    Resolving counts check entry sc st₀ (handleCyclingPermutation check entry counts.total r sc s₁ s₂ st) ∧
      ∀ y, (st.shuffled y).handled = true ∨ y = r →
        ((handleCyclingPermutation check entry counts.total r sc s₁ s₂ st).shuffled y).handled = true := by
  have hiff := @linkOf_eq_some_iff counts check entry hm.check_unique hm.entry_unique
  have hdom : ∀ s p, linkOf counts check entry s = some p → ∃ i < counts.gprs, s = .gpr (.reg i) :=
    fun _ _ hl => (hm.linkOf_some hl).1
  have hin : ∀ s p, linkOf counts check entry s = some p → ∃ i < counts.gprs, p = .gpr (.reg i) :=
    fun _ _ hl => (hm.linkOf_some hl).2.1
  have hr : ∃ i < counts.gprs, r = .gpr (.reg i) := by
    rcases hlinked with hl | hl
    · obtain ⟨p, hp⟩ := Option.isSome_iff_exists.mp hl
      exact hdom r p hp
    · obtain ⟨s, hs⟩ := Option.isSome_iff_exists.mp hl
      exact hin s r (hiff.mpr hs)
  obtain ⟨l, x, hw, hnd, hlen, hx⟩ := Walk.orbit hin (fun _ _ _ => hm.linkOf_inj') hr
  rcases hx with hx | hx
  · -- a chain through `r`: the tail that reaches it is handled, hence so is `r`
    have hl : Linked (linkOf counts check entry) r := hlinked.imp_right fun hl =>
      let ⟨s, hs⟩ := Option.isSome_iff_exists.mp hl
      ⟨s, hiff.mpr hs⟩
    obtain ⟨t, ⟨htS, ht⟩, lt, hwt⟩ := hl.exists_tail (fun s p h => mem_map_gpr_range.2 (hdom s p h))
      (fun s p h => mem_map_gpr_range.2 (hin s p h)) (fun _ _ _ => hm.linkOf_inj') (hw.not_onCycle_of_chain hx (.refl r))
    have htail := htails t htS (Option.eq_none_iff_forall_not_mem.mpr fun s hs => ht s (hiff.mpr hs))
    have := hwt.eq_of_closed h.closed r hwt.last_mem
    rw [hun, htail] at this
    cases this
  · -- a cycle
    have hfmt : ∀ y ∈ l, y.previousDataFormat check ≠ .double ∧ y.nextDataFormat entry ≠ .double := by
      intro y hy
      obtain ⟨p, hp⟩ := hw.prev_isSome_of_cycle hx hy
      obtain ⟨s, hs⟩ := hw.linked_of_cycle hx hy
      exact ⟨(hm.linkOf_some hs).2.2.2, (hm.linkOf_some hp).2.2.1⟩
    have hscl : GeneralizedRegister.gpr sc ∉ l := fun hl => by
      obtain ⟨p, hp⟩ := hw.prev_isSome_of_cycle hx hl
      rw [hsc] at hp; cases hp
    obtain ⟨hsh, c, hc, hsem⟩ := handleCyclingPermutation_cycle (h.previous_eq h₀) hw hx hnd
      (show l.length ≤ counts.total by unfold RegisterCounts.total; omega)
      (fun y hy => (hw.forall_gpr hin hr y hy).imp fun _ h => h.2) hfmt hscl hst s₁ s₂
    refine ⟨h.mark hst (hw.closed_of_cycle (fun _ _ _ => hm.linkOf_inj') hx)
      (fun y hy => (hw.eq_of_closed h.closed y hy).trans hun) hscl hsh (kept_handleCyclingPermutation _ _ _ _ _ _)
      ⟨c, hc, hsem⟩, fun y hy => ?_⟩
    rw [hsh]
    split
    · rfl
    · rename_i hyl
      exact hy.resolve_right fun e => hyl (e ▸ hw.head_mem)

include h₀ in
/-- One step of Part 2's first loop: it keeps the invariant and what is handled, and handles the register it visits if that
is a tail. -/
theorem Resolving.shuffleChain (hm : GPRMaps counts check entry) (hsc : linkOf counts check entry (.gpr sc) = none)
    (hsc' : linkTo counts check entry (.gpr sc) = none) (hst : sc ≠ .tagTypeNumberRegister) {st : LinkState}
    (h : Resolving counts check entry sc st₀ st) (index : Nat) :
    Resolving counts check entry sc st₀ (shuffleChain counts check entry st index) ∧
      (∀ y, (st.shuffled y).handled = true → ((shuffleChain counts check entry st index).shuffled y).handled = true) ∧
      ((linkOf counts check entry (lookupForRegister counts index)).isSome →
        linkTo counts check entry (lookupForRegister counts index) = none →
        ((shuffleChain counts check entry st index).shuffled (lookupForRegister counts index)).handled = true) := by
  have hT : ∀ r, (st.shuffled r).hasTo = (linkOf counts check entry r).isSome := fun r => by rw [h.hasTo, h₀]
  have hF : ∀ r, (st.shuffled r).hasFrom = (linkTo counts check entry r).isSome := fun r => by rw [h.hasFrom, h₀]
  dsimp only [JavaScriptCore.shuffleChain]
  split
  · rename_i hc
    refine ⟨h, fun y hy => hy, fun hto hfrom => ?_⟩
    simpa [ShuffledRegister.isEndOfNonCyclingPermutation, hT, hF, hto, hfrom] using hc
  · rename_i hc
    simp [ShuffledRegister.isEndOfNonCyclingPermutation, hT, hF] at hc
    obtain ⟨⟨⟨hto, hfrom⟩, hun⟩, -⟩ := hc
    obtain ⟨h₁, h₂⟩ := h.chain h₀ hm hsc hsc' hst (Option.ne_none_iff_isSome.mp hto) hfrom hun
    exact ⟨h₁, fun y hy => h₂ y (.inl hy), fun _ _ => h₂ _ (.inr rfl)⟩

include h₀ in
/-- One step of Part 2's second loop, once every tail is handled: it keeps the invariant and what is handled, and handles
the register it visits if that is linked. -/
theorem Resolving.shuffleCycle (hm : GPRMaps counts check entry) (hsg : st₀.scratchGPR = some sc)
    (hsc : linkOf counts check entry (.gpr sc) = none) (hst : sc ≠ .tagTypeNumberRegister) {st : LinkState}
    (h : Resolving counts check entry sc st₀ st)
    (htails : ∀ t, (linkOf counts check entry t).isSome → linkTo counts check entry t = none →
      (st.shuffled t).handled = true) (index : Nat) :
    Resolving counts check entry sc st₀ (shuffleCycle counts check entry st index) ∧
      (∀ y, (st.shuffled y).handled = true → ((shuffleCycle counts check entry st index).shuffled y).handled = true) ∧
      ((linkOf counts check entry (lookupForRegister counts index)).isSome ∨
          (linkTo counts check entry (lookupForRegister counts index)).isSome →
        ((shuffleCycle counts check entry st index).shuffled (lookupForRegister counts index)).handled = true) := by
  have hT : ∀ r, (st.shuffled r).hasTo = (linkOf counts check entry r).isSome := fun r => by rw [h.hasTo, h₀]
  have hF : ∀ r, (st.shuffled r).hasFrom = (linkTo counts check entry r).isSome := fun r => by rw [h.hasFrom, h₀]
  have hscratch : st.scratchGPR.getD .tagMaskRegister = sc := by
    rw [show st.scratchGPR = st₀.scratchGPR from congrArg (·.2.1) h.kept, hsg]; rfl
  dsimp only [JavaScriptCore.shuffleCycle]
  split
  · rename_i hc
    refine ⟨h, fun y hy => hy, fun hl => ?_⟩
    simp only [hT, hF, Bool.or_eq_true, Bool.and_eq_true, Bool.not_eq_true'] at hc
    rcases hc with hc | ⟨hf, ht⟩
    · exact hc
    · rcases hl with hl | hl
      · rw [hl] at ht; cases ht
      · rw [hl] at hf; cases hf
  · rename_i hc
    simp only [hT, hF, Bool.or_eq_true, Bool.and_eq_true, Bool.not_eq_true', not_or, not_and, Bool.not_eq_false] at hc
    obtain ⟨hun, hl⟩ := hc
    rw [hscratch]
    have hlinked : (linkOf counts check entry (lookupForRegister counts index)).isSome ∨
        (linkTo counts check entry (lookupForRegister counts index)).isSome := by
      by_cases hf : (linkTo counts check entry (lookupForRegister counts index)).isSome
      · exact .inr hf
      · exact .inl (hl (by simpa using hf))
    obtain ⟨h₁, h₂⟩ := h.cycle h₀ hm hsc hst htails hlinked (by simpa using hun) st.scratchFPR1 st.scratchFPR2
    exact ⟨h₁, fun y hy => h₂ y (.inl hy), fun _ => h₂ _ (.inr rfl)⟩

end Resolve

section Part2

variable {counts : RegisterCounts} {graph : Graph} {check : SpeculationCheck} {entry : EntryLocation}

/-- Every linked register is one the loops of Part 2 visit. -/
theorem GPRMaps.exists_lookupForRegister (hm : GPRMaps counts check entry) {r : GeneralizedRegister}
    (hr : (linkOf counts check entry r).isSome ∨ (linkTo counts check entry r).isSome) :
    ∃ i < counts.total, lookupForRegister counts i = r := by
  have : ∃ j < counts.gprs, r = .gpr (.reg j) := by
    rcases hr with hr | hr
    · obtain ⟨p, hp⟩ := Option.isSome_iff_exists.mp hr
      exact (hm.linkOf_some hp).1
    · obtain ⟨s, hs⟩ := Option.isSome_iff_exists.mp hr
      exact (hm.linkOf_some ((linkOf_eq_some_iff hm.check_unique hm.entry_unique).mpr hs)).2.1
  obtain ⟨j, hj, rfl⟩ := this
  exact ⟨j, by unfold RegisterCounts.total; omega, by simp [lookupForRegister, hj]⟩

/-- Part 2 at an exit whose nodes are all in GPRs is a parallel move: from any machine, every GPR but `scratchGPR` ends
holding its target, and no FPR and no memory word changes. -/
theorem afterPart2_moves (hm : GPRMaps counts check entry) :
    ∃ c, (afterPart2 counts graph check entry).code = (afterPart1 counts graph check entry).code ++ c ∧
      ∀ m : Machine, m.gpr .tagTypeNumberRegister = TagTypeNumber →
        (∀ g, g ≠ (afterPart1 counts graph check entry).scratchGPR.getD .tagMaskRegister →
          (exec m c).gpr g = moveTarget check entry (linkOf counts check entry) m g) ∧
        (exec m c).fpr = m.fpr ∧ (exec m c).memory = m.memory := by
  have h₀ := @afterPart1_shuffled counts graph check entry hm.check_unique hm.entry_unique
  obtain ⟨sc, hsg, hS⟩ := @afterPart1_scratchGPR counts graph check entry
  rw [hsg, Option.getD_some]
  obtain ⟨hR, htails⟩ := foldl_range_invariant (shuffleChain counts check entry)
    (fun k st => Resolving counts check entry sc (afterPart1 counts graph check entry) st ∧
      ∀ i < k, (linkOf counts check entry (lookupForRegister counts i)).isSome →
        linkTo counts check entry (lookupForRegister counts i) = none →
        (st.shuffled (lookupForRegister counts i)).handled = true)
    counts.total _ ⟨Resolving.start fun r => by rw [h₀], fun i hi => absurd hi (Nat.not_lt_zero i)⟩
    fun i _ st ⟨h, hprog⟩ => by
      obtain ⟨h₁, hmono, hnew⟩ := h.shuffleChain h₀ hm hS.1 hS.2 hS.3 i
      refine ⟨h₁, fun j hj hto hfrom => ?_⟩
      rcases Nat.lt_succ_iff_lt_or_eq.mp hj with hj | rfl
      · exact hmono _ (hprog j hj hto hfrom)
      · exact hnew hto hfrom
  obtain ⟨hR', -, hlinked⟩ := foldl_range_invariant (shuffleCycle counts check entry)
    (fun k st => Resolving counts check entry sc (afterPart1 counts graph check entry) st ∧
      (∀ t, (linkOf counts check entry t).isSome → linkTo counts check entry t = none → (st.shuffled t).handled = true) ∧
      ∀ i < k, (linkOf counts check entry (lookupForRegister counts i)).isSome ∨
          (linkTo counts check entry (lookupForRegister counts i)).isSome →
        (st.shuffled (lookupForRegister counts i)).handled = true)
    counts.total _
    ⟨hR, fun t hto hfrom => by
      obtain ⟨i, hi, rfl⟩ := hm.exists_lookupForRegister (.inl hto)
      exact htails i hi hto hfrom, fun i hi => absurd hi (Nat.not_lt_zero i)⟩
    fun i _ st ⟨h, ht, hprog⟩ => by
      obtain ⟨h₁, hmono, hnew⟩ := h.shuffleCycle h₀ hm hsg hS.1 hS.3 ht i
      refine ⟨h₁, fun t hto hfrom => hmono t (ht t hto hfrom), fun j hj hl => ?_⟩
      rcases Nat.lt_succ_iff_lt_or_eq.mp hj with hj | rfl
      · exact hmono _ (hprog j hj hl)
      · exact hnew hl
  obtain ⟨c, hc, hsem⟩ := hR'.moves
  refine ⟨c, hc, fun m hm' => ⟨fun g hg => ?_, (hsem m hm').2⟩⟩
  rw [(hsem m hm').1 g hg]
  split
  · rfl
  · rename_i hun
    refine (moveTarget_of_none ?_).symm
    by_contra hl
    obtain ⟨i, hi, hri⟩ := hm.exists_lookupForRegister (.inl (Option.ne_none_iff_isSome.mp hl))
    exact hun (hri ▸ hlinked i hi (hri ▸ .inl (Option.ne_none_iff_isSome.mp hl)))

end Part2

end JavaScriptCore
