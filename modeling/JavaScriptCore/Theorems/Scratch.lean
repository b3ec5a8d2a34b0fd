import JavaScriptCore.Theorems.Spill

/-!
# Part 1: the scratch registers stay out of the move graph

The reverse-map loops and Part 1 pick the scratch registers Part 2 works with: `scratchGPR` is a GPR holding no node on
either side or a check GPR whose node the entry holds nowhere and whose entry slot is free, else the borrowed
`tagMaskRegister`; `scratchFPR1` and `scratchFPR2` are FPRs picked alike, the first free one and then, by the odd
`else if (scratchFPR2)` test, a later one. The assertions after Part 1 check that no scratch register is in the move graph.
They hold for every check and entry, whatever the register infos name: Part 1 sets `hasFrom` only on a register with a
`linkTo` and `hasTo` only on a register the entry holds a node in (`FlagsLinked`), and every register picked has neither
(`afterPart1_scratch_registers`).
-/

namespace JavaScriptCore

/-- `find` returns a tuple of the map. -/
theorem NodeToRegisterMap.mem_of_find_eq_some {l : List (NodeIndex × GeneralizedRegister)} {n : NodeIndex}
    {r : GeneralizedRegister} (h : NodeToRegisterMap.find ⟨l⟩ n = some r) : (n, r) ∈ l := by
  obtain ⟨p, hp, rfl⟩ := Option.map_eq_some'.1 h
  have hn : p.1 = n := by simpa using List.find?_some hp
  exact hn ▸ List.mem_reverse.1 (List.mem_of_find?_eq_some hp)

section Candidates

variable (counts : RegisterCounts) (check : SpeculationCheck) (entry : EntryLocation)

/-- What the flags of the move graph can say: `hasFrom` only on a register with a `linkTo`, `hasTo` only on a register the
entry holds a node in. -/
def FlagsLinked (shuffled : GeneralizedRegister → ShuffledRegister) : Prop :=
  ∀ r, ((shuffled r).hasFrom = true → (linkTo counts check entry r).isSome) ∧
    ((shuffled r).hasTo = true → (nodeIn counts entry.gprInfo entry.fprInfo r).isSome)

/-- A GPR fit to be `scratchGPR`: one the loops visit, holding nothing for the entry and nothing the entry holds. -/
def ScratchGPRCandidate (i : Nat) : Prop :=
  i < counts.gprs ∧ (entry.gprInfo i).nodeIndex = none ∧ linkTo counts check entry (.gpr (.reg i)) = none

/-- An FPR fit to be a scratch FPR, likewise. -/
def ScratchFPRCandidate (f : FPRReg) : Prop :=
  f.index < counts.fprs ∧ (entry.fprInfo f.index).nodeIndex = none ∧ linkTo counts check entry (.fpr f) = none

/-- `scratchGPR` before the borrow: unset or a candidate. -/
def ScratchGPRPicked (scratchGPR : Option GPRReg) : Prop :=
  ∀ g, scratchGPR = some g → ∃ i, g = .reg i ∧ ScratchGPRCandidate counts check entry i

/-- The scratch FPRs while Part 1's FPR loop has visited `k` registers: candidates, `scratchFPR2` only beside a different
`scratchFPR1`, and `scratchFPR1` holding no check node or already visited. -/
def ScratchFPRsPicked (k : Nat) (p : Option FPRReg × Option FPRReg) : Prop :=
  (∀ f, (p.1 = some f ∨ p.2 = some f) → ScratchFPRCandidate counts check entry f) ∧
  (∀ f₂, p.2 = some f₂ → ∃ f₁, p.1 = some f₁ ∧ f₁ ≠ f₂) ∧
  ∀ f, p.1 = some f → (check.fprInfo f.index).nodeIndex = none ∨ f.index < k

/-- The scratch FPRs while the reverse-map loop over FPRs has visited `k` registers: free on both sides, visited, and
`scratchFPR2` only beside a different `scratchFPR1`. -/
def FreeFPRsPicked (k : Nat) (p : Option FPRReg × Option FPRReg) : Prop :=
  (∀ f, (p.1 = some f ∨ p.2 = some f) →
    f.index < k ∧ (check.fprInfo f.index).nodeIndex = none ∧ (entry.fprInfo f.index).nodeIndex = none) ∧
  (∀ f₂, p.2 = some f₂ → ∃ f₁, p.1 = some f₁ ∧ f₁ ≠ f₂)

end Candidates

/-- The two scratch FPRs. -/
def LinkState.scratchFPRs (st : LinkState) : Option FPRReg × Option FPRReg := (st.scratchFPR1, st.scratchFPR2)

namespace LinkState

@[simp] theorem scratchFPRs_emit (st : LinkState) (is : List Instr) : (st.emit is).scratchFPRs = st.scratchFPRs := rfl

@[simp] theorem scratchFPRs_link (st : LinkState) (r next : GeneralizedRegister) :
    (st.link r next).scratchFPRs = st.scratchFPRs := rfl

@[simp] theorem scratchFPRs_with_scratchGPR (st : LinkState) (g : Option GPRReg) :
    ({ st with scratchGPR := g } : LinkState).scratchFPRs = st.scratchFPRs := rfl

@[simp] theorem scratchFPRs_with_scratchFPR1 (st : LinkState) (f : Option FPRReg) :
    ({ st with scratchFPR1 := f } : LinkState).scratchFPRs = (f, st.scratchFPR2) := rfl

@[simp] theorem scratchFPRs_with_scratchFPR2 (st : LinkState) (f : Option FPRReg) :
    ({ st with scratchFPR2 := f } : LinkState).scratchFPRs = (st.scratchFPR1, f) := rfl

end LinkState

section Steps

variable {counts : RegisterCounts} {graph : Graph} {check : SpeculationCheck} {entry : EntryLocation}

/-! ### What each loop body does to the scratch registers -/

theorem scratchGPR_buildMapsFPR (st : LinkState) (i : Nat) : (buildMapsFPR check entry st i).scratchGPR = st.scratchGPR := by
  unfold buildMapsFPR
  cases (check.fprInfo i).nodeIndex <;> cases (entry.fprInfo i).nodeIndex <;> simp
  split <;> rfl

theorem scratchFPRs_buildMapsGPR (st : LinkState) (i : Nat) :
    (buildMapsGPR check entry st i).scratchFPRs = st.scratchFPRs := by
  unfold buildMapsGPR
  cases (check.gprInfo i).nodeIndex <;> cases (entry.gprInfo i).nodeIndex <;> simp [LinkState.scratchFPRs]

theorem scratchFPRs_buildMapsFPR (st : LinkState) (i : Nat) :
    (buildMapsFPR check entry st i).scratchFPRs =
      if (check.fprInfo i).nodeIndex = none ∧ (entry.fprInfo i).nodeIndex = none then
        if st.scratchFPR1 = none then (some ⟨i⟩, st.scratchFPR2) else (st.scratchFPR1, some ⟨i⟩)
      else st.scratchFPRs := by
  unfold buildMapsFPR
  cases (check.fprInfo i).nodeIndex <;> cases (entry.fprInfo i).nodeIndex <;> simp [LinkState.scratchFPRs]
  split <;> rfl

theorem scratchFPRs_spillGPR (st : LinkState) (i : Nat) :
    (spillGPR graph check entry st i).scratchFPRs = st.scratchFPRs := by
  dsimp only [spillGPR]
  split
  · rfl
  · split <;> simp only [apply_ite LinkState.scratchFPRs, LinkState.scratchFPRs_emit, LinkState.scratchFPRs_link,
      LinkState.scratchFPRs_with_scratchGPR, ite_self]

theorem scratchFPRs_borrowTagMaskRegister (st : LinkState) : (borrowTagMaskRegister st).scratchFPRs = st.scratchFPRs := by
  unfold borrowTagMaskRegister; split <;> rfl

theorem scratchFPRs_spillFPR (st : LinkState) (i : Nat) :
    (spillFPR graph check entry st i).scratchFPRs =
      match (check.fprInfo i).nodeIndex with
      | some n =>
        if st.entryNodeToRegisterMap.find n = none ∧ (entry.fprInfo i).nodeIndex = none then
          if st.scratchFPR1 = none then (some ⟨i⟩, st.scratchFPR2)
          else if fprIsTrue st.scratchFPR2 then (st.scratchFPR1, some ⟨i⟩) else st.scratchFPRs
        else st.scratchFPRs
      | none => st.scratchFPRs := by
  dsimp only [spillFPR]
  cases (check.fprInfo i).nodeIndex with
  | none => rfl
  | some n =>
    cases hf : st.entryNodeToRegisterMap.find n with
    | some next =>
      simp only [hf, reduceCtorEq, false_and, if_false, apply_ite LinkState.scratchFPRs, LinkState.scratchFPRs_emit,
        LinkState.scratchFPRs_link, ite_self]
    | none =>
      simp only [hf, true_and, apply_ite LinkState.scratchFPRs, LinkState.scratchFPRs_emit,
        LinkState.scratchFPRs_with_scratchFPR1, LinkState.scratchFPRs_with_scratchFPR2, ite_self]

/-! ### The flags -/

/-- Linking `r₀` to its `linkTo` keeps the flags to what they can say. -/
theorem flagsLinked_link {st : LinkState} (h : FlagsLinked counts check entry st.shuffled) {r₀ next : GeneralizedRegister}
    (hto : linkTo counts check entry r₀ = some next) : FlagsLinked counts check entry (st.link r₀ next).shuffled := by
  have hnext : (nodeIn counts entry.gprInfo entry.fprInfo next).isSome := by
    obtain ⟨n, -, hn⟩ := Option.bind_eq_some.1 hto
    rw [mem_heldNodes_iff.1 (NodeToRegisterMap.mem_of_find_eq_some hn)]
    rfl
  intro s
  rw [LinkState.link_shuffled]
  by_cases hsn : s = next
  · subst hsn
    refine ⟨fun hf => ?_, fun _ => hnext⟩
    by_cases hsr : s = r₀
    · subst hsr; simp [hto]
    · simp only [if_true, hsr, if_false] at hf
      exact (h s).1 hf
  · rw [if_neg hsn]
    by_cases hsr : s = r₀
    · subst hsr
      simpa [hto] using (h s).2
    · simpa [hsr] using h s

/-- One visit of Part 1 keeps the flags to what they can say. -/
theorem flagsLinked_visit {st : LinkState} (h : FlagsLinked counts check entry st.shuffled) (r₀ : GeneralizedRegister) :
    FlagsLinked counts check entry
      (match linkTo counts check entry r₀ with
        | some next => (st.link r₀ next).shuffled
        | none => st.shuffled) := by
  cases hto : linkTo counts check entry r₀ with
  | none => exact h
  | some next => exact flagsLinked_link h hto

/-- A register with no `linkTo` has no `hasFrom`. -/
theorem hasFrom_eq_false {sh : GeneralizedRegister → ShuffledRegister} (h : FlagsLinked counts check entry sh)
    {r : GeneralizedRegister} (hto : linkTo counts check entry r = none) : (sh r).hasFrom = false :=
  Bool.eq_false_iff.2 fun hf => by simpa [hto] using (h r).1 hf

/-- A register the entry holds nothing in has no `hasTo`. -/
theorem hasTo_eq_false {sh : GeneralizedRegister → ShuffledRegister} (h : FlagsLinked counts check entry sh)
    {r : GeneralizedRegister} (hn : nodeIn counts entry.gprInfo entry.fprInfo r = none) : (sh r).hasTo = false :=
  Bool.eq_false_iff.2 fun ht => by simpa [hn] using (h r).2 ht

/-- A check GPR whose node the entry holds nowhere has been stored, by the check or by Part 1. -/
theorem stored_of_linkTo_none {i : Nat} (hto : linkTo counts check entry (.gpr (.reg i)) = none) :
    (check.gprInfo i).nodeIndex = none ∨ (check.gprInfo i).isSpilled = true ∨ spillsGPR counts check entry i = true := by
  unfold spillsGPR
  rw [hto]
  cases (check.gprInfo i).nodeIndex <;> cases (check.gprInfo i).isSpilled <;> simp

/-- An FPR the check holds nothing in is linked to nothing. -/
theorem linkTo_fpr_of_check_none {f : FPRReg} (h : (check.fprInfo f.index).nodeIndex = none) :
    linkTo counts check entry (.fpr f) = none := by
  simp only [linkTo, nodeIn]; split <;> simp [h]

/-! ### The loop invariants -/

theorem freeFPRsPicked_buildMapsFPR {k : Nat} {st : LinkState} (h : FreeFPRsPicked check entry k st.scratchFPRs) :
    FreeFPRsPicked check entry (k + 1) (buildMapsFPR check entry st k).scratchFPRs := by
  obtain ⟨hfree, hne⟩ := h
  rw [scratchFPRs_buildMapsFPR]
  split_ifs with hc h1
  · have h2 : st.scratchFPR2 = none := by
      cases h2 : st.scratchFPR2 with
      | none => rfl
      | some f₂ =>
        obtain ⟨f₁, hf₁, -⟩ := hne f₂ h2
        simp [LinkState.scratchFPRs, h1] at hf₁
    refine ⟨fun f hf => ?_, fun f₂ hf₂ => by simp [h2] at hf₂⟩
    simp only [h2, reduceCtorEq, or_false, Option.some.injEq] at hf
    subst hf
    exact ⟨Nat.lt_succ_self k, hc⟩
  · obtain ⟨j, hj⟩ := Option.ne_none_iff_exists'.1 h1
    have hjk := (hfree j (.inl hj)).1
    refine ⟨fun f hf => ?_, fun f₂ hf₂ => ⟨j, hj, fun he => ?_⟩⟩
    · rcases hf with hf | hf
      · obtain ⟨h₁, h₂, h₃⟩ := hfree f (.inl hf)
        exact ⟨by omega, h₂, h₃⟩
      · cases hf
        exact ⟨Nat.lt_succ_self k, hc⟩
    · cases hf₂
      subst he
      exact absurd hjk (lt_irrefl k)
  · exact ⟨fun f hf => ⟨by have := (hfree f hf).1; omega, (hfree f hf).2⟩, hne⟩

/-- The reverse-map loops pick free registers. -/
theorem picked_buildMaps :
    ScratchGPRPicked counts check entry ((List.range counts.fprs).foldl (buildMapsFPR check entry)
      ((List.range counts.gprs).foldl (buildMapsGPR check entry) LinkState.initial)).scratchGPR ∧
    FreeFPRsPicked check entry counts.fprs ((List.range counts.fprs).foldl (buildMapsFPR check entry)
      ((List.range counts.gprs).foldl (buildMapsGPR check entry) LinkState.initial)).scratchFPRs := by
  have hG := foldl_range_invariant (buildMapsGPR check entry) (fun _ (st : LinkState) => ScratchGPRPicked counts check entry st.scratchGPR)
    counts.gprs LinkState.initial (fun g h => nomatch h) fun i hi st ih g hg => by
      rw [scratchGPR_buildMapsGPR] at hg
      split at hg
      · rename_i hn
        obtain rfl := Option.some.inj hg
        exact ⟨i, rfl, hi, hn.2, linkTo_of_check_none hn.1⟩
      · exact ih g hg
  have hFPRs := foldl_preserves LinkState.scratchFPRs (@scratchFPRs_buildMapsGPR check entry) (List.range counts.gprs)
    LinkState.initial
  generalize (List.range counts.gprs).foldl (buildMapsGPR check entry) LinkState.initial = st0 at hG hFPRs
  refine ⟨by rwa [foldl_preserves LinkState.scratchGPR (@scratchGPR_buildMapsFPR check entry)], ?_⟩
  refine foldl_range_invariant _ (fun k (st : LinkState) => FreeFPRsPicked check entry k st.scratchFPRs) _ _ ?_
    fun i _ st ih => freeFPRsPicked_buildMapsFPR ih
  show FreeFPRsPicked check entry 0 st0.scratchFPRs
  rw [hFPRs]
  exact ⟨fun f hf => by simp [LinkState.scratchFPRs, LinkState.initial] at hf, fun f hf => nomatch hf⟩

theorem flagsLinked_initial : FlagsLinked counts check entry fun _ => .initial :=
  fun _ => ⟨(nomatch ·), (nomatch ·)⟩

/-- Free FPRs are fit scratch FPRs that hold no check node. -/
theorem scratchFPRsPicked_of_free {p : Option FPRReg × Option FPRReg} (h : FreeFPRsPicked check entry counts.fprs p) :
    ScratchFPRsPicked counts check entry 0 p :=
  ⟨fun f hf => ⟨(h.1 f hf).1, (h.1 f hf).2.2, linkTo_fpr_of_check_none (h.1 f hf).2.1⟩, h.2,
    fun f hf => .inl (h.1 f (.inl hf)).2.1⟩

theorem scratchGPRPicked_spillGPR (st : LinkState) {i : Nat} (hi : i < counts.gprs)
    (hmap : st.entryNodeToRegisterMap = ⟨heldNodes counts entry.gprInfo entry.fprInfo⟩)
    (h : ScratchGPRPicked counts check entry st.scratchGPR) :
    ScratchGPRPicked counts check entry (spillGPR graph check entry st i).scratchGPR := by
  have hto : linkTo counts check entry (.gpr (.reg i)) =
      (check.gprInfo i).nodeIndex.bind st.entryNodeToRegisterMap.find := by
    simp [linkTo, nodeIn, hi, hmap]
  intro g hg
  rw [scratchGPR_spillGPR] at hg
  revert hg
  cases hn : (check.gprInfo i).nodeIndex with
  | none => exact h g
  | some n =>
    simp only
    split
    · rename_i he
      intro hg
      obtain rfl := Option.some.inj hg
      exact ⟨i, rfl, hi, he.2, by rw [hto, hn, Option.some_bind, he.1]⟩
    · exact h g

/-- Part 1's FPR loop, one register further: a pick is a candidate; `scratchFPR2` is picked only beside a `scratchFPR1`
that holds no check node or was visited before, so not the register at hand. -/
theorem scratchFPRsPicked_spillFPR {k : Nat} (hk : k < counts.fprs) {st : LinkState}
    (hmap : st.entryNodeToRegisterMap = ⟨heldNodes counts entry.gprInfo entry.fprInfo⟩)
    (h : ScratchFPRsPicked counts check entry k st.scratchFPRs) :
    ScratchFPRsPicked counts check entry (k + 1) (spillFPR graph check entry st k).scratchFPRs := by
  obtain ⟨hcand, hne, hvis⟩ := h
  have hto : linkTo counts check entry (.fpr ⟨k⟩) = (check.fprInfo k).nodeIndex.bind st.entryNodeToRegisterMap.find := by
    simp [linkTo, nodeIn, hk, hmap]
  have hkeep : ScratchFPRsPicked counts check entry (k + 1) st.scratchFPRs :=
    ⟨hcand, hne, fun f hf => (hvis f hf).imp_right Nat.lt_succ_of_lt⟩
  rw [scratchFPRs_spillFPR]
  cases hn : (check.fprInfo k).nodeIndex with
  | none => exact hkeep
  | some n =>
    simp only
    split_ifs with hc h1 h2
    · have hk' : ScratchFPRCandidate counts check entry ⟨k⟩ := ⟨hk, hc.2, by rw [hto, hn, Option.some_bind, hc.1]⟩
      · have h2 : st.scratchFPR2 = none := by
          cases h2 : st.scratchFPR2 with
          | none => rfl
          | some f₂ =>
            obtain ⟨f₁, hf₁, -⟩ := hne f₂ h2
            simp [LinkState.scratchFPRs, h1] at hf₁
        refine ⟨fun f hf => ?_, fun f₂ hf₂ => by simp [h2] at hf₂, fun f hf => ?_⟩
        · simp only [h2, reduceCtorEq, or_false, Option.some.injEq] at hf
          exact hf ▸ hk'
        · cases hf
          exact .inr (Nat.lt_succ_self k)
    · have hk' : ScratchFPRCandidate counts check entry ⟨k⟩ := ⟨hk, hc.2, by rw [hto, hn, Option.some_bind, hc.1]⟩
      obtain ⟨j, hj⟩ := Option.ne_none_iff_exists'.1 h1
      refine ⟨fun f hf => ?_, fun f₂ hf₂ => ⟨j, hj, fun he => ?_⟩, fun f hf => (hvis f hf).imp_right Nat.lt_succ_of_lt⟩
      · rcases hf with hf | hf
        · exact hcand f (.inl hf)
        · cases hf
          exact hk'
      · cases hf₂
        subst he
        rcases hvis _ hj with hnone | hlt
        · rw [hn] at hnone
          cases hnone
        · exact lt_irrefl k hlt
    · exact hkeep
    · exact hkeep

/-- Part 1 keeps the flags to what they can say, leaves `scratchGPR` borrowed or a candidate, and the scratch FPRs
candidates, `scratchFPR2` only beside a different `scratchFPR1`. -/
theorem afterPart1_scratch_invariants :
    FlagsLinked counts check entry (afterPart1 counts graph check entry).shuffled ∧
    ScratchFPRsPicked counts check entry counts.fprs (afterPart1 counts graph check entry).scratchFPRs ∧
    (((afterPart1 counts graph check entry).scratchGPR = some .tagMaskRegister ∧
        (afterPart1 counts graph check entry).needToRestoreTagMaskRegister = true) ∨
      ∃ i, (afterPart1 counts graph check entry).scratchGPR = some (.reg i) ∧ ScratchGPRCandidate counts check entry i) := by
  have hmaps := @maps_buildMaps counts check entry
  have hinit := @buildMaps_shuffled_code counts check entry
  obtain ⟨hG0, hF0⟩ := @picked_buildMaps counts check entry
  simp only [afterPart1]
  generalize (List.range counts.fprs).foldl (buildMapsFPR check entry) _ = st0 at hmaps hinit hG0 hF0 ⊢
  obtain ⟨hmap1, hfl1, hg1, hfp1⟩ := foldl_range_invariant (spillGPR graph check entry)
    (fun _ (st : LinkState) => st.entryNodeToRegisterMap = ⟨heldNodes counts entry.gprInfo entry.fprInfo⟩ ∧
      FlagsLinked counts check entry st.shuffled ∧ ScratchGPRPicked counts check entry st.scratchGPR ∧
      st.scratchFPRs = st0.scratchFPRs) counts.gprs st0
    ⟨congrArg Prod.snd hmaps, hinit.1 ▸ flagsLinked_initial, hG0, rfl⟩
    (fun i hi st ⟨hmap, hfl, hg, hfp⟩ => ⟨(congrArg Prod.snd (maps_spillGPR st i)).trans hmap,
      (shuffled_spillGPR st hi hmap).symm ▸ flagsLinked_visit hfl _, scratchGPRPicked_spillGPR st hi hmap hg,
      (scratchFPRs_spillGPR st i).trans hfp⟩)
  generalize (List.range counts.gprs).foldl (spillGPR graph check entry) st0 = st1 at hmap1 hfl1 hg1 hfp1
  have hB : ((borrowTagMaskRegister st1).scratchGPR = some .tagMaskRegister ∧
      (borrowTagMaskRegister st1).needToRestoreTagMaskRegister = true) ∨
      ∃ i, (borrowTagMaskRegister st1).scratchGPR = some (.reg i) ∧ ScratchGPRCandidate counts check entry i := by
    unfold borrowTagMaskRegister
    split
    · exact .inl ⟨rfl, rfl⟩
    · obtain ⟨g, hg⟩ := Option.ne_none_iff_exists'.1 ‹_›
      obtain ⟨i, rfl, hc⟩ := hg1 g hg
      exact .inr ⟨i, hg, hc⟩
  obtain ⟨-, hflF, hfpF⟩ := foldl_range_invariant (spillFPR graph check entry)
    (fun k (st : LinkState) => st.entryNodeToRegisterMap = ⟨heldNodes counts entry.gprInfo entry.fprInfo⟩ ∧
      FlagsLinked counts check entry st.shuffled ∧ ScratchFPRsPicked counts check entry k st.scratchFPRs) counts.fprs
    (borrowTagMaskRegister st1)
    ⟨(congrArg Prod.snd (maps_borrowTagMaskRegister st1)).trans hmap1,
      (shuffled_borrowTagMaskRegister st1).symm ▸ hfl1,
      (scratchFPRs_borrowTagMaskRegister st1).trans hfp1 ▸ scratchFPRsPicked_of_free hF0⟩
    (fun i hi st ⟨hmap, hfl, hfp⟩ => ⟨(congrArg Prod.snd (maps_spillFPR st i)).trans hmap,
      (shuffled_spillFPR st hi hmap).symm ▸ flagsLinked_visit hfl _, scratchFPRsPicked_spillFPR hi hmap hfp⟩)
  have hF := foldl_preserves (fun st => (st.scratchGPR, st.needToRestoreTagMaskRegister))
    (@scratch_spillFPR graph check entry) (List.range counts.fprs) (borrowTagMaskRegister st1)
  simp only [Prod.mk.injEq] at hF
  rw [hF.1, hF.2]
  exact ⟨hflF, hfpF, hB⟩

end Steps

/-- For every check and entry, at the end of Part 1: `scratchGPR` is `tagMaskRegister` with
`needToRestoreTagMaskRegister` set, or a GPR with neither `hasFrom` nor `hasTo` that holds no node in the entry and whose
check value, if any, the check has spilled or Part 1 stores; `scratchFPR2` is set only beside a different `scratchFPR1`; and
each scratch FPR has neither `hasFrom` nor `hasTo` and holds no node in the entry. -/
theorem afterPart1_scratch_registers (counts : RegisterCounts) (graph : Graph) (check : SpeculationCheck)
    (entry : EntryLocation) :
    (((afterPart1 counts graph check entry).scratchGPR = some .tagMaskRegister ∧
        (afterPart1 counts graph check entry).needToRestoreTagMaskRegister = true) ∨
      ∃ i, (afterPart1 counts graph check entry).scratchGPR = some (.reg i) ∧ i < counts.gprs ∧
        ((afterPart1 counts graph check entry).shuffled (.gpr (.reg i))).hasFrom = false ∧
        ((afterPart1 counts graph check entry).shuffled (.gpr (.reg i))).hasTo = false ∧
        (entry.gprInfo i).nodeIndex = none ∧
        ((check.gprInfo i).nodeIndex = none ∨ (check.gprInfo i).isSpilled = true ∨
          spillsGPR counts check entry i = true)) ∧
    (∀ f, (afterPart1 counts graph check entry).scratchFPR2 = some f →
      ∃ f₁, (afterPart1 counts graph check entry).scratchFPR1 = some f₁ ∧ f₁ ≠ f) ∧
    ∀ f, ((afterPart1 counts graph check entry).scratchFPR1 = some f ∨
        (afterPart1 counts graph check entry).scratchFPR2 = some f) →
      f.index < counts.fprs ∧ ((afterPart1 counts graph check entry).shuffled (.fpr f)).hasFrom = false ∧
        ((afterPart1 counts graph check entry).shuffled (.fpr f)).hasTo = false ∧ (entry.fprInfo f.index).nodeIndex = none := by
  obtain ⟨hfl, ⟨hcand, hne, -⟩, hgpr⟩ := @afterPart1_scratch_invariants counts graph check entry
  refine ⟨hgpr.imp_right fun ⟨i, hg, hi, he, hto⟩ => ⟨i, hg, hi, hasFrom_eq_false hfl hto,
    hasTo_eq_false hfl (by simp [nodeIn, he]), he, stored_of_linkTo_none hto⟩, hne, fun f hf => ?_⟩
  obtain ⟨hi, he, hto⟩ := hcand f hf
  exact ⟨hi, hasFrom_eq_false hfl hto, hasTo_eq_false hfl (by simp [nodeIn, he]), he⟩

end JavaScriptCore
