import JavaScriptCore.Theorems.ExitSteps

/-!
# The fast paths of the OSR exit are exact

Step 3 of `exitSpeculativeWithOSR` sets flags and counts, and the later steps test them before they run their loops: step 4
runs only with an unboxed int32, steps 6 and 7 only with an FPR, step 8 only with a displaced value, step 9 only with a
poisoned variable, step 10 only with a constant. Each test skips only a loop that would emit nothing, so the exit's code is
exactly the code with every loop run over all the recoveries (`exitSpeculativeWithOSR_eq_withoutFastPaths`).

What each test needs of step 3 is read off `ClassifiedAs` and the flag lemmas, together with one more invariant of the fold:
`haveUndefined` is only set along with `haveConstants`.
-/

namespace JavaScriptCore

/-- `exitSpeculativeWithOSR` with the tests of step 3's flags and counts taken out: steps 4 to 10 run their loops over every
recovery, and step 8 picks its branch by the count alone. -/
def exitSpeculativeWithOSRWithoutFastPaths (counts : RegisterCounts) (layout : FrameLayout) (exit : OSRExit)
    (baseline : Baseline) (recovery : Option SpeculationRecovery) : List Instr :=
  let c := classify exit
  let step5 := dumpGPRs layout exit c 0 exit.recoveries.enum
  let step7 := dumpFPRs layout exit c step5.2 exit.recoveries.enum
  (osrRecoveryPrePass recovery).1 ++ reboxInt32s (osrRecoveryPrePass recovery).2 exit.recoveries ++ step5.1 ++
    (boxFPRs exit.recoveries ++ step7.1) ++
    (if c.numberOfDisplacedVirtualRegisters ≤ counts.gprs then
      loadDisplaced 0 exit.recoveries ++ storeDisplaced layout exit 0 exit.recoveries.enum
    else
      saveDisplaced step7.2 exit.recoveries ++
        restoreDisplaced layout exit c.numberOfPoisonedVirtualRegisters exit.recoveries.enum) ++
    drainPoisoned c 0 exit.variableRecoveries.enum ++
    ((if c.haveUndefined then ops [.moveImmPtr ValueUndefined regT0] else []) ++
      dumpConstants layout exit exit.recoveries.enum) ++
    epilogueSteps layout exit baseline

/-! ### Loops with nothing to do -/

section Empty

variable (layout : FrameLayout) (exit : OSRExit) (c : OSRClassification)

theorem reboxInt32s_eq_nil (alreadyBoxed : Option GPRReg) {rs : List ValueRecovery}
    (h : ∀ g, .unboxedInt32InGPR g ∉ rs) : reboxInt32s alreadyBoxed rs = [] := by
  induction rs with
  | nil => rfl
  | cons r rs ih =>
    cases r with
    | unboxedInt32InGPR g => exact absurd (.head _) (h g)
    | _ => exact ih fun g hg => h g (.tail _ hg)

theorem boxFPRs_eq_nil {rs : List ValueRecovery} (h : rs.any ValueRecovery.isInFPR = false) : boxFPRs rs = [] := by
  induction rs with
  | nil => rfl
  | cons r rs ih =>
    cases r with
    | inFPR f => nomatch h
    | _ => exact ih h

/-- With no FPR, step 7 emits nothing and leaves the scratch index where it was. -/
theorem dumpFPRs_of_any_eq_false {l : List (Nat × ValueRecovery)} (h : (l.map Prod.snd).any ValueRecovery.isInFPR = false)
    (s : Nat) : dumpFPRs layout exit c s l = ([], s) := by
  induction l generalizing s with
  | nil => rfl
  | cons p l ih =>
    obtain ⟨index, r⟩ := p
    cases r with
    | inFPR f => nomatch h
    | _ => exact ih h s

theorem drainPoisoned_eq_nil {l : List (Nat × ValueRecovery)} (h : ∀ p ∈ l, c.poisonedVirtualRegisters p.1 = false)
    (s : Nat) : drainPoisoned c s l = [] := by
  induction l generalizing s with
  | nil => rfl
  | cons p l ih =>
    obtain ⟨vr, r⟩ := p
    simp only [drainPoisoned, h _ (.head _), Bool.false_and, Bool.false_eq_true, if_false]
    exact ih (fun p hp => h p (.tail _ hp)) s

theorem dumpConstants_eq_nil {l : List (Nat × ValueRecovery)} (h : ∀ p ∈ l, ∀ v, p.2 ≠ .constant v) :
    dumpConstants layout exit l = [] := by
  induction l with
  | nil => rfl
  | cons p l ih =>
    obtain ⟨index, r⟩ := p
    cases r with
    | constant v => exact absurd rfl (h _ (.head _) v)
    | _ => exact ih fun p hp => h p (.tail _ hp)

end Empty

/-! ### The tests of step 3's flags and counts -/

section Tests

variable (counts : RegisterCounts) (layout : FrameLayout) (exit : OSRExit)

/-- Step 3 sets `haveUndefined` only along with `haveConstants`. -/
theorem classify_haveConstants_of_haveUndefined (h : (classify exit).haveUndefined = true) :
    (classify exit).haveConstants = true := by
  suffices hs : ∀ (rs : List ValueRecovery) (c : OSRClassification), (c.haveUndefined = true → c.haveConstants = true) →
      (rs.foldl (classifyRecovery exit) c).haveUndefined = true → (rs.foldl (classifyRecovery exit) c).haveConstants = true from
    hs _ _ (fun h => nomatch h) h
  intro rs
  induction rs with
  | nil => exact fun _ hc => hc
  | cons r rs ih =>
    refine fun c hc => ih _ ?_
    cases r with
    | constant v => exact fun _ => rfl
    | displacedInRegisterFile vr =>
      simp only [classifyRecovery]
      split_ifs <;> exact hc
    | _ => exact hc

theorem ite_reboxInt32s (alreadyBoxed : Option GPRReg) :
    (if (classify exit).haveUnboxedInt32s then reboxInt32s alreadyBoxed exit.recoveries else []) =
      reboxInt32s alreadyBoxed exit.recoveries := by
  split_ifs with hu
  · rfl
  · exact (reboxInt32s_eq_nil alreadyBoxed fun g hg => hu (classify_haveUnboxedInt32s hg)).symm

theorem dumpFPRs_of_haveFPRs_eq_false (h : (classify exit).haveFPRs = false) (s : Nat) :
    dumpFPRs layout exit (classify exit) s exit.recoveries.enum = ([], s) :=
  dumpFPRs_of_any_eq_false layout exit _ (by rw [List.enum_map_snd, ← (classifiedAs_classify exit).haveFPRs_eq, h]) s

theorem ite_fprs (s : Nat) :
    (if (classify exit).haveFPRs then
        boxFPRs exit.recoveries ++ (dumpFPRs layout exit (classify exit) s exit.recoveries.enum).1 else []) =
      boxFPRs exit.recoveries ++ (dumpFPRs layout exit (classify exit) s exit.recoveries.enum).1 ∧
    (if (classify exit).haveFPRs then (dumpFPRs layout exit (classify exit) s exit.recoveries.enum).2 else s) =
      (dumpFPRs layout exit (classify exit) s exit.recoveries.enum).2 := by
  cases hf : (classify exit).haveFPRs
  · rw [dumpFPRs_of_haveFPRs_eq_false layout exit hf,
      boxFPRs_eq_nil (by rw [← (classifiedAs_classify exit).haveFPRs_eq, hf])]
    exact ⟨rfl, rfl⟩
  · exact ⟨rfl, rfl⟩

theorem reshuffleDisplaced_eq_ite (s : Nat) :
    reshuffleDisplaced counts layout exit (classify exit) s =
      if (classify exit).numberOfDisplacedVirtualRegisters ≤ counts.gprs then
        loadDisplaced 0 exit.recoveries ++ storeDisplaced layout exit 0 exit.recoveries.enum
      else
        saveDisplaced s exit.recoveries ++
          restoreDisplaced layout exit (classify exit).numberOfPoisonedVirtualRegisters exit.recoveries.enum := by
  unfold reshuffleDisplaced
  split_ifs with h0 hle
  · have hs : (sourcesOf exit.recoveries).length = 0 := (classifiedAs_classify exit).displaced_count ▸ h0
    have hload := List.eq_nil_iff_forall_not_mem.2 fun i hi => by
      obtain ⟨j, hj, -⟩ := loadDisplaced_shape 0 exit.recoveries i hi
      omega
    have hstore := List.eq_nil_iff_forall_not_mem.2 fun i hi => by
      obtain ⟨j, hj, -⟩ := storeDisplaced_shape layout exit 0 exit.recoveries.enum i hi
      rw [List.enum_map_snd] at hj
      omega
    rw [hload, hstore]
    rfl
  · exact absurd (h0 ▸ Nat.zero_le _) hle
  · rfl
  · rfl

theorem ite_drainPoisoned :
    (if (classify exit).numberOfPoisonedVirtualRegisters = 0 then [] else
        drainPoisoned (classify exit) 0 exit.variableRecoveries.enum) =
      drainPoisoned (classify exit) 0 exit.variableRecoveries.enum := by
  split_ifs with h0
  · rw [(classifiedAs_classify exit).poisoned_count, List.countP_eq_zero] at h0
    refine (drainPoisoned_eq_nil _ (fun p hp => ?_) 0).symm
    simpa using h0 p.1 (List.mem_range.2 (List.fst_lt_of_mem_enum hp))
  · rfl

theorem ite_constants :
    (if (classify exit).haveConstants then
        (if (classify exit).haveUndefined then ops [.moveImmPtr ValueUndefined regT0] else []) ++
          dumpConstants layout exit exit.recoveries.enum else []) =
      (if (classify exit).haveUndefined then ops [.moveImmPtr ValueUndefined regT0] else []) ++
        dumpConstants layout exit exit.recoveries.enum := by
  cases hk : (classify exit).haveConstants
  · have hu : (classify exit).haveUndefined = false :=
      Bool.eq_false_iff.2 fun hu => absurd (classify_haveConstants_of_haveUndefined exit hu) (by simp [hk])
    rw [dumpConstants_eq_nil layout exit fun p hp v hv =>
      absurd (classify_haveConstants (hv ▸ List.snd_mem_of_mem_enum hp)) (by simp [hk])]
    simp [hu]
  · rfl

end Tests

/-- For every exit, recovery and register counts, each test of step 3's flags and counts in `exitSpeculativeWithOSR` only skips
a loop that would emit nothing: the code is exactly the code with every loop of steps 4 to 10 run over all the recoveries. -/
theorem exitSpeculativeWithOSR_eq_withoutFastPaths (counts : RegisterCounts) (layout : FrameLayout) (exit : OSRExit)
    (baseline : Baseline) (recovery : Option SpeculationRecovery) :
    exitSpeculativeWithOSR counts layout exit baseline recovery =
      exitSpeculativeWithOSRWithoutFastPaths counts layout exit baseline recovery := by
  have hN : (dumpFPRs layout exit (classify exit) (dumpGPRs layout exit (classify exit) 0 exit.recoveries.enum).2
      exit.recoveries.enum).2 = (classify exit).numberOfPoisonedVirtualRegisters :=
    (ite_fprs layout exit _).2.symm.trans (dumps_scratch layout exit).2
  rw [exitSpeculativeWithOSR_eq_steps]
  simp only [exitSpeculativeWithOSRWithoutFastPaths, exitStepsBeforeReshuffle, drainStep, constantsStep, ite_reboxInt32s,
    (ite_fprs layout exit _).1, reshuffleDisplaced_eq_ite, ite_drainPoisoned, ite_constants, hN]

end JavaScriptCore
