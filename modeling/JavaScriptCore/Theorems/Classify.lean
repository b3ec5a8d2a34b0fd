import JavaScriptCore.Theorems.Displaced

/-!
# The OSR exit: step 3's classification and the scratch buffer

Step 3 counts the displaced values and poisons every variable held in a register whose home slot is the source of one; the
scratch buffer is sized from the two counts. Everything after relies on the counts matching what the later loops do:
steps 5 and 7 park exactly one value per poisoned variable, step 9 drains exactly as many, the buffer-staged step 8 stages
exactly the displaced values after them, and the register-staged one uses no more GPRs than there are
(`exitSpeculativeWithOSR_scratch_bounds`). With non-negative sources, as step 3 asserts, poisoning is exactly what keeps the
displaced sources intact until step 8 reads them (`displaced_sources_survive_dumps`).
-/

namespace JavaScriptCore

/-! ### The memory an instruction touches -/

/-- The memory word an operation reads or writes. -/
def Op.address : Op → Option Address
  | .loadPtr a _ | .load32 a _ | .storePtr _ a | .storeImmPtr _ a | .store32 _ a => some a
  | _ => none

/-- The memory word an operation writes. -/
def Op.storeAddress : Op → Option Address
  | .storePtr _ a | .storeImmPtr _ a | .store32 _ a => some a
  | _ => none

/-- The memory words an instruction reads or writes, on either arm. -/
def Instr.addresses : Instr → List Address
  | .op o => o.address.toList
  | .branchConvertDoubleToInt32 _ _ _ isInt notInt => (isInt ++ notInt).filterMap Op.address
  | .branchPtrAboveOrEqual _ _ taken notTaken => (taken ++ notTaken).filterMap Op.address

/-- The memory words an instruction writes, on either arm. -/
def Instr.storeAddresses : Instr → List Address
  | .op o => o.storeAddress.toList
  | .branchConvertDoubleToInt32 _ _ _ isInt notInt => (isInt ++ notInt).filterMap Op.storeAddress
  | .branchPtrAboveOrEqual _ _ taken notTaken => (taken ++ notTaken).filterMap Op.storeAddress

/-- An operation that does not write `a` keeps it. -/
theorem Op.exec_memory_of_ne {o : Op} {a : Address} (h : o.storeAddress ≠ some a) (m : Machine) :
    (o.exec m).memory a = m.memory a := by
  cases o <;> simp only [Op.storeAddress, ne_eq, Option.some.injEq] at h <;> simp [Op.exec] <;>
    exact fun he => absurd he.symm h

theorem Op.run_memory_of_not_mem {os : List Op} {a : Address} (h : ∀ o ∈ os, o.storeAddress ≠ some a) (m : Machine) :
    (Op.run m os).memory a = m.memory a := by
  induction os generalizing m with
  | nil => rfl
  | cons o os ih =>
    rw [Op.run_cons, ih (fun o' ho' => h o' (.tail _ ho')), Op.exec_memory_of_ne (h o (.head _))]

/-- Code none of whose instructions writes `a` keeps it. -/
theorem exec_memory_of_not_mem {code : List Instr} {a : Address} (h : ∀ i ∈ code, a ∉ i.storeAddresses) (m : Machine) :
    (exec m code).memory a = m.memory a := by
  induction code generalizing m with
  | nil => rfl
  | cons i code ih =>
    rw [exec_cons, ih (fun i' hi' => h i' (.tail _ hi'))]
    have hi := h i (.head _)
    cases i with
    | op o => exact Op.exec_memory_of_ne (by simpa [Instr.storeAddresses] using hi) m
    | branchConvertDoubleToInt32 src dest fpTemp isInt notInt =>
      have hs : ∀ o ∈ isInt ++ notInt, o.storeAddress ≠ some a := fun o ho he =>
        hi (List.mem_filterMap.2 ⟨o, ho, he⟩)
      simp only [Instr.exec]
      split
      · rw [Op.run_memory_of_not_mem fun o ho => hs o (List.mem_append_right _ ho)]; rfl
      · split
        · rw [Op.run_memory_of_not_mem fun o ho => hs o (List.mem_append_left _ ho)]; rfl
        · rw [Op.run_memory_of_not_mem fun o ho => hs o (List.mem_append_right _ ho)]; rfl
    | branchPtrAboveOrEqual l r taken notTaken =>
      have hs : ∀ o ∈ taken ++ notTaken, o.storeAddress ≠ some a := fun o ho he =>
        hi (List.mem_filterMap.2 ⟨o, ho, he⟩)
      simp only [Instr.exec]
      split
      · exact Op.run_memory_of_not_mem (fun o ho => hs o (List.mem_append_left _ ho)) m
      · exact Op.run_memory_of_not_mem (fun o ho => hs o (List.mem_append_right _ ho)) m

/-! ### Step 3 -/

/-- Whether the recovery is in a GPR (`InGPR`, `UnboxedInt32InGPR`): what step 5 dumps. -/
def ValueRecovery.isInGPR : ValueRecovery → Bool
  | .inGPR _ | .unboxedInt32InGPR _ => true
  | _ => false

/-- Whether the recovery is `InFPR`: what step 7 dumps. -/
def ValueRecovery.isInFPR : ValueRecovery → Bool
  | .inFPR _ => true
  | _ => false

theorem ValueRecovery.isInRegister_eq_or (r : ValueRecovery) : r.isInRegister = (r.isInGPR || r.isInFPR) := by
  cases r <;> rfl

/-- Only a variable that exists is read as held in a register. -/
theorem lt_length_of_isInRegister {l : List ValueRecovery} {v : Nat} (h : (l.getD v .dontKnow).isInRegister) :
    v < l.length := by
  by_contra hv
  simp [List.getElem?_eq_none (not_lt.1 hv), ValueRecovery.isInRegister] at h

theorem sourcesOf_append (l₁ l₂ : List ValueRecovery) : sourcesOf (l₁ ++ l₂) = sourcesOf l₁ ++ sourcesOf l₂ := by
  induction l₁ with
  | nil => rfl
  | cons r l₁ ih => cases r <;> simp [sourcesOf, ih]

/-- Setting a fresh flag below `n` adds one to the count of flags below `n`. -/
theorem countP_range_update {f : Nat → Bool} {a n : Nat} (ha : a < n) (hf : f a = false) :
    (List.range n).countP (Function.update f a true) = (List.range n).countP f + 1 := by
  induction n with
  | zero => omega
  | succ n ih =>
    rw [List.range_succ, List.countP_append, List.countP_append]
    rcases Nat.lt_succ_iff_lt_or_eq.1 ha with ha | rfl
    · rw [ih ha, List.countP_singleton, List.countP_singleton, Function.update_noteq (by omega)]
      omega
    · have hbelow : (List.range a).countP (Function.update f a true) = (List.range a).countP f :=
        List.countP_congr fun x hx => by rw [Function.update_noteq (List.mem_range.1 hx).ne]
      simp [hbelow, hf]

section Classification

variable {exit : OSRExit}

/-- What step 3 has found after the recoveries `pre`: a variable is poisoned iff it is held in a register and its index is
the source of a displaced recovery of `pre` (read through `toNat`, as the model reads a source); the poisoned variables and the
displaced recoveries are counted; `haveFPRs` says whether `pre` has an `InFPR` recovery. -/
structure ClassifiedAs (exit : OSRExit) (pre : List ValueRecovery) (c : OSRClassification) : Prop where
  poisoned_iff : ∀ v, c.poisonedVirtualRegisters v = true ↔ (exit.variableRecoveries.getD v .dontKnow).isInRegister ∧
    ∃ vr ∈ sourcesOf pre, vr < exit.variableRecoveries.length ∧ vr.toNat = v
  poisoned_count :
    c.numberOfPoisonedVirtualRegisters = (List.range exit.variableRecoveries.length).countP c.poisonedVirtualRegisters
  displaced_count : c.numberOfDisplacedVirtualRegisters = (sourcesOf pre).length
  haveFPRs_eq : c.haveFPRs = pre.any ValueRecovery.isInFPR

variable {pre : List ValueRecovery} {c : OSRClassification}

/-- A displaced recovery: counted, and its source's variable poisoned unless it is not register-held or already poisoned. -/
theorem ClassifiedAs.displaced (h : ClassifiedAs exit pre c) (vr : Int) :
    ClassifiedAs exit (pre ++ [.displacedInRegisterFile vr]) (classifyRecovery exit c (.displacedInRegisterFile vr)) := by
  have hs : sourcesOf (pre ++ [.displacedInRegisterFile vr]) = sourcesOf pre ++ [vr] := by
    simp [sourcesOf_append, sourcesOf]
  have hF : c.haveFPRs = (pre ++ [ValueRecovery.displacedInRegisterFile vr]).any ValueRecovery.isInFPR := by
    simp [h.haveFPRs_eq, ValueRecovery.isInFPR]
  have hD : c.numberOfDisplacedVirtualRegisters + 1 = (sourcesOf (pre ++ [.displacedInRegisterFile vr])).length := by
    rw [hs, List.length_append, h.displaced_count]; rfl
  simp only [classifyRecovery]
  split_ifs with hc
  · obtain ⟨hlt, hreg, hnot⟩ := hc
    refine ⟨fun v => ?_, ?_, hD, hF⟩ <;> dsimp only
    · rw [hs]
      by_cases hv : v = vr.toNat
      · subst hv
        simp only [Function.update_same, true_iff]
        exact ⟨hreg, vr, List.mem_append_right _ (List.mem_singleton_self _), hlt, rfl⟩
      · rw [Function.update_noteq hv, h.poisoned_iff]
        simp only [List.mem_append, List.mem_singleton]
        constructor
        · rintro ⟨hr, vr', hm, hl, he⟩
          exact ⟨hr, vr', .inl hm, hl, he⟩
        · rintro ⟨hr, vr', hm | rfl, hl, he⟩
          · exact ⟨hr, vr', hm, hl, he⟩
          · exact absurd he.symm hv
    · rw [h.poisoned_count]
      exact (countP_range_update (lt_length_of_isInRegister hreg) (by simpa using hnot)).symm
  · refine ⟨fun v => ?_, h.poisoned_count, hD, hF⟩
    rw [hs]
    constructor
    · intro hv
      obtain ⟨hr, vr', hm, hl, he⟩ := (h.poisoned_iff v).1 hv
      exact ⟨hr, vr', List.mem_append_left _ hm, hl, he⟩
    · rintro ⟨hr, vr', hm, hl, rfl⟩
      rcases List.mem_append.1 hm with hm | hm
      · exact (h.poisoned_iff _).2 ⟨hr, vr', hm, hl, rfl⟩
      · rw [List.mem_singleton.1 hm] at hr hl ⊢
        by_contra hn
        exact hc ⟨hl, hr, by simpa using hn⟩

/-- One step of step 3 keeps the classification up to date. -/
theorem ClassifiedAs.step (h : ClassifiedAs exit pre c) (r : ValueRecovery) :
    ClassifiedAs exit (pre ++ [r]) (classifyRecovery exit c r) := by
  cases r with
  | displacedInRegisterFile vr => exact h.displaced vr
  | _ =>
    refine ⟨fun v => ?_, h.poisoned_count, ?_, ?_⟩ <;>
      simp [classifyRecovery, sourcesOf_append, sourcesOf, h.poisoned_iff, h.displaced_count, h.haveFPRs_eq,
        ValueRecovery.isInFPR]

theorem ClassifiedAs.foldl (h : ClassifiedAs exit pre c) (rs : List ValueRecovery) :
    ClassifiedAs exit (pre ++ rs) (rs.foldl (classifyRecovery exit) c) := by
  induction rs generalizing pre c with
  | nil => simpa using h
  | cons r rs ih => simpa using ih (h.step r)

end Classification

/-- Step 3 classifies every recovery of the exit. -/
theorem classifiedAs_classify (exit : OSRExit) : ClassifiedAs exit exit.recoveries (classify exit) := by
  have h0 : ClassifiedAs exit [] ⟨fun _ => false, 0, 0, false, false, false, false⟩ :=
    ⟨fun v => by simp [sourcesOf], by simp, rfl, rfl⟩
  simpa using h0.foldl exit.recoveries

/-! ### The scratch buffer -/

/-- The scratch-buffer index an address names. -/
def Address.scratchIndex : Address → Option Nat
  | .scratchBuffer s => some s
  | _ => none

/-- The scratch-buffer indices code reads or writes, in order (both arms of a branch). -/
def scratchIndices (code : List Instr) : List Nat := code.flatMap fun i => i.addresses.filterMap Address.scratchIndex

@[simp] theorem scratchIndices_nil : scratchIndices [] = [] := rfl

@[simp] theorem scratchIndices_append (code code' : List Instr) :
    scratchIndices (code ++ code') = scratchIndices code ++ scratchIndices code' :=
  List.flatMap_append _ _ _

@[simp] theorem scratchIndices_op_cons (o : Op) (code : List Instr) :
    scratchIndices (.op o :: code) = o.address.toList.filterMap Address.scratchIndex ++ scratchIndices code :=
  List.flatMap_cons _ _ _

/-- Code that touches no memory touches no scratch slot. -/
theorem scratchIndices_eq_nil {code : List Instr} (h : ∀ i ∈ code, i.addresses = []) : scratchIndices code = [] :=
  List.flatMap_eq_nil_iff.2 fun i hi => by rw [h i hi]; rfl

/-- What an instruction writes it touches. -/
theorem Instr.storeAddresses_subset (i : Instr) : ∀ a ∈ i.storeAddresses, a ∈ i.addresses := by
  have hop : ∀ o : Op, ∀ a, o.storeAddress = some a → o.address = some a := by
    intro o a h
    cases o <;> simp only [Op.storeAddress, Op.address, reduceCtorEq] at h ⊢ <;> exact h
  intro a ha
  cases i with
  | op o =>
    simp only [Instr.storeAddresses, Instr.addresses, Option.mem_toList, Option.mem_def] at ha ⊢
    exact hop o a ha
  | _ =>
    obtain ⟨o, ho, he⟩ := List.mem_filterMap.1 ha
    exact List.mem_filterMap.2 ⟨o, ho, hop o a he⟩

section Steps

variable (layout : FrameLayout) (exit : OSRExit) (c : OSRClassification)

/-- Straight-line code whose operations name no memory word touches none. -/
theorem addresses_ops {os : List Op} (h : os.all (·.address.isNone)) : ∀ i ∈ ops os, i.addresses = [] := by
  intro i hi
  obtain ⟨o, ho, rfl⟩ := List.mem_map.1 hi
  simp [Instr.addresses, Option.isNone_iff_eq_none.1 (List.all_eq_true.1 h o ho)]

/-- Step 2 works on registers only. -/
theorem addresses_osrRecoveryPrePass (recovery : Option SpeculationRecovery) :
    ∀ i ∈ (osrRecoveryPrePass recovery).1, i.addresses = [] := by
  rcases recovery with _ | _ | _
  · exact List.forall_mem_nil _
  all_goals exact addresses_ops rfl

/-- Step 4 works on registers only. -/
theorem addresses_reboxInt32s (alreadyBoxed : Option GPRReg) (rs : List ValueRecovery) :
    ∀ i ∈ reboxInt32s alreadyBoxed rs, i.addresses = [] := by
  induction rs with
  | nil => exact List.forall_mem_nil _
  | cons r rs ih =>
    cases r with
    | unboxedInt32InGPR g =>
      refine List.forall_mem_append.2 ⟨?_, ih⟩
      split_ifs
      exacts [addresses_ops rfl, List.forall_mem_nil _]
    | _ => exact ih

/-- Step 6 works on registers only. -/
theorem addresses_boxFPRs (rs : List ValueRecovery) : ∀ i ∈ boxFPRs rs, i.addresses = [] := by
  induction rs with
  | nil => exact List.forall_mem_nil _
  | cons r rs ih =>
    cases r with
    | inFPR f => exact List.forall_mem_append.2 ⟨addresses_ops rfl, ih⟩
    | _ => exact ih

/-- Step 5 parks the poisoned GPR-held recoveries at consecutive scratch indices from `s` and ends past them. -/
theorem dumpGPRs_scratch (s : Nat) (l : List (Nat × ValueRecovery)) :
    scratchIndices (dumpGPRs layout exit c s l).1 =
        List.range' s (l.countP fun p => c.isPoisoned exit p.1 && p.2.isInGPR) ∧
      (dumpGPRs layout exit c s l).2 = s + l.countP fun p => c.isPoisoned exit p.1 && p.2.isInGPR := by
  induction l generalizing s with
  | nil => simp [dumpGPRs]
  | cons p l ih =>
    obtain ⟨index, r⟩ := p
    cases r with
    | inGPR g | unboxedInt32InGPR g =>
      by_cases hp : c.isPoisoned exit index
      · simp [dumpGPRs, hp, ops, Op.address, Address.scratchIndex, ih (s + 1), ValueRecovery.isInGPR, List.range'_succ]
        omega
      · simp [dumpGPRs, hp, ops, Op.address, Address.scratchIndex, ih s, ValueRecovery.isInGPR]
    | _ =>
      rw [List.countP_cons_of_neg]
      exacts [ih s, by simp [ValueRecovery.isInGPR]]

/-- Step 7 parks the poisoned FPR-held recoveries at consecutive scratch indices from `s` and ends past them. -/
theorem dumpFPRs_scratch (s : Nat) (l : List (Nat × ValueRecovery)) :
    scratchIndices (dumpFPRs layout exit c s l).1 =
        List.range' s (l.countP fun p => c.isPoisoned exit p.1 && p.2.isInFPR) ∧
      (dumpFPRs layout exit c s l).2 = s + l.countP fun p => c.isPoisoned exit p.1 && p.2.isInFPR := by
  induction l generalizing s with
  | nil => simp [dumpFPRs]
  | cons p l ih =>
    obtain ⟨index, r⟩ := p
    cases r with
    | inFPR f =>
      by_cases hp : c.isPoisoned exit index
      · simp [dumpFPRs, hp, ops, Op.address, Address.scratchIndex, ih (s + 1), ValueRecovery.isInFPR, List.range'_succ]
        omega
      · simp [dumpFPRs, hp, ops, Op.address, Address.scratchIndex, ih s, ValueRecovery.isInFPR]
    | _ =>
      rw [List.countP_cons_of_neg]
      exacts [ih s, by simp [ValueRecovery.isInFPR]]

/-- Step 9 reads the poisoned register-held variables from consecutive scratch indices from `s`. -/
theorem scratchIndices_drainPoisoned (s : Nat) (l : List (Nat × ValueRecovery)) :
    scratchIndices (drainPoisoned c s l) =
      List.range' s (l.countP fun p => c.poisonedVirtualRegisters p.1 && p.2.isInRegister) := by
  induction l generalizing s with
  | nil => rfl
  | cons p l ih =>
    obtain ⟨vr, r⟩ := p
    by_cases hp : c.poisonedVirtualRegisters vr && r.isInRegister
    · simp [drainPoisoned, hp, ops, Op.address, Address.scratchIndex, regT0, ih (s + 1), List.range'_succ]
    · simp [drainPoisoned, hp, ih s]

/-- The register-staged step 8 loads the `j`-th displaced source into GPR `k + j`. -/
theorem loadDisplaced_shape (k : Nat) (rs : List ValueRecovery) :
    ∀ i ∈ loadDisplaced k rs, ∃ j < k + (sourcesOf rs).length, ∃ vr, i = .op (.loadPtr (.frame vr) (.reg j)) := by
  induction rs generalizing k with
  | nil => simp [loadDisplaced]
  | cons r rs ih =>
    cases r with
    | displacedInRegisterFile vr =>
      simp only [loadDisplaced, ops, List.map_cons, List.map_nil, List.singleton_append, List.mem_cons, sourcesOf,
        List.length_cons, forall_eq_or_imp]
      refine ⟨⟨k, by omega, vr, rfl⟩, fun i hi => ?_⟩
      obtain ⟨j, hj, hi⟩ := ih (k + 1) i hi
      exact ⟨j, by omega, hi⟩
    | _ => exact ih k

/-- The register-staged step 8 stores GPR `k + j` to the `j`-th displaced target. -/
theorem storeDisplaced_shape (k : Nat) (l : List (Nat × ValueRecovery)) :
    ∀ i ∈ storeDisplaced layout exit k l, ∃ j < k + (sourcesOf (l.map Prod.snd)).length, ∃ x,
      i = .op (.storePtr (.reg j) (.frame x)) := by
  induction l generalizing k with
  | nil => simp [storeDisplaced]
  | cons p l ih =>
    obtain ⟨index, r⟩ := p
    cases r with
    | displacedInRegisterFile vr =>
      simp only [storeDisplaced, ops, List.map_cons, List.map_nil, List.singleton_append, List.mem_cons, sourcesOf,
        List.length_cons, forall_eq_or_imp]
      refine ⟨⟨k, by omega, _, rfl⟩, fun i hi => ?_⟩
      obtain ⟨j, hj, hi⟩ := ih (k + 1) i hi
      exact ⟨j, by omega, hi⟩
    | _ => exact ih k

/-- The buffer-staged step 8 moves every word through `regT0`. -/
theorem saveDisplaced_shape (s : Nat) (rs : List ValueRecovery) :
    ∀ i ∈ saveDisplaced s rs, ∃ a, i = .op (.loadPtr a regT0) ∨ i = .op (.storePtr regT0 a) := by
  induction rs generalizing s with
  | nil => simp [saveDisplaced]
  | cons r rs ih =>
    cases r with
    | displacedInRegisterFile vr =>
      simp only [saveDisplaced, ops, List.map_cons, List.map_nil, List.cons_append, List.nil_append, List.mem_cons,
        forall_eq_or_imp]
      exact ⟨⟨_, .inl rfl⟩, ⟨_, .inr rfl⟩, ih (s + 1)⟩
    | _ => exact ih s

theorem restoreDisplaced_shape (s : Nat) (l : List (Nat × ValueRecovery)) :
    ∀ i ∈ restoreDisplaced layout exit s l, ∃ a, i = .op (.loadPtr a regT0) ∨ i = .op (.storePtr regT0 a) := by
  induction l generalizing s with
  | nil => simp [restoreDisplaced]
  | cons p l ih =>
    obtain ⟨index, r⟩ := p
    cases r with
    | displacedInRegisterFile vr =>
      simp only [restoreDisplaced, ops, List.map_cons, List.map_nil, List.cons_append, List.nil_append, List.mem_cons,
        forall_eq_or_imp]
      exact ⟨⟨_, .inl rfl⟩, ⟨_, .inr rfl⟩, ih (s + 1)⟩
    | _ => exact ih s

theorem scratchIndices_loadDisplaced (k : Nat) (rs : List ValueRecovery) : scratchIndices (loadDisplaced k rs) = [] := by
  induction rs generalizing k with
  | nil => rfl
  | cons r rs ih =>
    cases r <;> try exact ih k
    simp [loadDisplaced, ops, Op.address, Address.scratchIndex, ih]

theorem scratchIndices_storeDisplaced (k : Nat) (l : List (Nat × ValueRecovery)) :
    scratchIndices (storeDisplaced layout exit k l) = [] := by
  induction l generalizing k with
  | nil => rfl
  | cons p l ih =>
    rcases p with ⟨_, _ | _ | _ | _ | _ | _ | _⟩ <;> try exact ih k
    simp [storeDisplaced, ops, Op.address, Address.scratchIndex, ih]

/-- The buffer-staged step 8 saves the displaced values at consecutive scratch indices from `s`. -/
theorem scratchIndices_saveDisplaced (s : Nat) (rs : List ValueRecovery) :
    scratchIndices (saveDisplaced s rs) = List.range' s (sourcesOf rs).length := by
  induction rs generalizing s with
  | nil => rfl
  | cons r rs ih =>
    cases r <;> try exact ih s
    simp [saveDisplaced, sourcesOf, ops, Op.address, Address.scratchIndex, regT0, ih, List.range'_succ]

/-- ... and reads them back from consecutive scratch indices from `s`. -/
theorem scratchIndices_restoreDisplaced (s : Nat) (l : List (Nat × ValueRecovery)) :
    scratchIndices (restoreDisplaced layout exit s l) = List.range' s (sourcesOf (l.map Prod.snd)).length := by
  induction l generalizing s with
  | nil => rfl
  | cons p l ih =>
    rcases p with ⟨_, _ | _ | _ | _ | _ | _ | _⟩ <;> try exact ih s
    simp [restoreDisplaced, sourcesOf, ops, Op.address, Address.scratchIndex, regT0, ih, List.range'_succ]

/-- Step 10 writes the frame only. -/
theorem scratchIndices_dumpConstants (l : List (Nat × ValueRecovery)) : scratchIndices (dumpConstants layout exit l) = [] := by
  induction l with
  | nil => rfl
  | cons p l ih =>
    rcases p with ⟨_, _ | _ | _ | _ | _ | v | _⟩ <;> try exact ih
    simp only [dumpConstants, scratchIndices_append, ih, List.append_nil]
    split <;> rfl

end Steps

/-! ### Counting the parked values -/

/-- A register-held recovery is in a GPR or in an FPR, never both: steps 5 and 7 together see every one once. -/
theorem countP_isInGPR_add_isInFPR (f : Nat → Bool) (l : List (Nat × ValueRecovery)) :
    l.countP (fun p => f p.1 && p.2.isInGPR) + l.countP (fun p => f p.1 && p.2.isInFPR) =
      l.countP fun p => f p.1 && p.2.isInRegister := by
  induction l with
  | nil => rfl
  | cons p l ih =>
    have hp : ∀ b : Bool, (if (b && p.2.isInGPR) = true then 1 else 0) + (if (b && p.2.isInFPR) = true then 1 else 0) =
        if (b && p.2.isInRegister) = true then 1 else 0 := by
      intro b
      cases b <;> cases p.2 <;> rfl
    simp only [List.countP_cons, ← ih]
    have := hp (f p.1)
    omega

/-- Only variables are poisoned: the register-held recoveries that steps 5 and 7 park are those of the poisoned variables. -/
theorem countP_isPoisoned_recoveries (exit : OSRExit) (c : OSRClassification) :
    exit.recoveries.enum.countP (fun p => c.isPoisoned exit p.1 && p.2.isInRegister) =
      exit.variableRecoveries.enum.countP fun p => c.poisonedVirtualRegisters p.1 && p.2.isInRegister := by
  have hargs : exit.argumentRecoveries.enum.countP (fun p => c.isPoisoned exit p.1 && p.2.isInRegister) = 0 :=
    List.countP_eq_zero.2 fun p hp => by
      simp [OSRClassification.isPoisoned, OSRExit.isVariable, List.fst_lt_of_mem_enum hp]
  rw [OSRExit.recoveries, List.enum_append, List.countP_append, hargs, List.enumFrom_eq_map_enum, List.countP_map]
  simp [Function.comp_def, OSRClassification.isPoisoned, OSRExit.isVariable, OSRExit.variableForIndex]

/-- The poisoned variables are register-held, so the register-held poisoned variables number
`numberOfPoisonedVirtualRegisters`. -/
theorem ClassifiedAs.countP_poisoned {exit : OSRExit} {pre : List ValueRecovery} {c : OSRClassification}
    (h : ClassifiedAs exit pre c) :
    exit.variableRecoveries.enum.countP (fun p => c.poisonedVirtualRegisters p.1 && p.2.isInRegister) =
      c.numberOfPoisonedVirtualRegisters := by
  rw [h.poisoned_count, ← List.enum_map_fst exit.variableRecoveries, List.countP_map]
  refine List.countP_congr fun p hp => ?_
  have hr : exit.variableRecoveries.getD p.1 .dontKnow = p.2 := by simp [List.mem_enum_iff_getElem?.1 hp]
  simp only [Function.comp, Bool.and_eq_true, and_iff_left_iff_imp]
  exact fun hv => hr ▸ ((h.poisoned_iff _).1 hv).1

section Exit

variable (counts : RegisterCounts) (layout : FrameLayout) (exit : OSRExit)

/-- Steps 5 to 7 park one value per poisoned variable, at scratch indices `0` to `numberOfPoisonedVirtualRegisters - 1`,
and leave the scratch index at their number. -/
theorem dumps_scratch :
    scratchIndices ((dumpGPRs layout exit (classify exit) 0 exit.recoveries.enum).1 ++
        if (classify exit).haveFPRs then boxFPRs exit.recoveries ++
          (dumpFPRs layout exit (classify exit) (dumpGPRs layout exit (classify exit) 0 exit.recoveries.enum).2
            exit.recoveries.enum).1
        else []) = List.range (classify exit).numberOfPoisonedVirtualRegisters ∧
    (if (classify exit).haveFPRs then
        (dumpFPRs layout exit (classify exit) (dumpGPRs layout exit (classify exit) 0 exit.recoveries.enum).2
          exit.recoveries.enum).2
      else (dumpGPRs layout exit (classify exit) 0 exit.recoveries.enum).2) =
      (classify exit).numberOfPoisonedVirtualRegisters := by
  have h := classifiedAs_classify exit
  have hsum := countP_isInGPR_add_isInFPR ((classify exit).isPoisoned exit) exit.recoveries.enum
  rw [countP_isPoisoned_recoveries, h.countP_poisoned] at hsum
  obtain ⟨hG, hG'⟩ := dumpGPRs_scratch layout exit (classify exit) 0 exit.recoveries.enum
  obtain ⟨hF, hF'⟩ := dumpFPRs_scratch layout exit (classify exit) (dumpGPRs layout exit (classify exit) 0
    exit.recoveries.enum).2 exit.recoveries.enum
  rw [List.range_eq_range']
  split_ifs with hfp
  · rw [scratchIndices_append, scratchIndices_append, scratchIndices_eq_nil (addresses_boxFPRs exit.recoveries), hG,
      hF, hF', hG', List.nil_append, List.range'_append_1]
    exact ⟨by rw [← hsum, Nat.add_comm], by omega⟩
  · have hnone : exit.recoveries.enum.countP (fun p => (classify exit).isPoisoned exit p.1 && p.2.isInFPR) = 0 := by
      rw [h.haveFPRs_eq, Bool.not_eq_true, List.any_eq_false] at hfp
      exact List.countP_eq_zero.2 fun p hp => by simp [hfp _ (List.snd_mem_of_mem_enum hp)]
    rw [hnone, Nat.add_zero] at hsum
    rw [scratchIndices_append, hG, hG', ← hsum, scratchIndices_nil, List.append_nil]
    exact ⟨rfl, Nat.zero_add _⟩

/-- Step 8, from scratch index `numberOfPoisonedVirtualRegisters`: the buffer-staged branch saves the displaced values after
the parked ones and reads them back; the register-staged one touches no scratch slot. -/
theorem scratchIndices_reshuffleDisplaced :
    scratchIndices (reshuffleDisplaced counts layout exit (classify exit) (classify exit).numberOfPoisonedVirtualRegisters) =
      if (classify exit).numberOfDisplacedVirtualRegisters ≤ counts.gprs then []
      else List.range' (classify exit).numberOfPoisonedVirtualRegisters (classify exit).numberOfDisplacedVirtualRegisters ++
        List.range' (classify exit).numberOfPoisonedVirtualRegisters (classify exit).numberOfDisplacedVirtualRegisters := by
  unfold reshuffleDisplaced
  split_ifs with h0 hle
  · rfl
  · omega
  · rw [scratchIndices_append, scratchIndices_loadDisplaced, scratchIndices_storeDisplaced]; rfl
  · rw [scratchIndices_append, scratchIndices_saveDisplaced, scratchIndices_restoreDisplaced, List.enum_map_snd,
      (classifiedAs_classify exit).displaced_count]

/-- Step 8 only moves words between memory and GPRs below `GPRInfo::numberOfRegisters`. -/
theorem reshuffleDisplaced_gprs (s : Nat) :
    ∀ i ∈ reshuffleDisplaced counts layout exit (classify exit) s, ∃ k < counts.gprs, ∃ a,
      i = .op (.loadPtr a (.reg k)) ∨ i = .op (.storePtr (.reg k) a) := by
  have hD := (classifiedAs_classify exit).displaced_count
  unfold reshuffleDisplaced
  split_ifs with h0 hle
  · exact fun _ h => absurd h (List.not_mem_nil _)
  · intro i hi
    rcases List.mem_append.1 hi with hi | hi
    · obtain ⟨j, hj, vr, rfl⟩ := loadDisplaced_shape 0 exit.recoveries i hi
      exact ⟨j, by omega, _, .inl rfl⟩
    · obtain ⟨j, hj, x, rfl⟩ := storeDisplaced_shape layout exit 0 exit.recoveries.enum i hi
      rw [List.enum_map_snd] at hj
      exact ⟨j, by omega, _, .inr rfl⟩
  · intro i hi
    have h2 := counts.two_le_gprs
    rcases List.mem_append.1 hi with hi | hi
    · obtain ⟨a, ha⟩ := saveDisplaced_shape _ exit.recoveries i hi
      exact ⟨0, by omega, a, ha⟩
    · obtain ⟨a, ha⟩ := restoreDisplaced_shape layout exit _ exit.recoveries.enum i hi
      exact ⟨0, by omega, a, ha⟩

/-- Step 9 drains one value per poisoned variable, from scratch indices `0` to `numberOfPoisonedVirtualRegisters - 1`. -/
theorem drain_scratch :
    scratchIndices (if (classify exit).numberOfPoisonedVirtualRegisters = 0 then []
      else drainPoisoned (classify exit) 0 exit.variableRecoveries.enum) =
      List.range (classify exit).numberOfPoisonedVirtualRegisters := by
  split_ifs with hP
  · rw [hP]; rfl
  · rw [scratchIndices_drainPoisoned, (classifiedAs_classify exit).countP_poisoned, List.range_eq_range']

/-- The scratch indices the whole exit touches, in order: steps 5 and 7 park at `0 … P - 1`, step 8, buffer-staged, saves at
`P … P + D - 1` and reads them back, step 9 drains `0 … P - 1`; no other step touches the scratch buffer. -/
theorem scratchIndices_exitSpeculativeWithOSR (baseline : Baseline) (recovery : Option SpeculationRecovery) :
    scratchIndices (exitSpeculativeWithOSR counts layout exit baseline recovery) =
      List.range (classify exit).numberOfPoisonedVirtualRegisters ++
        (if (classify exit).numberOfDisplacedVirtualRegisters ≤ counts.gprs then []
          else List.range' (classify exit).numberOfPoisonedVirtualRegisters (classify exit).numberOfDisplacedVirtualRegisters ++
            List.range' (classify exit).numberOfPoisonedVirtualRegisters (classify exit).numberOfDisplacedVirtualRegisters) ++
        List.range (classify exit).numberOfPoisonedVirtualRegisters := by
  obtain ⟨h57, hidx⟩ := dumps_scratch layout exit
  rw [scratchIndices_append] at h57
  unfold exitSpeculativeWithOSR
  split
  rename_i step2 alreadyBoxed hpre
  have h2 : scratchIndices step2 = [] :=
    scratchIndices_eq_nil (by simpa only [hpre] using addresses_osrRecoveryPrePass recovery)
  have h4 : ∀ b : Bool, scratchIndices (if b = true then reboxInt32s alreadyBoxed exit.recoveries else []) = [] := by
    intro b
    split_ifs
    exacts [scratchIndices_eq_nil (addresses_reboxInt32s _ _), rfl]
  simp only [scratchIndices_append, h2, h4, List.nil_append]
  rw [h57, hidx, scratchIndices_reshuffleDisplaced, drain_scratch]
  cases exit.lastSetOperand <;>
    simp [apply_ite scratchIndices, scratchIndices_dumpConstants, ops, Op.address, Address.scratchIndex]

end Exit

/-! ### What steps 5 and 7 write -/

theorem mem_sourcesOf {vr : Int} {l : List ValueRecovery} : vr ∈ sourcesOf l ↔ .displacedInRegisterFile vr ∈ l := by
  induction l with
  | nil => simp [sourcesOf]
  | cons r l ih => cases r <;> simp [sourcesOf, ih]

section Writes

variable (layout : FrameLayout) (exit : OSRExit) (c : OSRClassification) {x : Int}

/-- Step 5 writes only scratch slots and the home slots of the register-held recoveries that are not poisoned. -/
theorem dumpGPRs_frame_ne {l : List (Nat × ValueRecovery)}
    (hx : ∀ index r, (index, r) ∈ l → r.isInRegister → c.isPoisoned exit index = false →
      exit.operandForIndex layout index ≠ x) (s : Nat) :
    ∀ i ∈ (dumpGPRs layout exit c s l).1, Address.frame x ∉ i.storeAddresses := by
  induction l generalizing s with
  | nil => exact List.forall_mem_nil _
  | cons p l ih =>
    have hx' := fun index r h => hx index r (List.mem_cons_of_mem _ h)
    obtain ⟨index, r⟩ := p
    cases r with
    | inGPR g | unboxedInt32InGPR g =>
      by_cases hp : c.isPoisoned exit index
      · simp only [dumpGPRs, hp, if_true]
        exact List.forall_mem_append.2 ⟨List.forall_mem_singleton.2 (by simp [Instr.storeAddresses, Op.storeAddress]),
          ih hx' (s + 1)⟩
      · have hne := hx index _ (List.mem_cons_self _ _) rfl (by simpa using hp)
        simp only [dumpGPRs, hp]
        exact List.forall_mem_append.2 ⟨List.forall_mem_singleton.2 (by simp [Instr.storeAddresses, Op.storeAddress,
          Ne.symm hne]), ih hx' s⟩
    | _ => exact ih hx' s

/-- Step 7 writes only scratch slots and the home slots of the `InFPR` recoveries that are not poisoned. -/
theorem dumpFPRs_keeps_frame {l : List (Nat × ValueRecovery)}
    (hx : ∀ index f, (index, .inFPR f) ∈ l → c.isPoisoned exit index = false → exit.operandForIndex layout index ≠ x)
    (s : Nat) : ∀ i ∈ (dumpFPRs layout exit c s l).1, Address.frame x ∉ i.storeAddresses := by
  induction l generalizing s with
  | nil => exact List.forall_mem_nil _
  | cons p l ih =>
    have hx' := fun index f h => hx index f (List.mem_cons_of_mem _ h)
    obtain ⟨index, r⟩ := p
    cases r with
    | inFPR f =>
      by_cases hp : c.isPoisoned exit index
      · simp only [dumpFPRs, hp, if_true]
        exact List.forall_mem_append.2 ⟨List.forall_mem_singleton.2 (by simp [Instr.storeAddresses, Op.storeAddress]),
          ih hx' (s + 1)⟩
      · have hne := hx index f (List.mem_cons_self _ _) (by simpa using hp)
        simp only [dumpFPRs, hp]
        exact List.forall_mem_append.2 ⟨List.forall_mem_singleton.2 (by simp [Instr.storeAddresses, Op.storeAddress,
          Ne.symm hne]), ih hx' s⟩
    | _ => exact ih hx' s

theorem dumpFPRs_frame_ne {l : List (Nat × ValueRecovery)}
    (hx : ∀ index r, (index, r) ∈ l → r.isInRegister → c.isPoisoned exit index = false →
      exit.operandForIndex layout index ≠ x) (s : Nat) :
    ∀ i ∈ (dumpFPRs layout exit c s l).1, Address.frame x ∉ i.storeAddresses :=
  dumpFPRs_keeps_frame layout exit c (fun index _ h => hx index _ h rfl) s

end Writes

/-- Steps 2 to 7 of `exitSpeculativeWithOSR`, as it emits them: everything that runs before step 8 reads the displaced
sources. -/
def exitStepsBeforeReshuffle (layout : FrameLayout) (exit : OSRExit) (recovery : Option SpeculationRecovery) :
    List Instr :=
  (osrRecoveryPrePass recovery).1 ++
    (if (classify exit).haveUnboxedInt32s then reboxInt32s (osrRecoveryPrePass recovery).2 exit.recoveries else []) ++
    (dumpGPRs layout exit (classify exit) 0 exit.recoveries.enum).1 ++
    if (classify exit).haveFPRs then boxFPRs exit.recoveries ++
      (dumpFPRs layout exit (classify exit) (dumpGPRs layout exit (classify exit) 0 exit.recoveries.enum).2
        exit.recoveries.enum).1
    else []

/-- The exit's code is steps 2 to 7, then step 8 from scratch index `numberOfPoisonedVirtualRegisters`, then the rest. -/
theorem exitSpeculativeWithOSR_eq_append (counts : RegisterCounts) (layout : FrameLayout) (exit : OSRExit)
    (baseline : Baseline) (recovery : Option SpeculationRecovery) :
    ∃ post, exitSpeculativeWithOSR counts layout exit baseline recovery =
      exitStepsBeforeReshuffle layout exit recovery ++
        reshuffleDisplaced counts layout exit (classify exit) (classify exit).numberOfPoisonedVirtualRegisters ++ post := by
  unfold exitSpeculativeWithOSR exitStepsBeforeReshuffle
  split
  rename_i step2 alreadyBoxed hpre
  simp only [hpre, (dumps_scratch layout exit).2, List.append_assoc]
  exact ⟨_, rfl⟩

/-- Steps 2 to 7 store to no frame slot but the home slots of the register-held recoveries that are not poisoned. -/
theorem exitStepsBeforeReshuffle_keeps_frame {exit : OSRExit} (layout : FrameLayout)
    (recovery : Option SpeculationRecovery) {x : Int}
    (hx : ∀ index r, (index, r) ∈ exit.recoveries.enum → r.isInRegister → (classify exit).isPoisoned exit index = false →
      exit.operandForIndex layout index ≠ x) :
    ∀ i ∈ exitStepsBeforeReshuffle layout exit recovery, Address.frame x ∉ i.storeAddresses := by
  have hnil : ∀ {i : Instr}, i.addresses = [] → Address.frame x ∉ i.storeAddresses := fun {i} h ha => by
    simpa [h] using i.storeAddresses_subset _ ha
  intro i hi
  simp only [exitStepsBeforeReshuffle, List.mem_append] at hi
  rcases hi with ((hi | hi) | hi) | hi
  · exact hnil (addresses_osrRecoveryPrePass recovery i hi)
  · split_ifs at hi
    · exact hnil (addresses_reboxInt32s _ _ i hi)
    · exact absurd hi (List.not_mem_nil _)
  · exact dumpGPRs_frame_ne layout exit _ hx 0 i hi
  · split_ifs at hi
    · rcases List.mem_append.1 hi with hi | hi
      · exact hnil (addresses_boxFPRs _ i hi)
      · exact dumpFPRs_frame_ne layout exit _ hx _ i hi
    · exact absurd hi (List.not_mem_nil _)

section Survive

variable {exit : OSRExit} (hnn : ∀ vr, ValueRecovery.displacedInRegisterFile vr ∈ exit.recoveries → 0 ≤ vr)
include hnn

/-- With non-negative sources, a variable is poisoned iff it is register-held and its index is a displaced source. -/
theorem poisoned_iff_of_nonneg (v : Nat) :
    (classify exit).poisonedVirtualRegisters v = true ↔
      (exit.variableRecoveries.getD v .dontKnow).isInRegister ∧ .displacedInRegisterFile (v : Int) ∈ exit.recoveries := by
  rw [(classifiedAs_classify exit).poisoned_iff]
  constructor
  · rintro ⟨hr, vr, hm, -, rfl⟩
    rw [mem_sourcesOf] at hm
    exact ⟨hr, (Int.toNat_of_nonneg (hnn vr hm)).symm ▸ hm⟩
  · rintro ⟨hr, hm⟩
    exact ⟨hr, v, mem_sourcesOf.2 hm, by exact_mod_cast lt_length_of_isInRegister hr, Int.toNat_ofNat v⟩

/-- With non-negative sources, steps 5 and 7 never store to a displaced source: an argument's home slot is below zero, and
a register-held variable whose home slot is a source is poisoned, so parked in the scratch buffer. -/
theorem operandForIndex_ne_source (layout : FrameLayout) {vr : Int}
    (hvr : .displacedInRegisterFile vr ∈ exit.recoveries) (index : Nat) (r : ValueRecovery)
    (hi : (index, r) ∈ exit.recoveries.enum) (hr : r.isInRegister) (hp : (classify exit).isPoisoned exit index = false) :
    exit.operandForIndex layout index ≠ vr := by
  intro he
  unfold OSRExit.operandForIndex at he
  split_ifs at he with ha
  · have := layout.argument_lt_zero index
    have := hnn vr hvr
    omega
  · subst he
    have hget : exit.variableRecoveries.getD (index - exit.argumentRecoveries.length) .dontKnow = r := by
      have h := List.mem_enum_iff_getElem?.1 hi
      rw [OSRExit.recoveries, List.getElem?_append_right (not_lt.1 ha)] at h
      simp [h]
    have hpois := (poisoned_iff_of_nonneg hnn _).2 ⟨hget ▸ hr, hvr⟩
    simp [OSRClassification.isPoisoned, OSRExit.isVariable, OSRExit.variableForIndex, not_lt.1 ha, hpois] at hp

/-- Steps 2 to 7 never store to a displaced source. -/
theorem exitStepsBeforeReshuffle_frame_ne (layout : FrameLayout) (recovery : Option SpeculationRecovery) {vr : Int}
    (hvr : .displacedInRegisterFile vr ∈ exit.recoveries) :
    ∀ i ∈ exitStepsBeforeReshuffle layout exit recovery, Address.frame vr ∉ i.storeAddresses :=
  exitStepsBeforeReshuffle_keeps_frame layout recovery (operandForIndex_ne_source hnn layout hvr)

/-- With non-negative sources, step 8 finds every displaced source as it was at the exit, so it leaves every displaced
target holding what its source held at the exit. -/
theorem reshuffleDisplaced_after_steps (counts : RegisterCounts) (layout : FrameLayout)
    (recovery : Option SpeculationRecovery) (m : Machine) {i : Nat} {vr : Int}
    (hi : (i, .displacedInRegisterFile vr) ∈ exit.recoveries.enum) :
    (exec m (exitStepsBeforeReshuffle layout exit recovery ++
      reshuffleDisplaced counts layout exit (classify exit) (classify exit).numberOfPoisonedVirtualRegisters)).memory
        (.frame (exit.operandForIndex layout i)) = m.memory (.frame vr) := by
  have hvr := List.snd_mem_of_mem_enum hi
  have hkeep := exec_memory_of_not_mem (exitStepsBeforeReshuffle_frame_ne hnn layout recovery hvr) m
  rw [exec_append, ← hkeep]
  unfold reshuffleDisplaced
  split_ifs with h0 hle
  · rw [(classifiedAs_classify exit).displaced_count, List.length_eq_zero] at h0
    exact absurd (mem_sourcesOf.2 hvr) (h0 ▸ List.not_mem_nil vr)
  · exact (registerStaged_assigns _).1 i vr hi
  · exact (bufferStaged_assigns _ _).1.1 i vr hi

end Survive

/-- For every exit whose displaced sources are non-negative, as step 3 asserts:
1. step 3 poisons exactly the register-held variables whose index is the source of a displaced recovery;
2. the code is steps 2 to 7, then step 8, then the rest;
3. no instruction of steps 2 to 7 stores to the source slot of a displaced recovery (steps 5 and 7 park the poisoned values
   in the scratch buffer and store the others to home slots that are not sources);
4. so every displaced source still holds its content at the exit when step 8 reads it,
5. and after step 8 every displaced target holds what its source held at the exit. -/
theorem displaced_sources_survive_dumps (counts : RegisterCounts) (layout : FrameLayout) (exit : OSRExit)
    (baseline : Baseline) (recovery : Option SpeculationRecovery)
    (hnn : ∀ vr, ValueRecovery.displacedInRegisterFile vr ∈ exit.recoveries → 0 ≤ vr) :
    (∀ v, (classify exit).poisonedVirtualRegisters v = true ↔
      (exit.variableRecoveries.getD v .dontKnow).isInRegister ∧ .displacedInRegisterFile (v : Int) ∈ exit.recoveries) ∧
    (∃ post, exitSpeculativeWithOSR counts layout exit baseline recovery =
      exitStepsBeforeReshuffle layout exit recovery ++
        reshuffleDisplaced counts layout exit (classify exit) (classify exit).numberOfPoisonedVirtualRegisters ++ post) ∧
    (∀ vr, .displacedInRegisterFile vr ∈ exit.recoveries →
      ∀ i ∈ exitStepsBeforeReshuffle layout exit recovery, Address.frame vr ∉ i.storeAddresses) ∧
    (∀ m vr, .displacedInRegisterFile vr ∈ exit.recoveries →
      (exec m (exitStepsBeforeReshuffle layout exit recovery)).memory (.frame vr) = m.memory (.frame vr)) ∧
    ∀ m i vr, (i, .displacedInRegisterFile vr) ∈ exit.recoveries.enum →
      (exec m (exitStepsBeforeReshuffle layout exit recovery ++
        reshuffleDisplaced counts layout exit (classify exit) (classify exit).numberOfPoisonedVirtualRegisters)).memory
          (.frame (exit.operandForIndex layout i)) = m.memory (.frame vr) :=
  ⟨poisoned_iff_of_nonneg hnn, exitSpeculativeWithOSR_eq_append counts layout exit baseline recovery,
    fun _ hvr => exitStepsBeforeReshuffle_frame_ne hnn layout recovery hvr,
    fun m _ hvr => exec_memory_of_not_mem (exitStepsBeforeReshuffle_frame_ne hnn layout recovery hvr) m,
    fun m _ _ hi => reshuffleDisplaced_after_steps hnn counts layout recovery m hi⟩

/-- Variable 0 is in a GPR and variable 1 is displaced from slot 0: variable 0 is poisoned, so step 5 parks it in the
scratch buffer and slot 0 reaches step 8 intact. -/
theorem displaced_sources_survive_overlap :
    (∀ vr, ValueRecovery.displacedInRegisterFile vr ∈
      (⟨[], [.inGPR (.reg 0), .displacedInRegisterFile 0], none, 0⟩ : OSRExit).recoveries → 0 ≤ vr) ∧
    (∀ v, (classify ⟨[], [.inGPR (.reg 0), .displacedInRegisterFile 0], none, 0⟩).poisonedVirtualRegisters v = true ↔
      ((⟨[], [.inGPR (.reg 0), .displacedInRegisterFile 0], none, 0⟩ : OSRExit).variableRecoveries.getD v
        .dontKnow).isInRegister ∧
      .displacedInRegisterFile (v : Int) ∈
        (⟨[], [.inGPR (.reg 0), .displacedInRegisterFile 0], none, 0⟩ : OSRExit).recoveries) ∧
    (∃ post, exitSpeculativeWithOSR ⟨2, 1, by decide, by decide⟩ .standard
        ⟨[], [.inGPR (.reg 0), .displacedInRegisterFile 0], none, 0⟩ ⟨0x1000, 0, 0x2000, [(0, 16)]⟩ none =
      exitStepsBeforeReshuffle .standard ⟨[], [.inGPR (.reg 0), .displacedInRegisterFile 0], none, 0⟩ none ++
        reshuffleDisplaced ⟨2, 1, by decide, by decide⟩ .standard
          ⟨[], [.inGPR (.reg 0), .displacedInRegisterFile 0], none, 0⟩
          (classify ⟨[], [.inGPR (.reg 0), .displacedInRegisterFile 0], none, 0⟩)
          (classify ⟨[], [.inGPR (.reg 0), .displacedInRegisterFile 0], none, 0⟩).numberOfPoisonedVirtualRegisters ++
        post) ∧
    (∀ vr, .displacedInRegisterFile vr ∈
        (⟨[], [.inGPR (.reg 0), .displacedInRegisterFile 0], none, 0⟩ : OSRExit).recoveries →
      ∀ i ∈ exitStepsBeforeReshuffle .standard ⟨[], [.inGPR (.reg 0), .displacedInRegisterFile 0], none, 0⟩ none,
        Address.frame vr ∉ i.storeAddresses) ∧
    (∀ m vr, .displacedInRegisterFile vr ∈
        (⟨[], [.inGPR (.reg 0), .displacedInRegisterFile 0], none, 0⟩ : OSRExit).recoveries →
      (exec m (exitStepsBeforeReshuffle .standard ⟨[], [.inGPR (.reg 0), .displacedInRegisterFile 0], none, 0⟩
        none)).memory (.frame vr) = m.memory (.frame vr)) ∧
    ∀ m i vr, (i, .displacedInRegisterFile vr) ∈
        (⟨[], [.inGPR (.reg 0), .displacedInRegisterFile 0], none, 0⟩ : OSRExit).recoveries.enum →
      (exec m (exitStepsBeforeReshuffle .standard ⟨[], [.inGPR (.reg 0), .displacedInRegisterFile 0], none, 0⟩ none ++
        reshuffleDisplaced ⟨2, 1, by decide, by decide⟩ .standard
          ⟨[], [.inGPR (.reg 0), .displacedInRegisterFile 0], none, 0⟩
          (classify ⟨[], [.inGPR (.reg 0), .displacedInRegisterFile 0], none, 0⟩)
          (classify ⟨[], [.inGPR (.reg 0), .displacedInRegisterFile 0], none, 0⟩).numberOfPoisonedVirtualRegisters)).memory
        (.frame ((⟨[], [.inGPR (.reg 0), .displacedInRegisterFile 0], none, 0⟩ : OSRExit).operandForIndex .standard i)) =
        m.memory (.frame vr) :=
  have hnn : ∀ vr, ValueRecovery.displacedInRegisterFile vr ∈
      (⟨[], [.inGPR (.reg 0), .displacedInRegisterFile 0], none, 0⟩ : OSRExit).recoveries → 0 ≤ vr := fun vr h => by
    simp [OSRExit.recoveries] at h
    omega
  ⟨hnn, displaced_sources_survive_dumps ⟨2, 1, by decide, by decide⟩ .standard _ ⟨0x1000, 0, 0x2000, [(0, 16)]⟩ none hnn⟩

/-- For every exit, with `P` poisoned variables and `D` displaced values (`numberOfPoisonedVirtualRegisters`,
`numberOfDisplacedVirtualRegisters`):
1. every scratch index the exit's code reads or writes is below the size of the scratch buffer it allocates;
2. steps 5 and 7 together park exactly `P` values, at indices `0` to `P - 1`, and leave the scratch index at `P` (the
   assertion after step 7);
3. step 8, from there, touches no scratch slot when `D` is at most the number of GPRs, and else saves at `P` to `P + D - 1`
   and reads the same slots back, its index ending at `P + D` (the assertion in step 8);
4. step 9 drains exactly `P` values, from indices `0` to `P - 1` (the assertion after step 9);
5. step 8 moves words only through GPRs below `GPRInfo::numberOfRegisters`. -/
theorem exitSpeculativeWithOSR_scratch_bounds (counts : RegisterCounts) (layout : FrameLayout) (exit : OSRExit)
    (baseline : Baseline) (recovery : Option SpeculationRecovery) :
    (∀ s ∈ scratchIndices (exitSpeculativeWithOSR counts layout exit baseline recovery),
      s < (classify exit).scratchBufferSize counts) ∧
    (scratchIndices ((dumpGPRs layout exit (classify exit) 0 exit.recoveries.enum).1 ++
        if (classify exit).haveFPRs then boxFPRs exit.recoveries ++
          (dumpFPRs layout exit (classify exit) (dumpGPRs layout exit (classify exit) 0 exit.recoveries.enum).2
            exit.recoveries.enum).1
        else []) = List.range (classify exit).numberOfPoisonedVirtualRegisters ∧
      (if (classify exit).haveFPRs then
          (dumpFPRs layout exit (classify exit) (dumpGPRs layout exit (classify exit) 0 exit.recoveries.enum).2
            exit.recoveries.enum).2
        else (dumpGPRs layout exit (classify exit) 0 exit.recoveries.enum).2) =
        (classify exit).numberOfPoisonedVirtualRegisters) ∧
    scratchIndices (reshuffleDisplaced counts layout exit (classify exit) (classify exit).numberOfPoisonedVirtualRegisters) =
      (if (classify exit).numberOfDisplacedVirtualRegisters ≤ counts.gprs then []
      else List.range' (classify exit).numberOfPoisonedVirtualRegisters (classify exit).numberOfDisplacedVirtualRegisters ++
        List.range' (classify exit).numberOfPoisonedVirtualRegisters (classify exit).numberOfDisplacedVirtualRegisters) ∧
    scratchIndices (if (classify exit).numberOfPoisonedVirtualRegisters = 0 then []
      else drainPoisoned (classify exit) 0 exit.variableRecoveries.enum) =
      List.range (classify exit).numberOfPoisonedVirtualRegisters ∧
    ∀ i ∈ reshuffleDisplaced counts layout exit (classify exit) (classify exit).numberOfPoisonedVirtualRegisters,
      ∃ k < counts.gprs, ∃ a, i = .op (.loadPtr a (.reg k)) ∨ i = .op (.storePtr (.reg k) a) := by
  refine ⟨fun s hs => ?_, dumps_scratch layout exit, scratchIndices_reshuffleDisplaced counts layout exit,
    drain_scratch exit, reshuffleDisplaced_gprs counts layout exit _⟩
  rw [scratchIndices_exitSpeculativeWithOSR] at hs
  unfold OSRClassification.scratchBufferSize
  split_ifs at hs ⊢ with hD <;> simp only [List.mem_append, List.mem_range, List.mem_range'_1, List.not_mem_nil,
    or_false] at hs <;> omega

end JavaScriptCore
