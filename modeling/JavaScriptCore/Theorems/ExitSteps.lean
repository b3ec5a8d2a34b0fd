import JavaScriptCore.Theorems.Classify

/-!
# The OSR exit, step by step: where each step's stores land

Every loop of `exitSpeculativeWithOSR` stores one word per recovery of some kind, and the loops' stores go to distinct words:
home slots are distinct because `operandForIndex` is injective, and the scratch index counts up. So each loop is described by
the word it gives each recovery it handles and by the words it keeps. Step 5 and step 7 store a register-held recovery to
its `dumpAddress`: the scratch slot after the ones parked before it if it is poisoned, else its home slot
(`exec_dumpGPRs`, `exec_dumpFPRs`); step 9 fills a poisoned variable's home slot from the scratch slot of its place in
variable order (`exec_drainPoisoned`); step 10 stores the constants (`exec_dumpConstants`). Steps 4 and 6 only change
registers (`exec_reboxInt32s`, `exec_boxFPRs`), and step 8 is the displaced assignment (`reshuffleDisplaced_assigns`).
`exitSpeculativeWithOSR_eq_steps` cuts the exit's code into these steps.
-/

namespace JavaScriptCore

/-! ### Words an instruction does not write -/


/-- An instruction that touches no memory writes none. -/
theorem not_mem_storeAddresses_of_addresses_nil {i : Instr} {a : Address} (h : i.addresses = []) :
    a ∉ i.storeAddresses := fun ha => by simpa [h] using i.storeAddresses_subset _ ha

/-- Code that does not touch scratch slot `s` does not write it. -/
theorem scratch_not_mem_storeAddresses {code : List Instr} {s : Nat} (h : s ∉ scratchIndices code) :
    ∀ i ∈ code, Address.scratchBuffer s ∉ i.storeAddresses := fun i hi ha =>
  h (List.mem_flatMap.2 ⟨i, hi, List.mem_filterMap.2 ⟨_, i.storeAddresses_subset _ ha, rfl⟩⟩)

section Counting

variable {parks : Nat × ValueRecovery → Bool} {l : List (Nat × ValueRecovery)} {j index : Nat} {r : ValueRecovery}

/-- The entries of `l` before position `index` that `parks` selects: where a loop that counts up a scratch index from 0
puts the entry at `index`. -/
def countBefore (parks : Nat × ValueRecovery → Bool) (l : List (Nat × ValueRecovery)) (index : Nat) : Nat :=
  l.countP fun p => decide (p.1 < index) && parks p

theorem countBefore_cons_of_lt (h : j < index) :
    countBefore parks ((j, r) :: l) index = countBefore parks l index + if parks (j, r) then 1 else 0 := by
  simp only [countBefore, List.countP_cons, h, decide_True, Bool.true_and]

theorem countBefore_cons_self (hl : ∀ x ∈ l, j < x.1) : countBefore parks ((j, r) :: l) j = 0 :=
  List.countP_eq_zero.2 fun x hx => by
    rcases List.mem_cons.1 hx with rfl | hx
    · simp
    · simp [Nat.not_lt.2 (hl x hx).le]

/-- An entry `parks` selects comes after all the others it selects before it. -/
theorem countBefore_lt {p : Nat × ValueRecovery} (hp : p ∈ l) (hq : parks p) : countBefore parks l p.1 < l.countP parks := by
  rw [countBefore, List.countP_eq_countP_filter_add l parks fun x => decide (x.1 < p.1), List.countP_filter,
    List.countP_filter]
  have : 0 < l.countP fun x => parks x && !decide (x.1 < p.1) := List.countP_pos_iff.2 ⟨p, hp, by simp [hq]⟩
  have e : (l.countP fun x => parks x && decide (x.1 < p.1)) = l.countP fun x => decide (x.1 < p.1) && parks x :=
    List.countP_congr fun x _ => by rw [Bool.and_comm]
  omega

end Counting

theorem exec_reboxInt32s (rs : List ValueRecovery) (m : Machine) (hT : m.gpr .tagTypeNumberRegister = TagTypeNumber) :
    (exec m (reboxInt32s none rs)).memory = m.memory ∧ (exec m (reboxInt32s none rs)).fpr = m.fpr ∧
    ∀ g, (exec m (reboxInt32s none rs)).gpr g =
      if .unboxedInt32InGPR g ∈ rs then m.gpr g ||| TagTypeNumber else m.gpr g := by
  induction rs generalizing m with
  | nil => simp [reboxInt32s]
  | cons r rs ih =>
    cases r with
    | unboxedInt32InGPR g' =>
      have hT' : ((Op.orPtr .tagTypeNumberRegister g').exec m).gpr .tagTypeNumberRegister = TagTypeNumber := by
        by_cases h : g' = .tagTypeNumberRegister
        · subst h; simp [Op.exec, hT]
        · simp [Op.exec, Ne.symm h, hT]
      obtain ⟨h1, h2, h3⟩ := ih _ hT'
      simp only [reboxInt32s, ne_eq, reduceCtorEq, not_false_eq_true, if_true, ops, List.map_cons, List.map_nil,
        List.singleton_append, exec_cons, Instr.exec]
      refine ⟨h1, h2, fun g => ?_⟩
      rw [h3]
      by_cases hg : g = g' <;> simp [Op.exec, hg, hT, BitVec.or_assoc]
    | _ =>
      obtain ⟨h1, h2, h3⟩ := ih m hT
      refine ⟨h1, h2, fun g => ?_⟩
      simp [reboxInt32s, h3]

section Dumps

variable (layout : FrameLayout) (exit : OSRExit) (c : OSRClassification)

/-- The word step 5 or step 7, run from scratch index `s` over `l`, stores a register-held recovery to, `parks` saying which
recoveries it parks: a poisoned one to the scratch index after those it parks before it, any other to its home slot. -/
def dumpAddress (parks : Nat × ValueRecovery → Bool) (s : Nat) (l : List (Nat × ValueRecovery)) (index : Nat) : Address :=
  if c.isPoisoned exit index then .scratchBuffer (s + countBefore parks l index)
  else .frame (exit.operandForIndex layout index)

/-- Which recoveries step 5 parks. -/
def gprParks (p : Nat × ValueRecovery) : Bool := c.isPoisoned exit p.1 && p.2.isInGPR

/-- Which recoveries step 7 parks. -/
def fprParks (p : Nat × ValueRecovery) : Bool := c.isPoisoned exit p.1 && p.2.isInFPR

variable {layout exit c}

theorem dumpAddress_cons_of_lt {parks : Nat × ValueRecovery → Bool} {s j index : Nat} {r : ValueRecovery}
    {l : List (Nat × ValueRecovery)} (h : j < index) :
    dumpAddress layout exit c parks s ((j, r) :: l) index =
      dumpAddress layout exit c parks (s + if parks (j, r) then 1 else 0) l index := by
  simp only [dumpAddress, countBefore_cons_of_lt h, Nat.add_comm (countBefore parks l index), Nat.add_assoc]

theorem dumpAddress_cons_self {parks : Nat × ValueRecovery → Bool} {s j : Nat} {r : ValueRecovery}
    {l : List (Nat × ValueRecovery)} (hl : ∀ x ∈ l, j < x.1) :
    dumpAddress layout exit c parks s ((j, r) :: l) j =
      if c.isPoisoned exit j then .scratchBuffer s else .frame (exit.operandForIndex layout j) := by
  simp only [dumpAddress, countBefore_cons_self hl, Nat.add_zero]

/-- An entry of `(j, r) :: l`, where `l` has only indices after `j`, is the head or an entry of `l` after it. -/
theorem mem_cons_of_lt {j index : Nat} {r r' : ValueRecovery} {l : List (Nat × ValueRecovery)} (hl : ∀ x ∈ l, j < x.1)
    (h : (index, r') ∈ (j, r) :: l) : (index = j ∧ r' = r) ∨ ((index, r') ∈ l ∧ j < index) := by
  rcases List.mem_cons.1 h with h | h
  · exact .inl (Prod.mk.inj h)
  · exact .inr ⟨h, hl _ h⟩

/-- A store followed by code that does not write its word leaves the stored value there. -/
theorem exec_storePtr_cons {g : GPRReg} {a : Address} {code : List Instr} (h : ∀ i ∈ code, a ∉ i.storeAddresses)
    (m : Machine) : (exec m (.op (.storePtr g a) :: code)).memory a = m.gpr g := by
  rw [exec_cons, exec_memory_of_not_mem h]
  simp [Instr.exec, Op.exec]

/-- A GPR-held entry of `(j, r) :: l`, where `l` has only indices after `j`, is the head or a GPR-held entry of `l` after it. -/
theorem mem_cons_gpr_of_lt {j index : Nat} {r : ValueRecovery} {g : GPRReg} {l : List (Nat × ValueRecovery)}
    (hl : ∀ x ∈ l, j < x.1) (h : (index, .inGPR g) ∈ (j, r) :: l ∨ (index, .unboxedInt32InGPR g) ∈ (j, r) :: l) :
    (index = j ∧ (r = .inGPR g ∨ r = .unboxedInt32InGPR g)) ∨
      (((index, .inGPR g) ∈ l ∨ (index, .unboxedInt32InGPR g) ∈ l) ∧ j < index) := by
  rcases h with h | h <;> rcases mem_cons_of_lt hl h with ⟨rfl, rfl⟩ | ⟨h, hlt⟩
  · exact .inl ⟨rfl, .inl rfl⟩
  · exact .inr ⟨.inl h, hlt⟩
  · exact .inl ⟨rfl, .inr rfl⟩
  · exact .inr ⟨.inr h, hlt⟩

/-- Step 5 keeps the registers and stores the GPR of every GPR-held recovery to its `dumpAddress`. -/
theorem exec_dumpGPRs (s : Nat) (l : List (Nat × ValueRecovery)) (hl : (l.map Prod.fst).Pairwise (· < ·))
    (m : Machine) :
    (exec m (dumpGPRs layout exit c s l).1).gpr = m.gpr ∧ (exec m (dumpGPRs layout exit c s l).1).fpr = m.fpr ∧
    ∀ index g, ((index, .inGPR g) ∈ l ∨ (index, .unboxedInt32InGPR g) ∈ l) →
      (exec m (dumpGPRs layout exit c s l).1).memory (dumpAddress layout exit c (gprParks exit c) s l index) =
        m.gpr g := by
  induction l generalizing s m with
  | nil => simp [dumpGPRs]
  | cons p l ih =>
    obtain ⟨j, r⟩ := p
    rw [List.map_cons, List.pairwise_cons, List.forall_mem_map] at hl
    have hne : ∀ x ∈ l, x.2.isInRegister → c.isPoisoned exit x.1 = false →
        exit.operandForIndex layout x.1 ≠ exit.operandForIndex layout j := fun x hx _ _ he =>
      (hl.1 x hx).ne' (OSRExit.operandForIndex_injective he)
    cases r with
    | inGPR g' | unboxedInt32InGPR g' =>
      by_cases hp : c.isPoisoned exit j
      · obtain ⟨h1, h2, h3⟩ := ih (s + 1) hl.2 (m.store (.scratchBuffer s) (m.gpr g'))
        simp only [dumpGPRs, hp, if_true, ops, List.map_cons, List.map_nil, List.singleton_append]
        refine ⟨h1, h2, fun index g h => ?_⟩
        rcases mem_cons_gpr_of_lt hl.1 h with ⟨rfl, he⟩ | ⟨h, hlt⟩
        · obtain rfl : g' = g := by simpa using he
          rw [dumpAddress_cons_self hl.1, if_pos hp, exec_storePtr_cons]
          exact scratch_not_mem_storeAddresses (by simp [(dumpGPRs_scratch layout exit c (s + 1) l).1])
        · rw [dumpAddress_cons_of_lt hlt]
          simpa [gprParks, hp, ValueRecovery.isInGPR] using h3 index g h
      · rw [Bool.not_eq_true] at hp
        obtain ⟨h1, h2, h3⟩ := ih s hl.2 (m.store (.frame (exit.operandForIndex layout j)) (m.gpr g'))
        simp only [dumpGPRs, hp, Bool.false_eq_true, if_false, ops, List.map_cons, List.map_nil,
          List.singleton_append]
        refine ⟨h1, h2, fun index g h => ?_⟩
        rcases mem_cons_gpr_of_lt hl.1 h with ⟨rfl, he⟩ | ⟨h, hlt⟩
        · obtain rfl : g' = g := by simpa using he
          simp only [dumpAddress_cons_self hl.1, hp, Bool.false_eq_true, if_false]
          exact exec_storePtr_cons (dumpGPRs_frame_ne layout exit c (fun x r hx => hne (x, r) hx) s) m
        · rw [dumpAddress_cons_of_lt hlt]
          simpa [gprParks, hp] using h3 index g h
    | _ =>
      obtain ⟨h1, h2, h3⟩ := ih s hl.2 m
      refine ⟨h1, h2, fun index g h => ?_⟩
      rcases mem_cons_gpr_of_lt hl.1 h with ⟨-, he | he⟩ | ⟨h, hlt⟩
      · cases he
      · cases he
      · rw [dumpAddress_cons_of_lt hlt]
        simpa [gprParks, ValueRecovery.isInGPR] using h3 index g h

/-- Step 6 keeps memory, and leaves in GPR `n` the double of FPR `n` boxed if an `InFPR` recovery names FPR `n`. -/
theorem exec_boxFPRs (rs : List ValueRecovery) (m : Machine) (hT : m.gpr .tagTypeNumberRegister = TagTypeNumber) :
    (exec m (boxFPRs rs)).memory = m.memory ∧
    ∀ n, (exec m (boxFPRs rs)).gpr (.reg n) =
      if .inFPR ⟨n⟩ ∈ rs then m.fpr ⟨n⟩ - TagTypeNumber else m.gpr (.reg n) := by
  induction rs generalizing m with
  | nil => simp [boxFPRs]
  | cons r rs ih =>
    cases r with
    | inFPR f =>
      obtain ⟨n', rfl⟩ : ∃ n', f = ⟨n'⟩ := ⟨f.index, rfl⟩
      obtain ⟨h1, h2⟩ := ih (Op.run m (boxDouble ⟨n'⟩ (.reg n'))) (by simp [boxDouble, Op.exec, hT])
      simp only [boxFPRs, exec_append, exec_ops]
      refine ⟨h1.trans (by simp [boxDouble, Op.exec]), fun n => ?_⟩
      rw [h2]
      by_cases hn : n = n' <;> by_cases hm : ValueRecovery.inFPR ⟨n⟩ ∈ rs <;>
        simp [boxDouble, Op.exec, hn, hm, hT]
    | _ => simpa [boxFPRs] using ih m hT

/-- Step 7 keeps the registers and stores the boxed double of every `InFPR` recovery to its `dumpAddress`. -/
theorem exec_dumpFPRs (s : Nat) (l : List (Nat × ValueRecovery)) (hl : (l.map Prod.fst).Pairwise (· < ·))
    (m : Machine) :
    (exec m (dumpFPRs layout exit c s l).1).gpr = m.gpr ∧
    ∀ index f, (index, .inFPR f) ∈ l →
      (exec m (dumpFPRs layout exit c s l).1).memory (dumpAddress layout exit c (fprParks exit c) s l index) =
        m.gpr (.reg f.index) := by
  induction l generalizing s m with
  | nil => simp [dumpFPRs]
  | cons p l ih =>
    obtain ⟨j, r⟩ := p
    rw [List.map_cons, List.pairwise_cons, List.forall_mem_map] at hl
    have hne : ∀ x ∈ l, x.2.isInRegister → c.isPoisoned exit x.1 = false →
        exit.operandForIndex layout x.1 ≠ exit.operandForIndex layout j := fun x hx _ _ he =>
      (hl.1 x hx).ne' (OSRExit.operandForIndex_injective he)
    cases r with
    | inFPR f' =>
      by_cases hp : c.isPoisoned exit j
      · obtain ⟨h1, h2⟩ := ih (s + 1) hl.2 (m.store (.scratchBuffer s) (m.gpr (.reg f'.index)))
        simp only [dumpFPRs, hp, if_true, ops, List.map_cons, List.map_nil, List.singleton_append]
        refine ⟨h1, fun index f h => ?_⟩
        rcases mem_cons_of_lt hl.1 h with ⟨rfl, ⟨⟩⟩ | ⟨h, hlt⟩
        · simp only [dumpAddress_cons_self hl.1, hp, if_true]
          exact exec_storePtr_cons (scratch_not_mem_storeAddresses
            (by simp [(dumpFPRs_scratch layout exit c (s + 1) l).1])) m
        · rw [dumpAddress_cons_of_lt hlt]
          simpa [fprParks, hp, ValueRecovery.isInFPR] using h2 index f h
      · rw [Bool.not_eq_true] at hp
        obtain ⟨h1, h2⟩ := ih s hl.2 (m.store (.frame (exit.operandForIndex layout j)) (m.gpr (.reg f'.index)))
        simp only [dumpFPRs, hp, Bool.false_eq_true, if_false, ops, List.map_cons, List.map_nil,
          List.singleton_append]
        refine ⟨h1, fun index f h => ?_⟩
        rcases mem_cons_of_lt hl.1 h with ⟨rfl, ⟨⟩⟩ | ⟨h, hlt⟩
        · simp only [dumpAddress_cons_self hl.1, hp, Bool.false_eq_true, if_false]
          exact exec_storePtr_cons (dumpFPRs_frame_ne layout exit c (fun x r hx => hne (x, r) hx) s) m
        · rw [dumpAddress_cons_of_lt hlt]
          simpa [fprParks, hp] using h2 index f h
    | _ =>
      obtain ⟨h1, h2⟩ := ih s hl.2 m
      refine ⟨h1, fun index f h => ?_⟩
      rcases mem_cons_of_lt hl.1 h with ⟨rfl, ⟨⟩⟩ | ⟨h, hlt⟩
      rw [dumpAddress_cons_of_lt hlt]
      simpa [fprParks, ValueRecovery.isInFPR] using h2 index f h

end Dumps

section Drain

variable (c : OSRClassification)

/-- Which variables step 9 drains. -/
def drains (p : Nat × ValueRecovery) : Bool := c.poisonedVirtualRegisters p.1 && p.2.isInRegister

variable {c}

/-- Step 9 stores only to the home slots of the variables it drains. -/
theorem drainPoisoned_keeps (s : Nat) (l : List (Nat × ValueRecovery)) {a : Address}
    (ha : ∀ p ∈ l, drains c p → a ≠ .frame p.1) : ∀ i ∈ drainPoisoned c s l, a ∉ i.storeAddresses := by
  induction l generalizing s with
  | nil => exact List.forall_mem_nil _
  | cons p l ih =>
    have ih' := fun s => ih s fun q hq => ha q (.tail _ hq)
    by_cases hp : drains c p
    · have hd : (c.poisonedVirtualRegisters p.1 && p.2.isInRegister) = true := hp
      simp only [drainPoisoned, hd, if_true, ops, List.map_cons, List.map_nil, List.cons_append, List.nil_append,
        List.forall_mem_cons]
      exact ⟨by simp [Instr.storeAddresses, Op.storeAddress],
        by simp [Instr.storeAddresses, Op.storeAddress, ha p (.head _) hp], ih' (s + 1)⟩
    · have hd : (c.poisonedVirtualRegisters p.1 && p.2.isInRegister) = false := by simpa [drains] using hp
      simpa only [drainPoisoned, hd, Bool.false_eq_true, if_false] using ih' s

/-- Step 9 drains into the home slot of every variable it drains the scratch slot after those it drained before. -/
theorem exec_drainPoisoned (s : Nat) (l : List (Nat × ValueRecovery)) (hl : (l.map Prod.fst).Pairwise (· < ·))
    (m : Machine) : ∀ p ∈ l, drains c p →
      (exec m (drainPoisoned c s l)).memory (.frame p.1) = m.memory (.scratchBuffer (s + countBefore (drains c) l p.1)) := by
  induction l generalizing s m with
  | nil => exact fun _ h => absurd h (List.not_mem_nil _)
  | cons q l ih =>
    obtain ⟨j, r⟩ := q
    rw [List.map_cons, List.pairwise_cons, List.forall_mem_map] at hl
    rintro ⟨v, r'⟩ hp hd
    by_cases hq : drains c (j, r)
    · have hd' : (c.poisonedVirtualRegisters j && r.isInRegister) = true := hq
      simp only [drainPoisoned, hd', if_true, ops, List.map_cons, List.map_nil, List.cons_append, List.nil_append,
        exec_cons]
      rcases mem_cons_of_lt hl.1 hp with ⟨rfl, rfl⟩ | ⟨hp, hlt⟩
      · rw [exec_memory_of_not_mem (drainPoisoned_keeps _ l fun x hx _ he =>
          (hl.1 x hx).ne (by exact_mod_cast Address.frame.inj he)), countBefore_cons_self hl.1]
        simp [Instr.exec, Op.exec, regT0]
      · rw [ih (s + 1) hl.2 _ _ hp hd, countBefore_cons_of_lt hlt, if_pos hq]
        simp [Instr.exec, Op.exec, Nat.add_assoc, Nat.add_comm 1]
    · have hd' : (c.poisonedVirtualRegisters j && r.isInRegister) = false := by simpa [drains] using hq
      simp only [drainPoisoned, hd', Bool.false_eq_true, if_false]
      rcases mem_cons_of_lt hl.1 hp with ⟨rfl, rfl⟩ | ⟨hp, hlt⟩
      · exact absurd hd hq
      · rw [ih s hl.2 m _ hp hd, countBefore_cons_of_lt hlt, if_neg hq, Nat.add_zero]

end Drain

section Constants

variable {layout : FrameLayout} {exit : OSRExit}

/-- Step 10 stores only to the home slots of the constants. -/
theorem dumpConstants_keeps (l : List (Nat × ValueRecovery)) {a : Address}
    (ha : ∀ index v, (index, .constant v) ∈ l → a ≠ .frame (exit.operandForIndex layout index)) :
    ∀ i ∈ dumpConstants layout exit l, a ∉ i.storeAddresses := by
  induction l with
  | nil => exact List.forall_mem_nil _
  | cons p l ih =>
    have ih' := ih fun index v h => ha index v (.tail _ h)
    obtain ⟨index, r⟩ := p
    cases r with
    | constant v =>
      have hne := ha index v (.head _)
      simp only [dumpConstants, ops, List.map_cons, List.map_nil, List.singleton_append, List.forall_mem_cons]
      refine ⟨?_, ih'⟩
      split_ifs <;> simp [Instr.storeAddresses, Op.storeAddress, hne]
    | _ => exact ih'

/-- Step 10 stores every constant to its home slot, `undefined` through `regT0`. -/
theorem exec_dumpConstants (l : List (Nat × ValueRecovery)) (hl : (l.map Prod.fst).Pairwise (· < ·)) (m : Machine) :
    ∀ index v, (index, .constant v) ∈ l → (v = ValueUndefined → m.gpr regT0 = ValueUndefined) →
      (exec m (dumpConstants layout exit l)).memory (.frame (exit.operandForIndex layout index)) = v := by
  induction l generalizing m with
  | nil => exact fun _ _ h => absurd h (List.not_mem_nil _)
  | cons p l ih =>
    obtain ⟨j, r⟩ := p
    rw [List.map_cons, List.pairwise_cons, List.forall_mem_map] at hl
    intro index v hp hu
    have hkeep : ∀ i ∈ dumpConstants layout exit l, Address.frame (exit.operandForIndex layout j) ∉ i.storeAddresses :=
      dumpConstants_keeps l fun index' v' h he =>
        (hl.1 _ h).ne (OSRExit.operandForIndex_injective (Address.frame.inj he))
    cases r with
    | constant w =>
      simp only [dumpConstants, ops, List.map_cons, List.map_nil, List.singleton_append, exec_cons]
      rcases mem_cons_of_lt hl.1 hp with ⟨rfl, ⟨⟩⟩ | ⟨hp, -⟩
      · rw [exec_memory_of_not_mem hkeep]
        split_ifs with hw
        · simp [Instr.exec, Op.exec, hu hw, hw]
        · simp [Instr.exec, Op.exec]
      · refine ih hl.2 _ index v hp fun hv => ?_
        split_ifs <;> simpa [Instr.exec, Op.exec] using hu hv
    | _ =>
      rcases mem_cons_of_lt hl.1 hp with ⟨rfl, ⟨⟩⟩ | ⟨hp, -⟩
      exact ih hl.2 m index v hp hu

end Constants

/-- Step 8, from scratch index `numberOfPoisonedVirtualRegisters`, performs the displaced assignment and keeps the scratch
slots below that index. -/
theorem reshuffleDisplaced_assigns (counts : RegisterCounts) (layout : FrameLayout) (exit : OSRExit) (m : Machine) :
    AssignsDisplaced layout exit m
      (exec m (reshuffleDisplaced counts layout exit (classify exit) (classify exit).numberOfPoisonedVirtualRegisters)) ∧
    ∀ s < (classify exit).numberOfPoisonedVirtualRegisters,
      (exec m (reshuffleDisplaced counts layout exit (classify exit) (classify exit).numberOfPoisonedVirtualRegisters)).memory
        (.scratchBuffer s) = m.memory (.scratchBuffer s) := by
  refine ⟨?_, fun s hs => exec_memory_of_not_mem (scratch_not_mem_storeAddresses ?_) m⟩
  · unfold reshuffleDisplaced
    split_ifs with h0
    · refine ⟨fun i vr hi => ?_, fun _ _ => rfl⟩
      rw [(classifiedAs_classify exit).displaced_count, List.length_eq_zero] at h0
      exact absurd (mem_sourcesOf.2 (List.snd_mem_of_mem_enum hi)) (h0 ▸ List.not_mem_nil vr)
    · exact registerStaged_assigns m
    · exact (bufferStaged_assigns _ m).1
  · rw [scratchIndices_reshuffleDisplaced]
    split_ifs
    · exact List.not_mem_nil s
    · simp only [List.mem_append, List.mem_range'_1, or_self]
      omega

section Flags

variable {exit : OSRExit}

/-- A flag of step 3 that some recovery sets and that no recovery clears is set after step 3. -/
theorem classify_flag {flag : OSRClassification → Bool} {r : ValueRecovery} (hr : r ∈ exit.recoveries)
    (hkeep : ∀ c r, flag c = true → flag (classifyRecovery exit c r) = true)
    (hset : ∀ c, flag (classifyRecovery exit c r) = true) : flag (classify exit) = true := by
  suffices h : ∀ (rs : List ValueRecovery) c, (flag c = true ∨ r ∈ rs) → flag (rs.foldl (classifyRecovery exit) c) = true from
    h _ _ (.inr hr)
  intro rs
  induction rs with
  | nil =>
    rintro c (h | h)
    · exact h
    · exact absurd h (List.not_mem_nil _)
  | cons r' rs ih =>
    rintro c (h | h)
    · exact ih _ (.inl (hkeep c r' h))
    · rcases List.mem_cons.1 h with rfl | h
      · exact ih _ (.inl (hset c))
      · exact ih _ (.inr h)

theorem classify_haveUnboxedInt32s {g : GPRReg} (h : .unboxedInt32InGPR g ∈ exit.recoveries) :
    (classify exit).haveUnboxedInt32s = true :=
  classify_flag h (fun c r hc => by cases r <;> simp only [classifyRecovery] <;> (try split_ifs) <;> exact hc)
    fun _ => rfl

theorem classify_haveConstants {v : Word} (h : .constant v ∈ exit.recoveries) : (classify exit).haveConstants = true :=
  classify_flag h (fun c r hc => by cases r <;> simp only [classifyRecovery] <;> (try split_ifs) <;> exact hc)
    fun _ => rfl

theorem classify_haveUndefined (h : .constant ValueUndefined ∈ exit.recoveries) : (classify exit).haveUndefined = true :=
  classify_flag h (fun c r hc => by cases r <;> simp only [classifyRecovery] <;> (try split_ifs) <;> simp [hc])
    fun _ => by simp [classifyRecovery]

end Flags

/-! ### The exit, step by step -/

section Decomposition

variable (layout : FrameLayout) (exit : OSRExit) (baseline : Baseline)

/-- Step 9 as `exitSpeculativeWithOSR` emits it. -/
def drainStep : List Instr :=
  if (classify exit).numberOfPoisonedVirtualRegisters = 0 then [] else drainPoisoned (classify exit) 0 exit.variableRecoveries.enum

/-- Step 10 as `exitSpeculativeWithOSR` emits it. -/
def constantsStep : List Instr :=
  if (classify exit).haveConstants then
    (if (classify exit).haveUndefined then ops [.moveImmPtr ValueUndefined regT0] else []) ++
      dumpConstants layout exit exit.recoveries.enum
  else []

/-- Steps 11 to 14 as `exitSpeculativeWithOSR` emits them. -/
def epilogueSteps : List Instr :=
  ops [.store32 baseline.counterValueForOptimizeAfterWarmUp .executeCounter] ++
    (match exit.lastSetOperand with
      | some operand => ops [.loadPtr (.frame operand) regT0]
      | none => []) ++
    ops [.storeImmPtr baseline.codeBlock (.frame layout.codeBlockSlot)] ++
    ops [.moveImmPtr ((osrJumpTarget exit baseline).getD 0) regT1]

/-- The exit's code, step by step. -/
theorem exitSpeculativeWithOSR_eq_steps (counts : RegisterCounts) (recovery : Option SpeculationRecovery) :
    exitSpeculativeWithOSR counts layout exit baseline recovery =
      exitStepsBeforeReshuffle layout exit recovery ++
        reshuffleDisplaced counts layout exit (classify exit) (classify exit).numberOfPoisonedVirtualRegisters ++
        drainStep exit ++ constantsStep layout exit ++ epilogueSteps layout exit baseline := by
  unfold exitSpeculativeWithOSR exitStepsBeforeReshuffle drainStep constantsStep epilogueSteps
  split
  rename_i step2 alreadyBoxed hpre
  cases exit.lastSetOperand <;> simp only [hpre, (dumps_scratch layout exit).2, List.append_assoc]

/-- Steps 11 to 14 store to no frame slot but the code block's. -/
theorem epilogueSteps_keeps {x : Int} (hx : x ≠ layout.codeBlockSlot) :
    ∀ i ∈ epilogueSteps layout exit baseline, Address.frame x ∉ i.storeAddresses := by
  unfold epilogueSteps
  split <;> simp [ops, Instr.storeAddresses, Op.storeAddress, hx]

end Decomposition

end JavaScriptCore
