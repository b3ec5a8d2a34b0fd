import JavaScriptCore.DFG.OSRExit

/-!
# Step 8: the displaced values, as one simultaneous assignment

A `DisplacedInRegisterFile` recovery says that the value of operand `operandForIndex(i)` is in frame slot
`virtualRegister()`. Sources may be other recoveries' targets (`1 -> 2`, `2 -> 1`), so step 8 reads every source before it
writes any target: into consecutive GPRs when there are few enough, else into the scratch buffer after the poisoned values.
Either way the frame ends as the simultaneous assignment of every source to its target (`AssignsDisplaced`): the targets
are distinct, since `operandForIndex` is injective (arguments below zero, variables at their own index), and the staging
area is written only where the other branch of the exit does not look (`reshuffleDisplaced_branches_agree`).
-/

namespace JavaScriptCore

/-- The source slots of the displaced recoveries, in order. -/
def sourcesOf : List ValueRecovery → List Int
  | [] => []
  | .displacedInRegisterFile vr :: rs => vr :: sourcesOf rs
  | _ :: rs => sourcesOf rs

section Displaced

variable (layout : FrameLayout) (exit : OSRExit)

/-- The displacements of step 8, in order: the target operand of each displaced recovery, with its source slot. -/
def displacementsOf : List (Nat × ValueRecovery) → List (Int × Int)
  | [] => []
  | (index, .displacedInRegisterFile vr) :: l => (exit.operandForIndex layout index, vr) :: displacementsOf l
  | _ :: l => displacementsOf l

/-- What step 8 is for: every target slot holds what its source slot held before, and every other frame slot is kept. -/
def AssignsDisplaced (m m' : Machine) : Prop :=
  (∀ i vr, (i, .displacedInRegisterFile vr) ∈ exit.recoveries.enum →
    m'.memory (.frame (exit.operandForIndex layout i)) = m.memory (.frame vr)) ∧
  ∀ x, (∀ i vr, (i, .displacedInRegisterFile vr) ∈ exit.recoveries.enum → exit.operandForIndex layout i ≠ x) →
    m'.memory (.frame x) = m.memory (.frame x)

end Displaced

namespace OSRExit

variable {layout : FrameLayout} {exit : OSRExit}

/-- Distinct recoveries have distinct operands: arguments are below zero and apart, variables at their own index. -/
theorem operandForIndex_injective : Function.Injective (exit.operandForIndex layout) := by
  intro i i' h
  unfold operandForIndex at h
  have := layout.argument_lt_zero i
  have := layout.argument_lt_zero i'
  split_ifs at h with hi hi'
  · exact layout.argument_injective h
  · omega
  · omega
  · omega

end OSRExit

section Lists

variable {layout : FrameLayout} {exit : OSRExit}

theorem mem_displacementsOf {l : List (Nat × ValueRecovery)} {p : Int × Int} :
    p ∈ displacementsOf layout exit l ↔
      ∃ i vr, (i, .displacedInRegisterFile vr) ∈ l ∧ p = (exit.operandForIndex layout i, vr) := by
  induction l with
  | nil => simp [displacementsOf]
  | cons q l ih =>
    obtain ⟨index, r⟩ := q
    cases r with
    | displacedInRegisterFile vr =>
      simp only [displacementsOf, List.mem_cons, ih, Prod.mk.injEq, ValueRecovery.displacedInRegisterFile.injEq]
      constructor
      · rintro (rfl | ⟨i, vr', h, rfl⟩)
        · exact ⟨index, vr, .inl ⟨rfl, rfl⟩, rfl⟩
        · exact ⟨i, vr', .inr h, rfl⟩
      · rintro ⟨i, vr', (⟨⟨rfl, rfl⟩, rfl⟩ | h), rfl⟩
        · exact .inl rfl
        · exact .inr ⟨i, vr', h, rfl⟩
    | _ =>
      refine ih.trans (exists_congr fun i => exists_congr fun vr => and_congr_left fun _ => ?_)
      exact ⟨List.mem_cons_of_mem _, fun h => (List.mem_cons.1 h).resolve_left (nomatch ·)⟩

theorem map_snd_displacementsOf (l : List (Nat × ValueRecovery)) :
    (displacementsOf layout exit l).map Prod.snd = sourcesOf (l.map Prod.snd) := by
  induction l with
  | nil => rfl
  | cons q l ih =>
    obtain ⟨index, r⟩ := q
    cases r <;> simp [displacementsOf, sourcesOf, ih]

theorem map_fst_displacementsOf_sublist (l : List (Nat × ValueRecovery)) :
    ((displacementsOf layout exit l).map Prod.fst).Sublist (l.map fun q => exit.operandForIndex layout q.1) := by
  induction l with
  | nil => exact List.Sublist.slnil
  | cons q l ih =>
    obtain ⟨index, r⟩ := q
    cases r <;> simp only [displacementsOf, List.map_cons] <;> first | exact ih.cons₂ _ | exact ih.cons _

/-- The targets of step 8 are distinct. -/
theorem nodup_targets : ((displacementsOf layout exit exit.recoveries.enum).map Prod.fst).Nodup := by
  refine (map_fst_displacementsOf_sublist _).nodup ?_
  have h : (exit.recoveries.enum.map fun q => exit.operandForIndex layout q.1) =
      (exit.recoveries.enum.map Prod.fst).map (exit.operandForIndex layout) := by
    rw [List.map_map]; rfl
  rw [h, List.enum_map_fst]
  exact (List.nodup_range _).map OSRExit.operandForIndex_injective

end Lists

section Steps

variable {layout : FrameLayout} {exit : OSRExit}

/-- The register-staged loads: the `j`-th source into GPR `k + j`, memory and every other GPR kept. -/
theorem exec_loadDisplaced (k : Nat) (rs : List ValueRecovery) (m : Machine) :
    (exec m (loadDisplaced k rs)).memory = m.memory ∧
    (∀ g, (∀ j < (sourcesOf rs).length, g ≠ .reg (k + j)) → (exec m (loadDisplaced k rs)).gpr g = m.gpr g) ∧
    ∀ j vr, (sourcesOf rs)[j]? = some vr → (exec m (loadDisplaced k rs)).gpr (.reg (k + j)) = m.memory (.frame vr) := by
  induction rs generalizing k m with
  | nil => exact ⟨rfl, fun _ _ => rfl, fun j vr h => by simp [sourcesOf] at h⟩
  | cons r rs ih =>
    cases r with
    | displacedInRegisterFile vr =>
      obtain ⟨hmem, hframe, hval⟩ := ih (k + 1) (m.setGPR (.reg k) (m.memory (.frame vr)))
      have hrest : ∀ j < (sourcesOf rs).length, GPRReg.reg k ≠ .reg (k + 1 + j) := fun j _ h => by
        injection h; omega
      simp only [loadDisplaced, sourcesOf, exec_append, exec_ops, Op.run_cons, Op.run_nil, Op.exec, List.length_cons]
      refine ⟨hmem, fun g hg => ?_, fun j vr' h => ?_⟩
      · have h0 : g ≠ .reg k := hg 0 (by omega)
        rw [hframe g fun j hj h' => hg (j + 1) (by omega) (by rw [h']; congr 1; omega)]
        simp [h0]
      · cases j with
        | zero =>
          obtain rfl : vr = vr' := Option.some.inj (List.getElem?_cons_zero.symm.trans h)
          simp only [Nat.add_zero]
          rw [hframe _ hrest]
          simp
        | succ j =>
          rw [show k + (j + 1) = k + 1 + j by omega, hval j vr' (List.getElem?_cons_succ.symm.trans h)]
          simp
    | _ => exact ih k m

/-- The register-staged stores: GPR `k + j` into the `j`-th target, GPRs and every other slot kept. -/
theorem exec_storeDisplaced (k : Nat) (l : List (Nat × ValueRecovery)) (m : Machine)
    (hnd : ((displacementsOf layout exit l).map Prod.fst).Nodup) :
    (exec m (storeDisplaced layout exit k l)).gpr = m.gpr ∧
    (∀ a, (∀ p ∈ displacementsOf layout exit l, a ≠ .frame p.1) →
      (exec m (storeDisplaced layout exit k l)).memory a = m.memory a) ∧
    ∀ j p, (displacementsOf layout exit l)[j]? = some p →
      (exec m (storeDisplaced layout exit k l)).memory (.frame p.1) = m.gpr (.reg (k + j)) := by
  induction l generalizing k m with
  | nil => exact ⟨rfl, fun _ _ => rfl, fun j p h => by simp [displacementsOf] at h⟩
  | cons q l ih =>
    obtain ⟨index, r⟩ := q
    cases r with
    | displacedInRegisterFile vr =>
      simp only [displacementsOf, List.map_cons, List.nodup_cons, List.mem_map] at hnd
      obtain ⟨hgpr, hframe, hval⟩ := ih (k + 1) (m.store (.frame (exit.operandForIndex layout index)) (m.gpr (.reg k))) hnd.2
      simp only [storeDisplaced, displacementsOf, exec_append, exec_ops, Op.run_cons, Op.run_nil, Op.exec]
      refine ⟨hgpr, fun a ha => ?_, fun j p h => ?_⟩
      · rw [hframe a fun p hp => ha p (.tail _ hp)]
        simp [ha _ (.head _)]
      · cases j with
        | zero =>
          obtain rfl : (exit.operandForIndex layout index, vr) = p := Option.some.inj (List.getElem?_cons_zero.symm.trans h)
          rw [hframe _ fun p hp he => hnd.1 ⟨p, hp, (Address.frame.inj he).symm⟩]
          simp
        | succ j =>
          rw [show k + (j + 1) = k + 1 + j by omega, hval j p (List.getElem?_cons_succ.symm.trans h)]
          rfl
    | _ => exact ih k m hnd

/-- The buffer-staged saves: the `j`-th source into scratch slot `s + j` through `regT0`, every other slot kept. -/
theorem exec_saveDisplaced (s : Nat) (rs : List ValueRecovery) (m : Machine) :
    (∀ a, (∀ j < (sourcesOf rs).length, a ≠ .scratchBuffer (s + j)) → (exec m (saveDisplaced s rs)).memory a = m.memory a) ∧
    ∀ j vr, (sourcesOf rs)[j]? = some vr →
      (exec m (saveDisplaced s rs)).memory (.scratchBuffer (s + j)) = m.memory (.frame vr) := by
  induction rs generalizing s m with
  | nil => exact ⟨fun _ _ => rfl, fun j vr h => by simp [sourcesOf] at h⟩
  | cons r rs ih =>
    cases r with
    | displacedInRegisterFile vr =>
      obtain ⟨hframe, hval⟩ := ih (s + 1)
        ((m.setGPR regT0 (m.memory (.frame vr))).store (.scratchBuffer s) (m.memory (.frame vr)))
      simp only [saveDisplaced, sourcesOf, exec_append, exec_ops, Op.run_cons, Op.run_nil, Op.exec, List.length_cons,
        Machine.setGPR_gpr, if_true]
      refine ⟨fun a ha => ?_, fun j vr' h => ?_⟩
      · have h0 : a ≠ .scratchBuffer s := ha 0 (by omega)
        rw [hframe a fun j hj h' => ha (j + 1) (by omega) (by rw [h']; congr 1; omega)]
        simp [h0]
      · cases j with
        | zero =>
          obtain rfl : vr = vr' := Option.some.inj (List.getElem?_cons_zero.symm.trans h)
          simp only [Nat.add_zero]
          rw [hframe _ fun j _ h' => by injection h'; omega]
          simp
        | succ j =>
          rw [show s + (j + 1) = s + 1 + j by omega, hval j vr' (List.getElem?_cons_succ.symm.trans h)]
          simp
    | _ => exact ih s m

/-- The buffer-staged restores: scratch slot `s + j` into the `j`-th target through `regT0`, every other slot kept. -/
theorem exec_restoreDisplaced (s : Nat) (l : List (Nat × ValueRecovery)) (m : Machine)
    (hnd : ((displacementsOf layout exit l).map Prod.fst).Nodup) :
    (∀ a, (∀ p ∈ displacementsOf layout exit l, a ≠ .frame p.1) →
      (exec m (restoreDisplaced layout exit s l)).memory a = m.memory a) ∧
    ∀ j p, (displacementsOf layout exit l)[j]? = some p →
      (exec m (restoreDisplaced layout exit s l)).memory (.frame p.1) = m.memory (.scratchBuffer (s + j)) := by
  induction l generalizing s m with
  | nil => exact ⟨fun _ _ => rfl, fun j p h => by simp [displacementsOf] at h⟩
  | cons q l ih =>
    obtain ⟨index, r⟩ := q
    cases r with
    | displacedInRegisterFile vr =>
      simp only [displacementsOf, List.map_cons, List.nodup_cons, List.mem_map] at hnd
      obtain ⟨hframe, hval⟩ := ih (s + 1) ((m.setGPR regT0 (m.memory (.scratchBuffer s))).store
        (.frame (exit.operandForIndex layout index)) (m.memory (.scratchBuffer s))) hnd.2
      simp only [restoreDisplaced, displacementsOf, exec_append, exec_ops, Op.run_cons, Op.run_nil, Op.exec,
        Machine.setGPR_gpr, if_true]
      refine ⟨fun a ha => ?_, fun j p h => ?_⟩
      · rw [hframe a fun p hp => ha p (.tail _ hp)]
        simp [ha _ (.head _)]
      · cases j with
        | zero =>
          obtain rfl : (exit.operandForIndex layout index, vr) = p := Option.some.inj (List.getElem?_cons_zero.symm.trans h)
          rw [hframe _ fun p hp he => hnd.1 ⟨p, hp, (Address.frame.inj he).symm⟩]
          simp
        | succ j =>
          rw [show s + (j + 1) = s + 1 + j by omega, hval j p (List.getElem?_cons_succ.symm.trans h)]
          simp
    | _ => exact ih s m hnd

end Steps

section Branches

variable {layout : FrameLayout} {exit : OSRExit}

/-- The `j`-th displacement's source is the `j`-th source. -/
theorem sourcesOf_getElem? {j : Nat} {p : Int × Int} (h : (displacementsOf layout exit exit.recoveries.enum)[j]? = some p) :
    (sourcesOf exit.recoveries)[j]? = some p.2 := by
  rw [← List.enum_map_snd exit.recoveries, ← map_snd_displacementsOf, List.getElem?_map, h]
  rfl

/-- A displaced recovery's target is some position of the displacements. -/
theorem exists_getElem?_displacementsOf {i : Nat} {vr : Int}
    (hi : (i, .displacedInRegisterFile vr) ∈ exit.recoveries.enum) :
    ∃ j : Nat, (displacementsOf layout exit exit.recoveries.enum)[j]? = some (exit.operandForIndex layout i, vr) :=
  List.mem_iff_getElem?.1 (mem_displacementsOf.2 ⟨i, vr, hi, rfl⟩)

/-- A frame slot no displaced recovery targets is not a target. -/
theorem frame_ne_of_not_target {x : Int}
    (hx : ∀ i vr, (i, .displacedInRegisterFile vr) ∈ exit.recoveries.enum → exit.operandForIndex layout i ≠ x) :
    ∀ p ∈ displacementsOf layout exit exit.recoveries.enum, Address.frame x ≠ .frame p.1 := fun p hp he => by
  obtain ⟨i, vr, hi, rfl⟩ := mem_displacementsOf.1 hp
  exact hx i vr hi (Address.frame.inj he).symm

/-- The register-staged branch performs the assignment. -/
theorem registerStaged_assigns (m : Machine) :
    AssignsDisplaced layout exit m
      (exec m (loadDisplaced 0 exit.recoveries ++ storeDisplaced layout exit 0 exit.recoveries.enum)) := by
  obtain ⟨hmem, -, hload⟩ := exec_loadDisplaced 0 exit.recoveries m
  obtain ⟨-, hframe, hstore⟩ :=
    exec_storeDisplaced 0 exit.recoveries.enum (exec m (loadDisplaced 0 exit.recoveries)) nodup_targets
  rw [exec_append]
  refine ⟨fun i vr hi => ?_, fun x hx => ?_⟩
  · obtain ⟨j, hj⟩ := exists_getElem?_displacementsOf hi
    rw [hstore j _ hj, hload j vr (sourcesOf_getElem? hj)]
  · rw [hframe (.frame x) (frame_ne_of_not_target hx), hmem]

/-- The buffer-staged branch performs the assignment, staging from scratch slot `s` on and keeping the slots below. -/
theorem bufferStaged_assigns (s : Nat) (m : Machine) :
    AssignsDisplaced layout exit m
      (exec m (saveDisplaced s exit.recoveries ++ restoreDisplaced layout exit s exit.recoveries.enum)) ∧
    ∀ s' < s, (exec m (saveDisplaced s exit.recoveries ++ restoreDisplaced layout exit s exit.recoveries.enum)).memory
      (.scratchBuffer s') = m.memory (.scratchBuffer s') := by
  obtain ⟨hsframe, hsave⟩ := exec_saveDisplaced s exit.recoveries m
  obtain ⟨hrframe, hrestore⟩ :=
    exec_restoreDisplaced s exit.recoveries.enum (exec m (saveDisplaced s exit.recoveries)) nodup_targets
  rw [exec_append]
  refine ⟨⟨fun i vr hi => ?_, fun x hx => ?_⟩, fun s' hs' => ?_⟩
  · obtain ⟨j, hj⟩ := exists_getElem?_displacementsOf hi
    rw [hrestore j _ hj, hsave j vr (sourcesOf_getElem? hj)]
  · rw [hrframe (.frame x) (frame_ne_of_not_target hx), hsframe (.frame x) fun _ _ h => nomatch h]
  · have hne : ∀ j < (sourcesOf exit.recoveries).length, Address.scratchBuffer s' ≠ .scratchBuffer (s + j) := by
      intro j _ h
      injection h
      omega
    rw [hrframe (.scratchBuffer s') fun _ _ h => nomatch h]
    exact hsframe (.scratchBuffer s') hne

/-- Two runs that both perform the assignment from `m` agree on the frame. -/
theorem AssignsDisplaced.frame_eq {m m₁ m₂ : Machine} (h₁ : AssignsDisplaced layout exit m m₁)
    (h₂ : AssignsDisplaced layout exit m m₂) (x : Int) : m₁.memory (.frame x) = m₂.memory (.frame x) := by
  by_cases hx : ∃ i vr, (i, .displacedInRegisterFile vr) ∈ exit.recoveries.enum ∧ exit.operandForIndex layout i = x
  · obtain ⟨i, vr, hi, rfl⟩ := hx
    rw [h₁.1 i vr hi, h₂.1 i vr hi]
  · push_neg at hx
    rw [h₁.2 x hx, h₂.2 x hx]

end Branches

/-- For every exit and every machine state before step 8: the register-staged and the buffer-staged branches each leave every
target slot `operandForIndex(i)` holding what source slot `virtualRegister()` held and every other frame slot as it was; the
buffer branch, staging after the `numberOfPoisonedVirtualRegisters` poisoned values, keeps the scratch slots below them; and
the two branches leave the same frame. -/
theorem reshuffleDisplaced_branches_agree (layout : FrameLayout) (exit : OSRExit) (m : Machine) :
    AssignsDisplaced layout exit m
      (exec m (loadDisplaced 0 exit.recoveries ++ storeDisplaced layout exit 0 exit.recoveries.enum)) ∧
    AssignsDisplaced layout exit m
      (exec m (saveDisplaced (classify exit).numberOfPoisonedVirtualRegisters exit.recoveries ++
        restoreDisplaced layout exit (classify exit).numberOfPoisonedVirtualRegisters exit.recoveries.enum)) ∧
    (∀ s < (classify exit).numberOfPoisonedVirtualRegisters,
      (exec m (saveDisplaced (classify exit).numberOfPoisonedVirtualRegisters exit.recoveries ++
        restoreDisplaced layout exit (classify exit).numberOfPoisonedVirtualRegisters exit.recoveries.enum)).memory
        (.scratchBuffer s) = m.memory (.scratchBuffer s)) ∧
    ∀ x, (exec m (loadDisplaced 0 exit.recoveries ++ storeDisplaced layout exit 0 exit.recoveries.enum)).memory (.frame x) =
      (exec m (saveDisplaced (classify exit).numberOfPoisonedVirtualRegisters exit.recoveries ++
        restoreDisplaced layout exit (classify exit).numberOfPoisonedVirtualRegisters exit.recoveries.enum)).memory
        (.frame x) := by
  obtain ⟨hbuf, hbelow⟩ := bufferStaged_assigns (classify exit).numberOfPoisonedVirtualRegisters m
  exact ⟨registerStaged_assigns m, hbuf, hbelow, (registerStaged_assigns m).frame_eq hbuf⟩

end JavaScriptCore
