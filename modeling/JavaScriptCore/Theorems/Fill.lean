import JavaScriptCore.Theorems.ReverseMaps
import JavaScriptCore.Lemmas.Encoding

/-!
# Part 3: the fills

Part 3 of `jumpFromSpeculativeToNonSpeculative` loads into the entry registers the nodes that Part 2 has not delivered: a node
no check register holds, or holds only as spilled. It reads each from its home slot or its constant, in the register's entry
format (`fillNumericToDouble`, `fillInt32ToInteger`, `fillToJS`).

By design it skips an entry register that the entry marks spilled: the baseline code reloads such a node itself. Every other
register the entry waits for receives its node's value, no memory word changes, and no other register changes but `regT0`,
which changes only when an FPR is filled: it is the temporary of `fillNumericToDouble` (`afterPart3_fills_owed_registers`).

That temporary is not free. Part 3 does not ask whether `regT0` is itself an entry register: when Part 2 has delivered a node
into it and an FPR is then filled, the delivered value is lost, and the GPR loop does not refill it, since it fills only what
Part 2 did not deliver (`part3_fill_overwrites_delivered_regT0`).
-/

namespace JavaScriptCore

/-- The value of a constant. -/
def ConstantValue.value : ConstantValue → JSValue
  | .int32 i => .int32 i
  | .number b => .double b
  | .js w => JSValue.decode w

/-- The value of a node outside the registers: its constant, or what its home slot holds. -/
def Graph.valueAt (graph : Graph) (memory : Address → Word) (n : NodeIndex) : JSValue :=
  match graph.constant n with
  | some c => c.value
  | none => JSValue.decode (memory (.frame (graph.virtualRegister n)))

/-- Part 3 owes the entry register described by `info` the node `n`: the entry holds `n` there and has not spilled it, and no
check register delivers it. -/
def Owed (counts : RegisterCounts) (check : SpeculationCheck) (info : RegisterInfo) (n : NodeIndex) : Prop :=
  info.nodeIndex = some n ∧ info.isSpilled = false ∧ ¬check.Delivers counts n

section Fill

variable {graph : Graph} {m : Machine} {n : NodeIndex}

/-- `fillNumericToDouble` writes the temporary and the FPR, and the FPR holds the node's number. -/
theorem exec_fillNumericToDouble (hm : m.gpr .tagTypeNumberRegister = TagTypeNumber) {t : GPRReg}
    (ht : t ≠ .tagTypeNumberRegister) (f : FPRReg) (hv : (graph.valueAt m.memory n).fits .double) :
    ∃ w d, exec m (fillNumericToDouble graph n f t) = (m.setGPR t w).setFPR f d ∧
      Holds .double d (graph.valueAt m.memory n) := by
  unfold fillNumericToDouble
  unfold Graph.valueAt at hv ⊢
  cases hc : graph.constant n with
  | some c =>
    have hvalid := graph.constant_valid n c hc
    simp only [hc] at hv ⊢
    refine ⟨c.numberBits, c.numberBits, by simp [Op.exec], ?_⟩
    cases c with
    | int32 i => exact holds_int32ToDouble i
    | number b => exact holds_double hvalid
    | js w => simp_all [ConstantValue.Valid, ConstantValue.value]
  | none =>
    simp only [hc] at hv ⊢
    obtain ⟨w, hw⟩ : ∃ w, m.memory (.frame (graph.virtualRegister n)) = w := ⟨_, rfl⟩
    rw [hw] at hv ⊢
    by_cases hle : TagTypeNumber ≤ w
    · refine ⟨w, int32ToDouble (w.setWidth 32), by simp [Instr.exec, Op.exec, Ne.symm ht, hm, hw, hle], ?_⟩
      rw [JSValue.decode_of_tag_le hle]
      exact holds_int32ToDouble _
    · have hoff : DoubleEncodeOffset ≤ w := by
        by_contra ho
        rw [JSValue.decode_of_lt_tag hle, if_neg ho] at hv
        nomatch hv
      have hd := JSValue.decode_of_lt_tag_of_le hle hoff
      refine ⟨w - DoubleEncodeOffset, w - DoubleEncodeOffset, ?_, ?_⟩
      · simp [Instr.exec, Op.exec, unboxDouble, Ne.symm ht, hm, hw, hle, add_tagTypeNumber]
      · rw [hd]
        exact holds_double (JSValue.toNat_lt_of_decode_double hd)

/-- `fillInt32ToInteger` writes the GPR only, with the node's int32 as an `Integer`. -/
theorem exec_fillInt32ToInteger (g : GPRReg) (hv : (graph.valueAt m.memory n).fits .integer) :
    ∃ w, exec m (fillInt32ToInteger graph n g) = m.setGPR g w ∧ denote .integer w = some (graph.valueAt m.memory n) := by
  unfold fillInt32ToInteger
  unfold Graph.valueAt at hv ⊢
  cases hc : graph.constant n with
  | some c =>
    simp only [hc] at hv ⊢
    cases c with
    | int32 i => exact ⟨i.setWidth 64, by simp [Op.exec], by simp [denote, ConstantValue.value]; omega⟩
    | number b => nomatch hv
    | js w =>
      obtain ⟨i, hi⟩ := JSValue.fits_integer hv
      obtain ⟨-, rfl⟩ := JSValue.tag_le_of_decode_int32 hi
      have hdec : JSValue.decode w = .int32 (w.setWidth 32) := hi
      refine ⟨(w.setWidth 32).setWidth 64, by simp [Op.exec, ConstantValue.numberBits], ?_⟩
      simp only [denote, ConstantValue.value, hdec, BitVec.toNat_setWidth,
        BitVec.setWidth_setWidth_of_le _ (by omega : 32 ≤ 64)]
      simp; omega
  | none =>
    simp only [hc] at hv ⊢
    obtain ⟨i, hi⟩ := JSValue.fits_integer hv
    obtain ⟨-, hw⟩ := JSValue.tag_le_of_decode_int32 hi
    refine ⟨low32 (m.memory (.frame (graph.virtualRegister n))), by simp [Op.exec], ?_⟩
    simp [denote, toNat_low32, hi, hw]
    omega

/-- `fillToJS` writes the GPR only, with the node's value in any boxed format it fits. -/
theorem exec_fillToJS (g : GPRReg) {f : DataFormat} (hf : f.isBoxed) (hv : (graph.valueAt m.memory n).fits f) :
    ∃ w, exec m (fillToJS graph n g) = m.setGPR g w ∧ denote f w = some (graph.valueAt m.memory n) := by
  unfold fillToJS
  unfold Graph.valueAt at hv ⊢
  cases hc : graph.constant n with
  | some c =>
    have hvalid := graph.constant_valid n c hc
    simp only [hc] at hv ⊢
    refine ⟨c.encoded, by simp [Op.exec], ?_⟩
    have hdec : JSValue.decode c.encoded = c.value := by
      cases c with
      | int32 i => simp [ConstantValue.encoded, ConstantValue.value]
      | number b => exact JSValue.decode_encode_double hvalid
      | js w => rfl
    simp [denote_boxed hf, hdec, hv]
  | none =>
    simp only [hc] at hv ⊢
    exact ⟨m.memory (.frame (graph.virtualRegister n)), by simp [Op.exec], by simp [denote_boxed hf, hv]⟩

end Fill

section Part3

variable {counts : RegisterCounts} {graph : Graph} {check : SpeculationCheck} {entry : EntryLocation} {m : Machine}

/-- The entry register described by `info` is owed at most the node it holds, and exactly when Part 3's tests pass. -/
theorem owed_iff (hu : UniqueNodes counts check.gprInfo check.fprInfo) {info : RegisterInfo} {n : NodeIndex}
    (hn : info.nodeIndex = some n) (n' : NodeIndex) :
    Owed counts check info n' ↔
      n' = n ∧ (info.isSpilled || !needsFill check ⟨heldNodes counts check.gprInfo check.fprInfo⟩ n) = false := by
  simp only [Owed, hn, Option.some.injEq, Bool.or_eq_false_iff, Bool.not_eq_false', needsFill_iff hu]
  constructor
  · rintro ⟨rfl, hs, hd⟩; exact ⟨rfl, hs, hd⟩
  · rintro ⟨rfl, hs, hd⟩; exact ⟨rfl, hs, hd⟩

/-- One step of the FPR loop of Part 3: nothing, or the owed node's number into the FPR through `regT0`. -/
theorem exec_fillFPR (hu : UniqueNodes counts check.gprInfo check.fprInfo)
    (hm : m.gpr .tagTypeNumberRegister = TagTypeNumber) (i : Nat)
    (hv : ∀ n, Owed counts check (entry.fprInfo i) n → (graph.valueAt m.memory n).fits .double) :
    (exec m (fillFPR graph check entry ⟨heldNodes counts check.gprInfo check.fprInfo⟩ i) = m ∧
        ∀ n, ¬Owed counts check (entry.fprInfo i) n) ∨
      ∃ n w d, Owed counts check (entry.fprInfo i) n ∧
        exec m (fillFPR graph check entry ⟨heldNodes counts check.gprInfo check.fprInfo⟩ i) =
          (m.setGPR regT0 w).setFPR ⟨i⟩ d ∧ Holds .double d (graph.valueAt m.memory n) := by
  cases hn : (entry.fprInfo i).nodeIndex with
  | none => exact .inl ⟨by simp [fillFPR, hn], fun n h => by simp [Owed, hn] at h⟩
  | some n =>
    by_cases hc : ((entry.fprInfo i).isSpilled || !needsFill check ⟨heldNodes counts check.gprInfo check.fprInfo⟩ n) = true
    · exact .inl ⟨by simp [fillFPR, hn, hc], fun n' h => absurd hc (by simp [((owed_iff hu hn n').mp h).2])⟩
    · have hown : Owed counts check (entry.fprInfo i) n := (owed_iff hu hn n).mpr ⟨rfl, by simpa using hc⟩
      have hcode : fillFPR graph check entry ⟨heldNodes counts check.gprInfo check.fprInfo⟩ i =
          fillNumericToDouble graph n ⟨i⟩ regT0 := by simp [fillFPR, hn, hc]
      obtain ⟨w, d, he, hd⟩ :=
        exec_fillNumericToDouble hm (show regT0 ≠ .tagTypeNumberRegister by simp [regT0]) ⟨i⟩ (hv n hown)
      exact .inr ⟨n, w, d, hown, hcode ▸ he, hd⟩

/-- One step of the GPR loop of Part 3: nothing, or the owed node's value into the GPR in its entry format. -/
theorem exec_fillGPR (hu : UniqueNodes counts check.gprInfo check.fprInfo) (i : Nat)
    (hv : ∀ n, Owed counts check (entry.gprInfo i) n →
      (entry.gprInfo i).format ≠ .double ∧ (graph.valueAt m.memory n).fits (entry.gprInfo i).format) :
    (exec m (fillGPR graph check entry ⟨heldNodes counts check.gprInfo check.fprInfo⟩ i) = m ∧
        ∀ n, ¬Owed counts check (entry.gprInfo i) n) ∨
      ∃ n w, Owed counts check (entry.gprInfo i) n ∧
        exec m (fillGPR graph check entry ⟨heldNodes counts check.gprInfo check.fprInfo⟩ i) = m.setGPR (.reg i) w ∧
        denote (entry.gprInfo i).format w = some (graph.valueAt m.memory n) := by
  cases hn : (entry.gprInfo i).nodeIndex with
  | none => exact .inl ⟨by simp [fillGPR, hn], fun n h => by simp [Owed, hn] at h⟩
  | some n =>
    by_cases hc : ((entry.gprInfo i).isSpilled || !needsFill check ⟨heldNodes counts check.gprInfo check.fprInfo⟩ n) = true
    · exact .inl ⟨by simp [fillGPR, hn, hc], fun n' h => absurd hc (by simp [((owed_iff hu hn n').mp h).2])⟩
    · have hown : Owed counts check (entry.gprInfo i) n := (owed_iff hu hn n).mpr ⟨rfl, by simpa using hc⟩
      obtain ⟨hnd, hfit⟩ := hv n hown
      refine .inr ⟨n, ?_⟩
      by_cases hint : (entry.gprInfo i).format = .integer
      · have hcode : fillGPR graph check entry ⟨heldNodes counts check.gprInfo check.fprInfo⟩ i =
            fillInt32ToInteger graph n (.reg i) := by simp [fillGPR, hn, hc, hint]
        obtain ⟨w, he, hd⟩ := exec_fillInt32ToInteger (.reg i) (hint ▸ hfit)
        exact ⟨w, hown, hcode ▸ he, hint ▸ hd⟩
      · have hcode : fillGPR graph check entry ⟨heldNodes counts check.gprInfo check.fprInfo⟩ i =
            fillToJS graph n (.reg i) := by simp [fillGPR, hn, hc, hint]
        obtain ⟨w, he, hd⟩ := exec_fillToJS (.reg i) (by simp [DataFormat.isBoxed, hint, hnd]) hfit
        exact ⟨w, hown, hcode ▸ he, hd⟩

/-- What the FPR loop of Part 3 has done after its first `k` registers, from `m` to `m'`. -/
structure FilledFPRs (counts : RegisterCounts) (graph : Graph) (check : SpeculationCheck) (entry : EntryLocation) (k : Nat)
    (m m' : Machine) : Prop where
  owed : ∀ i < k, ∀ n, Owed counts check (entry.fprInfo i) n → Holds .double (m'.fpr ⟨i⟩) (graph.valueAt m.memory n)
  fpr_eq : ∀ f : FPRReg, (k ≤ f.index ∨ ∀ n, ¬Owed counts check (entry.fprInfo f.index) n) → m'.fpr f = m.fpr f
  gpr_eq : ∀ g, g ≠ regT0 → m'.gpr g = m.gpr g
  regT0_eq : (∀ i < k, ∀ n, ¬Owed counts check (entry.fprInfo i) n) → m'.gpr regT0 = m.gpr regT0
  memory_eq : m'.memory = m.memory

/-- The FPR loop of Part 3 over the first `k` registers. -/
theorem exec_fillFPRs (hu : UniqueNodes counts check.gprInfo check.fprInfo)
    (hm : m.gpr .tagTypeNumberRegister = TagTypeNumber) (k : Nat)
    (hv : ∀ i < k, ∀ n, Owed counts check (entry.fprInfo i) n → (graph.valueAt m.memory n).fits .double) :
    FilledFPRs counts graph check entry k m
      (exec m ((List.range k).flatMap (fillFPR graph check entry ⟨heldNodes counts check.gprInfo check.fprInfo⟩))) := by
  induction k with
  | zero => exact ⟨fun _ h => absurd h (Nat.not_lt_zero _), fun _ _ => rfl, fun _ _ => rfl, fun _ => rfl, rfl⟩
  | succ k ih =>
    obtain ⟨howed, hfpr, hgpr, hT0, hmem⟩ := ih fun i hi => hv i (by omega)
    rw [List.range_succ, List.flatMap_append, exec_append, List.flatMap_singleton]
    generalize exec m _ = mk at howed hfpr hgpr hT0 hmem
    have hmk : mk.gpr .tagTypeNumberRegister = TagTypeNumber := by rw [hgpr _ (by simp [regT0]), hm]
    rcases exec_fillFPR hu hmk k (by rw [hmem]; exact hv k (by omega)) with ⟨he, hno⟩ | ⟨n, w, d, hown, he, hd⟩
    · rw [he]
      refine ⟨fun i hi n' h => ?_, fun f hf => hfpr f (hf.imp (by omega) id), hgpr,
        fun h => hT0 fun i hi => h i (by omega), hmem⟩
      rcases Nat.lt_succ_iff_lt_or_eq.mp hi with hi | rfl
      · exact howed i hi n' h
      · exact absurd h (hno n')
    · rw [he]
      refine ⟨fun i hi n' h => ?_, fun f hf => ?_, fun g hg => by simp [hg, hgpr g hg],
        fun h => absurd hown (h k (Nat.lt_succ_self k) n), by simp [hmem]⟩
      · rcases Nat.lt_succ_iff_lt_or_eq.mp hi with hi | rfl
        · simpa [show (⟨i⟩ : FPRReg) ≠ ⟨k⟩ by simp; omega] using howed i hi n' h
        · obtain ⟨rfl, -⟩ := (owed_iff hu hown.1 n').mp h
          simpa [hmem] using hd
      · have hne : f ≠ ⟨k⟩ := by
          rintro rfl
          rcases hf with hf | hf
          · exact absurd hf (by simp)
          · exact hf n hown
        simpa [hne] using hfpr f (hf.imp (by omega) id)

/-- What the GPR loop of Part 3 has done after its first `k` registers, from `m` to `m'`. -/
structure FilledGPRs (counts : RegisterCounts) (graph : Graph) (check : SpeculationCheck) (entry : EntryLocation) (k : Nat)
    (m m' : Machine) : Prop where
  owed : ∀ i < k, ∀ n, Owed counts check (entry.gprInfo i) n →
    denote (entry.gprInfo i).format (m'.gpr (.reg i)) = some (graph.valueAt m.memory n)
  gpr_eq : ∀ g, (∀ i, g = .reg i → k ≤ i ∨ ∀ n, ¬Owed counts check (entry.gprInfo i) n) → m'.gpr g = m.gpr g
  fpr_eq : m'.fpr = m.fpr
  memory_eq : m'.memory = m.memory

/-- The GPR loop of Part 3 over the first `k` registers. -/
theorem exec_fillGPRs (hu : UniqueNodes counts check.gprInfo check.fprInfo) (k : Nat)
    (hv : ∀ i < k, ∀ n, Owed counts check (entry.gprInfo i) n →
      (entry.gprInfo i).format ≠ .double ∧ (graph.valueAt m.memory n).fits (entry.gprInfo i).format) :
    FilledGPRs counts graph check entry k m
      (exec m ((List.range k).flatMap (fillGPR graph check entry ⟨heldNodes counts check.gprInfo check.fprInfo⟩))) := by
  induction k with
  | zero => exact ⟨fun _ h => absurd h (Nat.not_lt_zero _), fun _ _ => rfl, rfl, rfl⟩
  | succ k ih =>
    obtain ⟨howed, hgpr, hfpr, hmem⟩ := ih fun i hi => hv i (by omega)
    rw [List.range_succ, List.flatMap_append, exec_append, List.flatMap_singleton]
    generalize exec m _ = mk at howed hgpr hfpr hmem
    rcases exec_fillGPR hu k (by rw [hmem]; exact hv k (by omega)) with ⟨he, hno⟩ | ⟨n, w, hown, he, hd⟩
    · rw [he]
      refine ⟨fun i hi n' h => ?_, fun g hg => hgpr g fun i hi => (hg i hi).imp (by omega) id, hfpr, hmem⟩
      rcases Nat.lt_succ_iff_lt_or_eq.mp hi with hi | rfl
      · exact howed i hi n' h
      · exact absurd h (hno n')
    · rw [he]
      refine ⟨fun i hi n' h => ?_, fun g hg => ?_, by simp [hfpr], by simp [hmem]⟩
      · rcases Nat.lt_succ_iff_lt_or_eq.mp hi with hi | rfl
        · simpa [show GPRReg.reg i ≠ .reg k by simp; omega] using howed i hi n' h
        · obtain ⟨rfl, -⟩ := (owed_iff hu hown.1 n').mp h
          simpa [hmem] using hd
      · have hne : g ≠ .reg k := by
          rintro rfl
          rcases hg k rfl with hg | hg
          · omega
          · exact hg n hown
        simpa [hne] using hgpr g fun i hi => (hg i hi).imp (by omega) id

/-- Part 3's code: the FPR fills, the GPR fills, and the restoration of `tagMaskRegister`. -/
theorem afterPart3_code :
    (afterPart3 counts graph check entry).code = (afterPart2 counts graph check entry).code ++
      ((List.range counts.fprs).flatMap
          (fillFPR graph check entry (afterPart2 counts graph check entry).checkNodeToRegisterMap) ++
        (List.range counts.gprs).flatMap
          (fillGPR graph check entry (afterPart2 counts graph check entry).checkNodeToRegisterMap) ++
        if (afterPart2 counts graph check entry).needToRestoreTagMaskRegister then ops [.moveImmPtr TagMask .tagMaskRegister]
        else []) := by
  unfold afterPart3 restoreTagMaskRegister
  cases h : (afterPart2 counts graph check entry).needToRestoreTagMaskRegister <;>
    simp only [h, LinkState.emit_needToRestoreTagMaskRegister, LinkState.emit_checkNodeToRegisterMap,
      LinkState.emit_code, List.append_assoc, List.append_nil, if_true, if_false, Bool.false_eq_true]

/-- What Part 3's code `c` does from any machine whose home slots and constants hold values of the formats the owed
registers wait for: every owed register receives its node's value, every memory word and every other register keeps its
content, `regT0` (GPR 0) included unless some FPR is owed a node. -/
def FillsOwed (counts : RegisterCounts) (graph : Graph) (check : SpeculationCheck) (entry : EntryLocation)
    (c : List Instr) : Prop :=
  ∀ m : Machine, m.gpr .tagTypeNumberRegister = TagTypeNumber →
    (∀ i < counts.fprs, ∀ n, Owed counts check (entry.fprInfo i) n → (graph.valueAt m.memory n).fits .double) →
    (∀ i < counts.gprs, ∀ n, Owed counts check (entry.gprInfo i) n →
      (entry.gprInfo i).format ≠ .double ∧ (graph.valueAt m.memory n).fits (entry.gprInfo i).format) →
    (∀ i < counts.fprs, ∀ n, Owed counts check (entry.fprInfo i) n →
      Holds .double ((exec m c).fpr ⟨i⟩) (graph.valueAt m.memory n)) ∧
    (∀ i < counts.gprs, ∀ n, Owed counts check (entry.gprInfo i) n →
      denote (entry.gprInfo i).format ((exec m c).gpr (.reg i)) = some (graph.valueAt m.memory n)) ∧
    (∀ f : FPRReg, (counts.fprs ≤ f.index ∨ ∀ n, ¬Owed counts check (entry.fprInfo f.index) n) →
      (exec m c).fpr f = m.fpr f) ∧
    (∀ i, (i = 0 → ∀ j < counts.fprs, ∀ n, ¬Owed counts check (entry.fprInfo j) n) →
      (counts.gprs ≤ i ∨ ∀ n, ¬Owed counts check (entry.gprInfo i) n) → (exec m c).gpr (.reg i) = m.gpr (.reg i)) ∧
    (exec m c).memory = m.memory

/-- With each node in at most one check register, Part 3 fills every register it owes a node and changes no other register
and no memory word, except `regT0` when it fills an FPR. -/
theorem afterPart3_fills_owed_registers (hu : UniqueNodes counts check.gprInfo check.fprInfo) :
    ∃ c, (afterPart3 counts graph check entry).code = (afterPart2 counts graph check entry).code ++ c ∧
      FillsOwed counts graph check entry c := by
  refine ⟨_, afterPart3_code, fun m hm hvF hvG => ?_⟩
  rw [show (afterPart2 counts graph check entry).checkNodeToRegisterMap = ⟨heldNodes counts check.gprInfo check.fprInfo⟩
    from congrArg Prod.fst afterPart2_maps]
  simp only [exec_append]
  obtain ⟨hFowed, hFfpr, hFgpr, hFT0, hFmem⟩ := exec_fillFPRs hu hm counts.fprs hvF
  generalize exec m _ = mF at hFowed hFfpr hFgpr hFT0 hFmem
  obtain ⟨hGowed, hGgpr, hGfpr, hGmem⟩ := exec_fillGPRs (m := mF) hu counts.gprs (by rw [hFmem]; exact hvG)
  generalize exec mF _ = mG at hGowed hGgpr hGfpr hGmem
  have hR : ∀ b : Bool, (exec mG (if b then ops [.moveImmPtr TagMask .tagMaskRegister] else [])).fpr = mG.fpr ∧
      (∀ i, (exec mG (if b then ops [.moveImmPtr TagMask .tagMaskRegister] else [])).gpr (.reg i) = mG.gpr (.reg i)) ∧
      (exec mG (if b then ops [.moveImmPtr TagMask .tagMaskRegister] else [])).memory = mG.memory := by
    intro b; cases b <;> simp [Op.exec]
  obtain ⟨hRfpr, hRgpr, hRmem⟩ := hR (afterPart2 counts graph check entry).needToRestoreTagMaskRegister
  refine ⟨fun i hi n h => ?_, fun i hi n h => ?_, fun f hf => ?_, fun i hi0 hi => ?_, by rw [hRmem, hGmem, hFmem]⟩
  · rw [hRfpr, hGfpr]; exact hFowed i hi n h
  · rw [hRgpr, ← hFmem]; exact hGowed i hi n h
  · rw [hRfpr, hGfpr]; exact hFfpr f hf
  · rw [hRgpr, hGgpr _ (fun i' h' => by cases h'; exact hi)]
    by_cases h0 : i = 0
    · subst h0
      exact hFT0 (hi0 rfl)
    · exact hFgpr _ (by simp [regT0, h0])

end Part3

/-- Part 3 at an entry owing a JS node to GPR 1 and a double to FPR 0, with an empty check. -/
theorem afterPart3_fills_owed_registers_of_empty_check :
    UniqueNodes ⟨2, 1, by decide, by decide⟩ (fun _ => .noNode) (fun _ => .noNode) ∧
    ∃ c, (afterPart3 ⟨2, 1, by decide, by decide⟩ ⟨fun n => n, fun _ => none, by simp⟩
        ⟨0, fun _ => .noNode, fun _ => .noNode⟩
        ⟨0, fun i => if i = 1 then ⟨some 10, .js, false⟩ else .noNode,
          fun i => if i = 0 then ⟨some 11, .double, false⟩ else .noNode⟩).code =
      (afterPart2 ⟨2, 1, by decide, by decide⟩ ⟨fun n => n, fun _ => none, by simp⟩
        ⟨0, fun _ => .noNode, fun _ => .noNode⟩
        ⟨0, fun i => if i = 1 then ⟨some 10, .js, false⟩ else .noNode,
          fun i => if i = 0 then ⟨some 11, .double, false⟩ else .noNode⟩).code ++ c ∧
      FillsOwed ⟨2, 1, by decide, by decide⟩ ⟨fun n => n, fun _ => none, by simp⟩ ⟨0, fun _ => .noNode, fun _ => .noNode⟩
        ⟨0, fun i => if i = 1 then ⟨some 10, .js, false⟩ else .noNode,
          fun i => if i = 0 then ⟨some 11, .double, false⟩ else .noNode⟩ c :=
  ⟨by decide, afterPart3_fills_owed_registers (by decide)⟩

/-- GPR 1 holds node 10 at the check, unspilled, as the int32 5; the entry wants node 10 in GPR 0, which is `regT0`, and
node 11, a double in its home slot, in FPR 0. Part 2 moves node 10 into `regT0`; Part 3 then fills FPR 0 through `regT0`,
which ends holding the unboxed bits of 1.5, and does not refill it. -/
theorem part3_fill_overwrites_delivered_regT0 :
    denote .js ((exec (Machine.atExit (fun i => if i = 1 then 0xFFFF000000000005#64 else 0#64) (fun _ => 0#64)
        (fun a => if a = .frame 11 then 0x3FF9000000000000#64 else 0#64))
      (afterPart2 ⟨2, 1, by decide, by decide⟩ ⟨fun n => n, fun _ => none, by simp⟩
        ⟨0, fun i => if i = 1 then ⟨some 10, .js, false⟩ else .noNode, fun _ => .noNode⟩
        ⟨0, fun i => if i = 0 then ⟨some 10, .js, false⟩ else .noNode,
          fun i => if i = 0 then ⟨some 11, .double, false⟩ else .noNode⟩).code).gpr regT0) = some (.int32 5) ∧
    (exec (Machine.atExit (fun i => if i = 1 then 0xFFFF000000000005#64 else 0#64) (fun _ => 0#64)
        (fun a => if a = .frame 11 then 0x3FF9000000000000#64 else 0#64))
      (jumpFromSpeculativeToNonSpeculative ⟨2, 1, by decide, by decide⟩ ⟨fun n => n, fun _ => none, by simp⟩
        ⟨0, fun i => if i = 1 then ⟨some 10, .js, false⟩ else .noNode, fun _ => .noNode⟩
        ⟨0, fun i => if i = 0 then ⟨some 10, .js, false⟩ else .noNode,
          fun i => if i = 0 then ⟨some 11, .double, false⟩ else .noNode⟩ none)).gpr regT0 = 0x3FF8000000000000#64 ∧
    denote .js ((exec (Machine.atExit (fun i => if i = 1 then 0xFFFF000000000005#64 else 0#64) (fun _ => 0#64)
        (fun a => if a = .frame 11 then 0x3FF9000000000000#64 else 0#64))
      (jumpFromSpeculativeToNonSpeculative ⟨2, 1, by decide, by decide⟩ ⟨fun n => n, fun _ => none, by simp⟩
        ⟨0, fun i => if i = 1 then ⟨some 10, .js, false⟩ else .noNode, fun _ => .noNode⟩
        ⟨0, fun i => if i = 0 then ⟨some 10, .js, false⟩ else .noNode,
          fun i => if i = 0 then ⟨some 11, .double, false⟩ else .noNode⟩ none)).gpr regT0) ≠ some (.int32 5) := by
  decide

end JavaScriptCore
