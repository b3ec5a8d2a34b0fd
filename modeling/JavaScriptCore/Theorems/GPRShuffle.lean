import JavaScriptCore.Theorems.Walks
import JavaScriptCore.Theorems.Moves

/-!
# Part 2 between GPRs: each handler is a parallel move

Between GPRs, `moveTo`, `swapWith` and `convert` are exact (`Theorems/Moves.lean`), so what the two handlers of Part 2 do is
decided by the order of their moves. Walked from its tail, a chain reads every register before it writes it
(`handleNonCyclingPermutation_walk`); a cycle saves its start in `scratchGPR`, rotates the rest as a chain and writes the
saved value last (`handleCyclingPermutation_cycle`). Either way every register of the walk ends holding `moveTarget`: its
`previous`'s word before the shuffle, converted from the check's format to the entry's.
-/

namespace JavaScriptCore

section Targets

variable (check : SpeculationCheck) (entry : EntryLocation) (prev : GeneralizedRegister → Option GeneralizedRegister)

/-- The word a GPR receives from Part 2: its `previous`'s word converted from that register's check format to its own entry
format, or its own word if it has no `previous`. -/
def moveTarget (m : Machine) (g : GPRReg) : Word :=
  match prev (.gpr g) with
  | some (.gpr p) =>
    gprConversion ((GeneralizedRegister.gpr p).previousDataFormat check) ((GeneralizedRegister.gpr g).nextDataFormat entry)
      (m.gpr p)
  | _ => m.gpr g

/-- From `m` to `m'`, the GPRs of `l` receive their targets and nothing else changes. -/
def MovesAlong (l : List GeneralizedRegister) (m m' : Machine) : Prop :=
  (∀ g, m'.gpr g = if .gpr g ∈ l then moveTarget check entry prev m g else m.gpr g) ∧ m'.fpr = m.fpr ∧
    m'.memory = m.memory

end Targets

variable {check : SpeculationCheck} {entry : EntryLocation} {prev : GeneralizedRegister → Option GeneralizedRegister}

/-- Writing a register that `g` does not read leaves `g`'s target alone. -/
theorem moveTarget_setGPR {m : Machine} {c g : GPRReg} {w : Word} (hcg : c ≠ g)
    (hread : ∀ p, prev (.gpr g) = some (.gpr p) → p ≠ c) :
    moveTarget check entry prev (m.setGPR c w) g = moveTarget check entry prev m g := by
  unfold moveTarget
  split
  · rename_i p hp
    simp [hread p hp]
  · simp [Ne.symm hcg]

/-- The target of a register reached by `previous` from a register that is moved to it. -/
theorem moveTarget_of_prev {m : Machine} {g p : GPRReg} (hp : prev (.gpr g) = some (.gpr p)) :
    moveTarget check entry prev m g =
      gprConversion ((GeneralizedRegister.gpr p).previousDataFormat check)
        ((GeneralizedRegister.gpr g).nextDataFormat entry) (m.gpr p) := by
  simp [moveTarget, hp]

/-- A register with no `previous` keeps its word. -/
theorem moveTarget_of_none {m : Machine} {g : GPRReg} (hp : prev (.gpr g) = none) :
    moveTarget check entry prev m g = m.gpr g := by
  simp [moveTarget, hp]

/-- A target depends only on the registers it reads. -/
theorem moveTarget_congr {m m' : Machine} {g : GPRReg} (hread : ∀ p, prev (.gpr g) = some (.gpr p) → m'.gpr p = m.gpr p)
    (hself : (∀ p, prev (.gpr g) ≠ some (.gpr p)) → m'.gpr g = m.gpr g) :
    moveTarget check entry prev m' g = moveTarget check entry prev m g := by
  unfold moveTarget
  split
  · rename_i p hp
    rw [hread p hp]
  · rename_i hp
    exact hself hp

/-- One move and then the rest of a walk: a register that first receives its target, and that no later register of the
walk reads, joins the registers moved. -/
theorem MovesAlong.cons {m m' : Machine} {i : Nat} {l : List GeneralizedRegister} (hil : .gpr (.reg i) ∉ l)
    (hread : ∀ g, .gpr g ∈ l → prev (.gpr g) ≠ some (.gpr (.reg i)))
    (h : MovesAlong check entry prev l (m.setGPR (.reg i) (moveTarget check entry prev m (.reg i))) m') :
    MovesAlong check entry prev (.gpr (.reg i) :: l) m m' := by
  obtain ⟨hgpr, hfpr, hmem⟩ := h
  refine ⟨fun g => ?_, by rw [hfpr]; rfl, by rw [hmem]; rfl⟩
  rw [hgpr]
  by_cases hgi : g = .reg i
  · subst hgi; simp [hil]
  · have hne : GeneralizedRegister.gpr g ≠ .gpr (.reg i) := by simpa using hgi
    by_cases hgl : GeneralizedRegister.gpr g ∈ l
    · rw [if_pos hgl, if_pos (List.mem_cons_of_mem _ hgl)]
      exact moveTarget_setGPR (Ne.symm hgi) fun q hq hqi => hread g hgl (hqi ▸ hq)
    · simp [hgl, hne, hgi]

/-- Marking registers handled keeps every `previous`. -/
@[simp] theorem previous_ite_handled (p : Prop) [Decidable p] (x : ShuffledRegister) :
    (if p then { x with handled := true } else x).previous = x.previous := by
  split <;> rfl

/-- `markHandled` keeps every `previous`. -/
theorem markHandled_previous (st : LinkState) (r s : GeneralizedRegister) :
    ((st.markHandled r).shuffled s).previous = (st.shuffled s).previous := by
  by_cases h : s = r
  · subst h; simp
  · simp [h]

/-- Marking `r` handled and then the walk `l` marks the walk `r :: l`. -/
theorem markHandled_then_walk (sh : GeneralizedRegister → ShuffledRegister) (r s : GeneralizedRegister)
    (l : List GeneralizedRegister) :
    (if s ∈ l then { (if s = r then { sh r with handled := true } else sh s) with handled := true }
      else if s = r then { sh r with handled := true } else sh s) =
    if s ∈ r :: l then { sh s with handled := true } else sh s := by
  by_cases h1 : s = r
  · subst h1; by_cases h2 : s ∈ l <;> simp [h2]
  · by_cases h2 : s ∈ l <;> simp [h1, h2]

/-- Walked from a register whose walk stops, `handleNonCyclingPermutation` marks every register of the walk handled and, when
they are distinct GPRs, moves each its target. -/
theorem handleNonCyclingPermutation_walk {st : LinkState} (hprev : ∀ r, (st.shuffled r).previous = prev r)
    {cur x : GeneralizedRegister} {l : List GeneralizedRegister} (hw : Walk prev cur l x) (hx : prev x = none)
    {fuel : Nat} (hfuel : l.length ≤ fuel) :
    (∀ r, (handleNonCyclingPermutation check entry fuel cur st).shuffled r =
      if r ∈ l then { st.shuffled r with handled := true } else st.shuffled r) ∧
    ∃ c, (handleNonCyclingPermutation check entry fuel cur st).code = st.code ++ c ∧
      ((∀ y ∈ l, ∃ i, y = .gpr (.reg i)) → l.Nodup →
        ∀ m : Machine, m.gpr .tagTypeNumberRegister = TagTypeNumber → MovesAlong check entry prev l m (exec m c)) := by
  induction hw generalizing st fuel with
  | single r =>
    obtain ⟨fuel, rfl⟩ : ∃ f, fuel = f + 1 := ⟨fuel - 1, by simp at hfuel; omega⟩
    simp only [handleNonCyclingPermutation, (hprev r).trans hx, LinkState.recordScratchFPR_shuffled,
      LinkState.markHandled_shuffled, LinkState.recordScratchFPR_code, LinkState.markHandled_code]
    refine ⟨fun s => by by_cases h : s = r <;> simp [h, (hprev r).trans hx], [], by simp,
      fun hg _ m _ => ⟨fun g => ?_, rfl, rfl⟩⟩
    split
    · rename_i hgr
      rw [List.mem_singleton] at hgr
      rw [moveTarget_of_none (hgr ▸ hx), exec_nil]
    · rfl
  | @cons r p l x' hp hw' ih =>
    obtain ⟨fuel, rfl⟩ : ∃ f, fuel = f + 1 := ⟨fuel - 1, by simp at hfuel; omega⟩
    simp only [handleNonCyclingPermutation, (hprev r).trans hp]
    generalize hst1 :
      ((st.emit (p.moveTo r (p.previousDataFormat check) (r.nextDataFormat entry) st.scratchFPR1)).markHandled
        r).recordScratchFPR r = st1
    have hsh1 : ∀ s, st1.shuffled s = if s = r then { st.shuffled r with handled := true } else st.shuffled s := by
      intro s; rw [← hst1]; simp
    have hprev1 : ∀ s, (st1.shuffled s).previous = prev s := fun s => by
      rw [← hst1, LinkState.recordScratchFPR_shuffled, markHandled_previous, LinkState.emit_shuffled, hprev]
    have hc1 : st1.code = st.code ++ p.moveTo r (p.previousDataFormat check) (r.nextDataFormat entry) st.scratchFPR1 := by
      rw [← hst1]; simp
    obtain ⟨hsh, c', hc', hsem⟩ := ih hprev1 hx (by simpa using hfuel)
    refine ⟨fun s => ?_, _, by rw [hc', hc1, List.append_assoc], fun hg hnd m hm => ?_⟩
    · rw [hsh, hsh1, markHandled_then_walk]
    obtain ⟨i, rfl⟩ := hg _ (List.mem_cons_self _ _)
    obtain ⟨j, rfl⟩ := hg _ (List.mem_cons_of_mem _ hw'.head_mem)
    have hrl : GeneralizedRegister.gpr (.reg i) ∉ l := (List.nodup_cons.mp hnd).1
    rw [exec_append, GeneralizedRegister.exec_moveTo_gpr_gpr hm, ← moveTarget_of_prev hp]
    refine MovesAlong.cons hrl (fun g hgl hq => hrl ?_) (hsem (fun y hy => hg y (List.mem_cons_of_mem _ hy))
      (List.nodup_cons.mp hnd).2 _ (by simp [hm]))
    by_cases hgx : GeneralizedRegister.gpr g = x'
    · rw [hgx, hx] at hq; cases hq
    · exact hw'.prev_mem hgl hgx hq

/-- The walk that opens `handleCyclingPermutation`, from a register whose walk comes back to `start`: it marks the walk
handled and returns its length and its last register. -/
theorem cycleWalk_walk {st : LinkState} (hprev : ∀ r, (st.shuffled r).previous = prev r) {start cur x : GeneralizedRegister}
    {l : List GeneralizedRegister} (hw : Walk prev cur l x) (hx : prev x = some start) (hs : start ∉ l.tail) {fuel : Nat}
    (hfuel : l.length ≤ fuel) :
    (cycleWalk start fuel cur st).1 = l.length ∧ (cycleWalk start fuel cur st).2.1 = x ∧
      (∀ r, (cycleWalk start fuel cur st).2.2.shuffled r =
        if r ∈ l then { st.shuffled r with handled := true } else st.shuffled r) ∧
      (cycleWalk start fuel cur st).2.2.code = st.code := by
  induction hw generalizing st fuel with
  | single r =>
    obtain ⟨fuel, rfl⟩ : ∃ f, fuel = f + 1 := ⟨fuel - 1, by simp at hfuel; omega⟩
    have h0 : ((st.markHandled r).shuffled r).previous = some start := by simp [hprev, hx]
    simp only [cycleWalk, h0, if_true]
    refine ⟨by simp, by simp, fun s => by by_cases h : s = r <;> simp [h, hprev, hx], by simp⟩
  | @cons r p l x' hp hw' ih =>
    obtain ⟨fuel, rfl⟩ : ∃ f, fuel = f + 1 := ⟨fuel - 1, by simp at hfuel; omega⟩
    have hps : p ≠ start := fun h => hs (h ▸ hw'.head_mem)
    have hprev1 : ∀ s, ((st.markHandled r).shuffled s).previous = prev s := fun s => by
      rw [markHandled_previous, hprev]
    obtain ⟨h1, h2, h3, h4⟩ := ih hprev1 hx (fun h => hs (List.mem_of_mem_tail h)) (by simpa using hfuel)
    have h0 : ((st.markHandled r).shuffled r).previous = some p := by simp [hprev, hp]
    simp only [cycleWalk, h0, if_neg hps]
    refine ⟨by simp [h1], h2, fun s => ?_, by simp [h4]⟩
    rw [h3, LinkState.markHandled_shuffled, markHandled_then_walk]

/-- The rotation of a cycle of three or more, from a register whose walk comes back to `start`: every register of the walk
but the last receives its target. -/
theorem rotateCycle_walk {shuffled : GeneralizedRegister → ShuffledRegister} (hprev : ∀ r, (shuffled r).previous = prev r)
    {start cur x : GeneralizedRegister} {l : List GeneralizedRegister} (hw : Walk prev cur l x) (hx : prev x = some start)
    (hs : start ∉ l.tail) {fuel : Nat} (hfuel : l.length ≤ fuel) (hg : ∀ y ∈ l, ∃ i, y = .gpr (.reg i)) (hnd : l.Nodup)
    (s : Option FPRReg) {m : Machine} (hm : m.gpr .tagTypeNumberRegister = TagTypeNumber) :
    MovesAlong check entry prev l.dropLast m (exec m (rotateCycle check entry shuffled start s fuel cur)) := by
  induction hw generalizing fuel m with
  | single r =>
    obtain ⟨fuel, rfl⟩ : ∃ f, fuel = f + 1 := ⟨fuel - 1, by simp at hfuel; omega⟩
    simp only [rotateCycle, hprev, hx, if_true, exec_nil]
    exact ⟨fun g => by simp, rfl, rfl⟩
  | @cons r p l x' hp hw' ih =>
    obtain ⟨fuel, rfl⟩ : ∃ f, fuel = f + 1 := ⟨fuel - 1, by simp at hfuel; omega⟩
    have hps : p ≠ start := fun h => hs (h ▸ hw'.head_mem)
    simp only [rotateCycle, hprev, hp, if_neg hps]
    obtain ⟨i, rfl⟩ := hg _ (List.mem_cons_self _ _)
    obtain ⟨j, rfl⟩ := hg _ (List.mem_cons_of_mem _ hw'.head_mem)
    have hrl : GeneralizedRegister.gpr (.reg i) ∉ l := (List.nodup_cons.mp hnd).1
    rw [exec_append, GeneralizedRegister.exec_moveTo_gpr_gpr hm, ← moveTarget_of_prev hp,
      List.dropLast_cons_of_ne_nil hw'.ne_nil]
    refine MovesAlong.cons (fun h => hrl (List.mem_of_mem_dropLast h)) (fun g hgl hq => hrl ?_)
      (ih hx (fun h => hs (List.mem_of_mem_tail h)) (by simpa using hfuel) (fun y hy => hg y (List.mem_cons_of_mem _ hy))
        (List.nodup_cons.mp hnd).2 (by simp [hm]))
    obtain ⟨y, hy, hgy⟩ := hw'.prev_of_mem_dropLast hgl
    exact Option.some.inj (hq.symm.trans hgy) ▸ List.mem_of_mem_tail hy

/-- `handleCyclingPermutation` on a cycle of distinct GPRs whose formats are not `Double`, with `scratchGPR` off the cycle:
it marks the cycle handled, every register of the cycle receives its target, and only `scratchGPR` else changes. -/
theorem handleCyclingPermutation_cycle {st : LinkState} (hprev : ∀ r, (st.shuffled r).previous = prev r)
    {this x : GeneralizedRegister} {l : List GeneralizedRegister} (hw : Walk prev this l x) (hx : prev x = some this)
    (hnd : l.Nodup) {fuel : Nat} (hfuel : l.length ≤ fuel) (hg : ∀ y ∈ l, ∃ i, y = .gpr (.reg i))
    (hfmt : ∀ y ∈ l, y.previousDataFormat check ≠ .double ∧ y.nextDataFormat entry ≠ .double)
    {sc : GPRReg} (hsl : .gpr sc ∉ l) (hst : sc ≠ .tagTypeNumberRegister) (s₁ s₂ : Option FPRReg) :
    (∀ r, (handleCyclingPermutation check entry fuel this sc s₁ s₂ st).shuffled r =
      if r ∈ l then { st.shuffled r with handled := true } else st.shuffled r) ∧
    ∃ c, (handleCyclingPermutation check entry fuel this sc s₁ s₂ st).code = st.code ++ c ∧
      ∀ m : Machine, m.gpr .tagTypeNumberRegister = TagTypeNumber →
        (∀ g, g ≠ sc → (exec m c).gpr g = if .gpr g ∈ l then moveTarget check entry prev m g else m.gpr g) ∧
        (exec m c).fpr = m.fpr ∧ (exec m c).memory = m.memory := by
  have hs : this ∉ l.tail := hw.head_not_mem_tail hnd
  obtain ⟨h1, h2, h3, h4⟩ := cycleWalk_walk hprev hw hx hs hfuel
  have hprev1 : ∀ r, ((cycleWalk this fuel this st).2.2.shuffled r).previous = prev r := fun r => by
    rw [h3, previous_ite_handled, hprev]
  unfold handleCyclingPermutation
  generalize cycleWalk this fuel this st = w at h1 h2 h3 h4 hprev1
  obtain ⟨len, next, st1⟩ := w
  dsimp only at h1 h2 h3 h4 hprev1 ⊢
  subst h1 h2
  obtain ⟨i, rfl⟩ := hg this hw.head_mem
  rcases hw with _ | ⟨hp, hw₁⟩
  · -- a self-loop: a conversion in place
    simp only [List.length_singleton]
    refine ⟨fun r => by simp [h3], _, by rw [LinkState.emit_code, h4], fun m hm => ?_⟩
    rw [GeneralizedRegister.exec_convert_gpr hm, ← moveTarget_of_prev hx]
    exact ⟨fun g _ => by by_cases h : g = .reg i <;> simp [h], rfl, rfl⟩
  obtain ⟨j, rfl⟩ := hg _ (List.mem_cons_of_mem _ hw₁.head_mem)
  have hij : GPRReg.reg i ≠ .reg j := fun h => (List.nodup_cons.mp hnd).1 (by rw [h]; exact hw₁.head_mem)
  rcases hw₁ with _ | ⟨hp', hw₂⟩
  · -- a 2-cycle: a swap
    simp only [List.length_cons, List.length_nil, Nat.reduceAdd, (hprev1 _).trans hp]
    refine ⟨fun r => by simp [h3], _, by rw [LinkState.emit_code, h4], fun m hm => ?_⟩
    obtain ⟨hi₁, hi₂⟩ := hfmt _ (List.mem_cons_self _ _)
    obtain ⟨hj₁, hj₂⟩ := hfmt _ (List.mem_cons_of_mem _ (List.mem_cons_self _ _))
    rw [GeneralizedRegister.exec_swapWith_gpr_gpr hm hij (by simp) (by simp) hi₁ hi₂ hj₁ hj₂, ← moveTarget_of_prev hp,
      ← moveTarget_of_prev hx]
    refine ⟨fun g _ => ?_, rfl, rfl⟩
    by_cases hgi : g = .reg i
    · subst hgi; simp [hij]
    · by_cases hgj : g = .reg j
      · subst hgj; simp
      · simp [hgi, hgj]
  · -- a longer cycle: save the start in scratchGPR, rotate, restore into the last register
    rename_i q l₂
    have hw : Walk prev (.gpr (.reg i)) _ next := .cons hp (.cons hp' hw₂)
    obtain ⟨k, rfl⟩ := hg next hw.last_mem
    have hlen := List.length_pos.mpr hw₂.ne_nil
    simp only [List.length_cons]
    split
    · omega
    · omega
    · omega
    simp only [GeneralizedRegister.isFPR, Bool.false_and, Bool.false_eq_true, if_false]
    refine ⟨fun r => by simp [h3], _, by rw [LinkState.emit_code, h4], fun m hm => ?_⟩
    rw [exec_append, exec_append, GeneralizedRegister.exec_moveTo_gpr_gpr hm, ← moveTarget_of_prev hx]
    obtain ⟨hr, hrf, hrm⟩ := rotateCycle_walk hprev1 hw hx hs hfuel hg hnd s₁
      (m := m.setGPR sc (moveTarget check entry prev m (.reg k))) (by simp [hm, Ne.symm hst])
    have htag : GeneralizedRegister.gpr .tagTypeNumberRegister ∉
        (GeneralizedRegister.gpr (.reg i) :: .gpr (.reg j) :: l₂).dropLast := fun h => by
      obtain ⟨_, h'⟩ := hg _ (List.mem_of_mem_dropLast h); cases h'
    rw [GeneralizedRegister.exec_moveTo_gpr_gpr (by rw [hr, if_neg htag]; simp [hm, Ne.symm hst]), gprConversion_self]
    have hscl : GeneralizedRegister.gpr sc ∉ (GeneralizedRegister.gpr (.reg i) :: .gpr (.reg j) :: l₂).dropLast :=
      fun h => hsl (List.mem_of_mem_dropLast h)
    refine ⟨fun g hgs => ?_, by rw [Machine.setGPR_fpr, hrf]; rfl, by rw [Machine.setGPR_memory, hrm]; rfl⟩
    simp only [Machine.setGPR_gpr, hr, hscl, if_false, if_true]
    by_cases hgk : g = .reg k
    · subst hgk; simp [hw.last_mem]
    by_cases hgd : GeneralizedRegister.gpr g ∈ (GeneralizedRegister.gpr (.reg i) :: .gpr (.reg j) :: l₂).dropLast
    · rw [if_neg hgk, if_pos hgd, if_pos (List.mem_of_mem_dropLast hgd)]
      refine moveTarget_setGPR (Ne.symm hgs) fun q hq hqs => hsl (hqs ▸ ?_)
      obtain ⟨y, hy, hgy⟩ := hw.prev_of_mem_dropLast hgd
      exact Option.some.inj (hq.symm.trans hgy) ▸ List.mem_of_mem_tail hy
    · have hgl : GeneralizedRegister.gpr g ∉ (GeneralizedRegister.gpr (.reg i) :: .gpr (.reg j) :: l₂) := by
        rw [hw.eq_dropLast_append]; simpa [hgk] using hgd
      rw [if_neg hgk, if_neg hgd, if_neg hgl, if_neg hgs]

end JavaScriptCore
