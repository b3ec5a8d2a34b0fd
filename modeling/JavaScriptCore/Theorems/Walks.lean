import JavaScriptCore.DFG.ShuffledRegister
import Mathlib.Data.List.Nodup
import Mathlib.Data.List.Perm.Subperm

/-!
# Walks along `previous`

After Part 1, `previous` links each entry register to the check register holding the same node. With each node named once on
each side, the links form disjoint chains and cycles: following `previous` from a register either stops at a register with no
`previous` (the head of a chain) or comes back to the register itself (a cycle), within as many steps as there are registers
(`Walk.orbit`). This is what lets the fixed fuel of the walks in `handleNonCyclingPermutation` and `handleCyclingPermutation`
suffice. A walk that stops is the only one from its register (`Walk.chain_unique`) and never repeats a register
(`Walk.nodup_of_chain`).
-/

namespace JavaScriptCore

/-- `l` lists the registers met following `prev` from `r` up to `x`. -/
inductive Walk (prev : GeneralizedRegister → Option GeneralizedRegister) :
    GeneralizedRegister → List GeneralizedRegister → GeneralizedRegister → Prop
  | single (r : GeneralizedRegister) : Walk prev r [r] r
  | cons {r p : GeneralizedRegister} {l : List GeneralizedRegister} {x : GeneralizedRegister} :
      prev r = some p → Walk prev p l x → Walk prev r (r :: l) x

/-- `r` is met following `previous` from `c`. -/
def Reaches (prev : GeneralizedRegister → Option GeneralizedRegister) (c r : GeneralizedRegister) : Prop :=
  ∃ l, Walk prev c l r

/-- Following `previous` from `r` comes back to it: `r` lies on a cycle. -/
def OnCycle (prev : GeneralizedRegister → Option GeneralizedRegister) (r : GeneralizedRegister) : Prop :=
  ∃ l x, Walk prev r l x ∧ prev x = some r

namespace Walk

variable {prev : GeneralizedRegister → Option GeneralizedRegister}

theorem head_mem {r x : GeneralizedRegister} {l : List GeneralizedRegister} (h : Walk prev r l x) : r ∈ l := by
  cases h <;> simp

theorem last_mem {r x : GeneralizedRegister} {l : List GeneralizedRegister} (h : Walk prev r l x) : x ∈ l := by
  induction h with
  | single => simp
  | cons _ _ ih => exact List.mem_cons_of_mem _ ih

theorem ne_nil {r x : GeneralizedRegister} {l : List GeneralizedRegister} (h : Walk prev r l x) : l ≠ [] :=
  List.ne_nil_of_mem h.head_mem

/-- A walk extends by the `previous` of its last register. -/
theorem snoc {r x y : GeneralizedRegister} {l : List GeneralizedRegister} (h : Walk prev r l x) (hy : prev x = some y) :
    Walk prev r (l ++ [y]) y := by
  induction h with
  | single r => exact .cons hy (.single y)
  | cons hp _ ih => exact .cons hp (ih hy)

/-- Every register of a walk but the last has its `previous` on the walk, after it. -/
theorem prev_of_mem_dropLast {r x g : GeneralizedRegister} {l : List GeneralizedRegister} (h : Walk prev r l x)
    (hg : g ∈ l.dropLast) : ∃ y ∈ l.tail, prev g = some y := by
  induction h with
  | single => simp at hg
  | cons hp hw ih =>
    rw [List.dropLast_cons_of_ne_nil hw.ne_nil, List.mem_cons] at hg
    rcases hg with rfl | hg
    · exact ⟨_, hw.head_mem, hp⟩
    · obtain ⟨y, hy, hgy⟩ := ih hg
      exact ⟨y, List.mem_of_mem_tail hy, hgy⟩

/-- Every register of a walk but the first is the `previous` of one before it. -/
theorem prev_eq_of_mem_tail {r x y : GeneralizedRegister} {l : List GeneralizedRegister} (h : Walk prev r l x)
    (hy : y ∈ l.tail) : ∃ g ∈ l.dropLast, prev g = some y := by
  induction h with
  | single => simp at hy
  | cons hp hw ih =>
    rw [List.tail_cons] at hy
    rw [List.dropLast_cons_of_ne_nil hw.ne_nil]
    cases hw with
    | single => simp only [List.mem_singleton] at hy; subst hy; exact ⟨_, List.mem_cons_self _ _, hp⟩
    | cons hp' hw' =>
      rcases List.mem_cons.mp hy with rfl | hy
      · exact ⟨_, List.mem_cons_self _ _, hp⟩
      · obtain ⟨g, hg, hgy⟩ := ih hy
        exact ⟨g, List.mem_cons_of_mem _ hg, hgy⟩

/-- The suffix of a walk from any of its registers is a walk to the same end. -/
theorem suffix_of_mem {r x y : GeneralizedRegister} {l : List GeneralizedRegister} (h : Walk prev r l x) (hy : y ∈ l) :
    ∃ l', Walk prev y l' x ∧ l' <:+ l := by
  induction h with
  | single r => exact ⟨[r], by simp_all [Walk.single], List.suffix_refl _⟩
  | cons hp hw ih =>
    rcases List.mem_cons.mp hy with rfl | hy
    · exact ⟨_, .cons hp hw, List.suffix_refl _⟩
    · obtain ⟨l', hw', hs⟩ := ih hy
      exact ⟨l', hw', hs.trans (List.suffix_cons _ _)⟩

/-- A walk that stops at a register with no `previous` is the only such walk from its first register. -/
theorem chain_unique {r x x' : GeneralizedRegister} {l l' : List GeneralizedRegister} (h : Walk prev r l x)
    (hx : prev x = none) (h' : Walk prev r l' x') (hx' : prev x' = none) : l = l' := by
  induction h generalizing l' with
  | single r =>
    cases h' with
    | single => rfl
    | cons hp _ => simp_all
  | cons hp hw ih =>
    cases h' with
    | single => simp_all
    | cons hp' hw' =>
      obtain rfl := Option.some.inj (hp.symm.trans hp')
      rw [ih hx hw']

/-- A walk that stops never repeats a register. -/
theorem nodup_of_chain {r x : GeneralizedRegister} {l : List GeneralizedRegister} (h : Walk prev r l x)
    (hx : prev x = none) : l.Nodup := by
  induction h with
  | single => simp
  | @cons r p l x hp hw ih =>
    refine List.nodup_cons.mpr ⟨fun hr => ?_, ih hx⟩
    obtain ⟨l', hw', hs⟩ := hw.suffix_of_mem hr
    have := chain_unique (.cons hp hw) hx hw' hx
    have hlen := hs.length_le
    rw [← this, List.length_cons] at hlen
    omega

/-- The last register of a walk ends its list. -/
theorem eq_dropLast_append {r x : GeneralizedRegister} {l : List GeneralizedRegister} (h : Walk prev r l x) :
    l = l.dropLast ++ [x] := by
  induction h with
  | single => rfl
  | cons _ hw ih => rw [List.dropLast_cons_of_ne_nil hw.ne_nil, List.cons_append, ← ih]

theorem last_not_mem_dropLast {r x : GeneralizedRegister} {l : List GeneralizedRegister} (h : Walk prev r l x)
    (hl : l.Nodup) : x ∉ l.dropLast := by
  rw [h.eq_dropLast_append, List.nodup_append] at hl
  exact fun hx => hl.2.2 hx (List.mem_singleton_self x)

/-- A register of a walk other than its last is in all but its last. -/
theorem mem_dropLast_of_ne {r x y : GeneralizedRegister} {l : List GeneralizedRegister} (h : Walk prev r l x)
    (hy : y ∈ l) (hne : y ≠ x) : y ∈ l.dropLast := by
  rw [h.eq_dropLast_append] at hy
  simpa [hne] using hy

/-- A register of a walk other than its first is in its tail. -/
theorem mem_tail_of_ne {r x y : GeneralizedRegister} {l : List GeneralizedRegister} (h : Walk prev r l x) (hy : y ∈ l)
    (hne : y ≠ r) : y ∈ l.tail := by
  cases h with
  | single => exact absurd (List.mem_singleton.mp hy) hne
  | cons => exact (List.mem_cons.mp hy).resolve_left hne

/-- On a walk, a register other than the last has its `previous` on the walk. -/
theorem prev_mem {r x z y : GeneralizedRegister} {l : List GeneralizedRegister} (h : Walk prev r l x) (hz : z ∈ l)
    (hzx : z ≠ x) (hy : prev z = some y) : y ∈ l := by
  obtain ⟨y', hy', hzy⟩ := h.prev_of_mem_dropLast (h.mem_dropLast_of_ne hz hzx)
  exact Option.some.inj (hy.symm.trans hzy) ▸ List.mem_of_mem_tail hy'

/-- On a cycle, every register has a `previous`. -/
theorem prev_isSome_of_cycle {r x y : GeneralizedRegister} {l : List GeneralizedRegister} (h : Walk prev r l x)
    (hx : prev x = some r) (hy : y ∈ l) : ∃ p, prev y = some p := by
  by_cases hyx : y = x
  · exact ⟨r, hyx ▸ hx⟩
  · obtain ⟨p, -, hp⟩ := h.prev_of_mem_dropLast (h.mem_dropLast_of_ne hy hyx)
    exact ⟨p, hp⟩

/-- On a cycle, every register is the `previous` of one. -/
theorem linked_of_cycle {r x y : GeneralizedRegister} {l : List GeneralizedRegister} (h : Walk prev r l x)
    (hx : prev x = some r) (hy : y ∈ l) : ∃ s, prev s = some y := by
  by_cases hyr : y = r
  · exact ⟨x, hyr ▸ hx⟩
  · obtain ⟨s, -, hs⟩ := h.prev_eq_of_mem_tail (h.mem_tail_of_ne hy hyr)
    exact ⟨s, hs⟩

/-- A walk continues through a walk from its end. -/
theorem append {r x y : GeneralizedRegister} {l l' : List GeneralizedRegister} (h : Walk prev r l x)
    (h' : Walk prev x l' y) : Walk prev r (l ++ l'.tail) y := by
  induction h with
  | single r =>
    cases h' with
    | single => exact .single _
    | cons hp hw => exact .cons hp hw
  | cons hp _ ih => exact .cons hp (ih h')

/-- A walk never leaves a set of registers closed under the links. -/
theorem last_mem_of_closed {S : List GeneralizedRegister} (hS : ∀ z ∈ S, ∀ p, prev z = some p → p ∈ S)
    {r y : GeneralizedRegister} {l : List GeneralizedRegister} (h : Walk prev r l y) (hr : r ∈ S) : y ∈ S := by
  induction h with
  | single => exact hr
  | cons hp _ ih => exact ih (hS _ hr _ hp)

/-- A cycle is closed under the links. -/
theorem closed_cycle {r x : GeneralizedRegister} {l : List GeneralizedRegister} (h : Walk prev r l x)
    (hx : prev x = some r) : ∀ z ∈ l, ∀ p, prev z = some p → p ∈ l := by
  intro z hz p hp
  by_cases hzx : z = x
  · subst hzx
    exact Option.some.inj (hp.symm.trans hx) ▸ h.head_mem
  · exact h.prev_mem hz hzx hp

/-- Every walk from the start of a walk that stops is part of it. -/
theorem mem_of_chain {r x y : GeneralizedRegister} {l l' : List GeneralizedRegister} (h : Walk prev r l x)
    (hx : prev x = none) (h' : Walk prev r l' y) : y ∈ l := by
  induction h' generalizing l with
  | single => exact h.head_mem
  | cons hp _ ih =>
    cases h with
    | single => rw [hx] at hp; cases hp
    | cons hp₂ hw =>
      obtain rfl := Option.some.inj (hp.symm.trans hp₂)
      exact List.mem_cons_of_mem _ (ih hw)

/-- A walk of two registers or more ends with a link into its last register. -/
theorem exists_dropLast {r y : GeneralizedRegister} {l : List GeneralizedRegister} (h : Walk prev r l y)
    (hl : 2 ≤ l.length) : ∃ q, Walk prev r l.dropLast q ∧ prev q = some y := by
  induction h with
  | single => simp at hl
  | @cons r p l x hp hw ih =>
    rw [List.dropLast_cons_of_ne_nil hw.ne_nil]
    cases hw with
    | single => exact ⟨r, .single r, hp⟩
    | cons hp' hw' =>
      obtain ⟨q, hq, hqx⟩ := ih (by have := List.length_pos.2 hw'.ne_nil; simp; omega)
      exact ⟨q, .cons hp hq, hqx⟩

section Closed

variable (hinj : ∀ s s' p, prev s = some p → prev s' = some p → s = s')
include hinj

/-- A chain walked from its tail is closed under the links, both ways. -/
theorem closed_of_chain {r x : GeneralizedRegister} {l : List GeneralizedRegister} (h : Walk prev r l x)
    (hx : prev x = none) (hr : ∀ s, prev s ≠ some r) : ∀ s p, prev s = some p → (s ∈ l ↔ p ∈ l) := by
  intro s p hp
  constructor
  · intro hs
    exact h.prev_mem hs (fun e => by rw [e, hx] at hp; cases hp) hp
  · intro hpl
    have hpr : p ≠ r := fun e => hr s (e ▸ hp)
    obtain ⟨g, hg, hgp⟩ := h.prev_eq_of_mem_tail (h.mem_tail_of_ne hpl hpr)
    exact hinj s g p hp hgp ▸ List.mem_of_mem_dropLast hg

/-- A cycle walked from one of its registers is closed under the links, both ways. -/
theorem closed_of_cycle {r x : GeneralizedRegister} {l : List GeneralizedRegister} (h : Walk prev r l x)
    (hx : prev x = some r) : ∀ s p, prev s = some p → (s ∈ l ↔ p ∈ l) := by
  intro s p hp
  constructor
  · intro hs
    by_cases hsx : s = x
    · subst hsx
      exact Option.some.inj (hp.symm.trans hx) ▸ h.head_mem
    · exact h.prev_mem hs hsx hp
  · intro hpl
    by_cases hpr : p = r
    · subst hpr
      exact hinj s x p hp hx ▸ h.last_mem
    · obtain ⟨g, hg, hgp⟩ := h.prev_eq_of_mem_tail (h.mem_tail_of_ne hpl hpr)
      exact hinj s g p hp hgp ▸ List.mem_of_mem_dropLast hg

end Closed

end Walk

/-! ### Chains and cycles -/

section Reach

variable {prev : GeneralizedRegister → Option GeneralizedRegister}

/-- Every register of a walk is reached from its start. -/
theorem Walk.reaches_of_mem {r x y : GeneralizedRegister} {l : List GeneralizedRegister} (h : Walk prev r l x)
    (hy : y ∈ l) : Reaches prev r y := by
  induction h with
  | single r => rw [List.mem_singleton.1 hy]; exact ⟨[r], .single r⟩
  | cons hp _ ih =>
    rcases List.mem_cons.1 hy with rfl | hy
    · exact ⟨_, .single _⟩
    · obtain ⟨l', hl'⟩ := ih hy
      exact ⟨_, .cons hp hl'⟩

theorem Reaches.refl (r : GeneralizedRegister) : Reaches prev r r := ⟨[r], .single r⟩

theorem Reaches.trans {a b c : GeneralizedRegister} (h : Reaches prev a b) (h' : Reaches prev b c) : Reaches prev a c :=
  let ⟨_, hw⟩ := h
  let ⟨_, hw'⟩ := h'
  ⟨_, hw.append hw'⟩

/-- A walk of one register is its start. -/
theorem Walk.eq_of_length_lt_two {r y : GeneralizedRegister} {l : List GeneralizedRegister} (h : Walk prev r l y)
    (hl : l.length < 2) : y = r := by
  cases h with
  | single => rfl
  | cons _ hw => have := List.length_pos.2 hw.ne_nil; simp at hl; omega

/-- Two registers nothing is linked to that reach one register are the same, when no two registers share a `previous`:
walking back from a register is determined. -/
theorem Reaches.head_eq (hinj : ∀ s s' p, prev s = some p → prev s' = some p → s = s') {c c' r : GeneralizedRegister}
    (h : Reaches prev c r) (h' : Reaches prev c' r) (hc : ∀ s, prev s ≠ some c) (hc' : ∀ s, prev s ≠ some c') :
    c = c' := by
  suffices aux : ∀ n (l l' : List GeneralizedRegister) r, l.length ≤ n → Walk prev c l r → Walk prev c' l' r → c = c' from
    let ⟨l, hw⟩ := h
    let ⟨l', hw'⟩ := h'
    aux _ l l' r le_rfl hw hw'
  intro n
  induction n with
  | zero => intro l l' r hl hw; have := List.length_pos.2 hw.ne_nil; omega
  | succ n ih =>
    intro l l' r hl hw hw'
    by_cases h1 : l.length < 2
    · obtain rfl := hw.eq_of_length_lt_two h1
      by_cases h2 : l'.length < 2
      · exact hw'.eq_of_length_lt_two h2
      · obtain ⟨q, -, hq⟩ := hw'.exists_dropLast (by omega)
        exact absurd hq (hc q)
    · obtain ⟨q, hwq, hq⟩ := hw.exists_dropLast (by omega)
      by_cases h2 : l'.length < 2
      · obtain rfl := hw'.eq_of_length_lt_two h2
        exact absurd hq (hc' q)
      · obtain ⟨q', hwq', hq'⟩ := hw'.exists_dropLast (by omega)
        obtain rfl := hinj q q' r hq hq'
        exact ih l.dropLast l'.dropLast q (by simp; omega) hwq hwq'

/-- On a cycle, reaching goes both ways. -/
theorem OnCycle.reaches_symm {c r : GeneralizedRegister} (hc : OnCycle prev c) (hr : Reaches prev c r) :
    Reaches prev r c := by
  obtain ⟨l, x, hw, hx⟩ := hc
  obtain ⟨l', hw'⟩ := hr
  obtain ⟨ls, hws, -⟩ := hw.suffix_of_mem (hw'.last_mem_of_closed (hw.closed_cycle hx) hw.head_mem)
  exact ⟨_, hws.snoc hx⟩

/-- Every register reached from a cycle has a `previous`. -/
theorem OnCycle.exists_prev {c r : GeneralizedRegister} (hc : OnCycle prev c) (hr : Reaches prev c r) :
    ∃ p, prev r = some p := by
  obtain ⟨l, x, hw, hx⟩ := hc
  obtain ⟨l', hw'⟩ := hr
  exact hw.prev_isSome_of_cycle hx (hw'.last_mem_of_closed (hw.closed_cycle hx) hw.head_mem)

/-- A register whose walk stops reaches no cycle. -/
theorem Walk.not_onCycle_of_chain {c x r : GeneralizedRegister} {l : List GeneralizedRegister} (hw : Walk prev c l x)
    (hx : prev x = none) (hr : Reaches prev c r) : ¬OnCycle prev r := fun hcyc => by
  obtain ⟨l', hw'⟩ := hr
  obtain ⟨ls, hws, -⟩ := hw.suffix_of_mem (hw.mem_of_chain hx hw')
  obtain ⟨p, hp⟩ := hcyc.exists_prev ⟨ls, hws⟩
  rw [hx] at hp
  cases hp

end Reach

section Universe

variable {prev : GeneralizedRegister → Option GeneralizedRegister} {U : List GeneralizedRegister}

/-- A walk from a register of `U` stays in `U` when every link leads into it. -/
theorem Walk.forall_mem (hin : ∀ r p, prev r = some p → p ∈ U) {r x : GeneralizedRegister}
    {l : List GeneralizedRegister} (hw : Walk prev r l x) (hr : r ∈ U) : ∀ y ∈ l, y ∈ U := by
  induction hw with
  | single => simpa using hr
  | cons hp _ ih =>
    intro y hy
    rcases List.mem_cons.mp hy with rfl | hy
    · exact hr
    · exact ih (hin _ _ hp) y hy

/-- A function that agrees across every link is constant along a walk. -/
theorem Walk.eq_of_closed {β : Type} {f : GeneralizedRegister → β} (hf : ∀ s p, prev s = some p → f s = f p)
    {r x : GeneralizedRegister} {l : List GeneralizedRegister} (hw : Walk prev r l x) : ∀ y ∈ l, f y = f r := by
  induction hw with
  | single => simp
  | cons hp _ ih =>
    intro y hy
    rcases List.mem_cons.mp hy with rfl | hy
    · rfl
    · exact (ih y hy).trans (hf _ _ hp).symm

/-- Walked back against `previous`, a register of `U` whose walk stops reaches a register nothing is linked to, whose walk
contains the first. -/
theorem Walk.exists_tail_of_mem (hdom : ∀ s p, prev s = some p → s ∈ U) (hin : ∀ s p, prev s = some p → p ∈ U)
    {r x : GeneralizedRegister} {l : List GeneralizedRegister} (hw : Walk prev r l x) (hx : prev x = none) (hr : r ∈ U) :
    ∃ t lt, Walk prev t lt x ∧ l <:+ lt ∧ ∀ s, prev s ≠ some t := by
  have hle : ∀ {r l}, Walk prev r l x → r ∈ U → l.length ≤ U.length := fun hw hr =>
    ((hw.nodup_of_chain hx).subperm (hw.forall_mem hin hr)).length_le
  suffices aux : ∀ b r l, Walk prev r l x → r ∈ U → l.length + b = U.length + 1 →
      ∃ t lt, Walk prev t lt x ∧ l <:+ lt ∧ ∀ s, prev s ≠ some t from
    aux (U.length + 1 - l.length) r l hw hr (by have := hle hw hr; omega)
  intro b
  induction b with
  | zero => intro r l hw hr hlen; have := hle hw hr; omega
  | succ b ih =>
    intro r l hw hr hlen
    by_cases hs : ∃ s, prev s = some r
    · obtain ⟨s, hsr⟩ := hs
      obtain ⟨t, lt, hw', hsuf, ht⟩ := ih s (s :: l) (.cons hsr hw) (hdom s r hsr) (by simp; omega)
      exact ⟨t, lt, hw', (List.suffix_cons s l).trans hsuf, ht⟩
    · exact ⟨r, l, hw, List.suffix_refl l, fun s h => hs ⟨s, h⟩⟩

/-- Following `previous` from a register of `U`, when the links stay in `U` and no two registers share a `previous`: within
as many registers as `U` has, the walk stops or comes back to its start. -/
theorem Walk.orbit_of_mem (hin : ∀ r p, prev r = some p → p ∈ U)
    (hinj : ∀ r r' p, prev r = some p → prev r' = some p → r = r') {r : GeneralizedRegister} (hr : r ∈ U) :
    ∃ l x, Walk prev r l x ∧ l.Nodup ∧ l.length ≤ U.length ∧ (prev x = none ∨ prev x = some r) := by
  suffices aux : ∀ b l x, Walk prev r l x → l.Nodup → (∀ y ∈ l, y ∈ U) → l.length + b = U.length + 1 →
      ∃ l x, Walk prev r l x ∧ l.Nodup ∧ l.length ≤ U.length ∧ (prev x = none ∨ prev x = some r) from
    aux U.length [r] r (.single r) (List.nodup_singleton r) (by simpa using hr) (by simp; omega)
  intro b
  induction b with
  | zero => intro l x _ hl hg hlen; have := (hl.subperm hg).length_le; omega
  | succ b ih =>
    intro l x hw hl hg hlen
    have hle := (hl.subperm hg).length_le
    cases hx : prev x with
    | none => exact ⟨l, x, hw, hl, hle, .inl hx⟩
    | some y =>
      by_cases hyr : y = r
      · exact ⟨l, x, hw, hl, hle, .inr (hyr ▸ hx)⟩
      have hy : y ∉ l := by
        intro hy
        obtain ⟨g, hg', hgy⟩ := hw.prev_eq_of_mem_tail (hw.mem_tail_of_ne hy hyr)
        exact hw.last_not_mem_dropLast hl (hinj g x y hgy hx ▸ hg')
      refine ih (l ++ [y]) y (hw.snoc hx) ?_ ?_ (by simp; omega)
      · exact List.nodup_append.mpr ⟨hl, List.nodup_singleton y, by simpa using hy⟩
      · intro z hz
        rcases List.mem_append.mp hz with hz | hz
        · exact hg z hz
        · exact (List.mem_singleton.mp hz) ▸ hin x y hx

end Universe

/-! ### Tails and cycles -/

/-- A register that wants a value and gives none: the end of a chain, where Part 2's first loop starts a walk. -/
def IsTail (prev : GeneralizedRegister → Option GeneralizedRegister) (t : GeneralizedRegister) : Prop :=
  (prev t).isSome ∧ ∀ s, prev s ≠ some t

/-- A register some link enters or leaves. -/
def Linked (prev : GeneralizedRegister → Option GeneralizedRegister) (r : GeneralizedRegister) : Prop :=
  (prev r).isSome ∨ ∃ s, prev s = some r

section Graph

variable {prev : GeneralizedRegister → Option GeneralizedRegister}

/-- The registers of a walk that stops are those its start reaches. -/
theorem Walk.mem_iff_reaches_of_chain {r x y : GeneralizedRegister} {l : List GeneralizedRegister} (hw : Walk prev r l x)
    (hx : prev x = none) : y ∈ l ↔ Reaches prev r y :=
  ⟨hw.reaches_of_mem, fun ⟨_, h⟩ => hw.mem_of_chain hx h⟩

/-- The registers of a walk that comes back to its start are those its start reaches. -/
theorem Walk.mem_iff_reaches_of_cycle {r x y : GeneralizedRegister} {l : List GeneralizedRegister} (hw : Walk prev r l x)
    (hx : prev x = some r) : y ∈ l ↔ Reaches prev r y :=
  ⟨hw.reaches_of_mem, fun ⟨_, h⟩ => h.last_mem_of_closed (hw.closed_cycle hx) hw.head_mem⟩

theorem Walk.head_not_mem_tail {r x : GeneralizedRegister} {l : List GeneralizedRegister} (hw : Walk prev r l x)
    (hnd : l.Nodup) : r ∉ l.tail := by
  cases hw with
  | single => exact List.not_mem_nil r
  | cons _ _ => exact (List.nodup_cons.mp hnd).1

variable {U : List GeneralizedRegister} (hdom : ∀ s p, prev s = some p → s ∈ U) (hin : ∀ s p, prev s = some p → p ∈ U)
  (hinj : ∀ s s' p, prev s = some p → prev s' = some p → s = s')

include hdom hin in
theorem Linked.mem {r : GeneralizedRegister} (h : Linked prev r) : r ∈ U := by
  rcases h with h | ⟨s, hs⟩
  · obtain ⟨p, hp⟩ := Option.isSome_iff_exists.mp h
    exact hdom r p hp
  · exact hin s r hs

include hin hinj in
/-- The walk from a tail stops, within as many registers as `U` has. -/
theorem IsTail.walk {t : GeneralizedRegister} (ht : IsTail prev t) (htU : t ∈ U) :
    ∃ l x, Walk prev t l x ∧ l.Nodup ∧ l.length ≤ U.length ∧ prev x = none := by
  obtain ⟨l, x, hw, hnd, hlen, hx⟩ := Walk.orbit_of_mem hin hinj htU
  exact ⟨l, x, hw, hnd, hlen, hx.resolve_right (ht.2 x)⟩

include hin hinj in
/-- The walk around a cycle comes back to its start, within as many registers as `U` has. -/
theorem OnCycle.walk {r : GeneralizedRegister} (hr : OnCycle prev r) (hrU : r ∈ U) :
    ∃ l x, Walk prev r l x ∧ l.Nodup ∧ l.length ≤ U.length ∧ prev x = some r := by
  obtain ⟨l, x, hw, hnd, hlen, hx⟩ := Walk.orbit_of_mem hin hinj hrU
  refine ⟨l, x, hw, hnd, hlen, hx.resolve_left fun hx' => ?_⟩
  obtain ⟨p, hp⟩ := hr.exists_prev (hw.reaches_of_mem hw.last_mem)
  exact nomatch hx'.symm.trans hp

include hinj in
/-- Two tails that reach one register are the same. -/
theorem IsTail.eq_of_reaches {t t' r : GeneralizedRegister} (ht : IsTail prev t) (ht' : IsTail prev t')
    (h : Reaches prev t r) (h' : Reaches prev t' r) : t = t' :=
  Reaches.head_eq hinj h h' ht.2 ht'.2

include hin hinj in
/-- A tail reaches no cycle. -/
theorem IsTail.not_onCycle {t r : GeneralizedRegister} (ht : IsTail prev t) (htU : t ∈ U) (h : Reaches prev t r) :
    ¬OnCycle prev r := by
  obtain ⟨l, x, hw, -, -, hx⟩ := ht.walk hin hinj htU
  exact hw.not_onCycle_of_chain hx h

include hdom hin hinj in
/-- A linked register off every cycle is reached from a tail. -/
theorem Linked.exists_tail {r : GeneralizedRegister} (hr : Linked prev r) (hnc : ¬OnCycle prev r) :
    ∃ t, IsTail prev t ∧ Reaches prev t r := by
  have hrU : r ∈ U := hr.mem hdom hin
  obtain ⟨l, x, hw, -, -, hx⟩ := Walk.orbit_of_mem hin hinj hrU
  replace hx : prev x = none := hx.resolve_right fun hx => hnc ⟨l, x, hw, hx⟩
  obtain ⟨t, lt, hwt, hsuf, ht⟩ := hw.exists_tail_of_mem hdom hin hx hrU
  have hrt : r ∈ lt := hsuf.subset hw.head_mem
  refine ⟨t, ⟨?_, ht⟩, hwt.reaches_of_mem hrt⟩
  cases hwt with
  | single =>
    -- a chain of one register: nothing enters or leaves `r`
    obtain rfl := List.mem_singleton.mp hrt
    rcases hr with hr | ⟨s, hs⟩
    · rw [hx] at hr; cases hr
    · exact absurd hs (ht s)
  | cons hp _ => rw [hp]; rfl

end Graph

section GPRs

variable {prev : GeneralizedRegister → Option GeneralizedRegister} {k : Nat}

/-- The first `k` allocatable GPRs. -/
theorem mem_map_gpr_range {y : GeneralizedRegister} :
    y ∈ (List.range k).map (fun i => .gpr (.reg i)) ↔ ∃ i < k, y = .gpr (.reg i) := by
  simp [eq_comm]

/-- A walk from an allocatable GPR stays among them when every link leads to one. -/
theorem Walk.forall_gpr (hin : ∀ r p, prev r = some p → ∃ i < k, p = .gpr (.reg i)) {r x : GeneralizedRegister}
    {l : List GeneralizedRegister} (hw : Walk prev r l x) (hr : ∃ i < k, r = .gpr (.reg i)) :
    ∀ y ∈ l, ∃ i < k, y = .gpr (.reg i) := fun y hy =>
  mem_map_gpr_range.1 (hw.forall_mem (fun r p h => mem_map_gpr_range.2 (hin r p h)) (mem_map_gpr_range.2 hr) y hy)

/-- `Walk.orbit_of_mem` among the first `k` allocatable GPRs. -/
theorem Walk.orbit (hin : ∀ r p, prev r = some p → ∃ i < k, p = .gpr (.reg i))
    (hinj : ∀ r r' p, prev r = some p → prev r' = some p → r = r') {r : GeneralizedRegister}
    (hr : ∃ i < k, r = .gpr (.reg i)) :
    ∃ l x, Walk prev r l x ∧ l.Nodup ∧ l.length ≤ k ∧ (prev x = none ∨ prev x = some r) := by
  simpa using Walk.orbit_of_mem (fun r p h => mem_map_gpr_range.2 (hin r p h)) hinj (mem_map_gpr_range.2 hr)

end GPRs

end JavaScriptCore
