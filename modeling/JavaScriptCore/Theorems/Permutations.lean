import JavaScriptCore.Theorems.GPRShuffle
import JavaScriptCore.Theorems.Links

/-!
# Part 2: each chain and each cycle resolved once

With each node named once on each side, Part 1 leaves the links of `linkOf` (`afterPart1_shuffled`): no register is the
`previous` of two (`linkOf_inj`), and following `previous` from a register the loops visit either stops at the head of a
chain or comes back to the register, without repeating one (`Walk.orbit_of_mem`). Part 2's first loop then calls
`handleNonCyclingPermutation` on the tails of the chains and on nothing else, and the walk from a tail handles exactly the
registers it reaches. Its second loop finds unhandled only the registers of the cycles, and calls
`handleCyclingPermutation` on the first register of each cycle in the loop's order; the walk that opens it comes back to
that register. Each loop is a fold whose state keeps the links and handles the registers a predicate names
(`Part2State`); one step lemma per loop body carries it (`part2State_shuffleChain`, `part2State_shuffleCycle`), and
`part2_resolves_each_chain_and_cycle_once` assembles from them `ResolvesEachOnce`: the graph, the calls of each loop, and
the assertion after the loops.
-/

namespace JavaScriptCore

/-! ### The registers the loops visit -/

/-- The registers the loops of Part 2 visit, in order: the allocatable GPRs, then the FPRs. -/
def part2Registers (counts : RegisterCounts) : List GeneralizedRegister :=
  (List.range counts.total).map (lookupForRegister counts)

section Registers

variable {counts : RegisterCounts}

/-- The loops visit each register once. -/
theorem lookupForRegister_injective : Function.Injective (lookupForRegister counts) := by
  intro i j h
  unfold lookupForRegister at h
  split_ifs at h <;> simp only [GeneralizedRegister.gpr.injEq, GPRReg.reg.injEq, GeneralizedRegister.fpr.injEq,
    FPRReg.mk.injEq, reduceCtorEq] at h <;> omega

theorem mem_part2Registers {r : GeneralizedRegister} :
    r ∈ part2Registers counts ↔ ∃ i < counts.total, lookupForRegister counts i = r := by
  simp [part2Registers]

theorem length_part2Registers : (part2Registers counts).length = counts.total := by
  simp [part2Registers]

/-- A register a side holds a node in is one the loops visit. -/
theorem mem_part2Registers_of_nodeIn {gprInfo fprInfo : Nat → RegisterInfo} {r : GeneralizedRegister} {n : NodeIndex}
    (h : nodeIn counts gprInfo fprInfo r = some n) : r ∈ part2Registers counts := by
  rw [mem_part2Registers]
  have := counts.fprs_le_gprs
  rcases r with (i | _ | _) | ⟨⟨i⟩⟩ <;> simp only [nodeIn, reduceCtorEq] at h <;> split at h <;> try cases h
  · exact ⟨i, by unfold RegisterCounts.total; omega, by simp [lookupForRegister, *]⟩
  · exact ⟨counts.gprs + i, by unfold RegisterCounts.total; omega, by simp [lookupForRegister]⟩

end Registers

/-! ### The tests of the loops -/

/-- The assertion after Part 2 on one register (lines 1097 to 1100), which is also the second loop's test for `continue`:
the register is handled or linked to nothing. -/
def ShuffledRegister.resolved (s : ShuffledRegister) : Bool := s.handled || (!s.hasFrom && !s.hasTo)

/-- Whether Part 2's first loop calls `handleNonCyclingPermutation` on a register: its test for `continue` fails. -/
def callsNonCyclingPermutation (s : ShuffledRegister) : Bool :=
  !(!s.isEndOfNonCyclingPermutation || s.handled || (!s.hasFrom && !s.hasTo))

/-- Whether Part 2's second loop calls `handleCyclingPermutation` on a register. -/
def callsCyclingPermutation (s : ShuffledRegister) : Bool := !s.resolved

/-- The registers a loop of Part 2 over `body` calls its handler on, in order, from the state `st`: those whose test
`calls` passes in the state the loop has reached when it visits them. -/
def part2Calls (counts : RegisterCounts) (body : LinkState → Nat → LinkState) (calls : ShuffledRegister → Bool)
    (st : LinkState) : List GeneralizedRegister :=
  ((List.range counts.total).filter fun index =>
    calls (((List.range index).foldl body st).shuffled (lookupForRegister counts index))).map (lookupForRegister counts)

/-- The `previous` links of a state. -/
def LinkState.previousOf (st : LinkState) (r : GeneralizedRegister) : Option GeneralizedRegister := (st.shuffled r).previous

section Calls

variable {counts : RegisterCounts} {check : SpeculationCheck} {entry : EntryLocation}

theorem shuffleChain_eq (st : LinkState) (index : Nat) :
    shuffleChain counts check entry st index =
      if callsNonCyclingPermutation (st.shuffled (lookupForRegister counts index)) then
        handleNonCyclingPermutation check entry counts.total (lookupForRegister counts index) st
      else st := by
  unfold shuffleChain callsNonCyclingPermutation ShuffledRegister.isEndOfNonCyclingPermutation
  dsimp only
  generalize st.shuffled (lookupForRegister counts index) = s
  rcases s with ⟨_, _ | _, _ | _, _ | _⟩ <;> rfl

theorem shuffleCycle_eq (st : LinkState) (index : Nat) :
    shuffleCycle counts check entry st index =
      if callsCyclingPermutation (st.shuffled (lookupForRegister counts index)) then
        handleCyclingPermutation check entry counts.total (lookupForRegister counts index)
          (st.scratchGPR.getD .tagMaskRegister) st.scratchFPR1 st.scratchFPR2 st
      else st := by
  unfold shuffleCycle callsCyclingPermutation ShuffledRegister.resolved
  dsimp only
  generalize st.shuffled (lookupForRegister counts index) = s
  rcases s with ⟨_, _ | _, _ | _, _ | _⟩ <;> rfl

theorem mem_part2Calls {body : LinkState → Nat → LinkState} {calls : ShuffledRegister → Bool} {st : LinkState}
    {c : GeneralizedRegister} :
    c ∈ part2Calls counts body calls st ↔ ∃ k < counts.total,
      calls (((List.range k).foldl body st).shuffled (lookupForRegister counts k)) = true ∧ lookupForRegister counts k = c := by
  simp [part2Calls, and_assoc]

/-- A loop calls its handler on each register once at most. -/
theorem nodup_part2Calls (body : LinkState → Nat → LinkState) (calls : ShuffledRegister → Bool) (st : LinkState) :
    (part2Calls counts body calls st).Nodup :=
  ((List.nodup_range _).filter _).map lookupForRegister_injective

end Calls

/-- `handleCyclingPermutation` changes the `ShuffledRegister`s only through the walk that opens it. -/
theorem handleCyclingPermutation_shuffled (check : SpeculationCheck) (entry : EntryLocation) (fuel : Nat)
    (this : GeneralizedRegister) (scratchGPR : GPRReg) (scratchFPR1 scratchFPR2 : Option FPRReg) (st : LinkState) :
    (handleCyclingPermutation check entry fuel this scratchGPR scratchFPR1 scratchFPR2 st).shuffled =
      (cycleWalk this fuel this st).2.2.shuffled := by
  unfold handleCyclingPermutation
  generalize cycleWalk this fuel this st = w
  obtain ⟨len, next, st'⟩ := w
  dsimp only
  split <;> (try split) <;> (try split) <;> rfl

/-! ### Part 2's view of the links -/

/-- A state of Part 2 that keeps the graph Part 1 left and has handled exactly the registers `H` names. -/
structure Part2State (counts : RegisterCounts) (check : SpeculationCheck) (entry : EntryLocation)
    (H : GeneralizedRegister → Prop) (st : LinkState) : Prop where
  previous : ∀ r, (st.shuffled r).previous = linkOf counts check entry r
  hasFrom : ∀ r, (st.shuffled r).hasFrom = (linkTo counts check entry r).isSome
  hasTo : ∀ r, (st.shuffled r).hasTo = (linkOf counts check entry r).isSome
  handled : ∀ r, (st.shuffled r).handled = true ↔ H r

theorem callsNonCyclingPermutation_eq_true (s : ShuffledRegister) :
    callsNonCyclingPermutation s = true ↔ s.isEndOfNonCyclingPermutation = true ∧ s.handled = false := by
  rcases s with ⟨_, _ | _, _ | _, _ | _⟩ <;>
    simp [callsNonCyclingPermutation, ShuffledRegister.isEndOfNonCyclingPermutation]

theorem callsCyclingPermutation_eq_true (s : ShuffledRegister) :
    callsCyclingPermutation s = true ↔ s.handled = false ∧ (s.hasFrom || s.hasTo) = true := by
  rcases s with ⟨_, _ | _, _ | _, _ | _⟩ <;> simp [callsCyclingPermutation, ShuffledRegister.resolved]

section Links

variable {counts : RegisterCounts} {check : SpeculationCheck} {entry : EntryLocation}
  (hc : UniqueNodes counts check.gprInfo check.fprInfo) (he : UniqueNodes counts entry.gprInfo entry.fprInfo)

include hc in
theorem linkOf_dom {s p : GeneralizedRegister} (h : linkOf counts check entry s = some p) : s ∈ part2Registers counts :=
  let ⟨_, hs, _⟩ := (linkOf_eq_some hc).mp h
  mem_part2Registers_of_nodeIn hs

include hc in
theorem linkOf_mem {s p : GeneralizedRegister} (h : linkOf counts check entry s = some p) : p ∈ part2Registers counts :=
  let ⟨_, _, hp⟩ := (linkOf_eq_some hc).mp h
  mem_part2Registers_of_nodeIn hp

include hc he in
theorem linkTo_isSome_iff {r : GeneralizedRegister} :
    (linkTo counts check entry r).isSome = true ↔ ∃ s, linkOf counts check entry s = some r :=
  Option.isSome_iff_exists.trans (exists_congr fun _ => (linkOf_eq_some_iff hc he).symm)

include hc he in
/-- Following the links from any register stops or comes back to it within as many registers as the loops visit. -/
theorem linkOf_orbit (r : GeneralizedRegister) :
    ∃ l x, Walk (linkOf counts check entry) r l x ∧ l.Nodup ∧ l.length ≤ counts.total ∧
      (linkOf counts check entry x = none ∨ linkOf counts check entry x = some r) := by
  rw [← length_part2Registers]
  by_cases hr : r ∈ part2Registers counts
  · exact Walk.orbit_of_mem (fun _ _ => linkOf_mem hc) (fun _ _ _ => linkOf_inj hc he) hr
  · -- a register the loops do not visit has no link
    have hnone : linkOf counts check entry r = none :=
      Option.eq_none_iff_forall_not_mem.mpr fun p hp => hr (linkOf_dom hc hp)
    refine ⟨[r], r, .single r, List.nodup_singleton r, ?_, .inl hnone⟩
    rw [length_part2Registers, List.length_singleton]
    have := counts.two_le_gprs
    unfold RegisterCounts.total; omega

include hc he in
/-- A linked register off every cycle is reached from a tail the loops visit. -/
theorem exists_tail_index {r : GeneralizedRegister} (hl : Linked (linkOf counts check entry) r)
    (hnc : ¬OnCycle (linkOf counts check entry) r) :
    ∃ i < counts.total, IsTail (linkOf counts check entry) (lookupForRegister counts i) ∧
      Reaches (linkOf counts check entry) (lookupForRegister counts i) r := by
  obtain ⟨t, ht, hr⟩ :=
    hl.exists_tail (fun _ _ => linkOf_dom hc) (fun _ _ => linkOf_mem hc) (fun _ _ _ => linkOf_inj hc he) hnc
  obtain ⟨i, hi, rfl⟩ := mem_part2Registers.mp (linkOf_dom hc (Option.get_mem ht.1))
  exact ⟨i, hi, ht, hr⟩

include hc he in
/-- The walk that opens `handleCyclingPermutation` at a register of a cycle, from any state with Part 1's links: it marks
the cycle handled and returns the cycle's length and the register before the start. -/
theorem cycleWalk_onCycle {c : GeneralizedRegister} (hoc : OnCycle (linkOf counts check entry) c) :
    ∃ l x, Walk (linkOf counts check entry) c l x ∧ l.Nodup ∧ linkOf counts check entry x = some c ∧
      ∀ st : LinkState, (∀ r, (st.shuffled r).previous = linkOf counts check entry r) →
        (cycleWalk c counts.total c st).1 = l.length ∧ (cycleWalk c counts.total c st).2.1 = x ∧
        ∀ r, (cycleWalk c counts.total c st).2.2.shuffled r =
          if r ∈ l then { st.shuffled r with handled := true } else st.shuffled r := by
  obtain ⟨p, hp⟩ := hoc.exists_prev (Reaches.refl _)
  obtain ⟨l, x, hw, hnd, hlen, hx⟩ :=
    hoc.walk (fun _ _ => linkOf_mem hc) (fun _ _ _ => linkOf_inj hc he) (linkOf_dom hc hp)
  rw [length_part2Registers] at hlen
  refine ⟨l, x, hw, hnd, hx, fun st hst => ?_⟩
  obtain ⟨h1, h2, h3, -⟩ := cycleWalk_walk hst hw hx (hw.head_not_mem_tail hnd) hlen
  exact ⟨h1, h2, h3⟩

namespace Part2State

variable {H : GeneralizedRegister → Prop} {st : LinkState}

include hc he in
/-- `isEndOfNonCyclingPermutation` finds the tails. -/
theorem isEnd_iff (h : Part2State counts check entry H st) (r : GeneralizedRegister) :
    (st.shuffled r).isEndOfNonCyclingPermutation = true ↔ IsTail (linkOf counts check entry) r := by
  rw [ShuffledRegister.isEndOfNonCyclingPermutation, h.hasTo, h.hasFrom, Bool.and_eq_true, Bool.not_eq_true',
    Bool.eq_false_iff, Ne, linkTo_isSome_iff hc he, not_exists, IsTail]

include hc he in
/-- `hasFrom` or `hasTo` finds the linked registers. -/
theorem linked_iff (h : Part2State counts check entry H st) (r : GeneralizedRegister) :
    ((st.shuffled r).hasFrom || (st.shuffled r).hasTo) = true ↔ Linked (linkOf counts check entry) r := by
  rw [h.hasFrom, h.hasTo, Bool.or_eq_true, linkTo_isSome_iff hc he, Linked, or_comm]

/-- Marking a list of registers handled adds them to what is handled. -/
theorem mark (h : Part2State counts check entry H st) {st' : LinkState} {l : List GeneralizedRegister}
    (hsh : ∀ r, st'.shuffled r = if r ∈ l then { st.shuffled r with handled := true } else st.shuffled r) :
    Part2State counts check entry (fun r => H r ∨ r ∈ l) st' := by
  refine ⟨fun r => ?_, fun r => ?_, fun r => ?_, fun r => ?_⟩ <;> rw [hsh] <;> by_cases hr : r ∈ l <;>
    simp [hr, h.previous, h.hasFrom, h.hasTo, h.handled]

theorem congr (h : Part2State counts check entry H st) {H' : GeneralizedRegister → Prop} (hH : ∀ r, H r ↔ H' r) :
    Part2State counts check entry H' st :=
  ⟨h.previous, h.hasFrom, h.hasTo, fun r => (h.handled r).trans (hH r)⟩

end Part2State

end Links

/-! ### The two loops -/

section Handled

variable (counts : RegisterCounts) (check : SpeculationCheck) (entry : EntryLocation)

/-- What the first `k` steps of Part 2's first loop handle: the registers reached from a tail among the first `k` registers
the loop visits. -/
def chainHandled (k : Nat) (r : GeneralizedRegister) : Prop :=
  ∃ i < k, IsTail (linkOf counts check entry) (lookupForRegister counts i) ∧
    Reaches (linkOf counts check entry) (lookupForRegister counts i) r

/-- What the first `k` steps of Part 2's second loop handle, beyond the first loop: the registers reached from a cycle
through one of the first `k` registers the loop visits. -/
def cycleHandled (k : Nat) (r : GeneralizedRegister) : Prop :=
  chainHandled counts check entry counts.total r ∨ ∃ i < k, OnCycle (linkOf counts check entry) (lookupForRegister counts i) ∧
    Reaches (linkOf counts check entry) (lookupForRegister counts i) r

/-- The `k`th register the loops visit lies on a cycle and is the first register of that cycle they visit. -/
def OpensCycle (prev : GeneralizedRegister → Option GeneralizedRegister) (k : Nat) : Prop :=
  OnCycle prev (lookupForRegister counts k) ∧
    ∀ i < k, OnCycle prev (lookupForRegister counts i) → ¬Reaches prev (lookupForRegister counts i) (lookupForRegister counts k)

end Handled

/-- Two registers that open cycles and reach one register are the same: each reaches the other around the cycle, and the
one the loops visit later is not the first of it. -/
theorem OpensCycle.eq {counts : RegisterCounts} {prev : GeneralizedRegister → Option GeneralizedRegister} {k k' : Nat}
    (ho : OpensCycle counts prev k) (ho' : OpensCycle counts prev k') {r : GeneralizedRegister}
    (h : Reaches prev (lookupForRegister counts k) r) (h' : Reaches prev (lookupForRegister counts k') r) : k = k' := by
  rcases lt_trichotomy k k' with hlt | heq | hlt
  · exact absurd (h.trans (ho'.1.reaches_symm h')) (ho'.2 k hlt ho.1)
  · exact heq
  · exact absurd (h'.trans (ho.1.reaches_symm h)) (ho.2 k' hlt ho'.1)

section Loops

variable {counts : RegisterCounts} {graph : Graph} {check : SpeculationCheck} {entry : EntryLocation}

theorem chainHandled_succ (k : Nat) (r : GeneralizedRegister) :
    chainHandled counts check entry (k + 1) r ↔ chainHandled counts check entry k r ∨
      IsTail (linkOf counts check entry) (lookupForRegister counts k) ∧
        Reaches (linkOf counts check entry) (lookupForRegister counts k) r :=
  Nat.exists_lt_succ

theorem cycleHandled_succ (k : Nat) (r : GeneralizedRegister) :
    cycleHandled counts check entry (k + 1) r ↔ cycleHandled counts check entry k r ∨
      OnCycle (linkOf counts check entry) (lookupForRegister counts k) ∧
        Reaches (linkOf counts check entry) (lookupForRegister counts k) r := by
  rw [cycleHandled, cycleHandled, Nat.exists_lt_succ, or_assoc]

variable (hc : UniqueNodes counts check.gprInfo check.fprInfo) (he : UniqueNodes counts entry.gprInfo entry.fprInfo)
include hc he

/-- Part 2 starts from the graph of Part 1 with nothing handled. -/
theorem part2State_afterPart1 :
    Part2State counts check entry (chainHandled counts check entry 0) (afterPart1 counts graph check entry) := by
  refine ⟨fun r => ?_, fun r => ?_, fun r => ?_, fun r => ?_⟩ <;> rw [afterPart1_shuffled hc he]
  simp [chainHandled]

/-- One step of the first loop: it calls `handleNonCyclingPermutation` exactly on a tail, and handles the registers the tail
reaches. -/
theorem part2State_shuffleChain {k : Nat} {st : LinkState}
    (h : Part2State counts check entry (chainHandled counts check entry k) st) :
    (callsNonCyclingPermutation (st.shuffled (lookupForRegister counts k)) = true ↔
      IsTail (linkOf counts check entry) (lookupForRegister counts k)) ∧
    Part2State counts check entry (chainHandled counts check entry (k + 1)) (shuffleChain counts check entry st k) := by
  have hinj : ∀ s s' p, linkOf counts check entry s = some p → linkOf counts check entry s' = some p → s = s' :=
    fun _ _ _ => linkOf_inj hc he
  have hcall : callsNonCyclingPermutation (st.shuffled (lookupForRegister counts k)) = true ↔
      IsTail (linkOf counts check entry) (lookupForRegister counts k) := by
    rw [callsNonCyclingPermutation_eq_true, h.isEnd_iff hc he, Bool.eq_false_iff, Ne, h.handled, and_iff_left_iff_imp]
    rintro ht ⟨i, hi, hti, hr⟩
    exact hi.ne (lookupForRegister_injective (hti.eq_of_reaches hinj ht hr (Reaches.refl _)))
  refine ⟨hcall, ?_⟩
  rw [shuffleChain_eq]
  split
  · rename_i hcalls
    have ht := hcall.mp hcalls
    obtain ⟨l, x, hw, -, hlen, hx⟩ := ht.walk (fun _ _ => linkOf_mem hc) hinj (linkOf_dom hc (Option.get_mem ht.1))
    rw [length_part2Registers] at hlen
    refine (h.mark (handleNonCyclingPermutation_walk h.previous hw hx hlen).1).congr fun r => ?_
    rw [chainHandled_succ, hw.mem_iff_reaches_of_chain hx, and_iff_right ht]
  · rename_i hno
    refine h.congr fun r => ?_
    rw [chainHandled_succ, iff_self_or]
    exact fun ⟨ht, _⟩ => absurd (hcall.mpr ht) hno

/-- One step of the second loop, after the first: it calls `handleCyclingPermutation` exactly on the first register of a
cycle it visits, and handles the cycle. -/
theorem part2State_shuffleCycle {k : Nat} {st : LinkState}
    (h : Part2State counts check entry (cycleHandled counts check entry k) st) :
    (callsCyclingPermutation (st.shuffled (lookupForRegister counts k)) = true ↔
      OpensCycle counts (linkOf counts check entry) k) ∧
    Part2State counts check entry (cycleHandled counts check entry (k + 1)) (shuffleCycle counts check entry st k) := by
  have hcall : callsCyclingPermutation (st.shuffled (lookupForRegister counts k)) = true ↔
      OpensCycle counts (linkOf counts check entry) k := by
    rw [callsCyclingPermutation_eq_true, Bool.eq_false_iff, Ne, h.handled, h.linked_iff hc he]
    constructor
    · rintro ⟨hun, hl⟩
      exact ⟨by_contra fun hnc => hun (.inl (exists_tail_index hc he hl hnc)),
        fun i hi hoc hr => hun (.inr ⟨i, hi, hoc, hr⟩)⟩
    · intro ho
      refine ⟨?_, .inl (Option.isSome_iff_exists.mpr (ho.1.exists_prev (Reaches.refl _)))⟩
      rintro (⟨i, -, ht, hr⟩ | ⟨i, hi, hoc, hr⟩)
      · exact ht.not_onCycle (fun _ _ => linkOf_mem hc) (fun _ _ _ => linkOf_inj hc he)
          (linkOf_dom hc (Option.get_mem ht.1)) hr ho.1
      · exact ho.2 i hi hoc hr
  refine ⟨hcall, ?_⟩
  rw [shuffleCycle_eq]
  split
  · rename_i hcalls
    have ho := hcall.mp hcalls
    obtain ⟨l, x, hw, -, hx, hwalk⟩ := cycleWalk_onCycle hc he ho.1
    have hsh := (hwalk st h.previous).2.2
    rw [← handleCyclingPermutation_shuffled] at hsh
    refine (h.mark hsh).congr fun r => ?_
    rw [cycleHandled_succ, hw.mem_iff_reaches_of_cycle hx, and_iff_right ho.1]
  · rename_i hno
    refine h.congr fun r => ?_
    rw [cycleHandled_succ, iff_self_or]
    rintro ⟨hoc, hr⟩
    by_contra hnot
    exact hno (hcall.mpr ⟨hoc, fun i hi hoci hre => hnot (.inr ⟨i, hi, hoci, hre.trans hr⟩)⟩)

/-- The first loop handles, step by step, the registers reached from the tails it has visited. -/
theorem part2State_chainLoop (k : Nat) :
    Part2State counts check entry (chainHandled counts check entry k)
      ((List.range k).foldl (shuffleChain counts check entry) (afterPart1 counts graph check entry)) :=
  foldl_range_invariant _ (fun k => Part2State counts check entry (chainHandled counts check entry k)) k _
    (part2State_afterPart1 hc he) fun _ _ _ h => (part2State_shuffleChain hc he h).2

/-- The second loop adds, step by step, the cycles through the registers it has visited. -/
theorem part2State_cycleLoop (k : Nat) :
    Part2State counts check entry (cycleHandled counts check entry k)
      ((List.range k).foldl (shuffleCycle counts check entry)
        ((List.range counts.total).foldl (shuffleChain counts check entry) (afterPart1 counts graph check entry))) :=
  foldl_range_invariant _ (fun k => Part2State counts check entry (cycleHandled counts check entry k)) k _
    ((part2State_chainLoop hc he counts.total).congr fun r => by simp [cycleHandled])
    fun _ _ _ h => (part2State_shuffleCycle hc he h).2

/-- The first loop calls `handleNonCyclingPermutation` on the tails and on nothing else. -/
theorem mem_chainCalls {c : GeneralizedRegister} :
    c ∈ part2Calls counts (shuffleChain counts check entry) callsNonCyclingPermutation (afterPart1 counts graph check entry) ↔
      IsTail (linkOf counts check entry) c := by
  rw [mem_part2Calls]
  constructor
  · rintro ⟨k, -, hk, rfl⟩
    exact (part2State_shuffleChain hc he (part2State_chainLoop hc he k)).1.mp hk
  · intro ht
    obtain ⟨k, hk, rfl⟩ := mem_part2Registers.mp (linkOf_dom hc (Option.get_mem ht.1))
    exact ⟨k, hk, (part2State_shuffleChain hc he (part2State_chainLoop hc he k)).1.mpr ht, rfl⟩

/-- The second loop calls `handleCyclingPermutation` on the registers that open a cycle. -/
theorem mem_cycleCalls {c : GeneralizedRegister} :
    c ∈ part2Calls counts (shuffleCycle counts check entry) callsCyclingPermutation
        ((List.range counts.total).foldl (shuffleChain counts check entry) (afterPart1 counts graph check entry)) ↔
      ∃ k < counts.total, OpensCycle counts (linkOf counts check entry) k ∧ lookupForRegister counts k = c := by
  rw [mem_part2Calls]
  exact exists_congr fun k => and_congr_right fun _ =>
    and_congr_left fun _ => (part2State_shuffleCycle hc he (part2State_cycleLoop hc he k)).1

omit he in
/-- Every register of a cycle is reached from the register that opens the cycle. -/
theorem exists_opensCycle {r : GeneralizedRegister} (hr : OnCycle (linkOf counts check entry) r) :
    ∃ k < counts.total, OpensCycle counts (linkOf counts check entry) k ∧
      Reaches (linkOf counts check entry) (lookupForRegister counts k) r := by
  classical
  have hex : ∃ k, k < counts.total ∧ OnCycle (linkOf counts check entry) (lookupForRegister counts k) ∧
      Reaches (linkOf counts check entry) (lookupForRegister counts k) r := by
    obtain ⟨p, hp⟩ := hr.exists_prev (Reaches.refl _)
    obtain ⟨k, hk, rfl⟩ := mem_part2Registers.mp (linkOf_dom hc hp)
    exact ⟨k, hk, hr, Reaches.refl _⟩
  obtain ⟨hk, hoc, hreach⟩ := Nat.find_spec hex
  exact ⟨Nat.find hex, hk,
    ⟨hoc, fun i hi hoci hre => Nat.find_min hex hi ⟨hi.trans hk, hoci, hre.trans hreach⟩⟩, hreach⟩

end Loops

/-! ### Each chain and each cycle resolved once -/

/-- What Part 2 does with the graph `st` Part 1 leaves. No register is the `previous` of two, so that each has one
predecessor and one successor at most, and the links form disjoint simple paths and cycles. The first loop calls
`handleNonCyclingPermutation` on the tails, each once, and on exactly one register reaching each linked register off the
cycles. The second loop calls `handleCyclingPermutation` on registers of cycles, exactly one per cycle; the walk that opens
it meets no register without `previous` and comes back to its start within the fuel. After the loops the assertion that
follows them holds at every register they visit. -/
structure ResolvesEachOnce (counts : RegisterCounts) (check : SpeculationCheck) (entry : EntryLocation)
    (st : LinkState) : Prop where
  previous_inj : ∀ r r' p, st.previousOf r = some p → st.previousOf r' = some p → r = r'
  hasTo_iff : ∀ r, (st.shuffled r).hasTo = true ↔ ∃ p, st.previousOf r = some p
  hasFrom_iff : ∀ r, (st.shuffled r).hasFrom = true ↔ ∃ s, st.previousOf s = some r
  path_or_cycle : ∀ r, ∃ l x, Walk st.previousOf r l x ∧ l.Nodup ∧ l.length ≤ counts.total ∧
    (st.previousOf x = none ∨ st.previousOf x = some r)
  chainCalls_iff : ∀ c, c ∈ part2Calls counts (shuffleChain counts check entry) callsNonCyclingPermutation st ↔
    (st.shuffled c).isEndOfNonCyclingPermutation = true
  chainCalls_nodup : (part2Calls counts (shuffleChain counts check entry) callsNonCyclingPermutation st).Nodup
  chainCalls_once : ∀ r, ((st.shuffled r).hasFrom || (st.shuffled r).hasTo) = true → ¬OnCycle st.previousOf r →
    ∃! c, c ∈ part2Calls counts (shuffleChain counts check entry) callsNonCyclingPermutation st ∧ Reaches st.previousOf c r
  cycleCalls_onCycle : ∀ c ∈ part2Calls counts (shuffleCycle counts check entry) callsCyclingPermutation
    ((List.range counts.total).foldl (shuffleChain counts check entry) st), OnCycle st.previousOf c
  cycleCalls_nodup : (part2Calls counts (shuffleCycle counts check entry) callsCyclingPermutation
    ((List.range counts.total).foldl (shuffleChain counts check entry) st)).Nodup
  cycleCalls_once : ∀ r, OnCycle st.previousOf r → ∃! c, c ∈ part2Calls counts (shuffleCycle counts check entry)
    callsCyclingPermutation ((List.range counts.total).foldl (shuffleChain counts check entry) st) ∧ Reaches st.previousOf c r
  cycleWalk_returns : ∀ c ∈ part2Calls counts (shuffleCycle counts check entry) callsCyclingPermutation
      ((List.range counts.total).foldl (shuffleChain counts check entry) st),
    ∃ l x, Walk st.previousOf c l x ∧ l.Nodup ∧ st.previousOf x = some c ∧ ∀ st' : LinkState,
      st'.previousOf = st.previousOf → (cycleWalk c counts.total c st').1 = l.length ∧ (cycleWalk c counts.total c st').2.1 = x
  resolved : ∀ index < counts.total, (((List.range counts.total).foldl (shuffleCycle counts check entry)
    ((List.range counts.total).foldl (shuffleChain counts check entry) st)).shuffled (lookupForRegister counts index)).resolved

/-- With each node named once on each side, Part 2 resolves each chain of the links once from its tail and each cycle once
from its first register, and handles every linked register. -/
theorem part2_resolves_each_chain_and_cycle_once (counts : RegisterCounts) (graph : Graph) (check : SpeculationCheck)
    (entry : EntryLocation) (hc : UniqueNodes counts check.gprInfo check.fprInfo)
    (he : UniqueNodes counts entry.gprInfo entry.fprInfo) :
    ResolvesEachOnce counts check entry (afterPart1 counts graph check entry) := by
  have h₁ := @part2State_afterPart1 counts graph check entry hc he
  have hprev : (afterPart1 counts graph check entry).previousOf = linkOf counts check entry := funext h₁.previous
  refine ⟨?_, fun r => ?_, fun r => ?_, fun r => ?_, fun c => ?_, nodup_part2Calls _ _ _, fun r hl hnc => ?_,
    fun c hc' => ?_, nodup_part2Calls _ _ _, fun r hr => ?_, fun c hc' => ?_, fun index _ => ?_⟩
  · rw [hprev]; exact fun _ _ _ => linkOf_inj hc he
  · rw [h₁.hasTo, hprev, Option.isSome_iff_exists]
  · rw [h₁.hasFrom, hprev, linkTo_isSome_iff hc he]
  · rw [hprev]; exact linkOf_orbit hc he r
  · rw [mem_chainCalls hc he, h₁.isEnd_iff hc he]
  · -- the tail that reaches `r`, and no other
    rw [hprev] at hnc ⊢
    obtain ⟨i, -, ht, hr⟩ := exists_tail_index hc he ((h₁.linked_iff hc he r).mp hl) hnc
    refine ⟨_, ⟨(mem_chainCalls hc he).mpr ht, hr⟩, fun c ⟨hcall, hcr⟩ => ?_⟩
    exact ((mem_chainCalls hc he).mp hcall).eq_of_reaches (fun _ _ _ => linkOf_inj hc he) ht hcr hr
  · obtain ⟨k, -, ho, rfl⟩ := (mem_cycleCalls hc he).mp hc'
    rw [hprev]
    exact ho.1
  · -- the register that opens `r`'s cycle, and no other
    rw [hprev] at hr ⊢
    obtain ⟨k, hk, ho, hreach⟩ := exists_opensCycle hc hr
    refine ⟨_, ⟨(mem_cycleCalls hc he).mpr ⟨k, hk, ho, rfl⟩, hreach⟩, fun c ⟨hcall, hcr⟩ => ?_⟩
    obtain ⟨k', -, ho', rfl⟩ := (mem_cycleCalls hc he).mp hcall
    rw [ho'.eq ho hcr hreach]
  · obtain ⟨k, -, ho, rfl⟩ := (mem_cycleCalls hc he).mp hc'
    obtain ⟨l, x, hw, hnd, hx, hwalk⟩ := cycleWalk_onCycle hc he ho.1
    rw [hprev]
    exact ⟨l, x, hw, hnd, hx, fun st hst => (hwalk st (congrFun hst)).imp_right And.left⟩
  · -- the assertion: a linked register is on a cycle or reached from a tail
    have h := @part2State_cycleLoop counts graph check entry hc he counts.total
    rw [ShuffledRegister.resolved, Bool.or_eq_true, h.handled]
    by_cases hl : Linked (linkOf counts check entry) (lookupForRegister counts index)
    · left
      by_cases hoc : OnCycle (linkOf counts check entry) (lookupForRegister counts index)
      · obtain ⟨k, hk, ho, hreach⟩ := exists_opensCycle hc hoc
        exact .inr ⟨k, hk, ho.1, hreach⟩
      · exact .inl (exists_tail_index hc he hl hoc)
    · right
      simpa using (h.linked_iff hc he _).not.mpr hl

/-- Two GPRs that exchange their nodes and a third that passes its node on: Part 2 swaps GPRs 0 and 1 from GPR 0, and
moves GPR 2 into GPR 3 from the tail GPR 3. -/
theorem part2_resolves_swap_and_chain :
    UniqueNodes ⟨4, 1, by decide, by decide⟩ (fun i => if i = 0 then ⟨some 1, .js, false⟩
        else if i = 1 then ⟨some 2, .js, false⟩ else if i = 2 then ⟨some 3, .js, false⟩ else .noNode) (fun _ => .noNode) ∧
    UniqueNodes ⟨4, 1, by decide, by decide⟩ (fun i => if i = 0 then ⟨some 2, .js, false⟩
        else if i = 1 then ⟨some 1, .js, false⟩ else if i = 3 then ⟨some 3, .js, false⟩ else .noNode) (fun _ => .noNode) ∧
    ResolvesEachOnce ⟨4, 1, by decide, by decide⟩
      ⟨0, fun i => if i = 0 then ⟨some 1, .js, false⟩ else if i = 1 then ⟨some 2, .js, false⟩
        else if i = 2 then ⟨some 3, .js, false⟩ else .noNode, fun _ => .noNode⟩
      ⟨0, fun i => if i = 0 then ⟨some 2, .js, false⟩ else if i = 1 then ⟨some 1, .js, false⟩
        else if i = 3 then ⟨some 3, .js, false⟩ else .noNode, fun _ => .noNode⟩
      (afterPart1 ⟨4, 1, by decide, by decide⟩ ⟨fun n => n, fun _ => none, by simp⟩
        ⟨0, fun i => if i = 0 then ⟨some 1, .js, false⟩ else if i = 1 then ⟨some 2, .js, false⟩
          else if i = 2 then ⟨some 3, .js, false⟩ else .noNode, fun _ => .noNode⟩
        ⟨0, fun i => if i = 0 then ⟨some 2, .js, false⟩ else if i = 1 then ⟨some 1, .js, false⟩
          else if i = 3 then ⟨some 3, .js, false⟩ else .noNode, fun _ => .noNode⟩) :=
  ⟨by decide, by decide, part2_resolves_each_chain_and_cycle_once _ _ _ _ (by decide) (by decide)⟩

end JavaScriptCore
