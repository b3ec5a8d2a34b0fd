import JavaScriptCore.Theorems.ReverseMaps

/-!
# Part 1: the move graph

Part 1 of `jumpFromSpeculativeToNonSpeculative` visits the check registers, GPRs first, and links each one holding a node to
the entry register that wants the node: `next->previous` becomes the check register, `hasFrom` is set on the check register
and `hasTo` on the entry register. When each side names a node once (`UniqueNodes`), the graph it leaves does not depend on
the order of the visits: `previous` is `linkOf`, the check register holding the entry register's node, and `hasFrom` says
that `linkTo`, the entry register wanting the check register's node, exists (`afterPart1_shuffled`). The two maps are
inverse (`linkOf_eq_some_iff`), so no register is the `previous` of two.
-/

namespace JavaScriptCore

/-- A loop over the first `k` indices keeps an invariant indexed by the number of completed iterations. -/
theorem foldl_range_invariant {α : Type} (f : α → Nat → α) (P : Nat → α → Prop) (k : Nat) (a : α) (h0 : P 0 a)
    (step : ∀ i < k, ∀ a, P i a → P (i + 1) (f a i)) : P k ((List.range k).foldl f a) := by
  induction k with
  | zero => exact h0
  | succ k ih =>
    rw [List.range_succ, List.foldl_append, List.foldl_cons, List.foldl_nil]
    exact step k (Nat.lt_succ_self k) _ (ih fun i hi => step i (by omega))

/-! ### The node a side holds in a register -/

/-- The node a side holds in a register its loops visit: one of the first `counts.gprs` GPRs or `counts.fprs` FPRs. -/
def nodeIn (counts : RegisterCounts) (gprInfo fprInfo : Nat → RegisterInfo) : GeneralizedRegister → Option NodeIndex
  | .gpr (.reg i) => if i < counts.gprs then (gprInfo i).nodeIndex else none
  | .fpr f => if f.index < counts.fprs then (fprInfo f.index).nodeIndex else none
  | .gpr _ => none

section Nodes

variable {counts : RegisterCounts} {gprInfo fprInfo : Nat → RegisterInfo}

/-- The tuples a loop over the first `k` registers of a kind records for one register. -/
theorem exists_index_iff {k i : Nat} {f : Nat → Option NodeIndex} {n : NodeIndex} :
    (∃ a < k, ∃ b, f a = some b ∧ b = n ∧ a = i) ↔ i < k ∧ f i = some n :=
  ⟨fun ⟨_, ha, _, hb, hn, hi⟩ => hn ▸ hi ▸ ⟨ha, hb⟩, fun ⟨hi, hn⟩ => ⟨i, hi, n, hn, rfl, rfl⟩⟩

/-- The tuples of a reverse map are the registers holding a node. -/
theorem mem_heldNodes_iff {n : NodeIndex} {r : GeneralizedRegister} :
    (n, r) ∈ heldNodes counts gprInfo fprInfo ↔ nodeIn counts gprInfo fprInfo r = some n := by
  rcases r with (i | _ | _) | ⟨⟨i⟩⟩ <;> simp only [heldNodes, List.mem_append, List.mem_filterMap, List.mem_range,
    Option.map_eq_some', Prod.mk.injEq, GeneralizedRegister.gpr.injEq, GeneralizedRegister.fpr.injEq, GPRReg.reg.injEq,
    FPRReg.mk.injEq, reduceCtorEq, and_false, exists_false, false_or, or_false, nodeIn] <;>
    exact exists_index_iff.trans Option.ite_none_right_eq_some.symm

/-- A side naming each node once holds a node in one register at most. -/
theorem nodeIn_inj (hu : UniqueNodes counts gprInfo fprInfo) {n : NodeIndex} {r r' : GeneralizedRegister}
    (h : nodeIn counts gprInfo fprInfo r = some n) (h' : nodeIn counts gprInfo fprInfo r' = some n) : r = r' := by
  have := List.inj_on_of_nodup_map hu (mem_heldNodes_iff.mpr h) (mem_heldNodes_iff.mpr h') rfl
  exact (Prod.mk.inj this).2

/-- `find` on a reverse map returns the register holding the node. -/
theorem find_heldNodes (hu : UniqueNodes counts gprInfo fprInfo) {n : NodeIndex} {r : GeneralizedRegister} :
    NodeToRegisterMap.find ⟨heldNodes counts gprInfo fprInfo⟩ n = some r ↔ nodeIn counts gprInfo fprInfo r = some n :=
  (NodeToRegisterMap.find_eq_some_iff hu).trans mem_heldNodes_iff

end Nodes

/-! ### The associative array a reverse map implements -/

/-- The register whose info slot names `n`, GPRs first: the array keyed by node, of one slot per register, that a
`NodeToRegisterMap` implements by a linear scan. -/
def registerHolding (counts : RegisterCounts) (gprInfo fprInfo : Nat → RegisterInfo) (n : NodeIndex) :
    Option GeneralizedRegister :=
  match (List.range counts.gprs).find? (fun i => (gprInfo i).nodeIndex == some n) with
  | some i => some (.gpr (.reg i))
  | none => ((List.range counts.fprs).find? (fun i => (fprInfo i).nodeIndex == some n)).map fun i => .fpr ⟨i⟩

section Lookup

variable {counts : RegisterCounts} {gprInfo fprInfo : Nat → RegisterInfo} {n : NodeIndex}

/-- The lookup returns a register whose slot names the node. -/
theorem nodeIn_of_registerHolding {r : GeneralizedRegister} (h : registerHolding counts gprInfo fprInfo n = some r) :
    nodeIn counts gprInfo fprInfo r = some n := by
  unfold registerHolding at h
  split at h
  · rename_i i hi
    cases h
    have hn := List.find?_some hi
    simp only [beq_iff_eq] at hn
    simp [nodeIn, List.mem_range.mp (List.mem_of_find?_eq_some hi), hn]
  · obtain ⟨i, hi, rfl⟩ := Option.map_eq_some'.mp h
    have hn := List.find?_some hi
    simp only [beq_iff_eq] at hn
    simp [nodeIn, List.mem_range.mp (List.mem_of_find?_eq_some hi), hn]

/-- The lookup fails only for a node no slot names. -/
theorem registerHolding_eq_none : registerHolding counts gprInfo fprInfo n = none ↔
    ∀ r, nodeIn counts gprInfo fprInfo r ≠ some n := by
  refine ⟨fun h r hr => ?_, fun h => Option.eq_none_iff_forall_not_mem.mpr fun r hr => h r (nodeIn_of_registerHolding hr)⟩
  unfold registerHolding at h
  split at h
  · cases h
  · rename_i hg
    rcases r with (i | _ | _) | ⟨⟨i⟩⟩ <;> simp only [nodeIn, reduceCtorEq] at hr <;> split at hr <;> try cases hr
    · exact List.find?_eq_none.mp hg i (List.mem_range.mpr ‹_›) (by simpa using hr)
    · exact List.find?_eq_none.mp (Option.map_eq_none'.mp h) i (List.mem_range.mpr ‹_›) (by simpa using hr)

/-- With each node named once, the linear scan over the tuples the loops record agrees with the lookup. -/
theorem find_heldNodes_eq (hu : UniqueNodes counts gprInfo fprInfo) :
    NodeToRegisterMap.find ⟨heldNodes counts gprInfo fprInfo⟩ n = registerHolding counts gprInfo fprInfo n := by
  cases h : registerHolding counts gprInfo fprInfo n with
  | none =>
    exact NodeToRegisterMap.find_eq_none_iff.mpr fun r hr => registerHolding_eq_none.mp h r (mem_heldNodes_iff.mp hr)
  | some r => exact (find_heldNodes hu).mpr (nodeIn_of_registerHolding h)

/-- A loop records at most one tuple a register. -/
theorem length_heldNodes_le : (heldNodes counts gprInfo fprInfo).length ≤ counts.gprs + counts.fprs := by
  unfold heldNodes
  rw [List.length_append]
  exact Nat.add_le_add ((List.length_filterMap_le _ _).trans_eq (List.length_range _))
    ((List.length_filterMap_le _ _).trans_eq (List.length_range _))

end Lookup

/-- After the loops building them, each reverse map holds at most one tuple a register, so `set` never writes past the
payload, and, when each side names a node once, `find` is the lookup over that side's info slots. -/
theorem afterBuildMaps_find {counts : RegisterCounts} {check : SpeculationCheck} {entry : EntryLocation}
    (hc : UniqueNodes counts check.gprInfo check.fprInfo) (he : UniqueNodes counts entry.gprInfo entry.fprInfo) :
    (afterBuildMaps counts check entry).checkNodeToRegisterMap.payload.length ≤ counts.gprs + counts.fprs ∧
    (afterBuildMaps counts check entry).entryNodeToRegisterMap.payload.length ≤ counts.gprs + counts.fprs ∧
    ∀ n, (afterBuildMaps counts check entry).checkNodeToRegisterMap.find n =
        registerHolding counts check.gprInfo check.fprInfo n ∧
      (afterBuildMaps counts check entry).entryNodeToRegisterMap.find n =
        registerHolding counts entry.gprInfo entry.fprInfo n := by
  have hmaps := @maps_buildMaps counts check entry
  simp only [LinkState.maps, Prod.mk.injEq] at hmaps
  rw [afterBuildMaps, hmaps.1, hmaps.2]
  exact ⟨length_heldNodes_le, length_heldNodes_le, fun n => ⟨find_heldNodes_eq hc, find_heldNodes_eq he⟩⟩

/-- Node 10 in GPR 0 at the check and in GPR 1 at the entry, with two GPRs and one FPR. -/
theorem afterBuildMaps_find_of_moved_node :
    UniqueNodes ⟨2, 1, by decide, by decide⟩ (fun i => if i = 0 then ⟨some 10, .js, false⟩ else .noNode)
      (fun _ => .noNode) ∧
    UniqueNodes ⟨2, 1, by decide, by decide⟩ (fun i => if i = 1 then ⟨some 10, .js, false⟩ else .noNode)
      (fun _ => .noNode) ∧
    (afterBuildMaps ⟨2, 1, by decide, by decide⟩
        ⟨10, fun i => if i = 0 then ⟨some 10, .js, false⟩ else .noNode, fun _ => .noNode⟩
        ⟨10, fun i => if i = 1 then ⟨some 10, .js, false⟩ else .noNode, fun _ => .noNode⟩
      ).checkNodeToRegisterMap.payload.length ≤ 2 + 1 ∧
    (afterBuildMaps ⟨2, 1, by decide, by decide⟩
        ⟨10, fun i => if i = 0 then ⟨some 10, .js, false⟩ else .noNode, fun _ => .noNode⟩
        ⟨10, fun i => if i = 1 then ⟨some 10, .js, false⟩ else .noNode, fun _ => .noNode⟩
      ).entryNodeToRegisterMap.payload.length ≤ 2 + 1 ∧
    ∀ n, (afterBuildMaps ⟨2, 1, by decide, by decide⟩
        ⟨10, fun i => if i = 0 then ⟨some 10, .js, false⟩ else .noNode, fun _ => .noNode⟩
        ⟨10, fun i => if i = 1 then ⟨some 10, .js, false⟩ else .noNode, fun _ => .noNode⟩
      ).checkNodeToRegisterMap.find n =
        registerHolding ⟨2, 1, by decide, by decide⟩ (fun i => if i = 0 then ⟨some 10, .js, false⟩ else .noNode)
          (fun _ => .noNode) n ∧
      (afterBuildMaps ⟨2, 1, by decide, by decide⟩
        ⟨10, fun i => if i = 0 then ⟨some 10, .js, false⟩ else .noNode, fun _ => .noNode⟩
        ⟨10, fun i => if i = 1 then ⟨some 10, .js, false⟩ else .noNode, fun _ => .noNode⟩
      ).entryNodeToRegisterMap.find n =
        registerHolding ⟨2, 1, by decide, by decide⟩ (fun i => if i = 1 then ⟨some 10, .js, false⟩ else .noNode)
          (fun _ => .noNode) n :=
  ⟨by decide, by decide, afterBuildMaps_find (by decide) (by decide)⟩

/-! ### The links -/

section Links

variable (counts : RegisterCounts) (check : SpeculationCheck) (entry : EntryLocation)

/-- The `previous` Part 1 gives a register: the check register holding the node the entry wants there. -/
def linkOf (r : GeneralizedRegister) : Option GeneralizedRegister :=
  (nodeIn counts entry.gprInfo entry.fprInfo r).bind (NodeToRegisterMap.find ⟨heldNodes counts check.gprInfo check.fprInfo⟩)

/-- The register Part 1 links a check register to: the entry register wanting the node the check holds there. -/
def linkTo (r : GeneralizedRegister) : Option GeneralizedRegister :=
  (nodeIn counts check.gprInfo check.fprInfo r).bind (NodeToRegisterMap.find ⟨heldNodes counts entry.gprInfo entry.fprInfo⟩)

end Links

section LinkLemmas

variable {counts : RegisterCounts} {check : SpeculationCheck} {entry : EntryLocation}

/-- `s.previous` is `r` exactly when the two registers hold one node, `s` on the entry side and `r` on the check side. -/
theorem linkOf_eq_some (hc : UniqueNodes counts check.gprInfo check.fprInfo) {r s : GeneralizedRegister} :
    linkOf counts check entry s = some r ↔
      ∃ n, nodeIn counts entry.gprInfo entry.fprInfo s = some n ∧ nodeIn counts check.gprInfo check.fprInfo r = some n := by
  simp only [linkOf, Option.bind_eq_some, find_heldNodes hc]

theorem linkTo_eq_some (he : UniqueNodes counts entry.gprInfo entry.fprInfo) {r s : GeneralizedRegister} :
    linkTo counts check entry r = some s ↔
      ∃ n, nodeIn counts entry.gprInfo entry.fprInfo s = some n ∧ nodeIn counts check.gprInfo check.fprInfo r = some n := by
  simp only [linkTo, Option.bind_eq_some, find_heldNodes he]
  exact ⟨fun ⟨n, h₁, h₂⟩ => ⟨n, h₂, h₁⟩, fun ⟨n, h₁, h₂⟩ => ⟨n, h₂, h₁⟩⟩

variable (hc : UniqueNodes counts check.gprInfo check.fprInfo) (he : UniqueNodes counts entry.gprInfo entry.fprInfo)
include hc he

/-- The two directions of a link agree. -/
theorem linkOf_eq_some_iff {r s : GeneralizedRegister} :
    linkOf counts check entry s = some r ↔ linkTo counts check entry r = some s :=
  (linkOf_eq_some hc).trans (linkTo_eq_some he).symm

/-- No register is the `previous` of two. -/
theorem linkOf_inj {r s s' : GeneralizedRegister} (h : linkOf counts check entry s = some r)
    (h' : linkOf counts check entry s' = some r) : s = s' :=
  Option.some.inj (((linkOf_eq_some_iff hc he).mp h).symm.trans ((linkOf_eq_some_iff hc he).mp h'))

end LinkLemmas

/-! ### The graph Part 1 leaves -/

@[simp] theorem LinkState.link_shuffled (st : LinkState) (r next s : GeneralizedRegister) :
    (st.link r next).shuffled s =
      if s = next then
        { (if next = r then { st.shuffled r with hasFrom := true } else st.shuffled next) with
          previous := some r, hasTo := true }
      else if s = r then { st.shuffled r with hasFrom := true } else st.shuffled s := by
  simp only [link, modify, Function.update_apply]

@[simp] theorem LinkState.link_code (st : LinkState) (r next : GeneralizedRegister) : (st.link r next).code = st.code :=
  rfl

/-- The registers Part 1 has visited once its GPR loop has done `g` registers and its FPR loop `f`. -/
def part1Visited (g f : Nat) : GeneralizedRegister → Bool
  | .gpr (.reg i) => decide (i < g)
  | .fpr r => decide (r.index < f)
  | .gpr _ => false

theorem part1Visited_succ_gpr (g f : Nat) :
    (fun r => part1Visited g f r || decide (r = .gpr (.reg g))) = part1Visited (g + 1) f := by
  funext r
  rcases r with (i | _ | _) | ⟨⟨i⟩⟩ <;> simp [part1Visited, Nat.lt_succ_iff_lt_or_eq]

theorem part1Visited_succ_fpr (g f : Nat) :
    (fun r => part1Visited g f r || decide (r = .fpr ⟨f⟩)) = part1Visited g (f + 1) := by
  funext r
  rcases r with (i | _ | _) | ⟨⟨i⟩⟩ <;> simp [part1Visited, Nat.lt_succ_iff_lt_or_eq]

/-- Every register a side holds a node in is visited by the end of Part 1. -/
theorem part1Visited_of_nodeIn {counts : RegisterCounts} {gprInfo fprInfo : Nat → RegisterInfo}
    {r : GeneralizedRegister} {n : NodeIndex} (h : nodeIn counts gprInfo fprInfo r = some n) :
    part1Visited counts.gprs counts.fprs r = true := by
  rcases r with (i | _ | _) | ⟨⟨i⟩⟩ <;> simp only [nodeIn, reduceCtorEq] at h <;> split at h <;>
    simp_all [part1Visited]

section Visits

variable (counts : RegisterCounts) (check : SpeculationCheck) (entry : EntryLocation)

/-- The `ShuffledRegister`s once Part 1 has visited the check registers `V`: a register's `previous` is its `linkOf` if
that was visited, `hasFrom` is set on a visited register with a `linkTo`, and nothing is handled. -/
def linkedBy (V : GeneralizedRegister → Bool) (r : GeneralizedRegister) : ShuffledRegister :=
  ⟨(linkOf counts check entry r).filter V, V r && (linkTo counts check entry r).isSome,
    ((linkOf counts check entry r).filter V).isSome, false⟩

end Visits

/-- Visiting one more register changes a filter only at that register. -/
theorem filter_or_of_ne {V : GeneralizedRegister → Bool} {r₀ : GeneralizedRegister} {o : Option GeneralizedRegister}
    (h : o ≠ some r₀) : o.filter (fun r => V r || decide (r = r₀)) = o.filter V := by
  cases o with
  | none => rfl
  | some r =>
    have h' : r ≠ r₀ := fun e => h (e ▸ rfl)
    simp [Option.filter_some, h']

section Part1

variable {counts : RegisterCounts} {graph : Graph} {check : SpeculationCheck} {entry : EntryLocation}

/-- One visit of Part 1 on the graph: the link of the visited register to its `linkTo`, if any. -/
theorem link_linkedBy (hc : UniqueNodes counts check.gprInfo check.fprInfo)
    (he : UniqueNodes counts entry.gprInfo entry.fprInfo) {V : GeneralizedRegister → Bool} {st : LinkState}
    (h : st.shuffled = linkedBy counts check entry V) (r₀ : GeneralizedRegister) :
    (match linkTo counts check entry r₀ with
      | some next => (st.link r₀ next).shuffled
      | none => st.shuffled) = linkedBy counts check entry (fun r => V r || decide (r = r₀)) := by
  funext s
  cases hto : linkTo counts check entry r₀ with
  | none =>
    have hs : linkOf counts check entry s ≠ some r₀ := fun h' => by
      rw [(linkOf_eq_some_iff hc he).mp h'] at hto; cases hto
    simp only [h, linkedBy, filter_or_of_ne hs]
    by_cases hsr : s = r₀ <;> simp [hsr, hto]
  | some next =>
    have hnext : linkOf counts check entry next = some r₀ := (linkOf_eq_some_iff hc he).mpr hto
    simp only [LinkState.link_shuffled, h, linkedBy]
    by_cases hsn : s = next
    · subst hsn
      rcases eq_or_ne s r₀ with rfl | hsr <;> simp [hnext, hto, Option.filter_some, *]
    · have hs : linkOf counts check entry s ≠ some r₀ := fun h' => hsn (linkOf_inj hc he h' hnext)
      rw [if_neg hsn, filter_or_of_ne hs]
      by_cases hsr : s = r₀
      · subst hsr; simp [hto]
      · simp [hsr]

/-- The reverse-map loops link nothing and emit nothing. -/
theorem shuffled_buildMapsGPR (st : LinkState) (i : Nat) :
    ((buildMapsGPR check entry st i).shuffled, (buildMapsGPR check entry st i).code) = (st.shuffled, st.code) := by
  unfold buildMapsGPR
  cases (check.gprInfo i).nodeIndex <;> cases (entry.gprInfo i).nodeIndex <;> simp

theorem shuffled_buildMapsFPR (st : LinkState) (i : Nat) :
    ((buildMapsFPR check entry st i).shuffled, (buildMapsFPR check entry st i).code) = (st.shuffled, st.code) := by
  unfold buildMapsFPR
  cases (check.fprInfo i).nodeIndex <;> cases (entry.fprInfo i).nodeIndex <;> simp
  split <;> simp

/-- The reverse-map loops leave the graph and the code empty. -/
theorem buildMaps_shuffled_code :
    ((List.range counts.fprs).foldl (buildMapsFPR check entry)
        ((List.range counts.gprs).foldl (buildMapsGPR check entry) LinkState.initial)).shuffled = (fun _ => .initial) ∧
      ((List.range counts.fprs).foldl (buildMapsFPR check entry)
        ((List.range counts.gprs).foldl (buildMapsGPR check entry) LinkState.initial)).code = [] := by
  rw [← Prod.mk.injEq, foldl_preserves (fun st => (st.shuffled, st.code)) shuffled_buildMapsFPR,
    foldl_preserves (fun st => (st.shuffled, st.code)) shuffled_buildMapsGPR]
  rfl

/-- Part 1 on the graph, at GPR `i`: the link of the register to its `linkTo`, if any. -/
theorem shuffled_spillGPR (st : LinkState) {i : Nat} (hi : i < counts.gprs)
    (hmap : st.entryNodeToRegisterMap = ⟨heldNodes counts entry.gprInfo entry.fprInfo⟩) :
    (spillGPR graph check entry st i).shuffled =
      match linkTo counts check entry (.gpr (.reg i)) with
      | some next => (st.link (.gpr (.reg i)) next).shuffled
      | none => st.shuffled := by
  have hto : linkTo counts check entry (.gpr (.reg i)) =
      (check.gprInfo i).nodeIndex.bind st.entryNodeToRegisterMap.find := by
    simp [linkTo, nodeIn, hi, hmap]
  rw [hto]
  dsimp only [spillGPR]
  cases (check.gprInfo i).nodeIndex with
  | none => rfl
  | some n =>
    simp only [Option.some_bind]
    cases st.entryNodeToRegisterMap.find n <;>
      simp only [apply_ite LinkState.shuffled, LinkState.emit_shuffled, ite_self]

/-- Part 1 on the graph, at FPR `i`. -/
theorem shuffled_spillFPR (st : LinkState) {i : Nat} (hi : i < counts.fprs)
    (hmap : st.entryNodeToRegisterMap = ⟨heldNodes counts entry.gprInfo entry.fprInfo⟩) :
    (spillFPR graph check entry st i).shuffled =
      match linkTo counts check entry (.fpr ⟨i⟩) with
      | some next => (st.link (.fpr ⟨i⟩) next).shuffled
      | none => st.shuffled := by
  have hto : linkTo counts check entry (.fpr ⟨i⟩) = (check.fprInfo i).nodeIndex.bind st.entryNodeToRegisterMap.find := by
    simp [linkTo, nodeIn, hi, hmap]
  rw [hto]
  dsimp only [spillFPR]
  cases (check.fprInfo i).nodeIndex with
  | none => rfl
  | some n =>
    simp only [Option.some_bind]
    cases st.entryNodeToRegisterMap.find n <;>
      simp only [apply_ite LinkState.shuffled, LinkState.emit_shuffled, ite_self]

theorem shuffled_borrowTagMaskRegister (st : LinkState) : (borrowTagMaskRegister st).shuffled = st.shuffled := by
  unfold borrowTagMaskRegister; split <;> rfl

/-- Before any visit, the graph is empty. -/
theorem linkedBy_zero : linkedBy counts check entry (part1Visited 0 0) = fun _ => .initial := by
  funext r
  have hV : ∀ r, part1Visited 0 0 r = false := by
    intro r; rcases r with (i | _ | _) | ⟨⟨i⟩⟩ <;> simp [part1Visited]
  cases h : linkOf counts check entry r <;> simp [linkedBy, ShuffledRegister.initial, h, hV]

/-- Once every register is visited, the graph is the links. -/
theorem linkedBy_all (hc : UniqueNodes counts check.gprInfo check.fprInfo)
    (he : UniqueNodes counts entry.gprInfo entry.fprInfo) (r : GeneralizedRegister) :
    linkedBy counts check entry (part1Visited counts.gprs counts.fprs) r =
      ⟨linkOf counts check entry r, (linkTo counts check entry r).isSome, (linkOf counts check entry r).isSome,
        false⟩ := by
  have hfilter :
      (linkOf counts check entry r).filter (part1Visited counts.gprs counts.fprs) = linkOf counts check entry r := by
    cases h : linkOf counts check entry r with
    | none => rfl
    | some p =>
      obtain ⟨n, -, hp⟩ := (linkOf_eq_some hc).mp h
      simp [Option.filter_some, part1Visited_of_nodeIn hp]
  have hfrom : (part1Visited counts.gprs counts.fprs r && (linkTo counts check entry r).isSome) =
      (linkTo counts check entry r).isSome := by
    cases h : linkTo counts check entry r with
    | none => simp
    | some s =>
      obtain ⟨n, -, hr⟩ := (linkTo_eq_some he).mp h
      simp [part1Visited_of_nodeIn hr]
  simp only [linkedBy, hfilter, hfrom]

/-- With each node named once on each side, Part 1 leaves the graph of the links: every register's `previous` is its
`linkOf`, `hasFrom` says it has a `linkTo`, `hasTo` that it has a `linkOf`, and nothing is handled. -/
theorem afterPart1_shuffled (hc : UniqueNodes counts check.gprInfo check.fprInfo)
    (he : UniqueNodes counts entry.gprInfo entry.fprInfo) (r : GeneralizedRegister) :
    (afterPart1 counts graph check entry).shuffled r =
      ⟨linkOf counts check entry r, (linkTo counts check entry r).isSome, (linkOf counts check entry r).isSome, false⟩ := by
  rw [← linkedBy_all hc he]
  revert r
  rw [← funext_iff]
  have hmaps := @maps_buildMaps counts check entry
  have hinit := @buildMaps_shuffled_code counts check entry
  simp only [afterPart1]
  generalize (List.range counts.fprs).foldl (buildMapsFPR check entry) _ = st0 at hmaps hinit ⊢
  have hentry : ∀ {st : LinkState} {st' : LinkState}, st'.maps = st.maps →
      st'.entryNodeToRegisterMap = st.entryNodeToRegisterMap := fun h => congrArg Prod.snd h
  obtain ⟨hG, hGmap⟩ := foldl_range_invariant (spillGPR graph check entry)
    (fun k st => st.shuffled = linkedBy counts check entry (part1Visited k 0) ∧
      st.entryNodeToRegisterMap = ⟨heldNodes counts entry.gprInfo entry.fprInfo⟩) counts.gprs st0
    ⟨hinit.1.trans linkedBy_zero.symm, congrArg Prod.snd hmaps⟩
    (fun i hi st ⟨hsh, hmap⟩ => ⟨by rw [shuffled_spillGPR st hi hmap, link_linkedBy hc he hsh, part1Visited_succ_gpr],
      (hentry (maps_spillGPR st i)).trans hmap⟩)
  generalize (List.range counts.gprs).foldl (spillGPR graph check entry) st0 = st1 at hG hGmap
  obtain ⟨hF, -⟩ := foldl_range_invariant (spillFPR graph check entry)
    (fun k st => st.shuffled = linkedBy counts check entry (part1Visited counts.gprs k) ∧
      st.entryNodeToRegisterMap = ⟨heldNodes counts entry.gprInfo entry.fprInfo⟩) counts.fprs
    (borrowTagMaskRegister st1) ⟨(shuffled_borrowTagMaskRegister st1).trans hG,
      (hentry (maps_borrowTagMaskRegister st1)).trans hGmap⟩
    (fun i hi st ⟨hsh, hmap⟩ => ⟨by rw [shuffled_spillFPR st hi hmap, link_linkedBy hc he hsh, part1Visited_succ_fpr],
      (hentry (maps_spillFPR st i)).trans hmap⟩)
  exact hF

end Part1

end JavaScriptCore
