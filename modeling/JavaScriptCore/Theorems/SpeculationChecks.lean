import JavaScriptCore.DFG.JITCompiler
import Mathlib.Data.List.Destutter
import Mathlib.Data.List.Dedup
import Mathlib.Data.List.Sort

/-!
# Linking every speculation check

`linkSpeculationChecks` walks the checks and the entry locations with two iterators: for each entry a `do`-`while` links the
check at hand and every following check of the entry's node, then the entry iterator moves on. The loop only compares a
check with the entry at hand, so what it needs of the entries is that their node indices are the checks' node indices with
each run of equal ones collapsed (`destutter`); for checks in node order that is the list of distinct node indices
(`dedup_eq_destutter`). Under that it links every check once, in order, to the entry of its node, never reads an entry past
the end, and stops with both iterators at their ends (`linkSpeculationChecks_links_each_check`).
-/

namespace JavaScriptCore

/-- For a non-decreasing list, the distinct elements in order are its runs collapsed. -/
theorem dedup_eq_destutter {l : List Nat} (hl : l.Sorted (· ≤ ·)) : l.dedup = l.destutter (· ≠ ·) := by
  induction l with
  | nil => rfl
  | cons a t ih =>
    rw [List.sorted_cons] at hl
    cases t with
    | nil => rfl
    | cons b t =>
      rw [List.destutter_cons_cons]
      by_cases hab : a = b
      · subst hab
        rw [List.dedup_cons_of_mem (List.mem_cons_self _ _), ih hl.2, List.destutter_cons', if_neg (not_not.2 rfl)]
      · have hlt : a < b := lt_of_le_of_ne (hl.1 b (List.mem_cons_self _ _)) hab
        have hnot : a ∉ b :: t := fun ha => by
          rcases List.mem_cons.1 ha with rfl | ha
          · exact hab rfl
          · exact absurd ((List.sorted_cons.1 hl.2).1 a ha) (not_le.2 hlt)
        rw [List.dedup_cons_of_not_mem hnot, ih hl.2, List.destutter_cons', if_pos hab]

/-- Collapsing runs starts with the element at hand. -/
theorem destutter'_eq_cons {R : Nat → Nat → Prop} [DecidableRel R] (a : Nat) (l : List Nat) :
    ∃ t, l.destutter' R a = a :: t := by
  induction l generalizing a with
  | nil => exact ⟨[], List.destutter'_nil _⟩
  | cons b l ih =>
    rw [List.destutter'_cons]
    split
    · exact ⟨_, rfl⟩
    · exact ih a

section EntryChecks

variable (entry : EntryLocation)

/-- The `do`-`while` links a prefix of the checks and leaves the rest. -/
theorem linkEntryChecks_checks (check : SpeculationCheck) (cs : List SpeculationCheck) :
    (linkEntryChecks entry check cs).1.map Prod.fst ++ (linkEntryChecks entry check cs).2 = check :: cs := by
  induction cs generalizing check with
  | nil => rfl
  | cons c cs ih =>
    simp only [linkEntryChecks]
    split
    · simp [ih c]
    · rfl

/-- Every check the `do`-`while` links goes to `entry` and, the first one being of `entry`'s node, has its node. -/
theorem linkEntryChecks_pairs {check : SpeculationCheck} (hc : check.nodeIndex = entry.nodeIndex)
    (cs : List SpeculationCheck) :
    ∀ l ∈ (linkEntryChecks entry check cs).1, l.2 = entry ∧ l.1.nodeIndex = entry.nodeIndex := by
  induction cs generalizing check with
  | nil => simp [linkEntryChecks, hc]
  | cons c cs ih =>
    simp only [linkEntryChecks]
    split
    · rename_i hc'
      simpa [hc] using ih hc'
    · simp [hc]

/-- The run the `do`-`while` consumes is the first element of the collapsed node indices; the checks it leaves give the
rest. -/
theorem destutter'_linkEntryChecks (check : SpeculationCheck) (cs : List SpeculationCheck) :
    (cs.map (·.nodeIndex)).destutter' (· ≠ ·) entry.nodeIndex =
      entry.nodeIndex :: ((linkEntryChecks entry check cs).2.map (·.nodeIndex)).destutter (· ≠ ·) := by
  induction cs generalizing check with
  | nil => rfl
  | cons c cs ih =>
    simp only [linkEntryChecks, List.map_cons, List.destutter'_cons]
    by_cases hc : c.nodeIndex = entry.nodeIndex
    · rw [if_pos hc, if_neg (not_not.2 hc.symm)]
      exact ih c
    · rw [if_neg hc, if_pos (Ne.symm hc), List.map_cons, List.destutter_cons']

end EntryChecks

/-- Whenever the entries' node indices are the checks' node indices with runs collapsed, the loop links every check once, in
order, to an entry of its node, and ends with no entry left. -/
theorem linkSpeculationChecksLoop_of_destutter (entries : List EntryLocation) (checks : List SpeculationCheck)
    (he : entries.map (·.nodeIndex) = (checks.map (·.nodeIndex)).destutter (· ≠ ·)) :
    ∃ links, linkSpeculationChecksLoop checks entries = some (links, []) ∧ links.map Prod.fst = checks ∧
      ∀ l ∈ links, l.2 ∈ entries ∧ l.2.nodeIndex = l.1.nodeIndex := by
  induction entries generalizing checks with
  | nil =>
    obtain rfl : checks = [] := List.map_eq_nil_iff.1 ((List.destutter_eq_nil _).1 he.symm)
    exact ⟨[], rfl, rfl, by simp⟩
  | cons e es ih =>
    cases checks with
    | nil => nomatch he
    | cons c cs =>
      rw [List.map_cons, List.map_cons, List.destutter_cons'] at he
      have hc : c.nodeIndex = e.nodeIndex := by
        obtain ⟨t, ht⟩ := destutter'_eq_cons (R := (· ≠ ·)) c.nodeIndex (cs.map (·.nodeIndex))
        rw [ht] at he
        exact (List.cons.inj he).1.symm
      rw [hc, destutter'_linkEntryChecks e c cs] at he
      obtain ⟨links, hl, hfst, hpairs⟩ := ih _ (List.cons.inj he).2
      refine ⟨(linkEntryChecks e c cs).1 ++ links, by simp [linkSpeculationChecksLoop, hc, hl], ?_, fun l hl' => ?_⟩
      · rw [List.map_append, hfst, linkEntryChecks_checks]
      · rcases List.mem_append.1 hl' with hl' | hl'
        · obtain ⟨h2, h1⟩ := linkEntryChecks_pairs e hc cs l hl'
          exact ⟨h2 ▸ List.mem_cons_self _ _, h2 ▸ h1.symm⟩
        · exact ⟨List.mem_cons_of_mem _ (hpairs l hl').1, (hpairs l hl').2⟩

/-- For checks whose node indices are non-decreasing and entries whose node indices are the distinct check node indices in
order: the loop never reads `entriesIter` at its end nor fails an assertion, links each check exactly once, in order, to the
entry of its node, and ends with both iterators at their ends; `linkSpeculationChecks` plants
`jumpFromSpeculativeToNonSpeculative` for each of these pairs in turn. -/
theorem linkSpeculationChecks_links_each_check (counts : RegisterCounts) (graph : Graph)
    (speculationRecovery : SpeculationCheck → Option SpeculationRecovery) {checks : List SpeculationCheck}
    {entries : List EntryLocation} (hs : (checks.map (·.nodeIndex)).Sorted (· ≤ ·))
    (he : entries.map (·.nodeIndex) = (checks.map (·.nodeIndex)).dedup) :
    ∃ links : List (SpeculationCheck × EntryLocation),
      linkSpeculationChecksLoop checks entries = some (links, []) ∧ links.map Prod.fst = checks ∧
      (∀ l ∈ links, l.2 ∈ entries ∧ l.2.nodeIndex = l.1.nodeIndex) ∧
      linkSpeculationChecks counts graph speculationRecovery checks entries =
        some (links.flatMap fun l => jumpFromSpeculativeToNonSpeculative counts graph l.1 l.2 (speculationRecovery l.1)) := by
  obtain ⟨links, hl, hfst, hpairs⟩ := linkSpeculationChecksLoop_of_destutter entries checks (he.trans (dedup_eq_destutter hs))
  exact ⟨links, hl, hfst, hpairs, by simp only [linkSpeculationChecks, hl]⟩

/-- Two checks at node 1 and one at node 4, linked to the entries of nodes 1 and 4. -/
theorem linkSpeculationChecks_links_two_runs :
    ([(⟨1, fun _ => .noNode, fun _ => .noNode⟩ : SpeculationCheck), ⟨1, fun _ => .noNode, fun _ => .noNode⟩,
        ⟨4, fun _ => .noNode, fun _ => .noNode⟩].map (·.nodeIndex)).Sorted (· ≤ ·) ∧
    ([(⟨1, fun _ => .noNode, fun _ => .noNode⟩ : EntryLocation), ⟨4, fun _ => .noNode, fun _ => .noNode⟩].map
        (·.nodeIndex)) =
      ([(⟨1, fun _ => .noNode, fun _ => .noNode⟩ : SpeculationCheck), ⟨1, fun _ => .noNode, fun _ => .noNode⟩,
        ⟨4, fun _ => .noNode, fun _ => .noNode⟩].map (·.nodeIndex)).dedup ∧
    ∃ links : List (SpeculationCheck × EntryLocation),
      linkSpeculationChecksLoop [⟨1, fun _ => .noNode, fun _ => .noNode⟩, ⟨1, fun _ => .noNode, fun _ => .noNode⟩,
          ⟨4, fun _ => .noNode, fun _ => .noNode⟩]
        [⟨1, fun _ => .noNode, fun _ => .noNode⟩, ⟨4, fun _ => .noNode, fun _ => .noNode⟩] = some (links, []) ∧
      links.map Prod.fst = [⟨1, fun _ => .noNode, fun _ => .noNode⟩, ⟨1, fun _ => .noNode, fun _ => .noNode⟩,
          ⟨4, fun _ => .noNode, fun _ => .noNode⟩] ∧
      (∀ l ∈ links, l.2 ∈ [(⟨1, fun _ => .noNode, fun _ => .noNode⟩ : EntryLocation),
          ⟨4, fun _ => .noNode, fun _ => .noNode⟩] ∧ l.2.nodeIndex = l.1.nodeIndex) ∧
      linkSpeculationChecks ⟨2, 1, by decide, by decide⟩ ⟨fun _ => 0, fun _ => none, fun _ _ h => nomatch h⟩
          (fun _ => none) [⟨1, fun _ => .noNode, fun _ => .noNode⟩, ⟨1, fun _ => .noNode, fun _ => .noNode⟩,
            ⟨4, fun _ => .noNode, fun _ => .noNode⟩]
          [⟨1, fun _ => .noNode, fun _ => .noNode⟩, ⟨4, fun _ => .noNode, fun _ => .noNode⟩] =
        some (links.flatMap fun l => jumpFromSpeculativeToNonSpeculative ⟨2, 1, by decide, by decide⟩
          ⟨fun _ => 0, fun _ => none, fun _ _ h => nomatch h⟩ l.1 l.2 none) :=
  ⟨by decide, by decide, linkSpeculationChecks_links_each_check ⟨2, 1, by decide, by decide⟩
    ⟨fun _ => 0, fun _ => none, fun _ _ h => nomatch h⟩ (fun _ => none) (by decide) (by decide)⟩

end JavaScriptCore
