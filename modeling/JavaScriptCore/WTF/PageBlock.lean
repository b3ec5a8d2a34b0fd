import Mathlib.Data.List.Basic

/-!
# `WTF::pageSize`: the page size, asked for until it is known

`pageSize` asks the platform's `systemPageSize` for the page size and caches the answer in `s_pageSize`. The cache is tested
for zero, so an answer of 0 is not kept and the next call asks again. Over any run of calls, each call returns the first
nonzero answer the platform has given so far, or 0 while there is none, and once one is given the cache keeps it
(`pageSizeRun_eq`); the platform is asked exactly at the calls that no nonzero answer precedes (`pageSizeRun_asks_iff`).

Which `systemPageSize` runs depends on the platform (`getpagesize`, `GetSystemInfo`, a fixed 4096 or 256 KiB), so the model
takes its answer at each call as an input. The `ASSERT(isPowerOfTwo(s_pageSize))` reads a helper of `StdLibExtras.h`, absent
from `src/`, and is left out.
-/

namespace JavaScriptCore.WTF

/-- `pageSize`: from the cache `s_pageSize` and the answer `systemPageSize` would give, the size returned and the new cache.
-/
def pageSize (s_pageSize systemPageSize : Nat) : Nat × Nat :=
  let size := if s_pageSize = 0 then systemPageSize else s_pageSize
  (size, size)

/-- A run of calls from the cache `s_pageSize`, `answers` giving what `systemPageSize` would answer at each call: the sizes
the calls return, and the cache after them. -/
def pageSizeRun : Nat → List Nat → List Nat × Nat
  | s_pageSize, [] => ([], s_pageSize)
  | s_pageSize, answer :: answers =>
    ((pageSize s_pageSize answer).1 :: (pageSizeRun (pageSize s_pageSize answer).2 answers).1,
      (pageSizeRun (pageSize s_pageSize answer).2 answers).2)

/-- The first nonzero size of a list, 0 if there is none. -/
def firstNonzero (sizes : List Nat) : Nat := (sizes.find? (· ≠ 0)).getD 0

@[simp] theorem firstNonzero_cons_zero (sizes : List Nat) : firstNonzero (0 :: sizes) = firstNonzero sizes := by
  simp [firstNonzero]

theorem firstNonzero_cons_of_ne {size : Nat} (h : size ≠ 0) (sizes : List Nat) : firstNonzero (size :: sizes) = size := by
  simp [firstNonzero, h]

theorem firstNonzero_singleton (size : Nat) : firstNonzero [size] = size := by
  by_cases h : size = 0
  · subst h; rfl
  · exact firstNonzero_cons_of_ne h []

theorem firstNonzero_eq_zero_iff {sizes : List Nat} : firstNonzero sizes = 0 ↔ ∀ size ∈ sizes, size = 0 := by
  induction sizes with
  | nil => simp [firstNonzero]
  | cons size sizes ih =>
    by_cases h : size = 0
    · subst h; simp [ih]
    · simp [firstNonzero_cons_of_ne h, h]

/-- One call folds the platform's answer into the cache as `firstNonzero` folds the next size. -/
theorem firstNonzero_pageSize (s_pageSize answer : Nat) (sizes : List Nat) :
    firstNonzero (s_pageSize :: answer :: sizes) = firstNonzero ((pageSize s_pageSize answer).2 :: sizes) := by
  by_cases h : s_pageSize = 0
  · subst h; simp [pageSize]
  · simp only [pageSize, h, if_false, firstNonzero_cons_of_ne h]

/-- The cache a run leaves is the first nonzero size among the cache it started from and the platform's answers. -/
theorem pageSizeRun_snd (s_pageSize : Nat) (answers : List Nat) :
    (pageSizeRun s_pageSize answers).2 = firstNonzero (s_pageSize :: answers) := by
  induction answers generalizing s_pageSize with
  | nil => exact (firstNonzero_singleton s_pageSize).symm
  | cons answer answers ih => rw [pageSizeRun, ih, firstNonzero_pageSize]

/-- Each call of a run returns the first nonzero size among the cache the run started from and the answers so far, and the
cache it leaves is that size. -/
theorem pageSizeRun_eq (s_pageSize : Nat) (answers : List Nat) :
    pageSizeRun s_pageSize answers =
      ((List.range answers.length).map fun i => firstNonzero (s_pageSize :: answers.take (i + 1)),
        firstNonzero (s_pageSize :: answers)) := by
  induction answers generalizing s_pageSize with
  | nil => simp [pageSizeRun, firstNonzero_singleton]
  | cons answer answers ih =>
    rw [pageSizeRun, ih, firstNonzero_pageSize, List.length_cons, List.range_succ_eq_map, List.map_cons, List.map_map]
    simp only [Function.comp_def, List.take_succ_cons, List.take_zero, firstNonzero_pageSize, firstNonzero_singleton]
    rfl

/-- An answer of 0 is not cached: the platform is asked again, and its first nonzero answer is kept. -/
example : pageSizeRun 0 [0, 4096, 16384] = ([0, 4096, 4096], 4096) := rfl

/-- From the start, the call after the first `i` asks the platform exactly when none of their answers was nonzero. -/
theorem pageSizeRun_asks_iff (answers : List Nat) (i : Nat) :
    (pageSizeRun 0 (answers.take i)).2 = 0 ↔ ∀ answer ∈ answers.take i, answer = 0 := by
  rw [pageSizeRun_snd, firstNonzero_cons_zero, firstNonzero_eq_zero_iff]

end JavaScriptCore.WTF
