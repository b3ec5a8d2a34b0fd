import Mathlib.Data.List.Nodup
import Mathlib.Data.List.Perm.Subperm
import Mathlib.Data.UInt

/-!
# WTF threading: the thread map and the worker-thread flag

ThreadingPthreads.cpp keeps a `threadMap()` from `ThreadIdentifier` to `pthread_t`, guarded by `threadMapMutex()`, and the
port's flag `gNoWorkerThreadsRunning`, which `waitForAllThreadsCompletion` polls. The main thread registers too, so the map is
never empty once threading is up: the flag is meant to say that the main thread is the only one registered. Registration sets
the flag to false when the map grows past one entry, removal sets it to true when the map drops to at most one.

Calls are serialised by the mutex, so a run is a sequence of calls (`ThreadCall`) applied in order (`step`). The map is a
`HashMap`: `add` keeps an existing entry, `remove` of a missing key does nothing.
-/

namespace JavaScriptCore.WTF

/-- `ThreadIdentifier`: a `uint32_t`. -/
abbrev ThreadIdentifier := UInt32

/-- `HashMap<ThreadIdentifier, pthread_t>`: entries with distinct keys. -/
structure ThreadMap (Handle : Type) where
  entries : List (ThreadIdentifier × Handle)
  nodup : (entries.map Prod.fst).Nodup

namespace ThreadMap

variable {Handle : Type}

/-- The empty map. -/
def empty : ThreadMap Handle := ⟨[], List.nodup_nil⟩

/-- The keys. -/
def keys (t : ThreadMap Handle) : List ThreadIdentifier := t.entries.map Prod.fst

/-- `HashMap::size`. -/
def size (t : ThreadMap Handle) : Nat := t.entries.length

/-- `HashMap::contains`. -/
def contains (t : ThreadMap Handle) (id : ThreadIdentifier) : Bool := t.keys.contains id

/-- `HashMap::add`: a new key is added, an existing one keeps its value. -/
def add (t : ThreadMap Handle) (id : ThreadIdentifier) (h : Handle) : ThreadMap Handle :=
  if hc : t.contains id then t
  else ⟨t.entries ++ [(id, h)], by
    have hid : id ∉ t.keys := by simpa [contains] using hc
    rw [List.map_append, List.nodup_append]
    exact ⟨t.nodup, List.nodup_singleton _, by simpa [keys] using hid⟩⟩

/-- `HashMap::remove`: a missing key leaves the map as it is. -/
def remove (t : ThreadMap Handle) (id : ThreadIdentifier) : ThreadMap Handle :=
  ⟨t.entries.filter (fun e => e.1 != id), (List.Sublist.map _ (List.filter_sublist _)).nodup t.nodup⟩

/-- `HashMap::get`: the value, or `none` for the traits' empty value (a null `pthread_t`). -/
def get (t : ThreadMap Handle) (id : ThreadIdentifier) : Option Handle := (t.entries.find? (·.1 == id)).map Prod.snd

theorem size_le_size_add (t : ThreadMap Handle) (id : ThreadIdentifier) (h : Handle) : t.size ≤ (t.add id h).size := by
  unfold add
  split
  · exact le_rfl
  · simp [size]

theorem size_remove_le (t : ThreadMap Handle) (id : ThreadIdentifier) : (t.remove id).size ≤ t.size :=
  List.length_filter_le _ _

/-- A map holding `main` has at most one entry exactly when every key is `main`. -/
theorem size_le_one_iff (t : ThreadMap Handle) {main : ThreadIdentifier} (hm : main ∈ t.keys) :
    t.size ≤ 1 ↔ ∀ id ∈ t.keys, id = main := by
  have hlen : t.keys.length = t.size := List.length_map _ _
  constructor
  · intro h id hid
    by_contra hne
    have hsub : [main, id].Subperm t.keys := (by simp [Ne.symm hne] : [main, id].Nodup).subperm (by simp [hm, hid])
    have := hsub.length_le
    simp only [List.length_cons, List.length_nil] at this
    omega
  · intro h
    have hsub : t.keys.Subperm [main] := t.nodup.subperm fun id hid => by simp [h id hid]
    simpa [hlen] using hsub.length_le

/-- Keys are distinct, so `get` finds exactly the entries of the map. -/
theorem get_eq_some_iff (t : ThreadMap Handle) {id : ThreadIdentifier} {h : Handle} :
    t.get id = some h ↔ (id, h) ∈ t.entries := by
  constructor
  · intro hg
    obtain ⟨e, he, rfl⟩ := Option.map_eq_some'.1 hg
    have hk : e.1 = id := by simpa using List.find?_some he
    exact hk ▸ List.mem_of_find?_eq_some he
  · intro hm
    cases hf : t.entries.find? (·.1 == id) with
    | none => exact absurd hm fun hm => List.find?_eq_none.1 hf _ hm (by simp)
    | some e =>
      have hk : e.1 = id := by simpa using List.find?_some hf
      have he := List.inj_on_of_nodup_map t.nodup (List.mem_of_find?_eq_some hf) hm hk
      simp [get, hf, he]

theorem mem_add {t : ThreadMap Handle} {e : ThreadIdentifier × Handle} (he : e ∈ t.entries) (id : ThreadIdentifier)
    (h : Handle) : e ∈ (t.add id h).entries := by
  unfold add
  split
  · exact he
  · simp [he]

theorem mem_add_self {t : ThreadMap Handle} {id : ThreadIdentifier} (hid : id ∉ t.keys) (h : Handle) :
    (id, h) ∈ (t.add id h).entries := by
  simp [add, contains, hid]

theorem mem_keys_add {t : ThreadMap Handle} {id k : ThreadIdentifier} {h : Handle} (hk : k ∈ (t.add id h).keys) :
    k ∈ t.keys ∨ k = id := by
  unfold add at hk
  split at hk
  · exact .inl hk
  · simpa [keys] using hk

theorem mem_remove {t : ThreadMap Handle} {e : ThreadIdentifier × Handle} (he : e ∈ t.entries) {id : ThreadIdentifier}
    (hne : e.1 ≠ id) : e ∈ (t.remove id).entries := by
  simp [remove, he, hne]

theorem mem_keys_remove {t : ThreadMap Handle} {id k : ThreadIdentifier} (hk : k ∈ (t.remove id).keys) : k ∈ t.keys :=
  (List.Sublist.map _ (List.filter_sublist _)).subset hk

end ThreadMap

/-- What ThreadingPthreads.cpp keeps: the map, the static `identifierCount` of `establishIdentifierForPthreadHandle`, and
`gNoWorkerThreadsRunning`. -/
structure ThreadingState (Handle : Type) where
  threadMap : ThreadMap Handle
  identifierCount : ThreadIdentifier
  gNoWorkerThreadsRunning : Bool

/-- A call that takes `threadMapMutex()`. -/
inductive ThreadCall (Handle : Type) where
  | establishIdentifierForPthreadHandle (handle : Handle)
  | clearPthreadHandleForIdentifier (id : ThreadIdentifier)

/-- The call registers a thread. -/
def ThreadCall.isEstablish {Handle : Type} : ThreadCall Handle → Bool
  | .establishIdentifierForPthreadHandle _ => true
  | .clearPthreadHandleForIdentifier _ => false

namespace ThreadingState

variable {Handle : Type}

/-- Before any thread is registered: `identifierCount` starts at 1 and the flag at `true`. -/
def initial : ThreadingState Handle := ⟨.empty, 1, true⟩

/-- `establishIdentifierForPthreadHandle`: the new state and the identifier it returns. -/
def establishIdentifierForPthreadHandle (s : ThreadingState Handle) (handle : Handle) :
    ThreadingState Handle × ThreadIdentifier :=
  let map := s.threadMap.add s.identifierCount handle
  (⟨map, s.identifierCount + 1, if map.size > 1 then false else s.gNoWorkerThreadsRunning⟩, s.identifierCount)

@[simp] theorem establishIdentifierForPthreadHandle_snd (s : ThreadingState Handle) (handle : Handle) :
    (s.establishIdentifierForPthreadHandle handle).2 = s.identifierCount := rfl

@[simp] theorem establishIdentifierForPthreadHandle_threadMap (s : ThreadingState Handle) (handle : Handle) :
    (s.establishIdentifierForPthreadHandle handle).1.threadMap = s.threadMap.add s.identifierCount handle := rfl

/-- `clearPthreadHandleForIdentifier`. -/
def clearPthreadHandleForIdentifier (s : ThreadingState Handle) (id : ThreadIdentifier) : ThreadingState Handle :=
  let map := s.threadMap.remove id
  ⟨map, s.identifierCount, if map.size ≤ 1 then true else s.gNoWorkerThreadsRunning⟩

/-- `pthreadHandleForIdentifier`. -/
def pthreadHandleForIdentifier (s : ThreadingState Handle) (id : ThreadIdentifier) : Option Handle := s.threadMap.get id

/-- One call. -/
def step (s : ThreadingState Handle) : ThreadCall Handle → ThreadingState Handle
  | .establishIdentifierForPthreadHandle h => (s.establishIdentifierForPthreadHandle h).1
  | .clearPthreadHandleForIdentifier id => s.clearPthreadHandleForIdentifier id

/-- A run of calls from the initial state. -/
def run (calls : List (ThreadCall Handle)) : ThreadingState Handle := calls.foldl step initial

/-- The flag tracks the size: it is true exactly when at most one thread is registered. -/
def FlagTracksSize (s : ThreadingState Handle) : Prop := s.gNoWorkerThreadsRunning = true ↔ s.threadMap.size ≤ 1

theorem flagTracksSize_initial : (initial : ThreadingState Handle).FlagTracksSize := by
  simp [FlagTracksSize, initial, ThreadMap.empty, ThreadMap.size]

/-- Registration keeps the flag in step: the map only grows, so a flag left alone was already true. -/
theorem flagTracksSize_establish {s : ThreadingState Handle} (hs : s.FlagTracksSize) (h : Handle) :
    (s.establishIdentifierForPthreadHandle h).1.FlagTracksSize := by
  have := s.threadMap.size_le_size_add s.identifierCount h
  unfold FlagTracksSize at *
  simp only [establishIdentifierForPthreadHandle]
  split <;> simp_all; omega

/-- Removal keeps the flag in step: the map only shrinks, so a flag left alone was already false. -/
theorem flagTracksSize_clear {s : ThreadingState Handle} (hs : s.FlagTracksSize) (id : ThreadIdentifier) :
    (s.clearPthreadHandleForIdentifier id).FlagTracksSize := by
  have := s.threadMap.size_remove_le id
  unfold FlagTracksSize at *
  simp only [clearPthreadHandleForIdentifier]
  split <;> simp_all; omega

theorem flagTracksSize_step {s : ThreadingState Handle} (hs : s.FlagTracksSize) (c : ThreadCall Handle) :
    (s.step c).FlagTracksSize := by
  cases c with
  | establishIdentifierForPthreadHandle h => exact flagTracksSize_establish hs h
  | clearPthreadHandleForIdentifier id => exact flagTracksSize_clear hs id

theorem flagTracksSize_foldl (calls : List (ThreadCall Handle)) {s : ThreadingState Handle} (hs : s.FlagTracksSize) :
    (calls.foldl step s).FlagTracksSize := by
  induction calls generalizing s with
  | nil => exact hs
  | cons c calls ih => exact ih (flagTracksSize_step hs c)

/-- After every run of registrations and removals from the start, `gNoWorkerThreadsRunning` is true exactly when the map
holds at most one entry; so while the main thread is registered, the flag `waitForAllThreadsCompletion` polls is true exactly
when no other thread is. -/
theorem gNoWorkerThreadsRunning_iff (calls : List (ThreadCall Handle)) :
    ((run calls).gNoWorkerThreadsRunning = true ↔ (run calls).threadMap.size ≤ 1) ∧
    ∀ main ∈ (run calls).threadMap.keys,
      ((run calls).gNoWorkerThreadsRunning = true ↔ ∀ id ∈ (run calls).threadMap.keys, id = main) := by
  have h := flagTracksSize_foldl calls flagTracksSize_initial
  exact ⟨h, fun main hm => h.trans ((run calls).threadMap.size_le_one_iff hm)⟩

/-! ## Identifiers

`identifierCount` is a `uint32_t` bumped by every registration and never checked: it counts registrations modulo 2^32. Up to
2^32 - 2 registrations every identifier handed out is above every key and nonzero (`establishIdentifier_fresh`); the next one
is 0, the value `createThreadInternal` returns on failure and `currentThread` reads as "not established", and the one after
that is 1 again, a key the first registration still holds, so `add` keeps the old handle (`establishIdentifier_wraps`). -/

/-- The number of registrations in a run. -/
def registrations (calls : List (ThreadCall Handle)) : Nat := calls.countP ThreadCall.isEstablish

@[simp] theorem registrations_nil : registrations ([] : List (ThreadCall Handle)) = 0 := rfl

@[simp] theorem registrations_cons (c : ThreadCall Handle) (calls : List (ThreadCall Handle)) :
    registrations (c :: calls) = registrations calls + if c.isEstablish then 1 else 0 :=
  List.countP_cons _ _ _

theorem toNat_add_one (a : UInt32) : (a + 1).toNat = (a.toNat + 1) % 2 ^ 32 := by
  rw [UInt32.add_def, UInt32.one_def]
  exact BitVec.toNat_add _ _

/-- One call bumps the counter, modulo 2^32, exactly when it is a registration. -/
theorem toNat_identifierCount_step (s : ThreadingState Handle) (c : ThreadCall Handle) :
    (s.step c).identifierCount.toNat = (s.identifierCount.toNat + if c.isEstablish then 1 else 0) % 2 ^ 32 := by
  cases c with
  | establishIdentifierForPthreadHandle h => exact toNat_add_one _
  | clearPthreadHandleForIdentifier id => exact (Nat.mod_eq_of_lt s.identifierCount.toBitVec.isLt).symm

/-- The counter after a run: the registrations added, modulo 2^32. -/
theorem toNat_identifierCount_foldl (calls : List (ThreadCall Handle)) (s : ThreadingState Handle) :
    (calls.foldl step s).identifierCount.toNat = (s.identifierCount.toNat + registrations calls) % 2 ^ 32 := by
  induction calls generalizing s with
  | nil => exact (Nat.mod_eq_of_lt s.identifierCount.toBitVec.isLt).symm
  | cons c calls ih =>
    rw [List.foldl_cons, ih, toNat_identifierCount_step, registrations_cons]
    omega

/-- An entry stays in the map through every call but the removal of its key. -/
theorem mem_entries_foldl {calls : List (ThreadCall Handle)} {k : ThreadIdentifier}
    (hc : ∀ c ∈ calls, c ≠ .clearPthreadHandleForIdentifier k) {s : ThreadingState Handle} {v : Handle}
    (hs : (k, v) ∈ s.threadMap.entries) : (k, v) ∈ (calls.foldl step s).threadMap.entries := by
  induction calls generalizing s with
  | nil => exact hs
  | cons c calls ih =>
    refine ih (fun c' hc' => hc c' (.tail _ hc')) ?_
    cases c with
    | establishIdentifierForPthreadHandle h => exact ThreadMap.mem_add hs _ h
    | clearPthreadHandleForIdentifier id =>
      exact ThreadMap.mem_remove hs fun he => hc _ (.head _) (by rw [← he])

/-- While the counter has not wrapped, it is positive and above every key. -/
def IdentifiersBelowCount (s : ThreadingState Handle) : Prop :=
  0 < s.identifierCount.toNat ∧ ∀ id ∈ s.threadMap.keys, 0 < id.toNat ∧ id.toNat < s.identifierCount.toNat

theorem identifiersBelowCount_initial : (initial : ThreadingState Handle).IdentifiersBelowCount :=
  ⟨Nat.one_pos, by simp [initial, ThreadMap.empty, ThreadMap.keys]⟩

/-- A registration hands out the counter and bumps it, a removal only shrinks the map. -/
theorem identifiersBelowCount_step {s : ThreadingState Handle} (hs : s.IdentifiersBelowCount) (c : ThreadCall Handle)
    (hw : c.isEstablish → s.identifierCount.toNat + 1 < 2 ^ 32) : (s.step c).IdentifiersBelowCount := by
  cases c with
  | establishIdentifierForPthreadHandle h =>
    simp only [IdentifiersBelowCount, step, establishIdentifierForPthreadHandle, toNat_add_one, Nat.mod_eq_of_lt (hw rfl)]
    refine ⟨by omega, fun id hid => ?_⟩
    rcases ThreadMap.mem_keys_add hid with hid | rfl
    · have := hs.2 id hid; omega
    · have := hs.1; omega
  | clearPthreadHandleForIdentifier id => exact ⟨hs.1, fun k hk => hs.2 k (ThreadMap.mem_keys_remove hk)⟩

/-- The counter after a run from the start: one more than the registrations, modulo 2^32. -/
theorem toNat_identifierCount_run (calls : List (ThreadCall Handle)) :
    (run calls).identifierCount.toNat = (1 + registrations calls) % 2 ^ 32 :=
  toNat_identifierCount_foldl calls initial

end ThreadingState

end JavaScriptCore.WTF
