import JavaScriptCore.WTF.Threading

/-!
# WTF threading: looking threads up by identifier and by handle

`pthreadHandleForIdentifier` looks a thread up by its identifier; `identifierByPthreadHandle` looks it up by its handle,
scanning the map for an entry holding the handle (`pthread_equal`) and answering 0 when none does. A thread that
`createThreadInternal` starts is registered by its creator, and then looks itself up by handle in
`initializeCurrentThreadInternal`; its creator joins or detaches it by the identifier it got back.

Both lookups answer for the same entries as long as two things hold over the run: identifiers have not wrapped (see
`establishIdentifier_wraps`), and every registration is of a handle with no identifier yet, the `ASSERT` at the top of
`establishIdentifierForPthreadHandle` (`registersNewHandles`). Then keys and handles are both distinct and keys are nonzero
(`Registry`), so a handle sits in at most one entry and the order of the scan, which a `HashMap` does not fix, does not matter.
The two lookups are then inverse (`pthreadHandleForIdentifier_iff_identifierByPthreadHandle`), and a created thread finds the
identifier its creator got back, whatever other threads register or remove in between
(`createThreadInternal_finds_thread`).

Past the wrap this fails on runs that pass the `ASSERT`: after `2^32 - 1` registrations the counter hands out 0, which
`currentThread` takes for "not established", and then 1 again, a key a long-lived thread still holds
(`establishIdentifier_wraps`).
-/

namespace JavaScriptCore.WTF

namespace ThreadMap

variable {Handle : Type}

theorem entries_add_of_not_mem {t : ThreadMap Handle} {id : ThreadIdentifier} (hid : id ∉ t.keys) (h : Handle) :
    (t.add id h).entries = t.entries ++ [(id, h)] := by
  simp [add, contains, hid]

variable [DecidableEq Handle]

/-- With distinct handles, the scan for a handle finds exactly the entry holding it. -/
theorem find?_handle_eq_some_iff (t : ThreadMap Handle) (hn : (t.entries.map Prod.snd).Nodup) {h : Handle}
    {e : ThreadIdentifier × Handle} : t.entries.find? (·.2 == h) = some e ↔ e ∈ t.entries ∧ e.2 = h := by
  constructor
  · intro he
    exact ⟨List.mem_of_find?_eq_some he, by simpa using List.find?_some he⟩
  · rintro ⟨hm, rfl⟩
    cases hf : t.entries.find? (·.2 == e.2) with
    | none => exact absurd hm fun hm => List.find?_eq_none.1 hf _ hm (by simp)
    | some e' =>
      have hk : e'.2 = e.2 := by simpa using List.find?_some hf
      rw [List.inj_on_of_nodup_map hn (List.mem_of_find?_eq_some hf) hm hk]

end ThreadMap

namespace ThreadingState

variable {Handle : Type}

/-- What a run keeps while identifiers have not wrapped and every registration is of a new handle: the counter is above every
key, and handles are distinct as keys are. -/
structure Registry (s : ThreadingState Handle) : Prop where
  belowCount : s.IdentifiersBelowCount
  handles_nodup : (s.threadMap.entries.map Prod.snd).Nodup

theorem Registry.initial : (initial : ThreadingState Handle).Registry :=
  ⟨identifiersBelowCount_initial, List.nodup_nil⟩

theorem Registry.key_ne_zero {s : ThreadingState Handle} (hs : s.Registry) : ∀ id ∈ s.threadMap.keys, id ≠ 0 :=
  fun id hid h0 => by
    have := (hs.belowCount.2 id hid).1
    rw [h0] at this
    exact absurd this (by decide)

/-- A removal keeps the registry: it only drops entries. -/
theorem Registry.clear {s : ThreadingState Handle} (hs : s.Registry) (id : ThreadIdentifier) :
    (s.clearPthreadHandleForIdentifier id).Registry :=
  ⟨identifiersBelowCount_step hs.belowCount (.clearPthreadHandleForIdentifier id) (absurd · Bool.false_ne_true),
    (List.Sublist.map _ (List.filter_sublist _)).nodup hs.handles_nodup⟩

variable [DecidableEq Handle]

/-- `identifierByPthreadHandle`: the key of the first entry holding the handle, 0 if none does. The model scans the entries
in the order they were added; a `HashMap` iterates in an order of its own. -/
def identifierByPthreadHandle (s : ThreadingState Handle) (pthreadHandle : Handle) : ThreadIdentifier :=
  match s.threadMap.entries.find? (·.2 == pthreadHandle) with
  | some e => e.1
  | none => 0

/-- `createThreadInternal`: `pthread_create` either fails (`none`) and 0 is returned, or gives the new thread's handle, which
is registered. -/
def createThreadInternal (s : ThreadingState Handle) (threadHandle : Option Handle) :
    ThreadingState Handle × ThreadIdentifier :=
  match threadHandle with
  | none => (s, 0)
  | some threadHandle => s.establishIdentifierForPthreadHandle threadHandle

/-- `initializeCurrentThreadInternal`, run by the new thread `self` (`pthread_self()`): the identifier it stores in its
`ThreadIdentifierData` (the code asserts it nonzero). -/
def initializeCurrentThreadInternal (s : ThreadingState Handle) (self : Handle) : ThreadIdentifier :=
  s.identifierByPthreadHandle self

/-- `currentThread`, called by the thread `self` whose `ThreadIdentifierData` holds `identifier` (0 before it is
initialized): a thread WTF did not create registers itself on its first call. -/
def currentThread (s : ThreadingState Handle) (self : Handle) (identifier : ThreadIdentifier) :
    ThreadingState Handle × ThreadIdentifier :=
  if identifier ≠ 0 then (s, identifier) else s.establishIdentifierForPthreadHandle self

/-- `waitForThreadCompletion`: 0 when the identifier has no handle, else what `pthread_join` returns for the handle. -/
def waitForThreadCompletion (s : ThreadingState Handle) (threadID : ThreadIdentifier) (pthread_join : Handle → Int) : Int :=
  match s.pthreadHandleForIdentifier threadID with
  | none => 0
  | some pthreadHandle => pthread_join pthreadHandle

/-- `detachThread`: the handle passed to `pthread_detach`, `none` when the identifier has none and the call returns early. -/
def detachThread (s : ThreadingState Handle) (threadID : ThreadIdentifier) : Option Handle :=
  s.pthreadHandleForIdentifier threadID

/-- The `ASSERT(!identifierByPthreadHandle(pthreadHandle))` that `establishIdentifierForPthreadHandle` makes on entry: the
handle has no identifier yet. Removals are not constrained. -/
def registersNewHandle (s : ThreadingState Handle) : ThreadCall Handle → Bool
  | .establishIdentifierForPthreadHandle h => s.identifierByPthreadHandle h == 0
  | .clearPthreadHandleForIdentifier _ => true

/-- Every registration of a run from `s` passes that assertion. -/
def registersNewHandles : ThreadingState Handle → List (ThreadCall Handle) → Bool
  | _, [] => true
  | s, c :: calls => s.registersNewHandle c && registersNewHandles (s.step c) calls

theorem registersNewHandles_append (s : ThreadingState Handle) (calls later : List (ThreadCall Handle)) :
    registersNewHandles s (calls ++ later) =
      (registersNewHandles s calls && registersNewHandles (calls.foldl step s) later) := by
  induction calls generalizing s with
  | nil => simp [registersNewHandles]
  | cons c calls ih => simp [registersNewHandles, ih, Bool.and_assoc]

/-- With every key nonzero, a handle's identifier is 0 exactly when no entry holds the handle. -/
theorem identifierByPthreadHandle_eq_zero_iff {s : ThreadingState Handle} (hk : ∀ id ∈ s.threadMap.keys, id ≠ 0)
    {h : Handle} : s.identifierByPthreadHandle h = 0 ↔ h ∉ s.threadMap.entries.map Prod.snd := by
  unfold identifierByPthreadHandle
  split
  · rename_i e he
    have hkey := hk e.1 (List.mem_map_of_mem _ (List.mem_of_find?_eq_some he))
    have hh : e.2 = h := by simpa using List.find?_some he
    exact iff_of_false hkey (not_not.2 (List.mem_map.2 ⟨e, List.mem_of_find?_eq_some he, hh⟩))
  · rename_i hf
    simp only [true_iff, List.mem_map, not_exists, not_and]
    intro e he hh
    exact List.find?_eq_none.1 hf e he (by simp [hh])

/-- In a registry the two lookups are inverse: an identifier gives back a handle exactly when it is the handle's identifier. -/
theorem Registry.handle_iff_identifier {s : ThreadingState Handle} (hs : s.Registry) {id : ThreadIdentifier}
    {h : Handle} : s.pthreadHandleForIdentifier id = some h ↔ id ≠ 0 ∧ s.identifierByPthreadHandle h = id := by
  rw [pthreadHandleForIdentifier, ThreadMap.get_eq_some_iff, identifierByPthreadHandle]
  constructor
  · intro hm
    rw [(ThreadMap.find?_handle_eq_some_iff _ hs.handles_nodup).2 ⟨hm, rfl⟩]
    exact ⟨hs.key_ne_zero id (List.mem_map_of_mem _ hm), rfl⟩
  · rintro ⟨h0, hid⟩
    split at hid
    · rename_i e he
      obtain ⟨hm, rfl⟩ := (ThreadMap.find?_handle_eq_some_iff _ hs.handles_nodup).1 he
      exact hid ▸ hm
    · exact absurd hid.symm h0

/-- A registration of a new handle, below the wrap, keeps the registry: the new key is the counter, above every key, and the
new handle is in no entry. -/
theorem Registry.establish {s : ThreadingState Handle} (hs : s.Registry) {h : Handle}
    (hnew : s.identifierByPthreadHandle h = 0) (hw : s.identifierCount.toNat + 1 < 2 ^ 32) :
    (s.establishIdentifierForPthreadHandle h).1.Registry := by
  have hfresh : s.identifierCount ∉ s.threadMap.keys := fun hk => by
    have := hs.belowCount.2 _ hk
    omega
  refine ⟨identifiersBelowCount_step hs.belowCount (.establishIdentifierForPthreadHandle h) fun _ => hw, ?_⟩
  rw [establishIdentifierForPthreadHandle_threadMap, ThreadMap.entries_add_of_not_mem hfresh, List.map_append,
    List.nodup_append]
  exact ⟨hs.handles_nodup, List.nodup_singleton _,
    List.disjoint_singleton.2 ((identifierByPthreadHandle_eq_zero_iff hs.key_ne_zero).1 hnew)⟩

theorem Registry.foldl {calls : List (ThreadCall Handle)} {s : ThreadingState Handle} (hs : s.Registry)
    (hn : registersNewHandles s calls) (hw : s.identifierCount.toNat + registrations calls < 2 ^ 32) :
    (calls.foldl step s).Registry := by
  induction calls generalizing s with
  | nil => exact hs
  | cons c calls ih =>
    simp only [registersNewHandles, Bool.and_eq_true] at hn
    rw [registrations_cons] at hw
    refine ih ?_ hn.2 (by rw [toNat_identifierCount_step]; omega)
    cases c with
    | establishIdentifierForPthreadHandle h =>
      exact hs.establish (beq_iff_eq.1 hn.1) (by simp only [ThreadCall.isEstablish, if_true] at hw; omega)
    | clearPthreadHandleForIdentifier id => exact hs.clear id

/-- Every run from the start below the wrap whose registrations are of new handles leaves a registry. -/
theorem registry_run {calls : List (ThreadCall Handle)} (hr : registrations calls < 2 ^ 32 - 1)
    (hn : registersNewHandles initial calls) : (run calls).Registry :=
  Registry.foldl Registry.initial hn (by simp only [initial]; exact Nat.add_lt_of_lt_sub' hr)

/-- While identifiers have not wrapped and every registration is of a handle with no identifier yet,
`pthreadHandleForIdentifier` and `identifierByPthreadHandle` are inverse: an identifier gives back a handle exactly when it is
nonzero and that handle's identifier, so a handle that was never registered, or whose entry was removed, is found as 0. -/
theorem pthreadHandleForIdentifier_iff_identifierByPthreadHandle (calls : List (ThreadCall Handle))
    (hr : registrations calls < 2 ^ 32 - 1) (hn : registersNewHandles initial calls) (id : ThreadIdentifier)
    (handle : Handle) :
    (run calls).pthreadHandleForIdentifier id = some handle ↔
      id ≠ 0 ∧ (run calls).identifierByPthreadHandle handle = id :=
  (registry_run hr hn).handle_iff_identifier

theorem pthreadHandleForIdentifier_iff_identifierByPthreadHandle_after_removal :
    registrations [.establishIdentifierForPthreadHandle 10, .establishIdentifierForPthreadHandle 20,
      .clearPthreadHandleForIdentifier 1, .establishIdentifierForPthreadHandle (30 : Nat)] < 2 ^ 32 - 1 ∧
    registersNewHandles initial [.establishIdentifierForPthreadHandle 10, .establishIdentifierForPthreadHandle 20,
      .clearPthreadHandleForIdentifier 1, .establishIdentifierForPthreadHandle (30 : Nat)] = true ∧
    ((run [.establishIdentifierForPthreadHandle 10, .establishIdentifierForPthreadHandle 20,
      .clearPthreadHandleForIdentifier 1, .establishIdentifierForPthreadHandle (30 : Nat)]).pthreadHandleForIdentifier 3 =
        some 30 ↔
      (3 : ThreadIdentifier) ≠ 0 ∧ (run [.establishIdentifierForPthreadHandle 10, .establishIdentifierForPthreadHandle 20,
        .clearPthreadHandleForIdentifier 1, .establishIdentifierForPthreadHandle (30 : Nat)]).identifierByPthreadHandle 30 =
          3) :=
  have hr : registrations [.establishIdentifierForPthreadHandle 10, .establishIdentifierForPthreadHandle 20,
      .clearPthreadHandleForIdentifier 1, .establishIdentifierForPthreadHandle (30 : Nat)] < 2 ^ 32 - 1 := by decide
  have hn : registersNewHandles initial [.establishIdentifierForPthreadHandle 10, .establishIdentifierForPthreadHandle 20,
      .clearPthreadHandleForIdentifier 1, .establishIdentifierForPthreadHandle (30 : Nat)] = true := by decide
  ⟨hr, hn, pthreadHandleForIdentifier_iff_identifierByPthreadHandle _ hr hn 3 30⟩

/-- A thread that `createThreadInternal` registers as `id` is found as `id` when it runs `initializeCurrentThreadInternal`,
and `waitForThreadCompletion(id)` and `detachThread(id)` act on its handle, whatever other threads register or remove in
between, short of removing `id` itself: while identifiers have not wrapped and every registration is of a new handle. -/
theorem createThreadInternal_finds_thread {calls later : List (ThreadCall Handle)} {handle : Handle}
    {s : ThreadingState Handle} {id : ThreadIdentifier}
    (hcreate : (run calls).createThreadInternal (some handle) = (s, id))
    (hr : registrations calls + 1 + registrations later < 2 ^ 32 - 1)
    (hn : registersNewHandles initial (calls ++ .establishIdentifierForPthreadHandle handle :: later))
    (hc : .clearPthreadHandleForIdentifier id ∉ later) (pthread_join : Handle → Int) :
    id ≠ 0 ∧ (later.foldl step s).initializeCurrentThreadInternal handle = id ∧
      (later.foldl step s).waitForThreadCompletion id pthread_join = pthread_join handle ∧
      (later.foldl step s).detachThread id = some handle := by
  have hs : s = (run calls).step (.establishIdentifierForPthreadHandle handle) := (congrArg Prod.fst hcreate).symm
  have hid : id = (run calls).identifierCount := (congrArg Prod.snd hcreate).symm
  subst hs hid
  rw [registersNewHandles_append, Bool.and_eq_true] at hn
  have hreg : (run calls).Registry := registry_run (by omega) hn.1
  have hfresh : (run calls).identifierCount ∉ (run calls).threadMap.keys := fun hk => by
    have := hreg.belowCount.2 _ hk
    omega
  have hfinal := hreg.foldl hn.2 (by rw [toNat_identifierCount_run, registrations_cons]; simp [ThreadCall.isEstablish]; omega)
  have hget : (later.foldl step ((run calls).step (.establishIdentifierForPthreadHandle handle))).pthreadHandleForIdentifier
      (run calls).identifierCount = some handle :=
    (ThreadMap.get_eq_some_iff _).2 (mem_entries_foldl (fun c hc' he => hc (he ▸ hc'))
      (ThreadMap.mem_add_self hfresh handle))
  obtain ⟨h0, hid⟩ := hfinal.handle_iff_identifier.1 hget
  exact ⟨h0, hid, by rw [waitForThreadCompletion, hget], hget⟩

theorem createThreadInternal_finds_thread_across_removal :
    (run [.establishIdentifierForPthreadHandle (10 : Nat)]).createThreadInternal (some 20) =
      (((run [.establishIdentifierForPthreadHandle (10 : Nat)]).createThreadInternal (some 20)).1, 2) ∧
    registrations [.establishIdentifierForPthreadHandle (10 : Nat)] + 1 +
      registrations [.clearPthreadHandleForIdentifier 1, .establishIdentifierForPthreadHandle (30 : Nat)] < 2 ^ 32 - 1 ∧
    registersNewHandles initial ([.establishIdentifierForPthreadHandle (10 : Nat)] ++ .establishIdentifierForPthreadHandle 20 ::
      [.clearPthreadHandleForIdentifier 1, .establishIdentifierForPthreadHandle 30]) = true ∧
    .clearPthreadHandleForIdentifier 2 ∉
      [ThreadCall.clearPthreadHandleForIdentifier 1, .establishIdentifierForPthreadHandle (30 : Nat)] ∧
    (2 : ThreadIdentifier) ≠ 0 ∧
    ([.clearPthreadHandleForIdentifier 1, .establishIdentifierForPthreadHandle 30].foldl step
      ((run [.establishIdentifierForPthreadHandle (10 : Nat)]).createThreadInternal (some 20)).1
      ).initializeCurrentThreadInternal 20 = 2 ∧
    ([.clearPthreadHandleForIdentifier 1, .establishIdentifierForPthreadHandle 30].foldl step
      ((run [.establishIdentifierForPthreadHandle (10 : Nat)]).createThreadInternal (some 20)).1
      ).waitForThreadCompletion 2 (fun h => (h : Int)) = 20 ∧
    ([.clearPthreadHandleForIdentifier 1, .establishIdentifierForPthreadHandle 30].foldl step
      ((run [.establishIdentifierForPthreadHandle (10 : Nat)]).createThreadInternal (some 20)).1).detachThread 2 = some 20 :=
  have hcreate : (run [.establishIdentifierForPthreadHandle (10 : Nat)]).createThreadInternal (some 20) =
      (((run [.establishIdentifierForPthreadHandle (10 : Nat)]).createThreadInternal (some 20)).1, 2) :=
    Prod.ext rfl (by decide)
  have hr : registrations [.establishIdentifierForPthreadHandle (10 : Nat)] + 1 +
      registrations [.clearPthreadHandleForIdentifier 1, .establishIdentifierForPthreadHandle (30 : Nat)] < 2 ^ 32 - 1 := by
    decide
  have hn : registersNewHandles initial ([.establishIdentifierForPthreadHandle (10 : Nat)] ++
      .establishIdentifierForPthreadHandle 20 :: [.clearPthreadHandleForIdentifier 1, .establishIdentifierForPthreadHandle 30])
      = true := by decide
  have hc : .clearPthreadHandleForIdentifier 2 ∉
      [ThreadCall.clearPthreadHandleForIdentifier 1, .establishIdentifierForPthreadHandle (30 : Nat)] := by
    simp only [List.mem_cons, List.not_mem_nil, ThreadCall.clearPthreadHandleForIdentifier.injEq, reduceCtorEq, or_false]
    decide
  ⟨hcreate, hr, hn, hc, createThreadInternal_finds_thread hcreate hr hn hc _⟩

/-! ## Past the wrap -/

/-- Threads that come and go: handle 100 registers and stays; then, `n` times, a thread of handle 200 registers and is
removed by the identifier it got back, `k + 2` for the `k`-th. -/
def churn (n : Nat) : List (ThreadCall Nat) :=
  .establishIdentifierForPthreadHandle 100 :: (List.range n).flatMap fun k =>
    [.establishIdentifierForPthreadHandle 200, .clearPthreadHandleForIdentifier (k + 2).toUInt32]

/-- One more short-lived thread. -/
theorem churn_succ (k : Nat) :
    churn (k + 1) = churn k ++
      [.establishIdentifierForPthreadHandle 200, .clearPthreadHandleForIdentifier (k + 2).toUInt32] := by
  simp [churn, List.range_succ]

/-- Below the wrap, each short-lived thread registers as a new handle and leaves the map as it found it: handle 100 alone,
under identifier 1, with the flag back at true; the counter has moved on by one per thread. -/
theorem run_churn {k : Nat} (hk : k + 1 < 2 ^ 32) :
    run (churn k) = ⟨⟨[(1, 100)], List.nodup_singleton _⟩, (k + 2).toUInt32, true⟩ ∧
      registersNewHandles initial (churn k) = true := by
  induction k with
  | zero => exact ⟨rfl, rfl⟩
  | succ k ih =>
    obtain ⟨hrun, hnew⟩ := ih (by omega)
    have hc : (k + 2).toUInt32 ≠ 1 := fun h => by
      have h' : (k + 2) % 2 ^ 32 = 1 := congrArg UInt32.toNat h
      omega
    rw [churn_succ, registersNewHandles_append, hnew, run, List.foldl_append, ← run, hrun]
    have hcount : (k + 2).toUInt32 + 1 = (k + 1 + 2).toUInt32 := UInt32.toNat.inj (by
      rw [toNat_add_one]
      show ((k + 2) % 2 ^ 32 + 1) % 2 ^ 32 = (k + 1 + 2) % 2 ^ 32
      omega)
    simp [step, establishIdentifierForPthreadHandle, clearPthreadHandleForIdentifier, ThreadMap.add, ThreadMap.contains,
      ThreadMap.keys, ThreadMap.remove, ThreadMap.size, hc, Ne.symm hc, registersNewHandles, registersNewHandle,
      identifierByPthreadHandle, hcount]

/-- Handle 100 registers, then `2^32 - 2` short-lived threads come and go, every registration passing the `ASSERT`. A thread
WTF did not create, of handle 300, then calls `currentThread` twice with its `ThreadIdentifierData` still 0: the first call
registers it as 0, which the second reads as "not established" and registers the same handle again. That passes the `ASSERT`
too, since the handle's entry has the key 0, and returns 1, the identifier of handle 100, which the map keeps for it. -/
theorem establishIdentifier_wraps :
    registersNewHandles initial (churn (2 ^ 32 - 2) ++
      [.establishIdentifierForPthreadHandle 300, .establishIdentifierForPthreadHandle 300]) = true ∧
    ((run (churn (2 ^ 32 - 2))).currentThread 300 0).2 = 0 ∧
    (((run (churn (2 ^ 32 - 2))).currentThread 300 0).1.currentThread 300 0).2 = 1 ∧
    (((run (churn (2 ^ 32 - 2))).currentThread 300 0).1.currentThread 300 0).1.pthreadHandleForIdentifier 1 =
      some 100 := by
  obtain ⟨hrun, hnew⟩ := run_churn (k := 2 ^ 32 - 2) (by decide)
  rw [registersNewHandles_append, hnew, show List.foldl step initial (churn (2 ^ 32 - 2)) = _ from hrun, hrun]
  decide

end ThreadingState

end JavaScriptCore.WTF
