import EspProtocols.AutobahnReassembly
import EspProtocols.AutobahnCaseUri

/-! The testee's heap over whole runs, and the program around the handler: the live blocks are
always exactly `s_accum_buffer`, and `app_main` ends, once stdin gives a URI, with no live block. -/

namespace EspProtocols.Autobahn

/-! ### Who owns the heap -/

/-- The live blocks of the heap are exactly `s_accum_buffer`. -/
def OwnsHeap (s : Testee) : Prop :=
  ∀ p, (s.heap.blocks p).isSome ↔ s.sAccumBuffer = some p

structure SameOwner (s s' : Testee) : Prop where
  buffer : s'.sAccumBuffer = s.sAccumBuffer
  live : ∀ q, (s'.heap.blocks q).isSome = (s.heap.blocks q).isSome

namespace SameOwner

theorem refl (s : Testee) : SameOwner s s := ⟨rfl, fun _ => rfl⟩

theorem trans {s₁ s₂ s₃ : Testee} (h₁ : SameOwner s₁ s₂) (h₂ : SameOwner s₂ s₃) :
    SameOwner s₁ s₃ :=
  ⟨h₂.buffer.trans h₁.buffer, fun q => (h₂.live q).trans (h₁.live q)⟩

theorem reset (s : Testee) : SameOwner s (wsAccumulatorReset s) := ⟨rfl, fun _ => rfl⟩

end SameOwner

theorem OwnsHeap.of_same {s s' : Testee} (h : OwnsHeap s) (e : SameOwner s s') : OwnsHeap s' :=
  fun p => by rw [e.live, e.buffer]; exact h p

theorem Heap.memcpy_live {h h' : Heap} {p : Option Nat} {off : Nat} {src : List UInt8}
    (e : h.memcpy p off src = some h') (q : Nat) :
    (h'.blocks q).isSome = (h.blocks q).isSome := by
  obtain ⟨r, b, -, hb, -, rfl⟩ := Heap.memcpy_eq_some e
  by_cases hq : q = r
  · subst hq; simp [hb]
  · simp [Function.update_noteq hq]

theorem handOff_owner (s : Testee) (o : Observation) (m : Echo) (src : Option ChunkPath) :
    SameOwner s (handOff s o m src).1 := by
  rcases handOff_cases s o m src with e | e <;> rw [e]
  · exact .refl s
  · exact .reset s

theorem guard_owner {c : Prop} [Decidable c] {s s' : Testee} {e x : DataExit}
    {rest : Option (Testee × DataExit)}
    (h : (if c then some (wsAccumulatorReset s, e) else rest) = some (s', x))
    (k : rest = some (s', x) → SameOwner s s') : SameOwner s s' := by
  by_cases hc : c
  · rw [if_pos hc] at h; cases h; exact .reset s
  · rw [if_neg hc] at h; exact k h

/-- Lines 254-302 neither allocate nor free: they reset, copy into a live block, or hand off. -/
theorem copyChunk_owner {s s' : Testee} {o : Observation} {d : EventData} {path : ChunkPath}
    {x : DataExit} (h : copyChunk s o d path = some (s', x)) : SameOwner s s' := by
  simp only [copyChunk] at h
  refine guard_owner h fun h => guard_owner h fun h => guard_owner h fun h =>
    guard_owner h fun h => guard_owner h fun h => ?_
  obtain ⟨heap, hm, h⟩ := Option.bind_eq_some.mp h
  by_cases hr : sizeAdd d.payloadOffset d.dataLen < s.sAccumulator.expectedLen
  · rw [if_pos hr] at h
    cases h
    exact ⟨rfl, Heap.memcpy_live hm⟩
  · rw [if_neg hr] at h
    obtain ⟨payload, -, h⟩ := Option.map_eq_some'.mp h
    have e : (handOff _ o _ (some path)).1 = s' := congrArg Prod.fst h
    rw [← e]
    refine SameOwner.trans ?_ (handOff_owner _ o _ _)
    exact ⟨rfl, Heap.memcpy_live hm⟩

theorem OwnsHeap.alloc {s : Testee} (h : OwnsHeap s) (r : Option Bytes) :
    OwnsHeap (allocAccumBuffer s r) := by
  cases hb : s.sAccumBuffer with
  | some p => rwa [alloc_of_some r hb]
  | none =>
    have hd : ∀ q, s.heap.blocks q = none := fun q => by simpa [hb] using h q
    intro q
    cases r with
    | none => simp [allocAccumBuffer, hb, Heap.malloc, hd]
    | some b =>
      by_cases hq : q = s.heap.next
      · simp [allocAccumBuffer, hb, Heap.malloc, hq]
      · simp [allocAccumBuffer, hb, Heap.malloc, Function.update_noteq hq, hd, Ne.symm hq]

theorem OwnsHeap.cleanup_empty {s : Testee} (h : OwnsHeap s) (q : Nat) :
    (wsAccumulatorCleanup s).heap.blocks q = none := by
  unfold wsAccumulatorCleanup
  cases hb : s.sAccumBuffer with
  | some p =>
    by_cases hq : q = p
    · rw [hq]; exact s.heap.free_blocks_self p
    · simp only [Heap.free_blocks_of_ne _ hq]
      simpa [hb, Ne.symm hq] using h q
  | none => simpa [hb] using h q

@[simp] theorem cleanup_sAccumBuffer (s : Testee) :
    (wsAccumulatorCleanup s).sAccumBuffer = none := by
  unfold wsAccumulatorCleanup
  split
  · rfl
  · simpa using ‹s.sAccumBuffer = none›

@[simp] theorem cleanup_active (s : Testee) :
    (wsAccumulatorCleanup s).sAccumulator.active = false := by
  unfold wsAccumulatorCleanup; split <;> rfl

theorem OwnsHeap.cleanup {s : Testee} (h : OwnsHeap s) : OwnsHeap (wsAccumulatorCleanup s) := by
  intro q
  simp [h.cleanup_empty q]

theorem OwnsHeap.onData {s s' : Testee} {o : Observation} {d : EventData} {x : DataExit}
    (h : OwnsHeap s) (e : onData s o d = some (s', x)) : OwnsHeap s' := by
  cases onData_branch e with
  | notConnected => exact h.of_same (.reset s)
  | controlFrame | unsupportedOpcode | nullData => exact h
  | allocFailed => exact h.alloc _
  | @copied op p c t' x _ _ _ hp hc _ hcopy =>
    subst hc
    obtain ⟨hh, hsb⟩ := startChunk_keeps_buffer hp d op o.mallocResult
    exact (h.alloc _).of_same
      (SameOwner.trans ⟨hsb.trans hp.symm, fun q => by rw [hh]⟩ (copyChunk_owner hcopy))
  | @prepareFailed op p c _ _ _ hp hc _ =>
    subst hc
    obtain ⟨hh, hsb⟩ := startChunk_keeps_buffer hp d op o.mallocResult
    exact (h.alloc _).of_same ⟨hsb.trans hp.symm, fun q => by rw [hh]⟩
  | whole _ _ _ e' =>
    have e₁ : (handOff s o _ none).1 = s' := congrArg Prod.fst e'
    exact e₁ ▸ h.of_same (handOff_owner s o _ none)

theorem OwnsHeap.handler {s s' : Testee} {o : Observation} {e : WebsocketEvent}
    {x : Option DataExit} (h : OwnsHeap s) (he : websocketEventHandler s o e = some (s', x)) :
    OwnsHeap s' := by
  cases e with
  | data d =>
    obtain ⟨r, hr, hx⟩ := Option.map_eq_some'.mp he
    cases hx
    exact h.onData hr
  | _ => cases he; exact h

theorem Reachable.ownsHeap {s : Testee} (hs : Reachable s) : OwnsHeap s := by
  induction hs with
  | init => intro p; simp [testeeInit]
  | appMain r =>
    rw [appMainAlloc_eq]
    exact OwnsHeap.alloc (fun p => by simp [testeeInit]) r
  | handler _ h ih => exact ih.handler h
  | runTestCase r _ ih => exact ih.alloc r
  | cleanup _ ih => exact ih.cleanup

/-- No leak and no double free: at every reachable state the live blocks are exactly
`s_accum_buffer`, and after `ws_accumulator_cleanup` none is. -/
theorem reachable_heap_is_accum_buffer {s : Testee} (hs : Reachable s) :
    (∀ p, (s.heap.blocks p).isSome ↔ s.sAccumBuffer = some p) ∧
      ∀ p, (wsAccumulatorCleanup s).heap.blocks p = none :=
  ⟨hs.ownsHeap, hs.ownsHeap.cleanup_empty⟩

theorem app_main_heap_is_accum_buffer :
    Reachable (appMainAlloc (some fun _ => 0)) ∧
      (∀ p, ((appMainAlloc (some fun _ => 0)).heap.blocks p).isSome ↔
        (appMainAlloc (some fun _ => 0)).sAccumBuffer = some p) ∧
      ∀ p, (wsAccumulatorCleanup (appMainAlloc (some fun _ => 0))).heap.blocks p = none :=
  ⟨.appMain _, reachable_heap_is_accum_buffer (.appMain _)⟩

/-! ### The program -/

/-- What one `run_test_case` meets: its `malloc`'s answer and its client's events, each with the
answers its call and echo loop meet; a client that fails to start delivers none. -/
structure CaseRun where
  mallocResult : Option Bytes
  calls : List (Input × SendOracle)

/-- `run_test_case(case_num)`: the URI check, the allocation of lines 452-459, then the handler,
echo loops included, on the client's events. -/
def runTestCase (fuel : Nat) (server : List UInt8) (caseNum : Int) (s : Testee) (c : CaseRun) :
    Option Testee :=
  match runTestCaseUri server caseNum with
  | none => some s
  | some _ => (runCalls fuel (allocAccumBuffer s c.mallocResult) c.calls).map (·.1)

/-- The loop of `websocket_app_start` over the cases, `runs i` being what case `i` meets. -/
def runCases (fuel : Nat) (server : List UInt8) (runs : Int → CaseRun) :
    List Int → Testee → Option Testee
  | [], s => some s
  | i :: is, s => (runTestCase fuel server i s (runs i)).bind (runCases fuel server runs is)

/-- `websocket_app_start`: the cases, then `update_reports`, which changes no static, then
`ws_accumulator_cleanup`. -/
def websocketAppStart (fuel : Nat) (server : List UInt8) (runs : Int → CaseRun) (s : Testee) :
    Option Testee :=
  (runCases fuel server runs testCases s).map wsAccumulatorCleanup

/-- `app_main` with `CONFIG_WEBSOCKET_URI_FROM_STDIN`: `none` while the URI loop waits for input or
an echo loop has not ended within `fuel` passes. -/
def appMain (fuel : Nat) (r : Option Bytes) (input : List Int) (runs : Int → CaseRun) :
    Option Testee :=
  (readServerUri input fun _ => 0).bind fun u =>
    websocketAppStart fuel (cStr u.1 256 0) runs (appMainAlloc r)

/-- Every echo loop the clients' events can start ends within `fuel` passes. -/
def EchoesEnd (fuel : Nat) (runs : Int → CaseRun) : Prop :=
  ∀ i, ∀ c ∈ (runs i).calls, EndsWithin fuel c.2

theorem Reachable.of_runCalls {fuel : Nat} {s : Testee} (hs : Reachable s) :
    ∀ {cs : List (Input × SendOracle)} {r : Testee × List (List LoopCall)},
      runCalls fuel s cs = some r → Reachable r.1
  | [], _, h => by cases h; exact hs
  | ((e, o), link) :: cs, r, h => by
    obtain ⟨r₁, h₁, h⟩ := Option.bind_eq_some.mp h
    obtain ⟨calls, -, h⟩ := Option.bind_eq_some.mp h
    obtain ⟨r₂, h₂, rfl⟩ := Option.map_eq_some'.mp h
    exact (hs.handler h₁).of_runCalls (r := r₂) h₂

/-- From a reachable state a run returns once every echo loop in it ends. -/
theorem Reachable.runCalls_isSome {fuel : Nat} {s : Testee} (hs : Reachable s) :
    ∀ {cs : List (Input × SendOracle)}, (∀ c ∈ cs, EndsWithin fuel c.2) →
      (runCalls fuel s cs).isSome
  | [], _ => rfl
  | ((e, o), link) :: cs, h => by
    obtain ⟨⟨s', x⟩, he, -⟩ := hs.accInv.handler o e
    obtain ⟨calls, hc⟩ :=
      Option.isSome_iff_exists.mp (echoCalls_isSome (h _ (List.mem_cons_self _ _)) x)
    obtain ⟨r, hr⟩ := Option.isSome_iff_exists.mp
      ((hs.handler he).runCalls_isSome fun c hc => h c (List.mem_cons_of_mem _ hc))
    simp [runCalls, he, hc, hr]

theorem Reachable.testCase (fuel : Nat) {s : Testee} (hs : Reachable s) (server : List UInt8)
    (caseNum : Int) (c : CaseRun) :
    (∀ s' ∈ Autobahn.runTestCase fuel server caseNum s c, Reachable s') ∧
      ((∀ x ∈ c.calls, EndsWithin fuel x.2) →
        (Autobahn.runTestCase fuel server caseNum s c).isSome) := by
  have ha := Reachable.runTestCase c.mallocResult hs
  unfold Autobahn.runTestCase
  split
  · exact ⟨fun _ h => (Option.some.inj h) ▸ hs, fun _ => rfl⟩
  · refine ⟨fun s' h => ?_, fun he => by rw [Option.isSome_map']; exact ha.runCalls_isSome he⟩
    obtain ⟨r, hr, rfl⟩ := Option.map_eq_some'.mp h
    exact ha.of_runCalls hr

theorem Reachable.runCases (fuel : Nat) (server : List UInt8) (runs : Int → CaseRun) :
    ∀ (is : List Int) {s : Testee}, Reachable s →
      (∀ s' ∈ Autobahn.runCases fuel server runs is s, Reachable s') ∧
        (EchoesEnd fuel runs → (Autobahn.runCases fuel server runs is s).isSome)
  | [], s, hs => ⟨fun _ h => (Option.some.inj h) ▸ hs, fun _ => rfl⟩
  | i :: is, s, hs => by
    obtain ⟨h₁, h₂⟩ := hs.testCase fuel server i (runs i)
    refine ⟨fun s' h => ?_, fun he => ?_⟩
    · obtain ⟨s₁, e₁, e₂⟩ := Option.bind_eq_some.mp h
      exact (Reachable.runCases fuel server runs is (h₁ s₁ e₁)).1 s' e₂
    · obtain ⟨s₁, e₁⟩ := Option.isSome_iff_exists.mp (h₂ (he i))
      simp only [Autobahn.runCases, e₁, Option.some_bind]
      exact (Reachable.runCases fuel server runs is (h₁ s₁ e₁)).2 he

/-- From a reachable state `websocket_app_start` leaves no live block, and returns once every echo
loop ends. -/
theorem Reachable.websocketAppStart (fuel : Nat) {s : Testee} (hs : Reachable s)
    (server : List UInt8) (runs : Int → CaseRun) :
    (∀ s' ∈ Autobahn.websocketAppStart fuel server runs s, s'.sAccumBuffer = none ∧
      s'.sAccumulator.active = false ∧ ∀ p, s'.heap.blocks p = none) ∧
    (EchoesEnd fuel runs → (Autobahn.websocketAppStart fuel server runs s).isSome) := by
  obtain ⟨h₁, h₂⟩ := Reachable.runCases fuel server runs testCases hs
  refine ⟨fun s' h => ?_, fun he => ?_⟩
  · obtain ⟨s₁, e₁, rfl⟩ := Option.map_eq_some'.mp h
    exact ⟨cleanup_sAccumBuffer _, cleanup_active _, (h₁ s₁ e₁).ownsHeap.cleanup_empty⟩
  · rw [Autobahn.websocketAppStart, Option.isSome_map']; exact h₂ he

/-- Whatever `malloc`, stdin, the clients and their sends answer, `app_main` ends with every block
freed; when every echo loop ends within `fuel` it returns exactly when the URI loop ends. -/
theorem app_main_frees_every_block (fuel : Nat) (r : Option Bytes) (input : List Int)
    (runs : Int → CaseRun) :
    (EchoesEnd fuel runs →
      (appMain fuel r input runs).isSome = (readServerUri input fun _ => 0).isSome) ∧
    ∀ s ∈ appMain fuel r input runs, s.sAccumBuffer = none ∧ s.sAccumulator.active = false ∧
      ∀ p, s.heap.blocks p = none := by
  cases hu : readServerUri input fun _ => 0 with
  | none => simp [appMain, hu]
  | some u =>
    obtain ⟨h₁, h₂⟩ := (Reachable.appMain r).websocketAppStart fuel (cStr u.1 256 0) runs
    simp only [appMain, hu, Option.some_bind, Option.isSome_some]
    exact ⟨h₂, h₁⟩

def threeByteCases : Int → CaseRun :=
  fun _ => ⟨some fun _ => 0, ((.connected, upObs) :: threeByteFeed).map (·, takingLink)⟩

theorem app_main_w_frees_every_block :
    EchoesEnd 1 threeByteCases ∧
    ∃ s ∈ appMain 1 (some fun _ => 0) [119, 10] threeByteCases,
      s.sAccumBuffer = none ∧ s.sAccumulator.active = false ∧ ∀ p, s.heap.blocks p = none := by
  have he : EchoesEnd 1 threeByteCases := fun _ c hc => by
    obtain ⟨_, -, rfl⟩ := List.mem_map.mp hc
    exact ⟨0, Nat.zero_lt_one,
      show ¬(takingLink.connected 0 = true ∧ takingLink.sent 0 < 0) by decide⟩
  have hu := readServerUri_isSome [119, 10] (fun _ => 0) (List.Sublist.refl _) (by decide)
    (.inl rfl)
  have h := app_main_frees_every_block 1 (some fun _ => 0) [119, 10] threeByteCases
  obtain ⟨s, hs⟩ := Option.isSome_iff_exists.mp ((h.1 he).trans hu)
  exact ⟨he, s, hs, h.2 s hs⟩

end EspProtocols.Autobahn
