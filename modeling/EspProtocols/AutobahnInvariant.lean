import EspProtocols.AutobahnHandler

/-! The invariant `received <= expected_len <= capacity <= MAX_FRAGMENTED_PAYLOAD` of every
reachable state, and from it the safety of every copy and read of the DATA handler. -/

namespace EspProtocols.Autobahn

/-- The invariant of every reachable state. -/
structure AccInv (s : Testee) : Prop where
  received_le : s.sAccumulator.received ≤ s.sAccumulator.expectedLen
  expected_le : s.sAccumulator.expectedLen ≤ s.sAccumulator.capacity
  capacity_le : s.sAccumulator.capacity ≤ maxFragmentedPayload
  active_pos : s.sAccumulator.active → 0 < s.sAccumulator.expectedLen
  active_capacity : s.sAccumulator.active → s.sAccumulator.capacity = maxFragmentedPayload
  active_buffer : s.sAccumulator.active →
    s.sAccumulator.buffer = s.sAccumBuffer ∧ s.sAccumBuffer ≠ none
  buffer_live : ∀ p ∈ s.sAccumBuffer, (s.heap.blocks p).isSome
  heap_fresh : ∀ p, s.heap.next ≤ p → s.heap.blocks p = none

/-- The states reached from the zeroed statics by `app_main`'s allocation, handler calls,
`run_test_case`'s allocation and `ws_accumulator_cleanup`, in any order. -/
inductive Reachable : Testee → Prop
  | init : Reachable testeeInit
  | appMain (r : Option Bytes) : Reachable (appMainAlloc r)
  | handler {s s' : Testee} {o : Observation} {e : WebsocketEvent} {x : Option DataExit} :
      Reachable s → websocketEventHandler s o e = some (s', x) → Reachable s'
  | runTestCase {s : Testee} (r : Option Bytes) : Reachable s → Reachable (allocAccumBuffer s r)
  | cleanup {s : Testee} : Reachable s → Reachable (wsAccumulatorCleanup s)

namespace AccInv

theorem init : AccInv testeeInit :=
  ⟨Nat.le_refl _, Nat.le_refl _, Nat.zero_le _, nofun, nofun, nofun, nofun, fun _ _ => rfl⟩

theorem lt_next {s : Testee} (hi : AccInv s) {p : Nat} (hp : (s.heap.blocks p).isSome) :
    p < s.heap.next := by
  by_contra h
  simp [hi.heap_fresh p (by omega)] at hp

theorem reset {s : Testee} (hi : AccInv s) : AccInv (wsAccumulatorReset s) :=
  ⟨Nat.zero_le _, Nat.zero_le _, hi.capacity_le, nofun, nofun, nofun, hi.buffer_live,
    hi.heap_fresh⟩

theorem alloc {s : Testee} (hi : AccInv s) (r : Option Bytes) : AccInv (allocAccumBuffer s r) := by
  cases hb : s.sAccumBuffer with
  | some p => rwa [alloc_of_some r hb]
  | none =>
    have hn : s.sAccumulator.active = false := by
      by_contra h
      exact (hi.active_buffer (by simpa using h)).2 hb
    refine ⟨?_, ?_, ?_, ?_, ?_, ?_, alloc_buffer_live s r hi.buffer_live,
      alloc_fresh s r hi.heap_fresh⟩ <;> simp only [alloc_sAccumulator, hn]
    · exact hi.received_le
    · exact hi.expected_le
    · exact hi.capacity_le
    all_goals exact nofun

theorem appMain (r : Option Bytes) : AccInv (appMainAlloc r) := init.alloc r

theorem cleanup {s : Testee} (hi : AccInv s) : AccInv (wsAccumulatorCleanup s) := by
  unfold wsAccumulatorCleanup
  split
  · rename_i p hp
    refine ⟨Nat.zero_le _, Nat.zero_le _, hi.capacity_le, nofun, nofun, nofun, nofun, ?_⟩
    intro q hq
    by_cases e : q = p
    · subst e; exact Heap.free_blocks_self _ _
    · rw [Heap.free_blocks_of_ne _ e]; exact hi.heap_fresh q hq
  · exact hi.reset

theorem start {s : Testee} (hi : AccInv s) {p : Nat} (hp : s.sAccumBuffer = some p)
    {totalLen : Nat} (opcode : UInt8) (hl : 0 < totalLen) (hm : totalLen ≤ maxFragmentedPayload) :
    AccInv
      { s with sAccumulator := ⟨some p, maxFragmentedPayload, totalLen, 0, opcode, true⟩ } :=
  ⟨Nat.zero_le _, hm, Nat.le_refl _, fun _ => hl, fun _ => rfl,
    fun _ => ⟨hp.symm, by simp [hp]⟩,
    hi.buffer_live, hi.heap_fresh⟩

/-- A successful `ws_accumulator_prepare` starts an accumulation; a failed one keeps `AccInv`. -/
theorem prepare {s : Testee} (hi : AccInv s) {totalLen : Nat} (opcode : UInt8)
    (r : Option Bytes) (hl : 0 < totalLen) :
    AccInv (wsAccumulatorPrepare s totalLen opcode r).2 ∧
      ((wsAccumulatorPrepare s totalLen opcode r).1 = .ok →
        (wsAccumulatorPrepare s totalLen opcode r).2.sAccumulator.active) := by
  have ha := hi.alloc r
  rcases prepare_cases s opcode r hl with ⟨-, e⟩ | ⟨-, -, e⟩ | ⟨p, hle, hp, e⟩ <;>
    rw [e]
  · exact ⟨hi, nofun⟩
  · exact ⟨ha, nofun⟩
  · exact ⟨ha.start hp opcode hl hle, fun _ => rfl⟩

theorem handOff {s : Testee} (hi : AccInv s) (o : Observation) (m : Echo) (src : Option ChunkPath) :
    AccInv (Autobahn.handOff s o m src).1 := by
  unfold Autobahn.handOff
  split
  · exact hi
  · exact hi.reset

/-- Lines 240-252 keep the invariant, and when they reach the copy the accumulator is active. -/
theorem startChunk {s : Testee} (hi : AccInv s) (d : EventData)
    (op : UInt8) (r : Option Bytes) (hl : 0 < d.totalLen) :
    AccInv (Autobahn.startChunk s d op r).2.2 ∧
      ((Autobahn.startChunk s d op r).2.1 = .ok →
        (Autobahn.startChunk s d op r).2.2.sAccumulator.active) := by
  unfold Autobahn.startChunk
  split
  · exact hi.prepare op r hl
  · split
    · exact hi.reset.prepare op r hl
    · rename_i h _
      exact ⟨hi, fun _ => by simpa using (not_or.mp h).2⟩

end AccInv

theorem startChunk_keeps_buffer {s : Testee} {p : Nat} (h : s.sAccumBuffer = some p)
    (d : EventData) (op : UInt8) (r : Option Bytes) :
    (startChunk s d op r).2.2.heap = s.heap ∧
      (startChunk s d op r).2.2.sAccumBuffer = some p := by
  unfold startChunk
  split
  · exact prepare_keeps_buffer h _ op r
  · split
    · exact prepare_keeps_buffer (s := wsAccumulatorReset s) h _ op r
    · exact ⟨rfl, h⟩

/-- The state once a chunk is copied into block `p`, which held `b`, up to the chunk's end. -/
def Testee.receive (s : Testee) (p : Nat) (b : Bytes) (d : EventData) : Testee :=
  { s with
    heap := { s.heap with
      blocks := Function.update s.heap.blocks p (some (Heap.copyInto b d.payloadOffset d.bytes)) }
    sAccumulator := { s.sAccumulator with received := d.payloadOffset + d.dataLen } }

/-- On a live active accumulation the `size_t` checks are those on the true chunk end. -/
theorem copyChunk_ready {s : Testee} {p : Nat} {b : Bytes} (o : Observation) (d : EventData)
    (path : ChunkPath) (ha : s.sAccumulator.active = true) (hp : s.sAccumulator.buffer = some p)
    (hb : s.heap.blocks p = some b) (hcap : s.sAccumulator.capacity = maxFragmentedPayload)
    (hexp : s.sAccumulator.expectedLen ≤ maxFragmentedPayload) :
    copyChunk s o d path =
      if d.dataPtr = none ∧ 0 < d.dataLen then some (wsAccumulatorReset s, .nullChunk)
      else if maxFragmentedPayload < d.payloadOffset + d.dataLen then
        some (wsAccumulatorReset s, .overflow)
      else if s.sAccumulator.expectedLen < d.payloadOffset + d.dataLen then
        some (wsAccumulatorReset s, .exceedsExpected)
      else if d.payloadOffset + d.dataLen < s.sAccumulator.expectedLen then
        some (s.receive p b d, .waiting path)
      else some (handOff { s.receive p b d with
          sAccumulator := { (s.receive p b d).sAccumulator with active := false } } o
        ⟨s.sAccumulator.opcode,
          (List.range s.sAccumulator.expectedLen).map (Heap.copyInto b d.payloadOffset d.bytes)⟩
        (some path)) := by
  simp only [copyChunk, ha, hp, hcap, d.sizeAdd_end, reduceCtorEq, false_or, Bool.false_eq_true,
    if_false]
  by_cases h1 : d.dataPtr = none ∧ 0 < d.dataLen
  · rw [if_pos h1, if_pos h1]
  rw [if_neg h1, if_neg h1]
  by_cases h2 : maxFragmentedPayload < d.payloadOffset + d.dataLen
  · rw [if_pos h2, if_pos h2]
  rw [if_neg h2, if_neg h2]
  by_cases h3 : s.sAccumulator.expectedLen < d.payloadOffset + d.dataLen
  · rw [if_pos h3, if_pos h3]
  rw [if_neg h3, if_neg h3]
  have hl : d.payloadOffset + d.bytes.length ≤ maxFragmentedPayload := by
    rw [d.bytes_length h1]; omega
  by_cases h4 : d.payloadOffset + d.dataLen < s.sAccumulator.expectedLen
  · simp [Heap.memcpy_of_live hb hl, h4, Testee.receive, hp, hcap, ha]
  · simp [Heap.memcpy_of_live hb hl, h4, Heap.read, hexp, Testee.receive, hp, hcap]

/-- `copyChunk` on a live active accumulation resets, copies and waits, or copies and hands off. -/
theorem copyChunk_cases {s : Testee} {p : Nat} {b : Bytes} {o : Observation} {d : EventData}
    {path : ChunkPath} (ha : s.sAccumulator.active = true) (hp : s.sAccumulator.buffer = some p)
    (hb : s.heap.blocks p = some b) (hcap : s.sAccumulator.capacity = maxFragmentedPayload)
    (hexp : s.sAccumulator.expectedLen ≤ maxFragmentedPayload) {s' : Testee} {x : DataExit}
    (h : copyChunk s o d path = some (s', x)) :
    ((x = .nullChunk ∨ x = .overflow ∨ x = .exceedsExpected) ∧ s' = wsAccumulatorReset s) ∨
    (x = .waiting path ∧ d.payloadOffset + d.dataLen < s.sAccumulator.expectedLen ∧
      s' = s.receive p b d) ∨
    (d.payloadOffset + d.dataLen = s.sAccumulator.expectedLen ∧
      handOff { s.receive p b d with
          sAccumulator := { (s.receive p b d).sAccumulator with active := false } } o
        ⟨s.sAccumulator.opcode,
          (List.range s.sAccumulator.expectedLen).map (Heap.copyInto b d.payloadOffset d.bytes)⟩
        (some path) = (s', x)) := by
  rw [copyChunk_ready o d path ha hp hb hcap hexp] at h
  by_cases h1 : d.dataPtr = none ∧ 0 < d.dataLen
  · rw [if_pos h1] at h; cases h; exact .inl ⟨.inl rfl, rfl⟩
  rw [if_neg h1] at h
  by_cases h2 : maxFragmentedPayload < d.payloadOffset + d.dataLen
  · rw [if_pos h2] at h; cases h; exact .inl ⟨.inr (.inl rfl), rfl⟩
  rw [if_neg h2] at h
  by_cases h3 : s.sAccumulator.expectedLen < d.payloadOffset + d.dataLen
  · rw [if_pos h3] at h; cases h; exact .inl ⟨.inr (.inr rfl), rfl⟩
  rw [if_neg h3] at h
  by_cases h4 : d.payloadOffset + d.dataLen < s.sAccumulator.expectedLen
  · rw [if_pos h4] at h; cases h; exact .inr (.inl ⟨rfl, h4, rfl⟩)
  · rw [if_neg h4] at h; exact .inr (.inr ⟨by omega, Option.some.inj h⟩)

theorem handOff_cases (s : Testee) (o : Observation) (m : Echo) (src : Option ChunkPath) :
    handOff s o m src = (s, .echo m src) ∨
      handOff s o m src = (wsAccumulatorReset s, .connectionLost) := by
  unfold handOff
  split
  · exact .inl rfl
  · exact .inr rfl

namespace AccInv

theorem receive {s : Testee} (hi : AccInv s) {p : Nat} {b : Bytes} (d : EventData)
    (hp : s.sAccumBuffer = some p) (hb : s.heap.blocks p = some b)
    (hend : d.payloadOffset + d.dataLen ≤ s.sAccumulator.expectedLen) :
    AccInv (s.receive p b d) := by
  have hlt := hi.lt_next (p := p) (by simp [hb])
  refine ⟨hend, hi.expected_le, hi.capacity_le, hi.active_pos, hi.active_capacity,
    hi.active_buffer, ?_, ?_⟩
  · intro q hq
    obtain rfl : p = q := by simpa [Testee.receive, hp] using hq
    simp [Testee.receive]
  · intro q hq
    simp only [Testee.receive] at hq ⊢
    rw [Function.update_noteq (by omega)]
    exact hi.heap_fresh q hq

theorem deactivate {s : Testee} (hi : AccInv s) :
    AccInv { s with sAccumulator := { s.sAccumulator with active := false } } :=
  ⟨hi.received_le, hi.expected_le, hi.capacity_le, nofun, nofun, nofun, hi.buffer_live,
    hi.heap_fresh⟩

theorem setRunning {s : Testee} (hi : AccInv s) (b : Bool) : AccInv { s with testRunning := b } :=
  ⟨hi.received_le, hi.expected_le, hi.capacity_le, hi.active_pos, hi.active_capacity,
    hi.active_buffer, hi.buffer_live, hi.heap_fresh⟩

end AccInv

/-- The bytes a DATA call may change: the chunk's range of block `p`, inside the block. -/
def chunkRange (p : Nat) (d : EventData) (q i : Nat) : Prop :=
  q = p ∧ d.payloadOffset ≤ i ∧ i < d.payloadOffset + d.dataLen ∧
    d.payloadOffset + d.dataLen ≤ maxFragmentedPayload

/-- On an active accumulation lines 254-302 keep the invariant and write only the chunk's range. -/
theorem copyChunk_safe {s : Testee} (hi : AccInv s) (ha : s.sAccumulator.active = true)
    (o : Observation) (d : EventData) (path : ChunkPath) :
    ∃ s' x, copyChunk s o d path = some (s', x) ∧ AccInv s' ∧
      x ≠ .inactiveOrNull ∧ x ≠ .nullBeforeCopy ∧
      ∀ p, s.sAccumBuffer = some p → Heap.Frame s.heap s'.heap (chunkRange p d) := by
  obtain ⟨hbuf, hne⟩ := hi.active_buffer ha
  obtain ⟨p, hp⟩ := Option.ne_none_iff_exists'.mp hne
  obtain ⟨b, hb⟩ := Option.isSome_iff_exists.mp (hi.buffer_live p hp)
  have hcap := hi.active_capacity ha
  rw [copyChunk_ready o d path ha (hbuf.trans hp) hb hcap (hcap ▸ hi.expected_le)]
  have hf : ∀ q, s.sAccumBuffer = some q → Heap.Frame s.heap s.heap (chunkRange q d) :=
    fun q _ => Heap.Frame.refl _ _
  by_cases h1 : d.dataPtr = none ∧ 0 < d.dataLen
  · exact ⟨_, _, if_pos h1, hi.reset, nofun, nofun, hf⟩
  rw [if_neg h1]
  by_cases h2 : maxFragmentedPayload < d.payloadOffset + d.dataLen
  · exact ⟨_, _, if_pos h2, hi.reset, nofun, nofun, hf⟩
  rw [if_neg h2]
  by_cases h3 : s.sAccumulator.expectedLen < d.payloadOffset + d.dataLen
  · exact ⟨_, _, if_pos h3, hi.reset, nofun, nofun, hf⟩
  rw [if_neg h3]
  have hc : ∀ q, s.sAccumBuffer = some q →
      Heap.Frame s.heap (s.receive p b d).heap (chunkRange q d) := by
    intro q hq
    rw [hp, Option.some.injEq] at hq
    subst hq
    refine Heap.Frame.copy hb _ _ _ fun i h₁ h₂ => ⟨rfl, h₁, ?_, by omega⟩
    rwa [d.bytes_length h1] at h₂
  by_cases h4 : d.payloadOffset + d.dataLen < s.sAccumulator.expectedLen
  · exact ⟨_, _, if_pos h4, hi.receive d hp hb (by omega), nofun, nofun, hc⟩
  · have hr := (hi.receive d hp hb (by omega)).deactivate
    rw [if_neg h4]
    rcases handOff_cases _ o _ (some path) with e | e <;> rw [e]
    · exact ⟨_, _, rfl, hr, nofun, nofun, hc⟩
    · exact ⟨_, _, rfl, hr.reset, nofun, nofun, hc⟩

theorem alloc_frame {s : Testee} (hi : AccInv s) (r : Option Bytes) (w : Nat → Nat → Prop) :
    Heap.Frame s.heap (allocAccumBuffer s r).heap w ∧
      ∀ p, (allocAccumBuffer s r).sAccumBuffer = some p →
        s.sAccumBuffer = some p ∨ p = s.heap.next := by
  unfold allocAccumBuffer
  split
  · exact ⟨Heap.Frame.refl _ _, fun p hp => .inl hp⟩
  · refine ⟨Heap.Frame.malloc _ r w hi.heap_fresh, fun p hp => .inr ?_⟩
    cases r <;> simp_all [Heap.malloc]

/-- A DATA call from a state with the invariant is defined, keeps it and takes no defensive exit. -/
theorem onData_safe {s : Testee} (hi : AccInv s) (o : Observation) (d : EventData) :
    ∃ s' x, onData s o d = some (s', x) ∧ AccInv s' ∧
      x ≠ .inactiveOrNull ∧ x ≠ .nullBeforeCopy ∧
      ∃ p, (s.sAccumBuffer = some p ∨ p = s.heap.next) ∧
        Heap.Frame s.heap s'.heap (chunkRange p d) := by
  have hf : ∃ p, (s.sAccumBuffer = some p ∨ p = s.heap.next) ∧
      Heap.Frame s.heap s.heap (chunkRange p d) := ⟨_, .inr rfl, Heap.Frame.refl _ _⟩
  unfold onData
  by_cases c₁ : s.testRunning = false ∨ o.connectedOnEntry = false
  · rw [if_pos c₁]; exact ⟨_, _, rfl, hi.reset, nofun, nofun, hf⟩
  rw [if_neg c₁]
  by_cases c₂ : 0x08 ≤ d.opCode
  · rw [if_pos c₂]; exact ⟨_, _, rfl, hi, nofun, nofun, hf⟩
  rw [if_neg c₂]
  cases sendOpcodeOf d.opCode with
  | none => exact ⟨_, _, rfl, hi, nofun, nofun, hf⟩
  | some op =>
    dsimp only
    by_cases c₃ : d.dataPtr = none ∧ 0 < d.dataLen
    · rw [if_pos c₃]; exact ⟨_, _, rfl, hi, nofun, nofun, hf⟩
    rw [if_neg c₃]
    by_cases c₄ : d.Fragmented ∧ 0 < d.totalLen
    · rw [if_pos c₄]
      have ha := hi.alloc o.mallocResult
      cases hp : (allocAccumBuffer s o.mallocResult).sAccumBuffer with
      | none => exact ⟨_, _, if_pos rfl, ha, nofun, nofun, _, .inr rfl, (alloc_frame hi _ _).1⟩
      | some p =>
        rw [if_neg (Option.some_ne_none p)]
        have hs := ha.startChunk d op o.mallocResult c₄.2
        obtain ⟨hfa, hpa⟩ := alloc_frame hi o.mallocResult (chunkRange p d)
        obtain ⟨hh, hsb⟩ := startChunk_keeps_buffer hp d op o.mallocResult
        by_cases c₅ :
            (startChunk (allocAccumBuffer s o.mallocResult) d op o.mallocResult).2.1 = .ok
        · obtain ⟨s', x, e, hs', h1, h2, hc⟩ := copyChunk_safe hs.1 (hs.2 c₅) o d _
          exact ⟨s', x, (if_pos c₅).trans e, hs', h1, h2, p, hpa p hp,
            hfa.trans (hh ▸ hc p hsb)⟩
        · exact ⟨_, _, if_neg c₅, hs.1, nofun, nofun, p, hpa p hp, hh ▸ hfa⟩
    · rw [if_neg c₄]
      rcases handOff_cases s o ⟨op, d.bytes⟩ none with e | e <;> rw [e]
      · exact ⟨_, _, rfl, hi, nofun, nofun, hf⟩
      · exact ⟨_, _, rfl, hi.reset, nofun, nofun, hf⟩

theorem AccInv.handler {s : Testee} (hi : AccInv s) (o : Observation) (e : WebsocketEvent) :
    ∃ r, websocketEventHandler s o e = some r ∧ AccInv r.1 := by
  cases e with
  | data d =>
    obtain ⟨s', x, h, hs', -⟩ := onData_safe hi o d
    exact ⟨(s', some x), by simp [websocketEventHandler, h], hs'⟩
  | connected => exact ⟨_, rfl, hi.setRunning true⟩
  | begin => exact ⟨_, rfl, hi⟩
  | _ => exact ⟨_, rfl, (hi.setRunning false).reset⟩

theorem Reachable.accInv {s : Testee} (hs : Reachable s) : AccInv s := by
  induction hs with
  | init => exact AccInv.init
  | appMain r => exact AccInv.appMain r
  | handler _ h ih =>
    obtain ⟨r, hr, hi⟩ := ih.handler _ _
    rw [hr] at h
    cases h
    exact hi
  | runTestCase r _ ih => exact ih.alloc r
  | cleanup _ ih => exact ih.cleanup

theorem Reachable.run {s : Testee} (hs : Reachable s) :
    ∀ {evs : List Input} {r : Testee × List (Option DataExit)}, runHandler s evs = some r →
      Reachable r.1
  | [], _, h => by cases h; exact hs
  | (e, o) :: evs, r, h => by
    obtain ⟨r₁, h₁, h⟩ := Option.bind_eq_some.mp h
    obtain ⟨r₂, h₂, rfl⟩ := Option.map_eq_some'.mp h
    exact (hs.handler h₁).run (r := r₂) h₂

/-- Each DATA call is defined, writes only the chunk's range of the live buffer, keeps freed blocks
dead and takes no defensive branch. -/
def AccumulatorSafe (s : Testee) : Prop :=
  AccInv s ∧
    (∀ d : EventData, sizeAdd d.payloadOffset d.dataLen = d.payloadOffset + d.dataLen) ∧
    ∀ (o : Observation) (d : EventData), ∃ s' x, onData s o d = some (s', x) ∧
      x ≠ .inactiveOrNull ∧ x ≠ .nullBeforeCopy ∧
      (∀ q b, s.heap.blocks q = some b → ∃ b', s'.heap.blocks q = some b' ∧
        ∀ i, b' i ≠ b i → s.sAccumBuffer = some q ∧ d.payloadOffset ≤ i ∧
          i < d.payloadOffset + d.dataLen ∧
          d.payloadOffset + d.dataLen ≤ maxFragmentedPayload) ∧
      (∀ q, q < s.heap.next → s.heap.blocks q = none → s'.heap.blocks q = none)

theorem reachable_accumulator_safe {s : Testee} (hs : Reachable s) : AccumulatorSafe s := by
  have hi := hs.accInv
  refine ⟨hi, EventData.sizeAdd_end, fun o d => ?_⟩
  obtain ⟨s', x, e, -, h1, h2, p, hp, hf⟩ := onData_safe hi o d
  refine ⟨s', x, e, h1, h2, fun q b hb => ?_, hf.dead⟩
  obtain ⟨b', hb', hw⟩ := hf.live q b hb
  refine ⟨b', hb', fun i hne => ?_⟩
  obtain ⟨rfl, h3⟩ := hw i hne
  have hq : q < s.heap.next := hi.lt_next (by simp [hb])
  rcases hp with hp | rfl
  · exact ⟨hp, h3⟩
  · omega

/-- The connection is up at both checks of a call, and any `malloc` succeeds. -/
def Observation.Up (o : Observation) : Prop :=
  o.connectedOnEntry = true ∧ o.connectedBeforeEcho = true ∧ o.mallocResult.isSome

def upObs : Observation := ⟨true, some fun _ => 0, true⟩

theorem upObs_up : upObs.Up := ⟨rfl, rfl, rfl⟩

def chunkHead : EventData :=
  ⟨some [1], 1, false, 2, 3, 0, by simp, by decide, by decide, by decide⟩

/-- A state mid-message, one byte of three copied, where the accumulator is safe. -/
theorem accumulator_safe_mid_message :
    ∃ s, runHandler (appMainAlloc (some fun _ => 0))
        [(.connected, upObs), (.data chunkHead, upObs)] =
        some (s, [none, some (.waiting .prepare)]) ∧
      s.sAccumulator.active = true ∧ s.sAccumulator.received = 1 ∧
      Reachable s ∧ AccumulatorSafe s := by
  obtain ⟨⟨s, xs⟩, e, hx⟩ := Option.map_eq_some'.mp (show
    (runHandler (appMainAlloc (some fun _ => 0))
      [(.connected, upObs), (.data chunkHead, upObs)]).map
      (fun r => (r.2, r.1.sAccumulator.active, r.1.sAccumulator.received)) =
      some ([none, some (.waiting .prepare)], true, 1) by decide)
  simp only [Prod.mk.injEq] at hx
  obtain ⟨rfl, ha, hn⟩ := hx
  have hs : Reachable s := (Reachable.appMain _).run e
  exact ⟨s, e, ha, hn, hs, reachable_accumulator_safe hs⟩

end EspProtocols.Autobahn
