import EspProtocols.AutobahnHeap

/-! `s_accumulator`, `s_accum_buffer` and the functions of `autobahn_testee.c` that change them
outside the event handler. -/

namespace EspProtocols.Autobahn

/-- `ws_accumulator_t`. The buffer is a block name, `none` for NULL. -/
structure WsAccumulator where
  buffer : Option Nat
  capacity : Nat
  expectedLen : Nat
  received : Nat
  opcode : UInt8
  active : Bool

/-- The statics `s_accumulator`, `s_accum_buffer` and `test_running`, with the heap. -/
structure Testee where
  sAccumulator : WsAccumulator
  sAccumBuffer : Option Nat
  testRunning : Bool
  heap : Heap

/-- The statics before `app_main` runs: `s_accumulator = {0}`, no buffer, an empty heap. -/
def testeeInit : Testee :=
  ⟨⟨none, 0, 0, 0, 0, false⟩, none, false, ⟨fun _ => none, 0⟩⟩

inductive EspErr
  | ok
  | errInvalidSize
  | errNoMem
  deriving DecidableEq, Repr

/-- `ws_accumulator_reset`: forget the message in progress, keep the buffer for reuse. -/
def wsAccumulatorReset (s : Testee) : Testee :=
  { s with sAccumulator :=
      { s.sAccumulator with expectedLen := 0, received := 0, opcode := 0, active := false } }

/-- `ws_accumulator_cleanup`. The freed pointer stays in `s_accumulator.buffer`. -/
def wsAccumulatorCleanup (s : Testee) : Testee :=
  match s.sAccumBuffer with
  | some p => { wsAccumulatorReset s with sAccumBuffer := none, heap := s.heap.free p }
  | none => wsAccumulatorReset s

/-- `if (!s_accum_buffer) s_accum_buffer = malloc(MAX_FRAGMENTED_PAYLOAD);`, written out thrice. -/
def allocAccumBuffer (s : Testee) (r : Option Bytes) : Testee :=
  match s.sAccumBuffer with
  | some _ => s
  | none => { s with sAccumBuffer := (s.heap.malloc r).1, heap := (s.heap.malloc r).2 }

/-- `app_main`'s early `s_accum_buffer = malloc(MAX_FRAGMENTED_PAYLOAD)`. -/
def appMainAlloc (r : Option Bytes) : Testee :=
  { testeeInit with
    sAccumBuffer := (testeeInit.heap.malloc r).1, heap := (testeeInit.heap.malloc r).2 }

/-- `ws_accumulator_prepare(total_len, opcode)`; `r` answers its `malloc`, if it makes one. -/
def wsAccumulatorPrepare (s : Testee) (totalLen : Nat) (opcode : UInt8) (r : Option Bytes) :
    EspErr × Testee :=
  if totalLen = 0 then (.ok, s)
  else if maxFragmentedPayload < totalLen then (.errInvalidSize, s)
  else
    match (allocAccumBuffer s r).sAccumBuffer with
    | none => (.errNoMem, allocAccumBuffer s r)
    | some p =>
      (.ok, { allocAccumBuffer s r with
        sAccumulator := ⟨some p, maxFragmentedPayload, totalLen, 0, opcode, true⟩ })

theorem appMainAlloc_eq (r : Option Bytes) : appMainAlloc r = allocAccumBuffer testeeInit r := rfl

@[simp] theorem reset_sAccumBuffer (s : Testee) :
    (wsAccumulatorReset s).sAccumBuffer = s.sAccumBuffer := rfl

@[simp] theorem reset_heap (s : Testee) : (wsAccumulatorReset s).heap = s.heap := rfl

@[simp] theorem reset_testRunning (s : Testee) :
    (wsAccumulatorReset s).testRunning = s.testRunning := rfl

@[simp] theorem reset_active (s : Testee) :
    (wsAccumulatorReset s).sAccumulator.active = false := rfl

@[simp] theorem reset_capacity (s : Testee) :
    (wsAccumulatorReset s).sAccumulator.capacity = s.sAccumulator.capacity := rfl

@[simp] theorem reset_expectedLen (s : Testee) :
    (wsAccumulatorReset s).sAccumulator.expectedLen = 0 := rfl

@[simp] theorem reset_received (s : Testee) :
    (wsAccumulatorReset s).sAccumulator.received = 0 := rfl

@[simp] theorem alloc_sAccumulator (s : Testee) (r : Option Bytes) :
    (allocAccumBuffer s r).sAccumulator = s.sAccumulator := by
  unfold allocAccumBuffer; split <;> rfl

@[simp] theorem alloc_testRunning (s : Testee) (r : Option Bytes) :
    (allocAccumBuffer s r).testRunning = s.testRunning := by
  unfold allocAccumBuffer; split <;> rfl

theorem alloc_of_some {s : Testee} {p : Nat} (r : Option Bytes) (h : s.sAccumBuffer = some p) :
    allocAccumBuffer s r = s := by
  simp [allocAccumBuffer, h]

theorem alloc_keeps_live (s : Testee) (r : Option Bytes) {p : Nat}
    (hp : (s.heap.blocks p).isSome) : ((allocAccumBuffer s r).heap.blocks p).isSome := by
  unfold allocAccumBuffer
  split
  · exact hp
  · exact s.heap.malloc_keeps_live r hp

theorem alloc_buffer_live (s : Testee) (r : Option Bytes)
    (hs : ∀ p ∈ s.sAccumBuffer, (s.heap.blocks p).isSome) :
    ∀ p ∈ (allocAccumBuffer s r).sAccumBuffer,
      ((allocAccumBuffer s r).heap.blocks p).isSome := by
  unfold allocAccumBuffer
  split
  · exact hs
  · exact s.heap.malloc_live r

theorem alloc_fresh (s : Testee) (r : Option Bytes)
    (hf : ∀ p, s.heap.next ≤ p → s.heap.blocks p = none) :
    ∀ p, (allocAccumBuffer s r).heap.next ≤ p →
      (allocAccumBuffer s r).heap.blocks p = none := by
  unfold allocAccumBuffer
  split
  · exact hf
  · exact s.heap.malloc_fresh r hf

/-- Every outcome of `ws_accumulator_prepare` on a nonzero length. -/
theorem prepare_cases (s : Testee) {totalLen : Nat} (opcode : UInt8) (r : Option Bytes)
    (hl : 0 < totalLen) :
    (maxFragmentedPayload < totalLen ∧
        wsAccumulatorPrepare s totalLen opcode r = (.errInvalidSize, s)) ∨
    (totalLen ≤ maxFragmentedPayload ∧ (allocAccumBuffer s r).sAccumBuffer = none ∧
        wsAccumulatorPrepare s totalLen opcode r = (.errNoMem, allocAccumBuffer s r)) ∨
    (∃ p, totalLen ≤ maxFragmentedPayload ∧ (allocAccumBuffer s r).sAccumBuffer = some p ∧
        wsAccumulatorPrepare s totalLen opcode r = (.ok, { allocAccumBuffer s r with
          sAccumulator := ⟨some p, maxFragmentedPayload, totalLen, 0, opcode, true⟩ })) := by
  by_cases hm : maxFragmentedPayload < totalLen
  · exact .inl ⟨hm, by simp [wsAccumulatorPrepare, hm, Nat.pos_iff_ne_zero.mp hl]⟩
  · cases hp : (allocAccumBuffer s r).sAccumBuffer with
    | none =>
      exact .inr (.inl ⟨by omega, rfl,
        by simp [wsAccumulatorPrepare, hm, hp, Nat.pos_iff_ne_zero.mp hl]⟩)
    | some p =>
      exact .inr (.inr ⟨p, by omega, rfl,
        by simp [wsAccumulatorPrepare, hm, hp, Nat.pos_iff_ne_zero.mp hl]⟩)

/-- With `s_accum_buffer` set, `ws_accumulator_prepare` allocates nothing. -/
theorem prepare_keeps_buffer {s : Testee} {p : Nat} (h : s.sAccumBuffer = some p)
    (totalLen : Nat) (opcode : UInt8) (r : Option Bytes) :
    (wsAccumulatorPrepare s totalLen opcode r).2.heap = s.heap ∧
      (wsAccumulatorPrepare s totalLen opcode r).2.sAccumBuffer = some p := by
  unfold wsAccumulatorPrepare
  simp only [alloc_of_some r h, h]
  split_ifs <;> exact ⟨rfl, by simp [h]⟩

/-- A failed `ws_accumulator_prepare` leaves `s_accumulator` as it was. -/
theorem prepare_failed_keeps (s : Testee) (totalLen : Nat) (opcode : UInt8) (r : Option Bytes)
    (h : (wsAccumulatorPrepare s totalLen opcode r).1 ≠ .ok) :
    (wsAccumulatorPrepare s totalLen opcode r).2.sAccumulator = s.sAccumulator := by
  rcases Nat.eq_zero_or_pos totalLen with rfl | hl
  · exact absurd rfl h
  rcases prepare_cases s opcode r hl with ⟨-, e⟩ | ⟨-, -, e⟩ | ⟨p, -, -, e⟩
  · rw [e]
  · rw [e]; exact alloc_sAccumulator s r
  · rw [e] at h; exact absurd rfl h

end EspProtocols.Autobahn
