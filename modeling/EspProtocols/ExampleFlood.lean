import Mathlib.Data.Nat.Digits
import Mathlib.Data.List.GetD
import EspProtocols.AutobahnCaseUri

/-! `simulate_customer_crash_scenario` and the test loop of `websocket_example.c`: whatever `malloc`
and the sends answer, only written bytes are sent and every block allocated is freed. -/

namespace EspProtocols.Example

/-- `%04d` of a number below 10000: its decimal digits, with '0's in front up to four. -/
def zeroPad4 (n : Nat) : List UInt8 :=
  List.replicate (4 - (Nat.repr n).length) 48 ++ Autobahn.ascii (Nat.repr n)

def floodPrefix : String := "FLOOD_"

def floodSuffix : String := "_"

/-- The text of `snprintf(huge, 32, "FLOOD_%04d_", i)`. -/
def floodText (i : Nat) : List UInt8 :=
  Autobahn.ascii floodPrefix ++ zeroPad4 i ++ Autobahn.ascii floodSuffix

/-- Lines 133-136: `memset` with 'X', `snprintf(huge, 32, "FLOOD_%04d_", i)`, `huge[1023] = 0`. -/
def floodFill (i : Nat) (b : Autobahn.Bytes) : Autobahn.Bytes :=
  Function.update
    (Autobahn.Heap.copyInto (Autobahn.Heap.copyInto b 0 (List.replicate 1023 88)) 0
      (Autobahn.snprintf 32 (floodText i)).1) 1023 0

/-- What Step 1 meets at message `i`: the answer of `malloc(1024)`, the fresh block's contents, and
what `esp_websocket_client_send_text` returns. -/
structure FloodOracle where
  malloc : Nat → Option Autobahn.Bytes
  send : Nat → Int

/-- The loop of Step 1 (lines 129-150): the messages sent, 1023 bytes each, and the heap after. -/
def floodLoop (o : FloodOracle) : List Nat → Autobahn.Heap → List (List UInt8) × Autobahn.Heap
  | [], h => ([], h)
  | i :: is, h =>
    match o.malloc i with
    | none => floodLoop o is h
    | some b =>
      let h₁ := (h.malloc (some b)).2
      let h₂ : Autobahn.Heap :=
        { h₁ with blocks := Function.update h₁.blocks h.next (some (floodFill i b)) }
      let msg := (List.range 1023).map (floodFill i b)
      if o.send i < 0 then ([msg], h₂.free h.next)
      else
        let r := floodLoop o is (h₂.free h.next)
        (msg :: r.1, r.2)

def keepSendingPrefix : String := "KEEP_SENDING_"

/-- The text of `snprintf(data, sizeof(data), "KEEP_SENDING_%04d", i)`. -/
def keepText (i : Nat) : List UInt8 := Autobahn.ascii keepSendingPrefix ++ zeroPad4 i

/-- The loop of Step 2 (lines 154-181), which breaks at the first failed send. -/
def keepSendingLoop (send : Nat → Int) : List Nat → List (List UInt8)
  | [] => []
  | i :: is =>
    let msg := (Autobahn.snprintf 512 (keepText i)).1.takeWhile (· ≠ 0)
    if send i < 0 then [msg] else msg :: keepSendingLoop send is

/-- `simulate_customer_crash_scenario`: Step 1 over `i < 100`, then Step 2 over `i < 50`. -/
def simulateCustomerCrashScenario (o : FloodOracle) (keepSend : Nat → Int) (h : Autobahn.Heap) :
    List (List UInt8) × Autobahn.Heap :=
  ((floodLoop o (List.range 100) h).1 ++ keepSendingLoop keepSend (List.range 50),
    (floodLoop o (List.range 100) h).2)

/-- The message Step 1 means to send: "FLOOD_", four digits, "_", a NUL and 'X' up to 1023 bytes. -/
def floodMessage (i : Nat) : List UInt8 := floodText i ++ [0] ++ List.replicate 1011 88

def sentUntilFail (send : Nat → Int) (is : List Nat) : List Nat :=
  is.takeWhile (fun i => decide (0 ≤ send i)) ++
    (is.dropWhile fun i => decide (0 ≤ send i)).take 1

theorem zeroPad4_length {n : Nat} (hn : n < 10000) : (zeroPad4 n).length = 4 := by
  have := Nat.repr_length n 4 (by decide) hn
  simp only [zeroPad4, List.length_append, List.length_replicate, Autobahn.ascii_length]
  omega

theorem floodText_length {i : Nat} (hi : i < 10000) : (floodText i).length = 11 := by
  simp only [floodText, List.length_append, Autobahn.ascii_length, zeroPad4_length hi]
  rfl

theorem digitChar_mem {d : Nat} (hd : d < 10) :
    48 ≤ (Nat.digitChar d).toNat ∧ (Nat.digitChar d).toNat < 58 :=
  (by decide : ∀ d < 10, 48 ≤ (Nat.digitChar d).toNat ∧ (Nat.digitChar d).toNat < 58) d hd

theorem toDigitsCore_digits : ∀ (f n : Nat) (l : List Char),
    (∀ c ∈ l, 48 ≤ c.toNat ∧ c.toNat < 58) →
    ∀ c ∈ Nat.toDigitsCore 10 f n l, 48 ≤ c.toNat ∧ c.toNat < 58
  | 0, _, _, hl => hl
  | f + 1, n, l, hl => by
    have hd : ∀ c ∈ Nat.digitChar (n % 10) :: l, 48 ≤ c.toNat ∧ c.toNat < 58 :=
      List.forall_mem_cons.mpr ⟨digitChar_mem (Nat.mod_lt _ (by decide)), hl⟩
    simp only [Nat.toDigitsCore]
    split
    · exact hd
    · exact toDigitsCore_digits f _ _ hd

theorem zeroPad4_ne_zero (n : Nat) : 0 ∉ zeroPad4 n := by
  have hr : ∀ c ∈ (Nat.repr n).toList, 48 ≤ c.toNat ∧ c.toNat < 58 :=
    toDigitsCore_digits _ n [] (List.forall_mem_nil _)
  simp only [zeroPad4, List.mem_append, List.mem_replicate, Autobahn.ascii, List.mem_map,
    not_or, not_exists, not_and]
  refine ⟨fun _ h => absurd h (by decide), fun c hc e => ?_⟩
  have hc' := hr c hc
  have h := congrArg UInt8.toNat e
  rw [UInt8.toNat_ofNat_of_lt (by simp [UInt8.size]; omega)] at h
  simp at h
  omega

theorem keepText_length {i : Nat} (hi : i < 10000) : (keepText i).length = 17 := by
  simp only [keepText, List.length_append, Autobahn.ascii_length, zeroPad4_length hi]
  rfl

theorem keepText_sent {i : Nat} (hi : i < 10000) :
    (Autobahn.snprintf 512 (keepText i)).1.takeWhile (· ≠ 0) = keepText i := by
  have hz : 0 ∉ keepText i := by
    simp only [keepText, List.mem_append, not_or]
    exact ⟨by decide, zeroPad4_ne_zero i⟩
  rw [Autobahn.snprintf, List.take_of_length_le (by rw [keepText_length hi]; decide),
    List.takeWhile_append_of_pos (fun c hc => by simpa using ne_of_mem_of_not_mem hc hz)]
  simp

theorem copyInto_zero (c : Autobahn.Bytes) (t : List UInt8) (j : Nat) :
    Autobahn.Heap.copyInto c 0 t j = t.getD j (c j) := by
  simp [Autobahn.Heap.copyInto]

theorem floodMessage_length {i : Nat} (hi : i < 10000) : (floodMessage i).length = 1023 := by
  simp only [floodMessage, List.length_append, floodText_length hi, List.length_singleton,
    List.length_replicate]

/-- The first 1023 bytes of a filled block do not depend on the block's contents before. -/
theorem floodFill_sent {i : Nat} (hi : i < 10000) (b : Autobahn.Bytes) :
    (List.range 1023).map (floodFill i b) = floodMessage i := by
  have hl : (floodText i ++ [0]).length = 12 := by
    rw [List.length_append, floodText_length hi]; rfl
  have ht : (Autobahn.snprintf 32 (floodText i)).1 = floodText i ++ [0] := by
    rw [Autobahn.snprintf, List.take_of_length_le (by rw [floodText_length hi]; decide)]
  apply List.ext_getElem?
  intro j
  by_cases hj : j < 1023
  · rw [List.getElem?_map, List.getElem?_range hj, Option.map_some', floodFill,
      Function.update_noteq (by omega), copyInto_zero, copyInto_zero, ht, floodMessage]
    by_cases hj' : j < 12
    · rw [List.getElem?_append_left (by rw [hl]; omega), List.getD_eq_getElem _ _ (by omega),
        List.getElem?_eq_getElem (by omega)]
    · rw [List.getElem?_append_right (by rw [hl]; omega), List.getD_eq_default _ _ (by omega),
        List.getD_eq_getElem _ _ (by rw [List.length_replicate]; omega), List.getElem_replicate,
        List.getElem?_replicate, if_pos (by rw [hl]; omega)]
  · rw [List.getElem?_eq_none (by rw [List.length_map, List.length_range]; omega),
      List.getElem?_eq_none (by rw [floodMessage_length hi]; omega)]

theorem malloc_write_free {h : Autobahn.Heap} (hf : h.blocks h.next = none) (b c : Autobahn.Bytes) :
    ({ (h.malloc (some b)).2 with
        blocks := Function.update (h.malloc (some b)).2.blocks h.next (some c) } :
      Autobahn.Heap).free h.next = ⟨h.blocks, h.next + 1⟩ := by
  simp only [Autobahn.Heap.free, Autobahn.Heap.malloc, Function.update_idem,
    Autobahn.Heap.mk.injEq, and_true]
  funext q
  by_cases hq : q = h.next
  · subst hq; simp [hf]
  · simp [Function.update_noteq hq]

theorem floodLoop_eq (o : FloodOracle) :
    ∀ (is : List Nat) (h : Autobahn.Heap), (∀ i ∈ is, i < 10000) →
      (∀ q, h.next ≤ q → h.blocks q = none) →
      (floodLoop o is h).1 =
          (sentUntilFail o.send (is.filter fun i => (o.malloc i).isSome)).map floodMessage ∧
        (floodLoop o is h).2.blocks = h.blocks
  | [], h, _, _ => ⟨rfl, rfl⟩
  | i :: is, h, hi, hf => by
    have his : ∀ i ∈ is, i < 10000 := fun j hj => hi j (List.mem_cons_of_mem _ hj)
    cases hm : o.malloc i with
    | none =>
      simp only [floodLoop, hm, List.filter_cons, Option.isSome_none, Bool.false_eq_true,
        if_false]
      exact floodLoop_eq o is h his hf
    | some b =>
      have hf' : ∀ q, h.next + 1 ≤ q → h.blocks q = none := fun q hq => hf q (by omega)
      have hmsg := floodFill_sent (hi i (List.mem_cons_self _ _)) b
      simp only [floodLoop, hm, malloc_write_free (hf _ (Nat.le_refl _)), hmsg,
        List.filter_cons, Option.isSome_some, if_true, sentUntilFail]
      by_cases hs : o.send i < 0
      · simp [hs]
      · obtain ⟨e₁, e₂⟩ := floodLoop_eq o is ⟨h.blocks, h.next + 1⟩ his hf'
        simp only [if_neg hs, e₁, e₂, sentUntilFail, List.takeWhile_cons,
          List.dropWhile_cons, decide_eq_true (show 0 ≤ o.send i by omega), if_true,
          List.map_cons, List.map_append, List.cons_append, and_true]

theorem keepSendingLoop_eq (send : Nat → Int) :
    ∀ is : List Nat, (∀ i ∈ is, i < 10000) →
      keepSendingLoop send is = (sentUntilFail send is).map keepText
  | [], _ => rfl
  | i :: is, hi => by
    have his : ∀ i ∈ is, i < 10000 := fun j hj => hi j (List.mem_cons_of_mem _ hj)
    simp only [keepSendingLoop, keepText_sent (hi i (List.mem_cons_self _ _)), sentUntilFail]
    by_cases hs : send i < 0
    · simp [hs]
    · simp only [if_neg hs, keepSendingLoop_eq send is his, sentUntilFail, List.takeWhile_cons,
        List.dropWhile_cons, decide_eq_true (show 0 ≤ send i by omega), if_true, List.map_cons,
        List.map_append, List.cons_append]

/-- The crash scenario sends only the texts it writes, none of a block's indeterminate contents, up
to each step's first failed send, and frees every block it allocates. -/
theorem crash_scenario_sends_only_written_bytes (o : FloodOracle) (keepSend : Nat → Int)
    (h : Autobahn.Heap) (hf : ∀ q, h.next ≤ q → h.blocks q = none) :
    (simulateCustomerCrashScenario o keepSend h).1 =
        (sentUntilFail o.send ((List.range 100).filter fun i => (o.malloc i).isSome)).map
          floodMessage ++ (sentUntilFail keepSend (List.range 50)).map keepText ∧
      (simulateCustomerCrashScenario o keepSend h).2.blocks = h.blocks := by
  have hr : ∀ n, ∀ i ∈ List.range n, n ≤ 10000 → i < 10000 := fun n i hi hn => by
    rw [List.mem_range] at hi; omega
  obtain ⟨e₁, e₂⟩ :=
    floodLoop_eq o (List.range 100) h (fun i hi => hr 100 i hi (by decide)) hf
  rw [simulateCustomerCrashScenario, e₁,
    keepSendingLoop_eq keepSend _ fun i hi => hr 50 i hi (by decide)]
  exact ⟨rfl, e₂⟩

def thirdFloodFails : FloodOracle :=
  ⟨fun _ => some fun _ => 0, fun i => if i < 2 then 1023 else -1⟩

theorem third_flood_send_fails :
    (∀ q, (⟨fun _ => none, 0⟩ : Autobahn.Heap).next ≤ q →
      (⟨fun _ => none, 0⟩ : Autobahn.Heap).blocks q = none) ∧
    (simulateCustomerCrashScenario thirdFloodFails (fun _ => -1) ⟨fun _ => none, 0⟩).1 =
        (sentUntilFail thirdFloodFails.send
          ((List.range 100).filter fun i => (thirdFloodFails.malloc i).isSome)).map
          floodMessage ++ (sentUntilFail (fun _ => -1) (List.range 50)).map keepText ∧
      (simulateCustomerCrashScenario thirdFloodFails (fun _ => -1)
          ⟨fun _ => none, 0⟩).2.blocks =
        (⟨fun _ => none, 0⟩ : Autobahn.Heap).blocks :=
  have hf : ∀ q, (⟨fun _ => none, 0⟩ : Autobahn.Heap).next ≤ q →
      (⟨fun _ => none, 0⟩ : Autobahn.Heap).blocks q = none := fun _ _ => rfl
  ⟨hf, crash_scenario_sends_only_written_bytes thirdFloodFails (fun _ => -1) _ hf⟩

/-! ### The test cycles of `websocket_app_start` -/

/-- What one pass of the `while (true)` loop meets: the connection after the 3 s wait, the crash
scenario's answers, and whether the shutdown semaphore is given. -/
structure CycleOracle where
  connected : Bool
  flood : FloodOracle
  keepSend : Nat → Int
  shutdown : Bool

def helloPrefix : String := "hello_"

/-- The text of `snprintf(hello, sizeof(hello), "hello_%d", i)`. -/
def helloText (i : Nat) : List UInt8 := Autobahn.ascii helloPrefix ++ Autobahn.ascii (Nat.repr i)

/-- One pass of the loop (lines 329-372): nothing when not connected, else three hellos and the
crash scenario. -/
def testCycle (c : CycleOracle) (h : Autobahn.Heap) : List (List UInt8) × Autobahn.Heap :=
  if c.connected then
    ((List.range 3).map (fun i => (Autobahn.snprintf 32 (helloText i)).1.takeWhile (· ≠ 0)) ++
        (simulateCustomerCrashScenario c.flood c.keepSend h).1,
      (simulateCustomerCrashScenario c.flood c.keepSend h).2)
  else ([], h)

/-- The passes up to the first connected one that takes the shutdown semaphore. -/
def testCycles : List CycleOracle → Autobahn.Heap → List (List UInt8) × Autobahn.Heap
  | [], h => ([], h)
  | c :: cs, h =>
    if c.connected ∧ c.shutdown then testCycle c h
    else ((testCycle c h).1 ++ (testCycles cs (testCycle c h).2).1,
      (testCycles cs (testCycle c h).2).2)

/-- The messages the example means to send: a hello, a flood message or a keep-sending text. -/
def ExampleMessage (m : List UInt8) : Prop :=
  (∃ i < 3, m = helloText i) ∨ (∃ i < 100, m = floodMessage i) ∨ (∃ i < 50, m = keepText i)

theorem helloText_sent (i : Nat) (hi : i < 10) :
    (Autobahn.snprintf 32 (helloText i)).1.takeWhile (· ≠ 0) = helloText i := by
  have hr : ∀ c ∈ (Nat.repr i).toList, 48 ≤ c.toNat ∧ c.toNat < 58 :=
    toDigitsCore_digits _ i [] (List.forall_mem_nil _)
  have hl : (helloText i).length ≤ 31 := by
    have := Nat.repr_length i 1 (by decide) (by omega)
    simp only [helloText, List.length_append, Autobahn.ascii_length]
    exact Nat.le_trans (Nat.add_le_add_left this _) (by decide)
  have hz : ∀ c ∈ helloText i, c ≠ 0 := by
    simp only [helloText, List.mem_append, Autobahn.ascii, List.mem_map]
    rintro _ (⟨c, hc, rfl⟩ | ⟨c, hc, rfl⟩) e
    · revert c; decide
    · have hc' := hr c hc
      have h := congrArg UInt8.toNat e
      rw [UInt8.toNat_ofNat_of_lt (by simp [UInt8.size]; omega)] at h
      simp at h
      omega
  rw [Autobahn.snprintf, List.take_of_length_le hl,
    List.takeWhile_append_of_pos (fun c hc => by simpa using hz c hc)]
  simp

theorem mem_sentUntilFail {send : Nat → Int} {is : List Nat} {i : Nat}
    (h : i ∈ sentUntilFail send is) : i ∈ is := by
  rcases List.mem_append.mp h with h | h
  · exact List.takeWhile_subset _ h
  · exact List.dropWhile_subset _ (List.mem_of_mem_take h)

theorem floodLoop_next (o : FloodOracle) :
    ∀ (is : List Nat) (h : Autobahn.Heap), h.next ≤ (floodLoop o is h).2.next
  | [], _ => Nat.le_refl _
  | i :: is, h => by
    cases hm : o.malloc i with
    | none => simpa [floodLoop, hm] using floodLoop_next o is h
    | some b =>
      simp only [floodLoop, hm]
      split
      · simp [Autobahn.Heap.malloc]
      · refine Nat.le_trans ?_ (floodLoop_next o is _)
        exact Nat.le_succ _

/-- One pass sends only the example's messages, frees what it allocates, and moves `next` on. -/
theorem testCycle_sends (c : CycleOracle) (h : Autobahn.Heap)
    (hf : ∀ q, h.next ≤ q → h.blocks q = none) :
    (∀ m ∈ (testCycle c h).1, ExampleMessage m) ∧ (testCycle c h).2.blocks = h.blocks ∧
      h.next ≤ (testCycle c h).2.next := by
  unfold testCycle
  by_cases hc : c.connected = true
  · rw [if_pos hc]
    have hr : ∀ n, ∀ i ∈ List.range n, n ≤ 10000 → i < 10000 := fun n i hi hn => by
      rw [List.mem_range] at hi; omega
    obtain ⟨e₁, e₂⟩ := floodLoop_eq c.flood (List.range 100) h
      (fun i hi => hr 100 i hi (by decide)) hf
    refine ⟨fun m hm => ?_, e₂, floodLoop_next _ _ h⟩
    simp only [simulateCustomerCrashScenario, e₁,
      keepSendingLoop_eq c.keepSend _ fun i hi => hr 50 i hi (by decide), List.mem_append,
      List.mem_map] at hm
    rcases hm with ⟨i, hi, rfl⟩ | ⟨i, hi, rfl⟩ | ⟨i, hi, rfl⟩
    · have hi := List.mem_range.mp hi
      exact .inl ⟨i, hi, helloText_sent i (by omega)⟩
    · exact .inr (.inl ⟨i, List.mem_range.mp (List.mem_filter.mp (mem_sentUntilFail hi)).1, rfl⟩)
    · exact .inr (.inr ⟨i, List.mem_range.mp (mem_sentUntilFail hi), rfl⟩)
  · rw [if_neg hc]
    exact ⟨fun _ h => absurd h (List.not_mem_nil _), rfl, Nat.le_refl _⟩

/-- Over any number of passes, every message sent is a hello, a flood message or a keep-sending
text, and every block allocated is freed. -/
theorem test_cycles_send_only_example_messages :
    ∀ (cs : List CycleOracle) (h : Autobahn.Heap), (∀ q, h.next ≤ q → h.blocks q = none) →
      (∀ m ∈ (testCycles cs h).1, ExampleMessage m) ∧ (testCycles cs h).2.blocks = h.blocks
  | [], _, _ => ⟨fun _ h => absurd h (List.not_mem_nil _), rfl⟩
  | c :: cs, h, hf => by
    obtain ⟨hm, hb, hn⟩ := testCycle_sends c h hf
    have hf' : ∀ q, (testCycle c h).2.next ≤ q → (testCycle c h).2.blocks q = none :=
      fun q hq => hb ▸ hf q (Nat.le_trans hn hq)
    obtain ⟨hm', hb'⟩ := test_cycles_send_only_example_messages cs _ hf'
    unfold testCycles
    by_cases hs : c.connected = true ∧ c.shutdown = true
    · rw [if_pos hs]; exact ⟨hm, hb⟩
    · rw [if_neg hs]
      refine ⟨fun m h => ?_, hb'.trans hb⟩
      rcases List.mem_append.mp h with h | h
      · exact hm m h
      · exact hm' m h

def downThenUp : List CycleOracle :=
  [⟨false, ⟨fun _ => none, fun _ => 0⟩, fun _ => 0, false⟩,
    ⟨true, ⟨fun _ => some fun _ => 0, fun _ => -1⟩, fun _ => -1, true⟩]

theorem down_then_up_sends_example_messages :
    (∀ q, (⟨fun _ => none, 0⟩ : Autobahn.Heap).next ≤ q →
      (⟨fun _ => none, 0⟩ : Autobahn.Heap).blocks q = none) ∧
    (∀ m ∈ (testCycles downThenUp ⟨fun _ => none, 0⟩).1, ExampleMessage m) ∧
      (testCycles downThenUp ⟨fun _ => none, 0⟩).2.blocks =
        (⟨fun _ => none, 0⟩ : Autobahn.Heap).blocks :=
  have hf : ∀ q, (⟨fun _ => none, 0⟩ : Autobahn.Heap).next ≤ q →
      (⟨fun _ => none, 0⟩ : Autobahn.Heap).blocks q = none := fun _ _ => rfl
  ⟨hf, test_cycles_send_only_example_messages downThenUp _ hf⟩

end EspProtocols.Example
