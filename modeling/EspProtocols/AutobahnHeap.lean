import Mathlib.Logic.Function.Basic

/-! The C heap as the Autobahn testee uses it: blocks are named by allocation and dead once freed,
and a copy or a read outside a live block, undefined in C, is `none`. -/

namespace EspProtocols.Autobahn

/-- `MAX_FRAGMENTED_PAYLOAD`, the size of the reassembly buffer. -/
def maxFragmentedPayload : Nat := 65537

/-- The contents of one heap block. -/
abbrev Bytes := Nat → UInt8

structure Heap where
  blocks : Nat → Option Bytes
  next : Nat

namespace Heap

/-- `malloc(MAX_FRAGMENTED_PAYLOAD)`: `none` for NULL, else the new block's indeterminate bytes. -/
def malloc (h : Heap) : Option Bytes → Option Nat × Heap
  | none => (none, h)
  | some b => (some h.next, ⟨Function.update h.blocks h.next (some b), h.next + 1⟩)

def free (h : Heap) (p : Nat) : Heap :=
  { h with blocks := Function.update h.blocks p none }

/-- The bytes of a block after `memcpy(block + off, src, src.length)`. -/
def copyInto (b : Bytes) (off : Nat) (src : List UInt8) : Bytes :=
  fun i => if off ≤ i then src.getD (i - off) (b i) else b i

/-- `memcpy(p + off, src, src.length)` into one of the testee's blocks. -/
def memcpy (h : Heap) : Option Nat → Nat → List UInt8 → Option Heap
  | some p, off, src =>
    match h.blocks p with
    | some b =>
      if off + src.length ≤ maxFragmentedPayload then
        some { h with blocks := Function.update h.blocks p (some (copyInto b off src)) }
      else none
    | none => none
  | none, _, _ => none

/-- The first `len` bytes of block `p`, as a send reads them. -/
def read (h : Heap) : Option Nat → Nat → Option (List UInt8)
  | some p, len =>
    match h.blocks p with
    | some b => if len ≤ maxFragmentedPayload then some ((List.range len).map b) else none
    | none => none
  | none, _ => none

@[simp] theorem copyInto_nil (b : Bytes) (off : Nat) : copyInto b off [] = b := by
  funext i
  simp [copyInto]

theorem copyInto_cons (b : Bytes) (off : Nat) (c : UInt8) (cs : List UInt8) :
    copyInto (Function.update b off c) (off + 1) cs = copyInto b off (c :: cs) := by
  funext i
  by_cases h : i = off
  · subst h; simp [copyInto, show ¬i + 1 ≤ i by omega]
  · simp only [copyInto, Function.update_noteq h]
    by_cases h' : off + 1 ≤ i
    · rw [if_pos h', if_pos (by omega), show i - off = i - (off + 1) + 1 by omega]; rfl
    · rw [if_neg h', if_neg (by omega)]

theorem copyInto_of_lt {b : Bytes} {off i : Nat} (src : List UInt8) (h : i < off) :
    copyInto b off src i = b i := by
  simp [copyInto, show ¬off ≤ i by omega]

theorem copyInto_of_end_le {b : Bytes} {off i : Nat} {src : List UInt8}
    (h : off + src.length ≤ i) : copyInto b off src i = b i := by
  simp [copyInto, show off ≤ i by omega,
    List.getElem?_eq_none (show src.length ≤ i - off by omega)]

theorem copyInto_add {b : Bytes} {off k : Nat} {src : List UInt8} (h : k < src.length) :
    copyInto b off src (off + k) = src[k] := by
  simp [copyInto, Nat.add_sub_cancel_left, List.getElem?_eq_getElem h]

/-- A copy changes only the bytes in `[off, off + src.length)`. -/
theorem copyInto_of_not_mem {b : Bytes} {off i : Nat} {src : List UInt8}
    (h : ¬(off ≤ i ∧ i < off + src.length)) : copyInto b off src i = b i := by
  by_cases hi : i < off
  · exact copyInto_of_lt src hi
  · exact copyInto_of_end_le (by omega)

@[simp] theorem malloc_none (h : Heap) : h.malloc none = (none, h) := rfl

theorem malloc_some (h : Heap) (b : Bytes) :
    h.malloc (some b) =
      (some h.next, ⟨Function.update h.blocks h.next (some b), h.next + 1⟩) := rfl

/-- What `malloc` gives back is either NULL or a live block. -/
theorem malloc_live (h : Heap) (r : Option Bytes) :
    ∀ p ∈ (h.malloc r).1, ((h.malloc r).2.blocks p).isSome := by
  cases r <;> simp [malloc]

theorem malloc_keeps_live (h : Heap) (r : Option Bytes) {p : Nat} (hp : (h.blocks p).isSome) :
    ((h.malloc r).2.blocks p).isSome := by
  cases r with
  | none => exact hp
  | some b =>
    by_cases e : p = h.next
    · simp [malloc, e]
    · simpa [malloc, Function.update_noteq e] using hp

/-- `malloc` only uses names at or above `next`, so blocks below it keep their contents. -/
theorem malloc_blocks_of_lt (h : Heap) (r : Option Bytes) {p : Nat} (hp : p < h.next) :
    (h.malloc r).2.blocks p = h.blocks p := by
  cases r with
  | none => rfl
  | some b => simp [malloc, Function.update_noteq (Nat.ne_of_lt hp)]

theorem next_le_malloc (h : Heap) (r : Option Bytes) : h.next ≤ (h.malloc r).2.next := by
  cases r <;> simp [malloc]

/-- Allocation is fresh: the heap has no block at or above `next`, before and after. -/
theorem malloc_fresh (h : Heap) (r : Option Bytes)
    (hf : ∀ p, h.next ≤ p → h.blocks p = none) :
    ∀ p, (h.malloc r).2.next ≤ p → (h.malloc r).2.blocks p = none := by
  cases r with
  | none => exact hf
  | some b =>
    intro p hp
    simp only [malloc] at hp ⊢
    rw [Function.update_noteq (by omega)]
    exact hf p (by omega)

@[simp] theorem free_next (h : Heap) (p : Nat) : (h.free p).next = h.next := rfl

@[simp] theorem free_blocks_self (h : Heap) (p : Nat) : (h.free p).blocks p = none := by
  simp [free]

theorem free_blocks_of_ne (h : Heap) {p q : Nat} (e : q ≠ p) :
    (h.free p).blocks q = h.blocks q := by
  simp [free, Function.update_noteq e]

/-- The one way a copy succeeds: a live block and an end within the block. -/
theorem memcpy_eq_some {h h' : Heap} {p : Option Nat} {off : Nat} {src : List UInt8}
    (e : h.memcpy p off src = some h') :
    ∃ q b, p = some q ∧ h.blocks q = some b ∧ off + src.length ≤ maxFragmentedPayload ∧
      h' = { h with blocks := Function.update h.blocks q (some (copyInto b off src)) } := by
  match p, e with
  | some q, e =>
    simp only [memcpy] at e
    split at e
    · rename_i b hb
      split at e
      · exact ⟨q, b, rfl, hb, ‹_›, (Option.some.inj e).symm⟩
      · cases e
    · cases e

theorem memcpy_of_live {h : Heap} {q : Nat} {b : Bytes} {off : Nat} {src : List UInt8}
    (hb : h.blocks q = some b) (hl : off + src.length ≤ maxFragmentedPayload) :
    h.memcpy (some q) off src =
      some { h with blocks := Function.update h.blocks q (some (copyInto b off src)) } := by
  simp [memcpy, hb, hl]

theorem read_of_live {h : Heap} {q : Nat} {b : Bytes} {len : Nat}
    (hb : h.blocks q = some b) (hl : len ≤ maxFragmentedPayload) :
    h.read (some q) len = some ((List.range len).map b) := by
  simp [read, hb, hl]

/-- The buffer after a chunk lands right behind the bytes already there. -/
theorem map_range_copyInto {b : Bytes} {pre c : List UInt8}
    (hb : (List.range pre.length).map b = pre) :
    (List.range (pre.length + c.length)).map (copyInto b pre.length c) = pre ++ c := by
  rw [List.range_add, List.map_append, List.map_map]
  congr 1
  · calc (List.range pre.length).map (copyInto b pre.length c)
        = (List.range pre.length).map b :=
          List.map_congr_left fun i hi => copyInto_of_lt c (List.mem_range.mp hi)
      _ = pre := hb
  · refine List.ext_getElem (by simp) fun k h₁ h₂ => ?_
    simp only [List.getElem_map, List.getElem_range, Function.comp]
    exact copyInto_add h₂

/-- `h'` differs from `h` only where `w` allows; live blocks stay live, freed ones stay dead. -/
structure Frame (h h' : Heap) (w : Nat → Nat → Prop) : Prop where
  next_le : h.next ≤ h'.next
  live : ∀ q b, h.blocks q = some b →
    ∃ b', h'.blocks q = some b' ∧ ∀ i, b' i ≠ b i → w q i
  dead : ∀ q, q < h.next → h.blocks q = none → h'.blocks q = none

namespace Frame

theorem refl (h : Heap) (w : Nat → Nat → Prop) : Frame h h w :=
  ⟨Nat.le_refl _, fun _ b hb => ⟨b, hb, fun _ hi => absurd rfl hi⟩, fun _ _ hq => hq⟩

theorem trans {h₁ h₂ h₃ : Heap} {w : Nat → Nat → Prop} (f₁ : Frame h₁ h₂ w)
    (f₂ : Frame h₂ h₃ w) : Frame h₁ h₃ w := by
  refine ⟨Nat.le_trans f₁.next_le f₂.next_le, fun q b hb => ?_, fun q hq hd =>
    f₂.dead q (Nat.lt_of_lt_of_le hq f₁.next_le) (f₁.dead q hq hd)⟩
  obtain ⟨b₂, hb₂, hw₂⟩ := f₁.live q b hb
  obtain ⟨b₃, hb₃, hw₃⟩ := f₂.live q b₂ hb₂
  refine ⟨b₃, hb₃, fun i hi => ?_⟩
  by_cases e : b₃ i = b₂ i
  · exact hw₂ i (e ▸ hi)
  · exact hw₃ i e

theorem malloc (h : Heap) (r : Option Bytes) (w : Nat → Nat → Prop)
    (hf : ∀ p, h.next ≤ p → h.blocks p = none) : Frame h (h.malloc r).2 w := by
  refine ⟨h.next_le_malloc r, fun q b hb => ?_, fun q hq _ => ?_⟩
  · cases r with
    | none => exact ⟨b, hb, fun _ hi => absurd rfl hi⟩
    | some c =>
      have hq : q ≠ h.next := by rintro rfl; simp [hf h.next (Nat.le_refl _)] at hb
      exact ⟨b, by simpa [Heap.malloc, Function.update_noteq hq] using hb,
        fun _ hi => absurd rfl hi⟩
  · rwa [h.malloc_blocks_of_lt r hq]

/-- Copying into the live block `p` writes only the copied range of `p`. -/
theorem copy {h : Heap} {p : Nat} {b : Bytes} (hb : h.blocks p = some b) (off : Nat)
    (src : List UInt8) (w : Nat → Nat → Prop)
    (hw : ∀ i, off ≤ i → i < off + src.length → w p i) :
    Frame h { h with blocks := Function.update h.blocks p (some (copyInto b off src)) } w := by
  refine ⟨Nat.le_refl _, fun q c hc => ?_, fun q _ hq => ?_⟩
  · by_cases e : q = p
    · subst e
      rw [hb] at hc
      cases hc
      refine ⟨copyInto b off src, by simp, fun i hi => ?_⟩
      by_contra hn
      exact hi (copyInto_of_not_mem fun hm => hn (hw i hm.1 hm.2))
    · exact ⟨c, by simpa [Function.update_noteq e] using hc, fun _ hi => absurd rfl hi⟩
  · have e : q ≠ p := by rintro rfl; simp [hb] at hq
    simpa [Function.update_noteq e] using hq

end Frame

end Heap

end EspProtocols.Autobahn
