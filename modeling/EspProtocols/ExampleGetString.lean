import EspProtocols.AutobahnGetString

/-! `get_string` of `websocket_example.c`, which stops only at LF and writes a NUL only there: once
`size` characters come first, the URI it hands the client does not end inside `char line[128]`. -/

namespace EspProtocols.Example

/-- The loop of `get_string(line, size)` from `count`: `none` while it waits for input, or where
`++count` would pass `INT_MAX`. -/
def getStringLoop (size : Nat) :
    List Int → Nat → (Nat → UInt8) → Option ((Nat → UInt8) × List Int)
  | input, count, line =>
    if count < size then
      match input with
      | [] => none
      | c :: rest =>
        if c = 10 then some (Function.update line count 0, rest)
        else if 0 < c ∧ c < 127 then
          if count + 1 < Autobahn.intLimit then
            getStringLoop size rest (count + 1) (Function.update line count (UInt8.ofNat c.toNat))
          else none
        else getStringLoop size rest count line
    else some (line, input)

/-- `get_string(line, size)`: the loop from `count = 0`, and nothing after it. -/
def getString (size : Nat) (input : List Int) (line : Nat → UInt8) :
    Option ((Nat → UInt8) × List Int) :=
  getStringLoop size input 0 line

/-- The characters the loop keeps before the first LF: those in 1-126, CR among them. -/
def keptBeforeLf (input : List Int) : List Int :=
  (input.takeWhile fun c => c ≠ 10).filter fun c => 0 < c ∧ c < 127

theorem keptBeforeLf_cons_kept {c : Int} (hn : c ≠ 10) (hc : 0 < c ∧ c < 127)
    (rest : List Int) :
    keptBeforeLf (c :: rest) = c :: keptBeforeLf rest := by
  unfold keptBeforeLf
  rw [List.takeWhile_cons_of_pos (p := fun c => decide (c ≠ 10)) (decide_eq_true hn),
    List.filter_cons_of_pos (p := fun c => decide (0 < c ∧ c < 127)) (decide_eq_true hc)]

theorem keptBeforeLf_cons_skipped {c : Int} (hn : c ≠ 10) (hc : ¬(0 < c ∧ c < 127))
    (rest : List Int) : keptBeforeLf (c :: rest) = keptBeforeLf rest := by
  unfold keptBeforeLf
  rw [List.takeWhile_cons_of_pos (p := fun c => decide (c ≠ 10)) (decide_eq_true hn),
    List.filter_cons_of_neg (p := fun c => decide (0 < c ∧ c < 127)) (by simpa using hc)]

theorem ofNat_kept_ne_zero {c : Int} (hc : 0 < c ∧ c < 127) : UInt8.ofNat c.toNat ≠ 0 := by
  intro h
  have := congrArg UInt8.toNat h
  rw [UInt8.toNat_ofNat_of_lt (show c.toNat < UInt8.size by simp [UInt8.size]; omega)] at this
  simp at this
  omega

theorem keptBeforeLf_mem {c : Int} {input : List Int} (h : c ∈ keptBeforeLf input) :
    0 < c ∧ c < 127 := by
  simpa using (List.mem_filter.mp h).2

/-- From `count`, with enough kept characters before an LF, it writes `size - count` of them. -/
theorem getStringLoop_full {size : Nat} (hs : size < Autobahn.intLimit) :
    ∀ (input : List Int) (count : Nat) (line : Nat → UInt8), count ≤ size →
      size - count ≤ (keptBeforeLf input).length →
      ∃ rest, getStringLoop size input count line = some (Autobahn.Heap.copyInto line count
        (((keptBeforeLf input).map fun c => UInt8.ofNat c.toNat).take (size - count)), rest)
  | [], count, line, hc, hk => by
    have : count = size := by simp [keptBeforeLf] at hk; omega
    subst this
    exact ⟨[], by simp [getStringLoop]⟩
  | c :: rest, count, line, hc, hk => by
    rw [getStringLoop]
    by_cases hlt : count < size
    · rw [if_pos hlt]
      by_cases hn : c = 10
      · simp [keptBeforeLf, hn] at hk; omega
      rw [if_neg hn]
      by_cases hp : 0 < c ∧ c < 127
      · have hi : count + 1 < Autobahn.intLimit := by omega
        rw [if_pos hp, if_pos hi]
        rw [keptBeforeLf_cons_kept hn hp, List.length_cons] at hk
        obtain ⟨rest', e⟩ := getStringLoop_full hs rest (count + 1)
          (Function.update line count (UInt8.ofNat c.toNat)) hlt (by omega)
        refine ⟨rest', e.trans ?_⟩
        rw [Autobahn.Heap.copyInto_cons, keptBeforeLf_cons_kept hn hp, List.map_cons,
          show size - count = size - (count + 1) + 1 by omega, List.take_succ_cons]
      · rw [if_neg hp, keptBeforeLf_cons_skipped hn hp]
        rw [keptBeforeLf_cons_skipped hn hp] at hk
        exact getStringLoop_full hs rest count line hc hk
    · rw [if_neg hlt, show size - count = 0 by omega]
      exact ⟨c :: rest, by simp⟩

/-- From `count`, when an LF comes first, the loop writes the kept characters and a NUL. -/
theorem getStringLoop_lf {size : Nat} (hs : size < Autobahn.intLimit) :
    ∀ (input : List Int) (count : Nat) (line : Nat → UInt8),
      count + (keptBeforeLf input).length < size → 10 ∈ input →
      ∃ rest, getStringLoop size input count line =
        some (Autobahn.writeLine line count ((keptBeforeLf input).map fun c => UInt8.ofNat c.toNat),
          rest)
  | [], _, _, _, hm => absurd hm (List.not_mem_nil _)
  | c :: rest, count, line, hk, hm => by
    rw [getStringLoop, if_pos (show count < size by omega)]
    by_cases hn : c = 10
    · subst hn
      exact ⟨rest, by simp [keptBeforeLf, Autobahn.writeLine_nil]⟩
    rw [if_neg hn]
    have hm' : 10 ∈ rest := (List.mem_cons.mp hm).resolve_left (Ne.symm hn)
    by_cases hp : 0 < c ∧ c < 127
    · rw [keptBeforeLf_cons_kept hn hp, List.length_cons] at hk
      rw [if_pos hp, if_pos (show count + 1 < Autobahn.intLimit by omega)]
      obtain ⟨rest', e⟩ := getStringLoop_lf hs rest (count + 1)
        (Function.update line count (UInt8.ofNat c.toNat)) (by omega) hm'
      rw [e, Autobahn.writeLine_cons, keptBeforeLf_cons_kept hn hp, List.map_cons]
      exact ⟨rest', rfl⟩
    · rw [if_neg hp, keptBeforeLf_cons_skipped hn hp]
      rw [keptBeforeLf_cons_skipped hn hp] at hk
      exact getStringLoop_lf hs rest count line hk hm'

/-- For `size < 2^31`: an LF before the line is full leaves a C string; `size` characters before it
fill `line[0 .. size)` with no NUL. Nothing past `line[size]` changes. -/
theorem example_get_string_nul_only_at_lf {size : Nat} (hs : size < Autobahn.intLimit)
    (input : List Int) (line : Nat → UInt8) :
    ((keptBeforeLf input).length < size → 10 ∈ input →
      ∃ line' rest, getString size input line = some (line', rest) ∧
        Autobahn.HoldsCString line' ((keptBeforeLf input).map fun c => UInt8.ofNat c.toNat) ∧
        ∀ i, size ≤ i → line' i = line i) ∧
    (size ≤ (keptBeforeLf input).length →
      ∃ line' rest, getString size input line = some (line', rest) ∧
        (List.range size).map line' =
          ((keptBeforeLf input).map fun c => UInt8.ofNat c.toNat).take size ∧
        (∀ i < size, line' i ≠ 0) ∧ ∀ i, size ≤ i → line' i = line i) := by
  refine ⟨fun hk hm => ?_, fun hk => ?_⟩
  · obtain ⟨rest, e⟩ := getStringLoop_lf hs input 0 line (by simpa using hk) hm
    refine ⟨_, rest, e, Autobahn.writeLine_holds line _, fun i hi => ?_⟩
    exact Autobahn.writeLine_frame line _ (by simp; omega)
  · obtain ⟨rest, e⟩ := getStringLoop_full hs input 0 line (Nat.zero_le _) (by simpa using hk)
    rw [Nat.sub_zero] at e
    generalize hcs : ((keptBeforeLf input).map fun c => UInt8.ofNat c.toNat).take size = cs at e ⊢
    have hl : cs.length = size := by simp [← hcs]; omega
    have hr : (List.range size).map (Autobahn.Heap.copyInto line 0 cs) = cs := by
      simpa [hl] using Autobahn.Heap.map_range_copyInto (c := cs)
        (show (List.range ([] : List UInt8).length).map line = [] from rfl)
    have hnz : ∀ x ∈ cs, x ≠ 0 := fun x hx => by
      rw [← hcs] at hx
      obtain ⟨c, hc, rfl⟩ := List.mem_map.mp (List.mem_of_mem_take hx)
      exact ofNat_kept_ne_zero (keptBeforeLf_mem hc)
    refine ⟨_, rest, e, hr, fun i hi => hnz _ ?_, fun i hi =>
      Autobahn.Heap.copyInto_of_end_le (by omega)⟩
    have := List.mem_map_of_mem (Autobahn.Heap.copyInto line 0 cs) (List.mem_range.mpr hi)
    rwa [hr] at this

def wsPrefixLine : List Int := [119, 115, 58, 47, 10]

theorem ws_prefix_unterminated :
    4 < Autobahn.intLimit ∧ 4 ≤ (keptBeforeLf wsPrefixLine).length ∧
    ∃ line' rest, getString 4 wsPrefixLine (fun _ => 0) = some (line', rest) ∧
      (List.range 4).map line' =
        ((keptBeforeLf wsPrefixLine).map fun c => UInt8.ofNat c.toNat).take 4 ∧
      (∀ i < 4, line' i ≠ 0) ∧ ∀ i, 4 ≤ i → line' i = (fun _ => 0) i :=
  have hk : 4 ≤ (keptBeforeLf wsPrefixLine).length := by decide
  ⟨by decide, hk, (example_get_string_nul_only_at_lf (by decide) wsPrefixLine _).2 hk⟩

end EspProtocols.Example
