import EspProtocols.AutobahnReassembly

/-! Rejected chunks copy and echo nothing, and all but one reset the accumulator: the first
`ws_accumulator_prepare` call breaks out without the reset, so an accumulation survives it. -/

namespace EspProtocols.Autobahn

/-- A failed start allocates nothing; the first branch keeps `s_accumulator`, the restart resets. -/
theorem startChunk_failed {s : Testee} {p : Nat} (hb : s.sAccumBuffer = some p) (d : EventData)
    (op : UInt8) (r : Option Bytes) (h : (startChunk s d op r).2.1 ≠ .ok) :
    (startChunk s d op r).2.2.heap = s.heap ∧
      ((startChunk s d op r).1 = .prepare →
        (startChunk s d op r).2.2.sAccumulator = s.sAccumulator) ∧
      ((startChunk s d op r).1 ≠ .prepare →
        (startChunk s d op r).2.2.sAccumulator.active = false) := by
  refine ⟨(startChunk_keeps_buffer hb d op r).1, ?_⟩
  unfold startChunk at h ⊢
  by_cases c₁ : d.payloadOffset = 0 ∨ s.sAccumulator.active = false
  · rw [if_pos c₁] at h ⊢
    exact ⟨fun _ => prepare_failed_keeps s _ op r h, fun hn => absurd rfl hn⟩
  · rw [if_neg c₁] at h ⊢
    by_cases c₂ : d.totalLen ≠ s.sAccumulator.expectedLen
    · rw [if_pos c₂] at h ⊢
      refine ⟨nofun, fun _ => ?_⟩
      rw [prepare_failed_keeps _ _ op r h]
      rfl
    · rw [if_neg c₂] at h
      exact absurd rfl h

/-- A rejected chunk copies no byte and echoes nothing; the accumulator is reset, except when the
first `ws_accumulator_prepare` call refuses it, which leaves `s_accumulator` as it was. -/
theorem onData_rejected {s : Testee} (hi : AccInv s) {o : Observation} {d : EventData}
    {s' : Testee} {x : DataExit} (h : onData s o d = some (s', x))
    (hx : x = .overflow ∨ x = .exceedsExpected ∨
      ∃ path, x = .prepareFailed path .errInvalidSize) :
    s'.heap = (allocAccumBuffer s o.mallocResult).heap ∧
      (x = .prepareFailed .prepare .errInvalidSize → s'.sAccumulator = s.sAccumulator) ∧
      (x ≠ .prepareFailed .prepare .errInvalidSize → s'.sAccumulator.active = false) := by
  cases onData_branch h with
  | notConnected | controlFrame | unsupportedOpcode | nullData | allocFailed => simp at hx
  | @copied op p c t' x _ _ hfr hp hc hok h =>
    subst hc
    have hs := (hi.alloc o.mallocResult).startChunk d op o.mallocResult hfr.2
    obtain ⟨hh, hsb⟩ := startChunk_keeps_buffer hp d op o.mallocResult
    obtain ⟨hbuf, -⟩ := hs.1.active_buffer (hs.2 hok)
    obtain ⟨b, hb⟩ := Option.isSome_iff_exists.mp (hs.1.buffer_live p hsb)
    have hcap := hs.1.active_capacity (hs.2 hok)
    rcases copyChunk_cases (hs.2 hok) (hbuf.trans hsb) hb hcap (hcap ▸ hs.1.expected_le) h with
      ⟨hx', rfl⟩ | ⟨rfl, -, -⟩ | ⟨-, h⟩
    · rcases hx' with rfl | rfl | rfl <;> exact ⟨hh, nofun, fun _ => rfl⟩
    · simp at hx
    · rcases handOff_cases _ o ⟨_, _⟩ (some _) with e | e <;> rw [e] at h <;> cases h <;>
        simp at hx
  | @prepareFailed op p c _ _ _ hp hc hfail =>
    subst hc
    obtain ⟨hh', hprep, hrest⟩ := startChunk_failed hp d op o.mallocResult hfail
    have hinv : (startChunk (allocAccumBuffer s o.mallocResult) d op
        o.mallocResult).2.1 = .errInvalidSize := by
      rcases hx with hx | hx | ⟨path, hx⟩ <;> simp at hx
      exact hx.2
    refine ⟨hh', fun e => ?_, fun e => hrest fun hpa => e ?_⟩
    · simp only [DataExit.prepareFailed.injEq] at e
      rw [hprep e.1, alloc_sAccumulator]
    · rw [hpa, hinv]
  | whole _ _ _ e =>
    rcases handOff_cases s o _ none with e' | e' <;> rw [e'] at e <;> cases e <;> simp at hx

def firstHalf : EventData :=
  ⟨some [1, 2, 3, 4, 5], 5, false, 2, 10, 0, by simp, by decide, by decide, by decide⟩

def oversizedChunk : EventData :=
  ⟨some [0], 1, false, 2, 70000, 0, by simp, by decide, by decide, by decide⟩

/-- The oversized chunk, after `app_main`, is refused and leaves the statics as they were. -/
theorem oversized_chunk_rejected :
    AccInv { appMainAlloc (some fun _ => 0) with testRunning := true } ∧
    onData { appMainAlloc (some fun _ => 0) with testRunning := true } upObs oversizedChunk =
      some ({ appMainAlloc (some fun _ => 0) with testRunning := true },
        .prepareFailed .prepare .errInvalidSize) ∧
    (DataExit.prepareFailed .prepare .errInvalidSize = .overflow ∨
      DataExit.prepareFailed .prepare .errInvalidSize = .exceedsExpected ∨
      ∃ path, DataExit.prepareFailed .prepare .errInvalidSize =
        .prepareFailed path .errInvalidSize) ∧
    ({ appMainAlloc (some fun _ => 0) with testRunning := true } : Testee).heap =
        (allocAccumBuffer { appMainAlloc (some fun _ => 0) with testRunning := true }
          upObs.mallocResult).heap ∧
      (DataExit.prepareFailed .prepare .errInvalidSize = .prepareFailed .prepare .errInvalidSize →
        ({ appMainAlloc (some fun _ => 0) with testRunning := true } : Testee).sAccumulator =
          ({ appMainAlloc (some fun _ => 0) with testRunning := true } : Testee).sAccumulator) ∧
      (DataExit.prepareFailed .prepare .errInvalidSize ≠
          .prepareFailed .prepare .errInvalidSize →
        ({ appMainAlloc (some fun _ => 0) with testRunning := true } : Testee).sAccumulator.active =
          false) :=
  have hi := (AccInv.appMain (some fun _ => 0)).setRunning true
  have h : onData { appMainAlloc (some fun _ => 0) with testRunning := true } upObs oversizedChunk =
      some ({ appMainAlloc (some fun _ => 0) with testRunning := true },
        .prepareFailed .prepare .errInvalidSize) := rfl
  have hx : DataExit.prepareFailed .prepare .errInvalidSize = .overflow ∨
      DataExit.prepareFailed .prepare .errInvalidSize = .exceedsExpected ∨
      ∃ path, DataExit.prepareFailed .prepare .errInvalidSize =
        .prepareFailed path .errInvalidSize :=
    .inr (.inr ⟨_, rfl⟩)
  ⟨hi, h, hx, onData_rejected hi h hx⟩

def secondHalf : EventData :=
  ⟨some [6, 7, 8, 9, 10], 5, true, 2, 10, 5, by simp, by decide, by decide, by decide⟩

/-- The oversized chunk leaves the accumulation active, and the next chunk of the earlier message
completes it. -/
theorem oversized_chunk_keeps_accumulation :
    (runHandler (appMainAlloc (some fun _ => 0))
        [(.connected, upObs), (.data firstHalf, upObs), (.data oversizedChunk, upObs)]).map
      (·.1.sAccumulator.active) = some true ∧
    (runHandler (appMainAlloc (some fun _ => 0))
        [(.connected, upObs), (.data firstHalf, upObs), (.data oversizedChunk, upObs),
          (.data secondHalf, upObs)]).map (·.2) =
      some [none, some (.waiting .prepare), some (.prepareFailed .prepare .errInvalidSize),
        some (.echo ⟨2, [1, 2, 3, 4, 5, 6, 7, 8, 9, 10]⟩ (some .append))] := by
  decide

end EspProtocols.Autobahn
