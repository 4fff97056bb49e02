import Mathlib.Data.Nat.Defs
import EspProtocols.AutobahnHandler

/-! The echo's retry loop, lines 311-381 of `autobahn_testee.c`: `start` feeds only the log's `dt`,
so the loop has no deadline and ends only at a taken send or a dropped connection. -/

namespace EspProtocols.Autobahn

/-- The answers of `is_connected` before, and of `send_with_opcode` at, the loop's `k`-th send. -/
structure SendOracle where
  connected : Nat → Bool
  sent : Nat → Int

inductive LoopCall
| send (opcode : UInt8) (payload : Option (List UInt8)) (timeoutMs : Nat)
  /-- `vTaskDelay(ticks)`, or `usleep(ticks * 1000)` on Linux. -/
  | delay (ticks : Nat)
  deriving DecidableEq, Repr

/-- `const TickType_t backoff[] = {1, 1, 1, 2, 4, 8};` -/
def backoff : List Nat := [1, 1, 1, 2, 4, 8]

/-- `send_timeout_ms`, lines 323-331: 500 past 1024 bytes, else `len / 256 + 10`, at most 100. -/
def sendTimeoutMs (len : Nat) : Nat :=
  if 1024 < len then 500 else min (len / 256 + 10) 100

/-- The send of each pass: `(len > 0) ? payload : NULL`, with the timeout scaled by `len`. -/
def sendCall (m : Echo) : LoopCall :=
  .send m.sendOpcode (if 0 < m.payload.length then some m.payload else none)
    (sendTimeoutMs m.payload.length)

def retryDelay (attempt : Nat) : Nat × Nat :=
  if h : attempt < backoff.length then (backoff[attempt], attempt + 1) else (32, attempt)

/-- `while (sent < 0 && is_connected)` from pass `k`, for at most `fuel` tests of the condition. -/
def echoRetry (o : SendOracle) (m : Echo) :
    (fuel : Nat) → (sent : Int) → (attempt k : Nat) → Option (Int × List LoopCall)
  | 0, _, _, _ => none
  | fuel + 1, sent, attempt, k =>
    if sent < 0 ∧ o.connected k = true then
      if 0 ≤ o.sent k then some (o.sent k, [sendCall m])
      else
        (echoRetry o m fuel (o.sent k) (retryDelay attempt).2 (k + 1)).map fun r =>
          (r.1, sendCall m :: .delay (retryDelay attempt).1 :: r.2)
    else some (sent, [])

/-- The loop as the handler enters it: `int sent = -1; int attempt = 0;`. -/
def echoSend (o : SendOracle) (m : Echo) (fuel : Nat) : Option (Int × List LoopCall) :=
  echoRetry o m fuel (-1) 0 0

/-- Every send waits at least 10 and at most 500 ms. -/
theorem sendTimeoutMs_mem (len : Nat) : 10 ≤ sendTimeoutMs len ∧ sendTimeoutMs len ≤ 500 := by
  unfold sendTimeoutMs
  split <;> omega

theorem retryDelay_min (a : Nat) : retryDelay (min a 6) = (backoff.getD a 32, min (a + 1) 6) := by
  by_cases ha : a < 6
  · rw [Nat.min_eq_left (Nat.le_of_lt ha), Nat.min_eq_left ha]
    revert a
    decide
  · rw [Nat.min_eq_right (Nat.le_of_not_lt ha), Nat.min_eq_right (by omega),
      List.getD_eq_getElem?_getD, List.getElem?_eq_none (by simp [backoff]; omega)]
    rfl

/-- The calls of `n` failed passes from `attempt = a`, each send followed by its delay. -/
def failedCalls (m : Echo) (a n : Nat) : List LoopCall :=
  (List.range n).flatMap fun i => [sendCall m, .delay (backoff.getD (a + i) 32)]

theorem failedCalls_succ (m : Echo) (a n : Nat) :
    failedCalls m a (n + 1) =
      sendCall m :: .delay (backoff.getD a 32) :: failedCalls m (a + 1) n := by
  simp only [failedCalls, List.range_succ_eq_map, List.flatMap_cons, List.flatMap_map]
  simp [Nat.add_comm, Nat.add_left_comm, Function.comp_def]

theorem echoRetry_down (o : SendOracle) (m : Echo) {k : Nat} (hc : o.connected k = false)
    (fuel : Nat) (sent : Int) (a : Nat) : echoRetry o m (fuel + 1) sent a k = some (sent, []) := by
  simp [echoRetry, hc]

theorem echoRetry_success (o : SendOracle) (m : Echo) {k : Nat} (hc : o.connected k = true)
    (hs : 0 ≤ o.sent k) (fuel : Nat) {sent : Int} (h : sent < 0) (a : Nat) :
    echoRetry o m (fuel + 1) sent a k = some (o.sent k, [sendCall m]) := by
  simp [echoRetry, hc, hs, h]

theorem echoRetry_fail (o : SendOracle) (m : Echo) {k : Nat} (hc : o.connected k = true)
    (hs : o.sent k < 0) (fuel : Nat) {sent : Int} (h : sent < 0) (a : Nat) :
    echoRetry o m (fuel + 1) sent a k =
      (echoRetry o m fuel (o.sent k) (retryDelay a).2 (k + 1)).map fun r =>
        (r.1, sendCall m :: .delay (retryDelay a).1 :: r.2) := by
  simp [echoRetry, hc, Int.not_le.mpr hs, h]

/-- `n` failed passes with the connection up make the calls `failedCalls` and go on. -/
theorem echoRetry_failing (o : SendOracle) (m : Echo) (fuel : Nat) :
    ∀ {n k : Nat}, (∀ i < n, o.connected (k + i) = true ∧ o.sent (k + i) < 0) →
      ∀ (a : Nat) {sent : Int}, sent < 0 → ∃ sent' < 0,
        echoRetry o m (n + fuel) sent (min a 6) k =
          (echoRetry o m fuel sent' (min (a + n) 6) (k + n)).map fun r =>
            (r.1, failedCalls m a n ++ r.2)
  | 0, k, _, a, sent, hs => ⟨sent, hs, by simp [failedCalls]⟩
  | n + 1, k, h, a, sent, hs => by
    obtain ⟨hc, hf⟩ := h 0 (Nat.zero_lt_succ n)
    rw [Nat.add_zero] at hc hf
    obtain ⟨sent', hs', e⟩ := echoRetry_failing o m fuel (n := n) (k := k + 1)
      (fun i hi => by simpa only [Nat.add_assoc, Nat.add_comm 1] using h (i + 1) (by omega))
      (a + 1) hf
    refine ⟨sent', hs', ?_⟩
    rw [Nat.add_right_comm, echoRetry_fail o m hc hf _ hs, retryDelay_min, e, Option.map_map,
      failedCalls_succ, Nat.add_right_comm a, Nat.add_assoc a, Nat.add_assoc k, Nat.add_comm 1 n]
    rfl

/-- A bound on the loop: for every echo, passes within which it ends, whatever the calls answer. -/
def RetryBounded : Prop :=
  ∀ m : Echo, ∃ B, ∀ o : SendOracle, (echoSend o m B).isSome

/-- Every send times out while the connection stays up. -/
def stalledLink : SendOracle := ⟨fun _ => true, fun _ => -1⟩

/-- Against a link that stays up and takes no send, no bound on the attempts holds. -/
theorem echo_retry_unbounded : ¬RetryBounded := by
  intro hb
  obtain ⟨B, hB⟩ := hb ⟨1, [104, 105]⟩
  obtain ⟨_, -, e⟩ := echoRetry_failing stalledLink ⟨1, [104, 105]⟩ 0 (n := B) (k := 0)
    (fun _ _ => ⟨rfl, show (-1 : Int) < 0 by decide⟩) 0 (by decide : (-1 : Int) < 0)
  have h := hB stalledLink
  rw [Nat.add_zero, Nat.zero_min] at e
  rw [echoSend, e] at h
  simp [echoRetry] at h

/-- The loop whose first exit is at pass `k`: its calls and result, given more than `k` passes. -/
theorem echoSend_exit (o : SendOracle) (m : Echo) {k : Nat}
    (hk : ∀ i < k, o.connected i = true ∧ o.sent i < 0)
    (hx : ¬(o.connected k = true ∧ o.sent k < 0)) (fuel : Nat) :
    ∃ sent, echoSend o m (k + (fuel + 1)) =
        some (sent, failedCalls m 0 k ++ if o.connected k then [sendCall m] else []) ∧
      (if o.connected k then sent = o.sent k else sent < 0) := by
  have hk' : ∀ i < k, o.connected (0 + i) = true ∧ o.sent (0 + i) < 0 := by
    simpa only [Nat.zero_add] using hk
  obtain ⟨sent', hs', e⟩ := echoRetry_failing o m (fuel + 1) hk' 0 (by decide : (-1 : Int) < 0)
  rw [Nat.zero_min, Nat.zero_add] at e
  rw [echoSend, e]
  cases hc : o.connected k
  · exact ⟨sent', by rw [echoRetry_down o m hc]; rfl, hs'⟩
  · have hs : 0 ≤ o.sent k := Int.not_lt.mp fun h => hx ⟨hc, h⟩
    exact ⟨o.sent k, by rw [echoRetry_success o m hc hs _ hs']; rfl, rfl⟩

/-- The loop ends exactly at its first pass that finds the connection down or has a send taken. -/
theorem echo_retry_exits_at_first_success_or_drop (o : SendOracle) (m : Echo) {k : Nat}
    (hk : ∀ i < k, o.connected i = true ∧ o.sent i < 0) :
    echoSend o m k = none ∧
    (¬(o.connected k = true ∧ o.sent k < 0) → ∀ fuel, ∃ sent,
      echoSend o m (k + (fuel + 1)) =
        some (sent, failedCalls m 0 k ++ if o.connected k then [sendCall m] else []) ∧
      (if o.connected k then sent = o.sent k else sent < 0)) := by
  refine ⟨?_, echoSend_exit o m hk⟩
  obtain ⟨_, -, e⟩ := echoRetry_failing o m 0 (n := k) (k := 0)
    (by simpa only [Nat.zero_add] using hk) 0 (by decide : (-1 : Int) < 0)
  rw [Nat.add_zero, Nat.zero_min] at e
  rw [echoSend, e]
  rfl

/-- Two sends time out, the third is taken. -/
def thirdTimeLink : SendOracle := ⟨fun _ => true, fun k => if k < 2 then -1 else 3⟩

theorem echo_retry_third_send :
    (∀ i < 2, thirdTimeLink.connected i = true ∧ thirdTimeLink.sent i < 0) ∧
    (echoSend thirdTimeLink ⟨2, [1, 2, 3]⟩ 2 = none ∧
      (¬(thirdTimeLink.connected 2 = true ∧ thirdTimeLink.sent 2 < 0) → ∀ fuel, ∃ sent,
        echoSend thirdTimeLink ⟨2, [1, 2, 3]⟩ (2 + (fuel + 1)) =
          some (sent, failedCalls ⟨2, [1, 2, 3]⟩ 0 2 ++
            if thirdTimeLink.connected 2 then [sendCall ⟨2, [1, 2, 3]⟩] else []) ∧
        (if thirdTimeLink.connected 2 then sent = thirdTimeLink.sent 2 else sent < 0))) :=
  have hk : ∀ i < 2, thirdTimeLink.connected i = true ∧ thirdTimeLink.sent i < 0 := by decide
  ⟨hk, echo_retry_exits_at_first_success_or_drop thirdTimeLink ⟨2, [1, 2, 3]⟩ hk⟩

theorem echoRetry_isSome (o : SendOracle) (m : Echo) :
    ∀ (fuel : Nat) (sent : Int) (a k : Nat),
      (∃ j, k ≤ j ∧ j < k + fuel ∧ ¬(o.connected j = true ∧ o.sent j < 0)) →
      (echoRetry o m fuel sent a k).isSome
  | 0, _, _, _, ⟨_, h₁, h₂, _⟩ => absurd h₂ (by omega)
  | fuel + 1, sent, a, k, ⟨j, h₁, h₂, hj⟩ => by
    rw [echoRetry]
    by_cases hc : sent < 0 ∧ o.connected k = true
    · rw [if_pos hc]
      by_cases hs : 0 ≤ o.sent k
      · rw [if_pos hs]; rfl
      · rw [if_neg hs, Option.isSome_map']
        have hjk : j ≠ k := by rintro rfl; exact hj ⟨hc.2, Int.not_le.mp hs⟩
        exact echoRetry_isSome o m fuel _ _ (k + 1) ⟨j, by omega, by omega, hj⟩
    · rw [if_neg hc]; rfl

/-! ### The handler with its echo loops -/

/-- The calls one handler call's echo loop makes with `link`'s answers and at most `fuel` passes. -/
def echoCalls (link : SendOracle) (fuel : Nat) (x : Option DataExit) : Option (List LoopCall) :=
  match x.bind DataExit.echoed with
  | some m => (echoSend link m fuel).map (·.2)
  | none => some []

/-- The handler over a stream of events, each call running its echo loop before it returns. -/
def runCalls (fuel : Nat) (s : Testee) :
    List (Input × SendOracle) → Option (Testee × List (List LoopCall))
  | [] => some (s, [])
  | ((e, o), link) :: cs =>
    (websocketEventHandler s o e).bind fun r =>
      (echoCalls link fuel r.2).bind fun calls =>
        (runCalls fuel r.1 cs).map fun t => (t.1, calls :: t.2)

/-- The link answers, within `fuel` passes, with a dropped connection or a taken send. -/
def EndsWithin (fuel : Nat) (link : SendOracle) : Prop :=
  ∃ k < fuel, ¬(link.connected k = true ∧ link.sent k < 0)

theorem echoCalls_isSome {link : SendOracle} {fuel : Nat} (h : EndsWithin fuel link)
    (x : Option DataExit) : (echoCalls link fuel x).isSome := by
  unfold echoCalls
  split
  · obtain ⟨k, hk, hx⟩ := h
    rw [Option.isSome_map']
    exact echoRetry_isSome link _ fuel _ 0 0 ⟨k, Nat.zero_le _, by omega, hx⟩
  · rfl

end EspProtocols.Autobahn
