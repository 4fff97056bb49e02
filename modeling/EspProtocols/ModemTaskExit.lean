import EspProtocols.ModemFdTerminal

/-! How `FdTerminal::task` ends, and the terminal's `read` and `write`: once `stop()` has cleared
`TASK_START` past the task's wait, it ends within one pass of its loop, over any interleaving. -/

namespace EspProtocols.Modem

def TaskPc.PastWait : TaskPc → Bool
  | .boot | .waitStart => false
  | _ => true

/-- Steps left past the wait with `TASK_START` clear: the rest of the pass, then the loop test. -/
def TaskPc.toExit : TaskPc → Nat
  | .selecting => 6
  | .testParams _ => 5
  | .copy _ => 4
  | .clear _ => 3
  | .dispatch _ => 2
  | .top => 1
  | .boot | .waitStart | .exited => 0

/-- With `TASK_START` clear and no `start()`, a task step lowers the steps left; none raises it. -/
theorem step_toExit {t t' : FdTerminal} {a : FdAction} (h : step t a = some t')
    (ha : a ≠ .start) (hs : t.taskStart = false) (hw : t.task.PastWait = true) :
    t'.taskStart = false ∧ t'.task.PastWait = true ∧
      t'.task.toExit + (if a.ByTask then 1 else 0) ≤ t.task.toExit := by
  cases step_inv h with
  | setReadCbAssign | setReadCbSignal => exact ⟨hs, hw, Nat.le_refl _⟩
  | start => exact absurd rfl ha
  | stop => exact ⟨rfl, hw, Nat.le_refl _⟩
  | taskBoot ht | taskWake ht _ => rw [ht] at hw; cases hw
  | taskLoop ht => rw [ht]; exact ⟨hs, by rw [hs]; rfl, by rw [hs]; exact Nat.le_refl _⟩
  | taskSelect _ ht | taskClear _ ht | taskCopy _ ht | dispatchRead _ ht | dispatchIdle _ _ ht =>
    rw [ht]; exact ⟨hs, rfl, Nat.le_refl _⟩
  | dispatchError _ ht => rw [ht]; exact ⟨hs, rfl, Nat.le_succ _⟩
  | taskTestParams _ ht =>
    rw [ht]
    refine ⟨hs, by split <;> rfl, ?_⟩
    split <;> simp [TaskPc.toExit, FdAction.ByTask]

theorem run_toExit : ∀ {acts : List FdAction} {t u : FdTerminal}, run t acts = some u →
    (∀ a ∈ acts, a ≠ .start) → t.taskStart = false → t.task.PastWait = true →
    u.taskStart = false ∧ u.task.PastWait = true ∧
      acts.countP (·.ByTask) + u.task.toExit ≤ t.task.toExit
  | [], _, _, h, _, hs, hw => by cases h; exact ⟨hs, hw, by simp⟩
  | a :: acts, t, u, h, hn, hs, hw => by
    obtain ⟨t', e, hr⟩ := Option.bind_eq_some.mp h
    obtain ⟨hs', hw', hle⟩ := step_toExit e (hn a (List.mem_cons_self _ _)) hs hw
    obtain ⟨hs'', hw'', hle'⟩ :=
      run_toExit hr (fun b hb => hn b (List.mem_cons_of_mem _ hb)) hs' hw'
    refine ⟨hs'', hw'', ?_⟩
    rw [List.countP_cons]
    omega

theorem toExit_le_six (pc : TaskPc) : pc.toExit ≤ 6 := by
  cases pc <;> simp [TaskPc.toExit]

/-- Past its wait and not ended, the task always has a step, whatever `select` returns. -/
theorem task_has_step {t : FdTerminal} (hw : t.task.PastWait = true) (he : t.task ≠ .exited)
    (sel : SelectResult) (r : Bool) :
    0 < t.task.toExit ∧ ∃ a t', a.ByTask = true ∧ step t a = some t' := by
  cases ht : t.task with
  | boot | waitStart => rw [ht] at hw; cases hw
  | exited => exact absurd ht he
  | top => exact ⟨by simp [TaskPc.toExit], .taskLoop, _, rfl, by simp only [step, ht]; rfl⟩
  | selecting =>
    exact ⟨by simp [TaskPc.toExit], .taskSelect sel, _, rfl, by simp only [step, ht]; rfl⟩
  | testParams s =>
    exact ⟨by simp [TaskPc.toExit], .taskTestParams, _, rfl, by simp only [step, ht]; rfl⟩
  | copy s => exact ⟨by simp [TaskPc.toExit], .taskCopy, _, rfl, by simp only [step, ht]; rfl⟩
  | clear s => exact ⟨by simp [TaskPc.toExit], .taskClear, _, rfl, by simp only [step, ht]; rfl⟩
  | dispatch s =>
    refine ⟨by simp [TaskPc.toExit], .taskDispatch r, ?_⟩
    rcases s with _ | _ | _ | _ <;> exact ⟨_, rfl, by simp only [step, ht]; rfl⟩

/-- After `stop()`, with the task past its wait and no `start()`, the task ends within one pass: at
most six steps of its own over any interleaving, and it has a step until it ends. -/
theorem stopped_task_ends_within_a_pass {t : FdTerminal} (hs : t.taskStart = false)
    (hw : t.task.PastWait = true) {acts : List FdAction} {u : FdTerminal}
    (h : run t acts = some u) (hn : ∀ a ∈ acts, a ≠ .start) :
    acts.countP (·.ByTask) + u.task.toExit ≤ 6 ∧
      (u.task = .exited ∨
        0 < u.task.toExit ∧ ∃ a u', a.ByTask = true ∧ step u a = some u') := by
  obtain ⟨-, hw', hle⟩ := run_toExit h hn hs hw
  refine ⟨Nat.le_trans hle (toExit_le_six _), ?_⟩
  by_cases he : u.task = .exited
  · exact .inl he
  · exact .inr (task_has_step hw' he .timeout false)

def stoppedInSelect : FdTerminal :=
  ⟨none, true, false, false, false, none, .selecting, .idle, 0, 0⟩

theorem stopped_in_select_ends :
    run fdInit [.start, .taskBoot, .taskWake, .taskLoop, .stop] = some stoppedInSelect ∧
      stoppedInSelect.taskStart = false ∧ stoppedInSelect.task.PastWait = true ∧
      (∀ a ∈ [FdAction.taskSelect .timeout, .taskTestParams, .taskDispatch false, .taskLoop],
        a ≠ .start) ∧
      [FdAction.taskSelect .timeout, .taskTestParams, .taskDispatch false, .taskLoop].countP
          (·.ByTask) + TaskPc.exited.toExit ≤ 6 ∧
        (TaskPc.exited = .exited ∨ 0 < TaskPc.exited.toExit ∧
          ∃ a u', a.ByTask = true ∧
            step { stoppedInSelect with task := .exited } a = some u') := by
  have hr : run stoppedInSelect
      [.taskSelect .timeout, .taskTestParams, .taskDispatch false, .taskLoop] =
      some { stoppedInSelect with task := .exited } := by decide
  exact ⟨by decide, rfl, rfl, by decide,
    @stopped_task_ends_within_a_pass stoppedInSelect rfl rfl _ _ hr (by decide)⟩

/-! ### `read` and `write` -/

/-- `FdTerminal::read` and `FdTerminal::write` alike: the count `::read` or `::write` returned, or 0
for an error, whose `errno` is only logged. -/
def ioResult (size : Int) : Int := if size < 0 then 0 else size

def FdTerminal.read (size : Int) : Int := ioResult size

def FdTerminal.write (size : Int) : Int := ioResult size

/-- Neither `read` nor `write` ever reports a negative count. -/
theorem ioResult_nonneg (size : Int) : 0 ≤ ioResult size := by
  unfold ioResult; split <;> omega

end EspProtocols.Modem
