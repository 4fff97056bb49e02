import Mathlib.Logic.Function.Basic

/-! `FdTerminal` of `esp_modem_term_fs.cpp` as the caller and the task over shared state, one step a
statement: a `set_read_cb` between the copy at line 120 and the clear at line 121 is lost. -/

namespace EspProtocols.Modem

/-- A read callback, `std::function<bool(uint8_t *, size_t)>`, by identity; `none` is `nullptr`. -/
def Callback := Option Nat
  deriving DecidableEq, Repr

/-- What `select` returns at line 118: an error, a timeout, or a count with `FD_ISSET`. -/
inductive SelectResult
  | error
  | timeout
  | ready (isSet : Bool)
  deriving DecidableEq, Repr

inductive TaskPc
| boot
  /-- Line 99, blocked in `signal.wait_any(TASK_START | TASK_STOP, portMAX_DELAY)`. -/
  | waitStart
  /-- Line 108, the loop test `signal.is_any(TASK_START)`. -/
  | top
  /-- Line 118, in `select`. -/
  | selecting
  /-- Line 119, the test `signal.is_any(TASK_PARAMS)`. -/
  | testParams (s : SelectResult)
  /-- Line 120, `on_data_priv = on_data`. -/
  | copy (s : SelectResult)
  /-- Line 121, `signal.clear(TASK_PARAMS)`. -/
  | clear (s : SelectResult)
  /-- Lines 124-137, acting on `select`'s result. -/
  | dispatch (s : SelectResult)
  | exited
  deriving DecidableEq, Repr

inductive CallerPc
  | idle
  | assigned
  deriving DecidableEq, Repr

/-- The shared state, `on_data_priv`, both parties' places, and the ghost counters `assigns` and
`copiedAt` (`assigns` at the task's last copy). -/
structure FdTerminal where
  onData : Callback
  taskInit : Bool
  taskStart : Bool
  taskStop : Bool
  taskParams : Bool
  onDataPriv : Callback
  task : TaskPc
  caller : CallerPc
  assigns : Nat
  copiedAt : Nat
  deriving DecidableEq, Repr

/-- One atomic step of either party. -/
inductive FdAction
| setReadCbAssign (f : Callback)
| setReadCbSignal
  | start
  | stop
  | taskBoot
  | taskWake
  | taskLoop
  | taskSelect (s : SelectResult)
  | taskTestParams
  | taskCopy
  | taskClear
  /-- Lines 124-137; `r` is what `on_data_priv(nullptr, 0)` returns if it is called. -/
  | taskDispatch (r : Bool)
  deriving DecidableEq, Repr

def FdAction.SetsReadCb : FdAction → Bool
  | .setReadCbAssign _ | .setReadCbSignal => true
  | _ => false

def FdAction.ByTask : FdAction → Bool
  | .setReadCbAssign _ | .setReadCbSignal | .start | .stop => false
  | _ => true

/-- Just after the constructor: no signal bit set, no callback, the task about to run. -/
def fdInit : FdTerminal := ⟨none, false, false, false, false, none, .boot, .idle, 0, 0⟩

/-- One step, `none` when the party is not at that statement (or, for `wait_any`, blocked). -/
def step (t : FdTerminal) : FdAction → Option FdTerminal
  | .setReadCbAssign f =>
    if t.caller = .idle then
      some { t with onData := f, caller := .assigned, assigns := t.assigns + 1 }
    else none
  | .setReadCbSignal =>
    if t.caller = .assigned then some { t with taskParams := true, caller := .idle } else none
  | .start => if t.caller = .idle then some { t with taskStart := true } else none
  | .stop => if t.caller = .idle then some { t with taskStart := false } else none
  | .taskBoot => match t.task with
    | .boot => some { t with taskInit := true, task := .waitStart }
    | _ => none
  | .taskWake => match t.task with
    | .waitStart =>
      if t.taskStart || t.taskStop then some { t with task := if t.taskStop then .exited else .top }
      else none
    | _ => none
  | .taskLoop => match t.task with
    | .top => some { t with task := if t.taskStart then .selecting else .exited }
    | _ => none
  | .taskSelect s => match t.task with
    | .selecting => some { t with task := .testParams s }
    | _ => none
  | .taskTestParams => match t.task with
    | .testParams s => some { t with task := if t.taskParams then .copy s else .dispatch s }
    | _ => none
  | .taskCopy => match t.task with
    | .copy s => some { t with onDataPriv := t.onData, copiedAt := t.assigns, task := .clear s }
    | _ => none
  | .taskClear => match t.task with
    | .clear s => some { t with taskParams := false, task := .dispatch s }
    | _ => none
  | .taskDispatch r => match t.task with
    | .dispatch .error => some { t with task := .exited }
    | .dispatch (.ready true) =>
      some { t with onDataPriv := if t.onDataPriv.isSome && r then none else t.onDataPriv,
                    task := .top }
    | .dispatch _ => some { t with task := .top }
    | _ => none

/-- The transitions of `step`, one per statement, each with the place it needs. -/
inductive FdStep (t : FdTerminal) : FdAction → FdTerminal → Prop
  | setReadCbAssign (f : Callback) : t.caller = .idle → FdStep t (.setReadCbAssign f)
      { t with onData := f, caller := .assigned, assigns := t.assigns + 1 }
  | setReadCbSignal : t.caller = .assigned →
      FdStep t .setReadCbSignal { t with taskParams := true, caller := .idle }
  | start : t.caller = .idle → FdStep t .start { t with taskStart := true }
  | stop : t.caller = .idle → FdStep t .stop { t with taskStart := false }
  | taskBoot : t.task = .boot → FdStep t .taskBoot { t with taskInit := true, task := .waitStart }
  | taskWake : t.task = .waitStart → (t.taskStart || t.taskStop) = true →
      FdStep t .taskWake { t with task := if t.taskStop then .exited else .top }
  | taskLoop : t.task = .top →
      FdStep t .taskLoop { t with task := if t.taskStart then .selecting else .exited }
  | taskSelect (s : SelectResult) : t.task = .selecting →
      FdStep t (.taskSelect s) { t with task := .testParams s }
  | taskTestParams (s : SelectResult) : t.task = .testParams s →
      FdStep t .taskTestParams { t with task := if t.taskParams then .copy s else .dispatch s }
  | taskCopy (s : SelectResult) : t.task = .copy s →
      FdStep t .taskCopy { t with onDataPriv := t.onData, copiedAt := t.assigns, task := .clear s }
  | taskClear (s : SelectResult) : t.task = .clear s →
      FdStep t .taskClear { t with taskParams := false, task := .dispatch s }
  | dispatchError (r : Bool) : t.task = .dispatch .error →
      FdStep t (.taskDispatch r) { t with task := .exited }
  | dispatchRead (r : Bool) : t.task = .dispatch (.ready true) →
      FdStep t (.taskDispatch r)
        { t with onDataPriv := if t.onDataPriv.isSome && r then none else t.onDataPriv,
                 task := .top }
  | dispatchIdle (s : SelectResult) (r : Bool) : t.task = .dispatch s → s ≠ .error →
      s ≠ .ready true → FdStep t (.taskDispatch r) { t with task := .top }

theorem step_inv {t t' : FdTerminal} {a : FdAction} (h : step t a = some t') : FdStep t a t' := by
  cases a with
  | taskWake =>
    simp only [step] at h
    split at h
    · split at h
      · cases h; exact .taskWake ‹_› ‹_›
      · cases h
    · cases h
  | taskDispatch r =>
    simp only [step] at h
    split at h <;> cases h
    · exact .dispatchError r ‹_›
    · exact .dispatchRead r ‹_›
    · exact .dispatchIdle _ r ‹_› ‹_› ‹_›
  | _ =>
    simp only [step] at h
    split at h <;> cases h
    first
      | exact .setReadCbAssign _ ‹_› | exact .setReadCbSignal ‹_› | exact .start ‹_›
      | exact .stop ‹_› | exact .taskBoot ‹_› | exact .taskLoop ‹_›
      | exact .taskSelect _ ‹_›
      | exact .taskTestParams _ ‹_› | exact .taskCopy _ ‹_› | exact .taskClear _ ‹_›

def run : FdTerminal → List FdAction → Option FdTerminal
  | t, [] => some t
  | t, a :: as => (step t a).bind fun t' => run t' as

/-- A lost update: the task at the top of its loop with `TASK_PARAMS` clear, no `set_read_cb` under
way, and its copy older than the last assignment. -/
def LostUpdate (t : FdTerminal) : Prop :=
  t.task = .top ∧ t.taskParams = false ∧ t.caller = .idle ∧ t.copiedAt < t.assigns

instance (t : FdTerminal) : Decidable (LostUpdate t) := inferInstanceAs (Decidable (_ ∧ _))

/-! ### Task steps alone -/

/-- Nothing pending for the task: `TASK_PARAMS` clear, the task not between its test and clear. -/
def Quiet (t : FdTerminal) : Prop :=
  t.taskParams = false ∧ ∀ s, t.task ≠ .copy s ∧ t.task ≠ .clear s

/-- A task step from a quiet state stays quiet and can only null `on_data_priv`. -/
theorem step_task_quiet {t t' : FdTerminal} {a : FdAction} (ha : a.ByTask = true)
    (h : step t a = some t') (hq : Quiet t) :
    Quiet t' ∧ t'.onData = t.onData ∧ t'.assigns = t.assigns ∧ t'.copiedAt = t.copiedAt ∧
      t'.caller = t.caller ∧ (t'.onDataPriv = t.onDataPriv ∨ t'.onDataPriv = none) := by
  obtain ⟨hp, hw⟩ := hq
  cases step_inv h with
  | setReadCbAssign | setReadCbSignal | start | stop => cases ha
  | taskCopy s hs => exact absurd hs (hw s).1
  | taskClear s hs => exact absurd hs (hw s).2
  | taskTestParams s => exact ⟨⟨hp, by simp [hp]⟩, rfl, rfl, rfl, rfl, .inl rfl⟩
  | dispatchRead => exact ⟨⟨hp, by simp⟩, rfl, rfl, rfl, rfl, by split <;> simp⟩
  | taskWake | taskLoop =>
    exact ⟨⟨hp, fun _ => by split <;> simp⟩, rfl, rfl, rfl, rfl, .inl rfl⟩
  | taskBoot | taskSelect | dispatchError | dispatchIdle =>
    exact ⟨⟨hp, by simp⟩, rfl, rfl, rfl, rfl, .inl rfl⟩

theorem run_task_quiet : ∀ {acts : List FdAction} {t u : FdTerminal},
    (∀ a ∈ acts, a.ByTask = true) → run t acts = some u → Quiet t →
    Quiet u ∧ u.onData = t.onData ∧ u.assigns = t.assigns ∧ u.copiedAt = t.copiedAt ∧
      u.caller = t.caller ∧ (u.onDataPriv = t.onDataPriv ∨ u.onDataPriv = none)
  | [], _, _, _, h, hq => by cases h; exact ⟨hq, rfl, rfl, rfl, rfl, .inl rfl⟩
  | a :: acts, t, u, ha, h, hq => by
    obtain ⟨t', e, hr⟩ := Option.bind_eq_some.mp h
    obtain ⟨hq', h1, h2, h3, h4, h5⟩ := step_task_quiet (ha a (List.mem_cons_self _ _)) e hq
    obtain ⟨hq'', g1, g2, g3, g4, g5⟩ :=
      run_task_quiet (fun b hb => ha b (List.mem_cons_of_mem _ hb)) hr hq'
    refine ⟨hq'', g1.trans h1, g2.trans h2, g3.trans h3, g4.trans h4, ?_⟩
    rcases g5 with g5 | g5
    · exact g5 ▸ h5
    · exact .inr g5

/-! ### The lost update -/

/-- `set_read_cb(f1)`; the task copies `f1`; `set_read_cb(f2)` runs whole before the clear. -/
def lostUpdateTrace : List FdAction :=
  [.start, .taskBoot, .taskWake, .setReadCbAssign (some 1), .setReadCbSignal, .taskLoop,
    .taskSelect .timeout, .taskTestParams, .taskCopy, .setReadCbAssign (some 2), .setReadCbSignal,
    .taskClear, .taskDispatch false]

def lostUpdateState : FdTerminal :=
  ⟨some 2, true, true, false, false, some 1, .top, .idle, 2, 1⟩

/-- At the failing interleaving `f2` is lost: no run of the task alone ever installs it. -/
theorem set_read_cb_in_copy_window_lost :
    ∃ t, run fdInit lostUpdateTrace = some t ∧ LostUpdate t ∧ t.onData = some 2 ∧
      t.onDataPriv = some 1 ∧
      ∀ acts u, (∀ a ∈ acts, a.ByTask = true) → run t acts = some u →
        u.copiedAt < u.assigns ∧ u.onDataPriv ≠ u.onData := by
  refine ⟨lostUpdateState, by decide, by decide, rfl, rfl, fun acts u ha h => ?_⟩
  obtain ⟨-, h1, h2, h3, -, h5⟩ := run_task_quiet ha h ⟨rfl, fun _ => ⟨nofun, nofun⟩⟩
  refine ⟨by rw [h2, h3]; decide, ?_⟩
  rw [h1]
  rcases h5 with h5 | h5 <;> rw [h5] <;> decide

/-! ### Interleavings that keep out of the window -/

/-- The states reachable with no half of `set_read_cb` run while the task is in the copy window. -/
inductive CleanReach : FdTerminal → Prop
  | init : CleanReach fdInit
  | next {t t' : FdTerminal} {a : FdAction} : CleanReach t → step t a = some t' →
      (a.SetsReadCb = true → ∀ s, t.task ≠ .clear s) → CleanReach t'

/-- What those interleavings keep: with no `set_read_cb` under way and `TASK_PARAMS` clear, the task
holds the latest callback. -/
structure FdInv (t : FdTerminal) : Prop where
  params_set : ∀ s, t.task = .copy s ∨ t.task = .clear s → t.taskParams = true
  clear_fresh : ∀ s, t.task = .clear s → t.copiedAt = t.assigns
  idle_fresh : t.caller = .idle → t.taskParams = false → t.copiedAt = t.assigns

theorem FdInv.init : FdInv fdInit :=
  ⟨fun _ h => (by rcases h with h | h <;> cases h), fun _ h => (by cases h), fun _ _ => rfl⟩

theorem FdInv.frame {t t' : FdTerminal} (hi : FdInv t) (hp : t'.taskParams = t.taskParams)
    (hc : t'.caller = t.caller) (ha : t'.assigns = t.assigns) (hk : t'.copiedAt = t.copiedAt)
    (hw : ∀ s, t'.task ≠ .copy s ∧ t'.task ≠ .clear s) : FdInv t' :=
  ⟨fun s h => absurd h (by simp [hw s]), fun s h => absurd h (hw s).2,
    fun h₁ h₂ => by rw [hk, ha]; exact hi.idle_fresh (hc ▸ h₁) (hp ▸ h₂)⟩

theorem FdInv.next {t t' : FdTerminal} {a : FdAction} (hi : FdInv t) (h : step t a = some t')
    (hc : a.SetsReadCb = true → ∀ s, t.task ≠ .clear s) : FdInv t' := by
  cases step_inv h with
  | setReadCbAssign => exact ⟨hi.params_set, fun s hs => absurd hs (hc rfl s), nofun⟩
  | setReadCbSignal => exact ⟨fun _ _ => rfl, fun s hs => absurd hs (hc rfl s), fun _ => nofun⟩
  | start | stop => exact ⟨hi.params_set, hi.clear_fresh, hi.idle_fresh⟩
  | taskTestParams s =>
    cases hp : t.taskParams
    · exact hi.frame hp.symm rfl rfl rfl (by simp)
    · exact ⟨fun _ _ => rfl, fun _ => by simp, fun _ => by simp⟩
  | taskCopy s hs =>
    exact ⟨fun _ _ => hi.params_set s (.inl hs), fun _ _ => rfl, fun _ _ => rfl⟩
  | taskClear s hs =>
    exact ⟨fun _ h => by simp at h, fun _ h => by simp at h, fun _ _ => hi.clear_fresh s hs⟩
  | taskWake | taskLoop => exact hi.frame rfl rfl rfl rfl fun _ => by split <;> simp
  | taskBoot | taskSelect | dispatchError | dispatchRead | dispatchIdle =>
    exact hi.frame rfl rfl rfl rfl (by simp)

theorem CleanReach.fdInv {t : FdTerminal} (h : CleanReach t) : FdInv t := by
  induction h with
  | init => exact FdInv.init
  | next _ hs hc ih => exact ih.next hs hc

/-- Out of the copy window, no update is lost. -/
theorem clean_interleaving_copy_is_latest {t : FdTerminal} (h : CleanReach t)
    (hc : t.caller = .idle) (hp : t.taskParams = false) : t.copiedAt = t.assigns :=
  h.fdInv.idle_fresh hc hp

def TaskPc.AtClear : TaskPc → Bool
  | .clear _ => true
  | _ => false

/-- The steps one after another, `none` where one is not enabled or runs in the copy window. -/
def cleanRun : FdTerminal → List FdAction → Option FdTerminal
  | t, [] => some t
  | t, a :: as =>
    if a.SetsReadCb && t.task.AtClear then none else (step t a).bind fun t' => cleanRun t' as

theorem CleanReach.cleanRun : ∀ {acts : List FdAction} {t u : FdTerminal}, CleanReach t →
    Modem.cleanRun t acts = some u → CleanReach u
  | [], _, _, h, e => by cases e; exact h
  | a :: as, t, u, h, e => by
    rw [Modem.cleanRun] at e
    by_cases hc : (a.SetsReadCb && t.task.AtClear) = true
    · rw [if_pos hc] at e; cases e
    · rw [if_neg hc] at e
      obtain ⟨t', hs, e⟩ := Option.bind_eq_some.mp e
      refine CleanReach.cleanRun (h.next hs fun ha s ht => hc ?_) e
      rw [ha, ht]
      rfl

/-- `set_read_cb(f1)` runs whole; the task copies `f1`, clears `TASK_PARAMS` and dispatches. -/
def updateTrace : List FdAction :=
  [.start, .taskBoot, .taskWake, .setReadCbAssign (some 1), .setReadCbSignal, .taskLoop,
    .taskSelect .timeout, .taskTestParams, .taskCopy, .taskClear, .taskDispatch false]

def updatedTerminal : FdTerminal :=
  ⟨some 1, true, true, false, false, some 1, .top, .idle, 1, 1⟩

theorem clean_started_copy_is_latest :
    CleanReach updatedTerminal ∧ updatedTerminal.caller = .idle ∧
      updatedTerminal.taskParams = false ∧ updatedTerminal.assigns = 1 ∧
      updatedTerminal.copiedAt = updatedTerminal.assigns :=
  have h : CleanReach updatedTerminal :=
    CleanReach.init.cleanRun (show cleanRun fdInit updateTrace = some updatedTerminal by decide)
  ⟨h, rfl, rfl, rfl, clean_interleaving_copy_is_latest h rfl rfl⟩

end EspProtocols.Modem
