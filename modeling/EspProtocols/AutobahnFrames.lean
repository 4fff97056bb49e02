import EspProtocols.AutobahnReassembly

/-! Messages fragmented at the WebSocket level: each frame comes as one DATA event at offset 0, so
the test of lines 222-224 never fires, and every frame is echoed on its own. -/

namespace EspProtocols.Autobahn

/-- `evs` delivers the messages `ms` frame by frame, each as one whole DATA event. -/
inductive WholeFrames : List Echo → List Input → Prop
  | nil : WholeFrames [] []
  | cons {op : UInt8} {m : Echo} {ms : List Echo} {d : EventData} {o : Observation}
      {ctrl evs : List Input} :
      SendsAs op m.sendOpcode → IsChunk op m.payload.length 0 m.payload d → o.Up →
      (∀ e ∈ ctrl, IsControl e) → WholeFrames ms evs →
      WholeFrames (m :: ms) ((.data d, o) :: ctrl ++ evs)

/-- Frames delivered whole are each echoed as they are, in order, leaving the statics unchanged. -/
theorem whole_frames_echoed_each {s : Testee} (hr : s.testRunning = true) {ms : List Echo}
    {evs : List Input} (hf : WholeFrames ms evs) :
    ∃ xs, runHandler s evs = some (s, xs) ∧ echoes xs = ms := by
  induction hf with
  | nil => exact ⟨[], rfl, rfl⟩
  | @cons op m ms d o ctrl evs hs hd ho hctrl _ ih =>
    obtain ⟨xs, e, hxs⟩ := ih
    refine ⟨some (.echo m none) :: (ctrl.map fun _ => some .controlFrame) ++ xs, ?_, ?_⟩
    · simp [runHandler, websocketEventHandler, onData_whole hr ho hs hd, runHandler_append,
        runHandler_controls hr hctrl, e]
    · rw [← hxs, List.cons_append, echoes, List.filterMap_cons, List.filterMap_append]
      exact congrArg _ ((congrArg (· ++ _) (echoes_controls ctrl)).trans (List.nil_append _))

/-- The first frame of the text message "ab". -/
def textFrameA : EventData :=
  ⟨some [97], 1, false, 1, 1, 0, by simp, by decide, by decide, by decide⟩

def contFrameB : EventData :=
  ⟨some [98], 1, true, 0, 1, 0, by simp, by decide, by decide, by decide⟩

theorem text_frames_echoed_each :
    ({ appMainAlloc none with testRunning := true } : Testee).testRunning = true ∧
    WholeFrames [⟨1, [97]⟩, ⟨0, [98]⟩]
      [(.data textFrameA, upObs), (.data contFrameB, upObs)] ∧
    ∃ xs, runHandler { appMainAlloc none with testRunning := true }
        [(.data textFrameA, upObs), (.data contFrameB, upObs)] =
        some ({ appMainAlloc none with testRunning := true }, xs) ∧
      echoes xs = [⟨1, [97]⟩, ⟨0, [98]⟩] :=
  have hf : WholeFrames [⟨1, [97]⟩, ⟨0, [98]⟩]
      [(.data textFrameA, upObs), (.data contFrameB, upObs)] :=
    .cons (.inl ⟨rfl, rfl⟩) ⟨rfl, rfl, rfl, rfl⟩ upObs_up (List.forall_mem_nil _)
      (.cons (.inr (.inr ⟨rfl, rfl⟩)) ⟨rfl, rfl, rfl, rfl⟩ upObs_up (List.forall_mem_nil _)
        .nil)
  ⟨rfl, hf, whole_frames_echoed_each rfl hf⟩

def IsFrame (op : UInt8) (fin : Bool) (c : List UInt8) (d : EventData) : Prop :=
  IsChunk op c.length 0 c d ∧ d.fin = fin

/-- `evs` delivers continuation frames carrying `cs`, only the last with fin = 1. -/
inductive ContinuationFeed : List (List UInt8) → List Input → Prop
  | last {c : List UInt8} {d : EventData} {o : Observation} :
      IsFrame 0 true c d → o.Up → ContinuationFeed [c] [(.data d, o)]
  | cons {c : List UInt8} {cs : List (List UInt8)} {d : EventData} {o : Observation}
      {ctrl evs : List Input} :
      IsFrame 0 false c d → o.Up → (∀ e ∈ ctrl, IsControl e) → ContinuationFeed cs evs →
      ContinuationFeed (c :: cs) ((.data d, o) :: ctrl ++ evs)

/-- A message fragmented by the library: a first frame with fin = 0, then its continuations. -/
def FragmentedMessageFeed (op : UInt8) (c : List UInt8) (cs : List (List UInt8))
    (evs : List Input) : Prop :=
  ∃ d o ctrl rest, evs = (.data d, o) :: ctrl ++ rest ∧ IsFrame op false c d ∧ o.Up ∧
    (∀ e ∈ ctrl, IsControl e) ∧ ContinuationFeed cs rest

/-- Every such message is echoed once, at its last frame, as the concatenation of its frames. -/
def ReassemblesWsFragments : Prop :=
  ∀ s : Testee, Reachable s → s.testRunning = true → ∀ (op opc : UInt8) (c : List UInt8)
    (cs : List (List UInt8)) (evs : List Input), SendsAs op opc → op ≠ 0 →
    FragmentedMessageFeed op c cs evs → EchoesOnceAtEnd s evs ⟨opc, c ++ cs.flatten⟩

/-- The text message "ab" in two frames is echoed as "a" and "b", never as "ab". -/
theorem ws_fragments_echoed_per_frame : ¬ReassemblesWsFragments := by
  intro h
  have hs : Reachable { appMainAlloc none with testRunning := true } :=
    .handler (o := upObs) (e := .connected) (x := none) (.appMain none) rfl
  have hfeed : FragmentedMessageFeed 1 [97] [[98]]
      [(.data textFrameA, upObs), (.data contFrameB, upObs)] :=
    ⟨textFrameA, upObs, [], _, rfl, ⟨⟨rfl, rfl, rfl, rfl⟩, rfl⟩, upObs_up,
      List.forall_mem_nil _,
      .last ⟨⟨rfl, rfl, rfl, rfl⟩, rfl⟩ upObs_up⟩
  obtain ⟨s', pr, src, e, hpr⟩ :=
    h _ hs rfl 1 1 [97] [[98]] _ (.inl ⟨rfl, rfl⟩) (by decide) hfeed
  have hx : (runHandler { appMainAlloc none with testRunning := true }
      [(.data textFrameA, upObs), (.data contFrameB, upObs)]).map (·.2) =
      some [some (.echo ⟨1, [97]⟩ none), some (.echo ⟨0, [98]⟩ none)] := by decide
  rw [e] at hx
  simp only [Option.map_some', Option.some.injEq] at hx
  obtain ⟨x, rfl⟩ : ∃ x, pr = [x] := by
    have := congrArg List.length hx
    simp at this
    exact List.length_eq_one.mp this
  simp only [List.singleton_append, List.cons.injEq] at hx
  rw [hx.1] at hpr
  simp [echoes, DataExit.echoed] at hpr

end EspProtocols.Autobahn
