import EspProtocols.AutobahnAccumulator

/-! `websocket_event_handler` of `autobahn_testee.c` up to the hand-off to the echo; the echo's
retry loop, which leaves the statics alone, is `AutobahnEchoRetry`. -/

namespace EspProtocols.Autobahn

/-- Modelled from the spec: `WS_TRANSPORT_OPCODES_CONT`, the RFC 6455 continuation opcode. -/
def wsTransportOpcodesCont : UInt8 := 0x0

def wsTransportOpcodesText : UInt8 := 0x1

def wsTransportOpcodesBinary : UInt8 := 0x2

/-- `2^31`: the lengths of an event are non-negative C `int`s, so below it. -/
def intLimit : Nat := 2147483648

/-- The fields of `esp_websocket_event_data_t` the handler reads; `dataPtr` is `none` for NULL. -/
structure EventData where
  dataPtr : Option (List UInt8)
  dataLen : Nat
  fin : Bool
  opCode : UInt8
  payloadLen : Nat
  payloadOffset : Nat
  dataPtr_length : ∀ xs ∈ dataPtr, xs.length = dataLen
  dataLen_lt : dataLen < intLimit
  payloadLen_lt : payloadLen < intLimit
  payloadOffset_lt : payloadOffset < intLimit

namespace EventData

def bytes (d : EventData) : List UInt8 := d.dataPtr.getD []

/-- `total_len = payload_len ? payload_len : data_len`. -/
def totalLen (d : EventData) : Nat := if d.payloadLen = 0 then d.dataLen else d.payloadLen

/-- `(payload_len > 0 && payload_len > data_len) || payload_offset > 0`. -/
def Fragmented (d : EventData) : Prop :=
  (0 < d.payloadLen ∧ d.dataLen < d.payloadLen) ∨ 0 < d.payloadOffset

instance (d : EventData) : Decidable d.Fragmented :=
  inferInstanceAs (Decidable ((_ ∧ _) ∨ _))

theorem bytes_length (d : EventData) (h : ¬(d.dataPtr = none ∧ 0 < d.dataLen)) :
    d.bytes.length = d.dataLen := by
  cases hp : d.dataPtr with
  | none => simp only [bytes, hp, Option.getD_none, List.length_nil]; simp [hp] at h; omega
  | some xs => simpa [bytes, hp] using d.dataPtr_length xs hp

end EventData

/-- `offset + data->data_len` in `size_t`, 32 bits wide on the target. -/
def sizeAdd (a b : Nat) : Nat := (a + b) % 4294967296

/-- The bounds checks on a chunk's end never wrap: both operands are non-negative `int`s. -/
theorem EventData.sizeAdd_end (d : EventData) :
    sizeAdd d.payloadOffset d.dataLen = d.payloadOffset + d.dataLen :=
  Nat.mod_eq_of_lt (by
    have := d.dataLen_lt
    have := d.payloadOffset_lt
    unfold intLimit at *
    omega)

/-- What `esp_websocket_client_is_connected` and `malloc` answer during one handler call. -/
structure Observation where
  connectedOnEntry : Bool
  mallocResult : Option Bytes
  connectedBeforeEcho : Bool

/-- What the handler passes to `esp_websocket_client_send_with_opcode`. -/
structure Echo where
  sendOpcode : UInt8
  payload : List UInt8
  deriving DecidableEq, Repr

/-- The branch of lines 240-252 a fragmented chunk takes. -/
inductive ChunkPath
| prepare
| restart
| append
  deriving DecidableEq, Repr

/-- How a call on `WEBSOCKET_EVENT_DATA` ends: one constructor per `break` of the source. -/
inductive DataExit
  | notConnected
  | controlFrame
  | unsupportedOpcode
  | nullData
  | allocFailed
  | prepareFailed (path : ChunkPath) (err : EspErr)
  | inactiveOrNull
  | nullChunk
  | overflow
  | exceedsExpected
  | nullBeforeCopy
  | waiting (path : ChunkPath)
  | connectionLost
  | echo (e : Echo) (assembled : Option ChunkPath)
  deriving DecidableEq, Repr

def DataExit.echoed : DataExit → Option Echo
  | .echo e _ => some e
  | _ => none

/-- The send opcode of lines 190-200. -/
def sendOpcodeOf (op : UInt8) : Option UInt8 :=
  if op = 0x1 then some wsTransportOpcodesText
  else if op = 0x2 then some wsTransportOpcodesBinary
  else if op = 0x0 then some wsTransportOpcodesCont
  else none

/-- Lines 240-252; the error is what `ws_accumulator_prepare` returned, `ok` when not called. -/
def startChunk (s : Testee) (d : EventData) (op : UInt8) (r : Option Bytes) :
    ChunkPath × EspErr × Testee :=
  if d.payloadOffset = 0 ∨ s.sAccumulator.active = false then
    (.prepare, wsAccumulatorPrepare s d.totalLen op r)
  else if d.totalLen ≠ s.sAccumulator.expectedLen then
    (.restart, wsAccumulatorPrepare (wsAccumulatorReset s) d.totalLen op r)
  else (.append, .ok, s)

/-- Lines 304-311: the connection check before the echo, then the hand-off to the send loop. -/
def handOff (s : Testee) (o : Observation) (e : Echo) (src : Option ChunkPath) :
    Testee × DataExit :=
  if o.connectedBeforeEcho then (s, .echo e src) else (wsAccumulatorReset s, .connectionLost)

/-- Lines 254-302: the defensive and bounds checks, the copy and the completion test. -/
def copyChunk (s : Testee) (o : Observation) (d : EventData) (path : ChunkPath) :
    Option (Testee × DataExit) :=
  let a := s.sAccumulator
  if a.active = false ∨ a.buffer = none then some (wsAccumulatorReset s, .inactiveOrNull)
  else if d.dataPtr = none ∧ 0 < d.dataLen then some (wsAccumulatorReset s, .nullChunk)
  else if a.capacity < sizeAdd d.payloadOffset d.dataLen then
    some (wsAccumulatorReset s, .overflow)
  else if a.expectedLen < sizeAdd d.payloadOffset d.dataLen then
    some (wsAccumulatorReset s, .exceedsExpected)
  else if a.buffer = none then some (wsAccumulatorReset s, .nullBeforeCopy)
  else
    (s.heap.memcpy a.buffer d.payloadOffset d.bytes).bind fun heap =>
      let received := sizeAdd d.payloadOffset d.dataLen
      if received < a.expectedLen then
        some ({ s with heap, sAccumulator := { a with received } }, .waiting path)
      else
        (heap.read a.buffer a.expectedLen).map fun payload =>
          handOff { s with heap, sAccumulator := { a with received, active := false } } o
            ⟨a.opcode, payload⟩ (some path)

/-- The `WEBSOCKET_EVENT_DATA` case; `none` is a copy or read outside a live block. -/
def onData (s : Testee) (o : Observation) (d : EventData) : Option (Testee × DataExit) :=
  if s.testRunning = false ∨ o.connectedOnEntry = false then
    some (wsAccumulatorReset s, .notConnected)
  else if 0x08 ≤ d.opCode then some (s, .controlFrame)
  else
    match sendOpcodeOf d.opCode with
    | none => some (s, .unsupportedOpcode)
    | some op =>
      if d.dataPtr = none ∧ 0 < d.dataLen then some (s, .nullData)
      else if d.Fragmented ∧ 0 < d.totalLen then
        if (allocAccumBuffer s o.mallocResult).sAccumBuffer = none then
          some (allocAccumBuffer s o.mallocResult, .allocFailed)
        else
          let t := startChunk (allocAccumBuffer s o.mallocResult) d op o.mallocResult
          if t.2.1 = .ok then copyChunk t.2.2 o d t.1 else some (t.2.2, .prepareFailed t.1 t.2.1)
      else some (handOff s o ⟨op, d.bytes⟩ none)

inductive OnDataBranch (s : Testee) (o : Observation) (d : EventData) : Testee → DataExit → Prop
  | notConnected : s.testRunning = false ∨ o.connectedOnEntry = false →
      OnDataBranch s o d (wsAccumulatorReset s) .notConnected
  | controlFrame : 0x08 ≤ d.opCode → OnDataBranch s o d s .controlFrame
  | unsupportedOpcode : sendOpcodeOf d.opCode = none → OnDataBranch s o d s .unsupportedOpcode
  | nullData : d.dataPtr = none ∧ 0 < d.dataLen → OnDataBranch s o d s .nullData
  | allocFailed : ¬(d.dataPtr = none ∧ 0 < d.dataLen) → d.Fragmented ∧ 0 < d.totalLen →
      (allocAccumBuffer s o.mallocResult).sAccumBuffer = none →
      OnDataBranch s o d (allocAccumBuffer s o.mallocResult) .allocFailed
  | copied {op : UInt8} {p : Nat} {c : ChunkPath × EspErr × Testee} {t' : Testee} {x : DataExit} :
      sendOpcodeOf d.opCode = some op → ¬(d.dataPtr = none ∧ 0 < d.dataLen) →
      d.Fragmented ∧ 0 < d.totalLen →
      (allocAccumBuffer s o.mallocResult).sAccumBuffer = some p →
      startChunk (allocAccumBuffer s o.mallocResult) d op o.mallocResult = c → c.2.1 = .ok →
      copyChunk c.2.2 o d c.1 = some (t', x) → OnDataBranch s o d t' x
  | prepareFailed {op : UInt8} {p : Nat} {c : ChunkPath × EspErr × Testee} :
      sendOpcodeOf d.opCode = some op → ¬(d.dataPtr = none ∧ 0 < d.dataLen) →
      d.Fragmented ∧ 0 < d.totalLen →
      (allocAccumBuffer s o.mallocResult).sAccumBuffer = some p →
      startChunk (allocAccumBuffer s o.mallocResult) d op o.mallocResult = c → c.2.1 ≠ .ok →
      OnDataBranch s o d c.2.2 (.prepareFailed c.1 c.2.1)
  | whole {op : UInt8} {t' : Testee} {x : DataExit} :
      sendOpcodeOf d.opCode = some op → ¬(d.dataPtr = none ∧ 0 < d.dataLen) →
      ¬(d.Fragmented ∧ 0 < d.totalLen) →
      handOff s o ⟨op, d.bytes⟩ none = (t', x) → OnDataBranch s o d t' x

/-- Every result of `onData` comes from one of its branches. -/
theorem onData_branch {s : Testee} {o : Observation} {d : EventData} {t' : Testee} {x : DataExit}
    (h : onData s o d = some (t', x)) : OnDataBranch s o d t' x := by
  unfold onData at h
  by_cases c₁ : s.testRunning = false ∨ o.connectedOnEntry = false
  · rw [if_pos c₁] at h; cases h; exact .notConnected c₁
  rw [if_neg c₁] at h
  by_cases c₂ : 0x08 ≤ d.opCode
  · rw [if_pos c₂] at h; cases h; exact .controlFrame c₂
  rw [if_neg c₂] at h
  cases hop : sendOpcodeOf d.opCode with
  | none => rw [hop] at h; cases h; exact .unsupportedOpcode hop
  | some op =>
    rw [hop] at h
    dsimp only at h
    by_cases c₃ : d.dataPtr = none ∧ 0 < d.dataLen
    · rw [if_pos c₃] at h; cases h; exact .nullData c₃
    rw [if_neg c₃] at h
    by_cases c₄ : d.Fragmented ∧ 0 < d.totalLen
    · rw [if_pos c₄] at h
      cases hp : (allocAccumBuffer s o.mallocResult).sAccumBuffer with
      | none => rw [if_pos hp] at h; cases h; exact .allocFailed c₃ c₄ hp
      | some p =>
        rw [if_neg (hp ▸ Option.some_ne_none p)] at h
        by_cases c₅ :
            (startChunk (allocAccumBuffer s o.mallocResult) d op o.mallocResult).2.1 = .ok
        · rw [if_pos c₅] at h; exact .copied hop c₃ c₄ hp rfl c₅ h
        · rw [if_neg c₅] at h; cases h; exact .prepareFailed hop c₃ c₄ hp rfl c₅
    · rw [if_neg c₄] at h; exact .whole hop c₃ c₄ (Option.some.inj h)

inductive WebsocketEvent
  | begin
  | connected
  | disconnected
  | data (d : EventData)
  | error
  | finish

def endTestCase (s : Testee) : Testee := wsAccumulatorReset { s with testRunning := false }

/-- `websocket_event_handler`, with the exit of a DATA call. -/
def websocketEventHandler (s : Testee) (o : Observation) :
    WebsocketEvent → Option (Testee × Option DataExit)
  | .connected => some ({ s with testRunning := true }, none)
  | .disconnected => some (endTestCase s, none)
  | .data d => (onData s o d).map fun r => (r.1, some r.2)
  | .error => some (endTestCase s, none)
  | .finish => some (endTestCase s, none)
  | .begin => some (s, none)

abbrev Input := WebsocketEvent × Observation

/-- The handler over a stream of events, with the exit of each call. -/
def runHandler (s : Testee) : List Input → Option (Testee × List (Option DataExit))
  | [] => some (s, [])
  | (e, o) :: evs =>
    (websocketEventHandler s o e).bind fun r =>
      (runHandler r.1 evs).map fun t => (t.1, r.2 :: t.2)

/-- The messages a run hands to the echo, in order. -/
def echoes (xs : List (Option DataExit)) : List Echo := xs.filterMap (·.bind DataExit.echoed)

theorem runHandler_append (s : Testee) (evs₁ evs₂ : List Input) :
    runHandler s (evs₁ ++ evs₂) = (runHandler s evs₁).bind fun t₁ =>
      (runHandler t₁.1 evs₂).map fun t₂ => (t₂.1, t₁.2 ++ t₂.2) := by
  induction evs₁ generalizing s with
  | nil => simp [runHandler]
  | cons e evs ih =>
    obtain ⟨ev, o⟩ := e
    rw [List.cons_append]
    simp only [runHandler, ih, Option.bind_assoc, Option.map_bind, Option.bind_map,
      Option.map_map, Function.comp_def, List.cons_append]

end EspProtocols.Autobahn
