import EspProtocols.AutobahnInvariant
import EspProtocols.AutobahnEchoRetry

/-! Reassembly of a message the library delivers in `buffer_size` chunks, one DATA event each:
fed in order, the handler hands exactly the message to the echo once, at the last chunk. -/

namespace EspProtocols.Autobahn

def IsControl (e : Input) : Prop := ∃ d, e.1 = .data d ∧ 0x08 ≤ d.opCode ∧ e.2.Up

/-- `d` carries the chunk `c` of a message with op_code `op` and total length `L` at `off`. -/
structure IsChunk (op : UInt8) (L off : Nat) (c : List UInt8) (d : EventData) : Prop where
  opCode : d.opCode = op
  payloadLen : d.payloadLen = L
  payloadOffset : d.payloadOffset = off
  dataPtr : d.dataPtr = some c

theorem IsChunk.dataLen {op : UInt8} {L off : Nat} {c : List UInt8} {d : EventData}
    (h : IsChunk op L off c d) : d.dataLen = c.length :=
  (d.dataPtr_length c h.dataPtr).symm

theorem IsChunk.bytes {op : UInt8} {L off : Nat} {c : List UInt8} {d : EventData}
    (h : IsChunk op L off c d) : d.bytes = c := by
  simp [EventData.bytes, h.dataPtr]

theorem IsChunk.not_null {op : UInt8} {L off : Nat} {c : List UInt8} {d : EventData}
    (h : IsChunk op L off c d) : ¬(d.dataPtr = none ∧ 0 < d.dataLen) := by
  simp [h.dataPtr]

/-- The data opcodes and the send opcodes lines 190-200 map them to. -/
def SendsAs (op opc : UInt8) : Prop :=
  (op = 0x1 ∧ opc = wsTransportOpcodesText) ∨ (op = 0x2 ∧ opc = wsTransportOpcodesBinary) ∨
    (op = 0x0 ∧ opc = wsTransportOpcodesCont)

theorem SendsAs.sendOpcodeOf {op opc : UInt8} (h : SendsAs op opc) :
    sendOpcodeOf op = some opc := by
  rcases h with ⟨rfl, rfl⟩ | ⟨rfl, rfl⟩ | ⟨rfl, rfl⟩ <;> rfl

theorem SendsAs.lt {op opc : UInt8} (h : SendsAs op opc) : ¬0x08 ≤ op := by
  rcases h with ⟨rfl, -⟩ | ⟨rfl, -⟩ | ⟨rfl, -⟩ <;> decide

theorem onData_control {s : Testee} {o : Observation} {d : EventData} (hr : s.testRunning = true)
    (hc : o.connectedOnEntry = true) (h8 : 0x08 ≤ d.opCode) :
    onData s o d = some (s, .controlFrame) := by
  simp [onData, hr, hc, h8]

theorem runHandler_controls {s : Testee} (hr : s.testRunning = true) :
    ∀ {ctrl : List Input}, (∀ e ∈ ctrl, IsControl e) →
      runHandler s ctrl = some (s, ctrl.map fun _ => some .controlFrame)
  | [], _ => rfl
  | e :: ctrl, h => by
    obtain ⟨d, he, h8, hc, -⟩ := h e (List.mem_cons_self _ _)
    obtain ⟨ev, o⟩ := e
    simp only at he
    subst he
    simp [runHandler, websocketEventHandler, onData_control hr hc h8,
      runHandler_controls hr fun e' h' => h e' (List.mem_cons_of_mem _ h')]

theorem echoes_controls (ctrl : List Input) :
    echoes (ctrl.map fun _ => some .controlFrame) = [] := by
  simp [echoes, DataExit.echoed]

theorem IsChunk.totalLen {op : UInt8} {L off : Nat} {c : List UInt8} {d : EventData}
    (h : IsChunk op L off c d) (hL : 0 < L) : d.totalLen = L := by
  simp [EventData.totalLen, h.payloadLen, Nat.pos_iff_ne_zero.mp hL]

theorem onData_whole {s : Testee} (hr : s.testRunning = true) {o : Observation} (ho : o.Up)
    {op opc : UInt8} (hs : SendsAs op opc) {c : List UInt8} {d : EventData}
    (hd : IsChunk op c.length 0 c d) :
    onData s o d = some (s, .echo ⟨opc, c⟩ none) := by
  have hf : ¬(d.Fragmented ∧ 0 < d.totalLen) := by
    simp [EventData.Fragmented, hd.payloadLen, hd.dataLen, hd.payloadOffset]
  rw [← hd.opCode] at hs
  simp [onData, hr, ho.1, hs.lt, hs.sendOpcodeOf, hd.not_null, hf, handOff, ho.2.1, hd.bytes]

/-- The handler hands `m` to the echo exactly once over `evs` from `s`, at the last call. -/
def EchoesOnceAtEnd (s : Testee) (evs : List Input) (m : Echo) : Prop :=
  ∃ s' pr src, runHandler s evs = some (s', pr ++ [some (.echo m src)]) ∧ echoes pr = []

def pingEvent : EventData :=
  ⟨some [], 0, true, 9, 0, 0, by simp, by decide, by decide, by decide⟩

def chunkTail : EventData :=
  ⟨some [2, 3], 2, true, 2, 3, 1, by simp, by decide, by decide, by decide⟩

def threeByteFeed : List Input :=
  [(.data chunkHead, upObs), (.data pingEvent, upObs), (.data chunkTail, upObs)]

def takingLink : SendOracle := ⟨fun _ => true, fun _ => 3⟩

end EspProtocols.Autobahn
