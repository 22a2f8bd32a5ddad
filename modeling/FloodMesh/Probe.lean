/-
The probe a sensor node reads.

A read gives seven data bytes or a fault. A probe is its answers in order of
reading together with how many reads were made, so reading is a pure step.
-/

import FloodMesh.Packet

namespace FloodMesh

inductive ProbeFault
  /-- The probe does not answer on its bus. -/
  | noConnection
  /-- The probe answered with a value outside its physical range. -/
  | outOfBounds
  | other (code : UInt8)
  deriving DecidableEq

namespace ProbeFault

def code : ProbeFault → UInt8
  | .noConnection => 0x0A
  | .outOfBounds => 0x0B
  | .other code => code

def ofCode (code : UInt8) : ProbeFault :=
  if code = 0x0A then .noConnection else if code = 0x0B then .outOfBounds else .other code

def name : ProbeFault → String
  | .noConnection => "NoRs485Connection"
  | .outOfBounds => "OutOfBounds"
  | .other code => "Other(" ++ toString code.toNat ++ ")"

def message : ProbeFault → String
  | .noConnection => "no RS485 connection to sensor"
  | .outOfBounds => "sensor reading out of bounds"
  | .other code => "sensor fault 0x" ++ Bytes.hexText [code]

theorem code_ofCode (code : UInt8) : (ofCode code).code = code := by
  simp only [ofCode]
  split
  · simp_all [ProbeFault.code]
  · split <;> simp_all [ProbeFault.code]

end ProbeFault

abbrev ProbeAnswer := Except ProbeFault Reading

def ProbeAnswer.content : ProbeAnswer → Content
  | .ok data => .reading data
  | .error fault => .fault fault.code

structure Probe where
  answers : Nat → ProbeAnswer
  reads : Nat

namespace Probe

def ofAnswers (answers : Nat → ProbeAnswer) : Probe := { answers, reads := 0 }

/-- Gives the listed answers in turn and then repeats the last. Without any it
reads zeros for ever. -/
def ofList (answers : List ProbeAnswer) : Probe :=
  ofAnswers fun index =>
    answers.getD (min index (answers.length - 1)) (.ok Reading.zero)

def read (probe : Probe) : ProbeAnswer × Probe :=
  (probe.answers probe.reads, { probe with reads := probe.reads + 1 })

end Probe

end FloodMesh
