import PugScript.Host
import PugScript.Host.Generator

/-!
# A host that lives in memory

It keeps the printed lines, answers reads from a list of lines, counts the clears and draws its
random numbers from a generator. None of its operations fails.
-/

namespace PugScript

/-- The state of a host in memory, with that of its generator. -/
structure MemoryHost (γ : Type) where
  /-- The printed lines, oldest first. -/
  output : Array String := #[]
  /-- The lines that are still to be read. -/
  input : List String := []
  clearCount : Nat := 0
  generator : γ

namespace MemoryHost

variable {γ : Type}

def print (line : String) (memory : MemoryHost γ) : MemoryHost γ :=
  { memory with output := memory.output.push line }

/-- Takes the next line of the input; an empty one if there is none. -/
def readLine (memory : MemoryHost γ) : String × MemoryHost γ :=
  match memory.input with
  | [] => ("", memory)
  | line :: rest => (line, { memory with input := rest })

def clear (memory : MemoryHost γ) : MemoryHost γ :=
  { memory with clearCount := memory.clearCount + 1 }

def draw {α : Type} (drawn : γ → α × γ) (memory : MemoryHost γ) : α × MemoryHost γ :=
  let (number, generator) := drawn memory.generator
  (number, { memory with generator })

/-- Hands the printed lines over and forgets them. -/
def takeOutput (memory : MemoryHost γ) : Array String × MemoryHost γ :=
  (memory.output, { memory with output := #[] })

def host (generator : Generator γ) : Host (MemoryHost γ) where
  print := fun line memory => (.ok (), memory.print line)
  readLine := fun memory =>
    let (line, memory) := memory.readLine
    (.ok line, memory)
  clear := fun memory => (.ok (), memory.clear)
  randomUnit := draw generator.unit
  randomRange := fun lower upper => draw (generator.rangeOrFirst lower upper)
  written := fun memory => memory.output.size + memory.clearCount

def seeded (seed : Nat) : MemoryHost Nat :=
  { generator := seed }

end MemoryHost

/-- A host in memory that draws from the linear generator. -/
def seededHost : Host (MemoryHost Nat) :=
  MemoryHost.host .linear

end PugScript
