/-!
# The host

The host is what a script can reach outside itself.

A host prints lines, reads lines, clears the screen and draws random numbers. It is given by its
operations on a state of its own, so that a run is a function of the state it starts from; printing,
reading and clearing can fail with a message.
-/

namespace PugScript

structure Host (σ : Type) where
  /-- Prints one line. -/
  print : String → σ → Except String Unit × σ
  /-- Reads one line, without its end; empty when there is no more input. -/
  readLine : σ → Except String String × σ
  /-- Clears the screen. -/
  clear : σ → Except String Unit × σ
  /-- A random number from zero on and below one. -/
  randomUnit : σ → Float × σ
  /-- A random number from the first bound on and below the second; the first bound if there is
  none. -/
  randomRange : Int64 → Int64 → σ → Int64 × σ
  /-- How much the host has written so far; it tells what came before what. -/
  written : σ → Nat

end PugScript
