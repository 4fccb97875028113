import PugScript.Builtin.Compute
import PugScript.Host

/-!
# Calling a built-in function by its name

Four functions reach the host: printing, reading, clearing and random numbers. A call checks the
name first and the number of arguments second, so the functions themselves see only calls that
fit.
-/

namespace PugScript.Builtin

variable {σ : Type}

def ofHost {α : Type} (result : Except String α) : Except ValueError α :=
  result.mapError .host

/-- A random number: from zero to one, below a bound, or between two bounds. -/
def randomNumber (host : Host σ) (arguments : List Value) (world : σ) :
    Except ValueError Value × σ :=
  match arguments with
  | [] =>
    let (number, world) := host.randomUnit world
    (.ok (.double number), world)
  | [bound] =>
    match bound.toInt with
    | .error error => (.error error, world)
    | .ok bound =>
      if bound < 0 then (.error (.invalidArgument .negativeUpperBound), world)
      else
        let (number, world) := host.randomRange 0 bound world
        (.ok (.double (Decimal.wholeFloat number)), world)
  | first :: second :: _ =>
    match first.toInt, second.toInt with
    | .error error, _ => (.error error, world)
    | .ok _, .error error => (.error error, world)
    | .ok first, .ok second =>
      if second < first then
        (.error (.invalidArgument (.reversedBounds first.toInt second.toInt)), world)
      else
        let (number, world) := host.randomRange first second world
        (.ok (.double (Decimal.wholeFloat number)), world)

/-- The result of a function on accepted arguments, and the host's state after it. -/
def perform (host : Host σ) (builtin : Builtin) (arguments : List Value) (world : σ) :
    Except ValueError Value × σ :=
  match builtin, arguments with
  | print, [value] =>
    let (result, world) := host.print value.text world
    ((ofHost result).map fun _ => .none, world)
  | read, [] =>
    let (result, world) := host.readLine world
    (ofHost result >>= Value.checkedString, world)
  | clear, [] =>
    let (result, world) := host.clear world
    ((ofHost result).map fun _ => .none, world)
  | random, arguments => randomNumber host arguments world
  | builtin, arguments => (builtin.compute arguments, world)

def invoke (host : Host σ) (name : String) (arguments : List Value) (world : σ) :
    Except ValueError Value × σ :=
  match ofName? name with
  | none => (.error (.functionNotFound name), world)
  | some builtin =>
    if builtin.arity.accepts arguments.length then builtin.perform host arguments world
    else (.error (.invalidArgumentCount name), world)

end PugScript.Builtin
