/-!
# The built-in functions

Their names, and how many arguments they take.
-/

namespace PugScript

inductive Arity where
  | exactly (count : Nat)
  /-- Both ends are accepted. -/
  | between (least most : Nat)
  deriving DecidableEq, Repr

namespace Arity

def accepts : Arity → Nat → Bool
  | exactly expected, count => expected == count
  | between least most, count => least ≤ count && count ≤ most

def most : Arity → Nat
  | exactly count => count
  | between _ most => most

def describe : Arity → String
  | exactly 1 => "1 argument"
  | exactly count => toString count ++ " arguments"
  | between least most => toString least ++ "..=" ++ toString most ++ " arguments"

end Arity

inductive Builtin where
  | sqrt
  | pow
  | min
  | max
  | round
  | random
  | len
  | upper
  | lower
  | replace
  | substr
  | left
  | right
  | mid
  | trim
  | trimStart
  | trimEnd
  | charAt
  | toStr
  | toInt
  | toDouble
  | toBool
  | iif
  | print
  | read
  | clear
  deriving DecidableEq, Repr

namespace Builtin

/-- Every built-in function, in the alphabetical order of the names. -/
def all : List Builtin :=
  [charAt, clear, iif, left, len, lower, max, mid, min, pow, print, random, read, replace, right,
    round, sqrt, substr, toBool, toDouble, toInt, toStr, trim, trimEnd, trimStart, upper]

def name : Builtin → String
  | sqrt => "sqrt"
  | pow => "pow"
  | min => "min"
  | max => "max"
  | round => "round"
  | random => "random"
  | len => "len"
  | upper => "upper"
  | lower => "lower"
  | replace => "replace"
  | substr => "substr"
  | left => "left"
  | right => "right"
  | mid => "mid"
  | trim => "trim"
  | trimStart => "trim_start"
  | trimEnd => "trim_end"
  | charAt => "char_at"
  | toStr => "to_str"
  | toInt => "to_int"
  | toDouble => "to_double"
  | toBool => "to_bool"
  | iif => "iif"
  | print => "print"
  | read => "read"
  | clear => "clear"

def ofName? (text : String) : Option Builtin :=
  all.find? fun builtin => builtin.name == text

def isName (text : String) : Bool :=
  (ofName? text).isSome

def arity : Builtin → Arity
  | sqrt => .exactly 1
  | pow => .between 1 2
  | min => .exactly 2
  | max => .exactly 2
  | round => .between 1 2
  | random => .between 0 2
  | len => .exactly 1
  | upper => .exactly 1
  | lower => .exactly 1
  | replace => .exactly 3
  | substr => .between 2 3
  | left => .exactly 2
  | right => .exactly 2
  | mid => .exactly 3
  | trim => .exactly 1
  | trimStart => .exactly 1
  | trimEnd => .exactly 1
  | charAt => .exactly 2
  | toStr => .exactly 1
  | toInt => .exactly 1
  | toDouble => .exactly 1
  | toBool => .exactly 1
  | iif => .exactly 3
  | print => .exactly 1
  | read => .exactly 0
  | clear => .exactly 0

def usesHost : Builtin → Bool
  | print | read | clear | random => true
  | _ => false

end Builtin

end PugScript
