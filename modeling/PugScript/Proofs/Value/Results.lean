import PugScript.Builtin.Invoke
import PugScript.Evaluation.Operators
import PugScript.Proofs.Decimal.Width

/-!
# What operators and functions give

No operator and no function makes a string that is longer than the length limit and than all the
strings it is given. And none of them complains about a word: only the look-up of a word that the
language does not have does that.
-/

namespace PugScript

open PugScript.Decimal
open PugScript.Text

/-- What a computation gives satisfies the one predicate, and what it complains about the other. -/
def Yields {ε α : Type} (valid : α → Prop) (blames : ε → Prop) : Except ε α → Prop
  | .ok result => valid result
  | .error error => blames error

namespace Yields

variable {ε δ α β : Type} {valid : α → Prop} {validNext : β → Prop}
  {blames : ε → Prop} {blamesNext : δ → Prop}

theorem always (computation : Except ε α) :
    Yields (fun _ => True) (fun _ => True) computation := by
  cases computation <;> trivial

theorem of_blames (blamed : ∀ error, blames error) (computation : Except ε α) :
    Yields (fun _ => True) blames computation := by
  cases computation with
  | ok result => trivial
  | error error => exact blamed error

theorem imp
    {validToo : α → Prop} {blamesToo : ε → Prop} {computation : Except ε α}
    (yields : Yields valid blames computation)
    (whenValid : ∀ result, valid result → validToo result)
    (whenBlamed : ∀ error, blames error → blamesToo error) :
    Yields validToo blamesToo computation := by
  cases computation with
  | ok result => exact whenValid result yields
  | error error => exact whenBlamed error yields

theorem bind
    {first : Except ε α} {next : α → Except ε β} (firstYields : Yields valid blames first)
    (nextYields : ∀ result, valid result → Yields validNext blames (next result)) :
    Yields validNext blames (first >>= next) := by
  cases first with
  | ok result => exact nextYields result firstYields
  | error error => exact firstYields

theorem map
    {computation : Except ε α} {convert : α → β} (yields : Yields valid blames computation)
    (converted : ∀ result, valid result → validNext (convert result)) :
    Yields validNext blames (computation.map convert) := by
  cases computation with
  | ok result => exact converted result yields
  | error error => exact yields

theorem mapError
    {computation : Except ε α} {convert : ε → δ} (yields : Yields valid blames computation)
    (converted : ∀ error, blames error → blamesNext (convert error)) :
    Yields valid blamesNext (computation.mapError convert) := by
  cases computation with
  | ok result => exact yields
  | error error => exact converted error yields

end Yields

/-! ## Errors -/

/-- A word or a literal was looked up that the language does not have. -/
def ValueError.IsUnknownWord : ValueError → Prop
  | functionNotFound _ | unknownType _ | invalidLiteral _ => True
  | _ => False

def EvaluationFault.IsUnknownWord : EvaluationFault → Prop
  | value error => error.IsUnknownWord
  | _ => False

/-- A success is valid, and a failure is not for an unknown word. -/
def Settles {α : Type} (valid : α → Prop) : Except ValueError α → Prop :=
  Yields valid fun error => ¬ error.IsUnknownWord

/-- The same for what an operator gives. -/
def Operates (valid : Value → Prop) : Except EvaluationFault Value → Prop :=
  Yields valid fun fault => ¬ fault.IsUnknownWord

theorem Settles.operates
    {valid : Value → Prop} {computation : Except ValueError Value}
    (settles : Settles valid computation) :
    Operates valid (computation.mapError .value) :=
  settles.mapError fun _ known => known

/-! ## Lengths of texts -/

theorem length_slice_le (text : String) (start count : Nat) :
    (slice text start count).length ≤ text.length := by
  simp only [slice, String.length_ofList, List.length_take, List.length_drop,
    String.length_toList]
  omega

theorem length_trimStart_le (text : String) : (trimStart text).length ≤ text.length := by
  rw [trimStart, String.length_ofList, ← String.length_toList]
  exact (List.dropWhile_suffix _).length_le

theorem length_trimEnd_le (text : String) : (trimEnd text).length ≤ text.length := by
  rw [trimEnd, String.length_ofList, List.length_reverse]
  calc (text.toList.reverse.dropWhile isBlank).length ≤ text.toList.reverse.length :=
        (List.dropWhile_suffix _).length_le
    _ = text.length := by rw [List.length_reverse, String.length_toList]

theorem trim_eq (text : String) : trim text = trimEnd (trimStart text) := by
  simp [trim, trimEnd, trimStart]

theorem length_trim_le (text : String) : (trim text).length ≤ text.length := by
  rw [trim_eq]
  exact (length_trimEnd_le _).trans (length_trimStart_le text)

theorem length_repeat (text : String) (count : Nat) :
    (Nat.repeat (fun result => result ++ text) count "").length = text.length * count := by
  induction count with
  | zero => rfl
  | succ count inductionHypothesis =>
      rw [Nat.repeat, String.length_append, inductionHypothesis, Nat.mul_succ]

theorem length_repeatText_le (text : String) (count : Nat) :
    (repeatText text count).length ≤ text.length * count := by
  unfold repeatText
  split
  · exact Nat.zero_le _
  · exact (length_repeat text count).le

/-! ## Values that are not too long -/

/-- If the value is a string, it has at most `bound` characters. -/
def Value.IsWithin (bound : Nat) : Value → Prop
  | string content => content.length ≤ bound
  | _ => True

theorem Value.IsWithin.mono
    {value : Value} {bound more : Nat} (within : value.IsWithin bound) (le : bound ≤ more) :
    value.IsWithin more := by
  cases value with
  | string content => exact Nat.le_trans within le
  | _ => trivial

theorem Value.isWithin_initial (bound : Nat) (dataType : DataType) :
    (Value.initial dataType).IsWithin bound := by
  cases dataType with
  | string => exact Nat.zero_le _
  | _ => trivial

/-- The text of a whole number is far shorter than the limit. -/
theorem length_toString_int64_le (number : Int64) :
    (toString number.toInt).length ≤ Limits.maxStringLength := by
  have magnitude : number.toInt.natAbs < tenTo 20 := by
    have least := number.le_toInt
    have greatest := number.toInt_lt
    have enough : 2 ^ 63 < tenTo 20 := by decide
    omega
  have digits := length_toString_le (by decide) magnitude
  have enough : 21 ≤ Limits.maxStringLength := by decide
  cases whole : number.toInt with
  | ofNat count =>
      rw [whole] at digits
      exact digits.trans (by decide)
  | negSucc count =>
      rw [whole] at digits
      have sign : "-".length = 1 := by decide
      change ("-" ++ toString (count + 1)).length ≤ _
      rw [String.length_append]
      change (toString (count + 1)).length ≤ 20 at digits
      omega

/-! ## Tables of variables -/

namespace VariableTable

/-- All variables have values of a kind. -/
def Holds (valid : Value → Prop) (table : VariableTable) : Prop :=
  ∀ entry ∈ table.entries, valid entry.2

variable {valid : Value → Prop} {table : VariableTable} (holds : table.Holds valid)
  {name : String} {value : Value}

include holds

theorem Holds.get? (stored : table.get? name = some value) : valid value := by
  unfold VariableTable.get? at stored
  unfold Holds at holds
  generalize table.entries = entries at stored holds
  induction entries with
  | nil => cases stored
  | cons entry rest inductionHypothesis =>
      rw [lookup] at stored
      split at stored
      · cases stored
        exact holds entry List.mem_cons_self
      · exact inductionHypothesis stored fun other member =>
          holds other (List.mem_cons_of_mem _ member)

theorem Holds.replaceValue (validValue : valid value) :
    ∀ entry ∈ VariableTable.replaceValue name value table.entries, valid entry.2 := by
  unfold Holds at holds
  generalize table.entries = entries at holds
  induction entries with
  | nil => exact holds
  | cons entry rest inductionHypothesis =>
      obtain ⟨validFirst, validRest⟩ := List.forall_mem_cons.mp holds
      rw [VariableTable.replaceValue]
      split
      · exact List.forall_mem_cons.mpr ⟨validValue, validRest⟩
      · exact List.forall_mem_cons.mpr ⟨validFirst, inductionHypothesis validRest⟩

theorem Holds.declare (validValue : valid value) : (table.declare name value).Holds valid := by
  unfold VariableTable.declare
  split
  · exact holds.replaceValue validValue
  · intro entry member
    rcases List.mem_append.mp member with old | new
    · exact holds entry old
    · obtain rfl := List.mem_singleton.mp new
      exact validValue

theorem Holds.assign?
    (validValue : valid value) {changed : VariableTable}
    (assigned : table.assign? name value = some changed) : changed.Holds valid := by
  unfold VariableTable.assign? at assigned
  split at assigned
  · cases assigned
    exact holds.replaceValue validValue
  · cases assigned

omit holds in
/-- The strings of a table are not arbitrarily long. -/
theorem exists_bound (table : VariableTable) :
    ∃ bound, Limits.maxStringLength ≤ bound ∧ table.Holds (·.IsWithin bound) := by
  unfold Holds
  induction table.entries with
  | nil => exact ⟨Limits.maxStringLength, Nat.le_refl _, by simp⟩
  | cons entry rest inductionHypothesis =>
      obtain ⟨bound, allows, withinRest⟩ := inductionHypothesis
      have withinFirst : entry.2.IsWithin entry.2.text.length := by
        cases entry.2 with
        | string content => exact Nat.le_refl _
        | _ => trivial
      refine ⟨bound + entry.2.text.length, by omega, List.forall_mem_cons.mpr ⟨?_, ?_⟩⟩
      · exact withinFirst.mono (by omega)
      · exact fun other member => (withinRest other member).mono (by omega)

end VariableTable

/-- The host keeps a condition on its state as long as the lines that it prints are not too
long. -/
structure Host.Maintains {σ : Type} (host : Host σ) (bound : Nat) (world : σ → Prop) : Prop where
  print : ∀ line state, line.length ≤ bound → world state → world (host.print line state).2
  readLine : ∀ state, world state → world (host.readLine state).2
  clear : ∀ state, world state → world (host.clear state).2
  randomUnit : ∀ state, world state → world (host.randomUnit state).2
  randomRange : ∀ lower upper state, world state → world (host.randomRange lower upper state).2

section Results

variable {bound : Nat} (allows : Limits.maxStringLength ≤ bound)

include allows

/-- Also the text of a value that is no string keeps the bound. -/
theorem Value.IsWithin.length_text_le {value : Value} (within : value.IsWithin bound) :
    value.text.length ≤ bound := by
  cases value with
  | int number => exact (length_toString_int64_le number).trans allows
  | double number => exact (length_render_le number).trans allows
  | bool truth =>
      have short : (Value.bool truth).text.length ≤ Limits.maxStringLength := by
        cases truth <;> decide
      exact short.trans allows
  | string content => exact within
  | none => exact Nat.zero_le _

theorem checkedString_settles (content : String) :
    Settles (·.IsWithin bound) (Value.checkedString content) := by
  unfold Value.checkedString
  split
  · exact not_false
  · next short => exact (Nat.not_lt.mp short).trans allows

/-! ## Conversions -/

omit allows in
theorem toDouble_settles (value : Value) : Settles (fun _ => True) value.toDouble := by
  unfold Value.toDouble
  split
  · trivial
  · trivial
  split
  · trivial
  · exact not_false

omit allows in
theorem toInt_settles (value : Value) : Settles (fun _ => True) value.toInt := by
  unfold Value.toInt
  split
  · trivial
  · trivial
  split
  · trivial
  · exact not_false

omit allows in
theorem toBool_settles (value : Value) : Settles (fun _ => True) value.toBool := by
  cases value with
  | bool truth => trivial
  | string content =>
      rw [Value.toBool]
      generalize sameIgnoringAsciiCase (trim content) "true" = isTrue
      generalize sameIgnoringAsciiCase (trim content) "false" = isFalse
      cases isTrue
      · cases isFalse
        · exact not_false
        · trivial
      · trivial
  | int _ | double _ | none => exact not_false

/-- Conversion to a type that variables can have. -/
theorem cast_settles
    {value : Value} (within : value.IsWithin bound)
    {target : DataType} (declarable : target ∈ DataType.declarable) :
    Settles (·.IsWithin bound) (value.cast target) := by
  unfold Value.cast
  split
  · cases target with
    | int => exact (toInt_settles value).map fun _ _ => trivial
    | double => exact (toDouble_settles value).map fun _ _ => trivial
    | bool => exact (toBool_settles value).map fun _ _ => trivial
    | string => exact within.length_text_le allows
    | none =>
        have undeclarable : DataType.none ∉ DataType.declarable := by decide
        exact absurd declarable undeclarable
  · exact not_false

/-! ## Operators -/

theorem applySign_operates (sign : TokenKind) (operand : Value) :
    Operates (·.IsWithin bound) (applySign sign operand) := by
  have converted := toDouble_settles operand
  unfold applySign
  split
  · exact not_false
  · trivial
  split
  · next error failed =>
    rw [failed] at converted
    exact converted
  · next magnitude _ =>
    extract_lets number
    split
    · exact (length_render_le number).trans allows
    · trivial

omit allows in
theorem doubleOperation_operates (operator : TokenKind) (left right : Float) :
    Operates (·.IsWithin bound) (doubleOperation operator left right) := by
  unfold doubleOperation
  split
  iterate 5 trivial
  exact not_false

theorem repeatString_operates (content : String) (count : Int64) :
    Operates (·.IsWithin bound) (repeatString content count) := by
  unfold repeatString
  dsimp only
  split
  · exact not_false
  · next short =>
    exact (length_repeatText_le _ _).trans ((Nat.not_lt.mp short).trans allows)

theorem stringOperation_operates (operator : TokenKind) (left right : Value) :
    Operates (·.IsWithin bound) (stringOperation operator left right) := by
  have checked (content : String) : Operates (·.IsWithin bound) (stringResult content) :=
    (checkedString_settles allows content).operates
  have known {count : Value} {error : ValueError} (failed : count.toInt = .error error) :
      ¬ error.IsUnknownWord := by
    have converted := toInt_settles count
    rw [failed] at converted
    exact converted
  unfold stringOperation
  split
  · exact checked _
  · split
    · exact checked _
    · exact checked _
  · split
    · split
      · next failed => exact known failed
      · exact repeatString_operates allows _ _
    · split
      · next failed => exact known failed
      · exact repeatString_operates allows _ _
  · exact not_false

theorem arithmetic_operates (operator : TokenKind) (left right : Value) :
    Operates (·.IsWithin bound) (arithmetic operator left right) := by
  unfold arithmetic
  split
  · exact not_false
  split
  · exact stringOperation_operates allows operator left right
  split
  iterate 4 exact doubleOperation_operates _ _ _
  exact not_false

omit allows in
theorem equalValues_settles (left right : Value) :
    Settles (fun _ => True) (equalValues left right) := by
  unfold equalValues
  split
  iterate 3 trivial
  refine (toDouble_settles left).bind fun _ _ => ?_
  exact (toDouble_settles right).bind fun _ _ => trivial

omit allows in
theorem greaterValue_settles (left right : Value) :
    Settles (fun _ => True) (greaterValue left right) := by
  unfold greaterValue
  split
  · refine (toDouble_settles left).bind fun _ _ => ?_
    exact (toDouble_settles right).bind fun _ _ => trivial
  · refine (toInt_settles left).bind fun _ _ => ?_
    exact (toInt_settles right).bind fun _ _ => trivial

omit allows in
theorem eitherTest_settles
    {first second : Except ValueError Bool} (firstSettles : Settles (fun _ => True) first)
    (secondSettles : Settles (fun _ => True) second) :
    Settles (fun _ => True) (eitherTest first second) := by
  unfold eitherTest
  split
  · exact secondSettles
  · exact firstSettles

omit allows in
theorem ensureSameTypes_settles (left right : Value) (operator : TokenKind) :
    Settles (fun _ => True) (Value.ensureSameTypes left right operator) := by
  unfold Value.ensureSameTypes
  split
  · exact not_false
  split
  · trivial
  split
  · exact not_false
  · trivial

omit allows in
theorem comparison_operates (operator : TokenKind) (left right : Value) :
    Operates (·.IsWithin bound) (comparison operator left right) := by
  have truth (test : Except ValueError Bool) (settles : Settles (fun _ => True) test) :
      Operates (·.IsWithin bound) ((test.map Value.bool).mapError .value) :=
    Settles.operates (settles.map fun _ _ => trivial)
  have equal := equalValues_settles left right
  have greater := greaterValue_settles left right
  have less := greaterValue_settles right left
  have sameTypes := ensureSameTypes_settles left right operator
  unfold comparison
  split
  · next error failed =>
    rw [failed] at sameTypes
    exact sameTypes
  dsimp only
  split
  · exact truth _ equal
  · exact truth _ (equal.map fun _ _ => trivial)
  · exact truth _ greater
  · exact truth _ (eitherTest_settles greater equal)
  · exact truth _ less
  · exact truth _ (eitherTest_settles less equal)
  · exact not_false

omit allows in
theorem logic_operates (operator : TokenKind) (left right : Value) :
    Operates (·.IsWithin bound) (logic operator left right) := by
  unfold logic
  split
  · split
    · trivial
    · trivial
    · exact not_false
  · exact not_false

/-- No operator makes a string that exceeds the bound. -/
theorem combine_operates (tier : Tier) (operator : TokenKind) (left right : Value) :
    Operates (·.IsWithin bound) (tier.combine operator left right) := by
  cases tier with
  | disjunction => exact logic_operates operator left right
  | conjunction => exact logic_operates operator left right
  | comparison => exact comparison_operates operator left right
  | additive => exact arithmetic_operates allows operator left right
  | multiplicative => exact arithmetic_operates allows operator left right

/-! ## Functions -/

omit allows in
theorem roundTo_settles (number : Float) (digits : Int64) :
    Settles (·.IsWithin bound) (Builtin.roundTo number digits) := by
  unfold Builtin.roundTo
  split
  · exact not_false
  dsimp only
  split
  · trivial
  · trivial

omit allows in
theorem startIn_settles (text : String) (start : Int64) :
    Settles (fun _ => True) (Builtin.startIn text start) := by
  unfold Builtin.startIn
  split
  · exact not_false
  · trivial

omit allows in
theorem strictPart_settles
    {text : String} (short : text.length ≤ bound) (start : Nat) (count : Int64) :
    Settles (·.IsWithin bound) (Builtin.strictPart text start count) := by
  unfold Builtin.strictPart
  split
  · exact not_false
  · exact (length_slice_le _ _ _).trans short

omit allows in
theorem charAtIndex_settles {text : String} (short : text.length ≤ bound) (index : Int64) :
    Settles (·.IsWithin bound) (Builtin.charAtIndex text index) := by
  unfold Builtin.charAtIndex
  split
  · exact (length_slice_le _ _ _).trans short
  · exact not_false

omit allows in
theorem choose_settles
    {condition whenTrue whenFalse : Value} (withinTrue : whenTrue.IsWithin bound)
    (withinFalse : whenFalse.IsWithin bound) :
    Settles (·.IsWithin bound) (Builtin.choose condition whenTrue whenFalse) := by
  unfold Builtin.choose
  split
  · split
    · next truth _ =>
      cases truth with
      | true => exact withinTrue
      | false => exact withinFalse
    · exact not_false
  · exact not_false

/-- What a function computes from values that are not too long. -/
theorem compute_settles
    (builtin : Builtin) {arguments : List Value}
    (within : ∀ argument ∈ arguments, argument.IsWithin bound) :
    Settles (·.IsWithin bound) (builtin.compute arguments) := by
  have shortText : ∀ argument ∈ arguments, argument.text.length ≤ bound :=
    fun argument member => (within argument member).length_text_le allows
  unfold Builtin.compute
  split
  · exact (toDouble_settles _).bind fun _ _ => trivial
  · exact (toDouble_settles _).bind fun _ _ => trivial
  · exact (toDouble_settles _).bind fun _ _ => (toDouble_settles _).bind fun _ _ => trivial
  · exact (toDouble_settles _).bind fun _ _ => (toDouble_settles _).bind fun _ _ => trivial
  · exact (toDouble_settles _).bind fun _ _ => (toDouble_settles _).bind fun _ _ => trivial
  · exact (toDouble_settles _).bind fun _ _ => trivial
  · exact (toDouble_settles _).bind fun _ _ =>
      (toInt_settles _).bind fun _ _ => roundTo_settles _ _
  · trivial
  · exact checkedString_settles allows _
  · exact checkedString_settles allows _
  · split
    · exact not_false
    · exact checkedString_settles allows _
  · next value start =>
    have short := shortText value List.mem_cons_self
    exact (toInt_settles _).bind fun _ _ => (startIn_settles _ _).bind fun _ _ =>
      (length_slice_le _ _ _).trans short
  · next value start count =>
    have short := shortText value List.mem_cons_self
    exact (toInt_settles _).bind fun _ _ => (startIn_settles _ _).bind fun _ _ =>
      (toInt_settles _).bind fun _ _ => strictPart_settles short _ _
  · next value count =>
    have short := shortText value List.mem_cons_self
    exact (toInt_settles _).bind fun _ _ => (length_slice_le _ _ _).trans short
  · next value count =>
    have short := shortText value List.mem_cons_self
    exact (toInt_settles _).bind fun _ _ => (length_slice_le _ _ _).trans short
  · next value start count =>
    have short := shortText value List.mem_cons_self
    exact (toInt_settles _).bind fun _ _ => (toInt_settles _).bind fun _ _ =>
      (length_slice_le _ _ _).trans short
  · next value => exact (length_trim_le _).trans (shortText value List.mem_cons_self)
  · next value => exact (length_trimStart_le _).trans (shortText value List.mem_cons_self)
  · next value => exact (length_trimEnd_le _).trans (shortText value List.mem_cons_self)
  · next value index =>
    have short := shortText value List.mem_cons_self
    exact (toInt_settles _).bind fun _ _ => charAtIndex_settles short _
  · next value => exact shortText value List.mem_cons_self
  · exact (toInt_settles _).map fun _ _ => trivial
  · exact (toDouble_settles _).map fun _ _ => trivial
  · exact (toBool_settles _).map fun _ _ => trivial
  · next condition whenTrue whenFalse =>
    exact choose_settles (within whenTrue (by simp)) (within whenFalse (by simp))
  · exact not_false

/-! ## Functions that reach the host -/

variable {σ : Type} {host : Host σ} {world : σ → Prop} (maintains : host.Maintains bound world)
  {state : σ} (holds : world state)

include maintains holds

omit allows in
theorem randomNumber_settles (arguments : List Value) :
    Settles (·.IsWithin bound) (Builtin.randomNumber host arguments state).1 ∧
      world (Builtin.randomNumber host arguments state).2 := by
  unfold Builtin.randomNumber
  split
  · exact ⟨trivial, maintains.randomUnit state holds⟩
  · next limit =>
    have converted := toInt_settles limit
    split
    · next error failed =>
      rw [failed] at converted
      exact ⟨converted, holds⟩
    · split
      · exact ⟨not_false, holds⟩
      · exact ⟨trivial, maintains.randomRange _ _ state holds⟩
  · next first second _ =>
    have firstConverted := toInt_settles first
    have secondConverted := toInt_settles second
    split
    · next error failed =>
      rw [failed] at firstConverted
      exact ⟨firstConverted, holds⟩
    · next error _ failed =>
      rw [failed] at secondConverted
      exact ⟨secondConverted, holds⟩
    · split
      · exact ⟨not_false, holds⟩
      · exact ⟨trivial, maintains.randomRange _ _ state holds⟩

/-- No function makes a string that exceeds the bound, and none prints one. -/
theorem perform_settles
    (builtin : Builtin) {arguments : List Value}
    (within : ∀ argument ∈ arguments, argument.IsWithin bound) :
    Settles (·.IsWithin bound) (builtin.perform host arguments state).1 ∧
      world (builtin.perform host arguments state).2 := by
  have reported {α : Type} (result : Except String α) :
      Settles (fun _ => True) (Builtin.ofHost result) :=
    (Yields.always result).mapError fun _ _ => not_false
  unfold Builtin.perform
  split
  · next value =>
    have short := (within value List.mem_cons_self).length_text_le allows
    exact ⟨(reported _).map fun _ _ => trivial, maintains.print _ state short holds⟩
  · exact ⟨(reported _).bind fun _ _ => checkedString_settles allows _,
      maintains.readLine state holds⟩
  · exact ⟨(reported _).map fun _ _ => trivial, maintains.clear state holds⟩
  · exact randomNumber_settles maintains holds _
  · exact ⟨compute_settles allows builtin within, holds⟩

/-- A call of a function that there is. -/
theorem invoke_settles
    {name : String} (known : Builtin.isName name = true) {arguments : List Value}
    (within : ∀ argument ∈ arguments, argument.IsWithin bound) :
    Settles (·.IsWithin bound) (Builtin.invoke host name arguments state).1 ∧
      world (Builtin.invoke host name arguments state).2 := by
  obtain ⟨builtin, found⟩ := Option.isSome_iff_exists.mp known
  unfold Builtin.invoke
  rw [found]
  dsimp only
  split
  · exact perform_settles allows maintains holds builtin within
  · exact ⟨not_false, holds⟩

end Results

end PugScript
