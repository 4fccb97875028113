import PugScript.Proofs.Json.Reading
import PugScript.Value.Tagged

/-!
# Values survive their JSON form

A value is written as an object with the name of its type and its content. Reading this text gives
the value back, whatever the characters of a text and at both ends of the range of whole numbers.
A double that is no finite number is written with null as its content, which no double is read
from.
-/

namespace PugScript.Value

open PugScript.Json

theorem isScalar_of_content?
    {value : Value} {content : Json} (has : value.content? = some content) :
    isScalar content = true := by
  cases value with
  | none => cases has
  | int _ | double _ | bool _ | string _ =>
      obtain rfl := Option.some.inj has
      rfl

/-- A value is read as what its type and its content say together. -/
theorem ofJsonText?_of_content?
    {value : Value} {content document : Json} (has : value.content? = some content)
    (read : ReadFrom (scalarText content) document) :
    ofJsonText? value.toTagged.compact = ofContent? value.dataType.title document := by
  have tagged : value.toTagged =
      .object [("data_type", .string value.dataType.title), ("value", content)] := by
    simp only [toTagged, has]
  have scalars : ∀ field ∈ [("data_type", .string value.dataType.title), ("value", content)],
      isScalar field.2 = true := by
    intro field member
    simp only [List.mem_cons, List.not_mem_nil, or_false] at member
    rcases member with rfl | rfl
    · rfl
    · exact isScalar_of_content? has
  have fields : FieldsRead [("data_type", .string value.dataType.title), ("value", content)]
      [("data_type", .string value.dataType.title), ("value", document)] :=
    .cons (readFrom_string _) (.cons read .nil)
  rw [ofJsonText?, tagged, read?_compact_object scalars (by simp) fields]
  rfl

theorem ofJsonText?_none : ofJsonText? none.toTagged.compact = some none := by
  have fields : FieldsRead [("data_type", .string "None")] [("data_type", .string "None")] :=
    .cons (readFrom_string _) .nil
  have tagged : none.toTagged = .object [("data_type", .string "None")] := rfl
  rw [ofJsonText?, tagged, read?_compact_object (by simp [isScalar]) (by simp) fields]
  rfl

/-- A whole number is read back from its tagged text. -/
theorem ofJsonText?_int (number : Int64) :
    ofJsonText? (int number).toTagged.compact = some (int number) := by
  have lower : -(Decimal.twoTo 63 : Int) ≤ number.toInt := number.le_toInt
  have upper : number.toInt < Decimal.twoTo 63 := number.toInt_lt
  have inRange : Decimal.isInt64 number.toInt = true := by
    simp only [Decimal.isInt64, Bool.and_eq_true, decide_eq_true_eq]
    change -9223372036854775808 ≤ number.toInt at lower
    change number.toInt < 9223372036854775808 at upper
    omega
  rw [ofJsonText?_of_content? rfl (readFrom_integer lower upper)]
  change (if Decimal.isInt64 number.toInt then some (int (Int64.ofInt number.toInt)) else _) = _
  rw [if_pos inRange, Int64.ofInt_toInt]

/-- What is no finite number is written as null. -/
theorem scalarText_of_not_finite
    {number : Float} (notFinite : number.isNaN = true ∨ number.isInf = true) :
    scalarText (.double number) = "null" := by
  change Decimal.Layout.render numberLayout number = "null"
  rw [Decimal.Layout.render]
  by_cases notANumber : number.isNaN = true
  · rw [if_pos notANumber]
    rfl
  · rw [if_neg notANumber, if_pos (notFinite.resolve_left notANumber)]
    split <;> rfl

/-- The JSON text of a whole number, a truth value, a text or nothing is read as that value, and
the text of a double that is not a number or infinite is not read as any value. -/
theorem tagged_text_reads_back :
    (∀ value : Value, value.dataType ≠ .double →
      ofJsonText? value.toTagged.compact = some value) ∧
    ∀ number : Float, number.isNaN = true ∨ number.isInf = true →
      ofJsonText? (double number).toTagged.compact = Option.none := by
  refine ⟨?_, ?_⟩
  · intro value notDouble
    cases value with
    | int number => exact ofJsonText?_int number
    | double number => exact absurd rfl notDouble
    | bool truth => exact ofJsonText?_of_content? rfl (readFrom_bool truth)
    | string content => exact ofJsonText?_of_content? rfl (readFrom_string content)
    | none => exact ofJsonText?_none
  · intro number notFinite
    have readAsNull : ReadFrom (scalarText (.double number)) .null := by
      rw [scalarText_of_not_finite notFinite]
      exact readFrom_null
    exact ofJsonText?_of_content? rfl readAsNull

/-- A text with every kind of character that is not written as itself. -/
def awkwardText : String :=
  "a\"b\\c\n\r\t\x00\x08\x0c\x1f/é\x7d"

theorem awkwardText_reads_back :
    (string awkwardText).dataType ≠ .double ∧
    ofJsonText? (string awkwardText).toTagged.compact = some (string awkwardText) ∧
    (int (-9223372036854775808)).toTagged.compact =
      "\x7b\"data_type\":\"Int\",\"value\":-9223372036854775808\x7d" ∧
    ofJsonText? (int (-9223372036854775808)).toTagged.compact =
      some (int (-9223372036854775808)) ∧
    (-1.0 / 0.0 : Float).isInf = true ∧
    ofJsonText? (double (-1.0 / 0.0)).toTagged.compact = Option.none := by
  have infinite : (-1.0 / 0.0 : Float).isInf = true := by decide
  refine ⟨by decide, tagged_text_reads_back.1 _ (by decide), ?_,
    tagged_text_reads_back.1 _ (by decide), infinite,
    tagged_text_reads_back.2 _ (.inr infinite)⟩
  cbv

end PugScript.Value
