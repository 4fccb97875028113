import Mathlib.Data.List.DropRight
import PugScript.Builtin.Invoke
import PugScript.Proofs.Decimal.Digits
import PugScript.Proofs.Lexing.Grammar

/-!
# Whole numbers as texts

A text converts to a whole number exactly if it is, apart from blank characters at its ends, an
optional sign and decimal digits whose value is in the range of 64 bits. The text of a whole number
is of that form, at both ends of the range, too, and so it converts back.
-/

namespace PugScript

open PugScript.Decimal
open PugScript.Text

/-! ## Numerals -/

/-- Decimal digits, at least one. -/
structure AreDigits (digits : List Char) : Prop where
  ne_nil : digits ≠ []
  isDigit_of_mem : ∀ c ∈ digits, isDigit c = true

def placeValue (digits : List Char) : Nat :=
  Nat.ofDigits 10 (digits.reverse.map fun c => c.toNat - '0'.toNat)

/-- The characters write a whole number: digits, with or without a sign in front. -/
inductive Writes : List Char → Int → Prop
  | unsigned {digits : List Char} : AreDigits digits → Writes digits (placeValue digits)
  | plus {digits : List Char} : AreDigits digits → Writes ('+' :: digits) (placeValue digits)
  | minus {digits : List Char} : AreDigits digits → Writes ('-' :: digits) (-placeValue digits)

/-- Reading digits from left to right gives the number that they stand for by their places. -/
theorem digitsValue_eq_placeValue (digits : List Char) :
    digitsValue 0 digits = placeValue digits := by
  induction digits using List.reverseRecOn with
  | nil => rfl
  | append_singleton digits c inductionHypothesis =>
    have last : digitsValue 0 (digits ++ [c]) =
        10 * digitsValue 0 digits + (c.toNat - '0'.toNat) :=
      List.foldl_concat ..
    rw [last, inductionHypothesis, placeValue, placeValue, List.reverse_concat, List.map_cons,
      Nat.ofDigits_cons, Nat.add_comm]

theorem areDigits_iff (digits : List Char) :
    AreDigits digits ↔ ¬ (digits.isEmpty || !digits.all isDigit) = true := by
  rw [Bool.not_eq_true, Bool.or_eq_false_iff, List.isEmpty_eq_false_iff, Bool.not_eq_false',
    List.all_eq_true]
  exact ⟨fun are => ⟨are.1, are.2⟩, fun both => ⟨both.1, both.2⟩⟩

theorem AreDigits.takeSign_eq {digits : List Char} (areDigits : AreDigits digits) :
    takeSign digits = (false, digits) := by
  have notSign : ∀ c ∈ digits, c ≠ '-' ∧ c ≠ '+' := by
    intro c member
    have digit := areDigits.isDigit_of_mem c member
    constructor <;> rintro rfl <;> exact absurd digit (by decide)
  unfold takeSign
  split
  · exact absurd rfl (notSign _ List.mem_cons_self).1
  · exact absurd rfl (notSign _ List.mem_cons_self).2
  · rfl

theorem eq_of_takeSign_eq {characters digits : List Char} {negative : Bool}
    (signed : takeSign characters = (negative, digits)) :
    negative = true ∧ characters = '-' :: digits ∨
      negative = false ∧ (characters = '+' :: digits ∨ characters = digits) := by
  unfold takeSign at signed
  split at signed
  · cases signed
    exact .inl ⟨rfl, rfl⟩
  · cases signed
    exact .inr ⟨rfl, .inl rfl⟩
  · cases signed
    exact .inr ⟨rfl, .inr rfl⟩

theorem readInteger?_of_takeSign_eq {characters digits : List Char} {negative : Bool}
    (signed : takeSign characters = (negative, digits)) (number : Int) :
    readInteger? characters = some number ↔ AreDigits digits ∧
      (if negative = true then -(placeValue digits : Int) else placeValue digits) = number := by
  rw [readInteger?, signed, ← digitsValue_eq_placeValue, areDigits_iff]
  dsimp only
  split
  · next refused => simp [refused]
  · next accepted => simp [accepted]

/-- A number is read exactly from the characters that write it. -/
theorem readInteger?_eq_some_iff (characters : List Char) (number : Int) :
    readInteger? characters = some number ↔ Writes characters number := by
  constructor
  · intro reads
    rcases signed : takeSign characters with ⟨negative, digits⟩
    obtain ⟨areDigits, rfl⟩ := (readInteger?_of_takeSign_eq signed number).mp reads
    obtain ⟨rfl, rfl⟩ | ⟨rfl, rfl | rfl⟩ := eq_of_takeSign_eq signed
    · exact .minus areDigits
    · exact .plus areDigits
    · exact .unsigned areDigits
  · rintro (areDigits | areDigits | areDigits)
    · exact (readInteger?_of_takeSign_eq areDigits.takeSign_eq _).mpr ⟨areDigits, rfl⟩
    · exact (readInteger?_of_takeSign_eq rfl _).mpr ⟨areDigits, rfl⟩
    · exact (readInteger?_of_takeSign_eq rfl _).mpr ⟨areDigits, rfl⟩

/-- The text of a number writes it. -/
theorem writes_toString (number : Int) : Writes (toString number).toList number := by
  have areDigits : AreDigits (Nat.toDigits 10 number.natAbs) :=
    ⟨Nat.toDigits_ne_nil, fun _ => isDigit_of_mem_toDigits⟩
  have value : placeValue (Nat.toDigits 10 number.natAbs) = number.natAbs := by
    rw [← digitsValue_eq_placeValue, digitsValue_toDigits]
  rw [toList_toString_int]
  by_cases negative : number < 0
  · have written := Writes.minus areDigits
    rw [value, Int.ofNat_natAbs_of_nonpos (Int.le_of_lt negative), Int.neg_neg] at written
    rw [if_pos negative]
    exact written
  · have written := Writes.unsigned areDigits
    rw [value, Int.natAbs_of_nonneg (Int.not_lt.mp negative)] at written
    rw [if_neg negative]
    exact written

/-! ## Blank characters around a text -/

/-- The text is the core with nothing but blank characters around it. -/
def IsPadded (text : String) (core : List Char) : Prop :=
  ∃ before after : String, isAllBlank before = true ∧ isAllBlank after = true ∧
    text.toList = before.toList ++ core ++ after.toList

theorem toList_trim (text : String) :
    (trim text).toList = (text.toList.dropWhile isBlank).rdropWhile isBlank := by
  rw [trim, String.toList_ofList, List.rdropWhile]

theorem isPadded_trim (text : String) : IsPadded text (trim text).toList := by
  refine ⟨String.ofList (text.toList.takeWhile isBlank),
    String.ofList ((text.toList.dropWhile isBlank).rtakeWhile isBlank), ?_, ?_, ?_⟩
  · rw [isAllBlank, String.toList_ofList, List.all_eq_true]
    exact fun c member => List.mem_takeWhile_imp member
  · rw [isAllBlank, String.toList_ofList, List.all_eq_true]
    exact fun c member => List.mem_rtakeWhile_imp member
  · rw [String.toList_ofList, String.toList_ofList, toList_trim, List.append_assoc,
      List.rdropWhile_append_rtakeWhile, List.takeWhile_append_dropWhile]

theorem Writes.isBlank_eq_false {characters : List Char} {number : Int}
    (writes : Writes characters number) {c : Char} (member : c ∈ characters) :
    isBlank c = false := by
  have notBlank {digits : List Char} (areDigits : AreDigits digits) (digit : c ∈ digits) :
      isBlank c = false := by
    by_contra blank
    have noDigit := eq_false_of_isBlank isDigit (by decide +kernel) (Bool.not_eq_false _ ▸ blank)
    rw [areDigits.isDigit_of_mem c digit] at noDigit
    cases noDigit
  cases writes with
  | unsigned areDigits => exact notBlank areDigits member
  | plus areDigits =>
    obtain rfl | digit := List.mem_cons.mp member
    · decide
    · exact notBlank areDigits digit
  | minus areDigits =>
    obtain rfl | digit := List.mem_cons.mp member
    · decide
    · exact notBlank areDigits digit

theorem Writes.ne_nil {characters : List Char} {number : Int}
    (writes : Writes characters number) : characters ≠ [] := by
  cases writes with
  | unsigned areDigits => exact areDigits.ne_nil
  | plus => exact List.cons_ne_nil _ _
  | minus => exact List.cons_ne_nil _ _

theorem dropWhile_isBlank_append {blanks visible : List Char} (blank : blanks.all isBlank = true)
    (starts : ∀ c ∈ visible.head?, isBlank c = false) :
    (blanks ++ visible).dropWhile isBlank = visible := by
  rw [List.dropWhile_append_of_pos (List.all_eq_true.mp blank)]
  cases visible with
  | nil => rfl
  | cons first rest => exact List.dropWhile_cons_of_neg (by simp [starts first rfl])

/-- Trimming finds the core of a text that is padded. -/
theorem IsPadded.toList_trim_eq {text : String} {core : List Char} (padded : IsPadded text core)
    (ne_nil : core ≠ []) (visible : ∀ c ∈ core, isBlank c = false) :
    (trim text).toList = core := by
  obtain ⟨before, after, blankBefore, blankAfter, split⟩ := padded
  have starts : ∀ c ∈ (core ++ after.toList).head?, isBlank c = false := by
    intro c first
    rw [List.head?_append_of_ne_nil _ ne_nil] at first
    exact visible c (List.mem_of_head? first)
  have ends : ∀ c ∈ core.reverse.head?, isBlank c = false := fun c last =>
    visible c (List.mem_reverse.mp (List.mem_of_head? last))
  have blankBehind : after.toList.reverse.all isBlank = true := by
    rw [List.all_reverse]
    exact blankAfter
  rw [toList_trim, split, List.append_assoc, dropWhile_isBlank_append blankBefore starts,
    List.rdropWhile, List.reverse_append, dropWhile_isBlank_append blankBehind ends,
    List.reverse_reverse]

/-! ## Conversion -/

theorem isInt64_iff (number : Int) :
    isInt64 number = true ↔ ∃ word : Int64, word.toInt = number := by
  rw [isInt64, Bool.and_eq_true, decide_eq_true_eq, decide_eq_true_eq]
  constructor
  · rintro ⟨least, greatest⟩
    exact ⟨Int64.ofInt number, Int64.toInt_ofInt_of_le (by omega) (by omega)⟩
  · rintro ⟨word, rfl⟩
    have least := word.le_toInt
    have greatest := word.toInt_lt
    omega

/-- A text is read as a word exactly if it is read as the number of the word. -/
theorem readInt64?_eq_some_iff (text : String) (number : Int64) :
    readInt64? text = some number ↔ readInteger? text.toList = some number.toInt := by
  rw [readInt64?]
  cases reads : readInteger? text.toList with
  | none => simp
  | some whole =>
    dsimp only
    rw [Option.some_inj]
    constructor
    · intro found
      split at found
      · next inRange =>
        obtain ⟨word, rfl⟩ := (isInt64_iff whole).mp inRange
        rw [Int64.ofInt_toInt, Option.some_inj] at found
        rw [found]
      · cases found
    · rintro rfl
      rw [if_pos ((isInt64_iff _).mpr ⟨number, rfl⟩), Int64.ofInt_toInt]

example : readInt64? "9223372036854775808" = none := by
  decide

/-- The text is a numeral of the number with nothing but blank characters around it. -/
def StandsFor (text : String) (number : Int) : Prop :=
  ∃ numeral, IsPadded text numeral ∧ Writes numeral number

/-- A text stands for a number if what is left of it without blanks writes the number. -/
theorem standsFor_iff (text : String) (number : Int) :
    StandsFor text number ↔ Writes (trim text).toList number := by
  constructor
  · rintro ⟨numeral, padded, writes⟩
    rw [padded.toList_trim_eq writes.ne_nil fun c => writes.isBlank_eq_false]
    exact writes
  · exact fun writes => ⟨_, isPadded_trim text, writes⟩

theorem toInt_string (content : String) :
    (Value.string content).toInt =
      (readInt64? (trim content)).elim (.error (.conversionFailed content .int)) .ok := by
  unfold Value.toInt
  dsimp only [Value.text]
  cases readInt64? (trim content) with
  | none => rfl
  | some number => rfl

/-- A text converts exactly to the number that it stands for. -/
theorem toInt_string_eq_ok_iff (content : String) (number : Int64) :
    (Value.string content).toInt = .ok number ↔ StandsFor content number.toInt := by
  rw [standsFor_iff, ← readInteger?_eq_some_iff, ← readInt64?_eq_some_iff, toInt_string]
  cases readInt64? (trim content) with
  | none => simp
  | some found => simp

theorem toInt_string_eq_error_iff (content : String) (error : ValueError) :
    (Value.string content).toInt = .error error ↔
      error = .conversionFailed content .int ∧
        ∀ number : Int64, ¬ StandsFor content number.toInt := by
  simp only [standsFor_iff, ← readInteger?_eq_some_iff, ← readInt64?_eq_some_iff]
  rw [toInt_string]
  cases readInt64? (trim content) with
  | none => simp [eq_comm]
  | some found => simp

section

variable {σ : Type} (host : Host σ) (world : σ)

/-- How whole numbers and texts convert into each other, by themselves and by the functions that a
script calls. -/
structure ConvertsIntegers : Prop where
  padded_text : ∀ (number : Int64) (before after : String),
    isAllBlank before = true → isAllBlank after = true →
      (Value.string (before ++ (Value.int number).text ++ after)).toInt = .ok number
  there_and_back : ∀ number : Int64,
    Builtin.invoke host "to_str" [.int number] world =
        (.ok (.string (Value.int number).text), world) ∧
      Builtin.invoke host "to_int" [.string (Value.int number).text] world =
        (.ok (.int number), world)
  converts_iff : ∀ (content : String) (number : Int64),
    (Value.string content).toInt = .ok number ↔ StandsFor content number.toInt
  fails_otherwise : ∀ content : String, (∀ number : Int64, ¬ StandsFor content number.toInt) →
    (Value.string content).toInt = .error (.conversionFailed content .int)
  called : ∀ value : Value,
    Builtin.invoke host "to_int" [value] world = (value.toInt.map .int, world)

theorem standsFor_padded (number : Int64) {before after : String}
    (blankBefore : isAllBlank before = true) (blankAfter : isAllBlank after = true) :
    StandsFor (before ++ (Value.int number).text ++ after) number.toInt := by
  refine ⟨_, ⟨before, after, blankBefore, blankAfter, ?_⟩, writes_toString number.toInt⟩
  rw [String.toList_append, String.toList_append]
  rfl

/-- A text converts to a whole number exactly if it is a numeral of one in the range of 64 bits, up
to blank characters at its ends; in particular the text of a whole number converts back. -/
theorem integers_convert_exactly : ConvertsIntegers host world := by
  have padded (number : Int64) (before after : String) (blankBefore : isAllBlank before = true)
      (blankAfter : isAllBlank after = true) :
      (Value.string (before ++ (Value.int number).text ++ after)).toInt = .ok number :=
    (toInt_string_eq_ok_iff _ _).mpr (standsFor_padded number blankBefore blankAfter)
  refine ⟨padded, fun number => ⟨rfl, ?_⟩, toInt_string_eq_ok_iff, ?_, fun _ => rfl⟩
  · have back := padded number "" "" rfl rfl
    rw [String.empty_append, String.append_empty] at back
    change ((Value.string (Value.int number).text).toInt.map Value.int, world) = _
    rw [back]
    rfl
  · exact fun content none => (toInt_string_eq_error_iff content _).mpr ⟨rfl, none⟩

end

end PugScript
