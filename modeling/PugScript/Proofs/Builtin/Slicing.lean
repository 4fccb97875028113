import PugScript.Builtin.Invoke
import PugScript.Host.Memory
import PugScript.Overflow

/-!
# Parts of texts

Five functions take a part of a text. Two of them refuse a part that does not lie in the text, the
others cut it down to what there is. Where a part lies in the text they agree, and those that cut
down are left by taking and dropping characters. None of them needs numbers beyond a machine word:
with sums, differences and ranges that are checked the same results come out.
-/

namespace PugScript.Slicing

open PugScript.Decimal (twoTo)
open PugScript.Text
open PugScript.Builtin (clampIndex leftPart rightPart midPart startIn strictPart charAtIndex invoke)

variable {text : String} {value : Value} {start count index : Int64}

/-! ## Parts as characters -/

/-- Cutting a number down is a minimum; a negative number counts as zero. -/
theorem clampIndex_eq (number : Int64) (limit : Nat) :
    clampIndex number limit = min number.toInt.toNat limit :=
  rfl

theorem leftPart_eq (text : String) (count : Int64) :
    leftPart text count = String.ofList (text.toList.take count.toInt.toNat) := by
  rw [leftPart, slice, clampIndex_eq, List.drop_zero, ← String.length_toList,
    ← List.take_eq_take_min]

theorem rightPart_eq (text : String) (count : Int64) :
    rightPart text count =
      String.ofList (text.toList.drop (text.length - count.toInt.toNat)) := by
  have whole : (text.toList.drop (text.length - count.toInt.toNat)).length ≤
      min count.toInt.toNat text.length := by
    rw [List.length_drop, String.length_toList]
    omega
  have front : text.length - min count.toInt.toNat text.length =
      text.length - count.toInt.toNat := by
    omega
  simp only [rightPart, slice, clampIndex_eq]
  rw [front, List.take_of_length_le whole]

theorem midPart_eq (text : String) (start count : Int64) :
    midPart text start count =
      String.ofList ((text.toList.drop start.toInt.toNat).take count.toInt.toNat) := by
  have front : text.toList.drop (min start.toInt.toNat text.length) =
      text.toList.drop start.toInt.toNat := by
    rw [← String.length_toList, ← List.drop_eq_drop_min]
  have room : text.length - min start.toInt.toNat text.length =
      (text.toList.drop start.toInt.toNat).length := by
    rw [List.length_drop, String.length_toList]
    omega
  simp only [midPart, slice, clampIndex_eq]
  rw [front, room, ← List.take_eq_take_min]

/-! ## Parts that are refused -/

theorem startIn_eq (text : String) (start : Int64) :
    startIn text start =
      if 0 ≤ start.toInt ∧ start.toInt ≤ text.length then .ok start.toInt.toNat
      else .error (.invalidArgument (.startOutside start.toInt text.length)) := by
  unfold startIn
  by_cases inside : 0 ≤ start.toInt ∧ start.toInt ≤ text.length
  · rw [if_pos inside, if_neg (by omega)]
  · rw [if_neg inside, if_pos (by omega)]

theorem strictPart_eq (text : String) (start : Nat) (count : Int64) :
    strictPart text start count =
      if 0 ≤ count.toInt ∧ start + count.toInt ≤ text.length then
        .ok (.string (slice text start count.toInt.toNat))
      else .error (.invalidArgument (.lengthExceeds count.toInt start text.length)) := by
  unfold strictPart
  by_cases inside : 0 ≤ count.toInt ∧ start + count.toInt ≤ text.length
  · rw [if_pos inside, if_neg (by omega)]
  · rw [if_neg inside, if_pos (by omega)]

/-! ## Parts in terms of each other -/

theorem slice_eq_midPart (text : String) (start count : Int64) :
    slice text start.toInt.toNat count.toInt.toNat = midPart text start count := by
  rw [midPart_eq, slice]

theorem slice_toEnd_eq_rightPart {rest : Int64}
    (inside : 0 ≤ start.toInt ∧ start.toInt ≤ text.length)
    (complement : rest.toInt = text.length - start.toInt) :
    slice text start.toInt.toNat (text.length - start.toInt.toNat) = rightPart text rest := by
  have front : text.length - rest.toInt.toNat = start.toInt.toNat := by omega
  have whole : (text.toList.drop start.toInt.toNat).length =
      text.length - start.toInt.toNat := by
    rw [List.length_drop, String.length_toList]
  rw [rightPart_eq, front, slice, List.take_of_length_le (Nat.le_of_eq whole)]

/-- A middle part is the beginning of an end part. -/
theorem midPart_eq_leftPart_rightPart {rest : Int64}
    (complement : rest.toInt = text.length - max start.toInt 0) (count : Int64) :
    midPart text start count = leftPart (rightPart text rest) count := by
  have front : text.length - rest.toInt.toNat = min start.toInt.toNat text.length := by omega
  rw [midPart_eq, leftPart_eq, rightPart_eq, String.toList_ofList, front, ← String.length_toList,
    ← List.drop_eq_drop_min]

/-- A beginning and the end that belongs to it make up the text, even if the number is out of
range. -/
theorem leftPart_append_rightPart {rest : Int64}
    (complement : rest.toInt = text.length - count.toInt) :
    leftPart text count ++ rightPart text rest = text := by
  have front : text.length - rest.toInt.toNat = min count.toInt.toNat text.length := by omega
  rw [leftPart_eq, rightPart_eq, front, ← String.length_toList, ← List.drop_eq_drop_min,
    ← String.ofList_append, List.take_append_drop, String.ofList_toList]

/-! ## Machine words -/

/-- The sum of two words; none if it does not fit in a word. -/
def sum? (first second : Nat) : Option Nat :=
  if first + second < twoTo 64 then some (first + second) else none

/-- The characters of a text from one index up to another; none if the indices are in the wrong
order or one of them is behind the text. -/
def range? (text : String) (first last : Nat) : Option String :=
  if first ≤ last ∧ last ≤ text.length then
    some (String.ofList (text.toList.extract first last))
  else none

/-- A signed word cut down to a number from zero to a limit; none if the limit is no signed word. -/
def clampWord? (number : Int64) (limit : Nat) : Option Nat :=
  let most := Int64.ofNat limit
  if most < 0 then none
  else if number < 0 then some 0
  else if most < number then some most.toUInt64.toNat
  else some number.toUInt64.toNat

/-- A number of characters from an index on, on machine words. -/
def strictPart? (text : String) (first : Nat) (count : Int64) :
    Option (Except ValueError Value) :=
  let refusal := Except.error (.invalidArgument (.lengthExceeds count.toInt first text.length))
  if count < 0 then some refusal
  else do
    let last ← sum? first count.toUInt64.toNat
    if text.length < last then return refusal
    let part ← range? text first last
    return .ok (.string part)

/-- What the slicing functions compute on machine words: signed words for the numbers of a call and
unsigned ones for lengths and indices. None if a sum, a difference or a range is not there. -/
def onWords? (builtin : Builtin) (text : String) (numbers : List Int64) :
    Option (Except ValueError Value) :=
  match builtin, numbers with
  | .left, [count] => do
    let last ← clampWord? count text.length
    let part ← range? text 0 last
    return .ok (.string part)
  | .right, [count] => do
    let kept ← clampWord? count text.length
    let first ← difference? text.length kept
    let part ← range? text first text.length
    return .ok (.string part)
  | .mid, [start, count] => do
    let first ← clampWord? start text.length
    let room ← difference? text.length first
    let kept ← clampWord? count room
    let last ← sum? first kept
    let part ← range? text first last
    return .ok (.string part)
  | .substr, [start] =>
    let first := start.toUInt64.toNat
    if start < 0 ∨ text.length < first then
      some (.error (.invalidArgument (.startOutside start.toInt text.length)))
    else do
      let part ← range? text first text.length
      return .ok (.string part)
  | .substr, [start, count] =>
    let first := start.toUInt64.toNat
    if start < 0 ∨ text.length < first then
      some (.error (.invalidArgument (.startOutside start.toInt text.length)))
    else strictPart? text first count
  | .charAt, [index] =>
    match (if index < 0 then none else text.toList[index.toUInt64.toNat]?) with
    | some c => some (.ok (.string (String.singleton c)))
    | none => some (.error (.invalidArgument (.indexOutside index.toInt text.length)))
  | _, _ => none

theorem twoTo_sixtyThree : twoTo 63 = 9223372036854775808 :=
  rfl

theorem twoTo_sixtyFour : twoTo 64 = 18446744073709551616 :=
  rfl

theorem sum?_eq {first second : Nat} (fits : first + second < twoTo 64) :
    sum? first second = some (first + second) :=
  if_pos fits

theorem toNat_toUInt64 {number : Int64} (positive : 0 ≤ number.toInt) :
    number.toUInt64.toNat = number.toInt.toNat := by
  have nonnegative : 0 ≤ number := Int64.le_iff_toInt_le.mpr positive
  rw [Int64.toNat_toUInt64_of_le nonnegative]
  rfl

theorem lt_zero_iff (number : Int64) : number < 0 ↔ number.toInt < 0 :=
  Int64.lt_iff_toInt_lt

theorem clampWord?_eq (number : Int64) {limit : Nat} (small : limit < twoTo 63) :
    clampWord? number limit = some (clampIndex number limit) := by
  have limitEq := Int64.toInt_ofNat_of_lt small
  simp only [clampWord?, Int64.lt_iff_toInt_lt, Int64.toInt_zero, limitEq, clampIndex_eq]
  rw [if_neg (by omega)]
  by_cases negative : number.toInt < 0
  · rw [if_pos negative]
    congr 1
    omega
  · rw [if_neg negative]
    by_cases beyond : (limit : Int) < number.toInt
    · rw [if_pos beyond, toNat_toUInt64 (by omega), limitEq]
      congr 1
      omega
    · rw [if_neg beyond, toNat_toUInt64 (by omega)]
      congr 1
      omega

/-- Inside the text a range of characters is a slice. -/
theorem range?_eq {first last : Nat} (ordered : first ≤ last) (inside : last ≤ text.length) :
    range? text first last = some (slice text first (last - first)) := by
  rw [range?, if_pos ⟨ordered, inside⟩, List.extract_eq_take_drop, slice]

theorem onWords?_left (small : text.length < twoTo 63) (count : Int64) :
    onWords? .left text [count] = some (.ok (.string (leftPart text count))) := by
  have inside : clampIndex count text.length ≤ text.length := Nat.min_le_right _ _
  simp [onWords?, clampWord?_eq count small, range?_eq (Nat.zero_le _) inside, leftPart]

theorem onWords?_right (small : text.length < twoTo 63) (count : Int64) :
    onWords? .right text [count] = some (.ok (.string (rightPart text count))) := by
  have inside : clampIndex count text.length ≤ text.length := Nat.min_le_right _ _
  have kept : text.length - (text.length - clampIndex count text.length) =
      clampIndex count text.length := by
    omega
  simp [onWords?, clampWord?_eq count small, difference?, inside,
    range?_eq (Nat.sub_le _ _) (Nat.le_refl text.length), kept, rightPart]

theorem onWords?_mid (small : text.length < twoTo 63) (start count : Int64) :
    onWords? .mid text [start, count] = some (.ok (.string (midPart text start count))) := by
  have inside : clampIndex start text.length ≤ text.length := Nat.min_le_right _ _
  have room : clampIndex count (text.length - clampIndex start text.length) ≤
      text.length - clampIndex start text.length :=
    Nat.min_le_right _ _
  have smallRoom : text.length - clampIndex start text.length < twoTo 63 := by omega
  have fits : clampIndex start text.length +
      clampIndex count (text.length - clampIndex start text.length) < twoTo 64 := by
    rw [twoTo_sixtyThree] at small
    rw [twoTo_sixtyFour]
    omega
  have behind : clampIndex start text.length +
      clampIndex count (text.length - clampIndex start text.length) ≤ text.length := by
    omega
  simp [onWords?, clampWord?_eq start small, difference?, inside, clampWord?_eq count smallRoom,
    sum?_eq fits, range?_eq (Nat.le_add_right _ _) behind, midPart]

/-- The test on the words of an index: as an unsigned word, a negative index is behind every
text. -/
theorem word_outside_iff (start : Int64) (length : Nat) :
    start < 0 ∨ length < start.toUInt64.toNat ↔ ¬(0 ≤ start.toInt ∧ start.toInt ≤ length) := by
  rw [lt_zero_iff]
  by_cases negative : start.toInt < 0
  · omega
  · rw [toNat_toUInt64 (by omega)]
    omega

/-- The refusal of an index on words is that on whole numbers, whatever is done with the index. -/
theorem startIn_bind_onWords
    {words : Nat → Option (Except ValueError Value)} {answer : Nat → Except ValueError Value}
    (agree : ∀ first, first ≤ text.length → words first = some (answer first)) (start : Int64) :
    (if start < 0 ∨ text.length < start.toUInt64.toNat then
      some (.error (.invalidArgument (.startOutside start.toInt text.length)))
    else words start.toUInt64.toNat) = some (startIn text start >>= answer) := by
  rw [startIn_eq]
  by_cases inside : 0 ≤ start.toInt ∧ start.toInt ≤ text.length
  · have accepted := mt (word_outside_iff start text.length).mp (not_not_intro inside)
    rw [if_neg accepted, if_pos inside, toNat_toUInt64 inside.1]
    exact agree _ (by omega)
  · have refused := (word_outside_iff start text.length).mpr inside
    rw [if_pos refused, if_neg inside]
    rfl

theorem onWords?_substr_toEnd (text : String) (start : Int64) :
    onWords? .substr text [start] =
      some (startIn text start >>= fun first =>
        .ok (.string (slice text first (text.length - first)))) := by
  have agree (first : Nat) (inside : first ≤ text.length) :
      (range? text first text.length >>= fun part =>
        some (.ok (.string part) : Except ValueError Value)) =
        some (.ok (.string (slice text first (text.length - first)))) := by
    rw [range?_eq inside (Nat.le_refl _)]
    rfl
  exact startIn_bind_onWords agree start

/-- No sum and no difference of words goes wrong in a text shorter than the signed words. -/
theorem strictPart?_eq (small : text.length < twoTo 63) {first : Nat}
    (ordered : first ≤ text.length) (count : Int64) :
    strictPart? text first count = some (strictPart text first count) := by
  rw [strictPart_eq, strictPart?]
  by_cases negative : count.toInt < 0
  · have outside : ¬(0 ≤ count.toInt ∧ first + count.toInt ≤ text.length) := by omega
    rw [if_pos ((lt_zero_iff count).mpr negative), if_neg outside]
  · have bound := Int64.toInt_lt count
    have fits : first + count.toInt.toNat < twoTo 64 := by
      rw [twoTo_sixtyThree] at small
      rw [twoTo_sixtyFour]
      omega
    rw [if_neg (mt (lt_zero_iff count).mp negative), toNat_toUInt64 (by omega), sum?_eq fits]
    by_cases behind : text.length < first + count.toInt.toNat
    · have outside : ¬(0 ≤ count.toInt ∧ first + count.toInt ≤ text.length) := by omega
      rw [if_neg outside, Option.bind_eq_bind, Option.bind_some, if_pos behind]
      rfl
    · have within : 0 ≤ count.toInt ∧ first + count.toInt ≤ text.length := by omega
      rw [if_pos within, Option.bind_eq_bind, Option.bind_some, if_neg behind,
        range?_eq (Nat.le_add_right _ _) (Nat.le_of_not_lt behind), Nat.add_sub_cancel_left]
      rfl

theorem onWords?_substr (small : text.length < twoTo 63) (start count : Int64) :
    onWords? .substr text [start, count] =
      some (startIn text start >>= fun first => strictPart text first count) := by
  have agree (first : Nat) (inside : first ≤ text.length) :
      strictPart? text first count = some (strictPart text first count) :=
    strictPart?_eq small inside count
  exact startIn_bind_onWords agree start

theorem onWords?_charAt (text : String) (index : Int64) :
    onWords? .charAt text [index] = some (charAtIndex text index) := by
  rw [onWords?, charAtIndex]
  by_cases negative : index.toInt < 0
  · have outside : ¬(0 ≤ index.toInt ∧ index.toInt < text.length) := by omega
    rw [if_pos ((lt_zero_iff index).mpr negative), if_neg outside]
  · rw [if_neg (mt (lt_zero_iff index).mp negative), toNat_toUInt64 (by omega)]
    by_cases behind : text.length ≤ index.toInt.toNat
    · have outside : ¬(0 ≤ index.toInt ∧ index.toInt < text.length) := by omega
      have absent : text.toList[index.toInt.toNat]? = none :=
        List.getElem?_eq_none (by rwa [String.length_toList])
      rw [absent, if_neg outside]
    · have inside : 0 ≤ index.toInt ∧ index.toInt < text.length := by omega
      have present : index.toInt.toNat < text.toList.length := by
        rw [String.length_toList]
        omega
      rw [List.getElem?_eq_getElem present, if_pos inside, slice,
        List.drop_eq_getElem_cons present]
      rfl

/-! ## Calls -/

section

variable {σ : Type} (host : Host σ) (world : σ)

/-- What a call of a function gives for a value and the numbers behind it. -/
def call (value : Value) (name : String) (numbers : List Int64) : Except ValueError Value :=
  (invoke host name (value :: numbers.map .int) world).1

theorem call_left (value : Value) (count : Int64) :
    call host world value "left" [count] = .ok (.string (leftPart value.text count)) :=
  rfl

theorem call_right (value : Value) (count : Int64) :
    call host world value "right" [count] = .ok (.string (rightPart value.text count)) :=
  rfl

theorem call_mid (value : Value) (start count : Int64) :
    call host world value "mid" [start, count] =
      .ok (.string (midPart value.text start count)) :=
  rfl

theorem call_substr_toEnd (value : Value) (start : Int64) :
    call host world value "substr" [start] =
      (startIn value.text start >>= fun first =>
        .ok (.string (slice value.text first (value.text.length - first)))) :=
  rfl

theorem call_substr (value : Value) (start count : Int64) :
    call host world value "substr" [start, count] =
      (startIn value.text start >>= fun first => strictPart value.text first count) :=
  rfl

theorem call_charAt (value : Value) (index : Int64) :
    call host world value "char_at" [index] = charAtIndex value.text index :=
  rfl

theorem call_substr_of_inside
    (inside : 0 ≤ start.toInt ∧ 0 ≤ count.toInt ∧ start.toInt + count.toInt ≤ value.text.length) :
    call host world value "substr" [start, count] = call host world value "mid" [start, count] := by
  have accepted : 0 ≤ start.toInt ∧ start.toInt ≤ value.text.length := by omega
  have within : 0 ≤ count.toInt ∧ start.toInt.toNat + count.toInt ≤ value.text.length := by omega
  rw [call_substr, call_mid, startIn_eq, if_pos accepted, ← slice_eq_midPart]
  change strictPart value.text start.toInt.toNat count = _
  rw [strictPart_eq, if_pos within]

/-- The strict function accepts exactly the parts that the text has. -/
theorem isOk_call_substr_iff :
    (call host world value "substr" [start, count]).isOk ↔
      0 ≤ start.toInt ∧ 0 ≤ count.toInt ∧ start.toInt + count.toInt ≤ value.text.length := by
  rw [call_substr, startIn_eq]
  by_cases accepted : 0 ≤ start.toInt ∧ start.toInt ≤ value.text.length
  · rw [if_pos accepted]
    change (strictPart value.text start.toInt.toNat count).isOk ↔ _
    rw [strictPart_eq]
    by_cases within : 0 ≤ count.toInt ∧ start.toInt.toNat + count.toInt ≤ value.text.length
    · rw [if_pos within]
      exact ⟨fun _ => by omega, fun _ => rfl⟩
    · rw [if_neg within]
      exact ⟨nofun, fun inside => absurd (by omega) within⟩
  · rw [if_neg accepted]
    exact ⟨nofun, fun inside => absurd (by omega) accepted⟩

theorem isOk_call_substr_toEnd_iff :
    (call host world value "substr" [start]).isOk ↔
      0 ≤ start.toInt ∧ start.toInt ≤ value.text.length := by
  rw [call_substr_toEnd, startIn_eq]
  by_cases inside : 0 ≤ start.toInt ∧ start.toInt ≤ value.text.length
  · rw [if_pos inside]
    exact ⟨fun _ => inside, fun _ => rfl⟩
  · rw [if_neg inside]
    exact ⟨nofun, fun accepted => absurd accepted inside⟩

theorem call_substr_toEnd_eq_right {rest : Int64}
    (inside : 0 ≤ start.toInt ∧ start.toInt ≤ value.text.length)
    (complement : rest.toInt = value.text.length - start.toInt) :
    call host world value "substr" [start] = call host world value "right" [rest] := by
  rw [call_substr_toEnd, call_right, startIn_eq, if_pos inside,
    ← slice_toEnd_eq_rightPart inside complement]
  rfl

theorem isOk_call_charAt_iff :
    (call host world value "char_at" [index]).isOk ↔
      0 ≤ index.toInt ∧ index.toInt < value.text.length := by
  rw [call_charAt, charAtIndex]
  by_cases inside : 0 ≤ index.toInt ∧ index.toInt < value.text.length
  · simp [inside, Except.isOk, Except.toBool]
  · simp [inside, Except.isOk, Except.toBool]

/-- Inside the text a character is a middle part of length one. -/
theorem call_charAt_eq_mid (inside : 0 ≤ index.toInt ∧ index.toInt < value.text.length) :
    call host world value "char_at" [index] = call host world value "mid" [index, 1] := by
  rw [call_charAt, call_mid, charAtIndex, if_pos inside, ← slice_eq_midPart]
  rfl

/-- The calls of the functions that take a part of a text, for one value. -/
structure SlicesAlike
    (call : Value → String → List Int64 → Except ValueError Value) (value : Value) : Prop where
  substr_succeeds_iff : ∀ start count,
    (call value "substr" [start, count]).isOk ↔
      0 ≤ start.toInt ∧ 0 ≤ count.toInt ∧ start.toInt + count.toInt ≤ value.text.length
  substr_eq_mid : ∀ start count, (call value "substr" [start, count]).isOk →
    call value "substr" [start, count] = call value "mid" [start, count]
  substr_toEnd_succeeds_iff : ∀ start,
    (call value "substr" [start]).isOk ↔ 0 ≤ start.toInt ∧ start.toInt ≤ value.text.length
  substr_toEnd_eq_right : ∀ start, (call value "substr" [start]).isOk →
    ∃ rest : Int64, rest.toInt = value.text.length - start.toInt ∧
      call value "substr" [start] = call value "right" [rest]
  charAt_succeeds_iff : ∀ index,
    (call value "char_at" [index]).isOk ↔ 0 ≤ index.toInt ∧ index.toInt < value.text.length
  charAt_eq_mid : ∀ index, (call value "char_at" [index]).isOk →
    call value "char_at" [index] = call value "mid" [index, 1]
  left_succeeds : ∀ count, ∃ part, call value "left" [count] = .ok (.string part)
  right_succeeds : ∀ count, ∃ part, call value "right" [count] = .ok (.string part)
  mid_succeeds : ∀ start count, ∃ part, call value "mid" [start, count] = .ok (.string part)
  mid_eq_left_of_right : ∀ start count, ∃ (rest : Int64) (part : String),
    rest.toInt = value.text.length - max start.toInt 0 ∧
    call value "right" [rest] = .ok (.string part) ∧
    call value "mid" [start, count] = call (.string part) "left" [count]
  left_append_right : ∀ count rest : Int64, rest.toInt = value.text.length - count.toInt →
    ∃ front back,
      call value "left" [count] = .ok (.string front) ∧
      call value "right" [rest] = .ok (.string back) ∧
      front ++ back = value.text
  /-- With sums, differences and ranges that are checked the calls give the same. -/
  in_words : ∀ builtin ∈ [Builtin.left, .right, .mid, .substr, .charAt], ∀ numbers,
    builtin.arity.accepts (numbers.length + 1) →
      onWords? builtin value.text numbers = some (call value builtin.name numbers)

/-- What is left of a length behind a number that is not negative is a signed word. -/
theorem exists_rest {length : Nat} (fits : length < twoTo 63) (number : Int64) :
    ∃ rest : Int64, rest.toInt = length - max number.toInt 0 := by
  have bound := Int64.toInt_lt number
  rw [twoTo_sixtyThree] at fits
  exact ⟨Int64.ofInt (length - max number.toInt 0),
    Int64.toInt_ofInt_of_le (by omega) (by omega)⟩

/-- A call with as many numbers as the function accepts gives what is computed on machine words. -/
theorem onWords?_eq_call (fits : value.text.length < twoTo 63) {builtin : Builtin}
    (slicing : builtin ∈ [Builtin.left, .right, .mid, .substr, .charAt]) {numbers : List Int64}
    (accepted : builtin.arity.accepts (numbers.length + 1)) :
    onWords? builtin value.text numbers =
      some (call host world value builtin.name numbers) := by
  simp only [List.mem_cons, List.not_mem_nil, or_false] at slicing
  obtain rfl | rfl | rfl | rfl | rfl := slicing
  · match numbers, accepted with
    | [count], _ => exact onWords?_left fits count
  · match numbers, accepted with
    | [count], _ => exact onWords?_right fits count
  · match numbers, accepted with
    | [start, count], _ => exact onWords?_mid fits start count
  · match numbers, accepted with
    | [start], _ => exact onWords?_substr_toEnd value.text start
    | [start, count], _ => exact onWords?_substr fits start count
  · match numbers, accepted with
    | [index], _ => exact onWords?_charAt value.text index

/-- Functions that refuse a part and functions that cut it down agree on the parts of a text, and
none of them leaves the text or the machine words. The length of a text in memory fits in a signed
word. -/
theorem slicing_functions_agree (value : Value) (fits : value.text.length < twoTo 63) :
    SlicesAlike (call host world) value where
  substr_succeeds_iff _ _ := isOk_call_substr_iff host world
  substr_eq_mid _ _ succeeds :=
    call_substr_of_inside host world ((isOk_call_substr_iff host world).mp succeeds)
  substr_toEnd_succeeds_iff _ := isOk_call_substr_toEnd_iff host world
  substr_toEnd_eq_right start succeeds := by
    have inside := (isOk_call_substr_toEnd_iff host world).mp succeeds
    have ⟨rest, complement⟩ := exists_rest fits start
    rw [Int.max_eq_left inside.1] at complement
    exact ⟨rest, complement, call_substr_toEnd_eq_right host world inside complement⟩
  charAt_succeeds_iff _ := isOk_call_charAt_iff host world
  charAt_eq_mid _ succeeds :=
    call_charAt_eq_mid host world ((isOk_call_charAt_iff host world).mp succeeds)
  left_succeeds count := ⟨_, call_left host world value count⟩
  right_succeeds count := ⟨_, call_right host world value count⟩
  mid_succeeds start count := ⟨_, call_mid host world value start count⟩
  mid_eq_left_of_right start count := by
    have ⟨rest, complement⟩ := exists_rest fits start
    refine ⟨rest, _, complement, call_right host world value rest, ?_⟩
    rw [call_mid, call_left, midPart_eq_leftPart_rightPart complement]
    rfl
  left_append_right count rest complement :=
    ⟨_, _, call_left host world value count, call_right host world value rest,
      leftPart_append_rightPart complement⟩
  in_words _ slicing _ accepted := onWords?_eq_call host world fits slicing accepted

end

/-- A value whose text has letters of one, two and three bytes. -/
def accented : Value :=
  .string "zä€"

theorem slicing_functions_agree_on_accented :
    accented.text.length < twoTo 63 ∧
    SlicesAlike (call seededHost (.seeded 0)) accented ∧
    call seededHost (.seeded 0) accented "substr" [1, 2] = .ok (.string "ä€") ∧
    onWords? .mid accented.text [Int64.minValue, Int64.maxValue] = some (.ok accented) := by
  have fits : accented.text.length < twoTo 63 := by decide
  have alike := slicing_functions_agree seededHost (.seeded 0) accented fits
  have inside : (call seededHost (.seeded 0) accented "substr" [1, 2]).isOk := by
    rw [alike.substr_succeeds_iff]
    decide
  have part : midPart accented.text 1 2 = "ä€" := by cbv
  have whole : Value.string (midPart accented.text Int64.minValue Int64.maxValue) = accented := by
    cbv
  refine ⟨fits, alike, ?_, ?_⟩
  · rw [alike.substr_eq_mid 1 2 inside, call_mid, part]
  · have inWords := alike.in_words .mid (by decide) [Int64.minValue, Int64.maxValue] (by decide)
    rw [inWords, ← whole]
    exact congrArg some (call_mid seededHost (.seeded 0) accented Int64.minValue Int64.maxValue)

end PugScript.Slicing
