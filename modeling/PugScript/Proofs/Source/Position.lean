import Mathlib.Data.List.DropRight
import Mathlib.Data.List.Induction
import PugScript.Proofs.Source.Search
import PugScript.Source

/-!
# Positions agree with walking and lead back to their characters

A source in two parts has its line starts in two parts as well: those of the lines that the front
begins, and those behind it. The last of the former is where the lookup of the border between the
parts ends, so that it finds the line and column that walking along the front reaches; and the line
it finds is what the front has begun of it, followed by the rest of the line.

Each character is counted in the line or in the column. A source of fewer than `2 ^ 32` characters
therefore has one place at most whose line or column is no word: its end, if it has one character
less than that and all of them are line ends, or none.
-/

namespace PugScript

/-- The place reached by walking along characters from the start of a source. -/
def walk? (overflow : Overflow) (characters : List Char) : Option Position :=
  characters.foldlM (Position.advance? overflow) Position.start

/-- The characters are one line, which ends in a column that is no word. -/
def IsOneLongLine (characters : List Char) : Prop :=
  characters.length + 1 = UInt32.size ∧ '\n' ∉ characters

/-- The characters are line ends, the last of which is in front of a line that is no word. -/
def IsManyLineEnds (characters : List Char) : Prop :=
  characters.length + 1 = UInt32.size ∧ ∀ c ∈ characters, c = '\n'

instance (characters : List Char) : Decidable (IsOneLongLine characters) :=
  inferInstanceAs (Decidable (_ ∧ _))

instance (characters : List Char) : Decidable (IsManyLineEnds characters) :=
  inferInstanceAs (Decidable (_ ∧ _))

/-- The characters up to the end of the line. -/
def restOfLine (characters : List Char) : List Char :=
  characters.takeWhile (· ≠ '\n')

/-- The character at the offset is a line end or one of the carriage returns that end its line: up
to the end of the line there is nothing else. -/
def EndsLine (characters : List Char) (offset : Nat) : Prop :=
  ∀ c ∈ restOfLine (characters.drop offset), c = '\r'

instance (characters : List Char) (offset : Nat) : Decidable (EndsLine characters offset) :=
  inferInstanceAs (Decidable (∀ c ∈ restOfLine (characters.drop offset), c = '\r'))

theorem restOfLine_cons_of_ne {c : Char} (notLineEnd : c ≠ '\n') (rest : List Char) :
    restOfLine (c :: rest) = c :: restOfLine rest := by
  simp [restOfLine, notLineEnd]

namespace SourceMap

/-- The offset of the line that the characters end in. -/
def lastStart (characters : List Char) : Nat :=
  (startsAfter 0 characters).getLastD 0

/-- The characters of the line that the characters end in. -/
def begunLine (characters : List Char) : List Char :=
  characters.drop (lastStart characters)

/-- The number of the line that the characters end in. -/
def lineBehind (characters : List Char) : Nat :=
  characters.count '\n' + 1

/-- The column behind the characters. -/
def columnBehind (characters : List Char) : Nat :=
  (begunLine characters).length + 1

/-- The place behind the characters, its line and column reduced to words. -/
def placeBehind (characters : List Char) : Position :=
  ⟨characters.length, .ofNat (lineBehind characters), .ofNat (columnBehind characters)⟩

/-! ## Line starts -/

theorem startsAfter_append (offset : Nat) (front rest : List Char) :
    startsAfter offset (front ++ rest) =
      startsAfter offset front ++ startsAfter (offset + front.length) rest := by
  induction front generalizing offset with
  | nil => simp [startsAfter]
  | cons c front inductionHypothesis =>
      have further : offset + (c :: front).length = offset + 1 + front.length := by
        rw [List.length_cons, Nat.add_assoc, Nat.add_comm 1]
      rw [further, List.cons_append]
      by_cases isLineEnd : c = '\n'
      · simp [startsAfter, isLineEnd, inductionHypothesis]
      · simp [startsAfter, isLineEnd, inductionHypothesis]

theorem bounds_of_mem_startsAfter {offset start : Nat} {characters : List Char}
    (member : start ∈ startsAfter offset characters) :
    offset < start ∧ start ≤ offset + characters.length := by
  induction characters generalizing offset with
  | nil => simp [startsAfter] at member
  | cons c rest inductionHypothesis =>
      rw [List.length_cons]
      by_cases isLineEnd : c = '\n'
      · simp only [startsAfter, isLineEnd, if_true, List.mem_cons] at member
        rcases member with rfl | member
        · omega
        · have bounds := inductionHypothesis member
          omega
      · simp only [startsAfter, isLineEnd, if_false] at member
        have bounds := inductionHypothesis member
        omega

theorem pairwise_startsAfter (offset : Nat) (characters : List Char) :
    (startsAfter offset characters).Pairwise (· < ·) := by
  induction characters generalizing offset with
  | nil => exact .nil
  | cons c rest inductionHypothesis =>
      by_cases isLineEnd : c = '\n'
      · simp only [startsAfter, isLineEnd, if_true, List.pairwise_cons]
        exact ⟨fun _ member => (bounds_of_mem_startsAfter member).1, inductionHypothesis _⟩
      · simp only [startsAfter, isLineEnd, if_false]
        exact inductionHypothesis _

theorem ascending_lineStarts (source : String) :
    TablePlace.Ascending (ofSource source).lineStarts := by
  refine List.pairwise_cons.mpr ⟨?_, pairwise_startsAfter 0 source.toList⟩
  intro start member
  exact (bounds_of_mem_startsAfter member).1

theorem startsAfter_concat (characters : List Char) (c : Char) :
    startsAfter 0 (characters ++ [c]) =
      startsAfter 0 characters ++ if c = '\n' then [characters.length + 1] else [] := by
  by_cases isLineEnd : c = '\n'
  · simp [startsAfter_append, startsAfter, isLineEnd]
  · simp [startsAfter_append, startsAfter, isLineEnd]

theorem lastStart_concat (characters : List Char) (c : Char) :
    lastStart (characters ++ [c]) =
      if c = '\n' then characters.length + 1 else lastStart characters := by
  by_cases isLineEnd : c = '\n'
  · simp [lastStart, startsAfter_concat, isLineEnd]
  · simp [lastStart, startsAfter_concat, isLineEnd]

theorem lastStart_le (characters : List Char) : lastStart characters ≤ characters.length := by
  induction characters using List.reverseRecOn with
  | nil => exact Nat.le_refl 0
  | append_singleton characters c inductionHypothesis =>
      rw [lastStart_concat, List.length_append, List.length_singleton]
      split
      · exact Nat.le_refl _
      · omega

theorem length_begunLine (characters : List Char) :
    (begunLine characters).length = characters.length - lastStart characters :=
  List.length_drop

theorem newline_notMem_begunLine (characters : List Char) : '\n' ∉ begunLine characters := by
  induction characters using List.reverseRecOn with
  | nil => simp [begunLine]
  | append_singleton characters c inductionHypothesis =>
      by_cases isLineEnd : c = '\n'
      · simp [begunLine, lastStart_concat, isLineEnd]
      · rw [begunLine, lastStart_concat, if_neg isLineEnd,
          List.drop_append_of_le_length (lastStart_le characters)]
        simpa [begunLine, Ne.symm isLineEnd] using inductionHypothesis

theorem length_startsAfter (offset : Nat) (characters : List Char) :
    (startsAfter offset characters).length = characters.count '\n' := by
  induction characters generalizing offset with
  | nil => rfl
  | cons c rest inductionHypothesis =>
      by_cases isLineEnd : c = '\n'
      · simp [startsAfter, isLineEnd, inductionHypothesis]
      · simp [startsAfter, isLineEnd, inductionHypothesis]

/-- The next line start stands one character behind the end of the line. -/
theorem next_startsAfter (offset : Nat) (characters : List Char) :
    ((startsAfter offset characters)[0]?.map (· - 1)).getD (offset + characters.length) =
      offset + (restOfLine characters).length := by
  induction characters generalizing offset with
  | nil => rfl
  | cons c rest inductionHypothesis =>
      by_cases isLineEnd : c = '\n'
      · simp [startsAfter, restOfLine, isLineEnd]
      · have further := inductionHypothesis (offset + 1)
        rw [startsAfter, if_neg isLineEnd, restOfLine_cons_of_ne isLineEnd, List.length_cons,
          List.length_cons, Nat.add_comm rest.length, ← Nat.add_assoc, further]
        omega

/-! ## Walking -/

theorem lineBehind_concat (characters : List Char) (c : Char) :
    lineBehind (characters ++ [c]) =
      if c = '\n' then lineBehind characters + 1 else lineBehind characters := by
  by_cases isLineEnd : c = '\n'
  · simp [lineBehind, isLineEnd]
  · simp [lineBehind, isLineEnd]

theorem columnBehind_concat (characters : List Char) (c : Char) :
    columnBehind (characters ++ [c]) =
      if c = '\n' then 1 else columnBehind characters + 1 := by
  have reached := lastStart_le characters
  simp only [columnBehind, length_begunLine, lastStart_concat, List.length_append,
    List.length_singleton]
  by_cases isLineEnd : c = '\n'
  · simp [isLineEnd]
  · simp only [isLineEnd, if_false]
    omega

/-- Each character is counted in the line or in the column. -/
theorem lineBehind_add_columnBehind_le (characters : List Char) :
    lineBehind characters + columnBehind characters ≤ characters.length + 2 := by
  induction characters using List.reverseRecOn with
  | nil => exact Nat.le_refl 2
  | append_singleton characters c inductionHypothesis =>
      have fromOne : 1 ≤ columnBehind characters := Nat.le_add_left ..
      rw [lineBehind_concat, columnBehind_concat, List.length_append, List.length_singleton]
      split <;> omega

/-- A line number that is no word has every character in front of it as a line end. -/
theorem lineBehind_lt_iff {characters : List Char} (fits : characters.length < UInt32.size) :
    lineBehind characters < UInt32.size ↔ ¬ IsManyLineEnds characters := by
  have most : characters.count '\n' ≤ characters.length := List.count_le_length
  have all : characters.count '\n' = characters.length ↔ ∀ c ∈ characters, c = '\n' := by
    simp [List.count_eq_length, eq_comm]
  rw [IsManyLineEnds, ← all, lineBehind]
  omega

theorem lastStart_eq_zero_iff (characters : List Char) :
    lastStart characters = 0 ↔ '\n' ∉ characters := by
  induction characters using List.reverseRecOn with
  | nil => simp [lastStart, startsAfter]
  | append_singleton characters c inductionHypothesis =>
      by_cases isLineEnd : c = '\n'
      · simp [lastStart_concat, isLineEnd]
      · simp [lastStart_concat, isLineEnd, Ne.symm isLineEnd, inductionHypothesis]

/-- A column that is no word has every character in front of it on its line. -/
theorem columnBehind_lt_iff {characters : List Char} (fits : characters.length < UInt32.size) :
    columnBehind characters < UInt32.size ↔ ¬ IsOneLongLine characters := by
  have reached := lastStart_le characters
  rw [IsOneLongLine, ← lastStart_eq_zero_iff, columnBehind, length_begunLine]
  omega

theorem walk?_concat (overflow : Overflow) (characters : List Char) (c : Char) :
    walk? overflow (characters ++ [c]) =
      (walk? overflow characters).bind (Position.advance? overflow · c) := by
  simp [walk?]

/-- With numbers that wrap, walking along any characters leads to the place behind them. -/
theorem walk?_wraps (characters : List Char) :
    walk? .wraps characters = some (placeBehind characters) := by
  induction characters using List.reverseRecOn with
  | nil => rfl
  | append_singleton characters c inductionHypothesis =>
      rw [walk?_concat, inductionHypothesis, Option.bind_some]
      by_cases isLineEnd : c = '\n'
      · simp [Position.advance?, placeBehind, lineBehind_concat, columnBehind_concat,
          Overflow.successor?, isLineEnd, UInt32.ofNat_add]
      · simp [Position.advance?, placeBehind, lineBehind_concat, columnBehind_concat,
          Overflow.successor?, isLineEnd, UInt32.ofNat_add]

theorem successor?_ends_ofNat {number : Nat} (fits : number < UInt32.size) :
    Overflow.ends.successor? (.ofNat number) =
      if number + 1 < UInt32.size then some (.ofNat (number + 1)) else none := by
  rw [Overflow.successor?, UInt32.toNat_ofNat_of_lt' fits, UInt32.ofNat_add]
  rfl

/-- With checked numbers a step leads to the place behind one more character, as long as its line
and its column are words. -/
theorem advance?_ends_placeBehind {characters : List Char} (c : Char)
    (lineFits : lineBehind characters < UInt32.size)
    (columnFits : columnBehind characters < UInt32.size) :
    (placeBehind characters).advance? .ends c =
      if lineBehind (characters ++ [c]) < UInt32.size ∧
          columnBehind (characters ++ [c]) < UInt32.size then
        some (placeBehind (characters ++ [c]))
      else none := by
  by_cases isLineEnd : c = '\n'
  · have columnIsOne : (1 : Nat) < UInt32.size := by decide
    simp only [Position.advance?, placeBehind, isLineEnd, if_true, lineBehind_concat,
      columnBehind_concat, successor?_ends_ofNat lineFits, columnIsOne, and_true]
    by_cases next : lineBehind characters + 1 < UInt32.size
    · simp only [next, if_true, bind, pure, Option.bind_some, List.length_append,
        List.length_singleton]
      rfl
    · simp only [next, if_false, bind, Option.bind_none]
  · simp only [Position.advance?, placeBehind, isLineEnd, if_false, lineBehind_concat,
      columnBehind_concat, successor?_ends_ofNat columnFits, lineFits, true_and]
    by_cases next : columnBehind characters + 1 < UInt32.size
    · simp only [next, if_true, bind, pure, Option.bind_some, List.length_append,
        List.length_singleton]
    · simp only [next, if_false, bind, Option.bind_none]

/-- With overflow checks a walk ends where a line or column is no word. -/
theorem walk?_ends {characters : List Char} (fits : characters.length < UInt32.size) :
    walk? .ends characters =
      if lineBehind characters < UInt32.size ∧ columnBehind characters < UInt32.size then
        some (placeBehind characters)
      else none := by
  induction characters using List.reverseRecOn with
  | nil => rfl
  | append_singleton characters c inductionHypothesis =>
      rw [List.length_append, List.length_singleton] at fits
      have bound := lineBehind_add_columnBehind_le characters
      have lineFromOne : 1 ≤ lineBehind characters := Nat.le_add_left ..
      have columnFromOne : 1 ≤ columnBehind characters := Nat.le_add_left ..
      have lineFits : lineBehind characters < UInt32.size := by omega
      have columnFits : columnBehind characters < UInt32.size := by omega
      rw [walk?_concat, inductionHypothesis (by omega), if_pos ⟨lineFits, columnFits⟩]
      exact advance?_ends_placeBehind c lineFits columnFits

/-! ## Lookups at the border of two parts -/

section Border

variable {source : String} {front rest : List Char} (split : source.toList = front ++ rest)

include split

theorem length_ofSource : (ofSource source).length = front.length + rest.length := by
  rw [← List.length_append, ← split]
  rfl

theorem getElem?_lineStarts (index : Nat) :
    (ofSource source).lineStarts[index]? =
      (0 :: startsAfter 0 front ++ startsAfter front.length rest)[index]? := by
  simp [ofSource, split, startsAfter_append]

theorem getElem?_lineStarts_last :
    (ofSource source).lineStarts[front.count '\n']? = some (lastStart front) := by
  rw [← length_startsAfter 0, getElem?_lineStarts split, List.getElem?_append_left (by simp)]
  have last : (0 :: startsAfter 0 front).getLast? = _ := List.getLast?_eq_getElem?
  rw [List.length_cons, Nat.add_sub_cancel] at last
  rw [← last, List.getLast?_cons, lastStart, List.getLastD_eq_getLast?]

theorem getElem?_lineStarts_behind (distance : Nat) :
    (ofSource source).lineStarts[front.count '\n' + 1 + distance]? =
      (startsAfter front.length rest)[distance]? := by
  rw [← length_startsAfter 0, getElem?_lineStarts split, List.getElem?_append_right (by simp)]
  simp

/-- The search finds the line by counting the line ends in front. -/
theorem lineIndex?_of_split :
    (ofSource source).lineIndex? front.length = some (front.count '\n') := by
  have start : (ofSource source).lineStarts[0]? = some 0 := rfl
  obtain ⟨index, entry, isEntry, notGreater, beyond, place⟩ :=
    TablePlace.find_cases (ascending_lineStarts source) start (Nat.zero_le front.length)
  have isLast : index = front.count '\n' := by
    rcases Nat.lt_trichotomy index (front.count '\n') with before | same | behind
    · have passed := beyond _ _ before (getElem?_lineStarts_last split)
      have reached := lastStart_le front
      omega
    · exact same
    · obtain ⟨distance, rfl⟩ := Nat.exists_eq_add_of_le behind
      rw [Nat.succ_eq_add_one, getElem?_lineStarts_behind split] at isEntry
      have later := (bounds_of_mem_startsAfter (List.mem_of_getElem? isEntry)).1
      omega
  rcases place with found | missing
  · simp [lineIndex?, found, isLast]
  · simp [lineIndex?, missing, isLast]

/-- The lookup finds the place behind the characters in front of the offset. -/
theorem positionAt?_of_split :
    (ofSource source).positionAt? front.length = some (placeBehind front) := by
  have reached : min front.length (ofSource source).length = front.length := by
    rw [length_ofSource split]
    omega
  simp [positionAt?, reached, lineIndex?_of_split split, getElem?_lineStarts_last split,
    difference?, lastStart_le, placeBehind, lineBehind, columnBehind, length_begunLine]

/-- A line is made of what is begun in front of the place and what follows up to the line end,
without the carriage returns at its end. -/
theorem getLine?_of_split (fits : lineBehind front < UInt32.size) :
    (ofSource source).getLine? (placeBehind front).line =
      some (String.ofList (dropReturns (begunLine front ++ restOfLine rest))) := by
  have start := getElem?_lineStarts_last split
  have next := getElem?_lineStarts_behind split 0
  have stop := next_startsAfter front.length rest
  have reached := lastStart_le front
  have characters : (ofSource source).characters = front ++ rest := split
  rw [Nat.add_zero] at next
  rw [← length_ofSource split, ← next] at stop
  have taken : ((front ++ rest).drop (lastStart front)).take
      (front.length + (restOfLine rest).length - lastStart front) =
        begunLine front ++ restOfLine rest := by
    have isPrefix : restOfLine rest = rest.take (restOfLine rest).length :=
      List.prefix_iff_eq_take.mp (List.takeWhile_prefix _)
    have count : front.length + (restOfLine rest).length - lastStart front =
        (begunLine front).length + (restOfLine rest).length := by
      rw [length_begunLine]
      omega
    rw [count, List.drop_append_of_le_length reached, ← begunLine, List.take_length_add_append,
      ← isPrefix]
  have number : (placeBehind front).line.toNat = front.count '\n' + 1 :=
    UInt32.toNat_ofNat_of_lt' fits
  have positive : (placeBehind front).line ≠ 0 := by
    rw [← UInt32.toNat_inj.ne, number]
    exact Nat.succ_ne_zero _
  simp only [getLine?, number, Nat.add_sub_cancel, start, characters, positive, if_false]
  cases following : (ofSource source).lineStarts[front.count '\n' + 1]? with
  | none =>
      simp only [following, Option.map_none, Option.getD_none] at stop
      rw [← taken, ← stop]
  | some nextStart =>
      simp only [following, Option.map_some, Option.getD_some] at stop
      rw [← taken, ← stop]

end Border

/-! ## Positions of offsets -/

theorem positionAt?_eq_placeBehind (source : String) (offset : Nat) :
    (ofSource source).positionAt? offset = some (placeBehind (source.toList.take offset)) := by
  have split : source.toList = source.toList.take offset ++ source.toList.drop offset :=
    (List.take_append_drop offset source.toList).symm
  have clamped : (ofSource source).positionAt? offset =
      (ofSource source).positionAt? (source.toList.take offset).length := by
    have size : (ofSource source).length = source.toList.length := rfl
    simp [positionAt?, size]
  rw [clamped]
  exact positionAt?_of_split split

theorem positionAt_eq_placeBehind (source : String) (offset : Nat) :
    (ofSource source).positionAt offset = placeBehind (source.toList.take offset) := by
  rw [positionAt, positionAt?_eq_placeBehind, Option.getD_some]

/-- Also the column that is no word stands one behind the characters of its line. -/
theorem toNat_column_sub_one {characters : List Char} (fits : characters.length < UInt32.size) :
    ((placeBehind characters).column - 1).toNat = (begunLine characters).length := by
  have shorter : (begunLine characters).length < UInt32.size := by
    rw [length_begunLine]
    omega
  rw [placeBehind, columnBehind, UInt32.ofNat_add]
  exact (congrArg UInt32.toNat (UInt32.add_sub_cancel ..)).trans (UInt32.toNat_ofNat_of_lt' shorter)

/-! ## Lines without their carriage returns -/

theorem dropReturns_eq_nil_iff (characters : List Char) :
    dropReturns characters = [] ↔ ∀ c ∈ characters, c = '\r' := by
  simp [dropReturns]

theorem dropReturns_isPrefix (characters : List Char) : dropReturns characters <+: characters :=
  List.rdropWhile_prefix (· = '\r') characters

theorem dropReturns_append (front rest : List Char) :
    dropReturns (front ++ rest) =
      if dropReturns rest = [] then dropReturns front else front ++ dropReturns rest := by
  by_cases onlyReturns : dropReturns rest = []
  · have dropped : rest.reverse.dropWhile (· = '\r') = [] := List.reverse_eq_nil_iff.mp onlyReturns
    simp [dropReturns, List.dropWhile_append, dropped]
  · have kept : rest.reverse.dropWhile (· = '\r') ≠ [] := mt List.reverse_eq_nil_iff.mpr onlyReturns
    simp [dropReturns, List.dropWhile_append, kept]

/-- The line of a character that does not end it has the character at its column. -/
theorem getElem?_line {front rest : List Char}
    (inside : ¬ ∀ c ∈ restOfLine rest, c = '\r') :
    (dropReturns (begunLine front ++ restOfLine rest))[(begunLine front).length]? = rest[0]? := by
  have kept : dropReturns (restOfLine rest) ≠ [] := mt (dropReturns_eq_nil_iff _).mp inside
  have isPrefix : dropReturns (restOfLine rest) <+: rest :=
    (dropReturns_isPrefix _).trans (List.takeWhile_prefix _)
  rw [dropReturns_append, if_neg kept, List.getElem?_append_right (Nat.le_refl _), Nat.sub_self]
  have nonempty := List.length_pos_of_ne_nil kept
  rw [List.getElem?_eq_getElem nonempty, List.prefix_iff_getElem?.mp isPrefix 0 nonempty]

/-- Lookups agree with walking, never leave the table of line starts, and lead back: the character
of an offset stands in the line at the column, unless it is cut off with the end of the line. With
overflow checks the walk, but not the lookup, ends at a line or column that is no word. -/
theorem lookup_agrees_with_walking (source : String) (fits : source.length < UInt32.size)
    (offset : Nat) :
    let map := ofSource source
    let passed := source.toList.take offset
    walk? .wraps passed = some (map.positionAt offset) ∧
    (walk? .ends passed =
      if IsOneLongLine passed ∨ IsManyLineEnds passed then none
      else some (map.positionAt offset)) ∧
    map.positionAt? offset = some (map.positionAt offset) ∧
    (∃ index start,
      map.lineIndex? (min offset source.length) = some index ∧
      map.lineStarts[index]? = some start ∧
      start ≤ min offset source.length) ∧
    (offset < source.length → ¬ EndsLine source.toList offset →
      ∃ line,
        map.getLine? (map.positionAt offset).line = some line ∧
        line.toList[((map.positionAt offset).column - 1).toNat]? = source.toList[offset]?) := by
  have split : source.toList = source.toList.take offset ++ source.toList.drop offset :=
    (List.take_append_drop offset source.toList).symm
  have size : (source.toList.take offset).length = min offset source.length := by
    rw [List.length_take, String.length_toList]
  have passedFits : (source.toList.take offset).length < UInt32.size := by
    omega
  have counts := lineBehind_add_columnBehind_le (source.toList.take offset)
  have columnFromOne : 1 ≤ columnBehind (source.toList.take offset) := Nat.le_add_left ..
  simp only [positionAt_eq_placeBehind]
  refine ⟨walk?_wraps _, ?_, positionAt?_eq_placeBehind source offset, ?_, ?_⟩
  · rw [walk?_ends passedFits]
    simp only [lineBehind_lt_iff passedFits, columnBehind_lt_iff passedFits, ← not_or, ite_not,
      or_comm]
  · rw [← size]
    exact ⟨_, _, lineIndex?_of_split split, getElem?_lineStarts_last split, lastStart_le _⟩
  · intro inRange inside
    refine ⟨_, getLine?_of_split split (by omega), ?_⟩
    rw [toNat_column_sub_one passedFits, String.toList_ofList, getElem?_line inside,
      List.getElem?_drop, Nat.add_zero]

/-- The character behind a line end leads back to the second line. -/
theorem second_line_leads_back :
    ∃ line,
      (ofSource "ab\nc").getLine? ((ofSource "ab\nc").positionAt 3).line = some line ∧
      line.toList[(((ofSource "ab\nc").positionAt 3).column - 1).toNat]? = some 'c' :=
  (lookup_agrees_with_walking "ab\nc" (by decide) 3).2.2.2.2 (by decide)
    (by simp [EndsLine, restOfLine])

end SourceMap

end PugScript
