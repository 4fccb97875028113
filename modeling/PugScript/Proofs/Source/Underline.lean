import PugScript.Proofs.Decimal.Digits
import PugScript.Proofs.Source.Position

/-!
# What is underlined

A span starts in a line of which the front of the source has begun a part. On one line it is
underlined in full; a span that goes on to another line is underlined up to the end of its first
line, without the carriage returns there. Only if it starts behind one of these is there nothing
left that could be underlined.
-/

namespace PugScript

open PugScript.Decimal
open PugScript.Text

namespace SourceMap

/-! ## Lines and columns behind more characters -/

theorem lineBehind_append (front more : List Char) :
    lineBehind (front ++ more) = lineBehind front + more.count '\n' := by
  rw [lineBehind, lineBehind, List.count_append]
  omega

theorem columnBehind_append (front : List Char) {more : List Char} (oneLine : '\n' ∉ more) :
    columnBehind (front ++ more) = columnBehind front + more.length := by
  induction more using List.reverseRecOn with
  | nil => simp
  | append_singleton more c inductionHypothesis =>
      have isOther : c ≠ '\n' := by
        rintro rfl
        simp at oneLine
      have further := inductionHypothesis (fun member => oneLine (by simp [member]))
      rw [← List.append_assoc, columnBehind_concat, if_neg isOther, further]
      simp [Nat.add_assoc]

theorem columnBehind_le (characters : List Char) :
    columnBehind characters ≤ characters.length + 1 := by
  rw [columnBehind, length_begunLine]
  omega

/-! ## Lines and what ends them -/

/-- Dropping the carriage returns at the end leaves as many characters as it takes to have only
carriage returns behind them. -/
theorem length_dropReturns_le_iff (characters : List Char) (count : Nat) :
    (dropReturns characters).length ≤ count ↔ ∀ c ∈ characters.drop count, c = '\r' := by
  rw [← dropReturns_eq_nil_iff]
  have whole := dropReturns_append (characters.take count) (characters.drop count)
  rw [List.take_append_drop] at whole
  by_cases onlyReturns : dropReturns (characters.drop count) = []
  · rw [if_pos onlyReturns] at whole
    have shorter := (dropReturns_isPrefix (characters.take count)).length_le
    simp only [onlyReturns, iff_true]
    rw [whole]
    exact shorter.trans (List.length_take_le ..)
  · have kept : characters.drop count ≠ [] := by
      rintro empty
      simp [empty, dropReturns] at onlyReturns
    have inside : count < characters.length := by
      simpa using kept
    rw [if_neg onlyReturns] at whole
    have positive := List.length_pos_of_ne_nil onlyReturns
    simp only [onlyReturns, iff_false, whole, List.length_append, List.length_take]
    omega

theorem restOfLine_drop {characters : List Char} {count : Nat}
    (inside : count ≤ (restOfLine characters).length) :
    restOfLine (characters.drop count) = (restOfLine characters).drop count := by
  induction characters generalizing count with
  | nil => simp [restOfLine]
  | cons c rest inductionHypothesis =>
      cases count with
      | zero => rfl
      | succ count =>
          by_cases isLineEnd : c = '\n'
          · simp [restOfLine, isLineEnd] at inside
          · rw [restOfLine_cons_of_ne isLineEnd] at inside ⊢
            rw [List.drop_succ_cons, List.drop_succ_cons]
            exact inductionHypothesis (Nat.le_of_succ_le_succ inside)

theorem newline_notMem_restOfLine (characters : List Char) : '\n' ∉ restOfLine characters := by
  intro member
  simpa using List.mem_takeWhile_imp member

theorem newline_notMem_take_iff {characters : List Char} (hasNext : '\n' ∈ characters)
    (count : Nat) :
    '\n' ∉ characters.take count ↔ count ≤ (restOfLine characters).length := by
  induction characters generalizing count with
  | nil => simp at hasNext
  | cons c rest inductionHypothesis =>
      cases count with
      | zero => simp
      | succ count =>
          by_cases isLineEnd : c = '\n'
          · simp [restOfLine, isLineEnd]
          · have inRest : '\n' ∈ rest := by
              simpa [Ne.symm isLineEnd] using hasNext
            have further := inductionHypothesis inRest count
            simpa [restOfLine_cons_of_ne isLineEnd, Ne.symm isLineEnd] using further

/-! ## The characters of a span -/

/-- The number of the line that an offset is on. -/
def lineAt (characters : List Char) (offset : Nat) : Nat :=
  lineBehind (characters.take offset)

/-- The offsets of the characters of a span that are on its first line and do not end that line. -/
def firstLineOffsets (characters : List Char) (span : Span) : List Nat :=
  (List.range' span.start.offset span.length).filter fun offset =>
    lineAt characters offset = lineAt characters span.start.offset ∧ ¬ EndsLine characters offset

/-- How many characters of a span are to be underlined. -/
def underlined (characters : List Char) (span : Span) : Nat :=
  if lineAt characters span.start.offset = lineAt characters span.stop.offset then span.length
  else (firstLineOffsets characters span).length

/-- A span lies between the places in front of its characters and behind them. -/
theorem spanAt_eq (source : String) (offset count : Nat) :
    (ofSource source).spanAt offset count =
      ⟨placeBehind (source.toList.take offset),
        placeBehind (source.toList.take offset ++ (source.toList.drop offset).take count)⟩ := by
  rw [spanAt, positionAt_eq_placeBehind, positionAt_eq_placeBehind, List.take_add]

theorem filter_range'_of_forall_iff
    {test : Nat → Bool} {start size kept : Nat} (inside : kept ≤ size)
    (tested : ∀ distance < size, test (start + distance) = true ↔ distance < kept) :
    (List.range' start size).filter test = List.range' start kept := by
  obtain ⟨others, rfl⟩ := Nat.exists_eq_add_of_le inside
  have first : (List.range' start kept).filter test = List.range' start kept := by
    apply List.filter_eq_self.mpr
    intro offset member
    obtain ⟨distance, near, rfl⟩ := List.mem_range'.mp member
    rw [Nat.one_mul]
    exact (tested distance (by omega)).mpr near
  have second : (List.range' (start + 1 * kept) others).filter test = [] := by
    apply List.filter_eq_nil_iff.mpr
    intro offset member
    obtain ⟨distance, near, rfl⟩ := List.mem_range'.mp member
    have far := tested (kept + distance) (by omega)
    rw [Nat.one_mul, Nat.one_mul, Nat.add_assoc, far]
    omega
  rw [← List.range'_append, List.filter_append, first, second, List.append_nil]

/-- An offset is on the line that the front has begun and does not end it if it is one of the first
offsets behind the front, in front of the carriage returns that end the line. -/
theorem isFirstLineOffset_iff (front : List Char) {rest : List Char} (hasNext : '\n' ∈ rest)
    (distance : Nat) :
    (lineAt (front ++ rest) (front.length + distance) = lineAt (front ++ rest) front.length ∧
      ¬ EndsLine (front ++ rest) (front.length + distance)) ↔
        distance < (dropReturns (restOfLine rest)).length := by
  have shorter := (dropReturns_isPrefix (restOfLine rest)).length_le
  have sameLine : lineAt (front ++ rest) (front.length + distance) =
      lineAt (front ++ rest) front.length ↔ distance ≤ (restOfLine rest).length := by
    rw [lineAt, lineAt, List.take_left, List.take_length_add_append, lineBehind_append,
      ← newline_notMem_take_iff hasNext, ← List.count_eq_zero]
    omega
  rw [sameLine]
  by_cases onLine : distance ≤ (restOfLine rest).length
  · have ends : EndsLine (front ++ rest) (front.length + distance) ↔
        (dropReturns (restOfLine rest)).length ≤ distance := by
      rw [length_dropReturns_le_iff, ← restOfLine_drop onLine, EndsLine,
        List.drop_length_add_append]
    rw [ends]
    omega
  · omega

section Span

variable (front rest : List Char) (count : Nat)

/-- The span of a number of characters behind the front. -/
def spanBehind : Span :=
  ⟨placeBehind front, placeBehind (front ++ rest.take count)⟩

theorem length_spanBehind : (spanBehind front rest count).length = (rest.take count).length := by
  simp [Span.length, spanBehind, placeBehind]

theorem lineAt_start :
    lineAt (front ++ rest) (spanBehind front rest count).start.offset = lineBehind front :=
  congrArg lineBehind List.take_left

theorem lineAt_stop :
    lineAt (front ++ rest) (spanBehind front rest count).stop.offset =
      lineBehind front + (rest.take count).count '\n' := by
  rw [← lineBehind_append]
  simp only [lineAt, spanBehind, placeBehind, List.length_append, List.length_take,
    List.take_length_add_append, ← List.take_eq_take_min]

/-- A span goes on to another line exactly if it holds a line end. -/
theorem lineAt_start_lt_iff :
    lineAt (front ++ rest) (spanBehind front rest count).start.offset <
        lineAt (front ++ rest) (spanBehind front rest count).stop.offset ↔
      '\n' ∈ rest.take count := by
  rw [lineAt_start, lineAt_stop, ← List.count_pos_iff]
  omega

/-- The characters of a span on its first line are those in front of the carriage returns that end
it. -/
theorem firstLineOffsets_eq (further : '\n' ∈ rest.take count) :
    firstLineOffsets (front ++ rest) (spanBehind front rest count) =
      List.range' front.length (dropReturns (restOfLine rest)).length := by
  have hasNext : '\n' ∈ rest := List.mem_of_mem_take further
  have passed : (restOfLine rest).length < count := by
    rw [← Nat.not_le, ← newline_notMem_take_iff hasNext]
    exact not_not_intro further
  have shorter := (dropReturns_isPrefix (restOfLine rest)).length_le
  have inRest : (restOfLine rest).length ≤ rest.length := (List.takeWhile_prefix _).length_le
  rw [firstLineOffsets, length_spanBehind]
  apply filter_range'_of_forall_iff
  · rw [List.length_take]
    omega
  · intro distance _
    rw [decide_eq_true_iff]
    exact isFirstLineOffset_iff front hasNext distance

/-- The line of a position is shorter than what the front has begun of it only if the front ends
behind a carriage return that ends the line. -/
theorem exists_return_of_length_lt
    (short : (dropReturns (begunLine front ++ restOfLine rest)).length < (begunLine front).length) :
    ∃ before,
      front.length = before + 1 ∧
      (front ++ rest)[before]? = some '\r' ∧
      EndsLine (front ++ rest) before := by
  rcases List.eq_nil_or_concat (begunLine front) with empty | ⟨initial, last, begun⟩
  · simp [empty] at short
  · rw [List.concat_eq_append] at begun
    rw [begun, List.length_append, List.length_singleton, Nat.lt_succ_iff,
      length_dropReturns_le_iff, List.append_assoc, List.drop_left] at short
    have isReturn : last = '\r' := short last (by simp)
    obtain ⟨earlier, frontEq⟩ : ∃ earlier, front = earlier ++ [last] := by
      refine ⟨front.take (lastStart front) ++ initial, ?_⟩
      rw [List.append_assoc, ← begun, begunLine, List.take_append_drop]
    rw [frontEq, List.append_assoc, List.singleton_append]
    refine ⟨earlier.length, by simp, by simp [isReturn], ?_⟩
    rw [EndsLine, List.drop_left, restOfLine_cons_of_ne (by simp [isReturn])]
    simpa using short

/-- Where a span goes on to another line, what is left of its first line is what the span has of it
in front of the carriage returns. -/
theorem length_line_sub
    (long : (begunLine front).length ≤
      (dropReturns (begunLine front ++ restOfLine rest)).length) :
    (dropReturns (begunLine front ++ restOfLine rest)).length - (begunLine front).length =
      (dropReturns (restOfLine rest)).length := by
  rw [dropReturns_append] at long ⊢
  by_cases onlyReturns : dropReturns (restOfLine rest) = []
  · have shorter := (dropReturns_isPrefix (begunLine front)).length_le
    rw [if_pos onlyReturns] at long ⊢
    rw [onlyReturns, List.length_nil]
    omega
  · rw [if_neg onlyReturns, List.length_append, Nat.add_sub_cancel_left]

/-- The words of its lines tell whether a span holds a line end. -/
theorem start_line_eq_iff (fits : (front ++ rest).length < UInt32.size) :
    (spanBehind front rest count).start.line = (spanBehind front rest count).stop.line ↔
      '\n' ∉ rest.take count := by
  have most : (rest.take count).count '\n' ≤ rest.length :=
    List.count_le_length.trans (List.length_take_le' ..)
  rw [List.length_append, UInt32.size] at fits
  rw [← List.count_eq_zero]
  simp only [spanBehind, placeBehind, lineBehind_append, ← UInt32.toNat_inj,
    UInt32.toNat_ofNat']
  omega

/-- Only a place with nothing behind it has a column that is no word. -/
theorem column_start_of_newline (fits : (front ++ rest).length < UInt32.size)
    (further : '\n' ∈ rest.take count) :
    (spanBehind front rest count).start.column.toNat = (begunLine front).length + 1 := by
  have nonempty : 0 < rest.length := List.length_pos_of_mem (List.mem_of_mem_take further)
  have column : columnBehind front ≤ front.length + 1 := columnBehind_le front
  rw [List.length_append] at fits
  exact UInt32.toNat_ofNat_of_lt' (show columnBehind front < UInt32.size by omega)

/-- A difference of words is that of the numbers, if the greater one is a word or the numbers
wrap. -/
theorem difference?_ofNat {overflow : Overflow} {number distance : Nat}
    (fits : overflow = .wraps ∨ number + distance < UInt32.size) :
    overflow.difference? (.ofNat (number + distance)) (.ofNat number) = some (.ofNat distance) := by
  have exact : UInt32.ofNat (number + distance) - .ofNat number = .ofNat distance := by
    rw [UInt32.ofNat_add, UInt32.add_comm, UInt32.add_sub_cancel]
  cases overflow with
  | wraps => exact congrArg some exact
  | ends =>
      have sumFits : number + distance < UInt32.size := fits.resolve_left nofun
      have ordered : UInt32.ofNat number ≤ .ofNat (number + distance) := by
        rw [UInt32.le_iff_toNat_le, UInt32.toNat_ofNat_of_lt' sumFits,
          UInt32.toNat_ofNat_of_lt' (Nat.lt_of_le_of_lt (Nat.le_add_right ..) sumFits)]
        exact Nat.le_add_right ..
      rw [Overflow.difference?, if_pos ordered, exact]

/-- A difference of columns on one line is exact even if the second of them is no word, unless the
program ends there. -/
theorem difference?_columns {overflow : Overflow} (oneLine : '\n' ∉ rest.take count)
    (fits : (front ++ rest).length < UInt32.size)
    (isWord : overflow = .wraps ∨ columnBehind (front ++ rest.take count) < UInt32.size) :
    (overflow.difference? (spanBehind front rest count).stop.column
      (spanBehind front rest count).start.column).map UInt32.toNat =
        some (rest.take count).length := by
  have shorter : (rest.take count).length ≤ rest.length := List.length_take_le' ..
  rw [List.length_append] at fits
  rw [columnBehind_append front oneLine] at isWord
  simp only [spanBehind, placeBehind, columnBehind_append front oneLine]
  rw [difference?_ofNat isWord, Option.map_some,
    UInt32.toNat_ofNat_of_lt' (show _ < UInt32.size by omega)]

/-- With overflow checks the program ends at a span of one line that ends in a column that is no
word. -/
theorem difference?_long_column (oneLine : '\n' ∉ rest.take count)
    (isNoWord : columnBehind (front ++ rest.take count) = UInt32.size) :
    Overflow.ends.difference? (spanBehind front rest count).stop.column
        (spanBehind front rest count).start.column = none ∨
      Overflow.ends.difference? (spanBehind front rest count).start.column 1 = none := by
  have fromOne : 1 ≤ columnBehind front := Nat.le_add_left ..
  have columns := columnBehind_append front oneLine
  rw [isNoWord] at columns
  simp only [spanBehind, placeBehind, isNoWord, UInt32.size, Overflow.difference?,
    UInt32.le_iff_toNat_le, UInt32.toNat_ofNat']
  rw [UInt32.size] at columns
  by_cases empty : (rest.take count).length = 0
  · right
    rw [if_neg (by simp; omega)]
  · left
    rw [if_neg (by omega)]

theorem difference?_one {overflow : Overflow} (fits : (front ++ rest).length < UInt32.size)
    (isWord : overflow = .wraps ∨ columnBehind (front ++ rest.take count) < UInt32.size) :
    overflow.difference? (spanBehind front rest count).start.column 1 =
      some ((spanBehind front rest count).start.column - 1) := by
  have fromOne : 1 ≤ columnBehind front := Nat.le_add_left ..
  cases overflow with
  | wraps => rfl
  | ends =>
      have column : (spanBehind front rest count).start.column.toNat = columnBehind front := by
        by_cases further : '\n' ∈ rest.take count
        · exact column_start_of_newline front rest count fits further
        · have columns := columnBehind_append front further
          have reached := isWord.resolve_left nofun
          exact UInt32.toNat_ofNat_of_lt' (show columnBehind front < UInt32.size by omega)
      exact if_pos (UInt32.le_iff_toNat_le.mpr (column ▸ fromOne))

/-- The underlining covers the characters of the span on its first line, up to the carriage returns;
it has no length if the span starts behind these and goes on. -/
theorem underlineLength?_eq {overflow : Overflow} (fits : (front ++ rest).length < UInt32.size)
    (isWord : overflow = .wraps ∨ columnBehind (front ++ rest.take count) < UInt32.size) :
    underlineLength? overflow (spanBehind front rest count)
        (String.ofList (dropReturns (begunLine front ++ restOfLine rest))) =
      if '\n' ∈ rest.take count ∧
          (dropReturns (begunLine front ++ restOfLine rest)).length < (begunLine front).length
      then none
      else some (underlined (front ++ rest) (spanBehind front rest count)) := by
  have sameLine := start_line_eq_iff front rest count fits
  have laterLine := lineAt_start_lt_iff front rest count
  by_cases further : '\n' ∈ rest.take count
  · have other : lineAt (front ++ rest) (spanBehind front rest count).start.offset ≠
        lineAt (front ++ rest) (spanBehind front rest count).stop.offset :=
      Nat.ne_of_lt (laterLine.mpr further)
    simp only [underlineLength?, underlined, sameLine, further, not_true, if_false, true_and,
      column_start_of_newline front rest count fits further, String.length_ofList, difference?,
      if_neg other, firstLineOffsets_eq front rest count further, List.length_range']
    by_cases short :
        (dropReturns (begunLine front ++ restOfLine rest)).length < (begunLine front).length
    · rw [if_pos short, if_neg (by omega)]
    · have long := Nat.le_of_not_lt short
      rw [if_neg short, if_pos (by omega), Nat.add_sub_add_right,
        length_line_sub front rest long]
  · have same : lineAt (front ++ rest) (spanBehind front rest count).start.offset =
        lineAt (front ++ rest) (spanBehind front rest count).stop.offset := by
      rw [lineAt_start, lineAt_stop, List.count_eq_zero.mpr further, Nat.add_zero]
    simp only [underlineLength?, underlined, sameLine, further, not_false_iff, if_true, false_and,
      if_false, same, difference?_columns front rest count further fits isWord, length_spanBehind]

end Span

/-! ## The two lines of the message -/

def quotedLine (span : Span) (line : String) : List Char :=
  (toString span.start.line).toList ++ " | ".toList ++ line.toList

/-- Marks that start at the column of a span, behind a margin as wide as the number of its line. -/
def markedLine (span : Span) (marks : Nat) : List Char :=
  List.replicate (toString span.start.line).length ' ' ++ " | ".toList ++
    List.replicate (span.start.column - 1).toNat ' ' ++ List.replicate marks '^'

/-- The last two lines of a text are the given ones. -/
def EndsWithLines (text : String) (first second : List Char) : Prop :=
  '\n' ∉ first ∧ '\n' ∉ second ∧
    ∃ front, text.toList = front ++ '\n' :: first ++ '\n' :: second ++ ['\n']

theorem toList_pushn (text : String) (c : Char) (count : Nat) :
    (text.pushn c count).toList = text.toList ++ List.replicate count c := by
  induction count with
  | zero => simp [String.pushn, Nat.repeat]
  | succ count inductionHypothesis =>
      have step : text.pushn c (count + 1) = (text.pushn c count).push c := rfl
      rw [step, String.toList_push, inductionHypothesis, List.append_assoc,
        ← List.replicate_succ']

theorem newline_notMem_toString (number : Nat) : '\n' ∉ (toString number).toList := by
  rw [toList_toString]
  intro member
  have digit := isDigit_of_mem_toDigits member
  exact absurd digit (by decide)

theorem newline_notMem_dropReturns (front rest : List Char) :
    '\n' ∉ dropReturns (begunLine front ++ restOfLine rest) := by
  intro member
  rcases List.mem_append.mp ((dropReturns_isPrefix _).mem member) with begun | following
  · exact newline_notMem_begunLine front begun
  · exact newline_notMem_restOfLine rest following

theorem newline_notMem_quotedLine {span : Span} {line : String} (oneLine : '\n' ∉ line.toList) :
    '\n' ∉ quotedLine span line := by
  have numbered := newline_notMem_toString span.start.line.toNat
  simp only [quotedLine, List.mem_append, not_or]
  exact ⟨⟨numbered, by decide⟩, oneLine⟩

theorem newline_notMem_markedLine (span : Span) (marks : Nat) :
    '\n' ∉ markedLine span marks := by
  simp [markedLine]

section Message

variable {overflow : Overflow} {map : SourceMap} {span : Span} {line : String}

/-- If something can be underlined, the message ends with the line and the underline. -/
theorem exists_formatError?_eq {count : Nat}
    (lineEq : map.getLine? span.start.line = some line) (oneLine : '\n' ∉ line.toList)
    (countEq : underlineLength? overflow span line = some count)
    (indentation : overflow.difference? span.start.column 1 = some (span.start.column - 1))
    (message : String) :
    ∃ output,
      map.formatError? overflow span message = some output ∧
      EndsWithLines output (quotedLine span line) (markedLine span (max count 1)) := by
  simp only [formatError?, lineEq, countEq, indentation, Option.bind_eq_bind, Option.bind_some]
  refine ⟨_, rfl, newline_notMem_quotedLine oneLine, newline_notMem_markedLine _ _,
    (heading span message ++ "".pushn ' ' (toString span.start.line).length ++ " |").toList, ?_⟩
  simp [quotedLine, markedLine, toList_pushn]

theorem formatError?_eq_none
    (lineEq : map.getLine? span.start.line = some line)
    (ends : underlineLength? overflow span line = none ∨
      overflow.difference? span.start.column 1 = none)
    (message : String) :
    map.formatError? overflow span message = none := by
  rcases ends with ends | ends
  · simp [formatError?, lineEq, ends]
  · simp [formatError?, lineEq, ends]

end Message

/-- What becomes of a message about a span whose first line is given. -/
structure IsUnderlined (overflow : Overflow) (source : String) (span : Span)
    (line message : String) : Prop where
  line_eq : (ofSource source).getLine? span.start.line = some line
  /-- The only length that can become negative is that of the underline. -/
  fails_iff : (ofSource source).formatError? overflow span message = none ↔
    lineAt source.toList span.start.offset < lineAt source.toList span.stop.offset ∧
      line.length + 1 < span.start.column.toNat
  /-- It becomes negative only behind a carriage return that ends its line. -/
  behind_return : (ofSource source).formatError? overflow span message = none →
    ∃ before,
      span.start.offset = before + 1 ∧
      source.toList[before]? = some '\r' ∧
      EndsLine source.toList before
  ends : ∀ output, (ofSource source).formatError? overflow span message = some output →
    EndsWithLines output (quotedLine span line)
      (markedLine span (max 1 (underlined source.toList span)))

section Message

variable {overflow : Overflow} {source : String} {front rest : List Char} (count : Nat)

/-- Behind so many line ends that the number of the line is no word, the message stands alone. -/
theorem formatError?_of_many_line_ends (isNoWord : lineBehind front = UInt32.size)
    (message : String) :
    (ofSource source).formatError? overflow (spanBehind front rest count) message =
      some (heading (spanBehind front rest count) message) := by
  have noNumber : (spanBehind front rest count).start.line = 0 := by
    rw [spanBehind, placeBehind, isNoWord]
    rfl
  simp [formatError?, getLine?, noNumber]

variable (split : source.toList = front ++ rest)

include split

/-- A span whose start is on a line with a number, and whose end has a column unless the words
wrap, is underlined. -/
theorem exists_isUnderlined (fits : (front ++ rest).length < UInt32.size)
    (hasNumber : lineBehind front < UInt32.size)
    (isWord : overflow = .wraps ∨ columnBehind (front ++ rest.take count) < UInt32.size)
    (message : String) :
    ∃ line, IsUnderlined overflow source (spanBehind front rest count) line message := by
  let line := String.ofList (dropReturns (begunLine front ++ restOfLine rest))
  have lineEq : (ofSource source).getLine? (placeBehind front).line = some line :=
    getLine?_of_split split hasNumber
  have oneLine : '\n' ∉ line.toList := by
    rw [String.toList_ofList]
    exact newline_notMem_dropReturns front rest
  have length : line.length =
      (dropReturns (begunLine front ++ restOfLine rest)).length := String.length_ofList
  have underline := underlineLength?_eq front rest count fits isWord
  by_cases negative : '\n' ∈ rest.take count ∧
      (dropReturns (begunLine front ++ restOfLine rest)).length < (begunLine front).length
  · rw [if_pos negative] at underline
    have fails := formatError?_eq_none lineEq (.inl underline) message
    refine ⟨line, lineEq, ?_, ?_, ?_⟩
    · simp only [fails, true_iff, split, lineAt_start_lt_iff, length,
        column_start_of_newline front rest count fits negative.1]
      exact ⟨negative.1, by omega⟩
    · intro _
      rw [split]
      exact exists_return_of_length_lt front rest negative.2
    · intro output formatted
      rw [fails] at formatted
      cases formatted
  · rw [if_neg negative] at underline
    obtain ⟨output, formatted, ends⟩ := exists_formatError?_eq lineEq oneLine underline
      (difference?_one front rest count fits isWord) message
    refine ⟨line, lineEq, ?_, ?_, ?_⟩
    · simp only [formatted, reduceCtorEq, false_iff, split, lineAt_start_lt_iff, length]
      rintro ⟨further, short⟩
      rw [column_start_of_newline front rest count fits further] at short
      exact negative ⟨further, by omega⟩
    · rw [formatted]
      nofun
    · intro other isOther
      rw [formatted] at isOther
      cases isOther
      rwa [split, Nat.max_comm]

/-- In a build with checks, a column that is no word ends the program. -/
theorem formatError?_of_long_line (oneLine : '\n' ∉ front ++ rest.take count)
    (fits : (front ++ rest).length < UInt32.size)
    (isNoWord : columnBehind (front ++ rest.take count) = UInt32.size) (message : String) :
    (ofSource source).formatError? .ends (spanBehind front rest count) message = none := by
  rw [List.mem_append, not_or] at oneLine
  have firstLine : lineBehind front = 1 := by
    rw [lineBehind, List.count_eq_zero.mpr oneLine.1]
  have sameLine := (start_line_eq_iff front rest count fits).mpr oneLine.2
  have hasNumber : lineBehind front < UInt32.size := firstLine ▸ by decide
  refine formatError?_eq_none (getLine?_of_split split hasNumber) ?_ message
  refine (difference?_long_column front rest count oneLine.2 isNoWord).imp_left fun ends => ?_
  rw [underlineLength?, if_pos sameLine, ends, Option.map_none]

end Message

example :
    (ofSource "a\r\nb").formatError? .ends ((ofSource "a\r\nb").spanAt 2 1) "m" = none := by
  cbv

end SourceMap

end PugScript
