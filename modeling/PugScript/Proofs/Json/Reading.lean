import PugScript.Json.Reader
import PugScript.Proofs.Decimal.Digits

/-!
# Written documents are read back

A text, a whole number of 64 bits, a truth value and null are read as what they were written for,
in front of anything that does not go on a number. From this an object of such fields is read back,
whatever the characters of its texts are.
-/

namespace PugScript.Json

open PugScript.Decimal
open PugScript.Text

/-! ## Texts -/

theorem toList_foldl_push (characters : List Char) (text : String) :
    (characters.foldl String.push text).toList = text.toList ++ characters := by
  induction characters generalizing text with
  | nil => simp
  | cons c characters inductionHypothesis =>
      rw [List.foldl_cons, inductionHypothesis, String.toList_push, List.append_assoc]
      rfl

theorem toList_quote (text : String) :
    (quote text).toList = '"' :: (text.toList.flatMap escapeChar ++ ['"']) := by
  have escaped (characters : List Char) (start : String) :
      (characters.foldl (fun result c => (escapeChar c).foldl String.push result) start).toList =
        start.toList ++ characters.flatMap escapeChar := by
    induction characters generalizing start with
    | nil => simp
    | cons c characters inductionHypothesis =>
        rw [List.foldl_cons, inductionHypothesis, toList_foldl_push, List.flatMap_cons,
          List.append_assoc]
  rw [quote, String.toList_push, escaped]
  rfl

theorem hexValue?_hexDigit {digit : Nat} (isHex : digit < 16) :
    hexValue? (hexDigit digit) = some digit := by
  interval_cases digit <;> rfl

/-- A character is read back from the way it is written inside quotes. -/
theorem readQuoted?_escapeChar (fuel : Nat) (result : String) (c : Char) (rest : List Char) :
    readQuoted? (fuel + 1) result (escapeChar c ++ rest) =
      readQuoted? fuel (result.push c) rest := by
  by_cases isQuote : c = '"'
  · subst isQuote
    rfl
  by_cases isBackslash : c = '\\'
  · subst isBackslash
    rfl
  by_cases isNewline : c = '\n'
  · subst isNewline
    rfl
  by_cases isReturn : c = '\r'
  · subst isReturn
    rfl
  by_cases isTab : c = '\t'
  · subst isTab
    rfl
  by_cases isBackspace : c = Char.ofNat 8
  · subst isBackspace
    rfl
  by_cases isFeed : c = Char.ofNat 12
  · subst isFeed
    rfl
  simp only [escapeChar, isQuote, isBackslash, isNewline, isReturn, isTab, isBackspace, isFeed,
    if_false]
  by_cases isControl : c.toNat < 0x20
  · have high : hexValue? (hexDigit (c.toNat / 16)) = some (c.toNat / 16) :=
      hexValue?_hexDigit (by omega)
    have low : hexValue? (hexDigit (c.toNat % 16)) = some (c.toNat % 16) :=
      hexValue?_hexDigit (by omega)
    have zero : hexValue? '0' = some 0 := rfl
    have unit : readUnit?
        ('0' :: '0' :: hexDigit (c.toNat / 16) :: hexDigit (c.toNat % 16) :: rest) =
          some (c.toNat, rest) := by
      have value : ((0 * 16 + 0) * 16 + c.toNat / 16) * 16 + c.toNat % 16 = c.toNat := by omega
      simp only [readUnit?, zero, high, low, Option.bind_eq_bind, Option.bind_some, value]
      rfl
    have read : readCodePoint?
        ('0' :: '0' :: hexDigit (c.toNat / 16) :: hexDigit (c.toNat % 16) :: rest) =
          some (c, rest) := by
      have notHigh : ¬ (0xD800 ≤ c.toNat ∧ c.toNat < 0xDC00) := by omega
      have notLow : ¬ (0xDC00 ≤ c.toNat ∧ c.toNat < 0xE000) := by omega
      simp only [readCodePoint?, unit, Option.bind_eq_bind, Option.bind_some, notHigh, notLow,
        if_false, Char.ofNat_toNat]
      rfl
    rw [if_pos isControl]
    simp only [List.cons_append, List.nil_append, readQuoted?, readEscape?, read]
    rfl
  · rw [if_neg isControl]
    simp only [List.cons_append, List.nil_append, readQuoted?, isQuote, isBackslash, isControl,
      if_false]

/-- Reading undoes the escaping of every character. -/
theorem readQuoted?_escaped
    {characters : List Char} {fuel : Nat} (enough : characters.length < fuel) (result : String)
    (rest : List Char) :
    readQuoted? fuel result (characters.flatMap escapeChar ++ '"' :: rest) =
      some (result ++ String.ofList characters, rest) := by
  induction characters generalizing fuel result with
  | nil =>
      obtain ⟨fuel, rfl⟩ := Nat.exists_eq_succ_of_ne_zero (Nat.ne_zero_of_lt enough)
      simp [readQuoted?]
  | cons c characters inductionHypothesis =>
      obtain ⟨fuel, rfl⟩ := Nat.exists_eq_succ_of_ne_zero (Nat.ne_zero_of_lt enough)
      rw [List.flatMap_cons, List.append_assoc, readQuoted?_escapeChar,
        inductionHypothesis (Nat.lt_of_succ_lt_succ enough)]
      have joined : result.push c ++ String.ofList characters =
          result ++ String.ofList (c :: characters) := by
        apply String.toList_injective
        simp
      rw [joined]

/-! ## Whole numbers -/

/-- What follows does not go on a number. -/
def EndsNumber (rest : List Char) : Prop :=
  ∀ c ∈ rest.head?, isDigit c = false ∧ c ≠ '.' ∧ c ≠ 'e' ∧ c ≠ 'E'

theorem EndsNumber.takeWhile_isDigit {rest : List Char} (ends : EndsNumber rest) :
    rest.takeWhile isDigit = [] := by
  cases rest with
  | nil => rfl
  | cons c rest => simp [(ends c rfl).1]

theorem EndsNumber.dropWhile_isDigit {rest : List Char} (ends : EndsNumber rest) :
    rest.dropWhile isDigit = rest := by
  cases rest with
  | nil => rfl
  | cons c rest => simp [(ends c rfl).1]

theorem readWhole?_toDigits (number : Nat) {rest : List Char} (ends : EndsNumber rest) :
    readWhole? (Nat.toDigits 10 number ++ rest) = some (Nat.toDigits 10 number, rest) := by
  rcases Nat.eq_zero_or_pos number with rfl | positive
  · have noDigit : rest.head?.any isDigit = false := by
      cases rest with
      | nil => rfl
      | cons c rest => exact (ends c rfl).1
    simp [readWhole?, noDigit]
  · have digits : ∀ c ∈ Nat.toDigits 10 number, isDigit c = true :=
      fun c => isDigit_of_mem_toDigits
    have read : readDigits? (Nat.toDigits 10 number ++ rest) =
        some (Nat.toDigits 10 number, rest) := by
      simp [readDigits?, List.takeWhile_append_of_pos digits,
        List.dropWhile_append_of_pos digits, ends.takeWhile_isDigit, ends.dropWhile_isDigit,
        Nat.toDigits_ne_nil]
    obtain ⟨c, others, written⟩ := List.exists_cons_of_ne_nil
      (Nat.toDigits_ne_nil : Nat.toDigits 10 number ≠ [])
    have notZero := head_toDigits_ne_zero positive written
    rw [written, List.cons_append] at read ⊢
    rw [readWhole?.eq_2 _ (fun rest same => notZero (List.cons.inj same).1), read]

/-- The number as it is written, with a sign or without. -/
theorem readNumeral?_toDigits
    (isNegative : Bool) (number : Nat) {rest : List Char} (ends : EndsNumber rest) :
    readNumeral? ((if isNegative then ['-'] else []) ++ Nat.toDigits 10 number ++ rest) =
      some (⟨isNegative, Nat.toDigits 10 number, [], none⟩, rest) := by
  have noFraction : readFraction? rest = some ([], rest) := by
    cases rest with
    | nil => rfl
    | cons c rest =>
        rw [readFraction?.eq_2 _ (fun _ same => (ends c rfl).2.1 (List.cons.inj same).1)]
  have noExponent : readExponent? rest = some (none, rest) := by
    cases rest with
    | nil => rfl
    | cons c rest => simp [readExponent?, (ends c rfl).2.2.1, (ends c rfl).2.2.2]
  cases isNegative with
  | true =>
      simp [readNumeral?, readWhole?_toDigits number ends, noFraction, noExponent]
  | false =>
      obtain ⟨c, others, written⟩ := List.exists_cons_of_ne_nil
        (Nat.toDigits_ne_nil : Nat.toDigits 10 number ≠ [])
      have notMinus : c ≠ '-' := by
        rintro rfl
        have digit : isDigit '-' = true :=
          isDigit_of_mem_toDigits (written ▸ List.mem_cons_self)
        cases digit
      have whole := readWhole?_toDigits number ends
      rw [written, List.cons_append] at whole
      simp only [readNumeral?, Bool.false_eq_true, if_false, List.nil_append, written,
        List.cons_append]
      split
      · next same => exact absurd (List.cons.inj same).1 notMinus
      · simp [whole, noFraction, noExponent]

theorem takeDigits_of_lt
    {digits : List Char} {value : Nat} (taken : Nat)
    (fits : digitsValue value digits < twoTo 64) :
    takeDigits ⟨value, taken, 0⟩ digits =
      ⟨digitsValue value digits, taken + digits.length, 0⟩ := by
  induction digits generalizing value taken with
  | nil => rfl
  | cons c digits inductionHypothesis =>
      have next : 10 * value + (c.toNat - '0'.toNat) < twoTo 64 :=
        (le_digitsValue _ digits).trans_lt fits
      rw [takeDigits, if_pos ⟨rfl, next⟩, inductionHypothesis _ fits, List.length_cons,
        Nat.add_comm digits.length 1, ← Nat.add_assoc]
      rfl

/-- Whole numbers of 64 bits are read back. -/
theorem readNumber?_toString
    {number : Int} (lower : -twoTo 63 ≤ number) (upper : number < twoTo 63)
    {rest : List Char} (ends : EndsNumber rest) :
    readNumber? ((toString number).toList ++ rest) = some (.integer number, rest) := by
  have bound : number.natAbs ≤ twoTo 63 := by omega
  have fits : digitsValue 0 (Nat.toDigits 10 number.natAbs) < twoTo 64 := by
    rw [digitsValue_toDigits]
    exact bound.trans_lt (by decide)
  have read := readNumeral?_toDigits (decide (number < 0)) number.natAbs ends
  rw [toList_toString_int]
  by_cases negative : number < 0
  · have positive : 0 < number.natAbs := Int.natAbs_pos.mpr negative.ne
    rw [decide_eq_true negative, if_pos rfl] at read
    rw [if_pos negative, readNumber?, read]
    simp [Numeral.toJson?, Numeral.isPlain, takeDigits_of_lt 0 fits, digitsValue_toDigits,
      positive, bound, abs_of_neg negative]
  · rw [decide_eq_false negative, if_neg Bool.false_ne_true] at read
    rw [if_neg negative, readNumber?, read]
    simp [Numeral.toJson?, Numeral.isPlain, takeDigits_of_lt 0 fits, digitsValue_toDigits,
      abs_of_nonneg (Int.not_lt.mp negative)]

/-! ## Values and objects -/

theorem skipSpace_cons {c : Char} (visible : isSpace c = false) (rest : List Char) :
    skipSpace (c :: rest) = c :: rest := by
  simp [skipSpace, visible]

/-- The document is read from the text, in front of anything that does not go on a number. -/
def ReadFrom (text : String) (document : Json) : Prop :=
  ∀ fuel depth isWanted rest, text.length < fuel → EndsNumber rest →
    readValue? fuel depth isWanted (text.toList ++ rest) = some (document, rest)

theorem readFrom_null : ReadFrom "null" .null := by
  intro fuel depth isWanted rest enough _
  obtain ⟨fuel, rfl⟩ := Nat.exists_eq_succ_of_ne_zero (Nat.ne_zero_of_lt enough)
  rfl

theorem readFrom_bool (truth : Bool) : ReadFrom (scalarText (.bool truth)) (.bool truth) := by
  intro fuel depth isWanted rest enough _
  obtain ⟨fuel, rfl⟩ := Nat.exists_eq_succ_of_ne_zero (Nat.ne_zero_of_lt enough)
  cases truth <;> rfl

theorem length_le_length_quote (text : String) : text.length + 2 ≤ (quote text).length := by
  have expands (characters : List Char) :
      characters.length ≤ (characters.flatMap escapeChar).length := by
    induction characters with
    | nil => exact Nat.le_refl _
    | cons c characters inductionHypothesis =>
        have one : 1 ≤ (escapeChar c).length := by
          unfold escapeChar
          repeat' split
          all_goals simp
        rw [List.flatMap_cons, List.length_cons, List.length_append]
        omega
  have characters := expands text.toList
  rw [← String.length_toList, ← String.length_toList, toList_quote]
  simp only [List.length_cons, List.length_append, List.length_nil]
  omega

/-- A text in quotes is read back. -/
theorem readFrom_string (content : String) :
    ReadFrom (scalarText (.string content)) (.string content) := by
  intro fuel depth isWanted rest enough _
  obtain ⟨fuel, rfl⟩ := Nat.exists_eq_succ_of_ne_zero (Nat.ne_zero_of_lt enough)
  have short : content.toList.length < fuel := by
    have quoted := length_le_length_quote content
    rw [String.length_toList]
    change (quote content).length < fuel + 1 at enough
    omega
  change readValue? (fuel + 1) depth isWanted ((quote content).toList ++ rest) = _
  rw [toList_quote, List.cons_append, List.append_assoc, readValue?, skipSpace_cons rfl]
  simp only [List.singleton_append, readQuoted?_escaped short]
  simp

/-- The characters that a written number starts with. -/
def startsNumber (c : Char) : Bool :=
  c == '-' || isDigit c

theorem exists_startsNumber (number : Int) :
    ∃ c rest, (toString number).toList = c :: rest ∧ startsNumber c = true := by
  rw [toList_toString_int]
  by_cases negative : number < 0
  · rw [if_pos negative]
    exact ⟨'-', _, rfl, rfl⟩
  · rw [if_neg negative]
    obtain ⟨c, others, written⟩ := List.exists_cons_of_ne_nil
      (Nat.toDigits_ne_nil : Nat.toDigits 10 number.natAbs ≠ [])
    refine ⟨c, others, written, ?_⟩
    rw [startsNumber, isDigit_of_mem_toDigits (written ▸ List.mem_cons_self), Bool.or_true]

theorem readValue?_of_startsNumber
    {c : Char} (starts : startsNumber c = true) (fuel depth : Nat) (isWanted : String → Bool)
    (rest : List Char) :
    readValue? (fuel + 1) depth isWanted (c :: rest) = readNumber? (c :: rest) := by
  have differs {other : Char} (otherwise : startsNumber other = false) : c ≠ other := by
    rintro rfl
    rw [starts] at otherwise
    cases otherwise
  have visible : isSpace c = false := by
    simp only [isSpace, Bool.or_eq_false_iff, beq_eq_false_iff_ne]
    exact ⟨⟨⟨differs rfl, differs rfl⟩, differs rfl⟩, differs rfl⟩
  rw [readValue?, skipSpace_cons visible]
  split
  · next same => cases same
  · next same => exact absurd (List.cons.inj same).1 (differs rfl)
  · next same => exact absurd (List.cons.inj same).1 (differs rfl)
  · next same => exact absurd (List.cons.inj same).1 (differs rfl)
  · next same => exact absurd (List.cons.inj same).1 (differs rfl)
  · next same => exact absurd (List.cons.inj same).1 (differs rfl)
  · next same => exact absurd (List.cons.inj same).1 (differs rfl)
  · rfl

/-- A whole number of 64 bits is read back as one. -/
theorem readFrom_integer
    {number : Int} (lower : -twoTo 63 ≤ number) (upper : number < twoTo 63) :
    ReadFrom (scalarText (.integer number)) (.integer number) := by
  intro fuel depth isWanted rest enough ends
  obtain ⟨fuel, rfl⟩ := Nat.exists_eq_succ_of_ne_zero (Nat.ne_zero_of_lt enough)
  have read := readNumber?_toString lower upper ends
  obtain ⟨c, others, written, starts⟩ := exists_startsNumber number
  change readValue? (fuel + 1) depth isWanted ((toString number).toList ++ rest) = _
  rw [written, List.cons_append] at read ⊢
  rw [readValue?_of_startsNumber starts, read]

def isScalar : Json → Bool
  | array _ | object _ => false
  | _ => true

def fieldText (field : String × Json) : String :=
  quote field.1 ++ ":" ++ scalarText field.2

/-- The text of the fields of an object, from behind its opening bracket on. -/
def fieldsText (first : String × Json) (others : List (String × Json)) : List Char :=
  (fieldText first).toList ++ others.flatMap (fun field => ',' :: (fieldText field).toList) ++
    ['\x7d']

theorem appendCompact_of_isScalar
    {document : Json} (scalar : isScalar document = true) (text : String) :
    appendCompact text document = text ++ scalarText document := by
  cases document with
  | array elements => cases scalar
  | object fields => cases scalar
  | _ => simp [appendCompact]

theorem toList_appendCompactFields
    {fields : List (String × Json)} (scalars : ∀ field ∈ fields, isScalar field.2 = true)
    (text : String) :
    (appendCompactFields text fields).toList =
      text.toList ++ fields.flatMap fun field => ',' :: (fieldText field).toList := by
  induction fields generalizing text with
  | nil => simp [appendCompactFields]
  | cons field fields inductionHypothesis =>
      obtain ⟨scalar, scalarRest⟩ := List.forall_mem_cons.mp scalars
      rw [appendCompactFields, appendCompact_of_isScalar scalar, inductionHypothesis scalarRest]
      simp [fieldText]

theorem toList_compact_object
    {first : String × Json} {others : List (String × Json)}
    (scalars : ∀ field ∈ first :: others, isScalar field.2 = true) :
    (compact (.object (first :: others))).toList = '\x7b' :: fieldsText first others := by
  obtain ⟨scalar, scalarRest⟩ := List.forall_mem_cons.mp scalars
  rw [compact, appendCompact, String.toList_append, appendCompact_of_isScalar scalar,
    toList_appendCompactFields scalarRest]
  simp [fieldText, fieldsText]

/-- The fields of a document, and what is read from their texts. -/
inductive FieldsRead : List (String × Json) → List (String × Json) → Prop
  | nil : FieldsRead [] []
  | cons {name : String} {value document : Json} {fields documents : List (String × Json)} :
      ReadFrom (scalarText value) document →
      FieldsRead fields documents →
      FieldsRead ((name, value) :: fields) ((name, document) :: documents)

/-- The name of a field is read back. -/
theorem readName?_quote
    {name : String} {fuel : Nat} (enough : name.length < fuel) (rest : List Char) :
    readName? fuel ((quote name).toList ++ ':' :: rest) = some (name, rest) := by
  rw [← String.length_toList] at enough
  rw [toList_quote, List.cons_append, List.append_assoc, readName?, skipSpace_cons rfl]
  have colon : skipSpace (':' :: rest) = ':' :: rest := skipSpace_cons rfl rest
  simp only [List.singleton_append, readQuoted?_escaped enough, colon]
  simp

theorem fieldsText_nil (name : String) (value : Json) (rest : List Char) :
    fieldsText (name, value) [] ++ rest =
      (quote name).toList ++ ':' :: ((scalarText value).toList ++ '\x7d' :: rest) := by
  simp [fieldsText, fieldText]

theorem fieldsText_cons
    (name : String) (value : Json) (second : String × Json) (others : List (String × Json))
    (rest : List Char) :
    fieldsText (name, value) (second :: others) ++ rest =
      (quote name).toList ++
        ':' :: ((scalarText value).toList ++ ',' :: (fieldsText second others ++ rest)) := by
  simp [fieldsText, fieldText]

/-- What is read behind a field: more fields behind a comma, or the end of the object. -/
def readAfterField? (fuel depth : Nat) (isWanted : String → Bool) (fields : List (String × Json))
    (following : List Char) : Option (Json × List Char) :=
  match skipSpace following with
  | ',' :: rest => readFields? fuel depth isWanted fields rest
  | '\x7d' :: rest => some (.object fields.reverse, rest)
  | _ => none

/-- One wanted field is read, and then what follows it decides. -/
theorem readFields?_field
    {isWanted : String → Bool} {name : String} (wanted : isWanted name = true)
    {value document : Json} (read : ReadFrom (scalarText value) document)
    {fuel : Nat} (enoughForName : name.length < fuel)
    (enoughForValue : (scalarText value).length < fuel)
    {following : List Char} (ends : EndsNumber following)
    (depth : Nat) (already : List (String × Json)) :
    readFields? (fuel + 1) depth isWanted already
        ((quote name).toList ++ ':' :: ((scalarText value).toList ++ following)) =
      readAfterField? fuel depth isWanted ((name, document) :: already) following := by
  have valueRead := read fuel depth (fun _ => true) following enoughForValue ends
  rw [readFields?, readName?_quote enoughForName]
  simp only [wanted, if_true, valueRead, Option.map_some]
  rfl

theorem length_fieldsText_nil (name : String) (value : Json) :
    (fieldsText (name, value) []).length =
      (quote name).length + 1 + (scalarText value).length + 1 := by
  simp only [fieldsText, fieldText, String.toList_append, List.flatMap_nil, List.length_append,
    String.length_toList, List.length_cons, List.length_nil]
  rfl

theorem length_fieldsText_cons
    (name : String) (value : Json) (second : String × Json) (others : List (String × Json)) :
    (fieldsText (name, value) (second :: others)).length =
      (quote name).length + 1 + (scalarText value).length + 1 +
        (fieldsText second others).length := by
  simp only [fieldsText, fieldText, String.toList_append, List.flatMap_cons, List.length_append,
    String.length_toList, List.length_cons, List.length_nil]
  have colon : ":".length = 1 := rfl
  omega

theorem endsNumber_comma (rest : List Char) : EndsNumber (',' :: rest) := by
  rintro c ⟨⟩
  decide

theorem endsNumber_closing (rest : List Char) : EndsNumber ('\x7d' :: rest) := by
  rintro c ⟨⟩
  decide

/-- Wanted fields are read back, behind those that were read before. -/
theorem readFields?_fieldsText
    {isWanted : String → Bool} {first : String × Json} {others documents : List (String × Json)}
    (read : FieldsRead (first :: others) documents)
    (wanted : ∀ field ∈ first :: others, isWanted field.1 = true)
    {fuel : Nat} (enough : (fieldsText first others).length < fuel)
    (depth : Nat) (already : List (String × Json)) (rest : List Char) :
    readFields? fuel depth isWanted already (fieldsText first others ++ rest) =
      some (.object (already.reverse ++ documents), rest) := by
  induction others generalizing first documents fuel already with
  | nil =>
      obtain ⟨fuel, rfl⟩ := Nat.exists_eq_succ_of_ne_zero (Nat.ne_zero_of_lt enough)
      cases read with
      | @cons name value document _ _ readFirst readRest =>
          cases readRest
          have short := length_le_length_quote name
          have wantedFirst : isWanted name = true := wanted _ List.mem_cons_self
          rw [length_fieldsText_nil] at enough
          rw [fieldsText_nil, readFields?_field wantedFirst readFirst (by omega) (by omega)
            (endsNumber_closing rest), readAfterField?, skipSpace_cons rfl, ← List.reverse_cons]
          rfl
  | cons second others inductionHypothesis =>
      obtain ⟨fuel, rfl⟩ := Nat.exists_eq_succ_of_ne_zero (Nat.ne_zero_of_lt enough)
      cases read with
      | @cons name value document _ documents readFirst readRest =>
          have short := length_le_length_quote name
          have wantedFirst : isWanted name = true := wanted _ List.mem_cons_self
          have wantedRest : ∀ field ∈ second :: others, isWanted field.1 = true :=
            fun field member => wanted field (List.mem_cons_of_mem _ member)
          rw [length_fieldsText_cons] at enough
          have restRead := inductionHypothesis readRest wantedRest
            (show _ < fuel by omega) ((name, document) :: already)
          rw [List.reverse_cons, List.append_assoc] at restRead
          rw [fieldsText_cons, readFields?_field wantedFirst readFirst (by omega) (by omega)
            (endsNumber_comma _), readAfterField?, skipSpace_cons rfl]
          exact restRead

/-- An object of fields that are all wanted and can be read is read back. -/
theorem read?_compact_object
    {isWanted : String → Bool} {first : String × Json} {others documents : List (String × Json)}
    (scalars : ∀ field ∈ first :: others, isScalar field.2 = true)
    (wanted : ∀ field ∈ first :: others, isWanted field.1 = true)
    (read : FieldsRead (first :: others) documents) :
    read? isWanted (compact (.object (first :: others))) = some (.object documents) := by
  have enough : (fieldsText first others).length < 2 * (fieldsText first others).length + 3 := by
    omega
  have fields := readFields?_fieldsText read wanted enough 126 [] []
  rw [List.append_nil] at fields
  have quoted : ∃ rest, fieldsText first others = '"' :: rest := by
    simp [fieldsText, fieldText, toList_quote]
  obtain ⟨rest, quoted⟩ := quoted
  have opened : readValue? (2 * ('\x7b' :: fieldsText first others).length + 2) maxDepth isWanted
      ('\x7b' :: fieldsText first others) = some (.object documents, []) := by
    rw [List.length_cons, Nat.mul_add, readValue?, skipSpace_cons rfl]
    rw [quoted] at fields ⊢
    exact fields
  rw [read?, toList_compact_object scalars]
  simp only [opened]
  rfl

end PugScript.Json
