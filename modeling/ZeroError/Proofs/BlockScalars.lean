import ZeroError.Proofs.PlainScalars

/-!
Literal blocks. A text with line breaks is a number of rows after some empty lines, where a row is a
line with the line break that ends it and the empty lines after that. Main statement: the rows of a
block, each behind the margin, are read back as the text, where the indicators of the block say what
becomes of the line breaks at its end.
-/

namespace ZeroError.Yaml

/-- A line of a text, the line break that ends it, and the line breaks of the empty lines after it. -/
structure Row where
  first : Char
  others : List Char
  ending : Char
  empty : List Char
  noBreak : ∀ c ∈ first :: others, isBreak c = false
  ends : isBreak ending = true
  allBreaks : ∀ c ∈ empty, isBreak c = true

namespace Row

def line (row : Row) : List Char :=
  row.first :: row.others

def chars (row : Row) : List Char :=
  row.line ++ row.ending :: row.empty

end Row

/-- A text that ends with a line break is made of rows, after some empty lines. -/
theorem exists_rows {text : List Char} (ends : ∀ c ∈ text.getLast?, isBreak c = true) :
    ∃ (breaks : List Char) (rows : List Row), text = breaks ++ rows.flatMap Row.chars ∧
      ∀ c ∈ breaks, isBreak c = true := by
  induction text with
  | nil => exact ⟨[], [], rfl, fun c member => absurd member List.not_mem_nil⟩
  | cons c text ih =>
      have endsLater : ∀ d ∈ text.getLast?, isBreak d = true := by
        intro d last
        refine ends d ?_
        rw [List.getLast?_cons, Option.mem_def.mp last]
        rfl
      obtain ⟨breaks, rows, rfl, allBreaks⟩ := ih endsLater
      cases isLineBreak : isBreak c with
      | true =>
          refine ⟨c :: breaks, rows, rfl, ?_⟩
          intro d member
          rcases List.mem_cons.mp member with rfl | later
          · exact isLineBreak
          · exact allBreaks d later
      | false =>
          have inLine {others : List Char} (noBreak : ∀ d ∈ others, isBreak d = false) :
              ∀ d ∈ c :: others, isBreak d = false := by
            intro d member
            rcases List.mem_cons.mp member with rfl | later
            · exact isLineBreak
            · exact noBreak d later
          cases breaks with
          | cons ending empty =>
              refine ⟨[], ⟨c, [], ending, empty, inLine (fun d impossible => absurd impossible
                List.not_mem_nil), allBreaks ending List.mem_cons_self, fun d member => allBreaks d
                (List.mem_cons_of_mem ending member)⟩ :: rows, rfl, fun d impossible => absurd impossible
                List.not_mem_nil⟩
          | nil =>
              cases rows with
              | nil =>
                  rw [ends c rfl] at isLineBreak
                  cases isLineBreak
              | cons row rows =>
                  exact ⟨[], ⟨c, row.line, row.ending, row.empty, inLine row.noBreak, row.ends,
                    row.allBreaks⟩ :: rows, rfl, fun d impossible => absurd impossible List.not_mem_nil⟩

theorem blockChars_breaks {breaks : List Char} (allBreaks : ∀ c ∈ breaks, isBreak c = true)
    (rest : List Char) : blockChars true (breaks ++ rest) = breaks ++ blockChars true rest := by
  induction breaks with
  | nil => rfl
  | cons c breaks ih =>
      rw [List.cons_append, blockChars, if_pos (allBreaks c List.mem_cons_self),
        ih (fun d member => allBreaks d (List.mem_cons_of_mem c member)), List.cons_append]

private theorem blockChars_line {line : List Char} (noBreak : ∀ c ∈ line, isBreak c = false)
    (rest : List Char) : blockChars false (line ++ rest) = line ++ blockChars false rest := by
  induction line with
  | nil => rfl
  | cons c line ih =>
      rw [List.cons_append, blockChars, noBreak c List.mem_cons_self,
        ih (fun d member => noBreak d (List.mem_cons_of_mem c member))]
      rfl

/-- A line of a block stands behind the margin. -/
theorem blockChars_row (row : Row) (rest : List Char) :
    blockChars true (row.chars ++ rest) = margin ++ row.chars ++ blockChars true rest := by
  have line := blockChars_line (fun c member => row.noBreak c (List.mem_cons_of_mem row.first member))
    (row.ending :: (row.empty ++ rest))
  rw [blockChars, if_pos row.ends, blockChars_breaks row.allBreaks] at line
  have whole : row.chars ++ rest = row.first :: (row.others ++ row.ending :: (row.empty ++ rest)) := by
    simp only [Row.chars, Row.line, List.cons_append, List.append_assoc]
  rw [whole, blockChars, row.noBreak row.first List.mem_cons_self, line]
  simp [Row.chars, Row.line]

/-- Rows as they are written, each behind the margin. -/
def indented (rows : List Row) : List Char :=
  rows.flatMap (fun row => margin ++ row.chars)

theorem indented_cons (row : Row) (rows : List Row) :
    indented (row :: rows) = margin ++ (row.chars ++ indented rows) := by
  rw [indented, List.flatMap_cons, List.append_assoc]
  rfl

private theorem length_le_indented (rows : List Row) : rows.length ≤ (indented rows).length := by
  induction rows with
  | nil => exact Nat.le_refl 0
  | cons row rows ih =>
      rw [indented_cons, List.length_append, List.length_append, List.length_cons]
      change rows.length + 1 ≤ 2 + _
      omega

private theorem blockChars_rows (rows : List Row) :
    blockChars true (rows.flatMap Row.chars) = indented rows := by
  induction rows with
  | nil => rfl
  | cons row rows ih => rw [List.flatMap_cons, blockChars_row, ih, indented_cons, List.append_assoc]

section

variable {after : List Char} {index line : Nat}

theorem Cursor.isAt_zero_of_ne {c other : Char} {rest : List Char} {column : Nat} (different : c ≠ other) :
    Cursor.isAt ⟨c :: rest, index, line, column⟩ 0 other = false :=
  beq_false_of_ne (fun same => different (Option.some.inj same))

theorem takeWhile_space_of_ne {c : Char} (notSpace : c ≠ ' ') (rest : List Char) :
    (c :: rest).takeWhile (· == ' ') = [] :=
  List.takeWhile_cons_of_neg (by rw [beq_iff_eq]; exact notSpace)

private theorem scanEmptyLines_breaks {breaks : List Char}
    (printable : ∀ c ∈ breaks, isPrintable c = true)
    (allBreaks : ∀ c ∈ breaks, isBreak c = true) (fuel widest : Nat) (known : List Char) :
    scanEmptyLines (some 2) (fuel + breaks.length) widest known ⟨breaks ++ after, index, line, 0⟩ =
      scanEmptyLines (some 2) fuel widest (known ++ breaks)
        ⟨after, index + breaks.length, line + breaks.length, 0⟩ := by
  induction breaks generalizing index line known with
  | nil => rw [List.append_nil]; rfl
  | cons c breaks ih =>
      have here := printable c List.mem_cons_self
      have isLineBreak := allBreaks c List.mem_cons_self
      have notSpace : c ≠ ' ' := by
        rintro rfl
        cases isLineBreak
      have notTab : Cursor.isAt ⟨c :: (breaks ++ after), index, line, 0⟩ 0 '\t' = false :=
        Cursor.isAt_zero_of_ne (by rintro rfl; cases isLineBreak)
      rw [List.length_cons, ← Nat.add_assoc, List.cons_append, scanEmptyLines]
      simp only [takeWhile_space_of_ne notSpace, List.length_nil, Nat.zero_min, Cursor.skip, notTab,
        Bool.and_false, Bool.false_eq_true, if_false, Cursor.peek?, List.getElem?_cons_zero,
        Option.any_some, isLineBreak, if_true, Cursor.takeBreak_printable here isLineBreak, Nat.max_zero]
      rw [ih (fun d member => printable d (List.mem_cons_of_mem c member))
        (fun d member => allBreaks d (List.mem_cons_of_mem c member)), List.append_assoc,
        List.singleton_append, Nat.add_assoc index, Nat.add_comm 1, Nat.add_assoc line, Nat.add_comm 1]

theorem scanEmptyLines_append {breaks : List Char} (printable : ∀ c ∈ breaks, isPrintable c = true)
    (allBreaks : ∀ c ∈ breaks, isBreak c = true) (rest : List Char) :
    scanEmptyLines (some 2) ((breaks ++ rest).length + 1) 0 [] ⟨breaks ++ rest, index, line, 0⟩ =
      scanEmptyLines (some 2) (rest.length + 1) 0 breaks
        ⟨rest, index + breaks.length, line + breaks.length, 0⟩ := by
  have room : (breaks ++ rest).length + 1 = rest.length + 1 + breaks.length := by
    rw [List.length_append]
    omega
  rw [room, scanEmptyLines_breaks printable allBreaks, List.nil_append]

/-- The margin of a line is skipped, and no more than that if the indentation is known. -/
theorem scanEmptyLines_margin {c : Char} {rest known : List Char} {indent? : Option Nat} (fuel : Nat)
    (printable : isPrintable c = true) (notBreak : isBreak c = false)
    (shown : indent? = some 2 ∨ indent? = none ∧ c ≠ ' ') :
    scanEmptyLines indent? (fuel + 1) 0 known ⟨margin ++ c :: rest, index, line, 0⟩ =
      .ok (2, known, ⟨c :: rest, index + 2, line, 2⟩) := by
  have notTab : Cursor.isAt ⟨c :: rest, index + 2, line, 2⟩ 0 '\t' = false :=
    Cursor.isAt_zero_of_ne (by rintro rfl; cases printable)
  have spaces : ((margin ++ c :: rest).takeWhile (· == ' ')).length =
      ((c :: rest).takeWhile (· == ' ')).length + 2 := rfl
  have skipped : Cursor.skip ⟨margin ++ c :: rest, index, line, 0⟩ 2 =
      ⟨c :: rest, index + 2, line, 2⟩ := rfl
  rcases shown with rfl | ⟨rfl, notSpace⟩
  · have count : min ((margin ++ c :: rest).takeWhile (· == ' ')).length (2 - 0) = 2 := by
      rw [spaces]
      omega
    rw [scanEmptyLines]
    simp only [count, skipped, notTab, Bool.and_false, Bool.false_eq_true, if_false, Cursor.peek?,
      List.getElem?_cons_zero, Option.any_some, notBreak, Nat.zero_max]
  · rw [takeWhile_space_of_ne notSpace] at spaces
    rw [scanEmptyLines]
    simp only [spaces, List.length_nil, Nat.zero_add, skipped, notTab, Bool.and_false,
      Bool.false_eq_true, if_false, Cursor.peek?, List.getElem?_cons_zero, Option.any_some, notBreak,
      Nat.zero_max]

/-- A line that is not further in ends the empty lines. -/
theorem scanEmptyLines_outside (fuel : Nat) (known : List Char)
    (nextLine : ∀ c ∈ after.head?, isInk c = true) :
    scanEmptyLines (some 2) (fuel + 1) 0 known ⟨after, index, line, 0⟩ =
      .ok (0, known, ⟨after, index, line, 0⟩) := by
  cases after with
  | nil => rfl
  | cons c rest =>
      obtain ⟨notBlank, notBreak⟩ := isInk_iff.mp (nextLine c rfl)
      have notSpace : c ≠ ' ' := by
        rintro rfl
        cases notBlank
      have notTab : Cursor.isAt ⟨c :: rest, index, line, 0⟩ 0 '\t' = false :=
        Cursor.isAt_zero_of_ne (by rintro rfl; cases notBlank)
      rw [scanEmptyLines]
      simp only [takeWhile_space_of_ne notSpace, List.length_nil, Nat.zero_min, Cursor.skip, notTab,
        Bool.and_false, Bool.false_eq_true, if_false, Cursor.peek?, List.getElem?_cons_zero,
        Option.any_some, notBreak, Nat.max_zero]

end

section

variable {after : List Char} {index line : Nat} {done last empty : List Char} {blank : Bool}

/-- Where a block ends: nothing is left, or a line that is not further in. -/
theorem blockLines_outside (fuel : Nat) :
    blockLines true 2 (fuel + 1) ⟨⟨after, index, line, 0⟩, done, last, empty, blank⟩ =
      .ok ⟨⟨after, index, line, 0⟩, done, last, empty, blank⟩ := by
  cases after with
  | nil => rfl
  | cons c rest => rfl

/-- A row of a block is read up to the empty lines after it. -/
theorem blockLines_row (row : Row) (rest : List Char) (fuel : Nat)
    (printable : isPrintable row.ending = true) :
    blockLines true 2 (fuel + 1)
      ⟨⟨row.line ++ row.ending :: rest, index, line, 2⟩, done, last, empty, blank⟩ =
        scanEmptyLines (some 2) (rest.length + 1) 0 []
          ⟨rest, index + row.line.length + 1, line + 1, 0⟩ >>= fun scanned =>
            blockLines true 2 fuel
              ⟨scanned.2.2, done ++ last ++ empty ++ row.line, [row.ending], scanned.2.1,
                isBlank row.first⟩ := by
  have taken : Cursor.takeWhile (fun c => !isBreak c)
      ⟨row.line ++ row.ending :: rest, index, line, 2⟩ =
        (row.line, ⟨row.ending :: rest, index + row.line.length, line, 2 + row.line.length⟩) := by
    have whole : (row.line ++ row.ending :: rest).takeWhile (fun c => !isBreak c) = row.line := by
      rw [List.takeWhile_append_of_pos, List.takeWhile_cons_of_neg, List.append_nil]
      · rw [row.ends]
        exact Bool.false_ne_true
      · intro c member
        rw [row.noBreak c member]
        rfl
    rw [Cursor.takeWhile, whole, List.drop_left]
  have here : row.line ++ row.ending :: rest = row.first :: (row.others ++ row.ending :: rest) := rfl
  rw [blockLines]
  simp only [here]
  rw [← here, taken]
  simp only [Cursor.takeBreak_printable printable row.ends]
  rfl

namespace Row

variable (row : Row)

theorem chars_append (rest : List Char) :
    row.chars ++ rest = row.line ++ row.ending :: (row.empty ++ rest) := by
  rw [chars, List.append_assoc, List.cons_append]

private theorem ending_mem : row.ending ∈ row.chars :=
  List.mem_append_right row.line List.mem_cons_self

private theorem getLast?_line : ∃ c, row.line.getLast? = some c ∧ isBreak c = false := by
  have nonempty : row.line ≠ [] := List.cons_ne_nil row.first row.others
  exact ⟨_, List.getLast?_eq_some_getLast nonempty, row.noBreak _ (List.getLast_mem nonempty)⟩

private theorem printable_empty {row : Row} (printable : ∀ c ∈ row.chars, isPrintable c = true) :
    ∀ c ∈ row.empty, isPrintable c = true :=
  fun c member => printable c (List.mem_append_right row.line (List.mem_cons_of_mem row.ending member))

end Row

/-- A block has been read to its end: the line break after its last line and those of the empty lines
after that are set apart. -/
structure BlockReading.Complete (reading : BlockReading) (text after : List Char) (start : Nat) : Prop
    where
  rest : reading.cursor.rest = after
  column : reading.cursor.column = 0
  line : start ≤ reading.cursor.line
  whole : reading.done ++ reading.last ++ reading.empty = text
  lastLine : ∃ c, reading.done.getLast? = some c ∧ isBreak c = false
  last : ∃ c, reading.last = [c] ∧ isBreak c = true
  empty : ∀ c ∈ reading.empty, isBreak c = true

/-- The rows of a block are read one after another. -/
theorem exists_blockLines_rows (row : Row) (rows : List Row)
    (printable : ∀ c ∈ (row :: rows).flatMap Row.chars, isPrintable c = true)
    (nextLine : ∀ c ∈ after.head?, isInk c = true) {fuel : Nat} (room : rows.length + 1 < fuel)
    (index line : Nat) (done last empty : List Char) (blank : Bool) :
    ∃ final, blockLines true 2 fuel
        ⟨⟨row.chars ++ (indented rows ++ after), index, line, 2⟩, done, last, empty, blank⟩ =
          .ok final ∧
      final.Complete (done ++ last ++ empty ++ (row :: rows).flatMap Row.chars) after line := by
  induction rows generalizing row fuel index line done last empty blank with
  | nil =>
      obtain ⟨before, rfl⟩ : ∃ before, fuel = before + 2 := ⟨fuel - 2, by omega⟩
      have printableRow : ∀ c ∈ row.chars, isPrintable c = true := by
        rwa [List.flatMap_singleton] at printable
      refine ⟨⟨⟨after, index + row.line.length + 1 + row.empty.length, line + 1 + row.empty.length, 0⟩,
        done ++ last ++ empty ++ row.line, [row.ending], row.empty, isBlank row.first⟩, ?_,
        rfl, rfl, Nat.le_trans (Nat.le_succ line) (Nat.le_add_right _ _), ?_, ?_,
        ⟨row.ending, rfl, row.ends⟩, row.allBreaks⟩
      · change blockLines true 2 (before + 2)
          ⟨⟨row.chars ++ after, index, line, 2⟩, done, last, empty, blank⟩ = _
        rw [row.chars_append, blockLines_row row _ _ (printableRow _ row.ending_mem),
          scanEmptyLines_append (Row.printable_empty printableRow) row.allBreaks,
          scanEmptyLines_outside _ _ nextLine]
        exact blockLines_outside before
      · rw [List.flatMap_singleton, Row.chars]
        simp only [List.append_assoc, List.singleton_append]
      · obtain ⟨c, lastChar, notBreak⟩ := row.getLast?_line
        refine ⟨c, ?_, notBreak⟩
        rw [List.getLast?_append, lastChar]
        rfl
  | cons next rows ih =>
      obtain ⟨before, rfl⟩ : ∃ before, fuel = before + 1 := ⟨fuel - 1, by omega⟩
      have printableRow : ∀ c ∈ row.chars, isPrintable c = true :=
        fun c member => printable c (List.mem_append_left _ member)
      have printableLater : ∀ c ∈ (next :: rows).flatMap Row.chars, isPrintable c = true :=
        fun c member => printable c (List.mem_append_right _ member)
      -- the row is put behind what has been read before, and the others are read from there
      obtain ⟨final, read, complete⟩ := ih next printableLater (Nat.lt_of_succ_lt_succ room)
        (index + row.line.length + 1 + row.empty.length + 2) (line + 1 + row.empty.length)
        (done ++ last ++ empty ++ row.line) [row.ending] row.empty (isBlank row.first)
      have first : next.first ∈ (next :: rows).flatMap Row.chars :=
        List.mem_append_left _ (List.mem_append_left _ List.mem_cons_self)
      refine ⟨final, ?_, complete.rest, complete.column, ?_, ?_, complete.lastLine, complete.last,
        complete.empty⟩
      · rw [← read, indented_cons, List.append_assoc, List.append_assoc, row.chars_append,
          blockLines_row row _ _ (printableRow _ row.ending_mem),
          scanEmptyLines_append (Row.printable_empty printableRow) row.allBreaks, next.chars_append,
          Row.line, List.cons_append, scanEmptyLines_margin _ (printableLater _ first)
            (next.noBreak _ List.mem_cons_self) (Or.inl rfl)]
        rfl
      · have later := complete.line
        omega
      · have split : (row :: next :: rows).flatMap Row.chars =
            row.chars ++ (next :: rows).flatMap Row.chars := List.flatMap_cons
        rw [complete.whole, split, row.chars_append]
        simp only [List.append_assoc, List.cons_append, List.nil_append]

end

/-- What becomes of the line breaks at the end of a text. -/
def chompingOf (front : List Char) (last : Char) : Chomping :=
  if !isBreak last then .strip
  else if front.getLast?.all isBreak then .keep
  else .clip

/-- The indentation of a block, if its first line does not show it. -/
def indentationOf (text : List Char) : Option Nat :=
  if text.head?.any (fun c => c == ' ' || isBreak c) then some 2 else none

theorem scanHeader_blockHeader (front rest : List Char) (last : Char) (index line column : Nat) :
    ∃ index' column', scanHeader
      (Cursor.next ⟨blockHeader (front ++ [last]) ++ rest, index, line, column⟩) =
        .ok (chompingOf front last, indentationOf (front ++ [last]),
          ⟨'\n' :: rest, index', line, column'⟩) := by
  have reversed : (front ++ [last]).reverse = last :: front.reverse := by
    rw [List.reverse_append]
    rfl
  rw [blockHeader, reversed, chompingOf, indentationOf]
  simp only [List.head?_reverse]
  by_cases led : (front ++ [last]).head?.any (fun c => c == ' ' || isBreak c) = true
  · rw [if_pos led, if_pos led]
    split
    · exact ⟨_, _, rfl⟩
    · split
      · exact ⟨_, _, rfl⟩
      · exact ⟨_, _, rfl⟩
  · rw [if_neg led, if_neg led]
    split
    · exact ⟨_, _, rfl⟩
    · split
      · exact ⟨_, _, rfl⟩
      · exact ⟨_, _, rfl⟩

theorem blockChars_concat_feed (afterBreak : Bool) (text : List Char) :
    blockChars afterBreak (text ++ ['\n']) = blockChars afterBreak text ++ ['\n'] := by
  induction text generalizing afterBreak with
  | nil => rfl
  | cons c text ih =>
      rw [List.cons_append, blockChars, blockChars, ih, ih]
      split
      · rfl
      · rw [List.append_assoc]
        rfl

/-- What is written for a text as lines: a line break is added if there is none at its end. -/
def closedText (front : List Char) (last : Char) : List Char :=
  front ++ [last] ++ if isBreak last then [] else ['\n']

private theorem closedText_ends (front : List Char) (last : Char) :
    ∀ c ∈ (closedText front last).getLast?, isBreak c = true := by
  intro c lastChar
  rw [closedText] at lastChar
  cases isLineBreak : isBreak last with
  | true =>
      rw [isLineBreak, if_pos rfl, List.append_nil, List.getLast?_concat] at lastChar
      cases lastChar
      exact isLineBreak
  | false =>
      rw [isLineBreak, if_neg Bool.false_ne_true, List.getLast?_concat] at lastChar
      cases lastChar
      rfl

private theorem closedText_printable {front : List Char} {last : Char}
    (printable : ∀ c ∈ front ++ [last], isPrintable c = true) :
    ∀ c ∈ closedText front last, isPrintable c = true := by
  intro c member
  rcases List.mem_append.mp member with inText | added
  · exact printable c inText
  · split at added
    · cases added
    · rw [List.mem_singleton.mp added]
      rfl

/-- A block that has been read to its end gives the text, once its line breaks are treated as the
indicators say. -/
theorem BlockReading.Complete.chomped {reading : BlockReading} {front after : List Char} {last : Char}
    {start : Nat} (complete : reading.Complete (closedText front last) after start) :
    chompingOf front last = .strip ∧ reading.done = front ++ [last] ∨
      chompingOf front last = .clip ∧ reading.done ++ reading.last = front ++ [last] ∨
      chompingOf front last = .keep ∧ reading.done ++ (reading.last ++ reading.empty) = front ++ [last] := by
  obtain ⟨lastChar, lastEq, notBreak⟩ := complete.lastLine
  obtain ⟨ending, endingEq, isEnding⟩ := complete.last
  have whole := complete.whole
  rw [endingEq, List.append_assoc, List.singleton_append, closedText] at whole
  have endsWithBreak {breaks : List Char} (allBreaks : ∀ c ∈ breaks, isBreak c = true) :
      ∃ c, (reading.done ++ ending :: breaks).getLast? = some c ∧ isBreak c = true := by
    have nonempty : ending :: breaks ≠ [] := List.cons_ne_nil ending breaks
    refine ⟨(ending :: breaks).getLast nonempty, ?_, ?_⟩
    · rw [List.getLast?_append_of_ne_nil _ nonempty, List.getLast?_eq_some_getLast nonempty]
    · rcases List.mem_cons.mp (List.getLast_mem nonempty) with same | later
      · rw [same]
        exact isEnding
      · exact allBreaks _ later
  rcases List.eq_nil_or_concat' reading.empty with noEmpty | ⟨breaks, final, several⟩
  · rw [noEmpty] at whole
    cases isLineBreak : isBreak last with
    | false =>
        rw [isLineBreak] at whole
        refine Or.inl ⟨?_, (List.append_inj' whole rfl).1⟩
        rw [chompingOf, isLineBreak]
        rfl
    | true =>
        rw [isLineBreak, if_pos rfl, List.append_nil] at whole
        obtain ⟨rfl, _⟩ := List.append_inj' whole rfl
        refine Or.inr (Or.inl ⟨?_, by rw [endingEq, whole]⟩)
        rw [chompingOf, isLineBreak, lastEq, Option.all_some, notBreak]
        rfl
  · have allBreaks : ∀ c ∈ breaks, isBreak c = true :=
      fun c member => complete.empty c (several ▸ List.mem_append_left _ member)
    obtain ⟨c, lastBreak, isLast⟩ := endsWithBreak allBreaks
    have split : reading.done ++ ending :: reading.empty =
        reading.done ++ ending :: breaks ++ [final] := by
      rw [several, List.append_assoc, List.cons_append]
    rw [split] at whole
    cases isLineBreak : isBreak last with
    | false =>
        rw [isLineBreak] at whole
        rw [(List.append_inj' whole rfl).1, List.getLast?_concat] at lastBreak
        cases lastBreak
        rw [isLast] at isLineBreak
        cases isLineBreak
    | true =>
        rw [isLineBreak, if_pos rfl, List.append_nil] at whole
        refine Or.inr (Or.inr ⟨?_, ?_⟩)
        · rw [chompingOf, isLineBreak, ← (List.append_inj' whole rfl).1, lastBreak, Option.all_some,
            isLast]
          rfl
        · rw [endingEq, List.singleton_append, split, whole]

section

variable {front after : List Char} {last : Char} {index line column : Nat}

/-- The steps in which a block is read: its indicators, the empty lines at its start, and its lines. -/
theorem scanBlock_of_steps {cursor inside : Cursor} {rest empty : List Char} {widest : Nat}
    {reading : BlockReading}
    (header : scanHeader cursor.next = .ok (chompingOf front last, indentationOf (front ++ [last]),
      ⟨'\n' :: rest, index, line, column⟩))
    (emptyLines : scanEmptyLines (indentationOf (front ++ [last])) (rest.length + 1) 0 []
      ⟨rest, index + 1, line + 1, 0⟩ = .ok (widest, empty, inside))
    (indent : (indentationOf (front ++ [last])).getD (max (max widest 1) 1) = 2)
    (lines : blockLines true 2 (inside.rest.length + 1) ⟨inside, [], [], empty, false⟩ = .ok reading)
    (chomped : chompingOf front last = .strip ∧ reading.done = front ++ [last] ∨
      chompingOf front last = .clip ∧ reading.done ++ reading.last = front ++ [last] ∨
      chompingOf front last = .keep ∧
        reading.done ++ (reading.last ++ reading.empty) = front ++ [last]) :
    scanBlock true 0 cursor = .ok (String.ofList (front ++ [last]), reading.cursor) := by
  have lineEnd : scanLineEnd ⟨'\n' :: rest, index, line, column⟩ = .ok ⟨rest, index + 1, line + 1, 0⟩ :=
    rfl
  have fixed : (indentationOf (front ++ [last])).map (fun increment => (0 : Int).toNat + increment) =
      indentationOf (front ++ [last]) := by
    cases indentationOf (front ++ [last]) with
    | none => rfl
    | some increment => exact congrArg some (Nat.zero_add increment)
  have column : (indentationOf (front ++ [last])).getD (max (max widest ((0 : Int) + 1).toNat) 1) = 2 :=
    indent
  simp only [scanBlock, header, lineEnd, bind, Except.bind, fixed, emptyLines, column, lines]
  rcases chomped with ⟨strip, same⟩ | ⟨clip, same⟩ | ⟨keep, same⟩
  · rw [strip, ← same]
    exact congrArg (fun text => Except.ok (String.ofList text, reading.cursor)) (List.append_nil _)
  · rw [clip, ← same]
    rfl
  · rw [keep, ← same]
    rfl

theorem indentationOf_eq {text : List Char} {c : Char} (head : text.head? = some c) :
    indentationOf text = if c == ' ' || isBreak c then some 2 else none := by
  rw [indentationOf, head]
  rfl

private theorem head?_closedText (front : List Char) (last : Char) :
    (closedText front last).head? = (front ++ [last]).head? :=
  List.head?_append_of_ne_nil _ (List.append_ne_nil_of_right_ne_nil front (List.cons_ne_nil last []))

/-- A text of line breaks only is kept as it is. -/
theorem exists_scanBlock_breaks {breaks : List Char}
    (printable : ∀ c ∈ front ++ [last], isPrintable c = true) (same : closedText front last = breaks)
    (allBreaks : ∀ c ∈ breaks, isBreak c = true) (nextLine : ∀ c ∈ after.head?, isInk c = true) :
    ∃ index' line', line < line' ∧
      scanBlock true 0 ⟨blockHeader (front ++ [last]) ++ (breaks ++ after), index, line, column⟩ =
        .ok (String.ofList (front ++ [last]), ⟨after, index', line', 0⟩) := by
  have isLineBreak : isBreak last = true := by
    refine allBreaks last (same ▸ ?_)
    exact List.mem_append_left _ (List.mem_append_right front List.mem_cons_self)
  rw [closedText, isLineBreak, if_pos rfl, List.append_nil] at same
  subst same
  have keeps : chompingOf front last = .keep := by
    have breakBefore : front.getLast?.all isBreak = true := by
      cases before : front.getLast? with
      | none => rfl
      | some c => exact allBreaks c (List.mem_append_left _ (List.mem_of_getLast? before))
    rw [chompingOf, isLineBreak, breakBefore]
    rfl
  have indentation : indentationOf (front ++ [last]) = some 2 := by
    cases head : (front ++ [last]).head? with
    | none =>
        exact absurd (List.head?_eq_none_iff.mp head)
          (List.append_ne_nil_of_right_ne_nil front (List.cons_ne_nil last []))
    | some c =>
        rw [indentationOf_eq head, allBreaks c (List.mem_of_head? head), Bool.or_true, if_pos rfl]
  obtain ⟨index', column', header⟩ := scanHeader_blockHeader front (front ++ [last] ++ after) last
    index line column
  have emptyLines : scanEmptyLines (indentationOf (front ++ [last]))
      ((front ++ [last] ++ after).length + 1) 0 []
        ⟨front ++ [last] ++ after, index' + 1, line + 1, 0⟩ =
          .ok (0, front ++ [last], ⟨after, index' + 1 + (front ++ [last]).length,
            line + 1 + (front ++ [last]).length, 0⟩) := by
    rw [indentation, scanEmptyLines_append printable allBreaks]
    exact scanEmptyLines_outside _ _ nextLine
  have scanned := scanBlock_of_steps header emptyLines (by rw [indentation]; rfl)
    (blockLines_outside after.length) (Or.inr (Or.inr ⟨keeps, rfl⟩))
  exact ⟨_, _, Nat.lt_of_lt_of_le (Nat.lt_succ_self line) (Nat.le_add_right _ _), scanned⟩

/-- The indentation is left open only where the first line shows it. -/
theorem indentationOf_rows {breaks : List Char} {row : Row} {rows : List Row}
    (same : closedText front last = breaks ++ (row :: rows).flatMap Row.chars)
    (allBreaks : ∀ c ∈ breaks, isBreak c = true) :
    indentationOf (front ++ [last]) = some 2 ∨
      indentationOf (front ++ [last]) = none ∧ breaks = [] ∧ row.first ≠ ' ' := by
  have head := head?_closedText front last
  rw [same] at head
  cases breaks with
  | cons c breaks =>
      rw [indentationOf_eq head.symm, allBreaks c List.mem_cons_self, Bool.or_true]
      exact Or.inl rfl
  | nil =>
      rw [indentationOf_eq (head.symm.trans rfl), row.noBreak _ List.mem_cons_self, Bool.or_false]
      by_cases space : row.first = ' '
      · rw [space]
        exact Or.inl rfl
      · rw [beq_false_of_ne space]
        exact Or.inr ⟨rfl, rfl, space⟩

private theorem scanEmptyLines_rows {breaks : List Char} {row : Row} (rows : List Row)
    {indent? : Option Nat}
    (printableBreaks : ∀ c ∈ breaks, isPrintable c = true) (printable : isPrintable row.first = true)
    (allBreaks : ∀ c ∈ breaks, isBreak c = true)
    (shown : indent? = some 2 ∨ indent? = none ∧ breaks = [] ∧ row.first ≠ ' ') :
    scanEmptyLines indent? ((breaks ++ (indented (row :: rows) ++ after)).length + 1) 0 []
      ⟨breaks ++ (indented (row :: rows) ++ after), index, line, 0⟩ =
        .ok (2, breaks, ⟨row.chars ++ (indented rows ++ after), index + breaks.length + 2,
          line + breaks.length, 2⟩) := by
  have notBreak := row.noBreak row.first List.mem_cons_self
  rw [indented_cons, List.append_assoc, List.append_assoc, row.chars_append, Row.line,
    List.cons_append]
  rcases shown with rfl | ⟨rfl, rfl, notSpace⟩
  · rw [scanEmptyLines_append printableBreaks allBreaks]
    exact scanEmptyLines_margin _ printable notBreak (Or.inl rfl)
  · exact scanEmptyLines_margin _ printable notBreak (Or.inr ⟨rfl, notSpace⟩)

/-- A text with a line that is not empty is read back from its rows. -/
theorem exists_scanBlock_rows {breaks : List Char} {row : Row} {rows : List Row}
    (printable : ∀ c ∈ front ++ [last], isPrintable c = true)
    (same : closedText front last = breaks ++ (row :: rows).flatMap Row.chars)
    (allBreaks : ∀ c ∈ breaks, isBreak c = true) (nextLine : ∀ c ∈ after.head?, isInk c = true) :
    ∃ index' line', line < line' ∧
      scanBlock true 0 ⟨blockHeader (front ++ [last]) ++ (breaks ++
        (indented (row :: rows) ++ after)), index, line, column⟩ =
        .ok (String.ofList (front ++ [last]), ⟨after, index', line', 0⟩) := by
  have printableAll := closedText_printable printable
  rw [same] at printableAll
  have printableBreaks : ∀ c ∈ breaks, isPrintable c = true :=
    fun c member => printableAll c (List.mem_append_left _ member)
  have printableRows : ∀ c ∈ (row :: rows).flatMap Row.chars, isPrintable c = true :=
    fun c member => printableAll c (List.mem_append_right _ member)
  have shown := indentationOf_rows same allBreaks
  obtain ⟨index', column', header⟩ := scanHeader_blockHeader front
    (breaks ++ (indented (row :: rows) ++ after)) last index line column
  have emptyLines := @scanEmptyLines_rows after (index' + 1) (line + 1) breaks row rows _ printableBreaks
    (printableRows row.first (List.mem_append_left _ (List.mem_append_left _ List.mem_cons_self)))
    allBreaks shown
  have room : rows.length + 1 < (row.chars ++ (indented rows ++ after)).length + 1 := by
    have rowsShorter := length_le_indented rows
    have positive : 0 < row.chars.length := Nat.succ_pos _
    rw [List.length_append, List.length_append]
    omega
  obtain ⟨reading, lines, complete⟩ := exists_blockLines_rows row rows printableRows nextLine room
    (index' + 1 + breaks.length + 2) (line + 1 + breaks.length) [] [] breaks false
  rw [List.nil_append, List.nil_append, ← same] at complete
  have indent : (indentationOf (front ++ [last])).getD (max (max 2 1) 1) = 2 := by
    rcases shown with known | ⟨unknown, _⟩
    · rw [known]
      rfl
    · rw [unknown]
      rfl
  have scanned := scanBlock_of_steps header emptyLines indent lines complete.chomped
  have later : line < reading.cursor.line := by
    have reached := complete.line
    omega
  obtain ⟨⟨_, index'', line'', _⟩, done, ends, empty, blank⟩ := reading
  cases complete.rest
  cases complete.column
  exact ⟨index'', line'', later, scanned⟩

/-- A text is read back from the literal block that writes it. -/
theorem exists_scanBlock (printable : ∀ c ∈ front ++ [last], isPrintable c = true)
    (nextLine : ∀ c ∈ after.head?, isInk c = true) :
    ∃ index' line', line < line' ∧
      scanBlock true 0 ⟨blockHeader (front ++ [last]) ++ (blockChars true (closedText front last) ++
        after), index, line, column⟩ =
          .ok (String.ofList (front ++ [last]), ⟨after, index', line', 0⟩) := by
  obtain ⟨breaks, rows, same, allBreaks⟩ := exists_rows (closedText_ends front last)
  have written : blockChars true (closedText front last) = breaks ++ indented rows := by
    rw [same, blockChars_breaks allBreaks, blockChars_rows]
  rw [written, List.append_assoc]
  cases rows with
  | nil => exact exists_scanBlock_breaks printable (same.trans (List.append_nil _)) allBreaks nextLine
  | cons row rows => exact exists_scanBlock_rows printable same allBreaks nextLine

end

end ZeroError.Yaml
