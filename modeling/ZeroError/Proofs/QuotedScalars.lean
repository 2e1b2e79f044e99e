import ZeroError.Proofs.PlainScalars

/-!
Quoted scalars. Main statements: a text that is written between single quotes, where only quotes and
line breaks are changed, is read back, and so is any text between double quotes, where an escape
stands for each character that could be misread.
-/

namespace ZeroError.Yaml

/-- The words of a quoted scalar from a place on that is known to be inside of it. -/
def quotedBody (single : Bool) (wordFuel fuel : Nat) (reading : Reading) : Except Fault Reading := do
  let reading ← quotedWord single wordFuel reading
  if reading.cursor.isAt 0 (if single then '\x27' else '"') then
    return reading.take [] reading.cursor.next
  else quotedWords single fuel (quotedGap reading.cursor.rest.length reading)

/-- From a place inside of a quoted scalar its end is reached, with any fuel that suffices for the
characters that are left. -/
def Closes (single : Bool) (reading final : Reading) : Prop :=
  ∀ wordFuel fuel, reading.cursor.rest.length ≤ wordFuel → reading.cursor.rest.length ≤ fuel →
    quotedBody single wordFuel fuel reading = .ok final

theorem quotedWords_eq_body {single : Bool} {fuel : Nat} {reading : Reading}
    (notMark : reading.cursor.isDocumentMark = false) (nonempty : reading.cursor.rest ≠ []) :
    quotedWords single (fuel + 1) reading =
      quotedBody single reading.cursor.rest.length fuel reading := by
  simp only [quotedWords, notMark, List.isEmpty_eq_false_iff.mpr nonempty, quotedBody,
    Bool.false_eq_true, if_false]

section

variable {single : Bool} {c : Char} {rest : List Char} {index line column : Nat} {done : List Char}
  {gap : Gap} {final : Reading}

/-- A place from which a word goes on to another place, after at least one character, closes where
that one closes. -/
theorem closes_of_quotedWord {reading later : Reading}
    (shorter : later.cursor.rest.length < reading.cursor.rest.length)
    (word : ∀ fuel, quotedWord single (fuel + 1) reading = quotedWord single fuel later)
    (closes : Closes single later final) : Closes single reading final := by
  intro wordFuel fuel enough room
  obtain ⟨before, rfl⟩ : ∃ before, wordFuel = before + 1 := ⟨wordFuel - 1, by omega⟩
  have closed := closes before fuel (by omega) (by omega)
  rw [quotedBody, word before]
  exact closed

theorem closes_char (ink : isInk c = true) (notQuote : c ≠ if single then '\x27' else '"')
    (notEscape : single = false → c ≠ '\\')
    (closes : Closes single ⟨⟨rest, index + 1, line, column + 1⟩, done ++ gap.text ++ [c], {}⟩ final) :
    Closes single ⟨⟨c :: rest, index, line, column⟩, done, gap⟩ final := by
  refine closes_of_quotedWord (Nat.lt_succ_self rest.length) ?_ closes
  intro fuel
  obtain ⟨notBlank, notBreak⟩ := isInk_iff.mp ink
  rw [quotedWord]
  cases single with
  | true =>
      have plain : (c == '\x27') = false := beq_false_of_ne notQuote
      simp only [notBlank, notBreak, plain, Bool.or_self, Bool.false_eq_true, if_false, if_true]
      rfl
  | false =>
      have plain : (c == '"') = false := beq_false_of_ne notQuote
      have raw : (c == '\\') = false := beq_false_of_ne (notEscape rfl)
      simp only [notBlank, notBreak, plain, raw, Bool.or_self, Bool.false_eq_true, if_false]
      rfl

private theorem closes_doubled
    (closes : Closes true ⟨⟨rest, index + 2, line, column + 2⟩, done ++ gap.text ++ ['\x27'], {}⟩ final) :
    Closes true ⟨⟨'\x27' :: '\x27' :: rest, index, line, column⟩, done, gap⟩ final := by
  refine closes_of_quotedWord (Nat.lt_add_of_pos_right Nat.two_pos) ?_ closes
  intro fuel
  rfl

private theorem closes_escape {escape : Char} {more : List Char} {next : Cursor}
    (joins : isBreak escape = false)
    (scanned : scanEscape ⟨'\\' :: escape :: more, index, line, column⟩ = .ok (c, next))
    (shorter : next.rest.length ≤ more.length)
    (closes : Closes false ⟨next, done ++ gap.text ++ [c], {}⟩ final) :
    Closes false ⟨⟨'\\' :: escape :: more, index, line, column⟩, done, gap⟩ final := by
  refine closes_of_quotedWord (Nat.lt_add_right 1 (Nat.lt_succ_of_le shorter)) ?_ closes
  intro fuel
  have goesOn : ((escape :: more).head?.any isBreak) = false := joins
  rw [quotedWord]
  simp only [goesOn, scanned]
  rfl

/-- A quote that is not doubled is the end. -/
theorem closes_quote (quote : c = if single then '\x27' else '"')
    (alone : single = true → rest.head? ≠ some '\x27') :
    Closes single ⟨⟨c :: rest, index, line, column⟩, done, gap⟩
      ⟨⟨rest, index + 1, line, column + 1⟩, done ++ gap.text, {}⟩ := by
  intro wordFuel fuel enough room
  have word : quotedWord single wordFuel ⟨⟨c :: rest, index, line, column⟩, done, gap⟩ =
      .ok ⟨⟨c :: rest, index, line, column⟩, done, gap⟩ := by
    cases wordFuel with
    | zero => rfl
    | succ before =>
        cases single with
        | true =>
            subst quote
            have notDoubled : (rest.head? == some '\x27') = false := beq_false_of_ne (alone rfl)
            rw [quotedWord]
            simp only [notDoubled]
            rfl
        | false =>
            subst quote
            rfl
  rw [quotedBody, word, quote, ← List.append_nil (done ++ gap.text)]
  cases single with
  | true => rfl
  | false => rfl

private theorem quotedBody_gap {reading : Reading} (isGap : isInk c = false)
    (here : reading.cursor.rest = c :: rest) (wordFuel fuel : Nat) :
    quotedBody single wordFuel fuel reading =
      quotedWords single fuel (quotedGap rest.length reading.takeGap) := by
  obtain ⟨⟨_, index, line, column⟩, done, gap⟩ := reading
  cases here
  have gapHere := gap_of_not_isInk isGap
  have word : quotedWord single wordFuel ⟨⟨c :: rest, index, line, column⟩, done, gap⟩ =
      .ok ⟨⟨c :: rest, index, line, column⟩, done, gap⟩ := by
    cases wordFuel with
    | zero => rfl
    | succ before => simp only [quotedWord, gapHere, if_true]
  have notQuote : Cursor.isAt ⟨c :: rest, index, line, column⟩ 0 (if single then '\x27' else '"') =
      false := by
    have other : c ≠ if single then '\x27' else '"' := by
      rintro rfl
      cases single with
      | true => cases isGap
      | false => cases isGap
    exact beq_false_of_ne (fun same => other (Option.some.inj same))
  have gapTaken : quotedGap (c :: rest).length ⟨⟨c :: rest, index, line, column⟩, done, gap⟩ =
      quotedGap rest.length (Reading.takeGap ⟨⟨c :: rest, index, line, column⟩, done, gap⟩) := by
    rw [List.length_cons, quotedGap, Reading.atGap_cons, isGap]
    rfl
  rw [quotedBody, word]
  simp only [bind, Except.bind, notQuote, Bool.false_eq_true, if_false, gapTaken]

/-- A place at a gap closes where the place one character further closes. -/
theorem closes_gap {reading later : Reading} (isGap : isInk c = false)
    (here : reading.cursor.rest = c :: rest) (taken : reading.takeGap = later)
    (there : later.cursor.rest = rest) (nonempty : rest ≠ [])
    (inside : later.atGap = true ∨ later.cursor.column ≠ 0)
    (closes : Closes single later final) : Closes single reading final := by
  intro wordFuel fuel enough room
  rw [quotedBody_gap isGap here, taken]
  rw [here, List.length_cons] at enough room
  obtain ⟨d, more, rfl⟩ := List.exists_cons_of_ne_nil nonempty
  obtain ⟨⟨_, index, line, column⟩, done, gap⟩ := later
  cases there
  rw [Reading.atGap_cons] at inside
  by_cases gapThere : isInk d = false
  · have closed := closes wordFuel fuel (Nat.le_of_succ_le enough) (Nat.le_of_succ_le room)
    rw [quotedBody_gap gapThere rfl] at closed
    rw [List.length_cons, quotedGap, Reading.atGap_cons, gapThere]
    exact closed
  · have ink : isInk d = true := eq_true_of_ne_false gapThere
    have stays : quotedGap (d :: more).length ⟨⟨d :: more, index, line, column⟩, done, gap⟩ =
        ⟨⟨d :: more, index, line, column⟩, done, gap⟩ := by
      rw [List.length_cons, quotedGap, Reading.atGap_cons, ink]
      rfl
    have notFirst : column ≠ 0 := by
      rcases inside with atGap | notFirst
      · rw [ink] at atGap
        cases atGap
      · exact notFirst
    obtain ⟨before, rfl⟩ : ∃ before, fuel = before + 1 := ⟨fuel - 1, by omega⟩
    rw [stays, quotedWords_eq_body (Cursor.isDocumentMark_of_column notFirst) nonempty]
    exact closes _ before (Nat.le_refl _) (Nat.le_of_succ_le_succ room)

theorem closes_space {blanks : List Char} (nonempty : rest ≠ [])
    (closes : Closes single
      ⟨⟨rest, index + 1, line, column + 1⟩, done, ⟨blanks ++ [' '], false, [], []⟩⟩ final) :
    Closes single ⟨⟨' ' :: rest, index, line, column⟩, done, ⟨blanks, false, [], []⟩⟩ final :=
  closes_gap rfl rfl rfl rfl nonempty (Or.inr (Nat.succ_ne_zero column)) closes

/-- Blanks at the start of a line do not count. -/
theorem closes_margin {first more : List Char} (nonempty : rest ≠ [])
    (closes : Closes single
      ⟨⟨rest, index + 2, line, column + 2⟩, done, ⟨[], true, first, more⟩⟩ final) :
    Closes single ⟨⟨margin ++ rest, index, line, column⟩, done, ⟨[], true, first, more⟩⟩ final :=
  closes_gap rfl rfl rfl rfl (List.cons_ne_nil ' ' rest) (Or.inr (Nat.succ_ne_zero column))
    (closes_gap rfl rfl rfl rfl nonempty (Or.inr (Nat.succ_ne_zero (column + 1))) closes)

private theorem closes_break (printable : isPrintable c = true) (isLineBreak : isBreak c = true)
    (nextGap : ∃ d more, rest = d :: more ∧ isInk d = false)
    (closes : Closes single ⟨⟨rest, index + 1, line + 1, 0⟩, done,
      if gap.broken then { gap with more := gap.more ++ [c] } else ⟨[], true, [c], []⟩⟩ final) :
    Closes single ⟨⟨c :: rest, index, line, column⟩, done, gap⟩ final := by
  obtain ⟨d, more, rfl, gapNext⟩ := nextGap
  have notBlank : isBlank c = false := by
    rcases printable_break_cases printable isLineBreak with rfl | rfl | rfl
    · rfl
    · rfl
    · rfl
  have isGap : isInk c = false := by
    rw [isInk, isLineBreak, Bool.not_true, Bool.and_false]
  refine closes_gap isGap rfl ?_ rfl (List.cons_ne_nil d more) ?_ closes
  · simp only [Reading.takeGap, notBlank, Cursor.takeBreak_printable printable isLineBreak,
      Bool.false_eq_true, if_false]
  · rw [Reading.atGap_cons, gapNext]
    exact Or.inl rfl

end

/-- From a place inside of a quoted scalar its end is reached, on the same line or a later one. -/
def ClosesAs (single : Bool) (reading : Reading) (text after : List Char) : Prop :=
  ∃ index line column, reading.cursor.line ≤ line ∧
    Closes single reading ⟨⟨after, index, line, column⟩, text, {}⟩

theorem ClosesAs.of_later {single : Bool} {reading later : Reading} {text after : List Char}
    (closesAs : ClosesAs single later text after) (below : reading.cursor.line ≤ later.cursor.line)
    (step : ∀ final, Closes single later final → Closes single reading final) :
    ClosesAs single reading text after := by
  obtain ⟨index, line, column, atLeast, closes⟩ := closesAs
  exact ⟨index, line, column, Nat.le_trans below atLeast, step _ closes⟩

private theorem exists_gap_singleQuotedChars (text rest : List Char) :
    ∃ d more, singleQuotedChars true text ++ rest = d :: more ∧ isInk d = false := by
  cases text with
  | nil => exact ⟨' ', ' ' :: rest, rfl, rfl⟩
  | cons c text =>
      rw [singleQuotedChars]
      split
      · rename_i isLineBreak
        refine ⟨c, singleQuotedChars true text ++ rest, rfl, ?_⟩
        rw [isInk, isLineBreak, Bool.not_true, Bool.and_false]
      · exact ⟨' ', _, rfl, rfl⟩

/-- What single quotes can hold: every character is printable, a line break is one of the two
separators, and no space stands next to one. -/
structure IsSingle (text : List Char) : Prop where
  printable : ∀ c ∈ text, isPrintable c = true
  noFeed : '\n' ∉ text
  noBreakBeforeSpace : hasNeighbours isBreak (· == ' ') text = false
  noSpaceBeforeBreak : hasNeighbours (· == ' ') isBreak text = false

theorem isSingle_of_allowsSingle {text : List Char} (noFeed : '\n' ∉ text)
    (single : (Traits.of text).allowsSingle = true) : IsSingle text := by
  simp only [Traits.allowsSingle, Traits.of, Bool.not_eq_true', Bool.or_eq_false_iff] at single
  obtain ⟨⟨special, breakBeforeSpace⟩, spaceBeforeBreak⟩ := single
  exact ⟨printable_of_not_special special, noFeed, breakBeforeSpace, spaceBeforeBreak⟩

private theorem IsSingle.tail {c : Char} {text : List Char} (single : IsSingle (c :: text)) :
    IsSingle text := by
  obtain ⟨printable, noFeed, breakBeforeSpace, spaceBeforeBreak⟩ := single
  refine ⟨fun d member => printable d (List.mem_cons_of_mem c member),
    fun member => noFeed (List.mem_cons_of_mem c member), ?_, ?_⟩
  · cases text with
    | nil => rfl
    | cons d text => exact (Bool.or_eq_false_iff.mp breakBeforeSpace).2
  · cases text with
    | nil => rfl
    | cons d text => exact (Bool.or_eq_false_iff.mp spaceBeforeBreak).2

theorem append_quote_ne_nil (text after : List Char) (quote : Char) : text ++ quote :: after ≠ [] :=
  List.append_ne_nil_of_right_ne_nil text (List.cons_ne_nil quote after)

theorem Gap.text_breaks {first : Char} (notFeed : first ≠ '\n') (more : List Char) :
    Gap.text ⟨[], true, [first], more⟩ = first :: more := by
  have different : ([first] == ['\n']) = false :=
    beq_false_of_ne (fun same => notFeed (List.head_eq_of_cons_eq same))
  rw [Gap.text, if_pos rfl, foldBreaks, different]
  rfl

/-- A character between single quotes, which is doubled if it is a quote, ends a gap. -/
theorem closesAs_singleChar {c : Char} {rest text after : List Char} {line : Nat} {done : List Char}
    {gap : Gap} (ink : isInk c = true)
    (later : ∀ index column,
      ClosesAs true ⟨⟨rest, index, line, column⟩, done ++ gap.text ++ [c], {}⟩ text after)
    (index column : Nat) :
    ClosesAs true ⟨⟨(if c == '\x27' then ['\x27', '\x27'] else [c]) ++ rest, index, line, column⟩,
      done, gap⟩ text after := by
  by_cases quote : c = '\x27'
  · subst quote
    exact (later (index + 2) (column + 2)).of_later (Nat.le_refl line) (fun _ => closes_doubled)
  · rw [if_neg (fun same => quote (eq_of_beq same))]
    exact (later (index + 1) (column + 1)).of_later (Nat.le_refl line)
      (fun _ => closes_char ink quote (fun impossible => by cases impossible))

/-- From a place inside of a line a text between single quotes is read back. Blanks that have been met
there do not stand before a line break. -/
def ClosesInLine (text after : List Char) : Prop :=
  ∀ index line column done blanks, (blanks ≠ [] → ∀ c ∈ text.head?, isBreak c = false) →
    ClosesAs true ⟨⟨singleQuotedChars false text ++ '\x27' :: after, index, line, column⟩, done,
      ⟨blanks, false, [], []⟩⟩ (done ++ blanks ++ text) after

/-- From a place after a line break a text between single quotes is read back. -/
def ClosesAfterBreak (text after : List Char) : Prop :=
  ∀ index line column done first more, first ≠ '\n' → text.head? ≠ some ' ' →
    ClosesAs true ⟨⟨singleQuotedChars true text ++ '\x27' :: after, index, line, column⟩, done,
      ⟨[], true, [first], more⟩⟩ (done ++ (first :: more) ++ text) after

section

variable {c : Char} {text after : List Char}

private theorem closes_cons_of_break (single : IsSingle (c :: text))
    (isLineBreak : isBreak c = true)
    (afterBreak : ClosesAfterBreak text after) :
    ClosesInLine (c :: text) after ∧ ClosesAfterBreak (c :: text) after := by
  have printable := single.printable c List.mem_cons_self
  have notFeed : c ≠ '\n' := fun same => single.noFeed (same ▸ List.mem_cons_self)
  have noSpace : text.head? ≠ some ' ' := by
    intro space
    obtain ⟨more, rfl⟩ := List.head?_eq_some_iff.mp space
    have neighbours := (Bool.or_eq_false_iff.mp single.noBreakBeforeSpace).1
    rw [isLineBreak] at neighbours
    cases neighbours
  have written (flag : Bool) :
      singleQuotedChars flag (c :: text) = c :: singleQuotedChars true text := by
    rw [singleQuotedChars, if_pos isLineBreak]
  have nextGap := exists_gap_singleQuotedChars text ('\x27' :: after)
  constructor
  · intro index line column done blanks noBlanks
    have nothing : blanks = [] := by
      by_cases nothing : blanks = []
      · exact nothing
      · rw [noBlanks nothing c rfl] at isLineBreak
        cases isLineBreak
    subst nothing
    have closes := afterBreak (index + 1) (line + 1) 0 done c [] notFeed noSpace
    rw [List.append_assoc] at closes
    rw [written, List.append_nil]
    exact closes.of_later (Nat.le_succ line)
      (fun _ later => closes_break printable isLineBreak nextGap later)
  · intro index line column done first more firstNotFeed _
    have closes := afterBreak (index + 1) (line + 1) 0 done first (more ++ [c]) firstNotFeed noSpace
    have same : done ++ first :: (more ++ [c]) ++ text = done ++ first :: more ++ c :: text := by
      simp only [List.append_assoc, List.cons_append, List.nil_append]
    rw [same] at closes
    rw [written]
    exact closes.of_later (Nat.le_succ line)
      (fun _ later => closes_break printable isLineBreak nextGap later)

private theorem singleQuotedChars_of_not_break (noBreak : isBreak c = false) (flag : Bool)
    (rest : List Char) :
    singleQuotedChars flag (c :: text) ++ rest =
      (if flag then margin else []) ++
        ((if c == '\x27' then ['\x27', '\x27'] else [c]) ++ (singleQuotedChars false text ++ rest)) := by
  rw [singleQuotedChars, noBreak]
  simp only [Bool.false_eq_true, if_false, List.append_assoc]

/-- A character that is neither a space nor a line break ends any gap before it. -/
theorem closesAs_ink (ink : isInk c = true) (inLine : ClosesInLine text after)
    (index line column : Nat) (done : List Char) (gap : Gap) :
    ClosesAs true ⟨⟨(if c == '\x27' then ['\x27', '\x27'] else [c]) ++
      (singleQuotedChars false text ++ '\x27' :: after), index, line, column⟩, done, gap⟩
      (done ++ gap.text ++ c :: text) after := by
  apply closesAs_singleChar ink
  intro index column
  have closes := inLine index line column (done ++ gap.text ++ [c]) []
    (fun impossible => absurd rfl impossible)
  rwa [List.append_nil, List.append_assoc (done ++ gap.text), List.singleton_append] at closes

private theorem closes_cons_of_not_break (single : IsSingle (c :: text))
    (noBreak : isBreak c = false)
    (inLine : ClosesInLine text after) :
    ClosesInLine (c :: text) after ∧ ClosesAfterBreak (c :: text) after := by
  have ink (notSpace : c ≠ ' ') : isInk c = true :=
    isInk_of_printable (single.printable c List.mem_cons_self) notSpace noBreak
  constructor
  · intro index line column done blanks _
    rw [singleQuotedChars_of_not_break noBreak]
    by_cases space : c = ' '
    · subst space
      have noBreakNext : blanks ++ [' '] ≠ [] → ∀ d ∈ text.head?, isBreak d = false := by
        intro _ d head
        obtain ⟨more, rfl⟩ := List.head?_eq_some_iff.mp head
        exact (Bool.or_eq_false_iff.mp single.noSpaceBeforeBreak).1
      have closes := inLine (index + 1) line (column + 1) done (blanks ++ [' ']) noBreakNext
      rw [List.append_assoc, List.append_assoc, List.singleton_append, ← List.append_assoc] at closes
      exact closes.of_later (Nat.le_refl line)
        (fun _ later => closes_space (append_quote_ne_nil _ after _) later)
    · exact closesAs_ink (ink space) inLine index line column done ⟨blanks, false, [], []⟩
  · intro index line column done first more notFeed noSpace
    have notSpace : c ≠ ' ' := fun same => noSpace (congrArg some same)
    have closes := closesAs_ink (ink notSpace) inLine (index + 2) line (column + 2) done
      ⟨[], true, [first], more⟩
    rw [Gap.text_breaks notFeed] at closes
    rw [singleQuotedChars_of_not_break noBreak]
    refine closes.of_later (Nat.le_refl line) (fun _ later => closes_margin ?_ later)
    rw [← List.append_assoc]
    exact append_quote_ne_nil _ after _

/-- A text between single quotes is read back, from inside of a line as well as after a line break. -/
theorem closes_singleQuotedChars (single : IsSingle text) (alone : after.head? ≠ some '\x27') :
    ClosesInLine text after ∧ ClosesAfterBreak text after := by
  induction text with
  | nil =>
      constructor
      · intro index line column done blanks _
        rw [List.append_nil]
        exact ⟨_, line, _, Nat.le_refl line, closes_quote rfl (fun _ => alone)⟩
      · intro index line column done first more notFeed _
        rw [List.append_nil, ← Gap.text_breaks notFeed more]
        exact ⟨_, line, _, Nat.le_refl line,
          closes_margin (List.cons_ne_nil _ after) (closes_quote rfl (fun _ => alone))⟩
  | cons c text ih =>
      obtain ⟨inLine, afterBreak⟩ := ih single.tail
      cases isLineBreak : isBreak c with
      | true => exact closes_cons_of_break single isLineBreak afterBreak
      | false => exact closes_cons_of_not_break single isLineBreak inLine

end

private theorem hexNumber?_snoc (digits : List Char) {digit : Nat} (small : digit < 16) :
    hexNumber? (digits ++ [(Nat.digitChar digit).toUpper]) =
      (hexNumber? digits).map (fun value => value * 16 + digit) := by
  rw [hexNumber?, List.foldl_append, List.foldl_cons, List.foldl_nil]
  by_cases decimal : digit < 10
  · have known : ('0' ≤ (Nat.digitChar digit).toUpper && (Nat.digitChar digit).toUpper ≤ '9') = true ∧
        (Nat.digitChar digit).toUpper.toNat - '0'.toNat = digit := by
      clear small
      decide +revert
    rw [if_pos known.1, known.2]
    rfl
  · have known :
        ('0' ≤ (Nat.digitChar digit).toUpper && (Nat.digitChar digit).toUpper ≤ '9') = false ∧
        ('a' ≤ (Nat.digitChar digit).toUpper && (Nat.digitChar digit).toUpper ≤ 'f') = false ∧
        ('A' ≤ (Nat.digitChar digit).toUpper && (Nat.digitChar digit).toUpper ≤ 'F') = true ∧
        (Nat.digitChar digit).toUpper.toNat - 'A'.toNat + 10 = digit := by
      decide +revert
    simp only [known, Bool.false_eq_true, if_false, if_true]
    rfl

theorem hexNumber?_toDigits (value : Nat) :
    hexNumber? ((Nat.toDigits 16 value).map Char.toUpper) = some value := by
  induction value using Nat.strongRecOn with
  | ind value ih =>
      rw [Nat.toDigits_eq_if (by omega)]
      split
      · rename_i small
        have read := hexNumber?_snoc [] small
        rw [List.nil_append] at read
        rw [List.map_singleton, read]
        exact congrArg some (Nat.zero_add value)
      · rename_i large
        rw [List.map_append, List.map_singleton, hexNumber?_snoc _ (Nat.mod_lt value (by omega)),
          ih (value / 16) (by omega)]
        exact congrArg some (Nat.div_add_mod' value 16)

private theorem hexNumber?_zeros (count : Nat) (digits : List Char) :
    hexNumber? (List.replicate count '0' ++ digits) = hexNumber? digits := by
  induction count with
  | zero => rfl
  | succ count ih =>
      rw [List.replicate_succ, List.cons_append, hexNumber?, List.foldl_cons]
      exact ih

private theorem hexNumber?_paddedHex (width value : Nat) : hexNumber?
    (paddedHex width value) = some value := by
  rw [paddedHex, hexNumber?_zeros, hexNumber?_toDigits]

private theorem length_paddedHex {width value : Nat}
    (fits : (Nat.toDigits 16 value).length ≤ width) :
    (paddedHex width value).length = width := by
  rw [paddedHex, List.length_append, List.length_replicate, List.length_map]
  omega

/-- A text that is read as an escape for a character. -/
def IsEscape (written : List Char) (c : Char) : Prop :=
  ∃ mark more, written = '\\' :: mark :: more ∧ isBreak mark = false ∧
    ∀ rest index line column, scanEscape ⟨'\\' :: mark :: (more ++ rest), index, line, column⟩ =
      .ok (c, ⟨rest, index + (2 + more.length), line, column + (2 + more.length)⟩)

private theorem isEscape_letter {c letter : Char} (known : escapeLetter? c = some letter) :
    IsEscape ['\\', letter] c := by
  rw [escapeLetter?] at known
  rw [← Char.ofNat_toNat c]
  generalize c.toNat = code at known ⊢
  have read : letterEscape? letter = some (Char.ofNat code) ∧ isBreak letter = false := by
    split at known <;> cases known <;> exact ⟨rfl, rfl⟩
  refine ⟨letter, [], rfl, read.2, ?_⟩
  intro rest index line column
  simp only [scanEscape, Cursor.peek?, List.getElem?_cons_succ, List.getElem?_cons_zero, read.1]
  rfl

private theorem isEscape_hex {c mark : Char} {width : Nat} (noLetter : letterEscape? mark = none)
    (length : escapeLength? mark = some width) (joins : isBreak mark = false)
    (fits : (Nat.toDigits 16 c.toNat).length ≤ width) :
    IsEscape ('\\' :: mark :: paddedHex width c.toNat) c := by
  refine ⟨mark, paddedHex width c.toNat, rfl, joins, ?_⟩
  intro rest index line column
  have filled := length_paddedHex fits
  have digits : (paddedHex width c.toNat ++ rest).take width = paddedHex width c.toNat :=
    List.take_left' filled
  have after : (paddedHex width c.toNat ++ rest).drop width = rest := List.drop_left' filled
  have valid : c.toNat.isValidChar := c.valid
  simp only [scanEscape, Cursor.peek?, List.getElem?_cons_succ, List.getElem?_cons_zero, noLetter,
    length, List.drop_succ_cons, List.drop_zero, digits, hexNumber?_paddedHex, filled, valid, and_self,
    if_true, Char.ofNat_toNat, Cursor.skip_eq, Nat.add_comm 2 width, after]

/-- What is written for a character that needs an escape is read as an escape for it. -/
theorem isEscape_escaped (c : Char) : IsEscape (escaped c) c := by
  have fits {width : Nat} (wide : 0 < width) (bounded : c.toNat < Nat.pow 16 width) :
      (Nat.toDigits 16 c.toNat).length ≤ width :=
    (Nat.length_toDigits_le_iff (by omega) wide).mpr bounded
  rw [escaped]
  split
  · rename_i letter known
    exact isEscape_letter known
  · by_cases byte : c.toNat ≤ 0xFF
    · rw [if_pos byte]
      exact isEscape_hex rfl rfl rfl (fits (by decide) (Nat.lt_succ_of_le byte))
    · rw [if_neg byte]
      by_cases word : c.toNat ≤ 0xFFFF
      · rw [if_pos word]
        exact isEscape_hex rfl rfl rfl (fits (by decide) (Nat.lt_succ_of_le word))
      · rw [if_neg word]
        have bounded : c.toNat < 0x110000 := by
          have valid : c.toNat.isValidChar := c.valid
          unfold Nat.isValidChar at valid
          omega
        exact isEscape_hex rfl rfl rfl (fits (by decide) (Nat.lt_of_lt_of_le bounded (by decide)))

/-- Any text between double quotes is read back. -/
theorem closes_doubleQuotedChars (text after : List Char) (index line column : Nat)
    (done blanks : List Char) :
    ClosesAs false ⟨⟨text.flatMap doubleQuotedChar ++ '"' :: after, index, line, column⟩, done,
      ⟨blanks, false, [], []⟩⟩ (done ++ blanks ++ text) after := by
  induction text generalizing index column done blanks with
  | nil =>
      rw [List.append_nil]
      exact ⟨_, line, _, Nat.le_refl line, closes_quote rfl (fun impossible => by cases impossible)⟩
  | cons c text ih =>
      have next (index column : Nat) : ClosesAs false
          ⟨⟨text.flatMap doubleQuotedChar ++ '"' :: after, index, line, column⟩,
            done ++ blanks ++ [c], {}⟩ (done ++ blanks ++ c :: text) after := by
        have closes := ih index column (done ++ blanks ++ [c]) []
        rwa [List.append_nil, List.append_assoc (done ++ blanks), List.singleton_append] at closes
      rw [List.flatMap_cons, List.append_assoc, doubleQuotedChar]
      split
      · obtain ⟨mark, more, written, joins, scanned⟩ := isEscape_escaped c
        rw [written]
        refine (next _ _).of_later (Nat.le_refl line) (fun _ later =>
          closes_escape joins (scanned _ index line column) ?_ later)
        exact (List.suffix_append more _).length_le
      · rename_i raw
        simp only [Bool.or_eq_true, not_or, Bool.not_eq_true', Bool.not_eq_false, Bool.not_eq_true,
          beq_iff_eq] at raw
        obtain ⟨⟨⟨printable, notBreak⟩, notQuote⟩, notEscape⟩ := raw
        by_cases space : c = ' '
        · subst space
          have closes := ih (index + 1) (column + 1) done (blanks ++ [' '])
          rw [List.append_assoc, List.append_assoc, List.singleton_append, ← List.append_assoc]
            at closes
          exact closes.of_later (Nat.le_refl line)
            (fun _ later => closes_space (append_quote_ne_nil _ after _) later)
        · exact (next (index + 1) (column + 1)).of_later (Nat.le_refl line) (fun _ later =>
            closes_char (isInk_of_printable printable space notBreak) notQuote
              (fun _ => notEscape) later)

section

variable {text after : List Char} (index line column : Nat)

theorem scanQuoted_of_closesAs {single : Bool} {quote : Char} {rest : List Char} (nonempty : rest ≠ [])
    (closesAs : ClosesAs single ⟨⟨rest, index + 1, line, column + 1⟩, [], {}⟩ text after) :
    ∃ index' line' column', line ≤ line' ∧
      scanQuoted single ⟨quote :: rest, index, line, column⟩ =
        .ok (String.ofList text, ⟨after, index', line', column'⟩) := by
  obtain ⟨index', line', column', below, closes⟩ := closesAs
  refine ⟨index', line', column', below, ?_⟩
  have read : quotedWords single ((quote :: rest).length + 1)
      ⟨⟨rest, index + 1, line, column + 1⟩, [], {}⟩ =
        .ok ⟨⟨after, index', line', column'⟩, text, {}⟩ := by
    rw [quotedWords_eq_body (Cursor.isDocumentMark_of_column (Nat.succ_ne_zero column)) nonempty]
    exact closes _ _ (Nat.le_refl _) (Nat.le_succ _)
  rw [scanQuoted]
  change quotedWords single ((quote :: rest).length + 1)
    ⟨⟨rest, index + 1, line, column + 1⟩, [], {}⟩ >>= _ = _
  rw [read]
  rfl

theorem scanQuoted_single (single : IsSingle text) (alone : after.head? ≠ some '\x27') :
    ∃ index' line' column', line ≤ line' ∧
      scanQuoted true
        ⟨'\x27' :: (singleQuotedChars false text ++ '\x27' :: after), index, line, column⟩ =
          .ok (String.ofList text, ⟨after, index', line', column'⟩) :=
  scanQuoted_of_closesAs index line column (append_quote_ne_nil _ after _)
    ((closes_singleQuotedChars single alone).1 _ _ _ _ _ (fun impossible => absurd rfl impossible))

theorem scanQuoted_double :
    ∃ index' line' column', line ≤ line' ∧
      scanQuoted false
        ⟨'"' :: (text.flatMap doubleQuotedChar ++ '"' :: after), index, line, column⟩ =
          .ok (String.ofList text, ⟨after, index', line', column'⟩) :=
  scanQuoted_of_closesAs index line column (append_quote_ne_nil _ after _)
    (closes_doubleQuotedChars text after _ _ _ _ _)

end

end ZeroError.Yaml
