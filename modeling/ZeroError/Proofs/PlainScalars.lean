import ZeroError.Proofs.Spelling
import ZeroError.Yaml.Printer

/-!
Plain scalars. A text that is written plain has no line breaks, no blanks at its ends, and nothing in
it that looks like an indicator. Main statement: such a text is read back up to the end of its line,
or up to the colon after it.
-/

namespace ZeroError.Yaml

private theorem eq_space_of_isBlank {c : Char} (printable : isPrintable c = true)
    (blank : isBlank c = true) :
    c = ' ' := by
  rcases Bool.or_eq_true _ _ ▸ blank with space | tab
  · exact eq_of_beq space
  · rw [eq_of_beq tab] at printable
    cases printable

/-- A line break that is written as it is, and read as it is. -/
theorem printable_break_cases {c : Char} (printable : isPrintable c = true)
    (isLineBreak : isBreak c = true) : c = '\n' ∨ c = '\u2028' ∨ c = '\u2029' := by
  simp only [isBreak, Bool.or_eq_true, beq_iff_eq] at isLineBreak
  rcases isLineBreak with (((feed | carriage) | next) | line) | paragraph
  · exact Or.inl feed
  · subst carriage
    cases printable
  · subst next
    cases printable
  · exact Or.inr (Or.inl line)
  · exact Or.inr (Or.inr paragraph)

theorem isAllowed_of_isPrintable {c : Char} (printable : isPrintable c = true) :
    isAllowed c = true := by
  simp only [isPrintable, isAllowed, Bool.or_eq_true, Bool.and_eq_true, decide_eq_true_eq,
    beq_iff_eq] at printable ⊢
  rcases printable with (feed | ascii) | ⟨high, _⟩
  · exact Or.inl (Or.inl (Or.inl (Or.inl (Or.inl (Or.inr feed)))))
  · exact Or.inl (Or.inl (Or.inl (Or.inr ascii)))
  · exact Or.inl (Or.inr high)

theorem printable_of_not_special {text : List Char}
    (noSpecial : text.any (fun c => !isPrintable c) = false) : ∀ c ∈ text, isPrintable c = true := by
  intro c member
  have printable := List.any_eq_false.mp noSpecial c member
  simpa using printable

theorem Cursor.skip_eq (cursor : Cursor) (count : Nat) :
    cursor.skip count =
      { cursor with
        rest := cursor.rest.drop count
        index := cursor.index + count
        column := cursor.column + count } := by
  induction count generalizing cursor with
  | zero => rfl
  | succ count ih =>
      rw [Cursor.skip, ih, Cursor.next, List.drop_tail, Nat.add_assoc, Nat.add_assoc, Nat.add_comm 1]

theorem Cursor.takeBreak_printable {c : Char} (printable : isPrintable c = true)
    (isLineBreak : isBreak c = true) (rest : List Char) (index line column : Nat) :
    Cursor.takeBreak ⟨c :: rest, index, line, column⟩ = ([c], ⟨rest, index + 1, line + 1, 0⟩) := by
  rcases printable_break_cases printable isLineBreak with rfl | rfl | rfl
  · rfl
  · rfl
  · rfl

/-- Whether a line goes on at a character: it is neither a blank nor a line break. -/
def isInk (c : Char) : Bool :=
  !isBlank c && !isBreak c

theorem isInk_iff {c : Char} : isInk c = true ↔ isBlank c = false ∧ isBreak c = false := by
  simp only [isInk, Bool.and_eq_true, Bool.not_eq_true']

theorem gap_of_not_isInk {c : Char} (notInk : isInk c = false) : (isBlank c || isBreak c) = true := by
  rwa [isInk, Bool.and_eq_false_iff, Bool.not_eq_false', Bool.not_eq_false', ← Bool.or_eq_true]
    at notInk

theorem isInk_of_printable {c : Char} (printable : isPrintable c = true) (notSpace : c ≠ ' ')
    (notBreak : isBreak c = false) : isInk c = true := by
  refine isInk_iff.mpr ⟨?_, notBreak⟩
  rw [Bool.eq_false_iff]
  exact fun blank => notSpace (eq_space_of_isBlank printable blank)

theorem Reading.atGap_cons (c : Char) (rest : List Char) (index line column : Nat)
    (done : List Char) (gap : Gap) :
    Reading.atGap ⟨⟨c :: rest, index, line, column⟩, done, gap⟩ = !isInk c := by
  simp only [Reading.atGap, isInk, Bool.not_and, Bool.not_not]

section

variable {indent : Int} {rest : List Char} {index line column : Nat} {done blanks : List Char}

/-- The words of a plain scalar from a place on that is known to be part of it. -/
def plainBody (indent : Int) (fuel : Nat) (reading : Reading) : Except Fault Reading := do
  let reading ← plainWord false reading.cursor.rest.length reading
  if !reading.atGap then return reading
  let reading ← plainGap indent reading.cursor.rest.length reading
  if (reading.cursor.column : Int) < indent then return reading
  plainWords false indent fuel reading

theorem plainWords_eq_body {fuel : Nat} {reading : Reading}
    (notMark : reading.cursor.isDocumentMark = false) (notComment : reading.cursor.isAt 0 '#' = false) :
    plainWords false indent (fuel + 1) reading = plainBody indent fuel reading := by
  simp only [plainWords, notMark, notComment, plainBody, Bool.or_self, Bool.false_eq_true, if_false,
    Bool.not_false, Bool.true_and, decide_eq_true_eq]

/-- A character stays part of the scalar unless it is a colon before a gap. -/
theorem plainBody_cons {c : Char} (fuel : Nat) (ink : isInk c = true)
    (notColon : c = ':' → ∃ d more, rest = d :: more ∧ isInk d = true) :
    plainBody indent fuel ⟨⟨c :: rest, index, line, column⟩, done, ⟨blanks, false, [], []⟩⟩ =
      plainBody indent fuel
        ⟨⟨rest, index + 1, line, column + 1⟩, done ++ blanks ++ [c], {}⟩ := by
  have goesOn : (c == ':' && Cursor.isGapAt ⟨c :: rest, index, line, column⟩ 1) = false := by
    by_cases colon : c = ':'
    · obtain ⟨d, more, rfl, inkNext⟩ := notColon colon
      obtain ⟨notBlank, notBreak⟩ := isInk_iff.mp inkNext
      simp [Cursor.isGapAt, Cursor.peek?, notBlank, notBreak]
    · rw [beq_false_of_ne colon, Bool.false_and]
  obtain ⟨notBlank, notBreak⟩ := isInk_iff.mp ink
  have word : plainWord false (rest.length + 1)
      ⟨⟨c :: rest, index, line, column⟩, done, ⟨blanks, false, [], []⟩⟩ =
        plainWord false rest.length
          ⟨⟨rest, index + 1, line, column + 1⟩, done ++ blanks ++ [c], {}⟩ := by
    rw [plainWord]
    simp only [notBlank, notBreak, goesOn, Bool.or_self, Bool.false_eq_true, if_false, Bool.false_and]
    rfl
  unfold plainBody
  rw [List.length_cons, word]

private theorem plainBody_gap (fuel : Nat) :
    plainBody indent fuel ⟨⟨' ' :: rest, index, line, column⟩, done, ⟨blanks, false, [], []⟩⟩ =
      plainGap indent rest.length
        ⟨⟨rest, index + 1, line, column + 1⟩, done, ⟨blanks ++ [' '], false, [], []⟩⟩ >>= fun reading =>
          if (reading.cursor.column : Int) < indent then .ok reading
          else plainWords false indent fuel reading := rfl

theorem Cursor.isDocumentMark_of_column {cursor : Cursor} (inner : cursor.column ≠ 0) :
    cursor.isDocumentMark = false := by
  simp only [Cursor.isDocumentMark, Cursor.isMark, beq_false_of_ne inner, Bool.false_and, Bool.or_self]

/-- A space before another character of the scalar is kept until that is read. -/
theorem plainBody_space {c : Char} {result : Reading} (enough : Nat) (low : indent ≤ 1)
    (goesOn : c = ' ' ∨ isInk c = true ∧ c ≠ '#')
    (later : ∀ fuel, enough ≤ fuel → plainBody indent fuel
      ⟨⟨c :: rest, index + 1, line, column + 1⟩, done, ⟨blanks ++ [' '], false, [], []⟩⟩ = .ok result)
    {fuel : Nat} (bound : enough + 1 ≤ fuel) :
    plainBody indent fuel
      ⟨⟨' ' :: c :: rest, index, line, column⟩, done, ⟨blanks, false, [], []⟩⟩ = .ok result := by
  rcases goesOn with rfl | ⟨ink, notComment⟩
  · rw [← later fuel (by omega), plainBody_gap, plainBody_gap]
    rfl
  · obtain ⟨before, rfl⟩ : ∃ before, fuel = before + 1 := ⟨fuel - 1, by omega⟩
    have noGap : plainGap indent (c :: rest).length
        ⟨⟨c :: rest, index + 1, line, column + 1⟩, done, ⟨blanks ++ [' '], false, [], []⟩⟩ =
          .ok ⟨⟨c :: rest, index + 1, line, column + 1⟩, done, ⟨blanks ++ [' '], false, [], []⟩⟩ := by
      rw [List.length_cons, plainGap, Reading.atGap_cons, ink]
      rfl
    have within : ¬((column + 1 : Nat) : Int) < indent := by omega
    rw [plainBody_gap, noGap]
    change (if ((column + 1 : Nat) : Int) < indent then _ else _) = _
    rw [if_neg within, plainWords_eq_body, later before (by omega)]
    · exact Cursor.isDocumentMark_of_column (Nat.succ_ne_zero column)
    · simp only [Cursor.isAt, Cursor.peek?, List.getElem?_cons_zero, beq_eq_false_iff_ne, ne_eq,
        Option.some.injEq]
      exact notComment

theorem exists_ink_of_not_gap {text : List Char} (noGap : text.head?.all isGap = false) :
    ∃ d more, text = d :: more ∧ isInk d = true := by
  cases text with
  | nil => cases noGap
  | cons d more =>
      change isGap d = false at noGap
      rw [isGap, Bool.or_eq_false_iff, Bool.or_eq_false_iff] at noGap
      exact ⟨d, more, rfl, isInk_iff.mpr noGap.1⟩

private theorem continuesAsIndicator_eq_false {before c : Char} {text : List Char}
    (noIndicator : continuesAsIndicator (before :: c :: text) = false) :
    (c = ':' → ∃ d more, text = d :: more ∧ isInk d = true) ∧ (isGap before = true → c ≠ '#') ∧
      continuesAsIndicator (c :: text) = false := by
  rw [continuesAsIndicator, Bool.or_eq_false_iff, Bool.or_eq_false_iff] at noIndicator
  obtain ⟨⟨colon, comment⟩, later⟩ := noIndicator
  refine ⟨?_, ?_, later⟩
  · rintro rfl
    exact exists_ink_of_not_gap colon
  · rintro gap rfl
    rw [gap] at comment
    cases comment

/-- What is left of a plain scalar is read, with the blanks before it, up to its end. -/
theorem plainBody_append {before : Char} {text after : List Char} {result : Reading}
    (low : indent ≤ 1) (printable : ∀ c ∈ text, isPrintable c = true)
    (noBreak : ∀ c ∈ text, isBreak c = false)
    (noIndicator : continuesAsIndicator (before :: text) = false)
    (noGapAtEnd : text.getLast? ≠ some ' ') (nothingPending : text = [] → blanks = [])
    (ends : ∀ fuel, plainBody indent fuel ⟨⟨after, index + text.length, line, column + text.length⟩,
      done ++ blanks ++ text, {}⟩ = .ok result)
    {fuel : Nat} (bound : text.length ≤ fuel) :
    plainBody indent fuel ⟨⟨text ++ after, index, line, column⟩, done, ⟨blanks, false, [], []⟩⟩ =
      .ok result := by
  induction text generalizing before index column done blanks fuel with
  | nil =>
      cases nothingPending rfl
      have ended := ends fuel
      rwa [List.append_nil, List.append_nil] at ended
  | cons c text ih =>
      obtain ⟨noColon, noComment, noLater⟩ := continuesAsIndicator_eq_false noIndicator
      have printableLater : ∀ d ∈ text, isPrintable d = true :=
        fun d member => printable d (List.mem_cons_of_mem c member)
      have noBreakLater : ∀ d ∈ text, isBreak d = false :=
        fun d member => noBreak d (List.mem_cons_of_mem c member)
      have noGapLater : text.getLast? ≠ some ' ' := by
        intro space
        rw [List.getLast?_cons, space] at noGapAtEnd
        exact noGapAtEnd rfl
      by_cases space : c = ' '
      · subst space
        cases text with
        | nil => exact absurd rfl noGapAtEnd
        | cons d text =>
            have goesOn : d = ' ' ∨ isInk d = true ∧ d ≠ '#' := by
              by_cases again : d = ' '
              · exact Or.inl again
              · exact Or.inr ⟨isInk_of_printable (printableLater d List.mem_cons_self) again
                  (noBreakLater d List.mem_cons_self),
                  (continuesAsIndicator_eq_false noLater).2.1 rfl⟩
            refine plainBody_space (text.length + 1) low goesOn ?_ bound
            intro fuel bound
            refine ih printableLater noBreakLater noLater noGapLater
              (fun impossible => absurd impossible (List.cons_ne_nil d text)) ?_ bound
            intro fuel
            have ended := ends fuel
            simp only [List.length_cons, List.append_assoc, List.singleton_append] at ended ⊢
            rwa [Nat.add_assoc, Nat.add_comm 1, Nat.add_assoc column, Nat.add_comm 1]
      · have ink : isInk c = true :=
          isInk_of_printable (printable c List.mem_cons_self) space (noBreak c List.mem_cons_self)
        rw [List.cons_append, plainBody_cons fuel ink]
        · refine ih printableLater noBreakLater noLater noGapLater (fun _ => rfl) ?_
            (Nat.le_of_succ_le bound)
          intro fuel
          have ended := ends fuel
          simp only [List.length_cons, List.append_assoc, List.singleton_append] at ended ⊢
          rwa [Nat.add_assoc, Nat.add_comm 1, Nat.add_assoc column, Nat.add_comm 1]
        · intro colon
          obtain ⟨d, more, same, inkNext⟩ := noColon colon
          exact ⟨d, more ++ after, by rw [same]; rfl, inkNext⟩

/-- A text that can be written as it is. -/
structure IsPlain (text : List Char) : Prop where
  nonempty : text ≠ []
  printable : ∀ c ∈ text, isPrintable c = true
  noBreak : ∀ c ∈ text, isBreak c = false
  noIndicatorFirst : startsAsIndicator text = false
  noIndicatorLater : continuesAsIndicator text = false
  noGapAtStart : text.head? ≠ some ' '
  noGapAtEnd : text.getLast? ≠ some ' '

theorem isPlain_of_allowsPlain {text : List Char} (nonempty : text ≠ [])
    (plain : (Traits.of text).allowsPlain = true) : IsPlain text := by
  simp only [Traits.allowsPlain, Traits.of, Bool.not_eq_true', Bool.or_eq_false_iff] at plain
  obtain ⟨⟨⟨⟨⟨⟨⟨⟨_, first⟩, later⟩, special⟩, lineBreak⟩, leading⟩, trailing⟩, _⟩, _⟩ := plain
  refine ⟨nonempty, printable_of_not_special special, ?_, first, later, ?_, ?_⟩
  · intro c member
    exact Bool.eq_false_iff.mpr (List.any_eq_false.mp lineBreak c member)
  · intro space
    rw [space] at leading
    cases leading
  · intro space
    rw [space] at trailing
    cases trailing

namespace IsPlain

variable {text after : List Char}

/-- The first character starts a plain scalar and no indicator. -/
theorem exists_cons (plain : IsPlain text) :
    ∃ c more, text = c :: more ∧ isInk c = true ∧ c ≠ '#' ∧
      (c = ':' → ∃ d others, more = d :: others ∧ isInk d = true) := by
  obtain ⟨c, more, rfl⟩ := List.exists_cons_of_ne_nil plain.nonempty
  obtain ⟨noSpecial, noMark⟩ := Bool.or_eq_false_iff.mp plain.noIndicatorFirst
  refine ⟨c, more, rfl, ?_, ?_, ?_⟩
  · refine isInk_of_printable (plain.printable c List.mem_cons_self) ?_
      (plain.noBreak c List.mem_cons_self)
    rintro rfl
    exact plain.noGapAtStart rfl
  · rintro rfl
    cases noSpecial
  · rintro rfl
    exact exists_ink_of_not_gap noMark

theorem plainWords_append {result : Reading} (plain : IsPlain text) (low : indent ≤ 1)
    (notMark : Cursor.isDocumentMark ⟨text ++ after, index, line, column⟩ = false)
    (ends : ∀ fuel, plainBody indent fuel
      ⟨⟨after, index + text.length, line, column + text.length⟩, text, {}⟩ = .ok result) :
    plainWords false indent (text ++ after).length ⟨⟨text ++ after, index, line, column⟩, [], {}⟩ =
      .ok result := by
  obtain ⟨c, more, rfl, ink, notComment, colon⟩ := plain.exists_cons
  rw [List.cons_append, List.length_cons, plainWords_eq_body notMark, plainBody_cons _ ink]
  · refine plainBody_append low (fun d member => plain.printable d (List.mem_cons_of_mem c member))
      (fun d member => plain.noBreak d (List.mem_cons_of_mem c member)) plain.noIndicatorLater ?_
      (fun _ => rfl) ?_ ?_
    · intro space
      apply plain.noGapAtEnd
      rw [List.getLast?_cons, space]
      rfl
    · intro fuel
      have ended := ends fuel
      rw [List.length_cons, Nat.add_comm more.length, ← Nat.add_assoc, ← Nat.add_assoc] at ended
      exact ended
    · rw [List.length_append]
      exact Nat.le_add_right _ _
  · intro isColon
    obtain ⟨d, others, rfl, inkNext⟩ := colon isColon
    exact ⟨d, others ++ after, rfl, inkNext⟩
  · simp only [Cursor.isAt, Cursor.peek?, List.getElem?_cons_zero, beq_eq_false_iff_ne, ne_eq,
      Option.some.injEq]
    exact notComment

/-- A plain scalar goes to the end of its line, if the next line is not further in. -/
theorem scanPlain_line {rest : List Char} (plain : IsPlain text)
    (notMark : Cursor.isDocumentMark ⟨text ++ '\n' :: rest, index, line, column⟩ = false)
    (nextLine : ∀ c ∈ rest.head?, isInk c = true) :
    scanPlain false 1 ⟨text ++ '\n' :: rest, index, line, column⟩ =
      .ok (String.ofList text, true, ⟨rest, index + text.length + 1, line + 1, 0⟩) := by
  have ends (fuel : Nat) : plainBody 1 fuel
      ⟨⟨'\n' :: rest, index + text.length, line, column + text.length⟩, text, {}⟩ =
        .ok ⟨⟨rest, index + text.length + 1, line + 1, 0⟩, text, ⟨[], true, ['\n'], []⟩⟩ := by
    have stops : plainGap 1 rest.length
        ⟨⟨rest, index + text.length + 1, line + 1, 0⟩, text, ⟨[], true, ['\n'], []⟩⟩ =
          .ok ⟨⟨rest, index + text.length + 1, line + 1, 0⟩, text, ⟨[], true, ['\n'], []⟩⟩ := by
      cases rest with
      | nil => rfl
      | cons c rest =>
          rw [List.length_cons, plainGap, Reading.atGap_cons, nextLine c rfl]
          rfl
    change plainGap 1 rest.length
      ⟨⟨rest, index + text.length + 1, line + 1, 0⟩, text, ⟨[], true, ['\n'], []⟩⟩ >>= _ = _
    rw [stops]
    rfl
  rw [scanPlain, plainWords_append plain (Int.le_refl 1) notMark ends]
  rfl

/-- A plain scalar ends before a colon and a gap. -/
theorem scanPlain_colon {gap : Char} {rest : List Char} (plain : IsPlain text) (low : indent ≤ 1)
    (notMark : Cursor.isDocumentMark ⟨text ++ ':' :: gap :: rest, index, line, column⟩ = false)
    (isGap : isInk gap = false) :
    scanPlain false indent ⟨text ++ ':' :: gap :: rest, index, line, column⟩ =
      .ok (String.ofList text, false,
        ⟨':' :: gap :: rest, index + text.length, line, column + text.length⟩) := by
  have ends (fuel : Nat) : plainBody indent fuel
      ⟨⟨':' :: gap :: rest, index + text.length, line, column + text.length⟩, text, {}⟩ =
        .ok ⟨⟨':' :: gap :: rest, index + text.length, line, column + text.length⟩, text, {}⟩ := by
    have colon : Cursor.isGapAt
        ⟨':' :: gap :: rest, index + text.length, line, column + text.length⟩ 1 = true :=
      gap_of_not_isInk isGap
    have word : plainWord false (gap :: rest).length.succ
        ⟨⟨':' :: gap :: rest, index + text.length, line, column + text.length⟩, text, {}⟩ =
          .ok ⟨⟨':' :: gap :: rest, index + text.length, line, column + text.length⟩, text, {}⟩ := by
      rw [plainWord]
      simp only [colon]
      rfl
    unfold plainBody
    rw [List.length_cons, word]
    rfl
  rw [scanPlain, plainWords_append plain low notMark ends]
  rfl

end IsPlain

end

/-- The characters of the names and numbers in a configuration text. -/
def isNameChar (c : Char) : Bool :=
  c.isAlphanum || c == '_'

theorem ne_of_isNameChar {c other : Char} (inName : isNameChar c = true)
    (outside : isNameChar other = false) : c ≠ other := by
  rintro rfl
  rw [inName] at outside
  cases outside

private theorem isPrintable_of_isNameChar {c : Char} (inName : isNameChar c = true) :
    isPrintable c = true := by
  have ascii : ' ' ≤ c ∧ c ≤ '~' := by
    delta isNameChar Char.isAlphanum Char.isAlpha Char.isUpper Char.isLower Char.isDigit at inName
    simp only [Bool.or_eq_true, Bool.and_eq_true, decide_eq_true_eq, beq_iff_eq] at inName
    simp only [Char.le_def]
    rcases inName with ((⟨low, high⟩ | ⟨low, high⟩) | ⟨low, high⟩) | rfl
    · exact ⟨UInt32.le_trans (by decide) low, UInt32.le_trans high (by decide)⟩
    · exact ⟨UInt32.le_trans (by decide) low, UInt32.le_trans high (by decide)⟩
    · exact ⟨UInt32.le_trans (by decide) low, UInt32.le_trans high (by decide)⟩
    · decide
  simp only [isPrintable, ascii, decide_true, Bool.and_self, Bool.or_true, Bool.true_or]

private theorem startsAsIndicator_name {c : Char} (rest : List Char)
    (inName : isNameChar c = true) :
    startsAsIndicator (c :: rest) = false := by
  have noMark : (c == '?' || c == ':' || c == '-') = false := by
    rw [beq_false_of_ne (ne_of_isNameChar inName (by decide)),
      beq_false_of_ne (ne_of_isNameChar inName (by decide)),
      beq_false_of_ne (ne_of_isNameChar inName (by decide))]
    rfl
  rw [startsAsIndicator, noMark, Bool.false_and, Bool.or_false, Bool.eq_false_iff, ne_eq,
    List.contains_iff_mem]
  have noName : "#,[]\x7b\x7d&*!|>'\"%@`".toList.any isNameChar = false := by decide
  intro member
  exact List.any_eq_false.mp noName c member inName

private theorem continuesAsIndicator_name {text : List Char}
    (inName : ∀ c ∈ text, isNameChar c = true) :
    continuesAsIndicator text = false := by
  induction text with
  | nil => rfl
  | cons before text ih =>
      cases text with
      | nil => rfl
      | cons c text =>
          have here := inName c (List.mem_cons_of_mem before List.mem_cons_self)
          rw [continuesAsIndicator, beq_false_of_ne (ne_of_isNameChar here (by decide)),
            beq_false_of_ne (ne_of_isNameChar here (by decide)),
            ih (fun d member => inName d (List.mem_cons_of_mem before member))]
          rfl

theorem isPlain_of_name {text : List Char} (nonempty : text ≠ [])
    (inName : ∀ c ∈ text, isNameChar c = true) : IsPlain text := by
  have noSpace : ' ' ∉ text := by
    intro member
    cases inName ' ' member
  refine ⟨nonempty, fun c member => isPrintable_of_isNameChar (inName c member), ?_, ?_,
    continuesAsIndicator_name inName, fun space => noSpace (List.mem_of_head? space),
    fun space => noSpace (List.mem_of_getLast? space)⟩
  · intro c member
    have here := inName c member
    rw [Bool.eq_false_iff]
    intro isLineBreak
    rcases printable_break_cases (isPrintable_of_isNameChar here) isLineBreak with rfl | rfl | rfl
    · cases here
    · cases here
    · cases here
  · obtain ⟨c, more, rfl⟩ := List.exists_cons_of_ne_nil nonempty
    exact startsAsIndicator_name more (inName c List.mem_cons_self)

theorem isNameChar_of_mem_toDigits {value : Nat} {c : Char} (member : c ∈ Nat.toDigits 10 value) :
    isNameChar c = true := by
  have digit : c.isDigit = true := Nat.isDigit_of_mem_toDigits (by omega) (by omega) member
  rw [isNameChar, Char.isAlphanum, digit, Bool.or_true, Bool.true_or]

private theorem digit?_digitChar {value : Nat} (small : value < 10) :
    digit? 10 (Nat.digitChar value) = some value := by
  decide +revert

private theorem foldl_digit? (value : Nat) :
    (Nat.toDigits 10 value).foldl
      (fun (number : Option Nat) digit => do return (← number) * 10 + (← digit? 10 digit)) (some 0) =
        some value := by
  induction value using Nat.strongRecOn with
  | ind value ih =>
      rw [Nat.toDigits_eq_if (by omega)]
      split
      · rename_i small
        rw [List.foldl_cons, digit?_digitChar small]
        simp
      · rename_i large
        rw [List.foldl_append, ih (value / 10) (by omega), List.foldl_cons,
          digit?_digitChar (Nat.mod_lt value (by omega))]
        change some (value / 10 * 10 + value % 10) = some value
        rw [Nat.div_add_mod']

/-- A number is read back from its digits. -/
theorem unsigned?_toDigits {value bound : Nat} (bounded : value < bound) :
    unsigned? bound (Nat.toDigits 10 value) = some value := by
  have natural : natural? 10 (Nat.toDigits 10 value) = some value := by
    rw [natural?, foldl_digit?, if_neg]
    rw [List.isEmpty_iff]
    exact Nat.toDigits_ne_nil
  have digit {c : Char} (member : c ∈ Nat.toDigits 10 value) : c.isDigit = true :=
    Nat.isDigit_of_mem_toDigits (by omega) (by omega) member
  have noPlus : dropPlus (Nat.toDigits 10 value) = Nat.toDigits 10 value := by
    unfold dropPlus
    split
    · rename_i plus
      cases digit (plus ▸ List.mem_cons_self)
    · rfl
  have noSign : dropSign (Nat.toDigits 10 value) = Nat.toDigits 10 value := by
    unfold dropSign
    split
    · rename_i plus
      cases digit (plus ▸ List.mem_cons_self)
    · rename_i minus
      cases digit (minus ▸ List.mem_cons_self)
    · rfl
  have noBase : based? (Nat.toDigits 10 value) = none := by
    unfold based?
    split
    · rename_i mark
      cases digit (mark ▸ List.mem_cons_of_mem '0' List.mem_cons_self)
    · rename_i mark
      cases digit (mark ▸ List.mem_cons_of_mem '0' List.mem_cons_self)
    · rename_i mark
      cases digit (mark ▸ List.mem_cons_of_mem '0' List.mem_cons_self)
    · rfl
  have notPadded : isZeroPadded (Nat.toDigits 10 value) = false := by
    rw [isZeroPadded, noSign]
    split
    · rename_i zero
      by_cases positive : 0 < value
      · exact absurd (by rw [zero]; rfl) (Document.head_toDigits positive)
      · rw [Nat.eq_zero_of_not_pos positive, Nat.toDigits_zero] at zero
        cases zero
    · rfl
  simp [unsigned?, noPlus, noBase, notPadded, natural, bounded]

end ZeroError.Yaml
